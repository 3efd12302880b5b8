import NativeBridge.Proofs.Calls.Slots
import NativeBridge.Proofs.Native.Acceptance

/-!
How many slots an argument has and in which order. Native code expects a number of slots by the type of the argument,
and a converted value has that number, so that the check between the two never fails. A callback with data has its code,
its data and what lets go of the data in separate slots.
-/

namespace NativeBridge

open Eff NativeValue

variable {S : Sides}

namespace NativeValue

/-- The slots of a callback with data. The data comes first where native code is called at the end of a lifetime, and
what lets go of the data comes last. -/
def callbackSlots (kind : CallbackKind) (code data notify : Address) : List Slot :=
  (if kind = .destroy then [.pointer data, .pointer code] else [.pointer code, .pointer data]) ++
    if kind.slotCount = 3 then [.pointer notify] else []

lemma slots_trampoline (kind : CallbackKind) (code data notify : Address) :
    (trampoline code data (if kind.slotCount = 3 then some notify else none) (kind = .destroy)).slots =
      callbackSlots kind code data notify := by
  cases kind <;> rfl

end NativeValue

/-- What a converted callback leaves for native code: code of its own, or null pointers for a callback that is missing,
or the entry point of the kind with a new closure of the script function. -/
inductive CallbackPassed (s : Signature) (a : Arg) (w' : World S) : List Slot → Prop
  | code (p : Address) (hkind : s.kind = .closure) : CallbackPassed s a w' [.pointer p]
  | missing (hkind : s.kind ≠ .closure) (hnull : a.value.isNullish) (hoptional : a.optional) :
      CallbackPassed s a w' (callbackSlots s.kind 0 0 0)
  | entry {f : FunctionId} {entry : Entry} {data : Address} {generation : Nat} (hvalue : a.value = .callback (some f))
      (hentry : Entry.ofKind? s.kind = some entry)
      (hdata : (data, ⟨some f, s, 1, some generation⟩) ∈ w'.closures) :
      CallbackPassed s a w' (callbackSlots s.kind entry.address data Entry.unref.address)

variable {s : Signature} {a : Arg} {w w' : World S} {v : NativeValue}

/-- Code of its own is one pointer. -/
lemma callback_of_closure {optional : Bool} (hkind : s.kind = .closure)
    (hx : callbackToNative s a.value optional w = some (.ok v, w')) : CallbackPassed s a w' v.slots := by
  obtain ⟨pointers, hslots⟩ := callbackToNative_allPointers s a.value optional hx
  have hlength : pointers.length = 1 := by
    rw [← List.length_map (f := Slot.pointer), ← hslots, length_slots,
      Call.callbackToNative_slotCount s a.value optional hx, hkind]
    rfl
  obtain ⟨p, rfl⟩ := List.length_eq_one_iff.1 hlength
  rw [hslots]
  exact .code p hkind

lemma callback_of_function {function : Option FunctionId} (hkind : s.kind ≠ .closure)
    (hvalue : a.value = .callback function) (hx : makeCallback function s w = some (.ok v, w')) :
    CallbackPassed s a w' v.slots := by
  rcases function with _ | f
  · cases hx
  by_cases hruns : w.loopAlive w.generation ∧ ¬w.loop.stopped
  · rw [Decides.makeCallback_started hruns] at hx
    rcases hentry : Entry.ofKind? s.kind with _ | entry
    · exact absurd (Entry.ofKind?_eq_none.1 hentry) hkind
    · rw [hentry] at hx
      cases hx
      rw [slots_trampoline]
      exact .entry hvalue hentry (List.mem_append_right _ (List.mem_singleton.2 rfl))
  · rw [Decides.makeCallback_refused hruns] at hx
    cases hx

lemma callbackToNative_passes (hx : callbackToNative s a.value a.optional w = some (.ok v, w')) :
    CallbackPassed s a w' v.slots := by
  by_cases hkind : s.kind = .closure
  · exact callback_of_closure hkind hx
  unfold callbackToNative at hx
  by_cases hmissing : (a.value.isNullish && a.optional) = true
  · obtain ⟨hnull, hoptional⟩ := Bool.and_eq_true_iff.1 hmissing
    have hslots : v.slots = callbackSlots s.kind 0 0 0 := by
      rw [if_pos hmissing] at hx
      rw [← slots_trampoline]
      cases hk : s.kind with
      | closure => exact absurd hk hkind
      | _ =>
        rw [hk] at hx
        cases hx
        rfl
    rw [hslots]
    exact .missing hkind hnull hoptional
  · rw [if_neg hmissing] at hx
    cases hvalue : a.value with
    | callback function =>
      rw [hvalue] at hx
      exact callback_of_function hkind hvalue hx
    | _ =>
      rw [hvalue] at hx
      cases hx

namespace Call

variable {h : Host S}

/-- The check of the number of slots does nothing: an argument with a layout is converted, and its type is declared for
each of its slots. -/
lemma prepareArg_eq {type : AbiType} (habi : a.type.abi = .ok type) (symbol : Bytes) (index : Nat) :
    prepareArg h symbol index a = (fun v => (v, List.replicate (expectedSlots a.type) type)) <$> toNative h a := by
  funext w
  rw [map_apply]
  rcases hto : toNative h a w with _ | ⟨e | v, w'⟩
  · rw [prepareArg, bind_apply, hto]
    rfl
  · exact bind_error hto
  · have hcount : v.slotCount = expectedSlots a.type := toNative_slotCount h a hto
    rw [prepareArg, bind_ok hto]
    simp only [hcount, ne_eq, not_true_eq_false, habi]
    rfl

/-- **Arguments fill the slots that are expected of them.** Let the type of an argument be read from a document. A call
prepares the argument as it is converted, and declares its type for each slot that native code expects: the check of the
number of slots never raises its error. Whatever the value is, a converted argument has as many slots as it counts, and
as many as are expected. A callback has its code and its data in the order of its kind, and what lets go of the data
after them, also where it is missing. -/
theorem arguments_fill_expected_slots (h : Host S) {a : Arg} {j : Json} (hj : Descriptor.parse j = .ok a.type) :
    (∃ type, a.type.abi = .ok type ∧ ∀ symbol index,
      prepareArg h symbol index a = (fun v => (v, List.replicate (expectedSlots a.type) type)) <$> toNative h a) ∧
    ∀ w v w', toNative h a w = some (.ok v, w') →
      v.slots.length = v.slotCount ∧ v.slotCount = expectedSlots a.type ∧
      ∀ kind scope args result source outcome, a.type = .callback kind scope args result source outcome →
        v.slotCount = kind.slotCount ∧
          CallbackPassed { kind, scope, args, result, source, outcome } a w' v.slots := by
  obtain ⟨type, habi⟩ := (Descriptor.parse_eq_ok_iff.1 hj).hasLayout
  refine ⟨⟨type, habi, prepareArg_eq habi⟩, fun w v w' hx => ?_⟩
  have hcount : v.slotCount = expectedSlots a.type := toNative_slotCount h a hx
  refine ⟨length_slots v, hcount, fun kind scope args result source outcome htype => ?_⟩
  rw [htype] at hcount
  rw [toNative, htype] at hx
  exact ⟨hcount, callbackToNative_passes hx⟩

/-- A script function that is told of the end of a lifetime. -/
def endOfLife : Arg := { type := .callback .destroy .forever none none none none, value := .callback (some 1) }

/-- Its closure comes before the entry point, and nothing comes after them. -/
theorem closure_before_destroy :
    ∃ v w', toNative returningHost endOfLife equippedWorld = some (.ok v, w') ∧ v.slotCount = 2 ∧
      CallbackPassed ⟨.destroy, .forever, none, none, none, none⟩ endOfLife w' v.slots ∧
      ∃ data, v.slots = [.pointer data, .pointer Entry.destroy.address] := by
  have hread :
      Descriptor.parse (.obj [("trampoline", .str "destroy"), ("type", .str "callback")]) = .ok endOfLife.type :=
    Descriptor.parse_of_denotes (.callback rfl (.given CallbackKind.destroy) .absent .absent .absent .absent .absent)
  have hx : ∃ v w', toNative returningHost endOfLife equippedWorld = some (.ok v, w') ∧
      ∃ data, v.slots = [.pointer data, .pointer Entry.destroy.address] := ⟨_, _, rfl, _, rfl⟩
  obtain ⟨v, w', hx, hslots⟩ := hx
  obtain ⟨-, hconverted⟩ := arguments_fill_expected_slots returningHost hread
  obtain ⟨-, -, hcallback⟩ := hconverted _ v w' hx
  obtain ⟨hcount, hpassed⟩ := hcallback _ _ _ _ _ _ rfl
  exact ⟨v, w', hx, hcount, hpassed, hslots⟩

end Call

end NativeBridge
