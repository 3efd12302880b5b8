import Mathlib.Data.List.Forall2
import Mathlib.Tactic.Push
import NativeBridge.Proofs.Answers.Buffer
import NativeBridge.Proofs.Calls.Readback
import NativeBridge.Proofs.Native.Strings
import NativeBridge.Proofs.Unwinding.Arguments

/-!
The slots of the arguments of a call beside the types that the call interface declares for them. The types follow the
descriptors and the slots the converted values. They agree but for arguments of the type undefined, which are null
pointers and are declared as nothing at all, so that native code finds the next argument in their place.
-/

namespace NativeBridge

open Eff

variable {S : Sides}

namespace NativeValue

/-- What is stored in a slot is of the type that is declared for it. -/
inductive Slot.Fits : AbiType → Slot → Prop
  | int (k : IntKind) (n : ℤ) : Fits (.int k) (.scalar (.int k n))
  | float (x : Single) : Fits .float (.scalar (.single x))
  | double (x : Double) : Fits .double (.scalar (.double x))
  | pointer (p : Address) : Fits .pointer (.pointer p)

/-- The slot of an argument is declared with its own type, or is a null pointer and declared as nothing. -/
def Slot.Passes (type : AbiType) (slot : Slot) : Prop := slot.Fits type ∨ type = .void ∧ slot = .pointer 0

lemma Slot.Passes.fits_iff {types : List AbiType} {slots : List Slot} (hp : List.Forall₂ Slot.Passes types slots) :
    List.Forall₂ Slot.Fits types slots ↔ .void ∉ types := by
  induction hp with
  | nil => simp
  | @cons type slot _ _ hpass _ ih =>
    have hhead : slot.Fits type ↔ type ≠ .void := by
      constructor
      · rintro ⟨⟩ <;> simp
      · exact fun hne => hpass.resolve_right fun h => hne h.1
    simp [hhead, ih, eq_comm]

/-- All slots of a value are pointers. -/
def AllPointers (v : NativeValue) : Prop := ∃ pointers : List Address, v.slots = pointers.map .pointer

lemma length_slots (v : NativeValue) : v.slots.length = v.slotCount := by
  cases v with
  | trampoline code data destroy dataFirst => cases destroy <;> cases dataFirst <;> rfl
  | _ => rfl

lemma Points.allPointers {v : NativeValue} (hv : v.Points) : v.AllPointers := by
  cases v with
  | raw p | owned p => exact ⟨[p], rfl⟩
  | _ => exact hv.elim

lemma allPointers_trampoline (code data : Address) (destroy : Option Address) (dataFirst : Bool) :
    (trampoline code data destroy dataFirst).AllPointers := by
  refine ⟨(if dataFirst then [data, code] else [code, data]) ++ destroy.toList, ?_⟩
  cases destroy <;> cases dataFirst <;> rfl

lemma AllPointers.fits {v : NativeValue} (hv : v.AllPointers) :
    List.Forall₂ Slot.Fits (List.replicate v.slotCount .pointer) v.slots := by
  obtain ⟨pointers, hslots⟩ := hv
  rw [← v.length_slots, hslots]
  clear hslots
  induction pointers with
  | nil => exact .nil
  | cons p rest ih => exact .cons (.pointer p) ih

/-- What answers a return type fits the type as an argument, too. -/
lemma Answer.fits {type : Descriptor} {v : NativeValue} (ha : Answer type v) {abi : AbiType}
    (habi : type.abi = .ok abi) : List.Forall₂ Slot.Fits [abi] v.slots := by
  cases ha with
  | int hsize signed =>
    rw [Descriptor.abi, hsize] at habi
    cases habi
    exact .cons (.int _ _) .nil
  | single x =>
    cases habi
    exact .cons (.float x) .nil
  | double hsize x =>
    rw [Descriptor.abi, if_neg hsize] at habi
    cases habi
    exact .cons (.double x) .nil
  | boolean b =>
    cases habi
    exact .cons (.int _ _) .nil
  | pointer htype p =>
    have hpointer : type.abi = .ok .pointer := by
      rcases htype with rfl | hobject
      · rfl
      · cases type with
        | object | boxed | variant => rfl
        | _ => cases hobject
    rw [hpointer] at habi
    cases habi
    exact .cons (.pointer p) .nil

end NativeValue

open NativeValue

lemma makeCallback_allPointers (function : Option FunctionId) (s : Signature) :
    Gives AllPointers (makeCallback function s : Eff S NativeValue) := by
  unfold makeCallback
  refine .bind fun w => .guard (.guard (.bind fun closure => ?_))
  cases Entry.ofKind? s.kind with
  | none => exact .bind fun thunk => .ite (.bind fun _ => .bind fun _ => .pure ⟨[thunk], rfl⟩) (.pure ⟨[thunk], rfl⟩)
  | some entry => exact .pure (allPointers_trampoline ..)

lemma callbackToNative_allPointers (s : Signature) (v : Value) (optional : Bool) :
    Gives AllPointers (callbackToNative s v optional : Eff S NativeValue) := by
  refine .ite ?_ (.bind fun f => makeCallback_allPointers f s)
  cases s.kind with
  | closure => exact .pure ⟨[0], rfl⟩
  | _ => exact .pure (allPointers_trampoline ..)

namespace Call

variable {h : Host S} {symbol : Bytes} {index : Nat} {a : Arg} {w w' : World S}

/-! ### One argument -/

/-- The type of an argument that is not undefined is declared for each of its slots. -/
lemma toNative_fits {v : NativeValue} {type : AbiType} (hx : toNative h a w = some (.ok v, w'))
    (habi : a.type.abi = .ok type) (hdefined : a.type ≠ .undefined) :
    List.Forall₂ Slot.Fits (List.replicate (expectedSlots a.type) type) v.slots := by
  have hcount : v.slotCount = expectedSlots a.type := toNative_slotCount h a hx
  have pointers (hpointer : a.type.abi = .ok .pointer) (hv : v.AllPointers) :
      List.Forall₂ Slot.Fits (List.replicate (expectedSlots a.type) type) v.slots := by
    rw [hpointer] at habi
    cases habi
    exact hcount ▸ hv.fits
  obtain ⟨declared, x, optional⟩ := a
  dsimp only at habi hdefined pointers ⊢
  cases declared with
  | undefined => exact absurd rfl hdefined
  | int | float | boolean | null | object | boxed | variant =>
    exact (toNative_answer h rfl hdefined x optional hx).fits habi
  | string => exact pointers rfl (Points.stringToNative x hx).allPointers
  | array item kind => exact pointers rfl (Points.arrayToNative item kind x hx).allPointers
  | ref inner => exact pointers rfl (Points.refToNative inner x hx).allPointers
  | callback => exact pointers rfl (callbackToNative_allPointers _ x optional hx)

lemma expectedSlots_pos (type : Descriptor) : expectedSlots type ≠ 0 := by
  cases type with
  | callback kind => cases kind <;> exact Nat.succ_ne_zero _
  | _ => exact one_ne_zero

lemma abi_eq_void_iff {type : Descriptor} {abi : AbiType} (habi : type.abi = .ok abi) :
    abi = .void ↔ type = .undefined := by
  cases type with
  | int size signed =>
    rcases hw : Width.ofBits? size with _ | w <;> rw [Descriptor.abi, hw] at habi <;> cases habi
    simp
  | float size =>
    cases habi
    split <;> simp
  | _ =>
    cases habi
    simp [AbiType.truth]

lemma prepareArg_passes {v : NativeValue} {types : List AbiType}
    (hx : prepareArg h symbol index a w = some (.ok (v, types), w')) :
    List.Forall₂ Slot.Passes types v.slots ∧ (.void ∈ types ↔ a.type = .undefined) := by
  rcases prepareArg_cases hx with ⟨e, he, -⟩ | ⟨v, type, hok, habi, hto⟩ | ⟨v, w₁, e, -, -, hrelease⟩
  · cases he
  · cases hok
    rw [List.mem_replicate, and_iff_right (expectedSlots_pos a.type), eq_comm, abi_eq_void_iff habi]
    refine ⟨?_, Iff.rfl⟩
    by_cases hdefined : a.type = .undefined
    · obtain ⟨declared, x, optional⟩ := a
      dsimp only at hdefined
      subst hdefined
      cases habi
      cases hto
      exact .cons (.inr ⟨rfl, rfl⟩) .nil
    · exact (toNative_fits hto habi hdefined).imp fun _ _ => .inl
  · rcases bind_eq_some.1 hrelease with ⟨_, w₂, -, hthrow⟩ | ⟨e', -, he⟩
    · cases hthrow
    · cases he

/-! ### All arguments -/

lemma prepareArgs_passes {args : List Arg} {done values : List NativeValue} {types types' : List AbiType}
    (hx : prepareArgs h symbol index done types args w = some (.ok (values, types'), w')) :
    ∃ more declared, values = done ++ more ∧ types' = types ++ declared ∧
      List.Forall₂ Slot.Passes declared (more.flatMap slots) ∧
      (.void ∈ declared ↔ ∃ a ∈ args, a.type = .undefined) := by
  induction args generalizing index done types w with
  | nil =>
    cases hx
    exact ⟨[], [], by simp, by simp, .nil, by simp⟩
  | cons a rest ih =>
    obtain ⟨r, w₁, ha, hrest⟩ := attempt_bind_eq_some.1 hx
    rcases r with e | ⟨v, declared⟩
    · rcases bind_eq_some.1 hrest with ⟨_, w₂, -, hthrow⟩ | ⟨e', -, he⟩
      · cases hthrow
      · cases he
    · obtain ⟨hpass, hvoid⟩ := prepareArg_passes ha
      obtain ⟨more, declared', rfl, rfl, hpass', hvoid'⟩ := ih hrest
      refine ⟨v :: more, declared ++ declared', by simp, by simp, ?_, ?_⟩
      · rw [List.flatMap_cons]
        exact List.rel_append hpass hpass'
      · simp [hvoid, hvoid']

/-- **Slots and types go together.** The call interface gets one type for each slot, and every slot is of the type
declared for it but for the null pointer of an argument of the type undefined, which is declared as nothing. So all
slots are of their types exactly if no argument has that type. -/
theorem slots_pass_declared_types {c : Call} {result : Descriptor} {p : PreparedCall}
    (hx : prepare h c result w = some (.ok p, w')) :
    p.types.length = (p.values.flatMap slots).length ∧
      List.Forall₂ Slot.Passes p.types (p.values.flatMap slots) ∧
      (.void ∈ p.types ↔ ∃ a ∈ c.args, a.type = .undefined) ∧
      (List.Forall₂ Slot.Fits p.types (p.values.flatMap slots) ↔ ∀ a ∈ c.args, a.type ≠ .undefined) := by
  obtain ⟨-, -, w₁, -, hargs⟩ := prepare_ok hx
  obtain ⟨values, types, hvalues, htypes, hpass, hvoid⟩ := prepareArgs_passes hargs
  rw [List.nil_append] at hvalues htypes
  subst hvalues htypes
  refine ⟨hpass.length_eq, hpass, hvoid, (Slot.Passes.fits_iff hpass).trans ?_⟩
  rw [hvoid]
  push Not
  rfl

/-! ### Sums -/

/-- A function that adds up the first two integers that it is given. -/
def addingHost : Host ⟨Unit, Unit, Unit, Unit⟩ :=
  { emptyHost with
    loader := .ok
    symbol := fun _ _ => .ok 1
    run := fun _ _ words => pure { int := words.ints.getD 0 0 + words.ints.getD 1 0 } }

/-- The sum of an integer of each sign, with a callback between them that is missing. -/
def sumAroundCallback : Call where
  library := [97]
  symbol := [98]
  args :=
    [{ type := .int 8 true, value := .number (.ofInt (-5)) },
      { type := .callback .sourceFunc .call none none none none, value := .null, optional := true },
      { type := .int 64 false, value := .number (.ofInt 12) }]

/-- Five slots, each of its type: the callback has three. -/
theorem slots_around_callback :
    ∃ p w', prepare addingHost sumAroundCallback (.int 32 true) bareWorld = some (.ok p, w') ∧
      p.types = [.int ⟨.w8, true⟩, .pointer, .pointer, .pointer, .int ⟨.w64, false⟩] ∧
      List.Forall₂ Slot.Fits p.types (p.values.flatMap slots) := by
  have hprepare : ∃ p w', prepare addingHost sumAroundCallback (.int 32 true) bareWorld = some (.ok p, w') ∧
      p.types = [.int ⟨.w8, true⟩, .pointer, .pointer, .pointer, .int ⟨.w64, false⟩] :=
    ⟨_, _, rfl, by decide⟩
  obtain ⟨p, w', hx, htypes⟩ := hprepare
  obtain ⟨-, -, -, hfit⟩ := slots_pass_declared_types hx
  exact ⟨p, w', hx, htypes, hfit.2 (by simp [sumAroundCallback])⟩

/-- The sum of two numbers behind an argument of the type undefined. -/
def sumBehindUndefined : Call where
  library := [97]
  symbol := [98]
  args :=
    [{ type := .undefined, value := .null }, { type := .int 32 true, value := .number (.ofInt 3) },
      { type := .int 32 true, value := .number (.ofInt 4) }]

/-- **An argument of the type undefined has a slot and no type.** Its null pointer is not passed, and native code is
given the two numbers as its first arguments, whose sum it returns. -/
theorem undefined_argument_is_not_passed :
    (∃ p w', prepare addingHost sumBehindUndefined (.int 32 true) bareWorld = some (.ok p, w') ∧
      p.types = [.void, .int ⟨.w32, true⟩, .int ⟨.w32, true⟩] ∧
      (p.values.flatMap slots).head? = some (.pointer 0) ∧
      (addingHost.convention.pass p.types (p.values.flatMap slots)).ints = [3, 4]) ∧
    (invoke addingHost sumBehindUndefined (.int 32 true) bareWorld).map (fun q => q.1.toOption.map Outcome.value) =
      some (some (.number (.ofInt 7))) := by
  refine ⟨⟨_, _, rfl, by decide, by decide, ?_⟩, ?_⟩
  · decide +kernel
  · rfl

end Call

end NativeBridge
