import Mathlib
import NativeBridge.Proofs.Calls.Readback
import NativeBridge.Proofs.Ownership.Pointers

/-!
What a call that returns takes up: its result, and what native code left in the slots of references. A slot is left
alone where the cell of its reference has come to hold an object.
-/

namespace NativeBridge

open Eff

variable {S : Sides}

/-! ### Results and slots -/

/-- How the result of a call is taken up. -/
inductive ResultEnters (h : Host S) (l : Lifecycle) (log : S.Native → CallLog) (w : World S) (v : NativeValue)
    (type : Descriptor) : Value → Uptake → Prop where
  | nothing (nothing : type = .null ∨ type = .undefined) : ResultEnters h l log w v type type.absent {}
  | scalar {s : Scalar} (plain : type.isScalar) (scalar : v = .scalar s) :
      ResultEnters h l log w v type (s.toValue type) {}
  | pointer {p : Address} {x : Value} {e : Uptake} (pointer : v.pointer? = some p)
      (enters : PointerEnters h l log w p type type.isTransferred x e) : ResultEnters h l log w v type x e

/-- How what lies in the slot of a reference is taken up. -/
inductive SlotEnters (h : Host S) (l : Lifecycle) (log : S.Native → CallLog) (w : World S) (p : Address)
    (storage : Storage) (inner : Descriptor) : Value → Uptake → Prop where
  | scalar {x : Value} (scalar : readScalar (w.heap.load p 8) inner = .ok x) : SlotEnters h l log w p storage inner x {}
  /-- a string that is still the one that the bridge put there is copied, and stays the bridge's -/
  | kept {borrowed : Bool} {block : Address} {held : List Address} (string : inner = .string borrowed)
      (kept : storage = .slot block held (some (w.heap.loadWord p)))
      (own : w.heap.loadWord p ∈ held ∨ w.heap.loadWord p = 0) :
      SlotEnters h l log w p storage inner (stringAt w (w.heap.loadWord p)) {}
  | string {borrowed : Bool} {x : Value} {e : Uptake} (string : inner = .string borrowed)
      (written : ∀ block held, storage ≠ .slot block held (some (w.heap.loadWord p)))
      (enters : PointerEnters h l log w (w.heap.loadWord p) inner inner.isTransferred x e) :
      SlotEnters h l log w p storage inner x e
  | object {x : Value} {e : Uptake} (object : inner.isObjectLike)
      (enters : PointerEnters h l log w (w.heap.loadWord p) inner inner.isTransferred x e) :
      SlotEnters h l log w p storage inner x e

/-- How an argument is taken up once native code has returned, and the update that it gives. -/
inductive ArgumentEnters (h : Host S) (l : Lifecycle) (log : S.Native → CallLog) (held : CellId → Prop) (w : World S) :
    Arg × NativeValue → Option (CellId × Value) → Uptake → Prop where
  /-- only references are read back -/
  | value {a : Arg} {v : NativeValue} (value : ∀ inner cell, ¬(a.type = .ref inner ∧ a.value = .ref cell)) :
      ArgumentEnters h l log held w (a, v) none {}
  /-- the cell holds an object when native code has returned: whatever lies in a slot is left there -/
  | left {a : Arg} {v : NativeValue} {inner : Descriptor} {cell : CellId} (type : a.type = .ref inner)
      (value : a.value = .ref cell) (object : inner.isObjectLike) (occupied : held cell) :
      ArgumentEnters h l log held w (a, v) none {}
  | slot {a : Arg} {p : Address} {storage : Storage} {inner : Descriptor} {cell : CellId} {x : Value} {e : Uptake}
      (type : a.type = .ref inner) (value : a.value = .ref cell) (read : ¬(inner.isObjectLike ∧ held cell))
      (enters : SlotEnters h l log w p storage inner x e) :
      ArgumentEnters h l log held w (a, .owned p storage) (some (cell, x)) e
  /-- native code was given no slot -/
  | direct {a : Arg} {v : NativeValue} {inner : Descriptor} {cell : CellId} (type : a.type = .ref inner)
      (value : a.value = .ref cell) (read : ¬(inner.isObjectLike ∧ held cell))
      (direct : ∀ p storage, v ≠ .owned p storage) :
      ArgumentEnters h l log held w (a, v) (some (cell, .null)) {}

/-- What lies in a slot at first is a string of the value's own, or null. -/
def Storage.KeepsOwn (storage : Storage) : Prop :=
  ∀ block held initial, storage = .slot block held (some initial) → initial ∈ held ∨ initial = 0

/-- The value has no slot, or one in which lies what is its own. -/
def NativeValue.KeepsOwn (v : NativeValue) : Prop := ∀ p storage, v = .owned p storage → storage.KeepsOwn

lemma stringToNative_gives (x : Value) :
    Gives (fun v => v = .raw 0 ∨ ∃ p, v = .owned p (.blocks [p])) (stringToNative x : Eff S NativeValue) :=
  .ite (.pure (.inl rfl)) (.bind fun _ => .guard (.bind fun p => .pure (.inr ⟨p, rfl⟩)))

/-- What lies in a slot at first is a null pointer, or a string that the value of the argument owns. -/
lemma refToNative_keepsOwn (inner : Descriptor) (x : Value) :
    Gives NativeValue.KeepsOwn (refToNative inner x : Eff S NativeValue) := by
  have raw (p : Address) : NativeValue.KeepsOwn (.raw p) := fun _ _ h => by cases h
  have slot (content : Bytes) (held : List Address) (initial : Option Address)
      (hi : ∀ p, initial = some p → p ∈ held ∨ p = 0) :
      Gives NativeValue.KeepsOwn (makeSlot content held initial : Eff S NativeValue) := by
    refine .bind fun p => .pure fun q storage h block held' initial' hs => ?_
    cases h
    cases hs
    exact hi _ rfl
  have plain (content : Bytes) : Gives NativeValue.KeepsOwn (makeSlot content [] none : Eff S NativeValue) :=
    slot _ _ _ fun _ h => by cases h
  have scalar (type : Descriptor) (x : Value) : Gives NativeValue.KeepsOwn (scalarSlot type x : Eff S NativeValue) := by
    unfold scalarSlot
    split
    · exact .ite (.bind fun _ => .bind fun _ => plain _) (.bind fun _ => .bind fun _ => plain _)
    · exact .bind fun _ => plain _
    · exact .bind fun _ => plain _
  unfold refToNative
  refine .ite (.pure (raw 0)) (.bind fun w => .bind fun cell => ?_)
  dsimp only
  split
  iterate 3
    split
    · exact .bind fun p => .pure (raw p)
    · exact slot _ _ _ (by simp)
    · exact slot _ _ _ (by simp)
    · exact .throw _
  iterate 3 exact scalar _ _
  · intro u v u' hx
    obtain ⟨s, u₁, hs, hx⟩ := bind_eq_ok.1 hx
    rcases stringToNative_gives _ hs with rfl | ⟨p, rfl⟩
    · exact slot _ [] (some 0) (by simp) hx
    · exact slot _ [p] (some p) (by simp) hx
  · exact .throw _

section

variable {h : Host S} {l : Lifecycle} {log : S.Native → CallLog} {type inner : Descriptor} {x : Value} {e : Uptake}
  {w w' : World S} {v : NativeValue}

lemma ResultEnters.balanced (he : ResultEnters h l log w v type x e) : e.Balanced := by
  cases he with
  | pointer _ enters => exact enters.balanced
  | _ => exact Uptake.balanced_nothing

lemma SlotEnters.balanced {p : Address} {storage : Storage} (he : SlotEnters h l log w p storage inner x e) :
    e.Balanced := by
  cases he with
  | string _ _ enters | object _ enters => exact enters.balanced
  | _ => exact Uptake.balanced_nothing

lemma ArgumentEnters.balanced {held : CellId → Prop} {a : Arg × NativeValue} {update : Option (CellId × Value)}
    (he : ArgumentEnters h l log held w a update e) : e.Balanced := by
  cases he with
  | slot _ _ _ enters => exact enters.balanced
  | _ => exact Uptake.balanced_nothing

lemma loadWord_apply (w : World S) (p : Address) : Memory.loadWord p w = some (.ok (w.heap.loadWord p), w) := rfl

variable (hn : ∀ a call words, NativeCode call (h.run a call words)) (hl : l.Logs h log)

include hn hl

lemma readRef_enters {p : Address} {storage : Storage} (hw : w.lifecycle? = some l) (hs : storage.KeepsOwn)
    (hx : readRef h p storage inner w = some (.ok x, w')) :
    ∃ e, SlotEnters h l log w p storage inner x e ∧ Gains l log e w w' := by
  have pointer (hx : fromPointer h (w.heap.loadWord p) inner inner.isTransferred w = some (.ok x, w')) :
      ∃ e, PointerEnters h l log w (w.heap.loadWord p) inner inner.isTransferred x e ∧ Gains l log e w w' :=
    fromPointer_enters hn hl hw hx
  have scalar (hx : (do Eff.ofExcept (readScalar (← Memory.load p 8) inner) : Eff S Value) w = some (.ok x, w')) :
      ∃ e, SlotEnters h l log w p storage inner x e ∧ Gains l log e w w' := by
    obtain ⟨bytes, v, hload, hx⟩ := bind_eq_ok.1 hx
    cases hload
    rw [ofExcept_apply] at hx
    obtain ⟨hread, rfl⟩ := Prod.mk.inj (Option.some.inj hx)
    exact ⟨{}, .scalar hread, .nothing _⟩
  cases inner with
  | object | boxed | variant =>
    simp only [readRef] at hx
    rw [bind_ok (loadWord_apply w p)] at hx
    obtain ⟨e, he, hg⟩ := pointer hx
    exact ⟨e, .object rfl he, hg⟩
  | string borrowed =>
    simp only [readRef] at hx
    rw [bind_ok (loadWord_apply w p)] at hx
    have written (hs : ∀ block held, storage ≠ .slot block held (some (w.heap.loadWord p)))
        (hx : fromPointer h (w.heap.loadWord p) (.string borrowed) (!borrowed) w = some (.ok x, w')) :
        ∃ e, SlotEnters h l log w p storage (.string borrowed) x e ∧ Gains l log e w w' := by
      obtain ⟨e, he, hg⟩ := pointer hx
      exact ⟨e, .string rfl hs he, hg⟩
    split at hx
    · next block held initial =>
      split at hx
      · next hkept =>
        rw [copyString_apply] at hx
        cases hx
        exact ⟨{}, .kept rfl (by rw [hkept]) (hkept ▸ hs block held initial rfl), .nothing _⟩
      · next hkept => exact written (fun _ _ h => hkept (by injection h with _ _ h; exact Option.some.inj h)) hx
    · next hslot => exact written (fun block held => hslot block held _) hx
  | _ => exact scalar hx

lemma fromNative_enters (hw : w.lifecycle? = some l) (ht : ∀ inner, type ≠ .ref inner)
    (hx : fromNative h v type w = some (.ok x, w')) :
    ∃ e, ResultEnters h l log w v type x e ∧ Gains l log e w w' := by
  cases type with
  | null =>
    cases hx
    exact ⟨{}, .nothing (.inl rfl), .nothing _⟩
  | undefined =>
    cases hx
    exact ⟨{}, .nothing (.inr rfl), .nothing _⟩
  | int | float | boolean =>
    cases v with
    | scalar s =>
      cases hx
      exact ⟨{}, .scalar rfl rfl, .nothing _⟩
    | _ => cases hx
  | ref inner => exact absurd rfl (ht inner)
  | _ =>
    rcases hp : v.pointer? with _ | p
    · simp only [fromNative, hp] at hx
      cases hx
    · simp only [fromNative, hp] at hx
      obtain ⟨e, he, hg⟩ := fromPointer_enters hn hl hw hx
      exact ⟨e, .pointer hp he, hg⟩

lemma readUpdate_enters {held : CellId → Prop} {a : Arg} {update : Option (CellId × Value)}
    (hw : w.lifecycle? = some l) (hv : ∀ inner, a.type = .ref inner → v.KeepsOwn)
    (hheld : ∀ cell, held cell ↔ w.HoldsObject cell)
    (hx : Call.readUpdate h a v w = some (.ok update, w')) :
    ∃ e, ArgumentEnters h l log held w (a, v) update e ∧ Gains l log e w w' := by
  obtain ⟨type, value, optional⟩ := a
  unfold Call.readUpdate at hx
  dsimp only at hx
  split at hx
  · next inner cell =>
    rw [bind_ok (get_apply w)] at hx
    have read (hc : ¬(inner.isObjectLike ∧ held cell))
        (hx : (do return some (cell, ← fromNative h v (.ref inner)) : Eff S (Option (CellId × Value))) w =
          some (.ok update, w')) :
        ∃ e, ArgumentEnters h l log held w (⟨.ref inner, .ref cell, optional⟩, v) update e ∧ Gains l log e w w' := by
      obtain ⟨x, u, hread, hx⟩ := bind_eq_ok.1 hx
      cases hx
      cases v with
      | owned p storage =>
        obtain ⟨e, he, hg⟩ := readRef_enters hn hl hw (hv inner rfl p storage rfl) hread
        exact ⟨e, .slot rfl rfl hc he, hg⟩
      | _ =>
        cases hread
        exact ⟨{}, .direct rfl rfl hc (by simp), .nothing _⟩
    cases hcell : w.cell cell with
    | object k =>
      have hobject : held cell := (hheld cell).2 ⟨k, hcell⟩
      simp only [hcell] at hx
      by_cases hi : inner.isObjectLike
      · rw [if_pos hi] at hx
        cases hx
        exact ⟨{}, .left rfl rfl hi hobject, .nothing _⟩
      · rw [if_neg hi] at hx
        exact read (fun h => hi h.1) hx
    | _ =>
      simp only [hcell] at hx
      refine read (fun hc => ?_) hx
      obtain ⟨k, hk⟩ := (hheld cell).1 hc.2
      cases hcell.symm.trans hk
  · next hplain =>
    cases hx
    exact ⟨{}, .value fun inner cell h => hplain inner cell h.1 h.2, .nothing _⟩

end

/-! ### Calls -/

namespace Call

section

variable {h : Host S} (hn : ∀ a call words, NativeCode call (h.run a call words)) {c : Call} {result : Descriptor}
  {w w' : World S}

include hn

lemma prepare_keepsOwn {p : PreparedCall} (hx : prepare h c result w = some (.ok p, w')) {a : Arg} {v : NativeValue}
    (hm : (a, v) ∈ c.args.zip p.values) {inner : Descriptor} (ht : a.type = .ref inner) : v.KeepsOwn := by
  obtain ⟨u, u', -, hv⟩ := (List.forall₂_iff_zip.1 (prepare_values hn hx)).2 hm
  obtain ⟨type, value, optional⟩ := a
  dsimp only at ht
  subst ht
  exact refToNative_keepsOwn inner value hv

variable {l : Lifecycle} {log : S.Native → CallLog} (hl : l.Logs h log)

include hl

lemma readBack_enters (hw : w.lifecycle? = some l) {values : List NativeValue} {buffer : Bytes} {o : Outcome}
    (hv : ∀ a v inner, (a, v) ∈ c.args.zip values → a.type = .ref inner → v.KeepsOwn)
    (hx : readBack h c result values buffer w = some (.ok o, w')) :
    ∃ v e u updates e', readReturn result buffer = .ok v ∧ ResultEnters h l log w v result o.value e ∧
      Gains l log e w u ∧ o.updates = updates.filterMap id ∧
      InTurn l log (ArgumentEnters h l log w.HoldsObject) (c.args.zip values) updates e' u w' := by
  obtain ⟨v, u, hv₀, hx⟩ := bind_eq_ok.1 hx
  rw [ofExcept_apply] at hv₀
  obtain ⟨hreturn, rfl⟩ := Prod.mk.inj (Option.some.inj hv₀)
  obtain ⟨x, u, hvalue, hx⟩ := bind_eq_ok.1 hx
  obtain ⟨updates, u', hupdates, hx⟩ := bind_eq_ok.1 hx
  cases hx
  have hresult (inner : Descriptor) : result ≠ .ref inner := by
    rintro rfl
    cases hreturn
  obtain ⟨e, he, hg⟩ := fromNative_enters hn hl hw hresult hvalue
  have argument (b) (hb : b ∈ c.args.zip values) (update : Option (CellId × Value)) (v v' : World S)
      (hlife : v.lifecycle? = u.lifecycle?) (hcells : v.cells = u.cells)
      (hx : readUpdate h b.1 b.2 v = some (.ok update, v')) :
      ∃ e, ArgumentEnters h l log w.HoldsObject v b update e ∧ Gains l log e v v' := by
    refine readUpdate_enters hn hl (hlife.trans (hg.lifecycle.trans hw)) (hv b.1 b.2 · hb) (fun cell => ?_) hx
    exact (SameCells.holdsObject (hcells.trans hg.cells) cell).symm
  obtain ⟨e', he'⟩ := InTurn.of_collect argument hupdates
  exact ⟨v, e, u, updates, e', hreturn, he, hg, rfl, he'⟩

omit hl in
/-- **What a call that returns takes up.** Let a call return, and let the functions of the lifecycle keep a log. The
result is taken up by its type, and after it what lies in the slots of references, one after the other. What lies in the
slot for an object, a boxed value or a variant is taken up if and only if the cell of the reference holds no object when
native code has returned. The log and the registry show this and nothing else. Whatever was handed over or acquired in
this is held by a wrapper that was registered, or was given back, and nothing else was given back. -/
theorem pointers_are_taken_up {o : Outcome} (hx : invoke h c result w = some (.ok o, w')) :
    ∃ p w₁ r v s, LoopState.holding (prepare h c result) w = some (.ok p, w₁) ∧
      runPrepared h p w₁ = some (.ok r, v) ∧ v.state = some s ∧
      ∀ log, s.lifecycle.Logs h log → ∃ x e u updates e' u',
        readReturn result (h.convention.receive p.result r) = .ok x ∧
        ResultEnters h s.lifecycle log { v with inUse := true } x result o.value e ∧
        Gains s.lifecycle log e { v with inUse := true } u ∧ o.updates = updates.filterMap id ∧
        InTurn s.lifecycle log (ArgumentEnters h s.lifecycle log v.HoldsObject) (c.args.zip p.values) updates e' u u' ∧
        Gains s.lifecycle log (e ++ e') v w' ∧ (e ++ e').Balanced := by
  obtain ⟨p, w₁, r, v, w₃, hprepare, hrun, hread, hrelease⟩ := invoke_ok hx
  rcases LoopState.holding_eq_some hprepare with ⟨-, -, e, he⟩ | ⟨-, w₂, hprepare', -⟩
  · cases he
  rcases LoopState.holding_eq_some hread with ⟨-, -, e, he⟩ | ⟨⟨-, hstate, -⟩, w₄, hread', rfl⟩
  · cases he
  obtain ⟨s, hs⟩ := Option.isSome_iff_exists.1 hstate
  refine ⟨p, w₁, r, v, s, hprepare, hrun, hs, fun log hl => ?_⟩
  have hw : World.lifecycle? { v with inUse := true } = some s.lifecycle := lifecycle?_eq_some.2 ⟨s, hs, rfl⟩
  obtain ⟨x, e, u, updates, e', hreturn, he, hg, hupdates, he'⟩ :=
    readBack_enters hn hl hw (fun a v inner hm ht => prepare_keepsOwn hn hprepare' hm ht) hread'
  refine ⟨x, e, u, updates, e', w₄, hreturn, he, hg, hupdates, he', ?_, ?_⟩
  · have hbefore : Gains s.lifecycle log {} v { v with inUse := true } := .of_same rfl rfl rfl rfl
    have hafter : Gains s.lifecycle log {} w₄ { w₄ with inUse := false } := .of_same rfl rfl rfl rfl
    have hreleased : Gains s.lifecycle log {} { w₄ with inUse := false } w' :=
      .of_disposes (Along.each (R := Disposes) Disposes.release p.values hrelease)
    simpa using ((hbefore.trans (hg.trans he'.gains)).trans hafter).trans hreleased
  · exact he.balanced.append (he'.balanced fun _ _ _ _ => ArgumentEnters.balanced)

end

/-! ### A string and a variant -/

/-- The functions of the lifecycle are at their numbers and log their calls. A function at 512 calls its callback if it
is given one, hands the variant at 64 out through its last argument, and returns the string at 80; what it hands out
through the argument is recorded. Script functions store an object in cell 0. -/
def handOutHost : Host (Bridge.sides (CallLog × List Address) Unit) where
  loader := .ok
  symbol := fun _ _ => .ok 512
  anySymbol := fun _ => none
  run := fun a call words =>
    if a = 512 then do
      let _ ← if words.ints.getD 0 0 = 0 then pure {} else call (words.ints.getD 0 0) { ints := [words.ints.getD 1 0] }
      Eff.update fun w =>
        ({ int := 80 }, { w with
          native := (w.native.1, 64 :: w.native.2)
          heap := w.heap.store (words.ints.getD 3 0) (Bytes.ofNatLE 8 64) })
    else if (LifecycleRole.all[a]?.map LifecycleRole.isQuery).getD true then pure {}
    else Eff.update fun w => ({}, { w with native := (w.native.1 ++ [(a, words.ints, 0)], w.native.2) })
  limit := 2
  script := fun _ _ => do
    Cell.set 0 (.object (some ⟨1, none⟩))
    return .boolean false
  answer := fun _ => stuck
  scriptTurn := stuck
  loopTurn := stuck

lemma handOutHost_native (a : Address) (call : CallCode (Bridge.sides (CallLog × List Address) Unit))
    (words : Registers) : NativeCode call (handOutHost.run a call words) := by
  unfold handOutHost
  dsimp only
  split
  · split
    · exact .bind (.pure _) fun _ => .own (fun w => (_, _, w.heap.store _ _)) fun w => Nat.le_refl _
    · exact .bind (.call _ _) fun _ => .own (fun w => (_, _, w.heap.store _ _)) fun w => Nat.le_refl _
  · split
    · exact .pure _
    · exact .own (fun w => (_, _, w.heap)) fun w => Nat.le_refl _

lemma handOutHost_logs : Shelf.ledgerLifecycle.Logs handOutHost Prod.fst where
  bound role h := by cases h
  logs role a hrole ha words w r w' hx := by
    cases ha
    cases role with
    | objectIsFloating | typeFromName => exact absurd rfl hrole
    | _ =>
      cases hx
      rfl
  tells role a hrole ha words w r w' hx := by
    cases ha
    cases role with
    | objectIsFloating | typeFromName =>
      cases hx
      rfl
    | _ => cases hrole
  types inner library a ha w r w' hx := by
    cases ha
    cases hx
    rfl

/-- A loop thread with nothing registered, and a cell with null. -/
def nothingTakenUp : World (Bridge.sides (CallLog × List Address) Unit) :=
  { World.opening ([], []) () .inline with
    generation := 1, state := some { lifecycle := Shelf.ledgerLifecycle }, cells := [.null] }

/-- A callback that may be missing, and a reference to a variant that native code hands over. -/
def callbackThenVariant (callback : Value) : Call where
  library := [97]
  symbol := [98]
  args :=
    [{ type := .callback .sourceFunc .call none none none none, value := callback, optional := true },
      { type := .ref (.variant false), value := .ref 0 }]

/-- Without a callback the string is freed once, and the variant is adopted. -/
theorem string_and_variant_taken_up :
    ∃ o v w' e, invoke handOutHost (callbackThenVariant .null) (.string false) nothingTakenUp = some (.ok o, w') ∧
      Gains Shelf.ledgerLifecycle Prod.fst e v w' ∧ e.Balanced ∧
      e.asked.map Shelf.ledgerLifecycle.logged = [(10, [80], 0)] ∧ e.entered = [.variant 64] := by
  have hafter : (invoke handOutHost (callbackThenVariant .null) (.string false) nothingTakenUp).map
      (fun q => (q.1.toOption.isSome, q.2.native.1, q.2.wrappers)) =
        some (true, [(10, [80], 0)], [.variant 64]) := by
    cbv
  have hbefore : ((LoopState.holding (prepare handOutHost (callbackThenVariant .null) (.string false)) >>=
      runPrepared handOutHost) nothingTakenUp).map (fun q => (q.2.native.1, q.2.wrappers, q.2.lifecycle?)) =
        some ([], [], some Shelf.ledgerLifecycle) := by
    cbv
  obtain ⟨⟨e | o, w'⟩, hx, ho⟩ := Option.map_eq_some_iff.1 hafter
  · cases ho
  obtain ⟨p, w₁, r, v, s, hprepare, hrun, hs, htaken⟩ := pointers_are_taken_up handOutHost_native hx
  rw [bind_ok hprepare, hrun] at hbefore
  simp only [Option.map_some, Option.some.injEq, Prod.mk.injEq] at ho hbefore
  obtain ⟨hlog, hwrappers, hlife⟩ := hbefore
  have hsame : s.lifecycle = Shelf.ledgerLifecycle := by
    rw [World.lifecycle?, hs] at hlife
    exact Option.some.inj hlife
  rw [hsame] at htaken
  obtain ⟨x, e, u, updates, e', u', -, -, -, -, -, hg, hb⟩ := htaken Prod.fst handOutHost_logs
  refine ⟨o, v, w', e ++ e', hx, hg, hb, ?_, ?_⟩
  · have hasked := hg.asked
    rwa [ho.2.1, hlog, List.nil_append, eq_comm] at hasked
  · have hentered := hg.entered
    rwa [ho.2.2, hwrappers, List.nil_append, eq_comm] at hentered

/-- **A pointer in a slot may be taken up by nobody.** The callback has stored an object in the cell, for which native
code was given a slot. The variant is handed out through the slot, and no wrapper comes to hold it. -/
theorem variant_left_in_slot :
    Shelf.ledgerLifecycle.Logs handOutHost Prod.fst ∧ nothingTakenUp.cell 0 = .null ∧
      (invoke handOutHost (callbackThenVariant (.callback (some 1))) (.string false) nothingTakenUp).map
        (fun q => (q.1.toOption.map Outcome.updates, q.2.native, q.2.wrappers)) =
          some (some [], ([(10, [80], 0)], [64]), []) := by
  refine ⟨handOutHost_logs, rfl, ?_⟩
  cbv

end Call

end NativeBridge
