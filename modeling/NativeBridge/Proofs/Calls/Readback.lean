import Mathlib
import NativeBridge.Proofs.Calls.Kept
import NativeBridge.Proofs.Handles

/-!
References to objects. What native code is given for one depends on what its cell holds when the arguments are
converted, and what is read back on what the cell holds when native code has returned. Script functions that native
code called in between may have stored something else.
-/

namespace NativeBridge

open Eff

variable {S : Sides}

/-! ### Cells during work -/

/-- The cells hold what they held. -/
def SameCells (w w' : World S) : Prop := w'.cells = w.cells

namespace SameCells

instance : IsPreorder (World S) SameCells where
  refl _ := rfl
  trans _ _ _ h h' := h'.trans h

lemma holding {α : Type} {x : Eff S α} (hx : Along SameCells x) : Along SameCells (LoopState.holding x) :=
  Along.holding (fun _ _ => rfl) hx

/-- Work on arguments and results stores in no cell. -/
lemma work {h : Host S} (hn : ∀ a call words, NativeCode call (h.run a call words)) {cells : Set CellId}
    {makes calls : Prop} {α : Type} {x : Eff S α} (hx : LoopWork h cells makes calls x) : Along SameCells x :=
  fun _ _ _ h => (Kept.work hn hx h).cells

end SameCells

/-- The cell holds an object. -/
def World.HoldsObject (w : World S) (c : CellId) : Prop := ∃ k, w.cell c = .object k

lemma SameCells.cell {w w' : World S} (h : SameCells w w') (c : CellId) : w'.cell c = w.cell c := by
  rw [World.cell, World.cell, h]

lemma SameCells.holdsObject {w w' : World S} (h : SameCells w w') (c : CellId) :
    w'.HoldsObject c ↔ w.HoldsObject c := by
  rw [World.HoldsObject, World.HoldsObject, h.cell]

/-! ### What native code is given -/

/-- Native code is given the object itself. -/
def NativeValue.Direct (v : NativeValue) : Prop := ∃ p, v = .raw p

/-- Native code is given a fresh slot that holds a null pointer. -/
def NativeValue.FreshSlot (v : NativeValue) : Prop := ∃ p, v = .owned p (.slot p [] (some 0))

/-- What native code is given for a reference whose cell holds what it holds in this world. -/
def Marshaled (w : World S) (cell : CellId) (v : NativeValue) : Prop :=
  w.HoldsObject cell ∧ v.Direct ∨ (w.cell cell).isNullish ∧ v.FreshSlot

lemma Marshaled.direct_iff {w : World S} {cell : CellId} {v : NativeValue} (h : Marshaled w cell v) :
    v.Direct ↔ w.HoldsObject cell := by
  rcases h with ⟨hw, hv⟩ | ⟨hw, p, rfl⟩
  · exact ⟨fun _ => hw, fun _ => hv⟩
  · constructor
    · rintro ⟨q, hq⟩
      cases hq
    · rintro ⟨k, hk⟩
      rw [hk] at hw
      cases hw

lemma refToNative_marshaled {inner : Descriptor} (hi : inner.isObjectLike) {cell : CellId} {w w' : World S}
    {v : NativeValue} (hx : refToNative inner (.ref cell) w = some (.ok v, w')) : Marshaled w cell v := by
  have object (handle : Option Handle) (hc : w.cell cell = .object handle)
      (hx : (do return .raw (← resolveObject handle) : Eff S NativeValue) w = some (.ok v, w')) :
      Marshaled w cell v := by
    rcases bind_eq_some.1 hx with ⟨p, w₁, -, h₂⟩ | ⟨e, -, he⟩
    · cases h₂
      exact .inl ⟨⟨handle, hc⟩, p, rfl⟩
    · cases he
  have slot (hc : (w.cell cell).isNullish)
      (hx : makeSlot (Bytes.ofNatLE 8 0) [] (some 0) w = some (.ok v, w')) : Marshaled w cell v := by
    cases hx
    exact .inr ⟨hc, _, rfl⟩
  have href : ¬(Value.ref cell).isNullish = true := Bool.false_ne_true
  rw [refToNative, if_neg href, bind_ok (get_apply w), Value.asRef, bind_ok (ofExcept_apply (.ok cell) w)] at hx
  cases inner with
  | object | boxed | variant =>
    cases hc : w.cell cell with
    | object handle => exact object handle hc (by simpa only [hc] using hx)
    | null => exact slot (by rw [hc]; rfl) (by simpa only [hc] using hx)
    | undefined => exact slot (by rw [hc]; rfl) (by simpa only [hc] using hx)
    | _ =>
      simp only [hc] at hx
      cases hx
  | _ => cases hi

lemma toNative_marshaled {h : Host S} {a : Arg} {inner : Descriptor} {cell : CellId} (ha : a.type = .ref inner)
    (hv : a.value = .ref cell) (hi : inner.isObjectLike) {w w' : World S} {v : NativeValue}
    (hx : toNative h a w = some (.ok v, w')) : Marshaled w cell v := by
  obtain ⟨type, value, optional⟩ := a
  dsimp only at ha hv
  subst ha hv
  exact refToNative_marshaled hi hx

namespace Call

/-- Arguments that convert have a value each, made where the cells hold what they held at first. -/
lemma prepareArgs_values {h : Host S} (hn : ∀ a call words, NativeCode call (h.run a call words)) {symbol : Bytes}
    {args : List Arg} {index : Nat} {done values : List NativeValue} {types types' : List AbiType} {w w' : World S}
    (hx : prepareArgs h symbol index done types args w = some (.ok (values, types'), w')) :
    ∃ more, values = done ++ more ∧
      List.Forall₂ (fun a v => ∃ u u', SameCells w u ∧ toNative h a u = some (.ok v, u')) args more := by
  induction args generalizing index done types w with
  | nil =>
    cases hx
    exact ⟨[], (List.append_nil _).symm, .nil⟩
  | cons a rest ih =>
    obtain ⟨r, w₁, h₁, h₂⟩ := attempt_bind_eq_some.1 hx
    cases r with
    | error e =>
      rcases bind_eq_some.1 h₂ with ⟨_, w₂, -, h₃⟩ | ⟨e', -, he⟩
      · cases h₃
      · cases he
    | ok p =>
      obtain ⟨v, ts⟩ := p
      have hv : ∃ u', toNative h a w = some (.ok v, u') := by
        rcases bind_eq_some.1 h₁ with ⟨v', w₂, h₃, h₄⟩ | ⟨e, -, he⟩
        · obtain ⟨checked, w₃, -, h₅⟩ := attempt_bind_eq_some.1 h₄
          cases checked with
          | ok types =>
            cases h₅
            exact ⟨w₂, h₃⟩
          | error e =>
            rcases bind_eq_some.1 h₅ with ⟨_, w₄, -, h₆⟩ | ⟨e', -, he⟩
            · cases h₆
            · cases he
        · cases he
      obtain ⟨u', hu⟩ := hv
      obtain ⟨more, rfl, hmore⟩ := ih h₂
      have hcells : SameCells w w₁ :=
        SameCells.work hn (LoopWork.prepareArg trivial fun c _ => Set.mem_univ c) h₁
      refine ⟨v :: more, by rw [List.append_assoc, List.singleton_append], .cons ⟨w, u', refl w, hu⟩ ?_⟩
      exact hmore.imp fun b x ⟨u, u₁, hs, ht⟩ => ⟨u, u₁, hs.trans hcells, ht⟩

/-! ### What is read back -/

/-- What is read back of a reference follows how it was marshaled: nothing where native code was given the object
itself, and otherwise what lies in the slot. -/
def FollowsMarshaling (h : Host S) (inner : Descriptor) (cell : CellId) (v : NativeValue) (u : World S)
    (update : Option (CellId × Value)) : Prop :=
  match v with
  | .owned p _ =>
    ∃ x u', (do wrapObject h (← Memory.loadWord p) inner inner.isTransferred : Eff S Value) u = some (.ok x, u') ∧
      update = some (cell, x)
  | _ => update = none

lemma readUpdate_cases {h : Host S} {a : Arg} {inner : Descriptor} {cell : CellId} (ha : a.type = .ref inner)
    (hv : a.value = .ref cell) (hi : inner.isObjectLike) {v : NativeValue} {u u' : World S}
    {update : Option (CellId × Value)} (hx : readUpdate h a v u = some (.ok update, u')) :
    u.HoldsObject cell ∧ update = none ∧ u' = u ∨
      ¬u.HoldsObject cell ∧ ∃ x, update = some (cell, x) ∧ fromNative h v (.ref inner) u = some (.ok x, u') := by
  have hread {x : Value} (hc : u.cell cell = x) (hobject : ∀ k, x ≠ .object k)
      (hx : (do return some (cell, ← fromNative h v a.type) : Eff S (Option (CellId × Value))) u =
        some (.ok update, u')) :
      ¬u.HoldsObject cell ∧ ∃ x, update = some (cell, x) ∧ fromNative h v (.ref inner) u = some (.ok x, u') := by
    refine ⟨fun ⟨k, hk⟩ => hobject k (hc.symm.trans hk), ?_⟩
    rcases bind_eq_some.1 hx with ⟨x, u₁, h₁, h₂⟩ | ⟨e, -, he⟩
    · cases h₂
      exact ⟨x, rfl, ha ▸ h₁⟩
    · cases he
  obtain ⟨type, value, optional⟩ := a
  dsimp only at ha hv
  subst ha hv
  unfold readUpdate at hx
  dsimp only at hx
  rw [bind_ok (get_apply u)] at hx
  cases hc : u.cell cell with
  | object k =>
    simp only [hc, hi, if_true] at hx
    cases hx
    exact .inl ⟨⟨k, hc⟩, rfl, rfl⟩
  | _ =>
    simp only [hc] at hx
    exact .inr (hread hc (fun _ h => by cases h) hx)

/-- Read-back follows the marshaling if and only if the cell holds an object just when it held one then. -/
lemma readUpdate_follows_iff {h : Host S} {a : Arg} {inner : Descriptor} {cell : CellId} (ha : a.type = .ref inner)
    (hv : a.value = .ref cell) (hi : inner.isObjectLike) {w u u' : World S} {v : NativeValue}
    (hm : Marshaled w cell v) {update : Option (CellId × Value)}
    (hx : readUpdate h a v u = some (.ok update, u')) :
    (update = none ↔ u.HoldsObject cell) ∧
      (FollowsMarshaling h inner cell v u update ↔ (w.HoldsObject cell ↔ u.HoldsObject cell)) := by
  rcases readUpdate_cases ha hv hi hx with ⟨hu, rfl, -⟩ | ⟨hu, x, rfl, hr⟩
  · refine ⟨iff_of_true rfl hu, ?_⟩
    rw [iff_true_right hu, ← hm.direct_iff]
    rcases hm with ⟨-, p, rfl⟩ | ⟨-, p, rfl⟩
    · exact iff_of_true rfl ⟨p, rfl⟩
    · exact iff_of_false (fun ⟨x, u', _, he⟩ => by cases he) (fun ⟨q, hq⟩ => by cases hq)
  · refine ⟨iff_of_false (fun he => by cases he) hu, ?_⟩
    rw [iff_false_right hu, ← hm.direct_iff]
    rcases hm with ⟨-, p, rfl⟩ | ⟨-, p, rfl⟩
    · exact iff_of_false (fun he => by cases he) (fun hd => hd ⟨p, rfl⟩)
    · refine iff_of_true ⟨x, u', ?_, rfl⟩ (fun ⟨q, hq⟩ => by cases hq)
      cases inner with
      | object | boxed | variant => exact hr
      | _ => cases hi

end Call

/-- A collection that ends with values has one for each item, found where the collection of those before it ended. -/
lemma Eff.collect_ok {α β : Type} {f : β → Eff S α} {bs : List β} {as : List α} {w w' : World S}
    (hx : Eff.collect f bs w = some (.ok as, w')) :
    as.length = bs.length ∧ ∀ i b, bs[i]? = some b → ∃ a before u u', as[i]? = some a ∧
      Eff.collect f (bs.take i) w = some (.ok before, u) ∧ f b u = some (.ok a, u') := by
  induction bs generalizing as w with
  | nil =>
    cases hx
    exact ⟨rfl, fun i b hb => by simp at hb⟩
  | cons b₀ rest ih =>
    rcases bind_eq_some.1 hx with ⟨a₀, w₁, h₀, h₁⟩ | ⟨e, -, he⟩
    · rcases bind_eq_some.1 h₁ with ⟨more, w₂, h₂, h₃⟩ | ⟨e, -, he⟩
      · cases h₃
        obtain ⟨hlen, hrest⟩ := ih h₂
        refine ⟨by rw [List.length_cons, List.length_cons, hlen], fun i b hb => ?_⟩
        cases i with
        | zero =>
          cases hb
          exact ⟨a₀, [], w, w₁, rfl, rfl, h₀⟩
        | succ i =>
          obtain ⟨a, before, u, u', ha, hbefore, hf⟩ := hrest i b hb
          refine ⟨a, a₀ :: before, u, u', ha, ?_, hf⟩
          rw [List.take_succ_cons, Eff.collect, bind_ok h₀, bind_ok hbefore]
          rfl
      · cases he
    · cases he

namespace Call

/-- Hands what the arguments own over to native code, and runs the function. -/
def runPrepared (h : Host S) (p : PreparedCall) : Eff S Returned := do
  Eff.each NativeValue.handOver p.values
  h.run p.function (callCode h) (h.convention.pass p.types (p.values.flatMap NativeValue.slots))

/-- Reads the result back, and the first references. -/
def readFirst (h : Host S) (c : Call) (result : Descriptor) (values : List NativeValue) (buffer : Bytes) (i : Nat) :
    Eff S Unit := do
  let _ ← fromNative h (← Eff.ofExcept (readReturn result buffer)) result
  let _ ← Eff.collect (fun p => readUpdate h p.1 p.2) ((c.args.zip values).take i)

lemma invoke_ok {h : Host S} {c : Call} {result : Descriptor} {w w' : World S} {o : Outcome}
    (hx : invoke h c result w = some (.ok o, w')) :
    ∃ p w₁ r w₂ w₃, LoopState.holding (prepare h c result) w = some (.ok p, w₁) ∧
      runPrepared h p w₁ = some (.ok r, w₂) ∧
      LoopState.holding (readBack h c result p.values (h.convention.receive p.result r)) w₂ = some (.ok o, w₃) ∧
      Eff.each NativeValue.release p.values w₃ = some (.ok (), w') := by
  rcases bind_eq_some.1 hx with ⟨p, w₁, h₁, h₂⟩ | ⟨e, -, he⟩
  · obtain ⟨q, w₃, h₃, h₄⟩ := attempt_bind_eq_some.1 h₂
    rcases bind_eq_some.1 h₄ with ⟨⟨⟩, w₄, h₅, h₆⟩ | ⟨e, -, he⟩
    · rw [ofExcept_apply] at h₆
      cases h₆
      rw [← bind_assoc] at h₃
      rcases bind_eq_some.1 h₃ with ⟨r, w₂, h₇, h₈⟩ | ⟨e, -, he⟩
      · exact ⟨p, w₁, r, w₂, w₃, h₁, h₇, LoopDispatch.unwinding_ok.1 h₈, h₅⟩
      · cases he
    · cases he
  · cases he

section

variable {h : Host S} (hn : ∀ a call words, NativeCode call (h.run a call words)) {c : Call} {result : Descriptor}
  {w w' : World S}

omit hn in
/-- A call is ready when its function is found, its arguments are converted and its result has a type of its own. -/
lemma prepare_ok {p : PreparedCall} (hx : prepare h c result w = some (.ok p, w')) :
    returnable result = .ok () ∧ result.abi = .ok p.result ∧
      ∃ w₁, LoopState.symbol h c.library c.symbol w = some (.ok p.function, w₁) ∧
        prepareArgs h c.symbol 0 [] [] c.args w₁ = some (.ok (p.values, p.types), w') := by
  rcases ofExcept_bind_eq_some.1 hx with ⟨⟨⟩, hreturnable, h₂⟩ | ⟨e, -, he, -⟩
  · rcases bind_eq_some.1 h₂ with ⟨function, w₁, hsymbol, h₄⟩ | ⟨e, -, he⟩
    · rcases bind_eq_some.1 h₄ with ⟨⟨values, types⟩, w₂, hargs, h₆⟩ | ⟨e, -, he⟩
      · rcases habi : result.abi with e | type
        · rw [habi] at h₆
          rcases bind_eq_some.1 h₆ with ⟨_, w₄, -, h₇⟩ | ⟨e', -, he⟩
          · cases h₇
          · cases he
        · rw [habi] at h₆
          cases h₆
          exact ⟨hreturnable, rfl, w₁, hsymbol, hargs⟩
      · cases he
    · cases he
  · cases he

include hn in
lemma prepare_values {p : PreparedCall} (hx : prepare h c result w = some (.ok p, w')) :
    List.Forall₂ (fun a v => ∃ u u', SameCells w u ∧ toNative h a u = some (.ok v, u')) c.args p.values := by
  obtain ⟨-, -, w₁, hsymbol, hargs⟩ := prepare_ok hx
  have hkept : Kept w w₁ := Housekeeping.symbol h _ _ hsymbol
  have hcells : SameCells w w₁ := hkept.cells
  obtain ⟨more, hvalues, hmore⟩ := prepareArgs_values hn hargs
  rw [hvalues, List.nil_append]
  exact hmore.imp fun a v ⟨u, u', hs, hv⟩ => ⟨u, u', hs.trans hcells, hv⟩

lemma readBack_ok {values : List NativeValue} {buffer : Bytes} {o : Outcome}
    (hx : readBack h c result values buffer w = some (.ok o, w')) :
    ∃ results : List (Option (CellId × Value)), o.updates = results.filterMap id ∧
      results.length = (c.args.zip values).length ∧
      ∀ i a v, c.args[i]? = some a → values[i]? = some v → ∃ update u u', results[i]? = some update ∧
        readFirst h c result values buffer i w = some (.ok (), u) ∧ readUpdate h a v u = some (.ok update, u') := by
  rcases bind_eq_some.1 hx with ⟨rv, w₁, h₁, h₂⟩ | ⟨e, -, he⟩
  · rcases bind_eq_some.1 h₂ with ⟨value, w₂, h₃, h₄⟩ | ⟨e, -, he⟩
    · rcases bind_eq_some.1 h₄ with ⟨results, w₃, h₅, h₆⟩ | ⟨e, -, he⟩
      · cases h₆
        obtain ⟨hlen, hitems⟩ := Eff.collect_ok h₅
        refine ⟨results, rfl, hlen, fun i a v ha hv => ?_⟩
        obtain ⟨update, before, u, u', hupdate, hbefore, hread⟩ :=
          hitems i (a, v) (by rw [List.getElem?_zip_eq_some]; exact ⟨ha, hv⟩)
        refine ⟨update, u, u', hupdate, ?_, hread⟩
        rw [readFirst, bind_ok h₁, bind_ok h₃, bind_ok hbefore]
        rfl
      · cases he
    · cases he
  · cases he

include hn

lemma readFirst_sameCells (values : List NativeValue) (buffer : Bytes) (i : Nat) :
    Along SameCells (readFirst h c result values buffer i) := by
  have hwork : LoopWork h Set.univ False True (readFirst h c result values buffer i) := by
    refine .bind (.ofExcept _) fun v => .bind (.fromNative v result) fun _ => LoopWork.forget (.collect fun p _ => ?_)
    exact LoopWork.readUpdate (fun k _ => Set.mem_univ k) p.2
  exact SameCells.work hn hwork

/-- **When read-back follows the marshaling.** Of a call that returns, let a reference to an object, a boxed value or a
variant be an argument. Native code was given the object that its cell held, or else a fresh slot with a null pointer.
Reading back gives nothing if the cell holds an object when native code has returned, whatever was given, and one update
otherwise. It is what was asked for, nothing of an object and the pointer in the slot of a slot, if and only if the cell
holds an object then just when it held one before the call. -/
theorem read_back_follows_marshaling_iff {o : Outcome} (hx : invoke h c result w = some (.ok o, w')) :
    ∃ p w₁ r w₂, ∃ results : List (Option (CellId × Value)),
      LoopState.holding (prepare h c result) w = some (.ok p, w₁) ∧
      runPrepared h p w₁ = some (.ok r, w₂) ∧ o.updates = results.filterMap id ∧ results.length = c.args.length ∧
      ∀ i a inner cell, c.args[i]? = some a → a.type = .ref inner → inner.isObjectLike → a.value = .ref cell →
        ∃ v update u, p.values[i]? = some v ∧ results[i]? = some update ∧ Marshaled w cell v ∧
          readFirst h c result p.values (h.convention.receive p.result r) i { w₂ with inUse := true } = some (.ok (), u) ∧
          (update = none ↔ w₂.HoldsObject cell) ∧
          (FollowsMarshaling h inner cell v u update ↔ (w.HoldsObject cell ↔ w₂.HoldsObject cell)) := by
  obtain ⟨p, w₁, r, w₂, w₃, hprepare, hrun, hread, -⟩ := invoke_ok hx
  rcases LoopState.holding_eq_some hprepare with ⟨-, -, e, he⟩ | ⟨-, w₁', hprepare', -⟩
  · cases he
  rcases LoopState.holding_eq_some hread with ⟨-, -, e, he⟩ | ⟨-, w₃', hread', -⟩
  · cases he
  have hvalues := prepare_values hn hprepare'
  obtain ⟨results, hupdates, hlen, hitems⟩ := readBack_ok hread'
  rw [List.length_zip, ← hvalues.length_eq, Nat.min_self] at hlen
  refine ⟨p, w₁, r, w₂, results, hprepare, hrun, hupdates, hlen, fun i a inner cell ha htype hinner hvalue => ?_⟩
  obtain ⟨hargs, hget⟩ := List.forall₂_iff_get.1 hvalues
  obtain ⟨hi, hai⟩ := List.getElem?_eq_some_iff.1 ha
  obtain ⟨u₀, u₁, hs, hnative⟩ := hget i hi (hargs ▸ hi)
  rw [List.get_eq_getElem, hai] at hnative
  set v := p.values.get ⟨i, hargs ▸ hi⟩
  have hv : p.values[i]? = some v := List.getElem?_eq_getElem _
  obtain ⟨update, u, u', hupdate, hfirst, hlast⟩ := hitems i a v ha hv
  have hcells : SameCells { w₂ with inUse := true } u := readFirst_sameCells hn p.values _ i hfirst
  have hmarshaled : Marshaled w cell v := by
    have hbefore : SameCells { w with inUse := true } u₀ := hs
    have hm := toNative_marshaled htype hvalue hinner hnative
    rwa [Marshaled, hbefore.holdsObject, hbefore.cell] at hm
  refine ⟨v, update, u, hv, hupdate, hmarshaled, hfirst, ?_⟩
  have hheld : w₂.HoldsObject cell ↔ u.HoldsObject cell := (hcells.holdsObject cell).symm
  rw [hheld]
  exact readUpdate_follows_iff htype hvalue hinner hmarshaled hlast

end

/-! ### A slot that is not read -/

/-- A function at 512 that calls its callback and then hands the object at 64 out through its last argument; it keeps a
record of what it handed out. Script functions store an object in cell 0. -/
def handingHost : Host (Bridge.sides (List Address) Unit) where
  loader := .ok
  symbol := fun _ _ => .ok 512
  anySymbol := fun _ => none
  run := fun a call words =>
    if a = 512 then do
      let _ ← call (words.ints.getD 0 0) { ints := [words.ints.getD 1 0] }
      Eff.update fun w =>
        ({}, { w with native := 64 :: w.native, heap := w.heap.store (words.ints.getD 3 0) (Bytes.ofNatLE 8 64) })
    else pure {}
  limit := 2
  script := fun _ _ => do
    Cell.set 0 (.object (some ⟨1, none⟩))
    return .boolean false
  answer := fun _ => stuck
  scriptTurn := stuck
  loopTurn := stuck

lemma handingHost_native (a : Address) (call : CallCode (Bridge.sides (List Address) Unit)) (words : Registers) :
    NativeCode call (handingHost.run a call words) := by
  unfold handingHost
  dsimp only
  split
  · exact .bind (.call _ _) fun _ => .own (fun w => (_, _, w.heap.store _ _)) fun w => Nat.le_refl _
  · exact .pure _

/-- A loop thread that holds nothing, and a cell with null. -/
def oneCell : World (Bridge.sides (List Address) Unit) :=
  { World.opening [] () .inline with
    generation := 1, state := some { lifecycle := { bound := fun _ => none, libraries := [] } }, cells := [.null] }

/-- A callback, and a reference to an object that native code hands over. -/
def callbackThenRef : Call where
  library := [97]
  symbol := [98]
  args :=
    [{ type := .callback .sourceFunc .call none none none none, value := .callback (some 1) },
      { type := .ref (.object false), value := .ref 0 }]

lemma callbackThenRef_updates :
    (invoke handingHost callbackThenRef .undefined oneCell).map (fun p => p.1.toOption.map Outcome.updates) =
      some (some []) := by
  cbv

theorem slot_unread_after_callback :
    ∃ o w' v u, invoke handingHost callbackThenRef .undefined oneCell = some (.ok o, w') ∧ Marshaled oneCell 0 v ∧
      ¬FollowsMarshaling handingHost (.object false) 0 v u none := by
  obtain ⟨⟨e | o, w'⟩, hx, ho⟩ := Option.map_eq_some_iff.1 callbackThenRef_updates
  · cases ho
  have hnone : o.updates = [] := Option.some.inj ho
  obtain ⟨p, w₁, r, w₂, results, -, -, hupdates, -, hrefs⟩ :=
    read_back_follows_marshaling_iff handingHost_native hx
  obtain ⟨v, update, u, -, hupdate, hm, -, hheld, hfollows⟩ := hrefs 1 _ (.object false) 0 rfl rfl rfl rfl
  have hnoupdate : update = none := by
    rw [hupdates, List.filterMap_eq_nil_iff] at hnone
    exact hnone update (List.mem_of_getElem? hupdate)
  rw [hnoupdate] at hheld hfollows
  refine ⟨o, w', v, u, hx, hm, fun hf => ?_⟩
  obtain ⟨k, hk⟩ := (hfollows.1 hf).2 (hheld.1 rfl)
  cases hk

/-- **A pointer in a slot can be lost.** The cell held null, so native code was given a slot and handed an object out
through it; its callback has stored another object in the cell, and nothing is read back. -/
theorem pointer_lost_in_slot :
    oneCell.cell 0 = .null ∧
      (invoke handingHost callbackThenRef .undefined oneCell).map
        (fun p => (p.1.toOption.map Outcome.updates, p.2.native, p.2.state.map fun s => s.registry.size)) =
          some (some [], [64], some 0) := by
  constructor
  · rfl
  · cbv

end Call

end NativeBridge
