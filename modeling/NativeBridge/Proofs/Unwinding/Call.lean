import Mathlib
import NativeBridge.Proofs.Unwinding.Arguments

/-!
A call that fails before its function runs: just what lasts of its arguments is left behind.
-/

namespace NativeBridge

open Eff

variable {S : Sides}

namespace Call

/-- Finds the function of a call, if its result can be returned. -/
def find (h : Host S) (c : Call) (result : Descriptor) : Eff S Address := do
  Eff.ofExcept (returnable result)
  LoopState.symbol h c.library c.symbol

lemma find_of_none (h : Host S) (c : Call) (result : Descriptor) {w : World S} (hs : w.state = none) :
    ∃ e, find h c result w = some (.error e, w) := by
  rcases hr : returnable result with e | u
  · exact ⟨e, by rw [find, hr]; rfl⟩
  · exact ⟨.outsideLoop, by rw [find, hr, bind_ok (ofExcept_apply _ _), LoopState.symbol,
      bind_error (LoopState.current_of_none hs)]⟩

/-- What lasts of a call whose function does not run. Arguments are converted only where the state is free and the
function was found. -/
def lasting (h : Host S) (c : Call) (result : Descriptor) (w : World S) : List Lasting :=
  if w.thread = .loop ∧ w.inUse = false then
    match find h c result { w with inUse := true } with
    | some (.ok _, w₁) => lastingArgs h c.symbol 0 c.args w₁
    | _ => []
  else []

/-- Nothing lasts of a call whose arguments native code does not own and may not keep. -/
lemma lasting_eq_nil {c : Call} (hc : ∀ a ∈ c.args, a.type.mayLast = false) (h : Host S) (result : Descriptor)
    (w : World S) : c.lasting h result w = [] := by
  have hargs (symbol : Bytes) (index : Nat) (args : List Arg) (ha : ∀ a ∈ args, a.type.mayLast = false)
      (w : World S) : lastingArgs h symbol index args w = [] := by
    induction args generalizing index w with
    | nil => rfl
    | cons a rest ih =>
      rw [List.forall_mem_cons] at ha
      rw [lastingArgs]
      split
      · rw [Arg.lasting_eq_nil ha.1, ih _ ha.2, List.append_nil]
      · rfl
  unfold lasting
  split
  · split
    · exact hargs _ _ _ hc _
    · rfl
  · rfl

/-- The counts, the closures, the registry and what the state keeps are as they were. -/
structure Unwound (c : Counts S) (w w' : World S) : Prop where
  refs : ∀ p, c.refs w'.native p = c.refs w.native p
  copies : c.copies w'.native = c.copies w.native
  closures : w'.liveClosures = w.liveClosures
  registry : w'.state.map LoopState.registry = w.state.map LoopState.registry
  retained : w'.state.map (fun s => s.retained.length) = w.state.map fun s => s.retained.length

/-- Everything is as it was if and only if nothing lasts. -/
lemma Leaves.unwound_iff {c : Counts S} {left : List Lasting} {w w' : World S} (hl : Leaves c left w w') :
    Unwound c w w' ↔ left = [] := by
  constructor
  · intro hu
    refine List.eq_nil_iff_forall_not_mem.2 fun x hx => ?_
    have hpos : 0 < left.count x := List.count_pos_iff.2 hx
    cases x with
    | reference p =>
      have := hl.counts.refs p
      have := hu.refs p
      omega
    | copy =>
      have := hl.counts.copies
      have := hu.copies
      omega
    | code =>
      have := hl.closures
      have := hu.closures
      omega
  · rintro rfl
    exact ⟨hl.counts.refs, hl.counts.copies, hl.closures, hl.registry, hl.retained⟩

section

variable {h : Host S} (hh : h.Within Evolves) (hn : ∀ a call words, NativeCode call (h.run a call words)) {c : Counts S}
  {w w' : World S}

include hh hn

/-- Without an error of an argument the call may still fail by the type of its result. -/
lemma prepare_leaves (hw : w.Placed) {s : LoopState} (hs : w.state = some s) (hc : c.Lawful h s.lifecycle)
    {call : Call} {result : Descriptor} {e : Error} (hx : prepare h call result w = some (.error e, w')) :
    Leaves c
      (match find h call result w with
      | some (.ok _, w₁) => lastingArgs h call.symbol 0 call.args w₁
      | _ => [])
      w w' := by
  have hfind : Along (Silent c) (find h call result) := .bind (.ofExcept _) fun _ => Housekeeping.symbol h _ _
  have hevolves : Along Evolves (find h call result) := .bind (.ofExcept _) fun _ => Housekeeping.symbol h _ _
  rw [prepare, ← bind_assoc] at hx
  change (find h call result >>= _) w = _ at hx
  rcases bind_eq_some.1 hx with ⟨function, w₁, h₁, h₂⟩ | ⟨e, h₁, -⟩
  · obtain ⟨s₁, hs₁, hl, -⟩ := (hfind h₁).state s hs
    rw [h₁]
    refine Leaves.after_silent ?_ (hfind h₁) hs
    have hw₁ : w₁.Placed := hw.evolves (hevolves h₁)
    have hc₁ : c.Lawful h s₁.lifecycle := hl ▸ hc
    rcases bind_eq_some.1 h₂ with ⟨⟨values, types⟩, w₂, h₃, h₄⟩ | ⟨e, h₃, -⟩
    · rcases prepareArgs_prepared hh hn hs₁ hc₁ call.args (.nil c w₁) hw₁ h₃ with ⟨⟨e, he⟩, -⟩ | ⟨_, _, he, hw₂, hp⟩
      · cases he
      · cases he
        obtain ⟨w₃, hr, hleft⟩ := hp.release hw₂ hs₁
        rcases ht : result.abi with e | type
        · rw [ht] at h₄
          dsimp only at h₄
          rw [bind_ok hr] at h₄
          cases h₄
          exact hleft
        · rw [ht] at h₄
          cases h₄
    · rcases prepareArgs_prepared hh hn hs₁ hc₁ call.args (.nil c w₁) hw₁ h₃ with ⟨-, hleft⟩ | ⟨_, _, he, -⟩
      · exact hleft
      · cases he
  · rw [h₁]
    exact .of_silent (hfind h₁) hs

end

end Call

/-! ### Holding the state -/

/-- Work that needs the state is refused, or runs with the state in use. -/
lemma LoopState.holding_cases {α : Type} {x : Eff S α} {w w' : World S} {r : Except Error α}
    (hx : holding x w = some (r, w')) :
    (¬(w.thread = .loop ∧ w.inUse = false) ∨ w.state = none) ∧ w = w' ∨
      (w.thread = .loop ∧ w.inUse = false) ∧ w.state.isSome ∧
        ∃ w₁, x { w with inUse := true } = some (r, w₁) ∧ w' = { w₁ with inUse := false } := by
  rcases holding_eq_some hx with ⟨hrefused, rfl, -⟩ | ⟨⟨ht, hstate, hu⟩, hwork⟩
  · refine .inl ⟨?_, rfl⟩
    rcases hs : w'.state with _ | s
    · exact .inr rfl
    · exact .inl fun hfree => hrefused ⟨hfree.1, by rw [hs]; rfl, hfree.2⟩
  · exact .inr ⟨⟨ht, hu⟩, hstate, hwork⟩

/-! ### The whole call -/

lemma Host.Tied.native {Native Script : Type} {h : Host (Bridge.sides Native Script)} (hh : h.Tied) (a : Address)
    (call : CallCode (Bridge.sides Native Script)) (words : Registers) : NativeCode call (h.run a call words) := by
  cases hh with
  | ground hrun => exact hrun a call words
  | crossing _ hrun => exact hrun a call words

/-- **What a call leaves that fails before its function runs.** The error of the preparation is the error of the call,
and the call does nothing after it. Counts, closures, registry and what the state keeps are as before, but for what
lasts of the arguments that had been converted: they are just as before if and only if nothing lasts. -/
theorem failed_call_leaves_what_lasts {Native Script : Type} {h : Host (Bridge.sides Native Script)} (hh : h.Tied)
    (c : Counts (Bridge.sides Native Script)) {w w' : World (Bridge.sides Native Script)} (hw : w.Reached)
    (hc : ∀ s, w.state = some s → c.Lawful h s.lifecycle) {call : Call} {result : Descriptor} {e : Error}
    (hx : LoopState.holding (Call.prepare h call result) w = some (.error e, w')) :
    Call.invoke h call result w = some (.error e, w') ∧ Call.Leaves c (call.lasting h result w) w w' ∧
      (Call.Unwound c w w' ↔ call.lasting h result w = []) := by
  have hleaves : Call.Leaves c (call.lasting h result w) w w' := by
    rcases LoopState.holding_cases hx with ⟨hfree, rfl⟩ | ⟨hfree, hsome, w₁, hx₁, rfl⟩
    · have hnone : call.lasting h result w = [] := by
        rcases hfree with hfree | hs
        · exact if_neg hfree
        · obtain ⟨e, he⟩ := Call.find_of_none h call result (w := { w with inUse := true }) hs
          rw [Call.lasting, he, ite_self]
      exact hnone ▸ .rfl' c w
    · obtain ⟨s, hs⟩ := Option.isSome_iff_exists.1 hsome
      have hw₁ : World.Placed { w with inUse := true } := hw.placed.step (.flags w _ true _ _)
      have hl := Call.prepare_leaves hh.evolves hh.native hw₁ hs (hc s hs) hx₁
      rw [Call.lasting, if_pos hfree]
      exact ⟨hl.counts, hl.closures, hl.registry, hl.retained⟩
  exact ⟨bind_error hx, hleaves, hleaves.unwound_iff⟩

/-- A function at 256 that adds a reference to an object, and one at 512 that does nothing. -/
def countingHost : Host (Bridge.sides (Address → Nat) Unit) where
  loader := .ok
  symbol := fun _ _ => .ok 512
  anySymbol := fun _ => none
  run := fun a _ words =>
    if a = 256 then
      Eff.update fun w =>
        let p := words.ints.headD 0
        ({ int := p }, { w with native := fun q => if q = p then w.native q + 1 else w.native q })
    else pure {}
  limit := 0
  script := fun _ _ => stuck
  answer := fun _ => stuck
  scriptTurn := stuck
  loopTurn := stuck

lemma countingHost_native (a : Address) (call : CallCode (Bridge.sides (Address → Nat) Unit)) (words : Registers) :
    NativeCode call (countingHost.run a call words) := by
  unfold countingHost
  dsimp only
  split
  · exact .own (fun w => (_, _, w.heap)) fun w => le_rfl
  · exact .pure _

lemma countingHost_tied : countingHost.Tied :=
  .ground countingHost_native (fun _ _ => rfl) (fun _ => rfl) rfl rfl

/-- References are what the counting host counts. -/
def references : Counts (Bridge.sides (Address → Nat) Unit) where
  refs := fun n p => n p
  copies := fun _ => 0

/-- Only the function that adds a reference is there. -/
def countingLifecycle : Lifecycle where
  bound := fun role => if role = .objectRef then some 256 else none
  libraries := []

lemma references_lawful : references.Lawful countingHost countingLifecycle := by
  refine ⟨fun a ha p hp w r w' hx => ?_, fun a ha => ?_, fun a ha => ?_, fun a ha => ?_,
    fun library inner a ha w r w' hx => ?_⟩
  · cases ha
    cases hx
    refine ⟨fun q => ?_, rfl⟩
    by_cases hq : q = p
    · simp [references, hq]
    · have hpq : p ≠ q := fun h => hq h.symm
      simp [references, hq, hpq]
  · cases ha
  · cases ha
  · cases ha
  · cases ha
    cases hx
    exact .rfl' _ _

/-- A run in which nothing is registered yet. -/
def emptyRun : World (Bridge.sides (Address → Nat) Unit) :=
  { World.opening (fun _ => 0) () .none with generation := 1, state := some { lifecycle := countingLifecycle } }

/-- The run with the object at 64 registered. -/
def oneObject : World (Bridge.sides (Address → Nat) Unit) :=
  { emptyRun with
    state := some { lifecycle := countingLifecycle, registry := (Registry.add {} (.object 64)).2 }
    handles := [(0, 1, 1)]
    minted := 1 }

lemma oneObject_reached : oneObject.Reached := by
  have hstart : Change (World.opening (fun _ => 0) () .none) emptyRun := .start _ _ rfl rfl
  exact ⟨_, _, _, .tail (.single hstart) (.wrap emptyRun _ rfl (.object 64))⟩

/-- An object that native code is to own, and a text where an integer should be. -/
def objectThenText : Call where
  library := [97]
  symbol := [98]
  args :=
    [{ type := .object false, value := .object (some ⟨1, some 0⟩) }, { type := .int 32 true, value := .string [99] }]

lemma objectThenText_lasting : objectThenText.lasting countingHost .undefined oneObject = [.reference 64] := by
  cbv

theorem failed_call_leaves_reference :
    ∃ e w', LoopState.holding (Call.prepare countingHost objectThenText .undefined) oneObject = some (.error e, w') ∧
      Call.Leaves references [.reference 64] oneObject w' := by
  have hfails : (LoopState.holding (Call.prepare countingHost objectThenText .undefined) oneObject).map
      (fun p => p.1.toOption.isSome) = some false := by
    cbv
  obtain ⟨⟨e | p, w'⟩, hx, he⟩ := Option.map_eq_some_iff.1 hfails
  · have h := failed_call_leaves_what_lasts countingHost_tied references oneObject_reached
      (fun s hs => by cases hs; exact references_lawful) hx
    rw [objectThenText_lasting] at h
    exact ⟨e, w', hx, h.2.1⟩
  · cases he

/-- **A call that fails can keep a reference.** -/
theorem reference_kept_by_failed_call :
    oneObject.native 64 = 0 ∧
      (Call.invoke countingHost objectThenText .undefined oneObject).map
        (fun p => (p.1.toOption.isSome, p.2.native 64)) = some (false, 1) := by
  constructor
  · rfl
  · cbv

end NativeBridge
