import NativeBridge.Proofs.Custody.Operations
import NativeBridge.Proofs.Ownership.Shelf

/-!
When objects are released: none while a script has a handle of it and the loop runs, and each of them once after the
stop and a teardown.
-/

namespace NativeBridge.Custody

variable {S : Sides} {h : Host S} {l : Lifecycle} {s s₀ : State S}

namespace State

/-- An identity in the registry stands for the object that was wrapped under it. -/
lemma Kept.resolve (hk : s.Kept l) {id : ObjectId} (hid : id ∈ s.world.registered.map Prod.fst) :
    ∃ o st, (id, o) ∈ s.wrapped ∧ s.world.state = some st ∧ st.registry.resolve id = some o.pointer := by
  obtain ⟨⟨_, o⟩, he, rfl⟩ := List.mem_map.1 hid
  rcases hstate : s.world.state with _ | st
  · rw [World.registered, World.estate, hstate] at he
    cases he
  · have hkeys := hk.registered_nodup
    have hmem := hk.objects.mem_iff.2 (List.mem_append_left _ he)
    rw [registered_of_state hstate] at he hkeys
    refine ⟨o, st, hmem, rfl, ?_⟩
    rw [Registry.resolve, Registry.find?, lookup_of_mem hkeys he]
    rfl

/-- What was released is not in the registry. -/
lemma Kept.not_registered_of_released (hk : s.Kept l) {e : ObjectId × Wrapper} (he : e ∈ s.released) :
    e.1 ∉ s.world.registered.map Prod.fst := by
  intro hid
  have hids := (hk.objects.map Prod.fst).nodup_iff.1 hk.ids
  rw [List.map_append, List.map_append] at hids
  exact (List.nodup_append.1 hids).2.2 _ hid _ (List.mem_append_right _ (List.mem_map_of_mem he)) rfl

/-- Where no state is left, all objects are released. -/
lemma Kept.released_perm (hk : s.Kept l) (hstate : s.world.state = none) : s.released.Perm s.wrapped := by
  have hestate : s.world.estate = none := by rw [World.estate, hstate]; rfl
  have hobjects := hk.objects
  rw [World.registered, hestate, hk.vacant hestate] at hobjects
  exact hobjects.symm

end State

/-- **Every object is released once.** While the loop runs, the registry has the identities of the handles that scripts
hold and those whose removal waits, each of them once, and between two halves of an operation those that it is amid.
Every identity resolves to the pointer that was wrapped under it, and what has been released has no handle. A teardown
after the stop ends; then no registry is left, and what was released is what was wrapped, under distinct identities. -/
theorem released_once (hl : Silent h l) (h₀ : s₀.Opening l) (hr : Run h l s₀ s) :
    (s.wrapped.map Prod.fst).Nodup ∧ s.released.Subperm s.wrapped ∧
      (s.world.loop.stopped = false →
        (s.world.registered.map Prod.fst).Perm (s.world.live ++ (s.world.queued ++ s.amid)) ∧
          (s.world.registered.map Prod.fst).Nodup ∧
          (∀ id ∈ s.world.registered.map Prod.fst, ∃ o st,
            (id, o) ∈ s.wrapped ∧ s.world.state = some st ∧ st.registry.resolve id = some o.pointer) ∧
          ∀ e ∈ s.released, e.1 ∉ s.world.live) ∧
      (s.world.loop.stopped → s.loop = [] → ∃ w released, LoopState.teardown h s.world = some (.ok (), w) ∧
        w.state = none ∧ Run h l s { s with world := w, released } ∧ released.Perm s.wrapped) ∧
      (s.world.state = none → s.released.Perm s.wrapped) := by
  have hs := h₀.sound.run hl hr
  refine ⟨hs.kept.ids, ?_, fun ho => ⟨hs.tallied ho, hs.kept.registered_nodup, fun id => hs.kept.resolve, ?_⟩, ?_,
    hs.kept.released_perm⟩
  · refine List.Sublist.subperm ?_ |>.trans hs.kept.objects.symm.subperm
    exact (List.sublist_append_right _ _).trans (List.sublist_append_right _ _)
  · intro e he hlive
    exact hs.kept.not_registered_of_released he ((hs.tallied ho).mem_iff.2 (List.mem_append_left _ hlive))
  · intro hstop hloop
    obtain ⟨w, released, hx, hstate, hrun⟩ := teardown_run hs.kept hs.held hl hloop hstop
    refine ⟨w, released, hx, hstate, hrun, ?_⟩
    exact (hs.run hl hrun).kept.released_perm hstate

/-! ### Two objects -/

lemma ledger_silent : Silent Shelf.ledgerHost Shelf.ledgerLifecycle := by
  intro role a ha words w
  cases ha
  exact ⟨_, _, Shelf.ledgerHost_run role words w, rfl, rfl, fun _ => rfl, rfl, rfl, rfl, rfl, rfl, rfl⟩

/-- A loop state with native functions that keep a ledger. -/
def installed : State ⟨Ledger, Unit, Unit, Unit⟩ where
  world := { native := {}, side := (), state := some { lifecycle := Shelf.ledgerLifecycle } }
  loop := []
  leaving := []
  wrapped := []
  released := []

lemma installed_opening : installed.Opening Shelf.ledgerLifecycle :=
  ⟨rfl, rfl, rfl, rfl, rfl, rfl, rfl, rfl, rfl, rfl, List.nodup_nil, fun _ he => absurd he List.not_mem_nil⟩

/-- One object is released as its handle goes, and the other one by the teardown. -/
theorem released_once_of_two :
    ∃ s w, ∃ released : List (ObjectId × Wrapper), Run Shelf.ledgerHost Shelf.ledgerLifecycle installed s ∧
      s.released = [(1, .object 64)] ∧ LoopState.teardown Shelf.ledgerHost s.world = some (.ok (), w) ∧
      released.Perm [(2, .object 80), (1, .object 64)] := by
  have stopped : ∃ s, Run Shelf.ledgerHost Shelf.ledgerLifecycle installed s ∧ s.world.loop.stopped ∧ s.loop = [] ∧
      s.wrapped = [(2, .object 80), (1, .object 64)] ∧ s.released = [(1, .object 64)] := by
    refine Exchange.reached_of_step (.hold (fun f hf => by cases hf) rfl rfl rfl) ?_
    refine Exchange.reached_of_step (.wrap (o := .object 64) rfl rfl) ?_
    refine Exchange.reached_of_step (.wrap (o := .object 80) rfl rfl) ?_
    refine Exchange.reached_of_step (.letGo rfl) ?_
    refine Exchange.reached_of_step (.lose (show LoopDispatch.lose 0 _ = _ from rfl) rfl) ?_
    refine Exchange.reached_of_step (.queue List.mem_cons_self rfl) ?_
    refine Exchange.reached_of_step (.serve (fun f hf => by cases hf) rfl) ?_
    refine Exchange.reached_of_step (.unregister rfl rfl) ?_
    refine Exchange.reached_of_step (.release rfl rfl) ?_
    refine Exchange.reached_of_step (.released rfl) ?_
    refine Exchange.reached_of_step (.close rfl) ?_
    refine Exchange.reached_of_step (.sweep rfl rfl) ?_
    exact ⟨_, .refl, rfl, rfl, rfl, rfl⟩
  obtain ⟨s, hr, hstop, hloop, hwrapped, hreleased⟩ := stopped
  obtain ⟨-, -, -, hteardown, -⟩ := released_once ledger_silent installed_opening hr
  obtain ⟨w, released, hx, -, -, hperm⟩ := hteardown hstop hloop
  exact ⟨s, w, released, hr, hreleased, hx, hwrapped ▸ hperm⟩

end NativeBridge.Custody
