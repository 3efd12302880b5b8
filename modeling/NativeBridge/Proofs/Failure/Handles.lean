import NativeBridge.Proofs.Evolution.Dispatch
import NativeBridge.Proofs.Table

/-!
What becomes of a handle. It is held until it is let go of, and then the removal of its object is sent to the loop that
made it, if that still takes tasks. The task that removes an object takes it from the registry and releases it.
-/

namespace NativeBridge

open Eff

variable {S : Sides}

/-! ### Keys -/

/-- No two handles have one key, and keys that are still to be given are not in use. -/
structure World.Keyed (w : World S) : Prop where
  nodup : (w.handles.map Prod.fst).Nodup
  minted : ∀ e ∈ w.handles, e.1 < w.minted

lemma World.Keyed.step {w w' : World S} (hw : w.Keyed) (hc : Change w w') : w'.Keyed := by
  cases hc with
  | wrap s h o =>
    refine ⟨?_, fun e he => ?_⟩
    · rw [List.map_append, List.nodup_append]
      refine ⟨hw.nodup, List.nodup_singleton _, fun key hkey new hnew => ?_⟩
      obtain ⟨e, he, rfl⟩ := List.mem_map.1 hkey
      rw [List.mem_singleton.1 hnew]
      exact (hw.minted e he).ne
    · rcases List.mem_append.1 he with he | he
      · exact Nat.lt_succ_of_lt (hw.minted e he)
      · rw [List.mem_singleton.1 he]
        exact Nat.lt_succ_self _
  | handles hs h => exact ⟨hw.nodup.sublist (h.map _), fun e he => hw.minted e (h.subset he)⟩
  | _ => exact ⟨hw.nodup, hw.minted⟩

lemma World.Keyed.evolves {w w' : World S} (hw : w.Keyed) (h : Evolves w w') : w'.Keyed := by
  induction h with
  | refl => exact hw
  | tail _ hc ih => exact ih.step hc

lemma World.Reached.keyed {w : World S} (hw : w.Reached) : w.Keyed :=
  hw.invariant (fun _ _ _ => ⟨List.nodup_nil, fun _ he => (nomatch he)⟩) World.Keyed.step

/-! ### Handles that are let go of -/

/-- The loop of a generation still takes tasks. -/
def World.Takes (w : World S) (generation : Nat) : Prop :=
  generation = w.generation ∧ w.loopAlive generation ∧ w.loop.stopped = false

/-- On the way from one world to another a handle goes. If the loop that it was made for still takes tasks then, the
removal of its object is sent. -/
def Forsaken (e : HandleKey × ObjectId × Nat) (w w' : World S) : Prop :=
  ∃ z z', Evolves w z ∧ e ∈ z.handles ∧ LoopDispatch.finalize e.1 z = some (.ok (), z') ∧ Evolves z' w' ∧
    (z.Takes e.2.2 → .remove e.2.1 ∈ z'.loop.pending)

lemma Forsaken.trans {e : HandleKey × ObjectId × Nat} {u w w' u' : World S} (hw : Evolves u w) (h : Forsaken e w w')
    (hw' : Evolves w' u') : Forsaken e u u' := by
  obtain ⟨z, z', hz, he, hx, hz', hsent⟩ := h
  exact ⟨z, z', hw.trans hz, he, hx, hz'.trans hw', hsent⟩

lemma told_pending {z : World S} {key : HandleKey} {id : ObjectId} {generation : Nat}
    (he : z.handles.lookup key = some (id, generation)) (ht : z.Takes generation) :
    .remove id ∈ (z.told key).pending := by
  rw [World.told, he]
  dsimp only
  rw [if_pos ⟨ht.1, ht.2.1⟩, LoopQueue.pending_schedule _ ht.2.2]
  exact List.mem_append_right _ (List.mem_singleton.2 rfl)

/-- A handle that is held is held or let go of later on. -/
structure Lasts (e : HandleKey × ObjectId × Nat) (w w' : World S) : Prop where
  comes : Evolves w w'
  held : w.Keyed → e ∈ w.handles → e ∈ w'.handles ∨ Forsaken e w w'

namespace Lasts

variable {e : HandleKey × ObjectId × Nat}

instance : IsPreorder (World S) (Lasts e) where
  refl w := ⟨.refl, fun _ he => .inl he⟩
  trans u v w h h' := by
    refine ⟨h.comes.trans h'.comes, fun hk he => ?_⟩
    rcases h.held hk he with hv | hv
    · rcases h'.held (hk.evolves h.comes) hv with hw | hw
      · exact .inl hw
      · exact .inr (hw.trans h.comes .refl)
    · exact .inr (hv.trans .refl h'.comes)

lemma finalize (key : HandleKey) : Along (Lasts e) (LoopDispatch.finalize key : Eff S Unit) := by
  intro w r w' hx
  have hcomes : Evolves w w' := Evolution.finalize_evolves key hx
  rw [LoopDispatch.finalize_apply] at hx
  obtain ⟨rfl, rfl⟩ := Prod.mk.inj (Option.some.inj hx)
  refine ⟨hcomes, fun hk he => ?_⟩
  by_cases hkey : e.1 = key
  · subst hkey
    exact .inr ⟨w, _, .refl, he, LoopDispatch.finalize_apply _ w, .refl, told_pending (lookup_of_mem hk.nodup he)⟩
  · exact .inl (List.mem_filter.2 ⟨he, by simpa using hkey⟩)

instance : Permits (Lasts (S := S) e) :=
  Evolution.permitsOfChanges (fun hc hh => ⟨.single hc, fun _ he => .inl (hh.subset he)⟩) finalize

end Lasts

/-! ### Handles that are let go of one after the other -/

/-- A handle goes on the way. If the loop that it was made for still takes tasks then, the removal of its object is in
the queue at the end. -/
def Sent (e : HandleKey × ObjectId × Nat) (w w' : World S) : Prop :=
  ∃ z z', Evolves w z ∧ e ∈ z.handles ∧ LoopDispatch.finalize e.1 z = some (.ok (), z') ∧ Evolves z' w' ∧
    (z.Takes e.2.2 → .remove e.2.1 ∈ w'.loop.pending)

lemma Sent.trans {e : HandleKey × ObjectId × Nat} {u w w' u' : World S} (hw : Evolves u w) (h : Sent e w w')
    (hw' : Evolves w' u') (hp : w'.loop.pending ⊆ u'.loop.pending) : Sent e u u' := by
  obtain ⟨z, z', hz, he, hx, hz', hsent⟩ := h
  exact ⟨z, z', hw.trans hz, he, hx, hz'.trans hw', fun ht => hp (hsent ht)⟩

/-- What waits still waits. -/
def Waiting (w w' : World S) : Prop := w.loop.pending ⊆ w'.loop.pending

instance : IsPreorder (World S) Waiting where
  refl _ := List.Subset.refl _
  trans _ _ _ h h' := List.Subset.trans h h'

lemma Waiting.finalize (key : HandleKey) : Along Waiting (LoopDispatch.finalize key : Eff S Unit) := by
  intro w r w' hx
  rw [LoopDispatch.finalize_apply] at hx
  cases hx
  unfold Waiting World.told
  split
  · split
    · unfold LoopQueue.schedule
      split
      · exact List.Subset.refl _
      · dsimp only
        rw [LoopQueue.pending_arm]
        exact List.subset_append_left _ _
    · exact List.Subset.refl _
  · exact List.Subset.refl _

/-- The removals of the objects whose handles are let go of are in the queue at the end. -/
lemma letGo_sent {e : HandleKey × ObjectId × Nat} {keys : List HandleKey} {w w' : World S} (hw : w.Keyed)
    (he : e ∈ w.handles) (hk : e.1 ∈ keys) (hx : LoopDispatch.letGo keys w = some (.ok (), w')) : Sent e w w' := by
  induction keys generalizing w with
  | nil => cases hk
  | cons key rest ih =>
    have hkey := LoopDispatch.finalize_apply key w
    have hcomes := Evolution.finalize_evolves key hkey
    rw [LoopDispatch.letGo, each, bind_ok hkey] at hx
    by_cases hsame : e.1 = key
    · subst hsame
      refine ⟨w, _, .refl, he, hkey, Evolution.letGo rest hx, fun ht => ?_⟩
      exact Along.each Waiting.finalize rest hx (told_pending (lookup_of_mem hw.nodup he) ht)
    · have hrest := ih (hw.evolves hcomes) (List.mem_filter.2 ⟨he, by simpa using hsame⟩)
        ((List.mem_cons.1 hk).resolve_left hsame) hx
      exact hrest.trans hcomes .refl (List.Subset.refl _)

/-! ### The task that removes an object -/

/-- The loop thread is free to work with its state. -/
structure World.Free (w : World S) (s : LoopState) : Prop where
  state : w.state = some s
  thread : w.thread = .loop
  inUse : w.inUse = false

/-- The task takes an object from the registry, and then lets go of it. -/
lemma run_remove (h : Host S) {w : World S} {s : LoopState} (hw : w.Free s) {id : ObjectId} {o : Wrapper}
    (ho : s.registry.find? id = some o) :
    LoopDispatch.run h (.remove id) w =
      (do let _ ← Eff.attempt (o.drop h s.lifecycle) : Eff S Unit)
        { w with state := some { s with registry := (s.registry.take id).2 } } := by
  have htake : (LoopState.holding do
      let s ← LoopState.current
      LoopState.update fun t => { t with registry := (s.registry.take id).2 }
      return ((s.registry.take id).1, s.lifecycle) : Eff S (Option Wrapper × Lifecycle)) w =
        some (.ok (some o, s.lifecycle), { w with state := some { s with registry := (s.registry.take id).2 } }) := by
    simp [LoopState.holding, LoopState.isInstalled, LoopState.current, LoopState.update, Eff.andFinally, bind_apply,
      attempt_apply, if_apply, map_apply, Except.map, ofExcept_apply, Registry.take, hw.state, hw.thread, hw.inUse, ho]
  have hremove : LoopState.removeObject h id w =
      o.drop h s.lifecycle { w with state := some { s with registry := (s.registry.take id).2 } } :=
    bind_ok htake
  rw [LoopDispatch.run, bind_apply, bind_apply, attempt_apply, attempt_apply, hremove]

end NativeBridge
