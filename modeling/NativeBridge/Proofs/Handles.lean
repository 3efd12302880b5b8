import NativeBridge.Dispatch.LoopDispatch
import NativeBridge.Proofs.Effect

/-!
Letting go of handles. It changes the handles and the queue of tasks and raises nothing, so work that lets go of what it
made when it fails does what the work does in every other respect.
-/

namespace NativeBridge

open Eff

variable {S : Sides}

/-- The queue after the removal of what a handle stands for was sent. -/
def World.told (w : World S) (key : HandleKey) : LoopQueue (Task S.Job) :=
  match w.handles.lookup key with
  | some (id, generation) =>
    if generation = w.generation ∧ w.loopAlive generation then (w.loop.schedule (.remove id)).1 else w.loop
  | none => w.loop

namespace LoopDispatch

lemma filter_of_lookup_none {β : Type} {l : List (Nat × β)} {k : Nat} (hk : l.lookup k = none) :
    l.filter (·.1 != k) = l := by
  refine List.filter_eq_self.2 fun e he => ?_
  have hne := List.lookup_eq_none_iff.1 hk e he
  simpa [bne, Bool.beq_comm] using hne

lemma finalize_apply (key : HandleKey) (w : World S) :
    finalize key w = some (.ok (), { w with handles := w.handles.filter (·.1 != key), loop := w.told key }) := by
  rw [finalize, bind_ok (get_apply w), World.told]
  rcases hk : w.handles.lookup key with _ | ⟨id, generation⟩
  · simp [filter_of_lookup_none hk]
  · dsimp only
    rw [bind_ok (set_apply _ w), if_apply]
    split
    · rcases hs : w.loop.schedule (.remove id) with ⟨loop, _ | _⟩ <;> simp [schedule, hs, abandon]
    · rfl

lemma letGo_apply (keys : List HandleKey) (w : World S) :
    ∃ w', letGo keys w = some (.ok (), w') ∧ w'.handles = w.handles.filter (fun e => e.1 ∉ keys) := by
  induction keys generalizing w with
  | nil => exact ⟨w, rfl, (List.filter_eq_self.2 fun _ _ => by simp).symm⟩
  | cons key rest ih =>
    obtain ⟨w', h, hw'⟩ := ih { w with handles := w.handles.filter (·.1 != key), loop := w.told key }
    refine ⟨w', by rw [letGo, each, bind_ok (finalize_apply key w)]; exact h, ?_⟩
    rw [hw', List.filter_filter]
    refine List.filter_congr fun e _ => ?_
    by_cases he : e.1 = key <;> simp [he]

variable {α : Type} {x : Eff S α} {w w' : World S}

/-- Work that unwinds ends with a value where the work does, and lets go of handles where the work raises an error. -/
lemma unwinding_eq_some {r : Except Error α} :
    unwinding x w = some (r, w') ↔
      (∃ a, x w = some (.ok a, w') ∧ r = .ok a) ∨
        ∃ e w₁, x w = some (.error e, w₁) ∧ r = .error e ∧
          letGo ((w₁.handles.map Prod.fst).filter (w.minted ≤ ·)) w₁ = some (.ok (), w') := by
  rw [unwinding, bind_ok (get_apply w), attempt_bind_eq_some]
  constructor
  · rintro ⟨_ | a, w₁, hx, h⟩
    · next e =>
      dsimp only at h
      rw [bind_ok (get_apply w₁)] at h
      obtain ⟨w₂, hgo, -⟩ := letGo_apply ((w₁.handles.map Prod.fst).filter (w.minted ≤ ·)) w₁
      rw [bind_ok hgo] at h
      cases h
      exact .inr ⟨e, w₁, hx, rfl, hgo⟩
    · cases h
      exact .inl ⟨a, hx, rfl⟩
  · rintro (⟨a, hx, rfl⟩ | ⟨e, w₁, hx, rfl, hgo⟩)
    · exact ⟨.ok a, w', hx, rfl⟩
    · refine ⟨.error e, w₁, hx, ?_⟩
      dsimp only
      rw [bind_ok (get_apply w₁), bind_ok hgo]
      rfl

lemma unwinding_ok {a : α} : unwinding x w = some (.ok a, w') ↔ x w = some (.ok a, w') := by
  rw [unwinding_eq_some]
  constructor
  · rintro (⟨b, hx, hb⟩ | ⟨e, w₁, -, he, -⟩)
    · cases hb
      exact hx
    · cases he
  · exact fun hx => .inl ⟨a, hx, rfl⟩

end LoopDispatch

/-- A relation that holds along work and where handles are let go of holds along the work that unwinds. -/
lemma Eff.Along.unwinding {R : World S → World S → Prop} [IsPreorder (World S) R] {α : Type} {x : Eff S α}
    (hx : Along R x) (hf : ∀ key, Along R (LoopDispatch.finalize key : Eff S Unit)) :
    Along R (LoopDispatch.unwinding x) := by
  intro w r w' h
  rcases LoopDispatch.unwinding_eq_some.1 h with ⟨a, h₁, -⟩ | ⟨e, w₁, h₁, -, h₂⟩
  · exact hx h₁
  · exact IsTrans.trans _ _ _ (hx h₁) (Along.each hf _ h₂)

end NativeBridge
