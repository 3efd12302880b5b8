import NativeBridge.Proofs.Custody.Operations
import NativeBridge.Proofs.Evolution.Host

/-!
Work that is to hold the state of the loop thread is refused or begins. A teardown holds the state as well, and nothing
that it releases raises an error, so that the state is free when it ends.
-/

namespace NativeBridge

open Eff

variable {S : Sides}

namespace LoopState

/-- The error with which work that is to hold the state is refused. -/
def refusal? (w : World S) : Option Error :=
  if w.thread = .loop ∧ w.state.isSome then if w.inUse then some .reentrant else none else some .outsideLoop

lemma holding_of_refusal {α : Type} {w : World S} {e : Error} (h : refusal? w = some e) (x : Eff S α) :
    holding x w = some (.error e, w) := by
  rw [holding, bind_ok (isInstalled_apply w)]
  unfold refusal? at h
  split at h
  next hi =>
    split at h
    · next hu =>
      cases h
      simp [hi.1, hi.2, hu, bind_apply]
    · cases h
  next hi =>
    cases h
    rw [if_pos (by simp only [not_and_or] at hi; simpa using hi.imp_right (by simp))]
    rfl

/-- Work that is not refused runs with the state in use, and the state is free again when it ends. -/
lemma holding_of_granted {α : Type} {w : World S} (h : refusal? w = none) (x : Eff S α) :
    holding x w = (x { w with inUse := true }).map fun p => (p.1, { p.2 with inUse := false }) := by
  unfold refusal? at h
  split at h
  next hi =>
    split at h
    · cases h
    · next hu =>
      rw [holding, bind_ok (isInstalled_apply w), if_neg (by simp [hi.1, hi.2])]
      beta_reduce
      rw [bind_ok (get_apply w), if_neg hu]
      beta_reduce
      rw [bind_ok (modify_apply _ w), andFinally, bind_apply, attempt_apply]
      rcases x { w with inUse := true } with _ | ⟨r, w₁⟩
      · rfl
      · simp [bind_apply, ofExcept_apply]
  next => cases h

lemma isSome_of_granted {w : World S} (h : refusal? w = none) : w.state.isSome := by
  unfold refusal? at h
  split at h
  · next hi => exact hi.2
  · cases h

lemma refusal?_of_free {w : World S} {e : Error} (hu : w.inUse = false) (h : refusal? w = some e) :
    w.thread ≠ .loop ∨ w.state = none := by
  unfold refusal? at h
  split at h
  · simp [hu] at h
  · next hi =>
    by_cases ht : w.thread = .loop
    · exact .inr (by simpa [ht] using hi)
    · exact .inl ht

/-- An object is taken out of the registry by work that holds the state, and is released after that work. -/
lemma removeObject_of_granted {w : World S} {s : LoopState} (h : Host S) (id : ObjectId) (hr : refusal? w = none)
    (hs : w.state = some s) :
    removeObject h id w = (s.registry.take id).1.elim (pure ()) (Wrapper.drop h s.lifecycle)
      { w with state := some { s with registry := (s.registry.take id).2 }, inUse := false } := by
  rw [removeObject, bind_apply, holding_of_granted hr, bind_ok (current_of_some (w := { w with inUse := true }) hs)]
  simp only [update, bind_apply, modify_apply, pure_apply, hs, Option.map_some, Option.bind_some]
  cases (s.registry.take id).1 <;> rfl

end LoopState

namespace Access

/-! ### Teardown -/

/-- An effect that raises no error, and leaves the state in use or free as it was. -/
def Smooth {α : Type} (x : Eff S α) : Prop := ∀ ⦃w r w'⦄, x w = some (r, w') → (∃ a, r = .ok a) ∧ w'.inUse = w.inUse

namespace Smooth

lemma chains : Chains fun _ (x : Eff S _) => Smooth x where
  pure a w r w' hx := by
    cases hx
    exact ⟨⟨a, rfl⟩, rfl⟩
  bind hx hf := by
    intro w r w' h
    rcases bind_eq_some.1 h with ⟨a, w₁, h₁, h₂⟩ | ⟨e, h₁, -⟩
    · obtain ⟨hr, hu⟩ := hf a h₂
      exact ⟨hr, hu.trans (hx h₁).2⟩
    · obtain ⟨⟨_, hr⟩, -⟩ := hx h₁
      cases hr

lemma modify {f : World S → World S} (hf : ∀ w, (f w).inUse = w.inUse) : Smooth (modify f : Eff S PUnit) := by
  intro w r w' hx
  cases hx
  exact ⟨⟨_, rfl⟩, hf w⟩

lemma releaseRetained (r : Retained) : Smooth (LoopState.releaseRetained r : Eff S Unit) := by
  intro w q w' hx
  obtain ⟨w₁, h₁, haside⟩ := Custody.releaseRetained_aside r w
  rw [h₁] at hx
  cases hx
  exact ⟨⟨_, rfl⟩, haside.inUse⟩

lemma clear {h : Host S} (hcode : ∀ a call words, NativeCode call (h.run a call words)) (s : LoopState) :
    Smooth (LoopState.clear h s) := by
  have hrun (a : Address) (words : Registers) : Smooth (h.run a (fun _ _ => Eff.stuck) words) := fun w r w' hx => by
    obtain ⟨hr, native, heap, -, rfl⟩ := (hcode _ _ _).outside hx
    exact ⟨hr, rfl⟩
  have hfree (a : Address) : Smooth (Memory.release a : Eff S Unit) := modify fun _ => rfl
  exact chains.clear (chains.drop (chains.call? hrun) hfree) (fun _ => modify fun _ => rfl) releaseRetained

end Smooth

/-- A teardown that begins where the state is free leaves it free. -/
lemma inUse_of_teardown {h : Host S} (hcode : ∀ a call words, NativeCode call (h.run a call words)) {w w' : World S}
    {r : Except Error Unit} (hu : w.inUse = false) (hx : LoopState.teardown h w = some (r, w')) : w'.inUse = false := by
  rcases LoopState.teardown_cases h w with ⟨q, hq⟩ | ⟨s, -, -, hq⟩
  · cases hq.symm.trans hx
    exact hu
  · rw [hq] at hx
    rcases bind_eq_some.1 hx with ⟨_, w₁, h₁, h₂⟩ | ⟨e, h₁, -⟩
    · cases h₂
      rfl
    · obtain ⟨⟨_, hr⟩, -⟩ := Smooth.clear hcode s h₁
      cases hr

end Access

end NativeBridge
