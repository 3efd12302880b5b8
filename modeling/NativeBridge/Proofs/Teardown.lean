import NativeBridge.Proofs.Evolution.Housekeeping

/-!
The release of objects, and the teardown of a state, which lets go of everything that the state owns or does nothing.
What is shown of a function for lifetimes and of a change of the state holds of a release and of letting go of all, if
it is a property that effects in sequence share.
-/

namespace NativeBridge

open Eff

variable {S : Sides} {h : Host S} {w : World S} {s : LoopState}

namespace Eff.Chains

variable {P : ∀ α : Type, Eff S α → Prop} {l : Lifecycle} (hp : Chains P)

include hp

lemma call? (hrun : ∀ a words, P Returned (h.run a (fun _ _ => stuck) words)) (role : LifecycleRole)
    (words : List Nat) : P (Option Nat) (l.call? h role words) := by
  unfold Lifecycle.call?
  split
  · exact hp.pure _
  · exact hp.bind (hrun _ _) fun _ => hp.pure _

lemma freeNative (hcall : ∀ role words, P (Option Nat) (l.call? h role words))
    (hfree : ∀ a, P Unit (Memory.release a)) (p : Address) : P Unit (l.free h p) :=
  hp.bind (hcall _ _) fun _ => Chains.ite (hfree p) (hp.pure _)

lemma drop (hcall : ∀ role words, P (Option Nat) (l.call? h role words)) (hfree : ∀ a, P Unit (Memory.release a))
    (o : Wrapper) : P Unit (o.drop h l) := by
  cases o with
  | object p | variant p => exact Chains.ite (hp.pure _) (hp.forget (hcall _ _))
  | boxed p type release =>
    refine Chains.ite (hp.pure _) ?_
    cases release with
    | boxedFree => exact hp.forget (hcall _ _)
    | memFree => exact hp.freeNative hcall hfree p
    | none => exact hp.pure _

/-- Objects go first, then what is retained. -/
lemma clear (hdrop : ∀ o : Wrapper, P Unit (o.drop h s.lifecycle)) (hupdate : ∀ f, P Unit (LoopState.update f))
    (hretained : ∀ r, P Unit (LoopState.releaseRetained r)) : P Unit (LoopState.clear h s) :=
  hp.bind (hupdate _) fun _ => hp.bind (hp.each hdrop _) fun _ => hp.bind (hupdate _) fun _ =>
    hp.bind (hp.each hretained _) fun _ => hupdate _

end Eff.Chains

lemma Eff.Sequences.require {P : ∀ α : Type, Eff S α → Prop} (hp : Sequences P) {l : Lifecycle}
    (hcall : ∀ role words, P (Option Nat) (l.call? h role words)) (role : LifecycleRole) (need : LifecycleNeed)
    (words : List Nat) : P Nat (l.require h role need words) := by
  refine hp.bind (hcall role words) fun r => ?_
  cases r with
  | some r => exact hp.pure r
  | none => exact hp.throw _

namespace LoopState

lemma teardown_of_absent (hw : ¬(w.thread = .loop ∧ w.state.isSome)) (h : Host S) :
    teardown h w = some (.ok (), w) := by
  rw [teardown, bind_ok (isInstalled_apply w), if_pos (by simpa using Decidable.not_and_iff_not_or_not.1 hw)]
  rfl

lemma teardown_of_inUse (ht : w.thread = .loop) (hs : w.state.isSome) (hu : w.inUse = true) (h : Host S) :
    teardown h w = some (.error .teardownInUse, w) := by
  rw [teardown, bind_ok (isInstalled_apply w), if_neg (by simp [ht, hs]), bind_ok (get_apply w), if_pos hu]
  rfl

lemma teardown_of_free (ht : w.thread = .loop) (hs : w.state = some s) (hu : w.inUse = false) (h : Host S) :
    teardown h w = (do
      clear h s
      uninstall : Eff S Unit) { w with inUse := true } := by
  rw [teardown, bind_ok (isInstalled_apply w), if_neg (by simp [ht, hs]), bind_ok (get_apply w), if_neg (by simp [hu])]
  beta_reduce
  rw [bind_ok (current_of_some hs), bind_ok (modify_apply _ w)]

/-- A teardown does nothing, or lets go of what the state owns and removes it. -/
lemma teardown_cases (h : Host S) (w : World S) :
    (∃ r, teardown h w = some (r, w)) ∨ ∃ s, w.state = some s ∧ w.inUse = false ∧ teardown h w = (do
      clear h s
      uninstall : Eff S Unit) { w with inUse := true } := by
  by_cases hw : w.thread = .loop ∧ w.state.isSome
  · obtain ⟨s, hs⟩ := Option.isSome_iff_exists.1 hw.2
    cases hu : w.inUse with
    | true => exact .inl ⟨_, teardown_of_inUse hw.1 hw.2 hu h⟩
    | false => exact .inr ⟨s, hs, rfl, teardown_of_free hw.1 hs hu h⟩
  · exact .inl ⟨_, teardown_of_absent hw h⟩

end LoopState

end NativeBridge
