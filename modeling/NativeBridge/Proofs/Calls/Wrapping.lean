import NativeBridge.Native.Readback
import NativeBridge.Proofs.Teardown

/-!
How a value takes hold of a pointer: a wrapper comes to hold it, and is registered.
-/

namespace NativeBridge

open Eff

variable {S : Sides}

/-- The wrapper by which a value of an object-like type takes hold of a pointer. -/
def wrapperFor (h : Host S) (l : Lifecycle) (p : Address) (type : Descriptor) (transfer : Bool) : Eff S Wrapper :=
  match type with
  | .object _ => if transfer then Wrapper.objectFull h l p else Wrapper.objectNone h l p
  | .boxed _ inner lib => do
    let id ← boxedTypeId h inner lib
    if transfer then pure (Wrapper.boxedFull p id) else Wrapper.boxedNone h l p id
  | _ => if transfer then pure (Wrapper.variantFull p) else Wrapper.variantNone h l p

lemma wrapObject_eq (h : Host S) {p : Address} (hp : p ≠ 0) (type : Descriptor) (transfer : Bool) :
    wrapObject h p type transfer = (do
      let l ← LoopState.currentLifecycle
      let o ← wrapperFor h l p type transfer
      return .object (some (← LoopState.wrap o))) := by
  rw [wrapObject, if_neg hp]
  refine congrArg (LoopState.currentLifecycle >>= ·) (funext fun l => ?_)
  cases type <;> cases transfer <;> simp [wrapperFor]

section

variable {R : World S → World S → Prop} [Housekeeping R] {h : Host S}
  (hq : ∀ a words, Along R (h.run a (fun _ _ => Eff.stuck) words)) (l : Lifecycle)

include hq

lemma Lifecycle.along_call? (role : LifecycleRole) (words : List Nat) : Along R (l.call? h role words) :=
  Along.composes.call? hq role words

lemma Lifecycle.along_require (role : LifecycleRole) (need : LifecycleNeed) (words : List Nat) :
    Along R (l.require h role need words) := Along.composes.require (along_call? hq l) role need words

lemma Lifecycle.along_free (p : Address) : Along R (l.free h p) :=
  Along.composes.freeNative (along_call? hq l) Housekeeping.release p

lemma Lifecycle.along_strfreev (p : Address) : Along R (l.strfreev h p) :=
  .ite (.pure _) (.bind (along_call? hq l _ _) fun _ => .ite (.pure _) (.bind .get fun _ =>
    .bind (.each (along_free hq l) _) fun _ => along_free hq l p))

/-- Taking hold of a pointer registers nothing, and leads along what allows for native code. -/
lemma along_wrapperFor (p : Address) (type : Descriptor) (transfer : Bool) :
    Along R (wrapperFor h l p type transfer) := by
  have hcall := Lifecycle.along_call? hq
  have hrequire := Lifecycle.along_require hq
  unfold wrapperFor
  split
  · refine .ite ?_ ?_
    · refine .ite (.bind (.bind (hcall l _ _) fun _ => .pure _) fun _ => .ite ?_ (.pure _)) (.pure _)
      exact .bind (.bind (hcall l _ _) fun _ => .pure _) fun _ => .pure _
    · exact .ite (.bind (hrequire l _ _ _) fun _ => .pure _) (.pure _)
  · refine .bind (fun _ _ _ hx => ?_) fun id =>
      .ite (.pure _) (.ite (.bind (hrequire l _ _ _) fun _ => .pure _) (.pure _))
    exact Housekeeping.boxedTypeId (fun s _ => hcall s.lifecycle _) (fun _ a _ => hq a _) hx
  · refine .ite (.pure _) (.ite (.bind (.bind (hcall l _ _) fun r => ?_) fun _ => .pure _) (.pure _))
    cases r with
    | some r => exact .pure r
    | none => exact hrequire l _ _ _

end

end NativeBridge
