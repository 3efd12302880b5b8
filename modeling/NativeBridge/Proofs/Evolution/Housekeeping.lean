import Mathlib.Tactic.DefEqTransformations
import NativeBridge.Native.Marshal
import NativeBridge.Proofs.Effect

/-!
The operations of a loop state and of its functions for lifetimes, each by what it gives and the world it leads to, and
conversions that touch nothing but memory and the libraries. Those are followed here for any relation that allows for
that much, so that coarse and fine accounts of a call share them.
-/

namespace NativeBridge

variable {S : Sides}

namespace LoopState

lemma current_of_some {w : World S} {s : LoopState} (hs : w.state = some s) :
    (current : Eff S LoopState) w = some (.ok s, w) := by
  simp [current, Eff.bind_apply, hs]

lemma current_of_none {w : World S} (hs : w.state = none) :
    (current : Eff S LoopState) w = some (.error .outsideLoop, w) := by
  simp [current, Eff.bind_apply, hs]

lemma currentLifecycle_of_some {w : World S} {s : LoopState} (hs : w.state = some s) :
    (currentLifecycle : Eff S Lifecycle) w = some (.ok s.lifecycle, w) := by
  rw [currentLifecycle, Eff.bind_ok (current_of_some hs)]
  rfl

lemma currentLifecycle_of_none {w : World S} (hs : w.state = none) :
    (currentLifecycle : Eff S Lifecycle) w = some (.error .outsideLoop, w) := by
  rw [currentLifecycle, Eff.bind_error (current_of_none hs)]

open Eff

lemma isInstalled_apply (w : World S) :
    (isInstalled : Eff S Bool) w = some (.ok (w.thread = .loop && w.state.isSome), w) := rfl

/-- Registering an object and minting its handle are one change. -/
lemma wrap_of_some {w : World S} {s : LoopState} (hs : w.state = some s) (o : Wrapper) :
    wrap o w = some (.ok ⟨s.registry.nextId, some w.minted⟩,
      { w with
        state := some { s with registry := (s.registry.add o).2 }
        handles := w.handles ++ [(w.minted, s.registry.nextId, w.generation)]
        minted := w.minted + 1 }) := by
  simp [wrap, current, LoopState.update, bind_apply, hs, Registry.add]

lemma wrap_of_none {w : World S} (hs : w.state = none) (o : Wrapper) :
    wrap o w = some (.error .outsideLoop, w) := by
  rw [wrap, bind_error (current_of_none hs)]

/-- A handle is made only for the state of a running bridge. -/
lemma wrap_ok {w w' : World S} {o : Wrapper} {k : Handle} (hx : wrap o w = some (.ok k, w')) :
    ∃ s, w.state = some s ∧ k = ⟨s.registry.nextId, some w.minted⟩ ∧
      w' = { w with
        state := some { s with registry := (s.registry.add o).2 }
        handles := w.handles ++ [(w.minted, s.registry.nextId, w.generation)]
        minted := w.minted + 1 } := by
  cases hs : w.state with
  | none =>
    rw [wrap_of_none hs] at hx
    cases hx
  | some s =>
    rw [wrap_of_some hs] at hx
    cases hx
    exact ⟨s, rfl, rfl, rfl⟩

lemma wrap_error {w w' : World S} {o : Wrapper} {e : Error} (hx : wrap o w = some (.error e, w')) : w' = w := by
  cases hs : w.state with
  | none =>
    rw [wrap_of_none hs] at hx
    cases hx
    rfl
  | some s =>
    rw [wrap_of_some hs] at hx
    cases hx

/-- Work that holds the state is refused before it begins, or runs with the state in use. -/
lemma holding_eq_some {α : Type} {x : Eff S α} {w w' : World S} {r : Except Error α}
    (hx : holding x w = some (r, w')) :
    (¬(w.thread = .loop ∧ w.state.isSome ∧ w.inUse = false) ∧ w' = w ∧ ∃ e, r = .error e) ∨
      (w.thread = .loop ∧ w.state.isSome ∧ w.inUse = false) ∧
        ∃ w₁, x { w with inUse := true } = some (r, w₁) ∧ w' = { w₁ with inUse := false } := by
  rw [holding, bind_ok (isInstalled_apply w)] at hx
  rcases guard_eq_some.1 hx with ⟨hc, rfl, rfl⟩ | ⟨hc, hx⟩
  · exact .inl ⟨fun h => by simp [h.1, h.2.1] at hc, rfl, _, rfl⟩
  · beta_reduce at hx
    rw [bind_ok (get_apply w)] at hx
    rcases guard_eq_some.1 hx with ⟨hu, rfl, rfl⟩ | ⟨hu, hx⟩
    · exact .inl ⟨fun h => by simp [h.2.2] at hu, rfl, _, rfl⟩
    · beta_reduce at hx
      rw [bind_ok (modify_apply _ w)] at hx
      obtain ⟨r₁, w₁, h₁, h₂⟩ := attempt_bind_eq_some.1 hx
      rw [bind_ok (modify_apply _ w₁), ofExcept_apply] at h₂
      cases h₂
      simp only [Bool.not_eq_true', Bool.not_eq_false, Bool.and_eq_true, decide_eq_true_eq] at hc hu
      exact .inr ⟨⟨hc.1, hc.2, by simpa using hu⟩, w₁, h₁, rfl⟩

end LoopState

/-- A handle is looked up in the registry. -/
lemma resolveObject_of_some {w : World S} {s : LoopState} (hs : w.state = some s) (v : Handle) :
    resolveObject (some v) w =
      some ((s.registry.find? v.id).elim (.error (.released v.id)) fun o => .ok o.pointer, w) := by
  simp only [resolveObject, Eff.bind_ok (LoopState.current_of_some hs), Registry.resolve]
  cases s.registry.find? v.id <;> rfl

namespace Lifecycle

open Eff

variable {h : Host S} {l : Lifecycle} {role : LifecycleRole} {need : LifecycleNeed} {words : List Nat} {w w' : World S}

lemma call?_of_none (hb : l.bound role = none) (w : World S) : call? h l role words w = some (.ok none, w) := by
  rw [call?, hb]
  rfl

lemma call?_of_run {a : Address} {r : Returned} (ha : l.bound role = some a)
    (hx : h.run a (fun _ _ => stuck) { ints := words } w = some (.ok r, w')) :
    call? h l role words w = some (.ok (some r.int), w') := by
  rw [call?, ha]
  exact bind_ok hx

/-- What the function of a role gives, if there is one. -/
lemma call?_cases {r : Except Error (Option Nat)} (hx : call? h l role words w = some (r, w')) :
    l.bound role = none ∧ r = .ok none ∧ w' = w ∨
      ∃ a q, l.bound role = some a ∧ h.run a (fun _ _ => stuck) { ints := words } w = some (q, w') ∧
        r = q.map fun v => some v.int := by
  cases hb : l.bound role with
  | none =>
    rw [call?_of_none hb] at hx
    cases hx
    exact .inl ⟨rfl, rfl, rfl⟩
  | some a =>
    rw [call?, hb] at hx
    rcases bind_eq_some.1 hx with ⟨v, w₁, hrun, hx⟩ | ⟨e, hrun, rfl⟩
    · cases hx
      exact .inr ⟨a, _, rfl, hrun, rfl⟩
    · exact .inr ⟨a, _, rfl, hrun, rfl⟩

/-- The lack of a function that an operation needs is an error. -/
lemma require_cases {r : Except Error Nat} (hx : require h l role need words w = some (r, w')) :
    l.bound role = none ∧ r = .error (.lifecycle need) ∧ w' = w ∨
      ∃ a q, l.bound role = some a ∧ h.run a (fun _ _ => stuck) { ints := words } w = some (q, w') ∧
        r = q.map Returned.int := by
  rcases bind_eq_some.1 hx with ⟨v, w₁, hcall, hx⟩ | ⟨e, hcall, rfl⟩
  · rcases call?_cases hcall with ⟨hb, hv, rfl⟩ | ⟨a, q, ha, hrun, hq⟩
    · cases hv
      cases hx
      exact .inl ⟨hb, rfl, rfl⟩
    · cases q <;> cases hq
      cases hx
      exact .inr ⟨a, _, ha, hrun, rfl⟩
  · rcases call?_cases hcall with ⟨-, hv, -⟩ | ⟨a, q, ha, hrun, hq⟩
    · cases hv
    · cases q <;> cases hq
      exact .inr ⟨a, _, ha, hrun, rfl⟩

end Lifecycle

/-- Work that leads along a relation does so while it holds the state, whether or not the relation looks at the mark. -/
lemma Eff.Along.holding {R : World S → World S → Prop} [IsPreorder (World S) R]
    (hmark : ∀ (w : World S) (b : Bool), R w { w with inUse := b }) {α : Type} {x : Eff S α} (hx : Along R x) :
    Along R (LoopState.holding x) := by
  intro w r w' h
  rcases LoopState.holding_eq_some h with ⟨-, rfl, -⟩ | ⟨-, w₁, h₁, rfl⟩
  · exact refl _
  · exact IsTrans.trans _ _ _ (hmark w true) (IsTrans.trans _ _ _ (hx h₁) (hmark w₁ false))

/-- The relation allows for work on memory and on libraries. -/
class Housekeeping (R : World S → World S → Prop) : Prop extends IsPreorder (World S) R where
  memory : ∀ (w : World S) (heap : Heap), w.heap.given ≤ heap.given → R w { w with heap }
  record : ∀ (w : World S) (record : Library.Record), R w { w with record }
  libraries : ∀ (w : World S) (libraries : Library.Cache),
    R w { w with state := w.state.map fun s => { s with libraries } }

namespace Housekeeping

open Eff

variable {R : World S → World S → Prop} [Housekeeping R]

/-! ### Memory -/

lemma alloc (bytes : Bytes) : Along R (Memory.alloc bytes : Eff S Address) :=
  .update fun w => memory w _ (Nat.le_succ _)

lemma allocString (s : Bytes) : Along R (Memory.allocString s : Eff S Address) := alloc _

lemma release (a : Address) : Along R (Memory.release a : Eff S Unit) := .modify fun w => memory w _ (Nat.le_refl _)

/-! ### The loop state and its libraries -/

lemma isInstalled : Along R (LoopState.isInstalled : Eff S Bool) := .bind .get fun _ => .pure _

lemma current : Along R (LoopState.current : Eff S LoopState) := by
  refine .bind .get fun w => ?_
  split
  · exact .pure _
  · exact .throw _

lemma currentLifecycle : Along R (LoopState.currentLifecycle : Eff S Lifecycle) := .bind current fun _ => .pure _

lemma library (h : Host S) (name : Bytes) : Along R (LoopState.library h name) :=
  .bind current fun _ => .bind .get fun _ => .bind (.modify fun w => record w _) fun _ =>
    .bind (.modify fun w => libraries w _) fun _ => .ofExcept _

lemma symbol (h : Host S) (name symbol : Bytes) : Along R (LoopState.symbol h name symbol) :=
  .bind current fun _ => .bind .get fun _ => .bind (.modify fun w => record w _) fun _ =>
    .bind (.modify fun w => libraries w _) fun _ => .ofExcept _

lemma typeFromName {h : Host S} {l : Lifecycle} (hn : ∀ words, Along R (l.call? h .typeFromName words))
    (name : Bytes) : Along R (l.typeFromName h name) := by
  refine .ite (.pure _) ?_
  exact .bind (allocString _) fun _ => .bind (hn _) fun _ => .bind (release _) fun _ => .pure _

/-- The identifier of a type is asked of the functions of the present lifecycle, and of registration functions. -/
lemma boxedTypeId {h : Host S} {w w' : World S} {inner : String} {lib : Option String} {r : Except Error TypeId}
    (hn : ∀ s, w.state = some s → ∀ words, Along R (s.lifecycle.call? h .typeFromName words))
    (hf : ∀ library a, h.symbol library (Bytes.untilNul (Library.typeFunction (.ofString inner))) = .ok a →
      Along R (h.run a (fun _ _ => Eff.stuck) {}))
    (hx : NativeBridge.boxedTypeId h inner lib w = some (r, w')) : R w w' := by
  rcases hs : w.state with _ | s
  · rw [NativeBridge.boxedTypeId, bind_error (LoopState.currentLifecycle_of_none hs)] at hx
    cases hx
    exact refl w
  · rw [NativeBridge.boxedTypeId, bind_ok (LoopState.currentLifecycle_of_some hs)] at hx
    refine Along.bind (typeFromName (hn s hs) _) (fun id => .ite (.pure _) ?_) hx
    cases lib with
    | none => exact .pure _
    | some lib =>
      refine .bind (library h _).attempt fun opened => ?_
      cases opened with
      | error => exact .pure _
      | ok o =>
        dsimp only
        split
        · exact .pure _
        · next a ha => exact .bind (hf _ a ha) fun _ => .pure _

end Housekeeping

end NativeBridge
