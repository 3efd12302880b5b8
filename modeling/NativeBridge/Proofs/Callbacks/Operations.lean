import NativeBridge.Proofs.Callbacks.Machine
import NativeBridge.Proofs.Dispatch
import NativeBridge.Proofs.Operations

/-!
The operations on queued calls as steps. What a script function does is taken to be steps that end with what was in
progress before, and then so is every drain, by whatever way the scripting thread is told of calls.
-/

namespace NativeBridge.Callbacks

open Eff

variable {S : Sides} {h : Host S} {w w' : World S}

/-- From the one world to the other the queue goes by steps, which end with what was in progress before. -/
def Goes (w w' : World S) : Prop :=
  ∀ s : State, s.queue = w.script → Free s.stack → ∃ s', s'.queue = w'.script ∧ s'.stack = s.stack ∧ Run s s'

instance : IsPreorder (World S) Goes where
  refl _ s hs _ := ⟨s, hs, rfl, .refl⟩
  trans _ _ _ hw hw' s hs hfree := by
    obtain ⟨s₁, hs₁, hstack₁, hr₁⟩ := hw s hs hfree
    obtain ⟨s₂, hs₂, hstack₂, hr₂⟩ := hw' s₁ hs₁ (hstack₁ ▸ hfree)
    exact ⟨s₂, hs₂, hstack₂.trans hstack₁, hr₁.trans hr₂⟩

lemma Goes.aside (hp : w'.script.pending = w.script.pending) (hr : w'.script.results = w.script.results) :
    Goes w w' := fun s hs _ =>
  ⟨{ s with queue := w'.script }, rfl, rfl, .single (.aside (by rw [hs, hp]) (by rw [hs, hr]))⟩

/-! ### Queueing and clearing -/

theorem queue_goes (function : Option FunctionId) (args : List Value) (capture : Bool) :
    Along Goes (ScriptDispatch.queue function args capture : Eff S PromiseId) := by
  refine .update fun w s hs _ => ⟨_, ?_, ?_, .single (.queue function args capture)⟩
  · rw [← hs]
  · rfl

theorem clear_goes : Along Goes (ScriptDispatch.clear : Eff S Unit) := by
  refine .modify fun w s hs _ => ⟨_, ?_, ?_, .single .clear⟩
  · rw [← hs]
  · rfl

/-- The queue goes, and a new one takes its place. -/
theorem renew_goes (w : World S) : Goes w { w with script := w.script.renew } := by
  refine fun s hs _ => ⟨_, ?_, ?_, .single .destroy⟩
  · rw [← hs]
  · rfl

lemma announce_goes : Along Goes (ScriptDispatch.announce : Eff S Unit) := by
  refine .modify fun w => ?_
  split
  · exact .aside rfl rfl
  · exact refl_of Goes w

lemma deliver_goes : Along Goes (ScriptDispatch.deliver : Eff S (Option Bool)) := by
  refine .update fun w => ?_
  split
  · exact refl_of Goes w
  · exact .aside rfl rfl

/-! ### Drains -/

section

variable (hscript : ∀ function args, Along Goes (h.script function args))

include hscript

/-- A drain takes the calls that wait, and the calls that come in meanwhile, and counts them. -/
lemma process_goes {fuel : Nat} {r : Except Error Nat} (hx : ScriptDispatch.process h fuel w = some (r, w')) {s : State}
    {number count : Nat} {rest : List Frame} (hs : s.queue = w.script)
    (hstack : s.stack = .draining number count :: rest) :
    ∃ n s', r = .ok n ∧ s'.queue = w'.script ∧ s'.stack = .draining number (count + n) :: rest ∧ Run s s' := by
  induction fuel generalizing w r s count with
  | zero => cases hx
  | succ fuel ih =>
    cases hp : w.script.pending with
    | nil =>
      rw [ScriptDispatch.process_of_nil hp] at hx
      cases hx
      exact ⟨0, s, rfl, hs, hstack, .refl⟩
    | cons c pending =>
      obtain ⟨v, w₁, w₂, q, hcall, hsettle, hrest, rfl⟩ := ScriptDispatch.process_of_cons hp hx
      have hpop : s.queue.pop = some (c, { w.script with pending }) := by rw [hs, ScriptQueue.pop_of_cons hp]
      obtain ⟨s₁, hs₁, hstack₁, hrun₁⟩ := hscript c.function c.args hcall
        { s with
          queue := { w.script with pending }
          stack := .calling c :: .draining number (count + 1) :: rest
          left := s.left ++ [(c, .started number)] } rfl (.inr ⟨c, _, rfl⟩)
      let answered : State :=
        { s₁ with
          queue := { s₁.queue with
            results := s₁.queue.results.keep c.promise
              (ScriptDispatch.resultOf c.capture (ScriptDispatch.ending h w₁ v)) }
          stack := .draining number (count + 1) :: rest
          ended := (c, ScriptDispatch.ending h w₁ v) :: s₁.ended }
      have hrun : Run s answered :=
        .head (.take hstack hpop) (hrun₁.tail (.answer hstack₁ (ScriptDispatch.ending h w₁ v)))
      have hanswered : answered.queue = w₂.script := by
        cases hsettle
        simp only [answered, hs₁]
      obtain ⟨n, s₂, rfl, hs₂, hstack₂, hrun₂⟩ := ih hrest hanswered rfl
      refine ⟨n + 1, s₂, rfl, hs₂, ?_, hrun.trans hrun₂⟩
      rw [hstack₂, Nat.add_right_comm, Nat.add_assoc]

/-- A drain gives the count with which it is put down as returned. -/
theorem processPending_returns {r : Except Error Nat} (hx : ScriptDispatch.processPending h w = some (r, w'))
    {s : State} (hs : s.queue = w.script) (hfree : Free s.stack) :
    ∃ n s', r = .ok n ∧ s'.queue = w'.script ∧ s'.stack = s.stack ∧ (s.drains, n) ∈ s'.returned ∧ Run s s' := by
  obtain ⟨n, s', hr, hs', hstack, hrun⟩ := process_goes hscript hx
    (s := { s with stack := .draining s.drains 0 :: s.stack, drains := s.drains + 1 }) hs rfl
  rw [Nat.zero_add] at hstack
  have hpop : s'.queue.pop = none := ScriptQueue.pop_of_nil (hs' ▸ (ScriptDispatch.process_ok hx).2)
  refine ⟨n, { s' with stack := s.stack, returned := (s.drains, n) :: s'.returned }, hr, hs', rfl,
    List.mem_cons_self, ?_⟩
  exact .head (.process hfree) (hrun.tail (.finish hstack hpop))

theorem processPending_goes : Along Goes (ScriptDispatch.processPending h) := by
  intro w r w' hx s hs hfree
  obtain ⟨n, s', -, hs', hstack, -, hrun⟩ := processPending_returns hscript hx hs hfree
  exact ⟨s', hs', hstack, hrun⟩

/-- A call is queued, and the scripting thread is told of it. -/
theorem queueWithWakeup_goes (function : Option FunctionId) (args : List Value) (capture : Bool) :
    Along Goes (ScriptDispatch.queueWithWakeup h function args capture) :=
  .bind (queue_goes function args capture) fun _ => .bind announce_goes fun _ => .bind .get fun _ =>
    .ite (.bind (processPending_goes hscript) fun _ => .pure _) (.pure _)

/-- The event loop of the script delivers the wake-ups that were sent. -/
theorem runMailbox_goes (fuel : Nat) : Along Goes (ScriptDispatch.runMailbox h fuel) := by
  induction fuel with
  | zero => exact .stuck
  | succ fuel ih =>
    refine .bind deliver_goes fun delivered => ?_
    cases delivered with
    | none => exact .pure 0
    | some current =>
      have more : Along Goes (do return (← ScriptDispatch.runMailbox h fuel) + 1) := .bind ih fun _ => .pure _
      exact .ite (.bind (processPending_goes hscript) fun _ => more) more

end

end NativeBridge.Callbacks
