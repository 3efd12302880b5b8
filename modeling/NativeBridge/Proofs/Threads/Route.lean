import NativeBridge.Proofs.Threads.Simulation

/-!
The way of a call to the scripting thread. It is chosen by whether that thread is in a wait, and the call is queued on
it whatever the scripting thread has done since.
-/

namespace NativeBridge.Threads

open Eff

variable {S : Sides}

/-! ### Effects that leave tasks alone -/

/-- The queue of tasks is the same, and the bridge is stopped or not. -/
structure SameTasks (w w' : World S) : Prop where
  loop : w'.loop = w.loop
  owned : w'.loopOwned = w.loopOwned

instance : IsPreorder (World S) SameTasks where
  refl _ := ⟨rfl, rfl⟩
  trans _ _ _ h h' := ⟨h'.loop.trans h.loop, h'.owned.trans h.owned⟩

namespace SameTasks

lemma queue (function : Option FunctionId) (args : List Value) (capture : Bool) :
    Along SameTasks (ScriptDispatch.queue function args capture : Eff S PromiseId) :=
  .update fun _ => ⟨rfl, rfl⟩

lemma take : Along SameTasks (ScriptDispatch.take : Eff S (Option PendingCall)) := by
  refine .update fun w => ?_
  split <;> exact ⟨rfl, rfl⟩

lemma settle (c : PendingCall) (r : Except Raised Value) :
    Along SameTasks (ScriptDispatch.settle c r : Eff S Unit) :=
  .modify fun _ => ⟨rfl, rfl⟩

lemma announce : Along SameTasks (ScriptDispatch.announce : Eff S Unit) := by
  refine .modify fun w => ?_
  split <;> exact ⟨rfl, rfl⟩

lemma deliver : Along SameTasks (ScriptDispatch.deliver : Eff S (Option Bool)) := by
  refine .update fun w => ?_
  split <;> exact ⟨rfl, rfl⟩

lemma collect (id : PromiseId) : Along SameTasks (ScriptDispatch.collect id : Eff S (Option ScriptResult)) :=
  Along.parametric.collectResult (.modify fun _ => ⟨rfl, rfl⟩)

lemma clear : Along SameTasks (ScriptDispatch.clear : Eff S Unit) := .modify fun _ => ⟨rfl, rfl⟩

end SameTasks

/-! ### The depth of waits -/

variable {Native Script : Type} {s s' s₀ t u : State Native Script}

/-- The depth that the threads tell each other is that of the scripting thread. -/
def State.Deep (s : State Native Script) : Prop := s.world.loop.depth = s.script.countP ScriptFrame.waits

lemma State.Deep.of_eq (h : s.Deep) (hd : s'.world.loop.depth = s.world.loop.depth)
    (hc : s'.script.countP ScriptFrame.waits = s.script.countP ScriptFrame.waits) : s'.Deep :=
  hd.trans (h.trans hc.symm)

lemma ScriptStep.deep (h : ScriptStep s s') (hd : s.Deep) : s'.Deep := by
  have tasks {w w' : World (Bridge.sides Native Script)} (h : SameTasks w w') : w'.loop.depth = w.loop.depth :=
    congrArg LoopQueue.depth h.loop
  cases h with
  | work _ hw => exact hd.of_eq (congrArg LoopQueue.depth hw.loop) rfl
  | drop _ id hx => exact hd.of_eq (Apart.schedule (t := .remove id) nofun hx).depth rfl
  | enter _ j _ hx =>
    cases hx
    rw [State.Deep, List.countP_cons_of_pos rfl]
    exact congrArg (· + 1) hd
  | send hs hx => exact hd.of_eq (Apart.post _ hx).depth (by rw [hs]; rfl)
  | miss hs hx => exact hd.of_eq (Apart.collect _ hx).depth (by rw [hs]; rfl)
  | reply hs hx => exact hd.of_eq (Apart.collect _ hx).depth (by rw [hs]; rfl)
  | refusal hs hx => exact hd.of_eq (Apart.collect _ hx).depth (by rw [hs]; rfl)
  | @leave _ j r rest hs hx =>
    cases hx
    rw [State.Deep, hs, List.countP_cons_of_pos rfl] at hd
    have hrest : (if joins j r then .joining :: rest else rest).countP ScriptFrame.waits =
        rest.countP ScriptFrame.waits := by
      split <;> rfl
    rw [State.Deep, hrest]
    exact Nat.sub_eq_of_eq_add hd
  | poll => exact hd.of_eq rfl rfl
  | wake _ hx => exact hd.of_eq (tasks (SameTasks.deliver hx)) (by dsimp only; split <;> rfl)
  | take _ _ hx => exact hd.of_eq (tasks (SameTasks.take hx)) rfl
  | drained hs hx => exact hd.of_eq (tasks (SameTasks.take hx)) (by rw [hs]; rfl)
  | polled hs hx => exact hd.of_eq (tasks (SameTasks.take hx)) (by rw [hs]; rfl)
  | answer hs r hx => exact hd.of_eq (tasks (SameTasks.settle _ r hx)) (by rw [hs]; rfl)
  | join hs _ hx =>
    have hclear := (SameTasks.clear hx).loop
    exact hd.of_eq (congrArg LoopQueue.depth hclear) (by rw [hs]; rfl)

lemma LoopStep.depth (h : LoopStep s s') : s'.world.loop.depth = s.world.loop.depth := by
  cases h with
  | work _ _ hw => exact congrArg LoopQueue.depth hw.loop
  | begin _ _ _ hx => exact (Apart.beginBatch hx).depth
  | serve _ _ hx | served _ hx => exact (Apart.take hx).depth
  | batched _ ht hx => exact (Apart.endBatch hx).depth.trans (Apart.take ht).depth
  | finish _ _ r hx => exact (Apart.settle _ r hx).depth
  | stop _ ha hx => exact (Apart.settle _ _ hx).depth.trans (Apart.endLoop.attempt ha).depth
  | fire h =>
    cases h with
    | mk _ _ _ _ _ hx => exact (Apart.chooseRoute hx).depth
  | queue h =>
    cases h with
    | mk _ hx => exact congrArg LoopQueue.depth (SameTasks.queue _ _ _ hx).loop
  | announce _ hx => exact congrArg LoopQueue.depth (SameTasks.announce hx).loop
  | miss _ hx | result _ _ hx => exact congrArg LoopQueue.depth (SameTasks.collect _ hx).loop
  | handle | handled | done | leave | ended => rfl

lemma State.Deep.step (hd : s.Deep) (h : Step s s') : s'.Deep := by
  rcases h with h | h
  · exact h.deep hd
  · exact hd.of_eq h.depth (by rw [h.script])

/-- **The depth is how many waits the scripting thread is in.** -/
theorem State.Opening.deep (h₀ : s₀.Opening) (h : Run s₀ s) : s.Deep := by
  have hdeep : s₀.Deep := by
    rw [State.Deep, h₀.depth, h₀.script]
    rfl
  exact Run.invariant hdeep State.Deep.step h

/-- A call is left to the scripting thread itself if that is in a wait. -/
lemma Routes.iff_waits {synchronous : Bool} (hd : s.Deep) (h : Routes s synchronous s') : synchronous ↔ s.Waits := by
  cases h with
  | mk _ _ _ _ _ hx =>
    cases hx
    rw [LoopQueue.isWaiting, decide_eq_true_iff, gt_iff_lt, hd]
    exact List.countP_pos_iff

/-! ### From the choice to the queue -/

namespace LoopFrame

def isRouted : LoopFrame → Bool
  | routed .. => true
  | _ => false

lemma not_routed_of_native {f : LoopFrame} (h : f.native) : f.isRouted = false := by
  cases f <;> first | rfl | cases h

lemma not_routed_of_serves {f : LoopFrame} (h : f.serves) : f.isRouted = false := by
  cases f <;> first | rfl | cases h

end LoopFrame

/-- Only the innermost frame of the loop thread is that of a call whose way was chosen. -/
def State.Routing (s : State Native Script) : Prop := ∀ f ∈ s.loop.tail, f.isRouted = false

lemma ScriptStep.loop (h : ScriptStep s s') : s'.loop = s.loop := by
  cases h <;> rfl

lemma State.Routing.step (hr : s.Routing) (h : Step s s') : s'.Routing := by
  have replaced {f : LoopFrame} {rest : List LoopFrame} (hs : s.loop = f :: rest) :
      ∀ f ∈ rest, f.isRouted = false := by
    rw [State.Routing, hs] at hr
    exact hr
  have popped {f : LoopFrame} {rest : List LoopFrame} (hs : s.loop = f :: rest) :
      ∀ f ∈ rest.tail, f.isRouted = false :=
    fun f hf => replaced hs f (List.mem_of_mem_tail hf)
  have pushed {f : LoopFrame} {rest : List LoopFrame} (hs : s.loop = f :: rest) (hf : f.isRouted = false) :
      ∀ f ∈ s.loop, f.isRouted = false := by
    rw [hs]
    exact List.forall_mem_cons.2 ⟨hf, replaced hs⟩
  rcases h with h | h
  · rw [State.Routing, h.loop]
    exact hr
  · cases h with
    | work => exact hr
    | begin | handle | handled | batched | leave | ended => exact nofun
    | serve hs hf => exact pushed hs (LoopFrame.not_routed_of_serves hf)
    | fire h =>
      cases h with
      | mk hs hf => exact pushed hs (LoopFrame.not_routed_of_native hf)
    | queue h =>
      cases h with
      | mk hs => exact replaced hs
    | served hs | announce hs | miss hs => exact replaced hs
    | done hs | finish hs | stop hs | result hs => exact popped hs

lemma State.Opening.routing (h₀ : s₀.Opening) (h : Run s₀ s) : s.Routing := by
  have hrouting : s₀.Routing := by
    rw [State.Routing, h₀.loop]
    exact nofun
  exact Run.invariant hrouting State.Routing.step h

/-- A call whose way was chosen waits for nothing but its queueing: only the scripting thread has taken steps since. -/
lemma routes_of_routed (h₀ : s₀.Opening) (h : Run s₀ s) {synchronous capture : Bool} {function : Option FunctionId}
    {args : List Value} {rest : List LoopFrame} (hs : s.loop = .routed synchronous function args capture :: rest) :
    ∃ t t', Run s₀ t ∧ Routes t synchronous t' ∧ Relation.ReflTransGen ScriptStep t' s := by
  induction h with
  | refl =>
    rw [h₀.loop] at hs
    cases hs
  | @tail s s' hr hstep ih =>
    have hrouting := h₀.routing hr
    have popped {f : LoopFrame} {rest' : List LoopFrame} (hf : s.loop = f :: rest')
        (hs : rest' = .routed synchronous function args capture :: rest) : False := by
      rw [State.Routing, hf, List.tail_cons, hs] at hrouting
      cases hrouting _ List.mem_cons_self
    rcases hstep with hstep | hstep
    · obtain ⟨t, t', h₁, h₂, h₃⟩ := ih (hstep.loop ▸ hs)
      exact ⟨t, t', h₁, h₂, h₃.tail hstep⟩
    · cases hstep with
      | fire h =>
        cases h with
        | mk hf hn _ _ _ hx =>
          cases hs
          exact ⟨s, _, hr, .mk hf hn _ _ _ hx, .refl⟩
      | work hf hn =>
        rw [hf] at hs
        cases hs
        cases hn
      | queue hq =>
        cases hq with
        | mk =>
          dsimp only at hs
          split at hs <;> cases hs
      | done hf | finish hf | stop hf | result hf => exact (popped hf hs).elim
      | _ => cases hs

/-- The way of a call is chosen in `t`, and the call is queued by the step to `u`. -/
def Made (t : State Native Script) (id : PromiseId) (u : State Native Script) : Prop :=
  ∃ synchronous t' u', Routes t synchronous t' ∧ Relation.ReflTransGen ScriptStep t' u' ∧ Queues u' id synchronous u

lemma Made.queues {id : PromiseId} (h₀ : s₀.Opening) (ht : Run s₀ t) (h : Made t id u) :
    ∃ u' synchronous, Run s₀ u' ∧ Queues u' id synchronous u ∧ (synchronous ↔ t.Waits) := by
  obtain ⟨synchronous, t', u', hroutes, hscript, hqueue⟩ := h
  have hrun : Run t' u' := Relation.ReflTransGen.mono (fun _ _ h => Or.inl h) _ _ hscript
  exact ⟨u', synchronous, (ht.tail (.inr (.fire hroutes))).trans hrun, hqueue, hroutes.iff_waits (h₀.deep ht)⟩

lemma Queues.made {id : PromiseId} {synchronous : Bool} (h₀ : s₀.Opening) (hs : Run s₀ s)
    (h : Queues s id synchronous u) : ∃ t, Run s₀ t ∧ Made t id u := by
  cases h with
  | mk hloop hx =>
    obtain ⟨t, t', h₁, h₂, h₃⟩ := routes_of_routed h₀ hs hloop
    exact ⟨t, h₁, _, t', s, h₂, h₃, .mk hloop hx⟩

end NativeBridge.Threads
