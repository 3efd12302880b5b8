import NativeBridge.Proofs.Exchange.Outcome
import NativeBridge.Proofs.Tasks.Machine

/-!
The operations of the loop dispatcher as steps of one thread. What a task does is taken to be steps that end where they
began, and then so is every drain, however deep.
-/

namespace NativeBridge

open Eff

variable {S : Sides} {h : Host S} {w w' : World S}

namespace Tasks

/-- Any number of steps of one thread. -/
abbrev Acts {τ : Type} : Shared τ × Thread τ → Shared τ × Thread τ → Prop :=
  Relation.ReflTransGen fun c c' => Act c.1 c.2 c'.1 c'.2

section

variable {τ : Type} {m m' : Shared τ} {T T' : Thread τ} {c : Shared τ × Thread τ}

lemma Act.acts (h : Act m T m' T') : Acts (m, T) (m', T') := .single h

lemma Act.before (h : Act m T m' T') (hc : Acts (m', T') c) : Acts (m, T) c := .head h hc

lemma Act.after (h : Act m T m' T') (hc : Acts c (m, T)) : Acts c (m', T') := .tail hc h

end

/-- Steps of one thread are steps of all of them. -/
lemma Acts.run {τ : Type} {c c' : Shared τ × Thread τ} (h : Acts c c') (before after : List (Thread τ)) :
    Run ⟨c.1, before ++ c.2 :: after⟩ ⟨c'.1, before ++ c'.2 :: after⟩ :=
  h.lift (fun c => (⟨c.1, before ++ c.2 :: after⟩ : State τ)) fun _ _ hact => .act before after hact

/-- From the one world to the other the queue goes by steps of a thread that is in the middle of nothing before and
after. -/
def Goes (w w' : World S) : Prop :=
  ∀ (m : Shared (Task S.Job)) (outer : List Drain), m.queue = w.loop →
    ∃ m', m'.queue = w'.loop ∧ Acts (m, ⟨.free, outer⟩) (m', ⟨.free, outer⟩)

instance : IsPreorder (World S) Goes where
  refl _ m _ hm := ⟨m, hm, .refl⟩
  trans _ _ _ h h' m outer hm := by
    obtain ⟨m₁, hm₁, hacts⟩ := h m outer hm
    obtain ⟨m₂, hm₂, hacts'⟩ := h' m₁ outer hm₁
    exact ⟨m₂, hm₂, hacts.trans hacts'⟩

/-- What goes by steps of a thread is a run of all of them, whatever the others are in the middle of. -/
theorem run_of_goes {α : Type} {x : Eff S α} (hx : Along Goes x) {r : Except Error α} (h : x w = some (r, w'))
    {s : State (Task S.Job)} (hs : s.queue = w.loop) {before after : List (Thread (Task S.Job))} {outer : List Drain}
    (hT : s.threads = before ++ ⟨.free, outer⟩ :: after) :
    ∃ s', s'.queue = w'.loop ∧ s'.threads = s.threads ∧ Run s s' := by
  obtain ⟨m, threads⟩ := s
  obtain rfl : threads = _ := hT
  obtain ⟨m', hm', hacts⟩ := hx h m outer hs
  exact ⟨⟨m', before ++ ⟨.free, outer⟩ :: after⟩, hm', rfl, hacts.run before after⟩

lemma Goes.of_eq (hw : w'.loop = w.loop) : Goes w w' := fun m _ hm => ⟨m, hm.trans hw.symm, .refl⟩

/-! ### Sending and stopping -/

/-- A task is sent. -/
theorem schedule_goes (t : Task S.Job) : Along Goes (LoopDispatch.schedule t : Eff S Unit) := by
  refine .modify fun w m outer hm => ?_
  rcases hstop : m.queue.stopped with _ | _
  · let sent : Shared (Task S.Job) :=
      { m with queue := m.queue.push t, calls := m.calls + 1, accepted := m.accepted ++ [t] }
    refine ⟨{ sent with queue := sent.queue.arm }, ?_, ?_⟩
    · rw [← hm, LoopQueue.schedule_of_open hstop]
      rfl
    · have hsent : Acts (m, ⟨.free, outer⟩) (sent, ⟨.pushed, outer⟩) := (Act.pass t hstop).before Act.push.acts
      rcases harmed : sent.queue.armed with _ | _
      · rw [LoopQueue.arm_of_not_armed harmed]
        exact Act.post.after ((Act.mark harmed).after hsent)
      · rw [LoopQueue.arm_of_armed harmed]
        exact (Act.found harmed).after hsent
  · refine ⟨{ m with queue := m.queue.refuse, calls := m.calls + 1 }, ?_, (Act.refuse hstop).acts⟩
    rw [← hm, LoopQueue.schedule_of_stopped hstop]
    cases t <;> rfl

/-- The queue is stopped. -/
theorem stop_goes : Along Goes (LoopDispatch.stop : Eff S Unit) := by
  refine .modify fun w m outer hm => ?_
  refine ⟨{ m with queue := m.queue.close.sweep, dropped := m.dropped ++ m.queue.pending }, ?_,
    Act.close.before Act.sweep.acts⟩
  rw [← hm, LoopQueue.stop_eq]
  dsimp only
  rw [Exchange.abandonAll_eq]

lemma recount_goes {depth syncCalls asyncCalls : Nat} (hw : w'.loop = w.loop.recount depth syncCalls asyncCalls) :
    Goes w w' := fun m _ hm =>
  ⟨{ m with queue := m.queue.recount depth syncCalls asyncCalls }, by rw [hw, ← hm],
    (Act.recount depth syncCalls asyncCalls).acts⟩

lemma enter_goes : Along Goes (LoopRequest.enter : Eff S Unit) := .modify fun _ => recount_goes rfl

lemma leave_goes : Along Goes (LoopRequest.leave : Eff S Unit) := .modify fun _ => recount_goes rfl

lemma chooseRoute_goes : Along Goes (ScriptDispatch.chooseRoute : Eff S Bool) := by
  refine .update fun w => ?_
  dsimp only [LoopQueue.recordRoute]
  split <;> exact recount_goes rfl

/-! ### Running tasks -/

section

variable (hremove : ∀ id, Along Goes (LoopState.removeObject h id)) (hanswer : ∀ j, Along Goes (h.answer j))

include hremove hanswer

lemma task_goes (t : Task S.Job) : Along Goes (LoopDispatch.run h t) := by
  cases t with
  | remove id => exact .bind (hremove id).attempt fun _ => .pure ()
  | job j => exact .bind (hanswer j).attempt fun _ => .pure ()
  | request promise j => exact .bind (hanswer j).attempt fun _ => .modify fun _ => .of_eq rfl

lemma drain_acts (d : Drain) (outer : List Drain) {fuel : Nat} {r : Except Error Nat}
    (hx : LoopDispatch.drain h fuel w = some (r, w'))
    {m : Shared (Task S.Job)} (hm : m.queue = w.loop) :
    ∃ m', m'.queue = w'.loop ∧ Acts (m, ⟨.draining d, outer⟩) (m', ⟨.draining d, outer⟩) := by
  induction fuel generalizing w r m with
  | zero => cases hx
  | succ fuel ih =>
    cases hp : w.loop.pending with
    | nil =>
      rw [LoopDispatch.drain_of_nil hp] at hx
      cases hx
      exact ⟨m, hm, .refl⟩
    | cons t rest =>
      obtain ⟨w₁, q, hrun, hrest, -⟩ := LoopDispatch.drain_of_cons hp hx
      let taken : Shared (Task S.Job) :=
        { m with
          queue := { w.loop with pending := rest, dispatched := w.loop.dispatched + 1 }
          started := m.started ++ [t] }
      have htake : Act m ⟨.draining d, outer⟩ taken ⟨.free, d :: outer⟩ :=
        .take (by rw [hm, LoopQueue.pop_of_cons hp])
      obtain ⟨m₁, hm₁, htask⟩ := task_goes hremove hanswer t hrun taken (d :: outer) rfl
      obtain ⟨m₂, hm₂, hacts⟩ := ih hrest hm₁
      -- the drain goes on in the same way if the task threw
      exact ⟨m₂, hm₂, htake.before (htask.trans ((Act.done false).before hacts))⟩

/-- The tasks that wait are run by a thread that waits for something else. -/
theorem dispatchPending_goes : Along Goes (LoopDispatch.dispatchPending h) := by
  refine .bind (fun w r w' hx m outer hm => ?_) fun _ => .pure _
  obtain ⟨m', hm', hacts⟩ := drain_acts hremove hanswer .aside outer hx hm
  have hempty : m'.queue.pop = none := LoopQueue.pop_of_nil (hm' ▸ (LoopDispatch.drain_ok hx).2)
  exact ⟨m', hm', Act.serve.before ((Act.served hempty).after hacts)⟩

lemma batch_goes (hp : 0 < w.loop.posted) {r : Except Error Unit} (hx : LoopDispatch.batch h w = some (r, w')) :
    r = .ok () ∧ Goes w w' := by
  rw [LoopDispatch.batch, bind_ok rfl] at hx
  rcases bind_eq_some.1 hx with ⟨n, w₁, hdrain, hend⟩ | ⟨e, hdrain, -⟩
  · cases hend
    refine ⟨rfl, fun m outer hm => ?_⟩
    have hbegun : LoopQueue.beginBatch m.queue = w.loop.beginBatch := by rw [hm]
    obtain ⟨m₁, hm₁, hacts⟩ :=
      drain_acts (m := { m with queue := m.queue.beginBatch }) hremove hanswer .batch outer hdrain hbegun
    -- no task waits after the drain, so no other batch is asked for
    have hempty := (LoopDispatch.drain_ok hdrain).2
    have hpop : m₁.queue.pop = none := LoopQueue.pop_of_nil (hm₁ ▸ hempty)
    refine ⟨m₁, ?_, (Act.begin (hm ▸ hp)).before
      ((Act.rest (hm₁ ▸ hempty)).after ((Act.empty hpop).after hacts))⟩
    simp [hm₁, LoopQueue.endBatch, hempty]
  · obtain ⟨⟨n, hn⟩, -⟩ := LoopDispatch.drain_ok hdrain
    cases hn

/-- The loop runs the batches that are posted. -/
theorem poll_goes : Along Goes (LoopDispatch.poll h) := by
  rw [LoopDispatch.poll]
  generalize h.limit = fuel
  induction fuel with
  | zero => exact .stuck
  | succ fuel ih =>
    intro w r w' hx
    rw [LoopDispatch.runPosted, bind_ok (get_apply w)] at hx
    rcases Nat.eq_zero_or_pos w.loop.posted with hp | hp
    · rw [if_pos hp] at hx
      cases hx
      exact refl_of Goes w
    · rw [if_neg (Nat.ne_of_gt hp)] at hx
      rcases bind_eq_some.1 hx with ⟨_, w₁, hbatch, hx⟩ | ⟨e, hbatch, -⟩
      · exact IsTrans.trans _ _ _ (batch_goes hremove hanswer hp hbatch).2 (Along.bind ih (fun _ => .pure _) hx)
      · cases (batch_goes hremove hanswer hp hbatch).1

end

end Tasks

end NativeBridge
