import NativeBridge.Proofs.Dispatch
import NativeBridge.Proofs.Threads.Machine

/-!
Each step of the two threads is a step of their calls, or leaves the calls alone.
-/

namespace NativeBridge.Threads

open Eff

variable {S : Sides}

/-! ### Effects that leave calls alone -/

/-- The queue of calls is the same, the scripting thread is as deep in waits, and no job is sent that nobody waits
for. -/
structure Apart (w w' : World S) : Prop where
  script : w'.script = w.script
  depth : w'.loop.depth = w.loop.depth
  owned : w'.loopOwned = w.loopOwned
  jobs : ∀ j, .job j ∈ w'.loop.pending → .job j ∈ w.loop.pending

instance : IsPreorder (World S) Apart where
  refl _ := ⟨rfl, rfl, rfl, fun _ h => h⟩
  trans _ _ _ h h' :=
    ⟨h'.script.trans h.script, h'.depth.trans h.depth, h'.owned.trans h.owned, fun j hj => h.jobs j (h'.jobs j hj)⟩

namespace Apart

lemma same {w w' : World S} (hs : w'.script = w.script) (hl : w'.loop = w.loop) (ho : w'.loopOwned = w.loopOwned) :
    Apart w w' :=
  ⟨hs, by rw [hl], ho, fun j hj => by rwa [hl] at hj⟩

lemma abandon (w : World S) (t : Task S.Job) : Apart w (LoopDispatch.abandon w t) := by
  cases t <;> exact .same rfl rfl rfl

lemma schedule {t : Task S.Job} (ht : ∀ j, t ≠ .job j) : Along Apart (LoopDispatch.schedule t : Eff S Unit) := by
  refine .modify fun w => ?_
  have hloop : Apart w { w with loop := (w.loop.schedule t).1 } := by
    refine ⟨rfl, LoopQueue.depth_schedule _, rfl, fun j hj => ?_⟩
    rcases LoopQueue.mem_pending_schedule _ hj with hj | hj
    · exact hj
    · exact (ht j hj.symm).elim
  dsimp only
  split
  · exact hloop
  · exact IsTrans.trans _ _ _ hloop (abandon _ t)

lemma take : Along Apart (LoopDispatch.take : Eff S (Option (Task S.Job))) := by
  refine .update fun w => ?_
  cases hp : w.loop.pending with
  | nil =>
    rw [LoopQueue.pop_of_nil hp]
    exact refl w
  | cons t rest =>
    rw [LoopQueue.pop_of_cons hp]
    exact ⟨rfl, rfl, rfl, fun j hj => hp ▸ List.mem_cons_of_mem t hj⟩

lemma settle (promise : PromiseId) (r : Except Error S.Reply) :
    Along Apart (LoopDispatch.settle promise r : Eff S Unit) :=
  .modify fun _ => .same rfl rfl rfl

lemma beginBatch : Along Apart (LoopDispatch.beginBatch : Eff S Unit) :=
  .modify fun _ => ⟨rfl, rfl, rfl, fun _ h => h⟩

lemma endBatch : Along Apart (LoopDispatch.endBatch : Eff S Unit) :=
  .modify fun w => ⟨rfl, w.loop.depth_endBatch, rfl, fun _ hj => w.loop.pending_endBatch ▸ hj⟩

lemma stop : Along Apart (LoopDispatch.stop : Eff S Unit) := by
  have dropped (tasks : List (Task S.Job)) (w : World S) : Apart w (tasks.foldl LoopDispatch.abandon w) := by
    induction tasks generalizing w with
    | nil => exact refl w
    | cons t rest ih => exact IsTrans.trans _ _ _ (abandon w t) (ih _)
  refine .modify fun w => ?_
  have hloop : Apart w { w with loop := w.loop.stop.1 } := ⟨rfl, rfl, rfl, fun _ h => absurd h List.not_mem_nil⟩
  exact IsTrans.trans _ _ _ hloop (dropped w.loop.stop.2 _)

lemma holding {α : Type} {x : Eff S α} (hx : Along Apart x) : Along Apart (LoopState.holding x) :=
  hx.holding fun _ _ => .same rfl rfl rfl

lemma endLoop {Native Script : Type} :
    Along Apart (Bridge.endLoop : Eff (Bridge.sides Native Script) Bridge.Reply) :=
  .bind stop fun _ => .bind (holding (.modify fun _ => .same rfl rfl rfl)) fun _ => .pure _

lemma chooseRoute : Along Apart (ScriptDispatch.chooseRoute : Eff S Bool) :=
  .update fun w => ⟨rfl, w.loop.depth_recordRoute _, rfl, fun _ hj => w.loop.pending_recordRoute _ ▸ hj⟩

lemma post (j : S.Job) : Along Apart (LoopRequest.post j : Eff S PromiseId) :=
  .bind (.update fun _ => .same rfl rfl rfl) fun _ => .bind (schedule nofun) fun _ => .pure _

lemma collect (id : PromiseId) : Along Apart (LoopRequest.collect id : Eff S (Option S.Reply)) :=
  Along.parametric.collectReply (.modify fun _ => .same rfl rfl rfl)

end Apart

/-! ### Steps -/

variable {Native Script : Type} {s s' : State Native Script}

lemma calls_eq (hq : s'.world.script = s.world.script)
    (hc : s'.script.filterMap ScriptFrame.call? = s.script.filterMap ScriptFrame.call?)
    (hk : s'.script.countP ScriptFrame.isWoken = s.script.countP ScriptFrame.isWoken)
    (hw : s'.loop.filterMap LoopFrame.wait? = s.loop.filterMap LoopFrame.wait?) : s'.calls = s.calls := by
  rw [State.calls, State.calls, hq, hc, hk, hw]

lemma ScriptStep.calls (h : ScriptStep s s') (he : s.ended → s.loop = []) :
    s'.calls = s.calls ∨ Calls.ScriptStep s.calls s'.calls := by
  cases h with
  | work _ hw => exact .inl (calls_eq hw.script rfl rfl rfl)
  | drop _ id hx => exact .inl (calls_eq (Apart.schedule (t := .remove id) nofun hx).script rfl rfl rfl)
  | enter _ j _ hx => exact .inl (calls_eq (by cases hx; rfl) rfl rfl rfl)
  | send hs hx => exact .inl (calls_eq (Apart.post _ hx).script (by rw [hs]; rfl) (by rw [hs]; rfl) rfl)
  | miss hs hx => exact .inl (calls_eq (Apart.collect _ hx).script (by rw [hs]; rfl) (by rw [hs]; rfl) rfl)
  | reply hs hx => exact .inl (calls_eq (Apart.collect _ hx).script (by rw [hs]; rfl) (by rw [hs]; rfl) rfl)
  | refusal hs hx => exact .inl (calls_eq (Apart.collect _ hx).script (by rw [hs]; rfl) (by rw [hs]; rfl) rfl)
  | leave hs hx =>
    exact .inl (calls_eq (by cases hx; rfl) (by rw [hs]; dsimp only; split <;> rfl)
      (by rw [hs]; dsimp only; split <;> rfl) rfl)
  | poll => exact .inl (calls_eq rfl rfl rfl rfl)
  | @wake w _ _ hx =>
    obtain ⟨generation, mailbox, hm, rfl, rfl⟩ := ScriptDispatch.deliver_some hx
    have h := Calls.ScriptStep.deliver (c := s.calls) hm
    refine .inr ?_
    by_cases hg : s.world.script.generation = generation
    · rw [if_pos (beq_iff_eq.2 hg)]
      have hk : (ScriptFrame.polling true :: s.script).countP ScriptFrame.isWoken = s.calls.woken + 1 := by
        exact List.countP_cons_of_pos (p := ScriptFrame.isWoken) rfl
      rw [if_pos (show s.calls.queue.generation = generation from hg), ← hk] at h
      exact h
    · rw [if_neg fun hb => hg (beq_iff_eq.1 hb)]
      rw [if_neg (show ¬s.calls.queue.generation = generation from hg)] at h
      exact h
  | take _ _ hx =>
    obtain ⟨pending, hp, rfl⟩ := ScriptDispatch.take_some hx
    exact .inr (.take (c := s.calls) hp)
  | drained hs hx =>
    obtain ⟨-, rfl⟩ := ScriptDispatch.take_none hx
    exact .inl (calls_eq rfl (by rw [hs]; rfl) (by rw [hs]; rfl) rfl)
  | @polled _ woken rest hs hx =>
    obtain ⟨hp, rfl⟩ := ScriptDispatch.take_none hx
    cases woken with
    | false => exact .inl (calls_eq rfl (by rw [hs]; rfl) (by rw [hs]; rfl) rfl)
    | true =>
      refine .inr (?_ : Calls.ScriptStep s.calls
        ⟨s.world.script, rest.filterMap ScriptFrame.call?, rest.countP ScriptFrame.isWoken, s.calls.waits⟩)
      have hc : s.calls.calling = rest.filterMap ScriptFrame.call? := by rw [State.calls, hs]; rfl
      have hk : s.calls.woken = rest.countP ScriptFrame.isWoken + 1 := by
        rw [State.calls, hs]
        exact List.countP_cons_of_pos (p := ScriptFrame.isWoken) (a := .polling true) rfl
      exact hc ▸ .drained hk hp
  | @answer _ call rest hs r hx =>
    cases hx
    have hc : s.calls.calling = call.promise :: rest.filterMap ScriptFrame.call? := by rw [State.calls, hs]; rfl
    have hk : s.calls.woken = rest.countP ScriptFrame.isWoken := by rw [State.calls, hs]; rfl
    have h := Calls.ScriptStep.settle hc (ScriptDispatch.resultOf call.capture r)
    rw [hk] at h
    exact .inr h
  | @join _ rest hs hended hx =>
    cases hx
    have hc : s.calls.calling = rest.filterMap ScriptFrame.call? := by rw [State.calls, hs]; rfl
    have hk : s.calls.woken = rest.countP ScriptFrame.isWoken := by rw [State.calls, hs]; rfl
    have h := Calls.ScriptStep.clear (c := s.calls) (by rw [State.calls, he hended]; rfl)
    rw [hc, hk] at h
    exact .inr h

/-- A call that is queued is one that the loop thread waits for from then on. -/
lemma Queues.calls {id : PromiseId} {synchronous : Bool} (h : Queues s id synchronous s') :
    id = s.world.script.results.made ∧ ∃ function args capture, s'.calls =
      { s.calls with
        queue := (s.calls.queue.push function args capture).2
        waits := (id, if synchronous then .itself else .due) :: s.calls.waits } := by
  cases h with
  | @mk _ _ capture function args rest _ hs hx =>
    cases hx
    have hw : s.calls.waits = rest.filterMap LoopFrame.wait? := by rw [State.calls, hs]; rfl
    refine ⟨rfl, function, args, capture, ?_⟩
    rw [hw]
    cases synchronous <;> rfl

lemma LoopStep.calls (h : LoopStep s s') : s'.calls = s.calls ∨ Calls.LoopStep s.calls s'.calls := by
  cases h with
  | work _ _ hw => exact .inl (calls_eq hw.script rfl rfl rfl)
  | begin hs _ _ hx => exact .inl (calls_eq (Apart.beginBatch hx).script rfl rfl (by rw [hs]; rfl))
  | handle hs => exact .inl (calls_eq rfl rfl rfl (by rw [hs]; rfl))
  | handled hs => exact .inl (calls_eq rfl rfl rfl (by rw [hs]; rfl))
  | serve hs hf hx => exact .inl (calls_eq (Apart.take hx).script rfl rfl rfl)
  | batched hs ht hx =>
    exact .inl (calls_eq ((Apart.endBatch hx).script.trans (Apart.take ht).script) rfl rfl (by rw [hs]; rfl))
  | served hs hx => exact .inl (calls_eq (Apart.take hx).script rfl rfl (by rw [hs]; rfl))
  | done hs => exact .inl (calls_eq rfl rfl rfl (by rw [hs]; rfl))
  | finish hs _ r hx => exact .inl (calls_eq (Apart.settle _ r hx).script rfl rfl (by rw [hs]; rfl))
  | stop hs ha hx =>
    exact .inl (calls_eq ((Apart.settle _ _ hx).script.trans (Apart.endLoop.attempt ha).script) rfl rfl
      (by rw [hs]; rfl))
  | fire h =>
    cases h with
    | mk _ _ function args capture hx => exact .inl (calls_eq (Apart.chooseRoute hx).script rfl rfl rfl)
  | queue hq =>
    obtain ⟨rfl, function, args, capture, hcalls⟩ := hq.calls
    exact .inr (hcalls ▸ .push _ function args capture _)
  | @announce w id rest hs hx =>
    have hw : s.calls.waits = (id, .due) :: rest.filterMap LoopFrame.wait? := by rw [State.calls, hs]; rfl
    refine .inr (?_ : Calls.LoopStep s.calls ⟨w.script, _, _, (id, .sent) :: rest.filterMap LoopFrame.wait?⟩)
    rw [ScriptDispatch.announce_script hx]
    exact .announce hw
  | miss hs hx =>
    obtain rfl := ScriptDispatch.collect_none hx
    exact .inl (calls_eq rfl rfl rfl (by rw [hs]; rfl))
  | @result w id synchronous rest _ hs hr hx =>
    obtain ⟨hp, hcalls⟩ := ScriptDispatch.collect_result hr hx
    have hw : s.calls.waits = (id, if synchronous then .itself else .sent) :: rest.filterMap LoopFrame.wait? := by
      rw [State.calls, hs]
      rfl
    refine .inr (?_ : Calls.LoopStep s.calls ⟨w.script, _, _, rest.filterMap LoopFrame.wait?⟩)
    rw [hcalls]
    exact .collect hw hp
  | leave hs => exact .inl (calls_eq rfl rfl rfl (by rw [hs]; rfl))
  | ended hs => exact .inl (calls_eq rfl rfl rfl (by rw [hs]; rfl))

lemma LoopStep.script (h : LoopStep s s') : s'.script = s.script := by
  cases h with
  | fire hf => cases hf; rfl
  | queue hq => cases hq; rfl
  | _ => rfl

/-! ### Runs -/

/-- What every step preserves is preserved by a run. -/
lemma Run.invariant {P : State Native Script → Prop} (h₀ : P s) (hstep : ∀ {t t'}, P t → Step t t' → P t')
    (h : Run s s') : P s' := by
  induction h with
  | refl => exact h₀
  | tail _ hs ih => exact hstep ih hs

/-- The calls are sound, and a loop thread that has ended is at nothing. -/
structure State.Sound (s : State Native Script) : Prop where
  calls : s.calls.Sound
  ended : s.ended → s.loop = []

/-- The loop thread takes no step after its end. -/
lemma LoopStep.running (h : LoopStep s s') (he : s.ended → s.loop = []) : s.ended = false := by
  have running {f : LoopFrame} {rest : List LoopFrame} (hs : s.loop = f :: rest) : s.ended = false := by
    refine Bool.eq_false_iff.2 fun hended => ?_
    rw [he hended] at hs
    cases hs
  cases h with
  | fire hf =>
    cases hf with
    | mk hs => exact running hs
  | queue hq =>
    cases hq with
    | mk hs => exact running hs
  | _ => first | assumption | exact running ‹_›

lemma ended_step (h : Step s s') (he : s.ended → s.loop = []) (he' : s'.ended) : s'.loop = [] := by
  rcases h with h | h
  · cases h <;> exact he he'
  · have hrunning := h.running he
    cases h with
    | ended => rfl
    | fire hf =>
      cases hf
      cases hrunning.symm.trans he'
    | queue hq =>
      cases hq
      cases hrunning.symm.trans he'
    | _ => cases hrunning.symm.trans he'

lemma State.Opening.sound (h : s.Opening) : s.Sound := by
  refine ⟨⟨h.fresh, ⟨_, le_rfl, ?_, ?_⟩, ?_, fun id => ?_, fun id hu => (h.answered id hu).elim, ?_, ?_⟩,
    fun _ => h.loop⟩
  · simp [Calls.queued, State.calls, h.pending]
  · simp [State.calls, h.script]
  · simp [State.calls, h.script]
  · refine iff_of_false (h.answered id) ?_
    simp [Calls.queued, State.calls, h.pending, h.script]
  · simp [Calls.awaited, State.calls, h.loop]
  · simp [Calls.awaited, State.calls, h.loop]

lemma State.Sound.step (h : s.Sound) (hs : Step s s') : s'.Sound := by
  refine ⟨?_, ended_step hs h.ended⟩
  rcases hs with hs | hs
  · rcases hs.calls h.ended with hc | hc
    · exact hc ▸ h.calls
    · exact h.calls.script hc
  · rcases hs.calls with hc | hc
    · exact hc ▸ h.calls
    · exact h.calls.loop hc

lemma State.Sound.run (h : s.Sound) (hr : Run s s') : s'.Sound := Run.invariant h State.Sound.step hr

lemma Step.calls (hs : s.Sound) (h : Step s s') : s'.calls = s.calls ∨ Calls.Step s.calls s'.calls :=
  h.elim (fun h => (h.calls hs.ended).imp_right .inl) fun h => h.calls.imp_right .inr

lemma Run.calls (hs : s.Sound) (h : Run s s') : Relation.ReflTransGen Calls.Step s.calls s'.calls := by
  induction h with
  | refl => exact .refl
  | @tail t t' hr hstep ih =>
    rcases hstep.calls (hs.run hr) with hc | hc
    · exact hc ▸ ih
    · exact ih.tail hc

lemma waits_of_awaits {id : PromiseId} (h : s.Awaits id) :
    ∃ (synchronous : Bool) (waits : _), s.calls.waits = (id, if synchronous then .itself else .sent) :: waits := by
  obtain ⟨synchronous, rest, hs | hs⟩ := h <;>
  · refine ⟨synchronous, rest.filterMap LoopFrame.wait?, ?_⟩
    rw [State.calls, hs]
    rfl

lemma awaited_of_awaits {id : PromiseId} (h : s.Awaits id) : id ∈ s.calls.awaited := by
  obtain ⟨synchronous, rest, hs | hs⟩ := h <;>
  · rw [Calls.awaited, State.calls, hs]
    exact List.mem_cons_self

/-! ### A first run -/

/-- A bridge that was just started. -/
def started (channel : Channel) : State Unit Unit where
  world :=
    { native := (), side := (), generation := 1, script := { channel }
      state := some { lifecycle := { bound := fun _ => none, libraries := [] }, workGuard := true } }
  script := []
  loop := []
  ended := false

lemma started_opening {channel : Channel} (hc : channel ≠ .inline) : (started channel).Opening :=
  ⟨rfl, rfl, rfl, rfl, nofun, nofun, rfl, hc⟩

/-- What can be reached after a step can be reached before it. -/
lemma run_of_step {P : State Native Script → Prop} {s s' : State Native Script} (h : Step s s')
    (hr : ∃ t, Run s' t ∧ P t) : ∃ t, Run s t ∧ P t :=
  hr.imp fun _ ht => ⟨.head h ht.1, ht.2⟩

end NativeBridge.Threads
