import NativeBridge.Proofs.Threads.Route

/-!
The operations of the bridge as runs of the two threads. What an operation has done on the other side is taken to be a
run that ends where it began, and then so is the operation: the steps are all that it does between threads.
-/

namespace NativeBridge.Threads

open Eff Bridge

variable {Native Script : Type} {α : Type}

/-! ### A bridge that goes on -/

/-- What an operation of a running bridge finds. -/
structure State.Going (s : State Native Script) : Prop where
  sound : s.Sound
  owned : s.world.loopOwned
  channel : s.world.script.channel ≠ .inline
  /-- every job has somebody who waits for it -/
  jobs : ∀ j, .job j ∉ s.world.loop.pending

lemma Step.ended_of_ended {s s' : State Native Script} (h : Step s s') (he : s.ended) : s'.ended := by
  rcases h with h | h
  · cases h <;> exact he
  · cases h with
    | fire h => cases h; exact he
    | queue h => cases h; exact he
    | ended => rfl
    | _ => exact he

/-- The bridge is owned as before, and no job is sent that nobody waits for. -/
def Kept (w w' : World (Bridge.sides Native Script)) : Prop :=
  w'.loopOwned = w.loopOwned ∧ ∀ j, .job j ∈ w'.loop.pending → .job j ∈ w.loop.pending

section

variable {w w' : World (Bridge.sides Native Script)}

lemma Apart.kept (h : Apart w w') : Kept w w' := ⟨h.owned, h.jobs⟩

lemma SameTasks.kept (h : SameTasks w w') : Kept w w' := ⟨h.owned, fun _ hj => h.loop ▸ hj⟩

lemma Beside.kept (h : Beside w w') : Kept w w' := ⟨h.loopOwned, fun _ hj => h.loop ▸ hj⟩

end

lemma ScriptStep.kept {s s' : State Native Script} (h : ScriptStep s s') (he : s.ended = false) :
    Kept s.world s'.world := by
  cases h with
  | work _ hw => exact hw.kept
  | drop _ id hx => exact (Apart.schedule (t := .remove id) nofun hx).kept
  | enter _ _ _ hx | leave _ hx => cases hx; exact ⟨rfl, fun _ hj => hj⟩
  | send _ hx => exact (Apart.post _ hx).kept
  | miss _ hx | reply _ hx | refusal _ hx => exact (Apart.collect _ hx).kept
  | poll => exact ⟨rfl, fun _ hj => hj⟩
  | wake _ hx => exact (SameTasks.deliver hx).kept
  | take _ _ hx | drained _ hx | polled _ hx => exact (SameTasks.take hx).kept
  | answer _ r hx => exact (SameTasks.settle _ r hx).kept
  | join _ hended => rw [he] at hended; cases hended

lemma LoopStep.kept {s s' : State Native Script} (h : LoopStep s s') : Kept s.world s'.world := by
  cases h with
  | work _ _ hw => exact hw.kept
  | begin _ _ _ hx => exact (Apart.beginBatch hx).kept
  | serve _ _ hx | served _ hx => exact (Apart.take hx).kept
  | batched _ ht hx => exact Apart.kept (IsTrans.trans _ _ _ (Apart.take ht) (Apart.endBatch hx))
  | finish _ _ r hx => exact (Apart.settle _ r hx).kept
  | stop _ ha hx => exact Apart.kept (IsTrans.trans _ _ _ (Apart.endLoop.attempt ha) (Apart.settle _ _ hx))
  | fire h =>
    cases h with
    | mk _ _ _ _ _ hx => exact (Apart.chooseRoute hx).kept
  | queue h =>
    cases h with
    | mk _ hx => exact (SameTasks.queue _ _ _ hx).kept
  | announce _ hx => exact (SameTasks.announce hx).kept
  | miss _ hx | result _ _ hx => exact (SameTasks.collect _ hx).kept
  | handle | handled | done | leave | ended => exact ⟨rfl, fun _ hj => hj⟩

lemma State.Going.step {s s' : State Native Script} (hg : s.Going) (h : Step s s') (he : s.ended = false) :
    s'.Going := by
  have hkept : Kept s.world s'.world := h.elim (fun h => h.kept he) LoopStep.kept
  refine ⟨hg.sound.step h, hkept.1.trans hg.owned, ?_, fun j hj => hg.jobs j (hkept.2 j hj)⟩
  rcases h.calls hg.sound with hc | hc
  · exact (congrArg (fun c => c.queue.channel) hc).trans_ne hg.channel
  · exact (Calls.channel_of_step hc).trans_ne hg.channel

/-- A bridge goes on as long as its loop thread has not ended. -/
lemma State.Going.run {s s' : State Native Script} (hg : s.Going) (h : Run s s') (he : s'.ended = false) :
    s'.Going := by
  induction h with
  | refl => exact hg
  | @tail t t' _ hs ih =>
    have ht : t.ended = false := by
      refine Bool.eq_false_iff.2 fun hended => ?_
      rw [hs.ended_of_ended hended] at he
      cases he
    exact (ih ht).step hs ht

/-- The threads at these frames, with the loop thread running. -/
abbrev State.on (script : List ScriptFrame) (loop : List LoopFrame) (w : World (Bridge.sides Native Script)) :
    State Native Script :=
  ⟨w, script, loop, false⟩

/-- The effect is a run of the threads from these frames, which ends there. -/
def Runs (script : List ScriptFrame) (loop : List LoopFrame) (x : Eff (Bridge.sides Native Script) α) : Prop :=
  ∀ ⦃w r w'⦄, (State.on script loop w).Going → x w = some (r, w') →
    Run (State.on script loop w) (State.on script loop w')

/-! ### The loop thread -/

section

variable {h : Host (Bridge.sides Native Script)} {script : List ScriptFrame} {loop : List LoopFrame}
  {w w' : World (Bridge.sides Native Script)}

/-- A task that the loop thread runs is a run of the threads. -/
def Serves (h : Host (Bridge.sides Native Script)) (script : List ScriptFrame) (loop : List LoopFrame) : Prop :=
  ∀ ⦃t w r w'⦄, (State.on script (.task t :: loop) w).Going → (∀ j, t ≠ .job j) →
    LoopDispatch.run h t w = some (r, w') →
      r = .ok () ∧ Run (State.on script (.task t :: loop) w) (State.on script loop w')

/-- Tasks are served where the jobs of the script and the removal of objects are runs. -/
theorem serves_of_runs (hremove : ∀ id, Runs script (.task (.remove id) :: loop) (LoopState.removeObject h id))
    (hanswer : ∀ promise j, j ≠ .stop → Runs script (.task (.request promise j) :: loop) (h.answer j))
    (hstop : h.answer .stop = Bridge.endLoop) : Serves h script loop := by
  intro t w r w' hg ht hx
  cases t with
  | remove id =>
    obtain ⟨q, w₁, h₁, h₂⟩ := attempt_bind_eq_some.1 hx
    cases h₂
    exact ⟨rfl, (hremove id hg h₁).tail (.inr (.done rfl nofun))⟩
  | job j => exact (ht j rfl).elim
  | request promise j =>
    obtain ⟨q, w₁, h₁, h₂⟩ := attempt_bind_eq_some.1 hx
    cases h₂
    rcases eq_or_ne j .stop with rfl | hj
    · rw [hstop] at h₁
      have hend : Eff.attempt Bridge.endLoop w = some (.ok q, w₁) := by rw [attempt_apply, h₁]; rfl
      exact ⟨rfl, .single (.inr (.stop rfl hend rfl))⟩
    · exact ⟨rfl, (hanswer promise j hj hg h₁).tail (.inr (.finish rfl hj q rfl))⟩

/-- The loop thread runs tasks until none waits. -/
lemma drain_runs {f : LoopFrame} (hf : f.serves) (hs : Serves h script (f :: loop)) (fuel : Nat) :
    Runs script (f :: loop) (LoopDispatch.drain h fuel) := by
  induction fuel with
  | zero => exact fun _ _ _ _ hx => by cases hx
  | succ fuel ih =>
    intro w r w' hg hx
    cases hp : w.loop.pending with
    | nil =>
      rw [LoopDispatch.drain_of_nil hp] at hx
      cases hx
      exact .refl
    | cons t rest =>
      obtain ⟨w₁, q, htask, hrest, -⟩ := LoopDispatch.drain_of_cons hp hx
      have hserve := LoopStep.serve (s := State.on script (f :: loop) w) rfl hf (LoopDispatch.take_of_cons hp)
      have hg₁ := hg.run (.single (.inr hserve)) rfl
      have hjob (j : Request) : t ≠ .job j := fun ht =>
        hg.jobs j (show .job j ∈ w.loop.pending from hp ▸ ht ▸ List.mem_cons_self)
      have hrun := (hs hg₁ hjob htask).2
      exact .head (.inr hserve) (hrun.trans (ih (hg₁.run hrun rfl) hrest))

lemma batch_runs (hs : Serves h script [.batch]) (hg : (State.on script [] w).Going) (hp : 0 < w.loop.posted)
    {r : Except Error Unit} (hx : LoopDispatch.batch h w = some (r, w')) :
    Run (State.on script [] w) (State.on script [] w') := by
  rw [LoopDispatch.batch, LoopDispatch.beginBatch, bind_ok (modify_apply _ w)] at hx
  have hbegin := LoopStep.begin (s := State.on script [] w) rfl rfl hp rfl
  have hg₁ := hg.run (.single (.inr hbegin)) rfl
  rcases bind_eq_some.1 hx with ⟨n, w₂, hdrain, hend⟩ | ⟨e, hdrain, -⟩
  · have hrun := drain_runs rfl hs h.limit hg₁ hdrain
    have hnone := (LoopDispatch.drain_ok hdrain).2
    cases hend
    exact .head (.inr hbegin) (hrun.tail (.inr (.batched rfl (LoopDispatch.take_of_nil hnone) rfl)))
  · obtain ⟨⟨n, hn⟩, -⟩ := LoopDispatch.drain_ok hdrain
    cases hn

/-- **The batches of the loop are runs of the threads.** -/
theorem poll_runs (hs : Serves h script [.batch]) : Runs script [] (LoopDispatch.poll h) := by
  unfold LoopDispatch.poll
  generalize h.limit = fuel
  induction fuel with
  | zero => exact fun _ _ _ _ hx => by cases hx
  | succ fuel ih =>
    intro w r w' hg hx
    rcases Nat.eq_zero_or_pos w.loop.posted with hp | hp
    · rw [LoopDispatch.runPosted, bind_ok (get_apply w), if_pos hp] at hx
      cases hx
      exact .refl
    · rw [LoopDispatch.runPosted, bind_ok (get_apply w), if_neg hp.ne'] at hx
      rcases bind_eq_some.1 hx with ⟨_, w₁, h₁, h₂⟩ | ⟨e, h₁, -⟩
      · have hrun := batch_runs hs hg hp h₁
        rcases bind_eq_some.1 h₂ with ⟨n, w₂, h₃, h₄⟩ | ⟨e, h₃, -⟩
        · cases h₄
          exact hrun.trans (ih (hg.run hrun rfl) h₃)
        · exact hrun.trans (ih (hg.run hrun rfl) h₃)
      · cases LoopDispatch.batch_ok h₁

/-- What the loop thread does while it waits for a call: it serves its own tasks, and the scripting thread has its
turns. -/
lemma await_runs {id : PromiseId} {synchronous : Bool} (hs : Serves h script (.serving id synchronous :: loop))
    (hturn : Runs script (.waiting id synchronous :: loop) h.scriptTurn)
    (hquiet : ∀ w e w', h.scriptTurn w ≠ some (.error e, w')) (fuel : Nat)
    (hg : (State.on script (.waiting id synchronous :: loop) w).Going) {r : Except Error ScriptResult}
    (hx : ScriptDispatch.await h id fuel w = some (r, w')) :
    Run (State.on script (.waiting id synchronous :: loop) w) (State.on script loop w') := by
  induction fuel generalizing w with
  | zero => cases hx
  | succ fuel ih =>
    rcases bind_eq_some.1 hx with ⟨q, w₁, h₁, h₂⟩ | ⟨e, h₁, rfl⟩
    · cases q with
      | some v =>
        cases h₂
        exact .single (.inr (.result rfl (by simp) h₁))
      | none =>
        obtain rfl := ScriptDispatch.collect_none h₁
        have hmiss : Step (State.on script (.waiting id synchronous :: loop) w₁)
            (State.on script (.serving id synchronous :: loop) w₁) := .inr (.miss rfl h₁)
        have hg₁ := hg.run (.single hmiss) rfl
        rcases bind_eq_some.1 h₂ with ⟨_, w₂, h₃, h₄⟩ | ⟨e, h₃, -⟩
        · rcases bind_eq_some.1 h₃ with ⟨n, w₃, h₅, h₆⟩ | ⟨e, h₅, he⟩
          · cases h₆
            have hdrain := drain_runs rfl hs h.limit hg₁ h₅
            have hnone := (LoopDispatch.drain_ok h₅).2
            have hserved : Run (State.on script (.waiting id synchronous :: loop) w₁)
                (State.on script (.waiting id synchronous :: loop) w₂) :=
              .head hmiss (hdrain.tail (.inr (.served rfl (LoopDispatch.take_of_nil hnone))))
            have hg₂ := hg.run hserved rfl
            rcases bind_eq_some.1 h₄ with ⟨b, w₃, h₇, h₈⟩ | ⟨e, h₇, -⟩
            · cases h₇
              split at h₈
              · rcases bind_eq_some.1 h₈ with ⟨_, w₃, h₉, h₁₀⟩ | ⟨e, h₉, -⟩
                · have hrun := hserved.trans (hturn hg₂ h₉)
                  exact hrun.trans (ih (hg.run hrun rfl) h₁₀)
                · exact (hquiet _ _ _ h₉).elim
              · exact hserved.trans (ih hg₂ h₈)
            · cases h₇
          · cases he
        · rcases bind_eq_some.1 h₃ with ⟨n, w₃, h₅, h₆⟩ | ⟨e, h₅, -⟩
          · cases h₆
          · obtain ⟨⟨n, hn⟩, -⟩ := LoopDispatch.drain_ok h₅
            cases hn
    · exact .single (.inr (.result rfl (by simp) h₁))

/-- A call that is queued with a wake-up is queued and announced. -/
lemma queueWithWakeup_apply (h : Host (Bridge.sides Native Script)) (function : Option FunctionId) (args : List Value)
    (capture : Bool) (hc : w.script.channel ≠ .inline) :
    ∃ id w₁ w₂, ScriptDispatch.queue function args capture w = some (.ok id, w₁) ∧
      ScriptDispatch.announce w₁ = some (.ok (), w₂) ∧
        ScriptDispatch.queueWithWakeup h function args capture w = some (.ok id, w₂) := by
  refine ⟨_, _, _, rfl, rfl, ?_⟩
  rw [ScriptDispatch.queueWithWakeup, bind_ok rfl, bind_ok rfl, bind_ok (get_apply _), if_neg]
  · rfl
  · dsimp only
    split <;> exact hc

/-- **The round trip of a call from native code is a run of the threads.** -/
theorem invokeAndWait_runs {f : LoopFrame} (hf : f.native)
    (hs : ∀ id synchronous, Serves h script (.serving id synchronous :: f :: loop))
    (hturn : ∀ id synchronous, Runs script (.waiting id synchronous :: f :: loop) h.scriptTurn)
    (hquiet : ∀ w e w', h.scriptTurn w ≠ some (.error e, w')) (function : Option FunctionId) (args : List Value)
    (capture : Bool) : Runs script (f :: loop) (ScriptDispatch.invokeAndWait h function args capture) := by
  intro w r w' hg hx
  rcases bind_eq_some.1 hx with ⟨synchronous, w₁, h₁, h₂⟩ | ⟨e, h₁, -⟩
  · have hfire : Step (State.on script (f :: loop) w)
        (State.on script (.routed synchronous function args capture :: f :: loop) w₁) :=
      .inr (.fire (.mk rfl hf function args capture h₁))
    have hg₁ := hg.run (.single hfire) rfl
    have hqueue : ∃ id w₂, Run (State.on script (.routed synchronous function args capture :: f :: loop) w₁)
        (State.on script (.waiting id synchronous :: f :: loop) w₂) ∧
          ScriptDispatch.await h id h.limit w₂ = some (r, w') := by
      cases synchronous with
      | true =>
        rcases bind_eq_some.1 h₂ with ⟨id, w₂, h₃, h₄⟩ | ⟨e, h₃, -⟩
        · have hq : Queues (State.on script (.routed true function args capture :: f :: loop) w₁) id true
              (State.on script (.waiting id true :: f :: loop) w₂) := .mk rfl h₃
          exact ⟨id, w₂, .single (.inr (.queue hq)), h₄⟩
        · cases h₃
      | false =>
        obtain ⟨id, w₂, w₃, h₃, h₄, h₅⟩ := queueWithWakeup_apply h function args capture hg₁.channel
        have hq : Queues (State.on script (.routed false function args capture :: f :: loop) w₁) id false
            (State.on script (.queued id :: f :: loop) w₂) := .mk rfl h₃
        have htold : Step (State.on script (.queued id :: f :: loop) w₂)
            (State.on script (.waiting id false :: f :: loop) w₃) := .inr (.announce rfl h₄)
        rw [if_neg Bool.false_ne_true, bind_ok h₅] at h₂
        exact ⟨id, w₃, .tail (.single (.inr (.queue hq))) htold, h₂⟩
    obtain ⟨id, w₂, hrun, h₃⟩ := hqueue
    have hwait := await_runs (hs id synchronous) (hturn id synchronous) hquiet h.limit (hg₁.run hrun rfl) h₃
    exact .head hfire (hrun.trans hwait)
  · cases h₁

end

/-! ### The scripting thread -/

section

variable {h : Host (Bridge.sides Native Script)} {script : List ScriptFrame} {loop : List LoopFrame}
  {w w' : World (Bridge.sides Native Script)}

/-- The scripting thread runs calls until none is queued. -/
lemma process_runs {f : ScriptFrame} (hf : f.drains)
    (ha : ∀ call, Runs (.calling call :: f :: script) loop (h.script call.function call.args)) (fuel : Nat) :
    Runs (f :: script) loop (ScriptDispatch.process h fuel) := by
  induction fuel with
  | zero => exact fun _ _ _ _ hx => by cases hx
  | succ fuel ih =>
    intro w r w' hg hx
    cases hp : w.script.pending with
    | nil =>
      rw [ScriptDispatch.process_of_nil hp] at hx
      cases hx
      exact .refl
    | cons call pending =>
      obtain ⟨v, w₁, w₂, q, hcall, hsettle, hrest, -⟩ := ScriptDispatch.process_of_cons hp hx
      have htake := ScriptStep.take (s := State.on (f :: script) loop w) rfl hf (ScriptDispatch.take_of_cons hp)
      have hg₁ := hg.run (.single (.inl htake)) rfl
      have hanswer : Step (State.on (.calling call :: f :: script) loop w₁) (State.on (f :: script) loop w₂) :=
        .inl (.answer rfl (ScriptDispatch.ending h w₁ v) hsettle)
      have hrun : Run (State.on (f :: script) loop w) (State.on (f :: script) loop w₂) :=
        .head (.inl htake) ((ha call hg₁ hcall).tail hanswer)
      exact hrun.trans (ih (hg.run hrun rfl) hrest)

/-- The turn of a scripting thread that waits for a reply. -/
lemma turn_runs {id : PromiseId} {j : Request}
    (ha : ∀ call, Runs (.calling call :: .draining id j :: script) loop (h.script call.function call.args)) :
    Runs (.draining id j :: script) loop (ScriptDispatch.processPending h) :=
  process_runs rfl ha h.limit

/-- **A script that runs what is queued is a run of the threads.** -/
theorem processPending_runs (hfree : Free script)
    (ha : ∀ call, Runs (.calling call :: .polling false :: script) loop (h.script call.function call.args)) :
    Runs script loop (ScriptDispatch.processPending h) := by
  intro w r w' hg hx
  have hpoll : Step (State.on script loop w) (State.on (.polling false :: script) loop w) :=
    .inl (.poll hfree hg.owned)
  have hrun := process_runs rfl ha h.limit (hg.run (.single hpoll) rfl) hx
  exact .head hpoll (hrun.tail (.inl (.polled rfl (ScriptDispatch.take_of_nil (ScriptDispatch.process_ok hx).2))))

/-- **Wake-ups in the event loop of the script are runs of the threads.** -/
theorem runMailbox_runs (hfree : Free script)
    (ha : ∀ call, Runs (.calling call :: .polling true :: script) loop (h.script call.function call.args))
    (fuel : Nat) : Runs script loop (ScriptDispatch.runMailbox h fuel) := by
  induction fuel with
  | zero => exact fun _ _ _ _ hx => by cases hx
  | succ fuel ih =>
    intro w r w' hg hx
    rcases bind_eq_some.1 hx with ⟨t, w₁, h₁, h₂⟩ | ⟨e, h₁, -⟩
    · cases t with
      | none =>
        obtain ⟨-, rfl⟩ := ScriptDispatch.deliver_none h₁
        cases h₂
        exact .refl
      | some current =>
        have hdone : ∃ w₂, Run (State.on script loop w) (State.on script loop w₂) ∧
            (do return (← ScriptDispatch.runMailbox h fuel) + 1 : Eff (Bridge.sides Native Script) Nat) w₂ =
              some (r, w') := by
          have hdeliver := ScriptStep.wake (s := State.on script loop w) hfree h₁
          cases current with
          | false => exact ⟨w₁, .single (.inl hdeliver), h₂⟩
          | true =>
            have hwake : Step (State.on script loop w) (State.on (.polling true :: script) loop w₁) := .inl hdeliver
            rcases bind_eq_some.1 h₂ with ⟨n, w₂, h₃, h₄⟩ | ⟨e, h₃, -⟩
            · have hrun := process_runs rfl ha h.limit (hg.run (.single hwake) rfl) h₃
              have hp := (ScriptDispatch.process_ok h₃).2
              exact ⟨w₂, .head hwake (hrun.tail (.inl (.polled rfl (ScriptDispatch.take_of_nil hp)))), h₄⟩
            · obtain ⟨⟨n, hn⟩, -⟩ := ScriptDispatch.process_ok h₃
              cases hn
        obtain ⟨w₂, hrun, h₃⟩ := hdone
        rcases bind_eq_some.1 h₃ with ⟨n, w₃, h₄, h₅⟩ | ⟨e, h₄, -⟩
        · cases h₅
          exact hrun.trans (ih (hg.run hrun rfl) h₄)
        · exact hrun.trans (ih (hg.run hrun rfl) h₄)
    · cases h₁

/-- Where the threads are at the frames where nothing was queued, nothing is queued again. -/
lemma pending_of_run (hg : (State.on script loop w).Going) (hp : w.script.pending = [])
    (hr : Run (State.on script loop w) (State.on script loop w')) : w'.script.pending = [] := by
  have hsound := hg.sound.run hr
  refine List.eq_nil_iff_forall_not_mem.2 fun call hcall => ?_
  have hqueued : call.promise ∈ (State.on script loop w').calls.queued := List.mem_map_of_mem hcall
  have hu := (hsound.calls.unanswered _).2 (.inl hqueued)
  have hawaited : call.promise ∈ (State.on script loop w).calls.awaited := hsound.calls.waited _ hu
  have hu₀ := Calls.unanswered_of_run hg.sound.calls (Run.calls hg.sound hr) (hg.sound.calls.made _ hawaited) hu
  rcases (hg.sound.calls.unanswered _).1 hu₀ with hold | hcalling
  · simp [Calls.queued, State.calls, hp] at hold
  · obtain ⟨first, -, htail, hbelow⟩ := hsound.calls.tail
    rw [htail, List.mem_range'_1] at hqueued
    exact absurd hqueued.1 (Nat.not_le.2 (hbelow _ hcalling))

/-- What the scripting thread does while it waits for a reply: it runs what is queued, and the loop thread has its
turns. -/
lemma replyAwait_runs {id : PromiseId} {j : Request}
    (ha : ∀ call, Runs (.calling call :: .draining id j :: script) loop (h.script call.function call.args))
    (hturn : Runs (.draining id j :: script) loop h.loopTurn)
    (hquiet : ∀ w e w', h.loopTurn w ≠ some (.error e, w')) (fuel : Nat)
    (hg : (State.on (.waiting id j :: script) loop w).Going) {r : Except Error Reply}
    (hx : LoopRequest.await h id fuel w = some (r, w')) :
    Run (State.on (.waiting id j :: script) loop w) (State.on (.leaving j r :: script) loop w') := by
  induction fuel generalizing w with
  | zero => cases hx
  | succ fuel ih =>
    rcases bind_eq_some.1 hx with ⟨q, w₁, h₁, h₂⟩ | ⟨e, h₁, rfl⟩
    · cases q with
      | some v =>
        cases h₂
        exact .single (.inl (.reply rfl h₁))
      | none =>
        have hmiss : Step (State.on (.waiting id j :: script) loop w) (State.on (.draining id j :: script) loop w₁) :=
          .inl (.miss rfl h₁)
        have hg₁ := hg.run (.single hmiss) rfl
        rcases bind_eq_some.1 h₂ with ⟨n, w₂, h₃, h₄⟩ | ⟨e, h₃, -⟩
        · have hdrain := process_runs rfl ha h.limit hg₁ h₃
          have hp := (ScriptDispatch.process_ok h₃).2
          have hg₂ := hg₁.run hdrain rfl
          have again {w₃ : World (Bridge.sides Native Script)}
              (hr : Run (State.on (.draining id j :: script) loop w₂) (State.on (.draining id j :: script) loop w₃))
              (hx : LoopRequest.await h id fuel w₃ = some (r, w')) :
              Run (State.on (.waiting id j :: script) loop w) (State.on (.leaving j r :: script) loop w') := by
            have hdrained : Step (State.on (.draining id j :: script) loop w₃)
                (State.on (.waiting id j :: script) loop w₃) :=
              .inl (.drained rfl (ScriptDispatch.take_of_nil (pending_of_run hg₂ hp hr)))
            have hrun : Run (State.on (.waiting id j :: script) loop w) (State.on (.waiting id j :: script) loop w₃) :=
              .head hmiss ((hdrain.trans hr).tail hdrained)
            exact hrun.trans (ih (hg.run hrun rfl) hx)
          rcases bind_eq_some.1 h₄ with ⟨b, w₃, h₅, h₆⟩ | ⟨e, h₅, -⟩
          · cases h₅
            split at h₆
            · rcases bind_eq_some.1 h₆ with ⟨_, w₃, h₇, h₈⟩ | ⟨e, h₇, -⟩
              · exact again (hturn hg₂ h₇) h₈
              · exact (hquiet _ _ _ h₇).elim
            · exact again .refl h₆
          · cases h₅
        · obtain ⟨⟨n, hn⟩, -⟩ := ScriptDispatch.process_ok h₃
          cases hn
    · exact .single (.inl (.refusal rfl h₁))

/-- **A job that is sent and waited for is a run of the threads.** A stop that was served, or that found nobody to serve
it, goes on to wait for the end of the loop thread. -/
theorem send_runs {j : Request} (hfree : Free script)
    (ha : ∀ id call, Runs (.calling call :: .draining id j :: script) loop (h.script call.function call.args))
    (hturn : ∀ id, Runs (.draining id j :: script) loop h.loopTurn)
    (hquiet : ∀ w e w', h.loopTurn w ≠ some (.error e, w')) (hg : (State.on script loop w).Going)
    {r : Except Error Reply} (hx : LoopRequest.send h j w = some (r, w')) :
    Run (State.on script loop w) (State.on (if joins j r then .joining :: script else script) loop w') := by
  rcases bind_eq_some.1 hx with ⟨_, w₁, h₁, h₂⟩ | ⟨e, h₁, -⟩
  · have henter : Step (State.on script loop w) (State.on (.entered j :: script) loop w₁) :=
      .inl (.enter hfree j hg.owned h₁)
    rcases bind_eq_some.1 h₂ with ⟨id, w₂, h₃, h₄⟩ | ⟨e, h₃, -⟩
    · have hsend : Step (State.on (.entered j :: script) loop w₁) (State.on (.waiting id j :: script) loop w₂) :=
        .inl (.send rfl h₃)
      have hsent : Run (State.on script loop w) (State.on (.waiting id j :: script) loop w₂) :=
        .tail (.single henter) hsend
      obtain ⟨q, w₃, h₅, h₆⟩ := attempt_bind_eq_some.1 h₄
      have hwait := replyAwait_runs (ha id) (hturn id) hquiet h.limit (hg.run hsent rfl) h₅
      rcases bind_eq_some.1 h₆ with ⟨_, w₄, h₇, h₈⟩ | ⟨e, h₇, -⟩
      · rw [ofExcept_apply] at h₈
        cases h₈
        exact (hsent.trans hwait).tail (.inl (.leave rfl h₇))
      · cases h₇
    · cases h₃
  · cases h₁

/-- **A request of the script is a run of the threads.** -/
theorem request_runs {j : Request} (hj : j ≠ .stop) (hfree : Free script)
    (ha : ∀ id call, Runs (.calling call :: .draining id j :: script) loop (h.script call.function call.args))
    (hturn : ∀ id, Runs (.draining id j :: script) loop h.loopTurn)
    (hquiet : ∀ w e w', h.loopTurn w ≠ some (.error e, w')) : Runs script loop (Bridge.request h j) := by
  intro w r w' hg hx
  have hjoins : joins j r = false := by
    cases j <;> first | rfl | exact (hj rfl).elim
  rcases bind_eq_some.1 hx with ⟨b, w₁, h₁, h₂⟩ | ⟨e, h₁, -⟩
  · cases h₁
    rcases guard_eq_some.1 h₂ with ⟨-, -, rfl⟩ | ⟨-, h₃⟩
    · exact .refl
    · have hrun := send_runs hfree ha hturn hquiet hg h₃
      rwa [hjoins, if_neg Bool.false_ne_true] at hrun
  · cases h₁

end

end NativeBridge.Threads
