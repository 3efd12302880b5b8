import NativeBridge.Proofs.Threads.Unstopped

/-!
Waits within waits. While no stop is asked for, whatever one thread waits for the other one is at, and neither waits for
what only a wait beneath its own could bring.
-/

namespace NativeBridge.Threads

open Eff Bridge

variable {Native Script : Type} {s s' s₀ t : State Native Script}

/-! ### Threads that do not get on -/

/-- The frame of a wait, wherever in it the thread is. -/
def ScriptFrame.still : ScriptFrame → ScriptFrame
  | draining id j => waiting id j
  | f => f

def LoopFrame.still : LoopFrame → LoopFrame
  | serving id synchronous => waiting id synchronous
  | f => f

/-- Nothing has changed but where the threads are in their waits. -/
structure Still (s s' : State Native Script) : Prop where
  world : s'.world = s.world
  script : s'.script.map ScriptFrame.still = s.script.map ScriptFrame.still
  loop : s'.loop.map LoopFrame.still = s.loop.map LoopFrame.still
  ended : s'.ended = s.ended

/-- A step that the threads take by themselves: nothing from outside calls another handler of an idle loop. -/
def Own (s s' : State Native Script) : Prop := Step s s' ∧ ¬(s.loop = [] ∧ s'.loop = [.handler])

namespace State

/-- Whatever the threads do by themselves, they only go round in their waits. -/
def Stuck (s : State Native Script) : Prop := ∀ t, Relation.ReflTransGen Own s t → Still s t

def Moves (s : State Native Script) : Prop := ∃ t, Relation.ReflTransGen Own s t ∧ ¬Still s t

lemma Moves.not_stuck (h : s.Moves) : ¬s.Stuck := fun hs => h.elim fun t ht => ht.2 (hs t ht.1)

end State

lemma Still.symm_trans (h : Still s s') (h' : Still s t) : Still s' t :=
  ⟨h'.world.trans h.world.symm, h'.script.trans h.script.symm, h'.loop.trans h.loop.symm, h'.ended.trans h.ended.symm⟩

lemma Still.length_script (h : Still s s') : s'.script.length = s.script.length := by
  simpa using congrArg List.length h.script

lemma Still.length_loop (h : Still s s') : s'.loop.length = s.loop.length := by
  simpa using congrArg List.length h.loop

lemma ScriptStep.own (h : ScriptStep s s') : Own s s' := by
  refine ⟨.inl h, fun ⟨hs, hs'⟩ => ?_⟩
  rw [h.loop, hs] at hs'
  cases hs'

lemma LoopStep.own {f : LoopFrame} {rest : List LoopFrame} (h : LoopStep s s') (hs : s.loop = f :: rest) : Own s s' :=
  ⟨.inr h, fun hnil => by cases hs.symm.trans hnil.1⟩

namespace State.Moves

lemma of_step (h : Own s s') (hne : ¬Still s s') : s.Moves := ⟨s', .single h, hne⟩

/-- A thread that has only gone on in its wait. -/
lemma of_still (h : Own s s') (hs : Still s s') (hm : s'.Moves) : s.Moves := by
  obtain ⟨t, hr, hne⟩ := hm
  exact ⟨t, .head h hr, fun ht => hne (hs.symm_trans ht)⟩

end State.Moves

/-! ### Threads with something to do -/

section

variable {w w' : World (Bridge.sides Native Script)} {id : PromiseId} {j : Request} {script : List ScriptFrame}
  {loop : List LoopFrame} {synchronous : Bool}

lemma moves_of_reply (hs : s.script = .waiting id j :: script) (hp : ¬s.world.replies.Pending id) : s.Moves := by
  obtain ⟨r, hx, -⟩ := LoopRequest.collect_of_settled hp
  cases r with
  | ok v =>
    refine .of_step (ScriptStep.reply hs hx).own fun h => ?_
    have hframe := h.script
    rw [hs] at hframe
    cases hframe
  | error e =>
    refine .of_step (ScriptStep.refusal hs hx).own fun h => ?_
    have hframe := h.script
    rw [hs] at hframe
    cases hframe

lemma moves_of_queued {f : ScriptFrame} (hs : s.script = f :: script) (hf : f.drains)
    (hq : s.world.script.pending ≠ []) : s.Moves := by
  obtain ⟨call, pending, hpending⟩ := List.exists_cons_of_ne_nil hq
  refine .of_step (ScriptStep.take hs hf (ScriptDispatch.take_of_cons hpending)).own fun h => ?_
  exact absurd h.length_script (Nat.succ_ne_self _)

/-- A scripting thread in a wait goes on where its reply is there, or where a call is queued. -/
lemma moves_of_wait (hs : s.script = .waiting id j :: script ∨ s.script = .draining id j :: script)
    (h : ¬s.world.replies.Pending id ∨ s.world.script.pending ≠ []) : s.Moves := by
  rcases hs with hs | hs
  · by_cases hp : s.world.replies.Pending id
    · have hmiss := ScriptStep.miss hs (LoopRequest.collect_of_pending hp)
      refine .of_still hmiss.own ⟨rfl, by rw [hs]; rfl, rfl, rfl⟩ ?_
      exact moves_of_queued rfl rfl (h.resolve_left fun hn => hn hp)
    · exact moves_of_reply hs hp
  · by_cases hq : s.world.script.pending = []
    · have hdrained := ScriptStep.drained hs (ScriptDispatch.take_of_nil hq)
      refine .of_still hdrained.own ⟨rfl, by rw [hs]; rfl, rfl, rfl⟩ ?_
      exact moves_of_reply rfl (h.resolve_right fun hn => hn hq)
    · exact moves_of_queued hs rfl hq

lemma moves_of_result (hs : s.loop = .waiting id synchronous :: loop) (hp : ¬s.world.script.results.Pending id) :
    s.Moves := by
  rcases ScriptDispatch.collect_apply s.world id with ⟨hpending, -⟩ | ⟨-, r, hr, hx⟩
  · exact (hp hpending).elim
  · refine .of_step ((LoopStep.result hs hr hx).own hs) fun h => ?_
    have hlength := h.length_loop
    rw [hs] at hlength
    exact absurd hlength.symm (Nat.succ_ne_self _)

lemma moves_of_task {f : LoopFrame} (hs : s.loop = f :: loop) (hf : f.serves) (hq : s.world.loop.pending ≠ []) :
    s.Moves := by
  obtain ⟨task, pending, hpending⟩ := List.exists_cons_of_ne_nil hq
  refine .of_step ((LoopStep.serve hs hf (LoopDispatch.take_of_cons hpending)).own hs) fun h => ?_
  exact absurd h.length_loop (Nat.succ_ne_self _)

/-- A loop thread in a wait goes on where its result is there, or where a task is queued. -/
lemma moves_of_loopWait (hs : s.loop = .waiting id synchronous :: loop ∨ s.loop = .serving id synchronous :: loop)
    (h : ¬s.world.script.results.Pending id ∨ s.world.loop.pending ≠ []) : s.Moves := by
  rcases hs with hs | hs
  · rcases ScriptDispatch.collect_apply s.world id with ⟨hp, hx⟩ | ⟨hp, -⟩
    · have hmiss := LoopStep.miss hs hx
      refine .of_still (hmiss.own hs) ⟨rfl, rfl, by rw [hs]; rfl, rfl⟩ ?_
      exact moves_of_task rfl rfl (h.resolve_left fun hn => hn hp)
    · exact moves_of_result hs hp
  · by_cases hq : s.world.loop.pending = []
    · have hserved := LoopStep.served hs (LoopDispatch.take_of_nil hq)
      refine .of_still (hserved.own hs) ⟨rfl, rfl, by rw [hs]; rfl, rfl⟩ ?_
      exact moves_of_result rfl (h.resolve_right fun hn => hn hq)
    · exact moves_of_task hs rfl hq

end

/-! ### No deadlock -/

/-- What holds as long as no stop is asked for. -/
structure State.Steady (s : State Native Script) : Prop where
  sound : s.Sound
  exchanges : s.Exchanges
  inOrder : s.InOrder
  unstopped : s.Unstopped
  armed : s.Armed

lemma State.Started.steady (h : s.Started) : s.Steady where
  sound := h.toOpening.sound
  exchanges := h.exchanges
  inOrder := by
    rw [State.InOrder, h.script]
    exact fun p hp => absurd hp List.not_mem_nil
  unstopped :=
    { script := by simp [h.script], queued := by simp [h.tasks], running := by simp [h.loop]
      stopped := by simp [h.tasks], teardown := by simp [h.loop], ended := h.ended, owned := h.owned }
  armed := { posted := by simp [h.tasks], armed := by simp [h.tasks], bottom := by simp [h.loop] }

namespace State.Steady

lemma step (h : s.Steady) (hs : Onward s s') : s'.Steady :=
  ⟨h.sound.step hs.1, h.exchanges.run (.single hs.1), h.inOrder.step h.sound h.exchanges hs.1,
    hs.1.elim (fun hstep => h.unstopped.script_step hstep hs.2) h.unstopped.loop_step, h.armed.step h.unstopped hs.1⟩

lemma run (h : s.Steady) (hr : Relation.ReflTransGen Onward s s') : s'.Steady := by
  induction hr with
  | refl => exact h
  | tail _ hs ih => exact ih.step hs

variable {id c : PromiseId} {j : Request} {script : List ScriptFrame}

/-- While the loop thread has nothing to do, no reply is waited for that has not been asked of it. -/
lemma ready_of_idle (h : s.Steady) (hl : s.loop = []) (hp : s.world.replies.Pending id) :
    s.world.loop.pending ≠ [] ∧ 0 < s.world.loop.posted := by
  rcases h.exchanges.owed hp with ⟨j, hj⟩ | ⟨j, hj⟩
  · have hne : s.world.loop.pending ≠ [] := List.ne_nil_of_mem hj
    have harmed := (h.armed.armed hne).resolve_right fun hb => by rw [hl] at hb; cases hb
    exact ⟨hne, h.armed.posted harmed⟩
  · rw [hl] at hj
    cases hj

/-- Two threads that wait for each other: the request would be served above the wait for the call that the wait for the
request is above of. -/
lemma ready_of_awaits (h : s.Steady) (hs : s.script = .waiting id j :: script ∨ s.script = .draining id j :: script)
    (hc : s.Awaits c) (hp : s.world.replies.Pending id) (hu : s.world.script.results.Pending c) :
    s.world.loop.pending ≠ [] ∨ s.world.script.pending ≠ [] := by
  by_contra hnone
  rw [not_or, not_not, not_not] at hnone
  obtain ⟨htasks, hcalls⟩ := hnone
  obtain ⟨j', hj⟩ := (h.exchanges.owed hp).resolve_left fun ⟨j, hj⟩ => by rw [htasks] at hj; cases hj
  obtain ⟨q, hq, hid⟩ := LoopFrame.begun_of_mem hj
  have hcalling : c ∈ s.calls.calling := by
    refine ((h.sound.calls.unanswered c).1 hu).resolve_left fun hqueued => ?_
    rw [Calls.queued, State.calls, hcalls] at hqueued
    cases hqueued
  have hpledged : ∃ p ∈ ScriptFrame.pledged s.script, p.1 = id ∧ c ∈ p.2 := by
    rcases hs with hs | hs <;>
    · rw [State.calls, hs] at hcalling
      rw [hs]
      exact ⟨_, List.mem_cons_self, rfl, hcalling⟩
  obtain ⟨p, hp, hpid, hcp⟩ := hpledged
  have hcq := h.inOrder p hp q hq (hpid.trans hid.symm) hcp
  have hordered := h.sound.calls.ordered
  have hbeneath : ∃ rest, s.calls.awaited = c :: LoopFrame.awaited rest ∧ q ∈ LoopFrame.begun rest := by
    obtain ⟨synchronous, rest, hl | hl⟩ := hc <;>
    · rw [hl] at hq
      exact ⟨rest, by rw [Calls.awaited, State.calls, hl]; rfl, hq⟩
  obtain ⟨rest, hawaited, hq⟩ := hbeneath
  rw [hawaited] at hordered
  exact lt_irrefl _ (List.rel_of_pairwise_cons hordered (LoopFrame.subset_of_begun hq hcq))

/-- A scripting thread that is in no wait loop goes on by itself. -/
lemma moves_of_script (h : s.Steady)
    (hs : ∀ id j script, s.script ≠ .waiting id j :: script ∧ s.script ≠ .draining id j :: script) : s.Moves := by
  rcases hscript : s.script with _ | ⟨f, rest⟩
  · refine .of_step (ScriptStep.poll (.inl hscript) h.unstopped.owned).own fun hstill => ?_
    exact absurd hstill.length_script (Nat.succ_ne_self _)
  · have popped {w : World (Bridge.sides Native Script)} (hstill : Still s { s with world := w, script := rest }) :
        False := by
      have hlength := hstill.length_script
      rw [hscript] at hlength
      exact Nat.succ_ne_self _ hlength.symm
    have replaced {w : World (Bridge.sides Native Script)} {g : ScriptFrame} (hne : g.still ≠ f.still)
        (hstill : Still s { s with world := w, script := g :: rest }) : False := by
      have hframes := hstill.script
      rw [hscript] at hframes
      exact hne (List.cons.inj hframes).1
    cases f with
    | entered j => exact .of_step (ScriptStep.send hscript rfl).own (replaced nofun)
    | waiting id j => exact ((hs id j rest).1 hscript).elim
    | draining id j => exact ((hs id j rest).2 hscript).elim
    | leaving j r =>
      refine .of_step (ScriptStep.leave hscript rfl).own fun hstill => ?_
      by_cases hj : joins j r
      · rw [if_pos hj] at hstill
        exact replaced (g := .joining) nofun hstill
      · rw [if_neg hj] at hstill
        exact popped hstill
    | polling woken =>
      by_cases hq : s.world.script.pending = []
      · exact .of_step (ScriptStep.polled hscript (ScriptDispatch.take_of_nil hq)).own popped
      · exact moves_of_queued hscript rfl hq
    | calling call => exact .of_step (ScriptStep.answer hscript (.ok .undefined) rfl).own popped
    | joining => exact ((h.unstopped.script .joining (hscript ▸ List.mem_cons_self)).1 rfl).elim

/-- A loop thread that is neither idle nor in a wait loop goes on by itself. -/
lemma moves_of_loop (h : s.Steady) (hl : s.loop ≠ []) (hc : ∀ c, ¬s.Awaits c) : s.Moves := by
  obtain ⟨f, rest, hloop⟩ := List.exists_cons_of_ne_nil hl
  have replaced {w : World (Bridge.sides Native Script)} {g : LoopFrame} (hne : g.still ≠ f.still)
      (hstill : Still s { s with world := w, loop := g :: rest }) : False := by
    have hframes := hstill.loop
    rw [hloop] at hframes
    exact hne (List.cons.inj hframes).1
  have fires (hf : f.native) : s.Moves := by
    refine .of_step ((LoopStep.fire (.mk hloop hf none [] false rfl)).own hloop) fun hstill => ?_
    exact absurd hstill.length_loop (Nat.succ_ne_self _)
  cases f with
  | batch =>
    by_cases hq : s.world.loop.pending = []
    · have hbottom := h.armed.bottom rest (hloop ▸ List.suffix_rfl)
      rw [hbottom] at hloop
      refine .of_step ((LoopStep.batched hloop (LoopDispatch.take_of_nil hq) rfl).own hloop) fun hstill => ?_
      have hlength := hstill.length_loop
      rw [hloop] at hlength
      cases hlength
    · exact moves_of_task hloop rfl hq
  | task t =>
    refine fires ?_
    cases t with
    | request id j =>
      cases j with
      | stop => exact (h.unstopped.running id (hloop ▸ List.mem_cons_self)).elim
      | _ => rfl
    | _ => rfl
  | handler => exact fires rfl
  | teardown => exact fires rfl
  | routed synchronous function args capture =>
    refine .of_step ((LoopStep.queue (.mk hloop rfl)).own hloop) (replaced ?_)
    cases synchronous <;> exact nofun
  | queued id => exact .of_step ((LoopStep.announce hloop rfl).own hloop) (replaced nofun)
  | waiting id synchronous => exact (hc id ⟨synchronous, rest, .inl hloop⟩).elim
  | serving id synchronous => exact (hc id ⟨synchronous, rest, .inr hloop⟩).elim

lemma moves (h : s.Steady) : s.Moves := by
  by_cases hs : ∃ id j script, s.script = .waiting id j :: script ∨ s.script = .draining id j :: script
  · obtain ⟨id, j, script, hs⟩ := hs
    by_cases hp : s.world.replies.Pending id
    · by_cases hl : s.loop = []
      · obtain ⟨-, hposted⟩ := h.ready_of_idle hl hp
        have hbegin : Step s { s with
            world := { s.world with loop := s.world.loop.beginBatch }, loop := [.batch] } :=
          .inr (.begin hl h.unstopped.ended hposted rfl)
        refine .of_step ⟨hbegin, fun hb => nomatch hb.2⟩ fun hstill => ?_
        have hlength := hstill.length_loop
        rw [hl] at hlength
        cases hlength
      · by_cases hc : ∃ c, s.Awaits c
        · obtain ⟨c, hc⟩ := hc
          by_cases hu : s.world.script.results.Pending c
          · rcases h.ready_of_awaits hs hc hp hu with hq | hq
            · obtain ⟨synchronous, rest, hl⟩ := hc
              exact moves_of_loopWait hl (.inr hq)
            · exact moves_of_wait hs (.inr hq)
          · obtain ⟨synchronous, rest, hl⟩ := hc
            exact moves_of_loopWait hl (.inl hu)
        · exact h.moves_of_loop hl fun c hawaits => hc ⟨c, hawaits⟩
    · exact moves_of_wait hs (.inl hp)
  · refine h.moves_of_script fun id j script => ⟨fun heq => hs ?_, fun heq => hs ?_⟩
    · exact ⟨id, j, script, .inl heq⟩
    · exact ⟨id, j, script, .inr heq⟩

end State.Steady

/-- **No deadlock before a stop.** As long as no stop is asked for, the threads get on by themselves from every state.
While the scripting thread waits for a reply, and the loop thread is idle or waits for a call, one of the two has what
it waits for, or there is a task to run, for which a batch is posted where the loop thread is idle, or a call to run. -/
theorem no_deadlock (h₀ : s₀.Started) (hr : Relation.ReflTransGen Onward s₀ s) :
    ¬s.Stuck ∧ ∀ id j script, s.script = .waiting id j :: script ∨ s.script = .draining id j :: script →
      (s.loop = [] → ¬s.world.replies.Pending id ∨ (s.world.loop.pending ≠ [] ∧ 0 < s.world.loop.posted) ∨
        s.world.script.pending ≠ []) ∧
      ∀ c, s.Awaits c → ¬s.world.replies.Pending id ∨ ¬s.world.script.results.Pending c ∨
        s.world.loop.pending ≠ [] ∨ s.world.script.pending ≠ [] := by
  have h := h₀.steady.run hr
  refine ⟨h.moves.not_stuck, fun id j script hs => ⟨fun hl => ?_, fun c hc => ?_⟩⟩
  · by_cases hp : s.world.replies.Pending id
    · exact .inr (.inl (h.ready_of_idle hl hp))
    · exact .inl hp
  · by_cases hp : s.world.replies.Pending id
    · by_cases hu : s.world.script.results.Pending c
      · exact .inr (.inr (h.ready_of_awaits hs hc hp hu))
      · exact .inr (.inl hu)
    · exact .inl hp

lemma started_started {channel : Channel} (hc : channel ≠ .inline) :
    (Threads.started channel).Started :=
  ⟨started_opening hc, rfl, rfl, rfl⟩

/-- The request of a wait calls back, and the call is there to run. -/
theorem no_deadlock_within_call :
    ∃ s, Relation.ReflTransGen Onward (started .none) s ∧ s.script = [.waiting 0 (.batch [])] ∧ s.Awaits 0 ∧
      ¬s.Stuck ∧ s.world.script.pending ≠ [] := by
  have run : ∃ s, Relation.ReflTransGen Onward (started .none) s ∧ s.script = [.waiting 0 (.batch [])] ∧ s.Awaits 0 ∧
      s.world.replies.Pending 0 ∧ s.world.script.results.Pending 0 ∧ s.world.loop.pending = [] := by
    refine Exchange.reached_of_step ⟨.inl (.enter (.inl rfl) (.batch []) rfl rfl), by simp [started]⟩ ?_
    refine Exchange.reached_of_step ⟨.inl (.send rfl rfl), by simp [started]⟩ ?_
    refine Exchange.reached_of_step ⟨.inr (.begin rfl rfl (by decide) rfl), by simp [started]⟩ ?_
    refine Exchange.reached_of_step ⟨.inr (.serve rfl rfl rfl), by simp [started]⟩ ?_
    refine Exchange.reached_of_step ⟨.inr (.fire (.mk rfl rfl (some 0) [] true rfl)), by simp [started]⟩ ?_
    refine Exchange.reached_of_step ⟨.inr (.queue (.mk rfl rfl)), by simp [started]⟩ ?_
    exact ⟨_, .refl, rfl, ⟨_, _, .inl rfl⟩, by decide, by decide, rfl⟩
  obtain ⟨s, hr, hs, hc, hp, hu, hq⟩ := run
  obtain ⟨hstuck, hready⟩ := no_deadlock (started_started (by decide)) hr
  have h := (hready 0 (.batch []) [] (.inl hs)).2 0 hc
  exact ⟨s, hr, hs, hc, hstuck, ((h.resolve_left fun hn => hn hp).resolve_left fun hn => hn hu).resolve_left
    fun hn => hn hq⟩

end NativeBridge.Threads
