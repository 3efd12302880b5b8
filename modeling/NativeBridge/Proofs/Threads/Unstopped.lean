import NativeBridge.Proofs.Threads.Order

/-!
Tasks of the loop thread while no stop is asked for. None is refused, and as long as one waits a batch is posted for it
or runs.
-/

namespace NativeBridge.Threads

open Eff Bridge

variable {Native Script : Type} {s s' : State Native Script}

/-! ### What a step does to tasks -/

/-- The same tasks wait for as many batches. -/
structure Alike (q q' : LoopQueue (Task Request)) : Prop where
  pending : q'.pending = q.pending
  armed : q'.armed = q.armed
  posted : q'.posted = q.posted
  stopped : q'.stopped = q.stopped

/-- A task is sent, and a batch is posted for it. -/
structure Sends (task : Task Request) (q q' : LoopQueue (Task Request)) : Prop where
  pending : q'.pending = q.pending ++ [task]
  armed : q'.armed
  posted : (q.armed → 0 < q.posted) → 0 < q'.posted
  stopped : q'.stopped = q.stopped

lemma Alike.of_eq {q q' : LoopQueue (Task Request)} (h : q' = q) : Alike q q' := h ▸ ⟨rfl, rfl, rfl, rfl⟩

section

variable {w w' : World (Bridge.sides Native Script)}

lemma schedule_queue {task : Task Request} (hx : LoopDispatch.schedule task w = some (.ok (), w')) :
    Alike w.loop w'.loop ∨ Sends task w.loop w'.loop := by
  rw [LoopDispatch.schedule_apply] at hx
  split at hx
  · cases task <;> (cases hx; exact .inl ⟨rfl, rfl, rfl, rfl⟩)
  · cases hx
    dsimp only [LoopQueue.arm]
    split
    next harmed => exact .inr ⟨rfl, harmed, fun h => h harmed, rfl⟩
    next => exact .inr ⟨rfl, rfl, fun _ => Nat.succ_pos _, rfl⟩

lemma post_queue {j : Request} {id : PromiseId} (hx : LoopRequest.post j w = some (.ok id, w')) :
    Alike w.loop w'.loop ∨ Sends (.request id j) w.loop w'.loop := by
  rcases bind_eq_some.1 hx with ⟨id', w₁, h₁, h₂⟩ | ⟨e, h₁, -⟩
  · cases h₁
    rcases bind_eq_some.1 h₂ with ⟨_, w₂, h₃, h₄⟩ | ⟨e, h₃, -⟩
    · cases h₄
      have hqueue := schedule_queue h₃
      exact hqueue
    · cases h₃
  · cases h₁

end

/-- A step of the scripting thread sends one task at most. -/
lemma ScriptStep.queue (h : ScriptStep s s') :
    Alike s.world.loop s'.world.loop ∨
      ∃ task, Sends task s.world.loop s'.world.loop ∧
        ∀ id j, task = .request id j → ∃ rest, s.script = .entered j :: rest := by
  cases h with
  | work _ hw => exact .inl (.of_eq hw.loop)
  | drop _ id hx => exact (schedule_queue hx).imp_right fun hq => ⟨.remove id, hq, nofun⟩
  | enter _ _ _ hx | leave _ hx => cases hx; exact .inl ⟨rfl, rfl, rfl, rfl⟩
  | send hs hx => exact (post_queue hx).imp_right fun hq => ⟨_, hq, fun _ _ he => by cases he; exact ⟨_, hs⟩⟩
  | miss _ hx => exact .inl (.of_eq (by rw [LoopRequest.collect_none hx]))
  | reply _ hx => exact .inl (.of_eq (by rw [(LoopRequest.collect_some (r := .ok _) hx).1]))
  | refusal _ hx => exact .inl (.of_eq (by rw [(LoopRequest.collect_some (r := .error _) hx).1]))
  | poll => exact .inl (.of_eq rfl)
  | wake _ hx => exact .inl (.of_eq (SameTasks.deliver hx).loop)
  | take _ _ hx | drained _ hx | polled _ hx => exact .inl (.of_eq (SameTasks.take hx).loop)
  | answer _ r hx => exact .inl (.of_eq (SameTasks.settle _ r hx).loop)
  | join _ _ hx =>
    have hloop := (SameTasks.clear hx).loop
    exact .inl (.of_eq hloop)

/-- What a step of the loop thread does to the tasks that wait. -/
inductive Turn (s s' : State Native Script) : Prop where
  | other (h : Alike s.world.loop s'.world.loop)
      (hb : .batch ∈ s.loop → .batch ∈ s'.loop ∨ s.world.loop.pending = [])
  | begin (h : s'.world.loop = s.world.loop.beginBatch) (hb : .batch ∈ s'.loop)
  | serve (task : Task Request) (hp : s.world.loop.pending = task :: s'.world.loop.pending)
      (ha : s'.world.loop.armed = s.world.loop.armed) (ho : s'.world.loop.posted = s.world.loop.posted)
      (hstop : s'.world.loop.stopped = s.world.loop.stopped) (hb : .batch ∈ s.loop → .batch ∈ s'.loop)
  | stop (id : PromiseId) (h : .task (.request id .stop) ∈ s.loop)

lemma LoopStep.turn (h : LoopStep s s') : Turn s s' := by
  have pop {f : LoopFrame} {rest : List LoopFrame} (hs : s.loop = f :: rest) (hf : f ≠ .batch) (hb : .batch ∈ s.loop) :
      .batch ∈ rest := by
    rw [hs, List.mem_cons] at hb
    exact hb.resolve_left fun h => hf h.symm
  cases h with
  | work _ _ hw => exact .other (.of_eq hw.loop) .inl
  | begin _ _ _ hx => cases hx; exact .begin rfl List.mem_cons_self
  | handle hs => exact .other (.of_eq rfl) fun hb => by rw [hs] at hb; cases hb
  | handled hs => exact .other (.of_eq rfl) fun hb => .inl (pop hs nofun hb)
  | serve hs hf hx =>
    obtain ⟨pending, hp, rfl⟩ := LoopDispatch.take_some hx
    exact .serve _ hp rfl rfl rfl (List.mem_cons_of_mem _)
  | batched hs ht hx =>
    obtain ⟨hp, rfl⟩ := LoopDispatch.take_none ht
    cases hx
    exact .other (.of_eq (if_pos (by rw [hp]; rfl))) fun _ => .inr hp
  | served hs hx =>
    obtain ⟨-, rfl⟩ := LoopDispatch.take_none hx
    exact .other (.of_eq rfl) fun hb => .inl (List.mem_cons_of_mem _ (pop hs nofun hb))
  | done hs => exact .other (.of_eq rfl) fun hb => .inl (pop hs nofun hb)
  | finish hs hj r hx => cases hx; exact .other (.of_eq rfl) fun hb => .inl (pop hs nofun hb)
  | stop hs => exact .stop _ (by rw [hs]; exact List.mem_cons_self)
  | fire h =>
    cases h with
    | mk hs _ _ _ _ hx =>
      refine .other ?_ fun hb => .inl (List.mem_cons_of_mem _ hb)
      cases hx
      dsimp only [LoopQueue.recordRoute]
      split <;> exact ⟨rfl, rfl, rfl, rfl⟩
  | queue h =>
    cases h with
    | mk hs hx =>
      exact .other (.of_eq (SameTasks.queue _ _ _ hx).loop) fun hb => .inl (List.mem_cons_of_mem _ (pop hs nofun hb))
  | announce hs hx =>
    exact .other (.of_eq (SameTasks.announce hx).loop) fun hb => .inl (List.mem_cons_of_mem _ (pop hs nofun hb))
  | miss hs hx =>
    exact .other (.of_eq (SameTasks.collect _ hx).loop) fun hb => .inl (List.mem_cons_of_mem _ (pop hs nofun hb))
  | result hs _ hx => exact .other (.of_eq (SameTasks.collect _ hx).loop) fun hb => .inl (pop hs nofun hb)
  | leave hs => exact .other (.of_eq rfl) fun hb => by rw [hs] at hb; cases hb
  | ended hs => exact .other (.of_eq rfl) fun hb => .inl (pop hs nofun hb)

/-! ### No stop -/

/-- No stop is asked for, and none is served. -/
structure State.Unstopped (s : State Native Script) : Prop where
  script : ∀ f ∈ s.script, f ≠ .joining ∧ f.request? ≠ some .stop
  queued : ∀ id, .request id .stop ∉ s.world.loop.pending
  running : ∀ id, .task (.request id .stop) ∉ s.loop
  stopped : s.world.loop.stopped = false
  teardown : .teardown ∉ s.loop
  ended : s.ended = false
  owned : s.world.loopOwned

/-- Where tasks wait, a batch is posted or runs. -/
structure State.Armed (s : State Native Script) : Prop where
  posted : s.world.loop.armed → 0 < s.world.loop.posted
  armed : s.world.loop.pending ≠ [] → s.world.loop.armed ∨ .batch ∈ s.loop
  bottom : ∀ rest, .batch :: rest <:+ s.loop → rest = []

/-- A step by which no stop is asked for. -/
def Onward (s s' : State Native Script) : Prop := Step s s' ∧ .entered .stop ∉ s'.script

lemma stop_of_joins {j : Request} {r : Except Error Reply} (h : joins j r) : j = .stop := by
  cases j <;> first | rfl | cases h

/-- The frames of the scripting thread go on to ask for no stop. -/
lemma ScriptStep.unstopped (h : ScriptStep s s') (hne : .entered .stop ∉ s'.script)
    (hs : ∀ f ∈ s.script, f ≠ .joining ∧ f.request? ≠ some .stop) :
    ∀ f ∈ s'.script, f ≠ .joining ∧ f.request? ≠ some .stop := by
  have pop {f : ScriptFrame} {rest : List ScriptFrame} (h : s.script = f :: rest) :
      f.request? ≠ some .stop ∧ ∀ f ∈ rest, f ≠ .joining ∧ f.request? ≠ some .stop := by
    rw [h, List.forall_mem_cons] at hs
    exact ⟨hs.1.2, hs.2⟩
  cases h with
  | work | drop => exact hs
  | enter _ j =>
    refine List.forall_mem_cons.2 ⟨⟨nofun, fun hj => ?_⟩, hs⟩
    cases hj
    exact hne List.mem_cons_self
  | send h | miss h | drained h | reply h | refusal h =>
    exact List.forall_mem_cons.2 ⟨⟨nofun, (pop h).1⟩, (pop h).2⟩
  | leave h =>
    obtain ⟨hj, hrest⟩ := pop h
    dsimp only
    split
    next hjoins => exact (hj (congrArg some (stop_of_joins hjoins))).elim
    next => exact hrest
  | poll | take => exact List.forall_mem_cons.2 ⟨⟨nofun, nofun⟩, hs⟩
  | wake =>
    dsimp only
    split
    · exact List.forall_mem_cons.2 ⟨⟨nofun, nofun⟩, hs⟩
    · exact hs
  | polled h | answer h | join h => exact (pop h).2

lemma State.Unstopped.script_step (h : s.Unstopped) (hs : ScriptStep s s') (hne : .entered .stop ∉ s'.script) :
    s'.Unstopped := by
  have hended : s'.ended = false := by cases hs <;> exact h.ended
  have hloop := hs.loop
  refine ⟨hs.unstopped hne h.script, fun id hid => ?_, hloop ▸ h.running, ?_, hloop ▸ h.teardown, hended,
    (hs.kept h.ended).1.trans h.owned⟩
  · rcases hs.queue with hq | ⟨task, hq, htask⟩
    · exact h.queued id (hq.pending ▸ hid)
    · rw [hq.pending, List.mem_append, List.mem_singleton] at hid
      rcases hid with hid | hid
      · exact h.queued id hid
      · obtain ⟨rest, hscript⟩ := htask id .stop hid.symm
        exact (h.script (.entered .stop) (hscript ▸ List.mem_cons_self)).2 rfl
  · rcases hs.queue with hq | ⟨task, hq, -⟩
    · exact hq.stopped.trans h.stopped
    · exact hq.stopped.trans h.stopped

lemma State.Unstopped.loop_step (h : s.Unstopped) (hs : LoopStep s s') : s'.Unstopped := by
  have hstop (id : PromiseId) : .task (.request id .stop) ∉ s'.loop ∧ .teardown ∉ s'.loop := by
    rcases hs.stack with hstack | ⟨f, rest, hstack, hrest, hf⟩ | hstack | ⟨task, hstack, htask⟩ | ⟨-, hstopped⟩
    · exact ⟨fun hid => h.running id (hstack.subset hid), fun hid => h.teardown (hstack.subset hid)⟩
    · rw [hstack, List.mem_cons, List.mem_cons, not_or, not_or]
      refine ⟨⟨?_, fun hid => h.running id (hrest.subset hid)⟩, ?_, fun hid => h.teardown (hrest.subset hid)⟩
      · rintro rfl
        cases hf
      · rintro rfl
        cases hf
    · rw [hstack]
      exact ⟨by simp, by simp⟩
    · rw [hstack, List.mem_cons, List.mem_cons, not_or, not_or]
      refine ⟨⟨?_, h.running id⟩, nofun, h.teardown⟩
      rintro ⟨⟩
      exact h.queued id htask
    · cases h.stopped.symm.trans hstopped
  have hended : s'.ended = false := by
    cases hs with
    | ended hs => exact (h.teardown (hs ▸ List.mem_cons_self)).elim
    | fire hf => cases hf; exact h.ended
    | queue hq => cases hq; exact h.ended
    | _ => exact h.ended
  refine ⟨hs.script ▸ h.script, fun id hid => h.queued id ?_, fun id => (hstop id).1, ?_, (hstop 0).2, hended,
    hs.kept.1.trans h.owned⟩
  · cases hs.turn with
    | other hq => exact hq.pending ▸ hid
    | begin hq => rw [hq] at hid; exact hid
    | serve task hp => exact hp ▸ List.mem_cons_of_mem _ hid
    | stop k hk => exact (h.running k hk).elim
  · cases hs.turn with
    | other hq => exact hq.stopped.trans h.stopped
    | begin hq => rw [hq]; exact h.stopped
    | serve task _ _ _ hstopped => exact hstopped.trans h.stopped
    | stop k hk => exact (h.running k hk).elim

lemma State.Armed.step (ha : s.Armed) (hu : s.Unstopped) (h : Step s s') : s'.Armed := by
  rcases h with h | h
  · rcases h.queue with hq | ⟨task, hq, -⟩
    · refine ⟨?_, ?_, h.loop ▸ ha.bottom⟩
      · rw [hq.armed, hq.posted]
        exact ha.posted
      · rw [hq.pending, hq.armed, h.loop]
        exact ha.armed
    · exact ⟨fun _ => hq.posted ha.posted, fun _ => .inl hq.armed, h.loop ▸ ha.bottom⟩
  · have hbottom (rest : List LoopFrame) (hrest : .batch :: rest <:+ s'.loop) : rest = [] := by
      rcases h.stack with hs | ⟨f, rest', hs, hrest', hf⟩ | hs | ⟨task, hs, -⟩ | ⟨hs, -⟩
      · exact ha.bottom rest (hrest.trans hs)
      · rw [hs, List.suffix_cons_iff] at hrest
        rcases hrest with hrest | hrest
        · cases hrest
          cases hf
        · exact ha.bottom rest (hrest.trans hrest')
      · rw [hs, List.suffix_cons_iff] at hrest
        rcases hrest with hrest | hrest
        · exact (List.cons.inj hrest).2
        · cases List.suffix_nil.1 hrest
      · rw [hs, List.suffix_cons_iff] at hrest
        rcases hrest with hrest | hrest
        · cases hrest
        · exact ha.bottom rest hrest
      · rw [hs, List.suffix_cons_iff] at hrest
        rcases hrest with hrest | hrest
        · cases hrest
        · cases List.suffix_nil.1 hrest
    cases h.turn with
    | other hq hb =>
      refine ⟨?_, fun hne => ?_, hbottom⟩
      · rw [hq.armed, hq.posted]
        exact ha.posted
      · rw [hq.pending] at hne
        rw [hq.armed]
        exact (ha.armed hne).imp_right fun hbatch => (hb hbatch).resolve_right hne
    | begin hq hb =>
      refine ⟨fun harmed => ?_, fun _ => .inr hb, hbottom⟩
      rw [hq] at harmed
      cases harmed
    | serve task hp harmed hposted _ hb =>
      refine ⟨?_, fun _ => ?_, hbottom⟩
      · rw [harmed, hposted]
        exact ha.posted
      · rw [harmed]
        exact (ha.armed (hp ▸ List.cons_ne_nil _ _)).imp_right hb
    | stop k hk => exact (hu.running k hk).elim

end NativeBridge.Threads
