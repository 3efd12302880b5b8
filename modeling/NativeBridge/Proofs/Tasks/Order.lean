import NativeBridge.Proofs.Tasks.Operations

/-!
Tasks of one thread. The thread may send tasks, run those that wait and stop the queue, and within a task it may do all
of this again. Still tasks start in the order in which they were accepted, and the counters agree with what has
happened.
-/

namespace NativeBridge.Tasks

variable {τ : Type} {s s' s₀ : State τ} {m m' : Shared τ} {T T' : Thread τ}

/-- What holds while one thread has the queue for itself. -/
structure Alone (m : Shared τ) (T : Thread τ) : Prop where
  order : m.accepted = m.started ++ m.dropped ++ m.queue.pending
  /-- nothing comes in after a stop that dropped tasks -/
  shut : m.dropped ≠ [] → m.queue.stopped ∧ m.queue.pending = [] ∧ T.admits = false
  closing : T.phase = .closing → m.queue.stopped
  calls : m.calls = m.queue.dispatched + m.queue.discarded + m.queue.pending.length + T.admits.toNat
  scheduled : m.queue.scheduled = m.queue.dispatched + m.queue.pending.length + m.dropped.length

/-! ### One step -/

lemma Act.alone (h : Act m T m' T') (hm : Alone m T) : Alone m' T' := by
  obtain ⟨horder, hshut, hclosing, hcalls, hscheduled⟩ := hm
  cases h with
  | refuse =>
    refine ⟨horder, hshut, (fun hp => by cases hp), ?_, hscheduled⟩
    simp only [Thread.admits, Bool.toNat_false] at hcalls
    simp only [LoopQueue.refuse, Thread.admits, Bool.toNat_false]
    omega
  | pass t hopen =>
    refine ⟨horder, fun hd => ?_, (fun hp => by cases hp), congrArg (· + 1) hcalls, hscheduled⟩
    rw [hopen] at hshut
    cases (hshut hd).1
  | @push _ t =>
    -- the queue was found open, so no stop has dropped anything
    have hnone : m.dropped = [] := by
      by_contra hd
      cases (hshut hd).2.2
    simp only [hnone, List.append_nil, List.length_nil] at horder hscheduled
    refine ⟨by simp [LoopQueue.push, horder, hnone], fun hd => (hd hnone).elim, (fun hp => by cases hp), ?_, ?_⟩
    · simp only [Thread.admits, Bool.toNat_true] at hcalls
      simp only [LoopQueue.push, Thread.admits, List.length_append, List.length_singleton, Bool.toNat_false]
      omega
    · simp only [LoopQueue.push, hnone, List.length_append, List.length_singleton, List.length_nil]
      omega
  | @take _ d t _ hpop =>
    obtain ⟨rest, hp, rfl⟩ := LoopQueue.eq_of_pop hpop
    have hnone : m.dropped = [] := by
      by_contra hd
      rw [(hshut hd).2.1] at hp
      cases hp
    simp only [hp, hnone, List.append_nil, List.length_cons, List.length_nil] at horder hcalls hscheduled
    refine ⟨by simp [horder, hnone], fun hd => (hd hnone).elim, (fun hp => by cases hp), ?_, ?_⟩
    · simp only [Thread.admits] at hcalls ⊢
      omega
    · simp only [hnone, List.length_nil]
      omega
  | close => exact ⟨horder, fun hd => ⟨rfl, (hshut hd).2⟩, fun _ => rfl, hcalls, hscheduled⟩
  | sweep =>
    refine ⟨by simp [LoopQueue.sweep, horder], fun _ => ⟨hclosing rfl, rfl, rfl⟩, (fun hp => by cases hp), ?_, ?_⟩
    · simp only [Thread.admits] at hcalls
      simp only [LoopQueue.sweep, Thread.admits, List.length_nil]
      omega
    · simp only [LoopQueue.sweep, List.length_nil, List.length_append]
      omega
  | _ => exact ⟨horder, hshut, (fun hp => by cases hp), hcalls, hscheduled⟩

/-- The only thread takes every step. -/
lemma Step.of_alone (hs : Step s s') (hT : s.threads = [T]) :
    ∃ T', s'.threads = [T'] ∧ Act s.toShared T s'.toShared T' := by
  cases hs with
  | @act m m' U U' before after hact =>
    simp only [List.append_eq_singleton_iff, List.cons.injEq, reduceCtorEq, and_false, or_false] at hT
    obtain ⟨rfl, rfl, rfl⟩ := hT
    exact ⟨U', rfl, hact⟩

lemma Run.alone (hr : Run s s') (hT : s.threads = [T]) (hs : Alone s.toShared T) :
    ∃ T', s'.threads = [T'] ∧ Alone s'.toShared T' := by
  induction hr with
  | refl => exact ⟨T, hT, hs⟩
  | tail _ hstep ih =>
    obtain ⟨U, hU, halone⟩ := ih
    obtain ⟨U', hU', hact⟩ := hstep.of_alone hU
    exact ⟨U', hU', hact.alone halone⟩

lemma State.Opening.alone (h : s.Opening) : Alone s.toShared ⟨.free, []⟩ := by
  refine ⟨?_, fun hd => (hd h.dropped).elim, nofun, ?_, ?_⟩
  · simp [h.accepted, h.started, h.dropped, h.queue]
  · simp [h.calls, h.queue, Thread.admits]
  · simp [h.queue, h.dropped]

/-! ### Errors of tasks -/

/-- A task of a drain ends by an exception. -/
inductive TaskThrows : State τ → State τ → Prop where
  | mk (m : Shared τ) (before after : List (Thread τ)) (d : Drain) (outer : List Drain) :
      TaskThrows ⟨m, before ++ ⟨.free, d :: outer⟩ :: after⟩ ⟨m, before ++ ⟨.draining d, outer⟩ :: after⟩

lemma TaskThrows.step (h : TaskThrows s s') : Step s s' := by
  cases h with
  | mk m before after d outer => exact .act before after (.done true)

/-- After a task has thrown, the next step of the thread starts the task that comes first. -/
lemma TaskThrows.next (h : TaskThrows s s') (hT : s.threads = [T]) {t : τ} {rest : List τ}
    (hp : s.queue.pending = t :: rest) :
    (∃ s'', Step s' s'') ∧ ∀ s'', Step s' s'' → s''.started = s.started ++ [t] ∧ s''.queue.pending = rest := by
  cases h with
  | mk m before after d outer =>
    simp only [List.append_eq_singleton_iff, List.cons.injEq, reduceCtorEq, and_false, or_false] at hT
    obtain ⟨rfl, -, rfl⟩ := hT
    refine ⟨⟨_, .act [] [] (.take (LoopQueue.pop_of_cons hp))⟩, fun s'' hs => ?_⟩
    obtain ⟨T', -, hact⟩ := hs.of_alone rfl
    generalize hm' : s''.toShared = m' at hact ⊢
    cases hact with
    | take hpop =>
      rw [LoopQueue.pop_of_cons hp] at hpop
      cases hpop
      simp
    | served hpop | empty hpop =>
      rw [LoopQueue.pop_of_cons hp] at hpop
      cases hpop

/-! ### At any time -/

variable {S : Sides}

/-- **Tasks of one thread start in order.** The tasks that were accepted are those that have been started, then those that
a stop dropped, then those that wait: each is started once at most, and none before one that was accepted earlier.
Between two operations, also within tasks, every task that was sent is dispatched, discarded or waits, and every task
that was scheduled is dispatched, was dropped or waits. A task that throws keeps nothing back: the next step starts the
task that comes first, and a drain ends in no error and leaves no task. -/
theorem tasks_start_in_order {s₀ s : State (Task S.Job)} (h₀ : s₀.Opening) (hone : s₀.threads = [⟨.free, []⟩])
    (hr : Run s₀ s) :
    (∃ T, s.threads = [T]) ∧ s.accepted = s.started ++ s.dropped ++ s.queue.pending ∧
      (∀ outer, s.threads = [⟨.free, outer⟩] →
        s.calls = s.queue.dispatched + s.queue.discarded + s.queue.pending.length ∧
          s.queue.scheduled = s.queue.dispatched + s.queue.pending.length + s.dropped.length) ∧
      (∀ s₁ t rest, TaskThrows s s₁ → s.queue.pending = t :: rest →
        (∃ s₂, Step s₁ s₂) ∧ ∀ s₂, Step s₁ s₂ → s₂.started = s.started ++ [t] ∧ s₂.queue.pending = rest) ∧
      ∀ (h : Host S) (fuel : Nat) (w : World S) (r : Except Error Nat) (w' : World S),
        LoopDispatch.drain h fuel w = some (r, w') → (∃ n, r = .ok n) ∧ w'.loop.pending = [] := by
  obtain ⟨T, hT, halone⟩ := hr.alone hone h₀.alone
  refine ⟨⟨T, hT⟩, halone.order, fun outer hfree => ⟨?_, halone.scheduled⟩, fun s₁ t rest hthrow hp => hthrow.next hT hp,
    fun h fuel w r w' hx => LoopDispatch.drain_ok hx⟩
  obtain rfl : T = ⟨.free, outer⟩ := by simpa [hT] using hfree
  exact halone.calls

/-- A new queue and one thread. -/
def oneIdle : State (Task Nat) where
  queue := {}
  calls := 0
  accepted := []
  started := []
  dropped := []
  threads := [⟨.free, []⟩]

lemma oneIdle_opening : oneIdle.Opening := ⟨rfl, rfl, rfl, rfl, rfl, by simp [oneIdle]⟩

/-- The second of three tasks runs within the first one. -/
def within : State (Task Nat) where
  queue := { pending := [.job 9], armed := true, posted := 1, scheduled := 3, dispatched := 2, wakeups := 2 }
  calls := 3
  accepted := [.job 7, .job 8, .job 9]
  started := [.job 7, .job 8]
  dropped := []
  threads := [⟨.free, [.aside, .batch]⟩]

/-- A task that sends another one and then runs what waits: the task that comes first throws, and the other one is
started nonetheless. -/
theorem tasks_start_in_order_within_task :
    ∃ s₁, Run oneIdle s₁ ∧ TaskThrows within s₁ ∧
      within.accepted = within.started ++ within.dropped ++ within.queue.pending ∧
      within.calls = within.queue.dispatched + within.queue.discarded + within.queue.pending.length ∧
      (∃ s₂, Step s₁ s₂) ∧ ∀ s₂, Step s₁ s₂ → s₂.started = [.job 7, .job 8, .job 9] := by
  have hr : ∃ s, Run oneIdle s ∧ s = within := by
    refine Exchange.reached_of_step (.act [] [] (.pass (.job 7) rfl)) ?_
    refine Exchange.reached_of_step (.act [] [] .push) ?_
    refine Exchange.reached_of_step (.act [] [] (.mark rfl)) ?_
    refine Exchange.reached_of_step (.act [] [] .post) ?_
    refine Exchange.reached_of_step (.act [] [] (.pass (.job 8) rfl)) ?_
    refine Exchange.reached_of_step (.act [] [] .push) ?_
    refine Exchange.reached_of_step (.act [] [] (.found rfl)) ?_
    refine Exchange.reached_of_step (.act [] [] (.begin Nat.one_pos)) ?_
    refine Exchange.reached_of_step (.act [] [] (.take rfl)) ?_
    refine Exchange.reached_of_step (.act [] [] (.pass (.job 9) rfl)) ?_
    refine Exchange.reached_of_step (.act [] [] .push) ?_
    refine Exchange.reached_of_step (.act [] [] (.mark rfl)) ?_
    refine Exchange.reached_of_step (.act [] [] .post) ?_
    refine Exchange.reached_of_step (.act [] [] .serve) ?_
    exact ⟨_, .single (.act [] [] (.take rfl)), rfl⟩
  obtain ⟨_, hr, rfl⟩ := hr
  obtain ⟨-, horder, hcounts, hthrows, -⟩ := tasks_start_in_order (S := Exchange.plain) oneIdle_opening rfl hr
  have hthrow : TaskThrows within _ := .mk within.toShared [] [] .aside [.batch]
  obtain ⟨hnext, hstarted⟩ := hthrows _ (.job 9) [] hthrow rfl
  exact ⟨_, hr.tail hthrow.step, hthrow, horder, (hcounts _ rfl).1, hnext, fun s₂ hs => (hstarted s₂ hs).1⟩

end NativeBridge.Tasks
