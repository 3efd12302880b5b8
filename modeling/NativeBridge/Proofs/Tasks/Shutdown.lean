import NativeBridge.Proofs.Tasks.Machine

/-!
Stopping the queue. A stop refuses tasks first and drops those that wait then, and a thread that sends a task looks
first whether the queue is open and puts the task into it then. The last task may come in when the stop is over.
-/

namespace NativeBridge.Tasks

variable {τ : Type} {s s' s₀ s₁ : State τ} {m m' : Shared τ} {T T' : Thread τ}

/-- A stop returns: it has dropped the tasks that wait. -/
inductive StopReturns : State τ → State τ → Prop where
  | mk (m : Shared τ) (before after : List (Thread τ)) (outer : List Drain) :
      StopReturns ⟨m, before ++ ⟨.closing, outer⟩ :: after⟩
        ⟨{ m with queue := m.queue.sweep, dropped := m.dropped ++ m.queue.pending },
          before ++ ⟨.free, outer⟩ :: after⟩

lemma StopReturns.step (h : StopReturns s s') : Step s s' := by
  cases h with
  | mk m before after outer => exact .act before after .sweep

/-! ### A stopped queue -/

lemma Act.stopped (h : Act m T m' T') (hs : m.queue.stopped) : m'.queue.stopped := by
  cases h with
  | close => rfl
  | take h =>
    obtain ⟨rest, -, rfl⟩ := LoopQueue.eq_of_pop h
    exact hs
  | _ => exact hs

/-- A thread that is to drop what waits has stopped the queue before. -/
def State.Closed (s : State τ) : Prop := ∀ T ∈ s.threads, T.phase = .closing → s.queue.stopped

lemma State.Closed.step (h : s.Closed) (hs : Step s s') : s'.Closed := by
  cases hs with
  | @act m m' T T' before after hact =>
    intro U hU hphase
    -- the thread that took the step, or one that stays where it is
    have hcases : U = T' ∨ U ∈ before ++ T :: after := by
      simp only [List.mem_append, List.mem_cons] at hU ⊢
      tauto
    rcases hcases with rfl | hU
    · cases hact with
      | close => rfl
      | _ => cases hphase
    · exact hact.stopped (h U hU hphase)

lemma State.Opening.closed (h : s.Opening) : s.Closed := fun T hT hphase => by
  rw [h.threads T hT] at hphase
  cases hphase

lemma State.Closed.run (h : s.Closed) (hr : Run s s') : s'.Closed := hr.invariant State.Closed.step h

/-! ### Nothing comes in -/

/-- Tasks are refused, none waits, and no thread has found the queue open. -/
structure State.Final (s : State τ) : Prop where
  stopped : s.queue.stopped
  empty : s.queue.pending = []
  none : ∀ T ∈ s.threads, T.admits = false

lemma Act.final (h : Act m T m' T') (hstop : m.queue.stopped) (hp : m.queue.pending = []) (hT : T.admits = false) :
    m'.queue.pending = [] ∧ T'.admits = false ∧ m'.accepted = m.accepted ∧ m'.started = m.started := by
  cases h with
  | pass t hopen => rw [hstop] at hopen; cases hopen
  | push => cases hT
  | take h =>
    rw [LoopQueue.pop_of_nil hp] at h
    cases h
  | sweep => exact ⟨rfl, rfl, rfl, rfl⟩
  | _ => exact ⟨hp, rfl, rfl, rfl⟩

lemma State.Final.step (h : s.Final) (hs : Step s s') :
    s'.Final ∧ s'.accepted = s.accepted ∧ s'.started = s.started := by
  cases hs with
  | @act m m' T T' before after hact =>
    obtain ⟨hempty, hnone, haccepted, hstarted⟩ := hact.final h.stopped h.empty (h.none T (by simp))
    refine ⟨⟨hact.stopped h.stopped, hempty, fun U hU => ?_⟩, haccepted, hstarted⟩
    have hothers := h.none
    simp only [List.mem_append, List.mem_cons] at hU hothers
    rcases hU with hU | rfl | hU
    · exact hothers U (.inl hU)
    · exact hnone
    · exact hothers U (.inr (.inr hU))

lemma State.Final.run (h : s.Final) (hr : Run s s') :
    s'.Final ∧ s'.accepted = s.accepted ∧ s'.started = s.started := by
  induction hr with
  | refl => exact ⟨h, rfl, rfl⟩
  | tail _ hs ih =>
    obtain ⟨hfinal, haccepted, hstarted⟩ := ih.1.step hs
    exact ⟨hfinal, haccepted.trans ih.2.1, hstarted.trans ih.2.2⟩

/-- A thread that has found the queue open may put its task into it whenever it likes. -/
lemma exists_push {t : τ} {outer : List Drain} (h : ⟨.admitted t, outer⟩ ∈ s.threads) :
    ∃ s', Step s s' ∧ s'.queue.pending = s.queue.pending ++ [t] := by
  obtain ⟨m, threads⟩ := s
  obtain ⟨before, after, rfl⟩ := List.append_of_mem h
  exact ⟨_, .act before after .push, rfl⟩

/-! ### When a stop is final -/

/-- **When a stop is final.** Once a stop has returned, no task is started any more and none waits, and so every task
that was accepted has been started before or dropped, if and only if no thread had found the queue open and not yet
put its task into it when the stop returned. -/
theorem stop_is_final_iff (h₀ : s₀.Opening) (hr : Run s₀ s₁) (hs : StopReturns s₁ s) :
    (∀ s', Run s s' → s'.started = s.started ∧ s'.queue.pending = [] ∧
      s'.accepted.Perm (s.started ++ s'.dropped)) ↔ ∀ T ∈ s.threads, T.admits = false := by
  have hrun : Run s₀ s := hr.tail hs.step
  constructor
  · intro h T hT
    rw [← Bool.not_eq_true]
    intro hadmits
    obtain ⟨phase, outer⟩ := T
    cases phase with
    | admitted t =>
      -- the task comes in after all
      obtain ⟨s', hpush, hpending⟩ := exists_push hT
      rw [(h s' (.single hpush)).2.1] at hpending
      exact (List.append_ne_nil_of_right_ne_nil _ (List.cons_ne_nil t []) hpending.symm).elim
    | _ => cases hadmits
  · intro hnone s' hr'
    have hstop : s.queue.stopped := by
      have hclosed := h₀.closed.run hr
      cases hs with
      | mk m before after outer => exact hclosed ⟨.closing, outer⟩ (by simp) rfl
    have hempty : s.queue.pending = [] := by
      cases hs
      rfl
    obtain ⟨hfinal, -, hstarted⟩ := State.Final.run ⟨hstop, hempty, hnone⟩ hr'
    have hkept : s'.Kept := Run.kept (hrun.trans hr') h₀.kept
    rw [Shared.Kept, hfinal.empty, List.append_nil, hstarted] at hkept
    exact ⟨hstarted, hfinal.empty, hkept⟩

/-- A stopped queue in which a task waits. -/
def leftover : Shared Nat where
  queue := { pending := [7], armed := true, posted := 1, stopped := true, scheduled := 1, wakeups := 1 }
  calls := 1
  accepted := [7]
  started := []
  dropped := []

/-- The queue is stopped while nobody sends a task: the task that waits is dropped, and that is all. -/
theorem stop_is_final_for_idle_sender :
    ∃ s₁ s, Run twoIdle s₁ ∧ StopReturns s₁ s ∧ s₁.queue.pending = [7] ∧ s.dropped = [7] ∧
      ∀ s', Run s s' → s'.started = s.started ∧ s'.queue.pending = [] ∧ s'.accepted.Perm (s.started ++ s'.dropped) := by
  have hr : Run twoIdle ⟨leftover, [⟨.free, []⟩] ++ ⟨.closing, []⟩ :: []⟩ :=
    .head (.act [] _ (.pass 7 rfl)) <| .head (.act [] _ .push) <| .head (.act [] _ (.mark rfl)) <|
    .head (.act [] _ .post) <| .single (.act [_] _ .close)
  have hs := StopReturns.mk leftover [⟨.free, []⟩] [] []
  exact ⟨_, _, hr, hs, rfl, rfl, (stop_is_final_iff twoIdle_opening hr hs).2 (by decide)⟩

/-- A task that comes in after the stop: the thread that sent it and the thread that stopped the queue are done, the
task waits, and a drain starts it. -/
theorem task_started_after_stop :
    ∃ s₁ s s₂ s₃, Run twoIdle s₁ ∧ StopReturns s₁ s ∧ s.started = [] ∧
      Run s s₂ ∧ s₂.threads = [⟨.free, []⟩, ⟨.free, []⟩] ∧ s₂.queue.pending = [7] ∧
      Run s₂ s₃ ∧ s₃.started = [7] := by
  have hr : Run twoIdle ⟨⟨{ stopped := true }, 1, [], [], []⟩, [⟨.admitted 7, []⟩] ++ ⟨.closing, []⟩ :: []⟩ :=
    .head (.act [] _ (.pass 7 rfl)) <| .single (.act [_] _ .close)
  have hs := StopReturns.mk (τ := Nat) ⟨{ stopped := true }, 1, [], [], []⟩ [⟨.admitted 7, []⟩] [] []
  have hsent : Run (State.mk ⟨LoopQueue.sweep { stopped := true }, 1, [], [], []⟩
      ([⟨.admitted 7, []⟩] ++ ⟨.free, []⟩ :: [])) ⟨leftover, [⟨.free, []⟩, ⟨.free, []⟩]⟩ :=
    .head (.act [] _ .push) <| .head (.act [] _ (.mark rfl)) <| .single (.act [] _ .post)
  have hbegun : ∃ s₃, Run (State.mk leftover [⟨.free, []⟩, ⟨.free, []⟩]) s₃ ∧ s₃.started = [7] :=
    ⟨_, .head (.act [_] _ (.begin Nat.one_pos)) <| .single (.act [_] _ (.take rfl)), rfl⟩
  obtain ⟨s₃, hr₃, hstarted⟩ := hbegun
  exact ⟨_, _, _, s₃, hr, hs, rfl, hsent, rfl, rfl, hr₃, hstarted⟩

end NativeBridge.Tasks
