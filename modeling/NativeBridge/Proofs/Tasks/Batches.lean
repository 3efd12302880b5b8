import Mathlib.Data.List.Count
import NativeBridge.Proofs.Tasks.Machine

/-!
Batches that run tasks. However the threads interleave, no two batches are outstanding, and where tasks wait a batch
is outstanding, or runs, or is about to be asked for.
-/

namespace NativeBridge.Tasks

variable {τ : Type} {s s' s₀ : State τ} {m m' : Shared τ} {T T' : Thread τ}

/-- A batch runs on the thread, or the thread is about to look whether one is posted. -/
def Thread.Attends (T : Thread τ) : Prop := T.InBatch ∨ T.phase = .pushed

namespace State

/-- Batches that are posted, or are about to be. -/
def outstanding (s : State τ) : Nat := s.queue.posted + s.threads.countP Thread.posts

/-- One batch is outstanding as long as the flag says so, and none otherwise. Where tasks wait, the flag is set or some
thread attends to them. -/
structure SingleFlight (s : State τ) : Prop where
  one : s.outstanding = if s.queue.armed then 1 else 0
  covered : s.queue.pending ≠ [] → s.queue.armed ∨ ∃ T ∈ s.threads, T.Attends

end State

/-! ### One step -/

/-- What a step does to the batches that are outstanding, it does to the flag. -/
lemma Act.outstanding (h : Act m T m' T') (hp : 0 < m.queue.posted → m.queue.armed) :
    m'.queue.posted + T'.posts.toNat + (if m.queue.armed then 1 else 0) =
      m.queue.posted + T.posts.toNat + (if m'.queue.armed then 1 else 0) := by
  cases h with
  | mark h | remark h => simp [LoopQueue.mark, Thread.posts, h]
  | post => rfl
  | begin h =>
    have harmed := hp h
    simp only [LoopQueue.beginBatch, Thread.posts, harmed, if_true]
    simp
    omega
  | take h =>
    obtain ⟨rest, -, rfl⟩ := LoopQueue.eq_of_pop h
    rfl
  | _ => rfl

/-- Tasks that wait after a step are attended to, or they were not attended to by this thread before it. -/
lemma Act.covered (h : Act m T m' T') (hp : m'.queue.pending ≠ []) :
    m'.queue.armed ∨ T'.Attends ∨ (m.queue.pending ≠ [] ∧ m.queue.armed = false ∧ ¬T.Attends) := by
  -- an access that leaves the flag alone, on a thread that is at what it was at
  have same (hpending : m.queue.pending ≠ []) (harmed : m'.queue.armed = m.queue.armed)
      (hT : T.Attends → T'.Attends) :
      m'.queue.armed ∨ T'.Attends ∨ (m.queue.pending ≠ [] ∧ m.queue.armed = false ∧ ¬T.Attends) := by
    rcases ha : m.queue.armed with _ | _
    · by_cases hat : T.Attends
      · exact .inr (.inl (hT hat))
      · exact .inr (.inr ⟨hpending, rfl, hat⟩)
    · exact .inl (harmed.trans ha)
  cases h with
  | push => exact .inr (.inl (.inr rfl))
  | found h | refound h => exact .inl h
  | mark | remark => exact .inl rfl
  | begin => exact .inr (.inl (.inl (.inl rfl)))
  | take h =>
    obtain ⟨rest, hcons, rfl⟩ := LoopQueue.eq_of_pop h
    exact same (hcons ▸ List.cons_ne_nil _ _) rfl (by simp [Thread.Attends, Thread.InBatch, eq_comm])
  | done => exact same hp rfl (by simp [Thread.Attends, Thread.InBatch, eq_comm])
  | served h | empty h => exact (hp (LoopQueue.pending_of_pop_none h)).elim
  | rest h => exact (hp h).elim
  | refill => exact .inr (.inl (.inl (.inr (.inr (.inl rfl)))))
  | sweep => exact (hp rfl).elim
  | _ => exact same hp rfl (by simp [Thread.Attends, Thread.InBatch])

namespace State.SingleFlight

lemma armed_of_posted (h : s.SingleFlight) (hp : 0 < s.queue.posted) : s.queue.armed := by
  have hone := h.one
  rw [outstanding] at hone
  split at hone
  · assumption
  · omega

lemma step (h : s.SingleFlight) (hs : Step s s') : s'.SingleFlight := by
  have hposted := h.armed_of_posted
  have hone := h.one
  have hcovered := h.covered
  cases hs with
  | @act m m' T T' before after hact =>
    refine ⟨?_, fun hp => ?_⟩
    · have hflag := hact.outstanding hposted
      simp only [outstanding, List.countP_append, List.countP_cons] at hone ⊢
      cases hT : T.posts <;> cases hT' : T'.posts <;> simp [hT, hT'] at hflag hone ⊢ <;> omega
    · rcases hact.covered hp with harmed | hat | ⟨hpending, hnot, hat⟩
      · exact .inl harmed
      · exact .inr ⟨T', by simp, hat⟩
      · -- some other thread attends to the tasks, and goes on to do so
        rcases hcovered hpending with harmed | ⟨U, hU, hUat⟩
        · rw [hnot] at harmed
          cases harmed
        · refine .inr ⟨U, ?_, hUat⟩
          simp only [List.mem_append, List.mem_cons] at hU ⊢
          rcases hU with hU | rfl | hU
          · exact .inl hU
          · exact (hat hUat).elim
          · exact .inr (.inr hU)

lemma run (h : s.SingleFlight) (hr : Run s s') : s'.SingleFlight := hr.invariant step h

end State.SingleFlight

lemma State.Opening.singleFlight (h : s.Opening) : s.SingleFlight := by
  have hposts : s.threads.countP Thread.posts = 0 := by
    rw [List.countP_eq_zero]
    intro T hT
    rw [h.threads T hT]
    exact Bool.false_ne_true
  exact ⟨by simp [outstanding, hposts, h.queue], fun hp => (hp (by rw [h.queue])).elim⟩

/-! ### At any time -/

/-- **One batch, or none.** The flag says how many batches are posted and not begun, together with the threads that have
set the flag and not posted yet: one or none. Where tasks wait, the flag is set, or a batch is in progress, or a thread
has queued a task and is about to look at the flag. So as long as nobody is at work with the queue, tasks that wait
have one batch posted for them. -/
theorem one_batch_for_waiting_tasks (h₀ : s₀.Opening) (hr : Run s₀ s) :
    (s.queue.posted + s.threads.countP Thread.posts = if s.queue.armed then 1 else 0) ∧
      (s.queue.pending ≠ [] →
        s.queue.armed ∨ (∃ T ∈ s.threads, T.InBatch) ∨ ∃ T ∈ s.threads, T.phase = .pushed) ∧
      (s.queue.pending ≠ [] → (∀ T ∈ s.threads, ¬T.InBatch ∧ T.phase ≠ .pushed ∧ T.phase ≠ .marked) →
        s.queue.posted = 1) := by
  have h := h₀.singleFlight.run hr
  have hcovered (hp : s.queue.pending ≠ []) :
      s.queue.armed ∨ (∃ T ∈ s.threads, T.InBatch) ∨ ∃ T ∈ s.threads, T.phase = .pushed := by
    rcases h.covered hp with harmed | ⟨T, hT, hbatch | hpushed⟩
    · exact .inl harmed
    · exact .inr (.inl ⟨T, hT, hbatch⟩)
    · exact .inr (.inr ⟨T, hT, hpushed⟩)
  refine ⟨h.one, hcovered, fun hp hidle => ?_⟩
  have hposts : s.threads.countP Thread.posts = 0 := by
    rw [List.countP_eq_zero]
    intro T hT hposts
    refine (hidle T hT).2.2 ?_
    obtain ⟨phase, outer⟩ := T
    cases phase <;> first | rfl | cases hposts
  have hone := h.one
  rw [State.outstanding, hposts] at hone
  rcases hcovered hp with harmed | ⟨T, hT, hbatch⟩ | ⟨T, hT, hpushed⟩
  · rw [if_pos harmed] at hone
    exact hone
  · exact ((hidle T hT).1 hbatch).elim
  · exact ((hidle T hT).2.1 hpushed).elim

/-- Two threads send a task each, and one batch is posted for both tasks. -/
theorem one_batch_for_two_tasks :
    ∃ s, Run twoIdle s ∧ s.queue.pending = [7, 8] ∧
      (s.queue.posted + s.threads.countP Thread.posts = if s.queue.armed then 1 else 0) ∧ s.queue.posted = 1 := by
  have hr : Run twoIdle ⟨⟨{ pending := [7, 8], armed := true, posted := 1, scheduled := 2, wakeups := 1 }, 2, [7, 8],
      [], []⟩, [⟨.free, []⟩, ⟨.free, []⟩]⟩ :=
    .head (.act [] _ (.pass 7 rfl)) <| .head (.act [] _ .push) <| .head (.act [] _ (.mark rfl)) <|
    .head (.act [_] _ (.pass 8 rfl)) <| .head (.act [_] _ .push) <| .head (.act [] _ .post) <|
    .single (.act [_] _ (.found rfl))
  obtain ⟨hone, -, hposted⟩ := one_batch_for_waiting_tasks twoIdle_opening hr
  refine ⟨_, hr, rfl, hone, hposted (List.cons_ne_nil _ _) fun T hT => ?_⟩
  have hfree : T = ⟨.free, []⟩ := by simpa using hT
  rw [hfree]
  exact ⟨by simp [Thread.InBatch], nofun, nofun⟩

end NativeBridge.Tasks
