import NativeBridge.Proofs.Threads.Simulation

/-!
A stop that waits for the loop thread to end. The scripting thread runs no calls meanwhile, so the loop thread waits in
vain for every call that was not answered before.
-/

namespace NativeBridge.Threads

variable {c c' : Calls}

/-! ### Calls while the scripting thread does nothing -/

namespace Calls

lemma LoopStep.awaited (h : LoopStep c c') {id : PromiseId} (hid : id ∈ c.awaited) (hu : c.Unanswered id) :
    id ∈ c'.awaited := by
  cases h with
  | push => exact List.mem_cons_of_mem _ hid
  | announce hw =>
    rw [awaited_cons hw] at hid
    exact hid
  | @collect a notice waits hw ha =>
    rw [awaited_cons hw, List.mem_cons] at hid
    rcases hid with rfl | hid
    · exact absurd hu ha
    · exact hid

end Calls

/-! ### The join -/

variable {Native Script : Type} {s s₀ s₁ s₂ : State Native Script}

namespace State

/-- The scripting thread waits in a stop for the loop thread to end. -/
def Joining (s : State Native Script) : Prop := ∃ rest, s.script = .joining :: rest

/-- The scripting thread waits for the loop thread, and the loop thread for a call that is queued or that the stop was
called from. -/
def Deadlocked (s : State Native Script) : Prop :=
  s.Joining ∧ ∃ id, s.Awaits id ∧ (id ∈ s.calls.queued ∨ id ∈ s.calls.calling)

end State

/-- As long as the loop thread has not ended, the join goes on. -/
lemma ScriptStep.ended_of_joining (h : ScriptStep s₁ s₂) (hj : s₁.Joining) : s₁.ended := by
  obtain ⟨rest, hj⟩ := hj
  have hfree : ¬Free s₁.script := by
    rintro (hf | ⟨call, rest', hf⟩)
    · rw [hj] at hf; cases hf
    · rw [hj] at hf; cases hf
  cases h with
  | join _ he => exact he
  | @take _ f _ _ hs hf =>
    rw [hj] at hs
    cases hs
    cases hf
  | work hs | drop hs | enter hs | poll hs | wake hs => exact (hfree hs).elim
  | send hs | miss hs | reply hs | refusal hs | leave hs | drained hs | polled hs | answer hs =>
    rw [hj] at hs
    cases hs

/-- **A stop that meets an unanswered call never returns.** -/
theorem joining_of_unanswered (hs : s₁.Sound) (hj : s₁.Joining) {id : PromiseId} (hid : id ∈ s₁.calls.awaited)
    (hu : s₁.calls.Unanswered id) (h : Run s₁ s) :
    s.Joining ∧ s.ended = false ∧ id ∈ s.calls.awaited ∧ s.calls.Unanswered id := by
  have running {s : State Native Script} (hs : s.Sound) (hid : id ∈ s.calls.awaited) : s.ended = false := by
    refine Bool.eq_false_iff.2 fun he => ?_
    rw [Calls.awaited, State.calls, hs.ended he] at hid
    cases hid
  induction h with
  | refl => exact ⟨hj, running hs hid, hid, hu⟩
  | @tail s s' hr hstep ih =>
    obtain ⟨hj, he, hid, hu⟩ := ih
    have hsound := hs.run hr
    rcases hstep with hstep | hstep
    · rw [hstep.ended_of_joining hj] at he
      cases he
    · have hcalls : id ∈ s'.calls.awaited ∧ s'.calls.Unanswered id := by
        rcases hstep.calls with hc | hc
        · exact hc ▸ ⟨hid, hu⟩
        · exact ⟨hc.awaited hid hu, (hc.unanswered_iff hsound.calls id).2 (.inl hu)⟩
      exact ⟨hj.imp fun _ hrest => hstep.script.trans hrest, running (hsound.step (.inr hstep)) hcalls.1, hcalls⟩

/-- While the join lasts, the calls without an answer are those that had none when it began, and those made since. -/
lemma unanswered_since (hs : s₁.Sound) (h : Relation.ReflTransGen LoopStep s₁ s₂) :
    s₂.Sound ∧ s₂.script = s₁.script ∧ s₁.calls.made ≤ s₂.calls.made ∧
      ∀ id, s₂.calls.Unanswered id ↔ s₁.calls.Unanswered id ∨ s₁.calls.made ≤ id ∧ id < s₂.calls.made := by
  induction h with
  | refl => exact ⟨hs, rfl, le_rfl, fun id => (or_iff_left fun h => absurd h.1 (Nat.not_le.2 h.2)).symm⟩
  | @tail s s' _ hstep ih =>
    obtain ⟨hsound, hscript, hle, hunanswered⟩ := ih
    refine ⟨hsound.step (.inr hstep), hstep.script.trans hscript, ?_⟩
    rcases hstep.calls with hc | hc
    · rw [hc]
      exact ⟨hle, hunanswered⟩
    · have hle' := hc.made_le
      refine ⟨hle.trans hle', fun id => ?_⟩
      rw [hc.unanswered_iff hsound.calls, hunanswered, or_assoc]
      refine or_congr_right ⟨?_, fun h => ?_⟩
      · rintro (h | h)
        · exact ⟨h.1, h.2.trans_le hle'⟩
        · exact ⟨hle.trans h.1, h.2⟩
      · rcases Nat.lt_or_ge id s.calls.made with hlt | hge
        · exact .inl ⟨h.1, hlt⟩
        · exact .inr ⟨hge, h.2⟩

/-- **When a stop deadlocks.** While the scripting thread waits in a stop for the loop thread to end, no step is left to
it until that end. It deadlocks with the loop thread where that waits for a call that had no answer when the join began,
or that was made since; and from then on the join never ends. -/
theorem join_deadlocks_iff (h₀ : s₀.Opening) (h₁ : Run s₀ s₁) (hj : s₁.Joining)
    (h₂ : Relation.ReflTransGen LoopStep s₁ s₂) :
    (∀ s, ScriptStep s₂ s → s₂.ended) ∧
      (s₂.Deadlocked ↔ ∃ id, s₂.Awaits id ∧ (s₁.calls.Unanswered id ∨ s₁.calls.made ≤ id)) ∧
      (s₂.Deadlocked → ∀ s, Run s₂ s → s.Joining ∧ s.ended = false) := by
  have hsound₁ := h₀.sound.run h₁
  obtain ⟨hsound, hscript, -, hunanswered⟩ := unanswered_since hsound₁ h₂
  have hj₂ : s₂.Joining := hj.imp fun _ hrest => hscript.trans hrest
  refine ⟨fun s h => h.ended_of_joining hj₂, ⟨?_, ?_⟩, ?_⟩
  · rintro ⟨-, id, hid, hopen⟩
    have hu := (hunanswered id).1 ((hsound.calls.unanswered id).2 hopen)
    exact ⟨id, hid, hu.imp_right And.left⟩
  · rintro ⟨id, hid, hopen⟩
    have hmade : id < s₂.calls.made := hsound.calls.made id (awaited_of_awaits hid)
    have hu := (hunanswered id).2 (hopen.imp_right fun h => ⟨h, hmade⟩)
    exact ⟨hj₂, id, hid, (hsound.calls.unanswered id).1 hu⟩
  · rintro ⟨-, id, hid, hopen⟩ s hrun
    have h := joining_of_unanswered hsound hj₂ (awaited_of_awaits hid) ((hsound.calls.unanswered id).2 hopen) hrun
    exact ⟨h.1, h.2.1⟩

/-- A stop that is called from a callback never returns. -/
theorem joining_of_calling (h₀ : s₀.Opening) (h₁ : Run s₀ s₁) (hj : s₁.Joining) (hc : s₁.calls.calling ≠ [])
    (h : Run s₁ s) : s.Joining ∧ s.ended = false := by
  obtain ⟨id, hid⟩ := List.exists_mem_of_ne_nil _ hc
  have hsound := h₀.sound.run h₁
  have hu := (hsound.calls.unanswered id).2 (.inr hid)
  have h := joining_of_unanswered hsound hj (hsound.calls.waited id hu) hu h
  exact ⟨h.1, h.2.1⟩

theorem stop_at_top_level_ends :
    ∃ s₁ s₂, Run (started .none) s₁ ∧ s₁.Joining ∧ Relation.ReflTransGen LoopStep s₁ s₂ ∧ ¬s₂.Deadlocked ∧
      s₂.ended := by
  have run : ∃ s₁, Run (started .none) s₁ ∧ s₁.Joining ∧
      ∃ s₂, Relation.ReflTransGen LoopStep s₁ s₂ ∧ s₂.loop = [] ∧ s₂.ended := by
    refine run_of_step (.inl (.enter (.inl rfl) .stop rfl rfl)) ?_
    refine run_of_step (.inl (.send rfl rfl)) ?_
    refine run_of_step (.inr (.begin rfl rfl (by decide) rfl)) ?_
    refine run_of_step (.inr (.serve rfl rfl rfl)) ?_
    refine run_of_step (.inr (.stop rfl rfl rfl)) ?_
    refine run_of_step (.inl (.reply rfl rfl)) ?_
    refine run_of_step (.inl (.leave rfl rfl)) ?_
    refine ⟨_, .refl, ⟨_, rfl⟩, _,
      .head (.batched rfl rfl rfl) (.head (.leave rfl rfl rfl rfl ?_) (.single (.ended rfl))), rfl, rfl⟩
    exact nofun
  obtain ⟨s₁, h₁, hj, s₂, h₂, hloop, hended⟩ := run
  refine ⟨s₁, s₂, h₁, hj, h₂, fun hd => ?_, hended⟩
  have hopening : (started .none).Opening := started_opening (by decide)
  obtain ⟨id, ⟨_, _, hid | hid⟩, -⟩ := (join_deadlocks_iff hopening h₁ hj h₂).2.1.1 hd
  · rw [hloop] at hid
    cases hid
  · rw [hloop] at hid
    cases hid

/-- **A stop that is called from a callback deadlocks.** The job of a wait calls back, and the callback stops the
bridge. -/
theorem deadlock_reached : ∃ s, Run (started .none) s ∧ s.Deadlocked := by
  refine run_of_step (.inl (.enter (.inl rfl) (.batch []) rfl rfl)) ?_
  refine run_of_step (.inl (.send rfl rfl)) ?_
  refine run_of_step (.inr (.begin rfl rfl (by decide) rfl)) ?_
  refine run_of_step (.inr (.serve rfl rfl rfl)) ?_
  refine run_of_step (.inr (.fire (.mk rfl rfl (some 0) [] true rfl))) ?_
  refine run_of_step (.inr (.queue (.mk rfl rfl))) ?_
  refine run_of_step (.inl (.miss rfl rfl)) ?_
  refine run_of_step (.inl (.take rfl rfl rfl)) ?_
  -- the callback runs, and its stop is served within its own call
  refine run_of_step (.inl (.enter (.inr ⟨_, _, rfl⟩) .stop rfl rfl)) ?_
  refine run_of_step (.inl (.send rfl rfl)) ?_
  refine run_of_step (.inr (.miss rfl rfl)) ?_
  refine run_of_step (.inr (.serve rfl rfl rfl)) ?_
  refine run_of_step (.inr (.stop rfl rfl rfl)) ?_
  refine run_of_step (.inl (.reply rfl rfl)) ?_
  refine run_of_step (.inl (.leave rfl rfl)) ?_
  exact ⟨_, .refl, ⟨_, rfl⟩, 0, ⟨_, _, .inr rfl⟩, .inr (by decide)⟩

end NativeBridge.Threads
