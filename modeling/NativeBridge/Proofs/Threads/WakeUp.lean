import NativeBridge.Proofs.Threads.Route

/-!
Wake-ups for calls that are queued. A wake-up runs everything that is queued, so one that was sent for an earlier call
does for later ones too; a call whose way was chosen while the scripting thread waited has none of its own.
-/

namespace NativeBridge.Threads

variable {c c' c₀ : Calls}

namespace Calls

/-- A wake-up for the queue is in the event loop, or it was delivered and still runs. -/
def InFlight (c : Calls) : Prop := c.queue.generation ∈ c.queue.mailbox ∨ 0 < c.woken

/-- A wake-up ends only when nothing is queued any more. -/
lemma InFlight.step (h : c.InFlight) (hs : Step c c') : c'.queued = [] ∨ c'.InFlight := by
  rcases hs with hs | hs
  · cases hs with
    | take => exact .inr h
    | settle => exact .inr h
    | @deliver generation mailbox hm =>
      refine .inr ?_
      by_cases hg : c.queue.generation = generation
      · exact .inr (by simp [hg])
      · rcases h with h | h
        · rw [hm] at h
          exact .inl ((List.mem_cons.1 h).resolve_left hg)
        · exact .inr (by simpa [hg] using h)
    | drained _ hq => exact .inl (by simp [queued, hq])
    | clear => exact .inl rfl
  · cases hs with
    | push => exact .inr h
    | announce =>
      refine .inr (h.imp_left fun hm => ?_)
      dsimp only
      split
      · exact List.mem_append_left _ hm
      · exact hm
    | collect => exact .inr h

/-- Only an announcement sends a wake-up. -/
lemma InFlight.of_step (h : c'.InFlight) (hs : Step c c') :
    c.InFlight ∨ ∃ id waits, c.waits = (id, .due) :: waits := by
  rcases hs with hs | hs
  · refine .inl ?_
    cases hs with
    | take => exact h
    | settle => exact h
    | @deliver generation mailbox hm =>
      by_cases hg : c.queue.generation = generation
      · exact .inl (by simp [hm, hg])
      · rcases h with h | h
        · exact .inl (hm ▸ List.mem_cons_of_mem _ h)
        · exact .inr (by simpa [hg] using h)
    | drained hk => exact .inr (by omega)
    | clear => exact h
  · cases hs with
    | push => exact .inl h
    | announce hw => exact .inr ⟨_, _, hw⟩
    | collect => exact .inl h

/-- A call that is queued was queued before, or it is the newest. -/
lemma queued_of_step (hs : Step c c') {id : PromiseId} (hid : id ∈ c'.queued) : id ∈ c.queued ∨ id = c.made := by
  rcases hs with hs | hs
  · refine .inl ?_
    cases hs with
    | take hp =>
      rw [queued, hp]
      exact List.mem_cons_of_mem _ hid
    | clear => cases hid
    | _ => exact hid
  · cases hs with
    | push =>
      rw [queued, ScriptQueue.push, List.map_append] at hid
      exact (List.mem_append.1 hid).imp_right List.mem_singleton.1
    | announce =>
      refine .inl ?_
      rw [queued] at hid
      dsimp only at hid
      split at hid <;> exact hid
    | collect => exact .inl hid

/-- A call that is queued and that the loop thread waits for at its innermost is the newest one. -/
lemma Sound.made_eq (h : c.Sound) {id : PromiseId} {notice : Notice} {waits : List (PromiseId × Notice)}
    (hw : c.waits = (id, notice) :: waits) (hq : id ∈ c.queued) : c.made = id + 1 := by
  obtain ⟨first, hle, hqueued, -⟩ := h.tail
  rw [hqueued, List.mem_range'_1, Nat.add_sub_cancel' hle] at hq
  have hlt : id < c.made := hq.2
  have hlast : c.made - 1 ∈ c.queued := by
    rw [hqueued, List.mem_range'_1, Nat.add_sub_cancel' hle]
    exact ⟨hq.1.trans (Nat.le_sub_one_of_lt hlt), Nat.sub_one_lt (Nat.ne_of_gt (Nat.zero_lt_of_lt hlt))⟩
  have hawaited := h.waited _ ((h.unanswered _).2 (.inl hlast))
  have hordered := h.ordered
  rw [awaited_cons hw] at hawaited hordered
  have hle : c.made - 1 ≤ id := by
    rcases List.mem_cons.1 hawaited with heq | hmem
    · exact heq.le
    · exact (List.rel_of_pairwise_cons hordered hmem).le
  exact Nat.le_antisymm (Nat.sub_le_iff_le_add.1 hle) hlt

/-! ### Calls with a wake-up of their own -/

/-- For every call that is queued and announced a wake-up is in flight. -/
def Told (c : Calls) : Prop := ∀ id, (id, .sent) ∈ c.waits → id ∈ c.queued → c.InFlight

lemma sent_of_step (hc : c.queue.channel = .eventLoop) (hs : Step c c') {id : PromiseId}
    (hid : (id, .sent) ∈ c'.waits) : (id, .sent) ∈ c.waits ∨ c'.InFlight := by
  rcases hs with hs | hs
  · refine .inl ?_
    cases hs <;> exact hid
  · cases hs with
    | push _ _ _ synchronous =>
      rcases List.mem_cons.1 hid with heq | hid
      · cases synchronous <;> cases heq
      · exact .inl hid
    | announce hw =>
      refine .inr (.inl ?_)
      dsimp only
      rw [if_pos hc]
      exact List.mem_append_right _ (List.mem_singleton_self _)
    | collect hw =>
      refine .inl ?_
      rw [hw]
      exact List.mem_cons_of_mem _ hid

lemma Told.step (ht : c.Told) (h : c.Sound) (hc : c.queue.channel = .eventLoop) (hs : Step c c') : c'.Told := by
  intro id hid hq
  rcases sent_of_step hc hs hid with hsent | hflight
  · have hmade : id < c.made := h.made id (List.mem_map_of_mem hsent)
    have hqueued : id ∈ c.queued := (queued_of_step hs hq).resolve_right (Nat.ne_of_lt hmade)
    rcases (ht id hsent hqueued).step hs with hnone | hflight
    · rw [hnone] at hq
      cases hq
    · exact hflight
  · exact hflight

lemma Told.run (ht : c.Told) (h : c.Sound) (hc : c.queue.channel = .eventLoop)
    (hr : Relation.ReflTransGen Step c c') : c'.Told := by
  have hall : c'.Sound ∧ c'.queue.channel = .eventLoop ∧ c'.Told := by
    induction hr with
    | refl => exact ⟨h, hc, ht⟩
    | tail _ hs ih => exact ⟨ih.1.step hs, (channel_of_step hs).trans ih.2.1, ih.2.2.step ih.1 ih.2.1 hs⟩
  exact hall.2.2

/-! ### Calls without one -/

/-- No call is left to the scripting thread itself once it was made. -/
lemma itself_of_step (hs : Step c c') {id : PromiseId} (hmade : id < c.made) (hid : (id, .itself) ∈ c'.waits) :
    (id, .itself) ∈ c.waits := by
  rcases hs with hs | hs
  · cases hs <;> exact hid
  · cases hs with
    | push =>
      rcases List.mem_cons.1 hid with heq | hid
      · exact absurd (congrArg Prod.fst heq) (Nat.ne_of_lt hmade)
      · exact hid
    | announce hw =>
      rw [hw]
      exact List.mem_cons_of_mem _ ((List.mem_cons.1 hid).resolve_left nofun)
    | collect hw =>
      rw [hw]
      exact List.mem_cons_of_mem _ hid

lemma itself_of_run {id : PromiseId} (hr : Relation.ReflTransGen Step c c') (hmade : id < c.made)
    (hid : (id, .itself) ∈ c'.waits) : (id, .itself) ∈ c.waits := by
  suffices hall : id < c'.made ∧ ((id, .itself) ∈ c'.waits → (id, .itself) ∈ c.waits) from hall.2 hid
  clear hid
  induction hr with
  | refl => exact ⟨hmade, fun hid => hid⟩
  | tail _ hs ih => exact ⟨ih.1.trans_le (made_le_of_step hs), fun hid => ih.2 (itself_of_step hs ih.1 hid)⟩

/-- A call is left to the scripting thread itself as long as it is unanswered. -/
lemma itself_step (hs : Step c c') {id : PromiseId} (hid : (id, .itself) ∈ c.waits) (hu : c.Unanswered id) :
    (id, .itself) ∈ c'.waits := by
  rcases hs with hs | hs
  · cases hs <;> exact hid
  · cases hs with
    | push => exact List.mem_cons_of_mem _ hid
    | announce hw =>
      rw [hw] at hid
      exact List.mem_cons_of_mem _ ((List.mem_cons.1 hid).resolve_left nofun)
    | collect hw ha =>
      rw [hw] at hid
      rcases List.mem_cons.1 hid with heq | hid
      · cases heq
        exact absurd hu ha
      · exact hid

/-- What is at the innermost still to be announced is newer than any call that is left to the scripting thread. -/
lemma Sound.lt_of_due (h : c.Sound) {id k : PromiseId} {waits : List (PromiseId × Notice)}
    (hw : c.waits = (k, .due) :: waits) (hid : (id, .itself) ∈ c.waits) : id < k := by
  have hordered := h.ordered
  rw [awaited_cons hw] at hordered
  rw [hw] at hid
  exact List.rel_of_pairwise_cons hordered (List.mem_map_of_mem ((List.mem_cons.1 hid).resolve_left nofun))

/-- While the newest call is queued and has no wake-up of its own, no wake-up is sent and none ends. -/
lemma inFlight_iff_of_itself {id : PromiseId} (h : c₀.Sound) (hid : (id, .itself) ∈ c₀.waits)
    (hmade : id < c₀.made) (hr : Relation.ReflTransGen Step c₀ c) :
    c.Sound ∧ id < c.made ∧ (id ∈ c.queued → (id, .itself) ∈ c.waits) ∧
      (id ∈ c.queued → c.made = id + 1 → (c.InFlight ↔ c₀.InFlight)) := by
  induction hr with
  | refl => exact ⟨h, hmade, fun _ => hid, fun _ _ => Iff.rfl⟩
  | @tail c c' _ hs ih =>
    obtain ⟨hsound, hlt, hitself, hflight⟩ := ih
    have hle := made_le_of_step hs
    have before (hq : id ∈ c'.queued) : id ∈ c.queued := (queued_of_step hs hq).resolve_right (Nat.ne_of_lt hlt)
    refine ⟨hsound.step hs, hlt.trans_le hle, fun hq => ?_, fun hq hmade' => ?_⟩
    · exact itself_step hs (hitself (before hq)) ((hsound.unanswered id).2 (.inl (before hq)))
    · have hmade₁ : c.made = id + 1 := Nat.le_antisymm (hmade' ▸ hle) hlt
      rw [← hflight (before hq) hmade₁]
      constructor
      · intro hf
        refine (hf.of_step hs).resolve_right ?_
        rintro ⟨k, waits, hw⟩
        have hk : k < c.made := hsound.made k (by rw [awaited_cons hw]; exact List.mem_cons_self)
        have hidk := hsound.lt_of_due hw (hitself (before hq))
        exact absurd (Nat.le_of_lt_succ (hk.trans_eq hmade₁)) (Nat.not_le.2 hidk)
      · intro hf
        exact (hf.step hs).resolve_left (List.ne_nil_of_mem hq)

end Calls

/-! ### Both threads -/

variable {Native Script : Type} {s s' s₀ s₁ s₂ : State Native Script}

/-- A wake-up for the queue is in the event loop of the script, or it was delivered and still runs. -/
def State.InFlight (s : State Native Script) : Prop :=
  s.world.script.generation ∈ s.world.script.mailbox ∨ .polling true ∈ s.script

lemma State.inFlight_iff : s.InFlight ↔ s.calls.InFlight := by
  refine or_congr Iff.rfl ?_
  rw [State.calls, List.countP_pos_iff]
  constructor
  · exact fun h => ⟨_, h, rfl⟩
  · rintro ⟨f, hf, hw⟩
    cases f with
    | polling woken => cases hw; exact hf
    | _ => cases hw

/-- A call that the loop thread waits for was queued by a step of it. -/
lemma awaited_of_step (hs : s.Sound) (h : Step s s') {id : PromiseId} (hid : id ∈ s'.calls.awaited) :
    id ∈ s.calls.awaited ∨ ∃ synchronous, Queues s id synchronous s' := by
  rcases h with h | h
  · refine .inl ?_
    rcases h.calls hs.ended with hc | hc
    · exact hc ▸ hid
    · generalize s'.calls = c' at hc hid
      cases hc <;> exact hid
  · cases h with
    | @queue _ _ synchronous hq =>
      obtain ⟨rfl, _, _, _, hcalls⟩ := hq.calls
      rw [Calls.awaited, hcalls] at hid
      rcases List.mem_cons.1 hid with rfl | hid
      · exact .inr ⟨synchronous, hq⟩
      · exact .inl hid
    | announce hs | miss hs | served hs | begin hs | handle hs | handled hs | batched hs | done hs | finish hs | stop hs
    | leave hs | ended hs =>
      refine .inl ?_
      rw [Calls.awaited, State.calls, hs]
      exact hid
    | result hs =>
      refine .inl ?_
      rw [Calls.awaited, State.calls, hs]
      exact List.mem_cons_of_mem _ hid
    | fire hf =>
      cases hf
      exact .inl hid
    | work | serve => exact .inl hid

lemma queues_of_awaited (h₀ : s₀.Opening) (hr : Run s₀ s) {id : PromiseId} (hid : id ∈ s.calls.awaited) :
    ∃ s₁ synchronous s₂, Run s₀ s₁ ∧ Queues s₁ id synchronous s₂ ∧ Run s₂ s := by
  induction hr with
  | refl =>
    rw [Calls.awaited, State.calls, h₀.loop] at hid
    cases hid
  | @tail t t' hr hs ih =>
    rcases awaited_of_step (h₀.sound.run hr) hs hid with hid | ⟨synchronous, hq⟩
    · obtain ⟨s₁, synchronous, s₂, h₁, hq, h₂⟩ := ih hid
      exact ⟨s₁, synchronous, s₂, h₁, hq, h₂.tail hs⟩
    · exact ⟨t, synchronous, t', hr, hq, .refl⟩

/-- A wake-up is in flight for a call that is queued and waited for if the call was not left to the scripting thread,
and otherwise if one was in flight as the call was queued. -/
lemma inFlight_iff_of_queues (h₀ : s₀.Opening) (hc : s₀.world.script.channel = .eventLoop) {id : PromiseId}
    {synchronous : Bool} (h₁ : Run s₀ s₁) (hqueue : Queues s₁ id synchronous s₂) (h₂ : Run s₂ s) (hid : s.Awaits id)
    (hq : id ∈ s.calls.queued) : s.InFlight ↔ ¬synchronous ∨ s₂.InFlight := by
  have hsound₁ := h₀.sound.run h₁
  have hstep : Step s₁ s₂ := .inr (.queue hqueue)
  have hsound₂ := hsound₁.step hstep
  have hrun := Run.calls hsound₂ h₂
  obtain ⟨hnew, _, _, _, hcalls⟩ := hqueue.calls
  have hmade₂ : id < s₂.calls.made := by
    rw [hcalls, hnew]
    exact Nat.lt_succ_self _
  obtain ⟨route, waits, hwaits⟩ := waits_of_awaits hid
  rw [State.inFlight_iff, State.inFlight_iff]
  cases synchronous with
  | false =>
    refine iff_of_true ?_ (.inl Bool.false_ne_true)
    have htold₀ : s₀.calls.Told := fun k hk => by
      rw [State.calls, h₀.loop] at hk
      cases hk
    have htold := htold₀.run h₀.sound.calls hc (Run.calls h₀.sound ((h₁.tail hstep).trans h₂))
    cases route with
    | false => exact htold id (by rw [hwaits]; exact List.mem_cons_self) hq
    | true =>
      -- the call would have been left to the scripting thread before it was made
      have hitself := Calls.itself_of_run hrun hmade₂ (by rw [hwaits]; exact List.mem_cons_self)
      rw [hcalls] at hitself
      have hold := hsound₁.calls.made id (List.mem_map_of_mem ((List.mem_cons.1 hitself).resolve_left (by simp)))
      exact absurd hold (hnew ▸ lt_irrefl _)
  | true =>
    have hitself : (id, .itself) ∈ s₂.calls.waits := by
      rw [hcalls]
      exact List.mem_cons_self
    obtain ⟨hsound, -, -, hflight⟩ := Calls.inFlight_iff_of_itself hsound₂.calls hitself hmade₂ hrun
    rw [hflight hq (hsound.made_eq hwaits hq)]
    exact (or_iff_right fun h => h rfl).symm

/-- **When a queued call is left untold.** Where the loop thread waits for a call that is still queued, a wake-up is in
flight if and only if the scripting thread was in no wait when the way of the call was chosen, or a wake-up for an
earlier call was in flight as this one was queued. -/
theorem wake_up_in_flight_iff (h₀ : s₀.Opening) (hc : s₀.world.script.channel = .eventLoop) (hr : Run s₀ s)
    {id : PromiseId} (hid : s.Awaits id) (hq : id ∈ s.calls.queued) :
    (∃ t u, Run s₀ t ∧ Made t id u ∧ Run u s) ∧
      ∀ t u, Run s₀ t → Made t id u → Run u s → (s.InFlight ↔ ¬t.Waits ∨ u.InFlight) := by
  constructor
  · obtain ⟨u', synchronous, u, h₁, hqueue, h₂⟩ := queues_of_awaited h₀ hr (awaited_of_awaits hid)
    obtain ⟨t, ht, hmade⟩ := hqueue.made h₀ h₁
    exact ⟨t, u, ht, hmade, h₂⟩
  · intro t u ht hmade hu
    obtain ⟨u', synchronous, h₁, hqueue, hwaits⟩ := hmade.queues h₀ ht
    rw [inFlight_iff_of_queues h₀ hc h₁ hqueue hu hid hq, hwaits]

theorem wake_up_for_idle_script :
    ∃ s, Run (started .eventLoop) s ∧ s.script = [] ∧ s.Awaits 0 ∧ 0 ∈ s.calls.queued ∧ s.InFlight := by
  have run : ∃ s, Run (started .eventLoop) s ∧ s.script = [] ∧ s.Awaits 0 ∧ 0 ∈ s.calls.queued ∧
      ∃ t u, Run (started .eventLoop) t ∧ Made t 0 u ∧ Run u s ∧ t.script = [] := by
    refine run_of_step (.inr (.handle rfl rfl)) ?_
    refine run_of_step (.inr (.fire (.mk rfl rfl (some 0) [] true rfl))) ?_
    refine run_of_step (.inr (.queue (.mk rfl rfl))) ?_
    refine run_of_step (.inr (.announce rfl rfl)) ?_
    refine ⟨_, .refl, rfl, ⟨_, _, .inl rfl⟩, by decide, _, _, .single (.inr (.handle rfl rfl)), ?_,
      .single (.inr (.announce rfl rfl)), rfl⟩
    exact ⟨false, _, _, .mk rfl rfl (some 0) [] true rfl, .refl, .mk rfl rfl⟩
  obtain ⟨s, hr, hscript, hid, hq, t, u, ht, hmade, hu, hidle⟩ := run
  have h := wake_up_in_flight_iff (started_opening (by decide)) rfl hr hid hq
  have hwaits : ¬t.Waits := fun ⟨f, hf, _⟩ => List.not_mem_nil (hidle ▸ hf)
  exact ⟨s, hr, hscript, hid, hq, (h.2 t u ht hmade hu).2 (.inl hwaits)⟩

/-- **A call is left untold.** The way of a call is chosen while the scripting thread waits; it sees its reply and
leaves the wait, and only then the call is queued. -/
theorem call_left_untold :
    ∃ s, Run (started .eventLoop) s ∧ s.script = [] ∧ s.Awaits 0 ∧ 0 ∈ s.calls.queued ∧ ¬s.InFlight := by
  refine run_of_step (.inl (.enter (.inl rfl) (.batch []) rfl rfl)) ?_
  refine run_of_step (.inl (.send rfl rfl)) ?_
  refine run_of_step (.inr (.begin rfl rfl (by decide) rfl)) ?_
  refine run_of_step (.inr (.serve rfl rfl rfl)) ?_
  refine run_of_step (.inr (.finish rfl nofun (.ok .done) rfl)) ?_
  refine run_of_step (.inr (.batched rfl rfl rfl)) ?_
  refine run_of_step (.inr (.handle rfl rfl)) ?_
  refine run_of_step (.inr (.fire (.mk rfl rfl (some 0) [] true rfl))) ?_
  -- between the choice of the way and the queueing
  refine run_of_step (.inl (.reply rfl rfl)) ?_
  refine run_of_step (.inl (.leave rfl rfl)) ?_
  refine run_of_step (.inr (.queue (.mk rfl rfl))) ?_
  exact ⟨_, .refl, rfl, ⟨_, _, .inl rfl⟩, by decide, nofun⟩

end NativeBridge.Threads
