import NativeBridge.Proofs.Exchange.Machine
import NativeBridge.Proofs.Table

/-!
What a wait ends with: the result of its own job, which was started once, or the news that its job was lost, and then
the job is never started.
-/

namespace NativeBridge.Exchange

open Eff

variable {S : Sides} {s s' s₀ : State S} {w w' : World S} {id : PromiseId}

/-! ### The effects of the steps -/

lemma abandon_eq (w : World S) (t : Task S.Job) :
    LoopDispatch.abandon w t =
      { w with replies := (t.request?.toList.map Prod.fst).foldl Promises.break_ w.replies } := by
  cases t <;> rfl

lemma abandonAll_eq (ts : List (Task S.Job)) (w : World S) :
    ts.foldl LoopDispatch.abandon w =
      { w with replies := ((ts.filterMap Task.request?).map Prod.fst).foldl Promises.break_ w.replies } := by
  induction ts generalizing w with
  | nil => rfl
  | cons t rest ih =>
    rw [List.foldl_cons, ih, abandon_eq]
    cases t <;> rfl

lemma refuse_loop {t : Task S.Job} (hx : LoopDispatch.refuse t w = some (.ok (), w')) :
    w'.loop.pending = w.loop.pending ∧ w'.loop.depth = w.loop.depth ∧
      w'.replies = (t.request?.toList.map Prod.fst).foldl Promises.break_ w.replies := by
  cases t <;> (cases hx; exact ⟨rfl, rfl, rfl⟩)

/-- Sending a task that nobody waits for. -/
lemma schedule_loop {t : Task S.Job} (ht : t.request? = none) (hx : LoopDispatch.schedule t w = some (.ok (), w')) :
    w'.loop.pending.filterMap Task.request? = w.loop.pending.filterMap Task.request? ∧
      w'.loop.depth = w.loop.depth ∧ w'.replies = w.replies := by
  rw [LoopDispatch.schedule_apply] at hx
  split at hx
  · obtain ⟨hpending, hdepth, hreplies⟩ := refuse_loop hx
    rw [ht] at hreplies
    exact ⟨by rw [hpending], hdepth, hreplies⟩
  · obtain ⟨q, rfl, hpending, -, hdepth⟩ := LoopDispatch.accept_eq hx
    refine ⟨?_, hdepth, rfl⟩
    rw [hpending, List.filterMap_append, List.filterMap_cons_none ht, List.filterMap_nil, List.append_nil]

lemma sweep_loop (hx : LoopDispatch.sweep w = some (.ok (), w')) :
    w'.loop.pending = [] ∧ w'.loop.depth = w.loop.depth ∧
      w'.replies = ((w.loop.pending.filterMap Task.request?).map Prod.fst).foldl Promises.break_ w.replies := by
  rw [LoopDispatch.sweep, modify_apply, abandonAll_eq] at hx
  cases hx
  exact ⟨rfl, rfl, rfl⟩

/-! ### The steps in the book -/

section

variable {f : Wait S} {rest : List (Wait S)}

lemma unsent_cons {e : PromiseId × S.Job} (hs : s.waits = f :: rest) (he : f.unsent? = some e) :
    s.book.unsent = e :: rest.filterMap Wait.unsent? := by
  rw [State.book, hs]
  exact List.filterMap_cons_some he

lemma promise_book (hs : s.waits = f :: rest) (hf : f.stage = .entered) :
    Book.Step s.book (State.book { s with
      world := { s.world with replies := s.world.replies.make.2 }
      waits := { f with stage := .promised s.world.replies.made } :: rest
      posted := (s.world.replies.made, f.job) :: s.posted }) := by
  have hstep := Book.Step.promise s.book f.job
  simpa [State.book, hs, Wait.unsent?, hf] using hstep

lemma refuse_book (hs : s.waits = f :: rest) (hf : f.stage = .promised id)
    (hx : LoopDispatch.refuse (.request id f.job) s.world = some (.ok (), w)) :
    Book.Step s.book (State.book { s with world := w, waits := { f with stage := .waiting id } :: rest }) := by
  obtain ⟨hpending, -, hreplies⟩ := refuse_loop hx
  have hbroken : w.replies = s.world.replies.break_ id := hreplies
  have hstep := Book.Step.refuse (unsent_cons hs (e := (id, f.job)) (by rw [Wait.unsent?, hf]))
  simpa [State.book, hs, List.filterMap_cons, Wait.unsent?, hf, hpending, hbroken] using hstep

lemma push_book (hs : s.waits = f :: rest) (hf : f.stage = .admitted id)
    (hx : LoopDispatch.accept (.request id f.job) s.world = some (.ok (), w)) :
    Book.Step s.book (State.book { s with world := w, waits := { f with stage := .waiting id } :: rest }) := by
  obtain ⟨q, rfl, hpending, -⟩ := LoopDispatch.accept_eq hx
  have hstep := Book.Step.send (unsent_cons hs (e := (id, f.job)) (by rw [Wait.unsent?, hf]))
  simpa [State.book, hs, List.filterMap_cons, Wait.unsent?, hf, Task.request?, hpending] using hstep

lemma collect_book (hs : s.waits = f :: rest) (hf : f.stage = .waiting id) {r : Except Error S.Reply}
    (hx : LoopRequest.collect id s.world = some (r.map some, w)) :
    State.book { s with world := w, waits := { f with stage := .leaving id r } :: rest } = s.book.collect id := by
  rw [(LoopRequest.collect_some hx).1]
  simp [State.book, Book.collect, hs, List.filterMap_cons, Wait.unsent?, hf]

lemma leave_book (hs : s.waits = f :: rest) {r : Except Error S.Reply} (hf : f.stage = .leaving id r)
    (hx : LoopRequest.leave s.world = some (.ok (), w)) :
    State.book { s with world := w, waits := rest } = s.book := by
  cases hx
  simp [State.book, hs, Wait.unsent?, hf, LoopQueue.exitWait]

lemma take_book {t : Task S.Job} (hx : LoopDispatch.take s.world = some (.ok (some t), w)) :
    State.book { s with world := w, running := t :: s.running, started := t.request?.toList ++ s.started } = s.book ∨
      Book.Step s.book (State.book { s with
        world := w, running := t :: s.running, started := t.request?.toList ++ s.started }) := by
  obtain ⟨pending, hpending, rfl⟩ := LoopDispatch.take_some hx
  cases ht : t.request? with
  | none => exact .inl (by simp [State.book, hpending, ht])
  | some e =>
    have hqueued : s.book.queued = e :: pending.filterMap Task.request? := by
      rw [State.book, hpending]
      exact List.filterMap_cons_some ht
    have hstep := Book.Step.begin hqueued
    exact .inr (by simpa [State.book, ht] using hstep)

lemma finish_book {j : S.Job} {rest : List (Task S.Job)} (hs : s.running = .request id j :: rest)
    {r : Except Error S.Reply} (hx : LoopDispatch.settle id r s.world = some (.ok (), w)) :
    Book.Step s.book (State.book { s with world := w, running := rest, ended := (id, r) :: s.ended }) := by
  have hrunning : s.book.running = (id, j) :: rest.filterMap Task.request? := by
    rw [State.book, hs]
    rfl
  have hstep := Book.Step.finish hrunning r
  cases hx
  simpa [State.book] using hstep

lemma sweep_book (hx : LoopDispatch.sweep s.world = some (.ok (), w)) :
    Book.Step s.book (State.book { s with world := w }) := by
  obtain ⟨hpending, -, hreplies⟩ := sweep_loop hx
  have hstep := Book.Step.sweep s.book
  simpa [State.book, hpending, hreplies] using hstep

end

lemma Step.book (hs : Step s s') : s'.book = s.book ∨ Book.Step s.book s'.book ∨ ∃ id, s'.book = s.book.collect id := by
  cases hs with
  | aside hw => exact .inl (by simp only [State.book, hw.replies, hw.pending])
  | send t ht hx =>
    obtain ⟨hpending, -, hreplies⟩ := schedule_loop ht hx
    exact .inl (by simp only [State.book, hreplies, hpending])
  | enter j hx => cases hx; exact .inl rfl
  | promise hs hf => exact .inr (.inl (promise_book hs hf))
  | pass hs hf => exact .inl (by simp [State.book, hs, Wait.unsent?, hf])
  | refuse hs hf _ hx => exact .inr (.inl (refuse_book hs hf hx))
  | push hs hf hx => exact .inr (.inl (push_book hs hf hx))
  | collect hs hf r hx => exact .inr (.inr ⟨_, collect_book hs hf hx⟩)
  | leave hs hf hx => exact .inl (leave_book hs hf hx)
  | take hx => exact (take_book hx).imp_right .inl
  | done hs ht => exact .inl (by simp [State.book, hs, ht])
  | finish hs r hx => exact .inr (.inl (finish_book hs hx))
  | close hx => cases hx; exact .inl rfl
  | sweep hx => exact .inr (.inl (sweep_book hx))

/-- A job that was lost is never started. -/
lemma Run.lost (hr : Run s s') (h : s.book.Lost id) : s'.book.Lost id := by
  induction hr with
  | refl => exact h
  | tail _ hs ih =>
    rcases hs.book with hb | hb | ⟨k, hb⟩
    · exact hb ▸ ih
    · exact ih.step hb
    · exact hb ▸ ih.collect k

/-! ### What holds of a wait -/

/-- The promise of a wait is one of its job. While the wait goes on nobody else collects it, and what it leaves with is
the result of its job, or its job is lost. -/
def Wait.Fits (b : Book S.Job (Except Error S.Reply)) (f : Wait S) : Prop :=
  match f.stage with
  | .entered => True
  | .promised id | .admitted id => (id, f.job) ∈ b.posted
  | .waiting id => (id, f.job) ∈ b.posted ∧ b.replies.get? id ≠ none
  | .leaving id r => (id, f.job) ∈ b.posted ∧ ((id, r) ∈ b.ended ∨ r = .error .loopGone ∧ b.Lost id)

/-- Each wait was entered at the depth of the one around it. -/
def Nested : List (Wait S) → Nat → Prop
  | [], _ => True
  | f :: rest, depth => depth = f.before + 1 ∧ Nested rest f.before

structure State.Sound (s : State S) : Prop where
  book : s.book.Sound
  numbers : ((s.waits.filterMap Wait.promise?).map Prod.fst).Nodup
  fits : ∀ f ∈ s.waits, f.Fits s.book
  nested : Nested s.waits s.world.loop.depth

variable {b b' : Book S.Job (Except Error S.Reply)} {f : Wait S}

namespace Wait

lemma Fits.step (hb : b.Sound) (hs : Book.Step b b') (h : f.Fits b) : f.Fits b' := by
  obtain ⟨job, before, stage⟩ := f
  cases stage with
  | entered => trivial
  | promised | admitted => exact hs.posted_subset h
  | waiting => exact ⟨hs.posted_subset h.1, hs.get?_ne_none hb h.2⟩
  | leaving =>
    exact ⟨hs.posted_subset h.1, h.2.imp (fun hended => hs.ended_subset hended) (.imp_right fun hlost => hlost.step hs)⟩

lemma Fits.posted (h : f.Fits b) {e : PromiseId × S.Job} (he : f.promise? = some e) : e ∈ b.posted := by
  obtain ⟨job, before, stage⟩ := f
  cases stage with
  | entered => cases he
  | promised | admitted => cases he; exact h
  | waiting | leaving => cases he; exact h.1

/-- Another wait is not touched when an outcome is collected. -/
lemma Fits.collect (h : f.Fits b) (hid : ∀ e, f.promise? = some e → e.1 ≠ id) : f.Fits (b.collect id) := by
  obtain ⟨job, before, stage⟩ := f
  cases stage with
  | entered => trivial
  | promised | admitted => exact h
  | waiting k =>
    refine ⟨h.1, ?_⟩
    rw [Book.collect, Promises.get?_forget, if_neg (hid (k, job) rfl)]
    exact h.2
  | leaving => exact ⟨h.1, h.2.imp_right (.imp_right fun hlost => hlost.collect id)⟩

end Wait

namespace State.Sound

/-- A step that moves no wait. -/
lemma onward (h : s.Sound) (hw : s'.waits = s.waits) (hd : s'.world.loop.depth = s.world.loop.depth)
    (hb : s'.book = s.book ∨ Book.Step s.book s'.book) : s'.Sound := by
  refine ⟨?_, hw ▸ h.numbers, fun f hf => ?_, hw ▸ hd ▸ h.nested⟩
  · rcases hb with hb | hb
    · exact hb ▸ h.book
    · exact h.book.step hb
  · have hfits := h.fits f (hw ▸ hf)
    rcases hb with hb | hb
    · exact hb ▸ hfits
    · exact hfits.step h.book hb

/-- A step that moves the innermost wait on. -/
lemma move (h : s.Sound) {rest : List (Wait S)} (hs : s.waits = f :: rest) {stage : Stage S}
    (hw : s'.waits = { f with stage } :: rest) (hd : s'.world.loop.depth = s.world.loop.depth)
    (hb : s'.book = s.book ∨ Book.Step s.book s'.book)
    (hnumbers : ((s'.waits.filterMap Wait.promise?).map Prod.fst).Nodup)
    (hfits : ({ f with stage } : Wait S).Fits s'.book) : s'.Sound := by
  refine ⟨?_, hnumbers, fun g hg => ?_, ?_⟩
  · rcases hb with hb | hb
    · exact hb ▸ h.book
    · exact h.book.step hb
  · rcases List.mem_cons.1 (hw ▸ hg) with rfl | hg
    · exact hfits
    · have hg := h.fits g (hs ▸ List.mem_cons_of_mem _ hg)
      rcases hb with hb | hb
      · exact hb ▸ hg
      · exact hg.step h.book hb
  · have hnested := h.nested
    rw [hs] at hnested
    rw [hw, hd]
    exact hnested

lemma enter (h : s.Sound) (j : S.Job) (hx : LoopRequest.enter s.world = some (.ok (), w)) :
    State.Sound { s with world := w, waits := ⟨j, s.world.loop.depth, .entered⟩ :: s.waits } := by
  cases hx
  exact ⟨h.book, h.numbers, List.forall_mem_cons.2 ⟨trivial, h.fits⟩, rfl, h.nested⟩

lemma promise (h : s.Sound) {rest : List (Wait S)} (hs : s.waits = f :: rest) (hf : f.stage = .entered) :
    State.Sound { s with
      world := { s.world with replies := s.world.replies.make.2 }
      waits := { f with stage := .promised s.world.replies.made } :: rest
      posted := (s.world.replies.made, f.job) :: s.posted } := by
  refine h.move hs rfl rfl (.inr (promise_book hs hf)) ?_ List.mem_cons_self
  have hnumbers := h.numbers
  rw [hs, List.filterMap_cons_none (by rw [Wait.promise?, hf])] at hnumbers
  refine List.nodup_cons.2 ⟨fun hid => ?_, hnumbers⟩
  obtain ⟨e, he, heq⟩ := List.mem_map.1 hid
  obtain ⟨g, hg, hge⟩ := List.mem_filterMap.1 he
  have hposted := (h.fits g (hs ▸ List.mem_cons_of_mem _ hg)).posted hge
  exact (h.book.numbered e hposted).ne heq

/-- The numbers stay distinct when a wait moves on with its promise. -/
lemma numbers_of_move (h : s.Sound) {rest : List (Wait S)} (hs : s.waits = f :: rest) (stage : Stage S)
    (hf : f.promise? = ({ f with stage } : Wait S).promise?) :
    (((({ f with stage } : Wait S) :: rest).filterMap Wait.promise?).map Prod.fst).Nodup := by
  have hnumbers := h.numbers
  rw [hs] at hnumbers
  simpa only [List.filterMap_cons, ← hf] using hnumbers

lemma pass (h : s.Sound) {rest : List (Wait S)} (hs : s.waits = f :: rest) (hf : f.stage = .promised id) :
    State.Sound { s with waits := { f with stage := .admitted id } :: rest } := by
  have hfits := h.fits f (hs ▸ List.mem_cons_self)
  rw [Wait.Fits, hf] at hfits
  refine h.move hs rfl rfl (.inl ?_) (h.numbers_of_move hs _ (by simp only [Wait.promise?, hf])) hfits
  simp [State.book, hs, Wait.unsent?, hf]

/-- A job that is not sent has a promise that is still to be kept. -/
lemma pending_of_unsent (h : s.Sound) {rest : List (Wait S)} (hs : s.waits = f :: rest) {e : PromiseId × S.Job}
    (he : f.unsent? = some e) : s.world.replies.Pending e.1 := by
  refine (h.book.owed e.1).2 (List.mem_map_of_mem ?_)
  simp [Book.owing, unsent_cons hs he]

/-- A wait that has sent its job, or found nobody to send it to, has a promise to look for. -/
lemma sent (h : s.Sound) {rest : List (Wait S)} (hs : s.waits = f :: rest)
    (hf : f.stage = .promised id ∨ f.stage = .admitted id)
    (hb : Book.Step s.book (State.book { s with world := w, waits := { f with stage := .waiting id } :: rest }))
    (hd : w.loop.depth = s.world.loop.depth) :
    State.Sound { s with world := w, waits := { f with stage := .waiting id } :: rest } := by
  have hunsent : f.unsent? = some (id, f.job) := by rcases hf with hf | hf <;> rw [Wait.unsent?, hf]
  have hpromise : f.promise? = some (id, f.job) := by rcases hf with hf | hf <;> rw [Wait.promise?, hf]
  have hposted := (h.fits f (hs ▸ List.mem_cons_self)).posted hpromise
  refine h.move hs rfl hd (.inr hb) (h.numbers_of_move hs _ hpromise) ⟨hposted, hb.get?_ne_none h.book ?_⟩
  rw [State.book, h.pending_of_unsent hs hunsent]
  exact nofun

lemma collect (h : s.Sound) {rest : List (Wait S)} (hs : s.waits = f :: rest) (hf : f.stage = .waiting id)
    {r : Except Error S.Reply} (hx : LoopRequest.collect id s.world = some (r.map some, w)) :
    State.Sound { s with world := w, waits := { f with stage := .leaving id r } :: rest } := by
  have hfits := h.fits f (hs ▸ List.mem_cons_self)
  have hnumbers := h.numbers_of_move hs (.leaving id r) (by simp only [Wait.promise?, hf])
  have hnested := h.nested
  have hbook := collect_book hs hf hx
  rw [Wait.Fits, hf] at hfits
  rw [hs] at hnested
  obtain ⟨rfl, hnot, houtcome⟩ := LoopRequest.collect_some hx
  refine ⟨hbook ▸ h.book.collect hnot, hnumbers, ?_, hnested⟩
  rw [hbook]
  refine List.forall_mem_cons.2 ⟨⟨hfits.1, ?_⟩, fun g hg => ?_⟩
  · rcases houtcome with hkept | ⟨hgone, rfl⟩
    · exact .inl (h.book.kept id r hkept)
    · exact .inr ⟨rfl, (h.book.lost (hgone.resolve_right hfits.2)).collect id⟩
  · refine (h.fits g (hs ▸ List.mem_cons_of_mem _ hg)).collect fun e he heq => ?_
    have hmem : e.1 ∈ (rest.filterMap Wait.promise?).map Prod.fst :=
      List.mem_map_of_mem (List.mem_filterMap.2 ⟨g, hg, he⟩)
    exact (List.nodup_cons.1 hnumbers).1 (heq ▸ hmem)

lemma leave (h : s.Sound) {rest : List (Wait S)} (hs : s.waits = f :: rest) {r : Except Error S.Reply}
    (hf : f.stage = .leaving id r) (hx : LoopRequest.leave s.world = some (.ok (), w)) :
    State.Sound { s with world := w, waits := rest } := by
  have hnumbers := h.numbers
  have hnested := h.nested
  have hbook := leave_book hs hf hx
  rw [hs] at hnested hnumbers
  refine ⟨hbook ▸ h.book, ?_, fun g hg => hbook ▸ h.fits g (hs ▸ List.mem_cons_of_mem _ hg), ?_⟩
  · exact hnumbers.sublist (((List.sublist_cons_self f rest).filterMap _).map _)
  · cases hx
    show Nested rest (s.world.loop.depth - 1)
    rw [hnested.1]
    exact hnested.2

lemma step (h : s.Sound) (hs : Step s s') : s'.Sound := by
  cases hs with
  | aside hw => exact h.onward rfl hw.depth (.inl (by simp only [State.book, hw.replies, hw.pending]))
  | send t ht hx =>
    obtain ⟨hpending, hdepth, hreplies⟩ := schedule_loop ht hx
    exact h.onward rfl hdepth (.inl (by simp only [State.book, hreplies, hpending]))
  | enter j hx => exact h.enter j hx
  | promise hs hf => exact h.promise hs hf
  | pass hs hf => exact h.pass hs hf
  | refuse hs hf _ hx => exact h.sent hs (.inl hf) (refuse_book hs hf hx) (refuse_loop hx).2.1
  | push hs hf hx =>
    have hbook := push_book hs hf hx
    obtain ⟨q, rfl, -, -, hdepth⟩ := LoopDispatch.accept_eq hx
    exact h.sent hs (.inr hf) hbook hdepth
  | collect hs hf r hx => exact h.collect hs hf hx
  | leave hs hf hx => exact h.leave hs hf hx
  | take hx =>
    have hbook := take_book hx
    obtain ⟨pending, -, rfl⟩ := LoopDispatch.take_some hx
    exact h.onward rfl rfl hbook
  | done hs ht => exact h.onward rfl rfl (.inl (by simp [State.book, hs, ht]))
  | finish hs r hx => exact h.onward rfl (by cases hx; rfl) (.inr (finish_book hs hx))
  | close hx => exact h.onward rfl (by cases hx; rfl) (.inl (by cases hx; rfl))
  | sweep hx => exact h.onward rfl (sweep_loop hx).2.1 (.inr (sweep_book hx))

lemma run (h : s.Sound) (hr : Run s s') : s'.Sound := by
  induction hr with
  | refl => exact h
  | tail _ hs ih => exact ih.step hs

end State.Sound

lemma State.Opening.sound (h : s.Opening) : s.Sound := by
  have howing : s.book.owing = [] := by simp [State.book, Book.owing, h.waits, h.pending, h.running]
  refine ⟨.of_nothing h.replies howing h.posted h.started h.ended, ?_, ?_, ?_⟩
  · simp [h.waits]
  · simp [h.waits]
  · rw [h.waits]
    trivial

/-! ### The outcome -/

/-- **What a wait ends with.** Its promise is its own. Either its job was started once and ended once, and the wait
leaves with what the job ended with, or the wait learns that the loop is gone, and its job was not started and never
will be. The scripting thread leaves at the depth at which it entered. -/
theorem outcome_of_wait (h₀ : s₀.Opening) (hr : Run s₀ s) {f : Wait S} {rest : List (Wait S)}
    {r : Except Error S.Reply} (hs : s.waits = f :: rest) (hf : f.stage = .leaving id r) :
    s.posted.filter (·.1 = id) = [(id, f.job)] ∧ (∀ g ∈ rest, ∀ e, g.promise? = some e → e.1 ≠ id) ∧
      (s.started.filter (·.1 = id) = [(id, f.job)] ∧ s.ended.filter (·.1 = id) = [(id, r)] ∨
        r = .error .loopGone ∧ ∀ t, Run s t → id ∉ t.started.map Prod.fst) ∧
      ∃ w, LoopRequest.leave s.world = some (.ok (), w) ∧ w.loop.depth = f.before := by
  have h := h₀.sound.run hr
  have hfits := h.fits f (hs ▸ List.mem_cons_self)
  have hnumbers := h.numbers
  have hnested := h.nested
  rw [Wait.Fits, hf] at hfits
  obtain ⟨hposted, houtcome⟩ := hfits
  rw [hs] at hnested
  rw [hs, List.filterMap_cons_some (by rw [Wait.promise?, hf])] at hnumbers
  have hown : s.posted.filter (·.1 = id) = [(id, f.job)] := filter_eq_singleton h.book.own hposted
  refine ⟨hown, fun g hg e he heq => ?_, ?_, _, rfl, ?_⟩
  · have hmem : e.1 ∈ (rest.filterMap Wait.promise?).map Prod.fst :=
      List.mem_map_of_mem (List.mem_filterMap.2 ⟨g, hg, he⟩)
    exact (List.nodup_cons.1 hnumbers).1 (heq ▸ hmem)
  · refine houtcome.imp (fun hended => ⟨?_, ?_⟩) (.imp_right fun hlost t ht => (ht.lost hlost).started)
    · -- what was started under this number was posted under it
      obtain ⟨e, he, heq⟩ := List.mem_map.1 (h.book.started_of_ended (List.mem_map_of_mem hended))
      have hmem : e ∈ s.posted.filter (·.1 = id) :=
        List.mem_filter.2 ⟨h.book.posted e (List.mem_append_right _ he), by simpa using heq⟩
      rw [hown, List.mem_singleton] at hmem
      exact filter_eq_singleton h.book.once (hmem ▸ he)
    · exact filter_eq_singleton h.book.ended_nodup hended
  · show s.world.loop.depth - 1 = f.before
    rw [hnested.1, Nat.add_sub_cancel]

/-- Jobs that are numbers, as their replies are. -/
abbrev plain : Sides := ⟨Unit, Unit, Nat, Nat⟩

/-- Two threads that have nothing to do. -/
def idle : State plain where
  world := { native := (), side := () }
  waits := []
  running := []
  posted := []
  started := []
  ended := []

lemma idle_opening : idle.Opening := ⟨rfl, rfl, rfl, rfl, rfl, rfl, rfl⟩

/-- What can be reached after a step can be reached before it. -/
lemma reached_of_step {α : Type} {r : α → α → Prop} {P : α → Prop} {a b : α} (h : r a b)
    (hr : ∃ c, Relation.ReflTransGen r b c ∧ P c) : ∃ c, Relation.ReflTransGen r a c ∧ P c :=
  hr.imp fun _ hc => ⟨.head h hc.1, hc.2⟩

/-- One job is answered, and another one is dropped by a stop. -/
theorem outcome_answered_or_lost :
    (∃ s, Run idle s ∧ s.waits = [⟨3, 0, .leaving 0 (.ok 4)⟩] ∧ s.started.filter (·.1 = 0) = [(0, 3)] ∧
      s.ended.filter (·.1 = 0) = [(0, .ok 4)]) ∧
    ∃ s, Run idle s ∧ s.waits = [⟨3, 0, .leaving 0 (.error .loopGone)⟩] ∧
      ∀ t, Run s t → 0 ∉ t.started.map Prod.fst := by
  have answered : ∃ s, Run idle s ∧ s.waits = [⟨3, 0, .leaving 0 (.ok 4)⟩] := by
    refine reached_of_step (.enter (S := plain) 3 rfl) ?_
    refine reached_of_step (.promise rfl rfl) ?_
    refine reached_of_step (.pass rfl rfl rfl) ?_
    refine reached_of_step (.push rfl rfl rfl) ?_
    refine reached_of_step (.take rfl) ?_
    refine reached_of_step (.finish (S := plain) rfl (.ok 4) rfl) ?_
    exact ⟨_, .single (.collect (S := plain) rfl rfl (.ok 4) rfl), rfl⟩
  have lost : ∃ s, Run idle s ∧ s.waits = [⟨3, 0, .leaving 0 (.error .loopGone)⟩] ∧ s.started = [] := by
    refine reached_of_step (.enter (S := plain) 3 rfl) ?_
    refine reached_of_step (.promise rfl rfl) ?_
    refine reached_of_step (.pass rfl rfl rfl) ?_
    refine reached_of_step (.push rfl rfl rfl) ?_
    refine reached_of_step (.close rfl) ?_
    refine reached_of_step (.sweep rfl) ?_
    exact ⟨_, .single (.collect rfl rfl (.error .loopGone) rfl), rfl, rfl⟩
  constructor
  · obtain ⟨s, hr, hs⟩ := answered
    obtain ⟨-, -, houtcome, -⟩ := outcome_of_wait idle_opening hr hs rfl
    exact ⟨s, hr, hs, houtcome.resolve_right fun h => nomatch h.1⟩
  · obtain ⟨s, hr, hs, hstarted⟩ := lost
    obtain ⟨-, -, houtcome, -⟩ := outcome_of_wait idle_opening hr hs rfl
    refine ⟨s, hr, hs, (houtcome.resolve_left fun h => ?_).2⟩
    rw [hstarted] at h
    cases h.1

end NativeBridge.Exchange
