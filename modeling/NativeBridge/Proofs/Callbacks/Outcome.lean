import Mathlib
import NativeBridge.Proofs.Callbacks.Machine
import NativeBridge.Proofs.Exchange.Outcome

/-!
What becomes of queued calls. They leave the queue in the order in which they came, and each settles its own promise:
with what it gave, or by being dropped unstarted. Every drain counts the calls that it took.
-/

namespace NativeBridge.Callbacks

variable {s s' s₀ : State} {c : PendingCall}

/-! ### Promises of calls -/

/-- A call with the number of its promise. -/
def keyed (c : PendingCall) : PromiseId × PendingCall := (c.promise, c)

@[simp] lemma fst_comp_keyed : Prod.fst ∘ keyed = PendingCall.promise := rfl

namespace State

/-- Calls in progress, the innermost first. -/
def running (s : State) : List PendingCall := s.stack.filterMap Frame.call?

lemma mem_running : c ∈ s.running ↔ .calling c ∈ s.stack := by
  refine List.mem_filterMap.trans ⟨?_, fun hc => ⟨_, hc, rfl⟩⟩
  rintro ⟨_ | d, hd, hcall⟩
  · cases hcall
  · obtain rfl := Option.some.inj hcall
    exact hd

/-- What is owed for calls. -/
def book (s : State) : Book PendingCall ScriptResult where
  replies := s.queue.results
  unsent := []
  queued := s.queue.pending.map keyed
  running := s.running.map keyed
  posted := s.queued.reverse.map keyed
  started := (s.left.filterMap started?).reverse.map keyed
  ended := s.ended.map fun e => (e.1.promise, ScriptDispatch.resultOf e.1.capture e.2)

end State

/-- The queue is cleared. -/
lemma book_of_clear {q : ScriptQueue} (hp : q.pending = []) (hr : q.results = s.queue.clear.results) :
    Book.Step s.book
      (State.book { s with queue := q, left := s.left ++ s.queue.pending.map fun c => (c, .dropped) }) := by
  have hbroken : s.queue.clear.results =
      (s.book.queued.map Prod.fst).foldl Promises.break_ s.book.replies := by
    simp [ScriptQueue.clear, State.book, List.foldl_map]
  have hdropped : (s.queue.pending.map fun c => (c, Fate.dropped)).filterMap started? = [] := by
    simp [List.filterMap_eq_nil_iff, started?]
  convert Book.Step.sweep s.book using 1
  simp only [State.book, State.running, hp, hr, hbroken, List.filterMap_append, hdropped, List.append_nil, List.map_nil]

/-- Each step is a step of the book, or two, or none. -/
lemma Step.book (h : Step s s') : Book.Run s.book s'.book := by
  cases h with
  | aside hp hr => simp only [State.book, State.running, hp, hr]; exact .refl
  | queue function args capture =>
    let c : PendingCall := ⟨function, args, capture, s.queue.results.made⟩
    have hqueued : (s.queue.pending ++ [c]).map keyed = s.book.queued ++ [keyed c] := List.map_append
    have hposted : (s.queued ++ [c]).reverse.map keyed = keyed c :: s.book.posted := by
      rw [List.reverse_concat, List.map_cons]
      rfl
    show Book.Run s.book { s.book with
      replies := s.queue.results.make.2
      queued := (s.queue.pending ++ [c]).map keyed
      posted := (s.queued ++ [c]).reverse.map keyed }
    rw [hqueued, hposted]
    refine .head (.promise s.book c) (.single ?_)
    exact .send rfl
  | process => exact .refl
  | @take number count rest c q hs h =>
    obtain ⟨pending, hp, rfl⟩ := ScriptQueue.eq_of_pop h
    have hqueued : s.book.queued = keyed c :: pending.map keyed := by rw [State.book, hp, List.map_cons]
    convert Relation.ReflTransGen.single (Book.Step.begin hqueued) using 1
    simp [State.book, State.running, hs, List.filterMap_cons, Frame.call?, started?]
  | @answer c rest hs r =>
    have hrunning : s.book.running = keyed c :: (rest.filterMap Frame.call?).map keyed := by
      simp [State.book, State.running, hs, Frame.call?]
    exact .single (.finish hrunning (ScriptDispatch.resultOf c.capture r))
  | @finish number count rest hs h =>
    have hsame : s.stack.filterMap Frame.call? = rest.filterMap Frame.call? := by
      rw [hs, List.filterMap_cons_none rfl]
    simp only [State.book, State.running, hsame]
    exact .refl
  | clear => exact .single (book_of_clear rfl rfl)
  | destroy => exact .single (book_of_clear rfl rfl)

/-! ### Calls and their promises -/

/-- Calls leave the queue in the order in which they came. Every one has a promise, and only those that were queued
end. -/
structure State.Sound (s : State) : Prop where
  book : s.book.Sound
  order : s.queued = s.left.map Prod.fst ++ s.queue.pending
  promised : ∀ c ∈ s.queued, s.queue.results.get? c.promise ≠ none
  queued : ∀ e ∈ s.ended, e.1 ∈ s.queued

namespace State.Sound

/-- Every call has a promise of its own. -/
lemma own (h : s.Sound) : (s.queued.map PendingCall.promise).Nodup := by
  have hown := h.book.own
  rwa [State.book, List.map_map, fst_comp_keyed, List.map_reverse, List.nodup_reverse] at hown

lemma eq_of_promise (h : s.Sound) {c d : PendingCall} (hc : c ∈ s.queued) (hd : d ∈ s.queued)
    (hcd : c.promise = d.promise) : c = d :=
  List.inj_on_of_nodup_map h.own hc hd hcd

lemma queued_of_running (h : s.Sound) (hc : .calling c ∈ s.stack) : c ∈ s.queued := by
  have hrunning : keyed c ∈ s.running.map keyed := List.mem_map_of_mem (mem_running.2 hc)
  have hposted := h.book.posted (keyed c) (List.mem_append_left _ (List.mem_append_right _ hrunning))
  obtain ⟨d, hd, hkey⟩ := List.mem_map.1 hposted
  rw [show d = c from (Prod.mk.inj hkey).2, List.mem_reverse] at hd
  exact hd

lemma step (h : s.Sound) (hs : Step s s') : s'.Sound := by
  have hbook := hs.book.sound h.book
  have hpromised (c : PendingCall) (hc : c ∈ s.queued) : s'.queue.results.get? c.promise ≠ none :=
    hs.book.get?_ne_none h.book (h.promised c hc)
  cases hs with
  | aside hp hr => exact ⟨hbook, by rw [h.order, hp], hpromised, h.queued⟩
  | queue function args capture =>
    refine ⟨hbook, by simp [h.order, ScriptQueue.push], fun c hc => ?_,
      fun e he => List.mem_append_left _ (h.queued e he)⟩
    rcases List.mem_append.1 hc with hc | hc
    · exact hpromised c hc
    · obtain rfl := List.mem_singleton.1 hc
      have hmade : s.queue.results.make.2.get? s.queue.results.made = some .pending :=
        (Promises.get?_make h.book.fresh).trans (if_pos rfl)
      exact fun hnone => nomatch hmade.symm.trans hnone
  | process => exact ⟨hbook, h.order, hpromised, h.queued⟩
  | take hs hpop =>
    obtain ⟨pending, hp, rfl⟩ := ScriptQueue.eq_of_pop hpop
    exact ⟨hbook, by simp [h.order, hp], hpromised, h.queued⟩
  | answer hs r =>
    exact ⟨hbook, h.order, hpromised, List.forall_mem_cons.2 ⟨h.queued_of_running (hs ▸ List.mem_cons_self), h.queued⟩⟩
  | finish => exact ⟨hbook, h.order, hpromised, h.queued⟩
  | clear | destroy =>
    refine ⟨hbook, ?_, hpromised, h.queued⟩
    simp [h.order, ScriptQueue.clear, ScriptQueue.renew, Function.comp_def]

lemma run (h : s.Sound) (hr : Run s s') : s'.Sound := by
  induction hr with
  | refl => exact h
  | tail _ hs ih => exact ih.step hs

end State.Sound

lemma Run.book (hr : Run s s') : Book.Run s.book s'.book := by
  induction hr with
  | refl => exact .refl
  | tail _ hs ih => exact ih.trans hs.book

lemma State.Opening.sound (h : s.Opening) : s.Sound := by
  have howing : s.book.owing = [] := by simp [State.book, Book.owing, State.running, h.pending, h.stack]
  refine ⟨.of_nothing h.results howing ?_ ?_ ?_, ?_, ?_, ?_⟩
  · simp [State.book, h.queued]
  · simp [State.book, h.left]
  · simp [State.book, h.ended]
  · simp [h.queued, h.left, h.pending]
  · simp [h.queued]
  · simp [h.ended]

lemma started_sublist (left : List (PendingCall × Fate)) :
    (left.filterMap started?).Sublist (left.map Prod.fst) := by
  induction left with
  | nil => exact .slnil
  | cons e left ih =>
    obtain ⟨c, fate⟩ := e
    cases fate with
    | started drain => exact ih.cons_cons c
    | dropped => exact ih.cons c

/-! ### What a promise says of its call -/

namespace State.Sound

/-- A call that was started is one under the number of its promise. -/
lemma started_iff (h : s.Sound) (hc : c ∈ s.queued) :
    c.promise ∈ s.book.started.map Prod.fst ↔ ∃ drain, (c, .started drain) ∈ s.left := by
  simp only [State.book, List.map_map, fst_comp_keyed, List.mem_map, List.mem_reverse, List.mem_filterMap]
  constructor
  · rintro ⟨d, ⟨⟨d', fate⟩, he, hd⟩, hcd⟩
    cases fate with
    | dropped => cases hd
    | started drain =>
      obtain rfl := Option.some.inj hd
      have hqueued : d' ∈ s.queued := h.order ▸ List.mem_append_left _ (List.mem_map_of_mem he)
      exact ⟨drain, h.eq_of_promise hqueued hc hcd ▸ he⟩
  · rintro ⟨drain, he⟩
    exact ⟨c, ⟨_, he, rfl⟩, rfl⟩

/-- A call waits or runs if a call under the number of its promise does. -/
lemma owing_iff (h : s.Sound) (hc : c ∈ s.queued) :
    c.promise ∈ s.book.owing.map Prod.fst ↔ c ∈ s.queue.pending ∨ .calling c ∈ s.stack := by
  have howing : s.book.owing.map Prod.fst = (s.queue.pending ++ s.running).map PendingCall.promise := by
    simp [State.book, Book.owing, Function.comp_def, keyed]
  rw [howing, List.mem_map]
  simp only [List.mem_append, mem_running]
  constructor
  · rintro ⟨d, hd, hcd⟩
    have hqueued : d ∈ s.queued := hd.elim (fun hd => h.order ▸ List.mem_append_right _ hd) h.queued_of_running
    exact h.eq_of_promise hqueued hc hcd ▸ hd
  · exact fun hd => ⟨c, hd, rfl⟩

/-- A call that left the queue does not wait. -/
lemma not_waiting_of_left (h : s.Sound) {fate : Fate} (hc : (c, fate) ∈ s.left) : c ∉ s.queue.pending := by
  have hnodup := h.own.of_map
  rw [h.order, List.nodup_append] at hnodup
  exact fun hp => hnodup.2.2 c (List.mem_map_of_mem hc) c hp rfl

/-- A call leaves the queue once. -/
lemma left_once (h : s.Sound) {fate fate' : Fate} (hc : (c, fate) ∈ s.left) (hc' : (c, fate') ∈ s.left) :
    fate = fate' := by
  have hnodup := h.own.of_map
  rw [h.order, List.nodup_append] at hnodup
  exact (Prod.mk.inj (List.inj_on_of_nodup_map hnodup.1 hc hc' rfl)).2

lemma pending_iff (h : s.Sound) (hc : c ∈ s.queued) :
    s.queue.results.Pending c.promise ↔ c ∈ s.queue.pending ∨ .calling c ∈ s.stack :=
  (h.book.owed c.promise).trans (h.owing_iff hc)

lemma kept_iff (h : s.Sound) (hc : c ∈ s.queued) (r : ScriptResult) :
    s.queue.results.get? c.promise = some (.kept r) ↔
      ∃ v, (c, v) ∈ s.ended ∧ r = ScriptDispatch.resultOf c.capture v := by
  constructor
  · intro hkept
    obtain ⟨⟨d, v⟩, he, hd⟩ := List.mem_map.1 (h.book.kept c.promise r hkept)
    obtain ⟨hcd, hr⟩ := Prod.mk.inj hd
    obtain rfl := h.eq_of_promise (h.queued (d, v) he) hc hcd
    exact ⟨v, he, hr.symm⟩
  · rintro ⟨v, he, rfl⟩
    exact h.book.kept_of_ended (h.promised c hc) (List.mem_map_of_mem he)

/-- The promise of a call is kept with a value if the call gave one. -/
lemma kept_ok_iff (h : s.Sound) (hc : c ∈ s.queued) (v : Value) :
    s.queue.results.get? c.promise = some (.kept (.ok v)) ↔
      ∃ u, (c, .ok u) ∈ s.ended ∧ v = if c.capture then u else .undefined := by
  rw [h.kept_iff hc]
  constructor
  · rintro ⟨u | u, he, hv⟩
    · cases hv
    · exact ⟨u, he, Except.ok.inj hv⟩
  · rintro ⟨u, he, rfl⟩
    exact ⟨.ok u, he, rfl⟩

/-- The promise of a call is kept with a text if the call ended with an error. -/
lemma kept_error_iff (h : s.Sound) (hc : c ∈ s.queued) (text : Bytes) :
    s.queue.results.get? c.promise = some (.kept (.error text)) ↔ ∃ e site, (c, .error ⟨e, site⟩) ∈ s.ended ∧
      text = Bytes.untilNul (if e.kind = .foreign then e.message else site.report e.message) := by
  rw [h.kept_iff hc]
  constructor
  · rintro ⟨⟨e, site⟩ | u, he, htext⟩
    · exact ⟨e, site, he, Except.error.inj htext⟩
    · cases htext
  · rintro ⟨e, site, he, rfl⟩
    exact ⟨.error ⟨e, site⟩, he, rfl⟩

lemma broken_iff (h : s.Sound) (hc : c ∈ s.queued) :
    s.queue.results.get? c.promise = some .broken ↔ (c, .dropped) ∈ s.left := by
  constructor
  · intro hbroken
    have hleft : c ∈ s.left.map Prod.fst := by
      rw [h.order, List.mem_append] at hc
      refine hc.resolve_right fun hp => ?_
      cases hbroken.symm.trans ((h.pending_iff (h.order ▸ List.mem_append_right _ hp)).2 (.inl hp))
    obtain ⟨⟨d, fate⟩, he, rfl⟩ := List.mem_map.1 hleft
    cases fate with
    | started drain => exact (h.book.broken _ hbroken ((h.started_iff hc).2 ⟨drain, he⟩)).elim
    | dropped => exact he
  · intro he
    have hstarted : c.promise ∉ s.book.started.map Prod.fst := fun hs => by
      obtain ⟨drain, he'⟩ := (h.started_iff hc).1 hs
      cases h.left_once he he'
    refine h.book.broken_of_gone (h.promised c hc) (fun howing => ?_) hstarted
    rcases (h.owing_iff hc).1 howing with hp | hrunning
    · exact h.not_waiting_of_left he hp
    · have hkey : keyed c ∈ s.book.running := List.mem_map_of_mem (mem_running.2 hrunning)
      exact hstarted (h.book.begun.mem_iff.2 (List.mem_append_left _ (List.mem_map_of_mem hkey)))

end State.Sound

/-! ### Counts of drains -/

namespace State

/-- Calls that a drain has started. -/
def taken (s : State) (drain : Nat) : Nat := s.left.countP (·.2 = .started drain)

/-- Drains in progress and drains that have returned, with their counts. -/
def tallies (s : State) : List (Nat × Nat) := s.stack.filterMap Frame.drain? ++ s.returned

lemma tallies_of_draining {number count : Nat} {rest : List Frame} (hs : s.stack = .draining number count :: rest) :
    s.tallies = (number, count) :: (rest.filterMap Frame.drain? ++ s.returned) := by
  rw [tallies, hs]
  rfl

/-- Each drain has its own number, and counts the calls that it has started. -/
structure Counted (s : State) : Prop where
  numbers : (s.tallies.map Prod.fst).Nodup
  begun : ∀ e ∈ s.tallies, e.1 < s.drains
  starts : ∀ e ∈ s.left, ∀ drain, e.2 = .started drain → drain < s.drains
  counts : ∀ e ∈ s.tallies, e.2 = s.taken e.1

namespace Counted

lemma of_perm (h : s.Counted) (ht : s'.tallies.Perm s.tallies) (hd : s'.drains = s.drains) (hl : s'.left = s.left) :
    s'.Counted := by
  refine ⟨(ht.map Prod.fst).nodup_iff.2 h.numbers, fun e he => ?_, ?_, fun e he => ?_⟩
  · rw [hd]
    exact h.begun e (ht.mem_iff.1 he)
  · rw [hl, hd]
    exact h.starts
  · rw [taken, hl]
    exact h.counts e (ht.mem_iff.1 he)

lemma process (h : s.Counted) :
    Counted { s with stack := .draining s.drains 0 :: s.stack, drains := s.drains + 1 } := by
  refine ⟨?_, ?_, fun e he drain hdrain => (h.starts e he drain hdrain).trans (Nat.lt_succ_self _), ?_⟩
  · refine List.nodup_cons.2 ⟨fun hmem => ?_, h.numbers⟩
    obtain ⟨e, he, heq⟩ := List.mem_map.1 hmem
    exact (h.begun e he).ne heq
  · exact List.forall_mem_cons.2 ⟨Nat.lt_succ_self _, fun e he => (h.begun e he).trans (Nat.lt_succ_self _)⟩
  · refine List.forall_mem_cons.2 ⟨?_, h.counts⟩
    refine (List.countP_eq_zero.2 fun e he hdrain => ?_).symm
    exact (h.starts e he s.drains (of_decide_eq_true hdrain)).ne rfl

lemma take (h : s.Counted) {number count : Nat} {rest : List Frame} (hs : s.stack = .draining number count :: rest)
    (q : ScriptQueue) (c : PendingCall) :
    Counted { s with
      queue := q
      stack := .calling c :: .draining number (count + 1) :: rest
      left := s.left ++ [(c, .started number)] } := by
  obtain ⟨hnumbers, hbegun, hstarts, hcounts⟩ := h
  rw [tallies_of_draining hs] at hnumbers hbegun hcounts
  rw [List.forall_mem_cons] at hbegun hcounts
  have hmore (drain : Nat) : State.taken { s with left := s.left ++ [(c, .started number)] } drain =
      s.taken drain + if number = drain then 1 else 0 := by
    simp [taken, List.countP_append, List.countP_cons]
  refine ⟨hnumbers, List.forall_mem_cons.2 hbegun, ?_, List.forall_mem_cons.2 ⟨?_, fun e he => ?_⟩⟩
  · rw [List.forall_mem_append, List.forall_mem_singleton]
    refine ⟨hstarts, fun drain hdrain => ?_⟩
    cases hdrain
    exact hbegun.1
  · refine Eq.trans ?_ (hmore number).symm
    rw [if_pos rfl, ← hcounts.1]
  · -- no other drain has started the call
    have hother : number ≠ e.1 := fun heq => (List.nodup_cons.1 hnumbers).1 (List.mem_map.2 ⟨e, he, heq.symm⟩)
    refine Eq.trans ?_ (hmore e.1).symm
    rw [if_neg hother, hcounts.2 e he, Nat.add_zero]

lemma clear (h : s.Counted) (q : ScriptQueue) (cs : List PendingCall) :
    Counted { s with queue := q, left := s.left ++ cs.map fun c => (c, .dropped) } := by
  refine ⟨h.numbers, h.begun, ?_, fun e he => ?_⟩
  · rw [List.forall_mem_append]
    refine ⟨h.starts, fun e he drain hdrain => ?_⟩
    obtain ⟨c, -, rfl⟩ := List.mem_map.1 he
    cases hdrain
  · simp [taken, List.countP_append, List.countP_map, Function.comp_def, h.counts e he]

lemma step (h : s.Counted) (hs : Step s s') : s'.Counted := by
  cases hs with
  | aside => exact h.of_perm (.refl _) rfl rfl
  | queue => exact h.of_perm (.refl _) rfl rfl
  | process => exact h.process
  | take hs => exact h.take hs _ _
  | answer hs => exact h.of_perm (by simp [tallies, hs, Frame.drain?, List.filterMap_cons]) rfl rfl
  | finish hs =>
    refine h.of_perm ?_ rfl rfl
    rw [tallies_of_draining hs]
    exact List.perm_middle
  | clear => exact h.clear _ _
  | destroy => exact h.clear _ _

lemma run (h : s.Counted) (hr : Run s s') : s'.Counted := by
  induction hr with
  | refl => exact h
  | tail _ hs ih => exact ih.step hs

end Counted

lemma Opening.counted (h : s.Opening) : s.Counted := by
  have hnone : s.tallies = [] := by simp [tallies, h.stack, h.returned]
  refine ⟨by simp [hnone], by simp [hnone], by simp [h.left], by simp [hnone]⟩

end State

/-- Where nothing has both properties, what has one of them is counted by the one or by the other. -/
lemma countP_or {α : Type} {p q : α → Prop} [DecidablePred p] [DecidablePred q] (h : ∀ a, p a → ¬q a) (l : List α) :
    (l.countP fun a => p a ∨ q a) = l.countP (p ·) + l.countP (q ·) := by
  induction l with
  | nil => rfl
  | cons a l ih =>
    rw [List.countP_cons, List.countP_cons, List.countP_cons, ih]
    by_cases hp : p a
    · simp only [hp, h a hp, true_or, decide_true, decide_false, if_true, Bool.false_eq_true, if_false]
      omega
    · simp only [hp, false_or, decide_false, Bool.false_eq_true, if_false]
      omega

/-- The counts of several drains add up to the calls that one of them has started. -/
lemma sum_taken {ds : List (Nat × Nat)} (hd : (ds.map Prod.fst).Nodup) (hcount : ∀ d ∈ ds, d.2 = s.taken d.1) :
    (ds.map Prod.snd).sum = s.left.countP fun e => ∃ d ∈ ds, e.2 = .started d.1 := by
  induction ds with
  | nil => simp
  | cons d ds ih =>
    rw [List.map_cons, List.nodup_cons] at hd
    rw [List.forall_mem_cons] at hcount
    have hone (e : PendingCall × Fate) (he : e.2 = .started d.1) : ¬∃ d ∈ ds, e.2 = .started d.1 := by
      rintro ⟨d', hd', he'⟩
      refine hd.1 (List.mem_map.2 ⟨d', hd', ?_⟩)
      exact Fate.started.inj (he'.symm.trans he)
    simp only [List.map_cons, List.sum_cons, ih hd.2 hcount.2, hcount.1, State.taken, List.exists_mem_cons_iff]
    exact (countP_or hone s.left).symm

/-! ### At any time -/

/-- **Calls settle their promises once.** Calls leave the queue in the order in which they came, each once, and so they
start in that order. Each has a promise of its own: it is pending while the call waits or runs, and it is broken if the
call was dropped unstarted and only then. It is kept with the value that the call gave, or with undefined where the value
was not wanted; if the call ended with an error, it is kept with what that says of itself: an error of the bridge gives a
report with its message, any other its text, and both end before the first NUL. Once settled it stays as it is. Each
drain that has returned gave the number of calls that it took, and together they took that many. -/
theorem calls_settle_once (h₀ : s₀.Opening) (hr : Run s₀ s) :
    (s.queued = s.left.map Prod.fst ++ s.queue.pending ∧ (s.left.filterMap started?).Sublist s.queued ∧
      (s.queued.map PendingCall.promise).Nodup) ∧
    (∀ c ∈ s.queued,
      s.queue.results.get? c.promise ≠ none ∧
      (s.queue.results.get? c.promise = some .pending ↔ c ∈ s.queue.pending ∨ .calling c ∈ s.stack) ∧
      (∀ v, s.queue.results.get? c.promise = some (.kept (.ok v)) ↔
        ∃ u, (c, .ok u) ∈ s.ended ∧ v = if c.capture then u else .undefined) ∧
      (∀ text, s.queue.results.get? c.promise = some (.kept (.error text)) ↔ ∃ e site, (c, .error ⟨e, site⟩) ∈ s.ended ∧
        text = Bytes.untilNul (if e.kind = .foreign then e.message else site.report e.message)) ∧
      (s.queue.results.get? c.promise = some .broken ↔ (c, .dropped) ∈ s.left) ∧
      ∀ p s', s.queue.results.get? c.promise = some p → p ≠ .pending → Run s s' →
        s'.queue.results.get? c.promise = some p) ∧
    (∀ d ∈ s.returned, d.2 = s.left.countP (·.2 = .started d.1)) ∧
    (s.returned.map Prod.snd).sum = s.left.countP fun e => ∃ d ∈ s.returned, e.2 = .started d.1 := by
  have h := h₀.sound.run hr
  obtain ⟨hnumbers, -, -, hcounts⟩ := h₀.counted.run hr
  have hreturned : s.returned.Sublist s.tallies := List.sublist_append_right _ _
  have hcount : ∀ d ∈ s.returned, d.2 = s.taken d.1 := fun d hd => hcounts d (hreturned.subset hd)
  refine ⟨⟨h.order, ?_, h.own⟩, fun c hc => ?_, hcount, sum_taken (hnumbers.sublist (hreturned.map _)) hcount⟩
  · rw [h.order]
    exact (started_sublist s.left).trans (List.sublist_append_left _ _)
  · exact ⟨h.promised c hc, h.pending_iff hc, h.kept_ok_iff hc, h.kept_error_iff hc, h.broken_iff hc,
      fun p s' hp hsettled hr' => hr'.book.get?_settled h.book hp hsettled⟩

/-- A new queue, and nobody who drains it. -/
def untouched : State where
  queue := {}
  stack := []
  queued := []
  left := []
  ended := []
  drains := 0
  returned := []

lemma untouched_opening : untouched.Opening := ⟨rfl, rfl, rfl, rfl, rfl, rfl, rfl⟩

/-- A call of the first script function. -/
abbrev callOf (capture : Bool) (promise : PromiseId) : PendingCall := ⟨some 1, [], capture, promise⟩

/-- Where a script function has raised an error. -/
def inScript : Site where
  file := .ofString "script.cpp"
  line := 7
  function := .ofString "call"
  thread := .ofString "1"
  frames := [.ofString "main"]

/-- What the report says of an empty callback that was raised there. -/
def emptyCallbackText : Bytes :=
  .ofString "Exception occurred:\n  File: script.cpp\n  Line: 7\n  Function: call()\n  Thread ID: 1\n"
    ++ .ofString "  Message: Empty callback\n  Stack trace:\n\t[0] main\n"

/-- Within the first call two others are run, of which the first one throws; the last call is dropped by a clearing. -/
def settled (site : Site) : State where
  queue :=
    { results :=
        ⟨[(0, .kept (.ok .undefined)), (1, .kept (.error (Error.emptyCallback.what site))), (2, .kept (.ok .null)),
          (3, .broken)], 4⟩ }
  stack := []
  queued := [callOf false 0, callOf true 1, callOf true 2, callOf true 3]
  left :=
    [(callOf false 0, .started 0), (callOf true 1, .started 1), (callOf true 2, .started 1), (callOf true 3, .dropped)]
  ended := [(callOf false 0, .ok .null), (callOf true 2, .ok .null), (callOf true 1, .error ⟨.emptyCallback, site⟩)]
  drains := 2
  returned := [(0, 1), (1, 2)]

lemma run_settled (site : Site) : Run untouched (settled site) := by
  have hr : ∃ s, Run untouched s ∧ s = settled site := by
    refine Exchange.reached_of_step (.queue (some 1) [] false) ?_
    refine Exchange.reached_of_step (.queue (some 1) [] true) ?_
    refine Exchange.reached_of_step (.queue (some 1) [] true) ?_
    refine Exchange.reached_of_step (.process (.inl rfl)) ?_
    refine Exchange.reached_of_step (.take rfl rfl) ?_
    refine Exchange.reached_of_step (.process (.inr ⟨_, _, rfl⟩)) ?_
    refine Exchange.reached_of_step (.take rfl rfl) ?_
    refine Exchange.reached_of_step (.answer rfl (.error ⟨.emptyCallback, site⟩)) ?_
    refine Exchange.reached_of_step (.take rfl rfl) ?_
    refine Exchange.reached_of_step (.answer rfl (.ok .null)) ?_
    refine Exchange.reached_of_step (.finish rfl rfl) ?_
    refine Exchange.reached_of_step (.queue (some 1) [] true) ?_
    refine Exchange.reached_of_step .clear ?_
    refine Exchange.reached_of_step (.answer rfl (.ok .null)) ?_
    exact ⟨_, .single (.finish rfl rfl), rfl⟩
  obtain ⟨_, hr, rfl⟩ := hr
  exact hr

/-- Of three calls that give null or throw, the promise of the first one is kept with undefined, since nobody wants its
value, the next one has the report of its error, and the third one its value. -/
theorem calls_settle_once_within_call :
    Run untouched (settled inScript) ∧
      (settled inScript).queue.results.get? 0 = some (.kept (.ok .undefined)) ∧
      (settled inScript).queue.results.get? 1 = some (.kept (.error emptyCallbackText)) ∧
      (settled inScript).queue.results.get? 2 = some (.kept (.ok .null)) ∧
      (settled inScript).queue.results.get? 3 = some .broken ∧
      ((settled inScript).returned.map Prod.snd).sum = 3 := by
  have htext : Error.emptyCallback.what inScript = emptyCallbackText := by decide +kernel
  have hr := run_settled inScript
  obtain ⟨-, hcalls, -, hsum⟩ := calls_settle_once untouched_opening hr
  refine ⟨hr, ?_, ?_, ?_, ?_, hsum.trans rfl⟩
  · exact ((hcalls (callOf false 0) (by simp [settled])).2.2.1 _).2 ⟨.null, by simp [settled], rfl⟩
  · rw [← htext]
    exact ((hcalls (callOf true 1) (by simp [settled])).2.2.2.1 _).2
      ⟨.emptyCallback, inScript, by simp [settled], rfl⟩
  · exact ((hcalls (callOf true 2) (by simp [settled])).2.2.1 _).2 ⟨.null, by simp [settled], rfl⟩
  · exact (hcalls (callOf true 3) (by simp [settled])).2.2.2.2.1.2 (by simp [settled])

end NativeBridge.Callbacks
