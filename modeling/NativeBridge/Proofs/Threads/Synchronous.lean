import NativeBridge.Proofs.Identity
import NativeBridge.Proofs.Threads.Progress

/-!
Callbacks of a request. The scripting thread waits for a request as long as it runs, so its callbacks are left to that
wait, and native code goes on only when they have been run.
-/

namespace NativeBridge.Exchange

open Eff

variable {S : Sides} {s s' s₀ : State S} {f : Wait S} {rest : List (Wait S)} {id : PromiseId}

/-- The promise of a wait that does not have what it waits for. -/
def Wait.open? (f : Wait S) : Option PromiseId :=
  match f.stage with
  | .promised id | .admitted id | .waiting id => some id
  | _ => none

/-- Whatever was promised and not collected has a wait. -/
def State.Attended (s : State S) : Prop := ∀ id, s.world.replies.get? id ≠ none → ∃ f ∈ s.waits, f.open? = some id

namespace State.Attended

/-- A step that moves no wait and makes no promise. -/
lemma onward (h : s.Attended) (hw : s'.waits = s.waits)
    (hr : ∀ id, s.world.replies.get? id = none → s'.world.replies.get? id = none) : s'.Attended :=
  fun id hid => hw ▸ h id (mt (hr id) hid)

/-- What was promised, and not to the innermost wait, has a wait around that one. -/
lemma outer (h : s.Attended) (hs : s.waits = f :: rest) (hid : s.world.replies.get? id ≠ none)
    (hne : f.open? ≠ some id) : ∃ g ∈ rest, g.open? = some id := by
  obtain ⟨g, hg, hopen⟩ := h id hid
  rcases List.mem_cons.1 (hs ▸ hg) with rfl | hg
  · exact (hne hopen).elim
  · exact ⟨g, hg, hopen⟩

/-- A step that moves the innermost wait on with its promise. -/
lemma move (h : s.Attended) (hs : s.waits = f :: rest) {stage : Stage S} (hw : s'.waits = { f with stage } :: rest)
    (hopen : ({ f with stage } : Wait S).open? = f.open?)
    (hr : ∀ id, s.world.replies.get? id = none → s'.world.replies.get? id = none) : s'.Attended := by
  intro id hid
  rw [hw]
  by_cases hf : f.open? = some id
  · exact ⟨_, List.mem_cons_self, hopen.trans hf⟩
  · obtain ⟨g, hg, hgopen⟩ := h.outer hs (mt (hr id) hid) hf
    exact ⟨g, List.mem_cons_of_mem _ hg, hgopen⟩

lemma step (h : s.Attended) (hsound : s.Sound) (hs : Step s s') : s'.Attended := by
  have settled {r : Promises (Except Error S.Reply)} {p : Promise (Except Error S.Reply)} (id k : PromiseId)
      (hk : r.get? k = none) : (r.settle id p).get? k = none :=
    (Promises.get?_settle_of_not_pending (Promises.not_pending_of_none hk)).trans hk
  cases hs with
  | aside hw => exact h.onward rfl fun id hid => hw.replies ▸ hid
  | send t ht hx => exact h.onward rfl fun id hid => (schedule_loop ht hx).2.2 ▸ hid
  | enter j hx =>
    cases hx
    exact fun id hid => (h id hid).imp fun f hf => ⟨List.mem_cons_of_mem _ hf.1, hf.2⟩
  | @promise f rest hs hf =>
    intro id hid
    have hfresh : s.world.replies.Fresh := hsound.book.fresh
    dsimp only at hid
    rw [Promises.get?_make hfresh] at hid
    split at hid
    next hnew => exact ⟨_, List.mem_cons_self, by rw [hnew]; rfl⟩
    next =>
      obtain ⟨g, hg, hopen⟩ := h.outer hs hid (by rw [Wait.open?, hf]; exact nofun)
      exact ⟨g, List.mem_cons_of_mem _ hg, hopen⟩
  | pass hs hf => exact h.move hs rfl (by rw [Wait.open?, Wait.open?, hf]) fun _ hk => hk
  | refuse hs hf _ hx =>
    exact h.move hs rfl (by rw [Wait.open?, Wait.open?, hf]) fun k hk => (refuse_loop hx).2.2 ▸ settled _ k hk
  | push hs hf hx =>
    obtain ⟨q, rfl, -⟩ := LoopDispatch.accept_eq hx
    exact h.move hs rfl (by rw [Wait.open?, Wait.open?, hf]) fun _ hk => hk
  | @collect w f rest id hs hf r hx =>
    obtain ⟨rfl, -, -⟩ := LoopRequest.collect_some hx
    intro k hk
    dsimp only at hk
    rw [Promises.get?_forget] at hk
    split at hk
    next => exact (hk rfl).elim
    next hne =>
      have hother : f.open? ≠ some k := by
        rw [Wait.open?, hf]
        exact fun h => hne (Option.some.inj h).symm
      obtain ⟨g, hg, hopen⟩ := h.outer hs hk hother
      exact ⟨g, List.mem_cons_of_mem _ hg, hopen⟩
  | leave hs hf hx =>
    cases hx
    exact fun id hid => h.outer hs hid (by rw [Wait.open?, hf]; exact nofun)
  | take hx =>
    obtain ⟨_, -, rfl⟩ := LoopDispatch.take_some hx
    exact h.onward rfl fun _ hid => hid
  | done => exact h.onward rfl fun _ hid => hid
  | finish _ r hx =>
    cases hx
    exact h.onward rfl fun k hk => settled _ k hk
  | close hx =>
    cases hx
    exact h.onward rfl fun _ hid => hid
  | sweep hx =>
    refine h.onward rfl fun k hk => ?_
    rw [(sweep_loop hx).2.2, Promises.get?_breakAll_of_not_pending _ (Promises.not_pending_of_none hk), hk]

lemma run (h : s.Attended) (hsound : s.Sound) (hr : Run s s') : s'.Attended := by
  induction hr with
  | refl => exact h
  | tail hr hs ih => exact ih.step (hsound.run hr) hs

end State.Attended

lemma State.Opening.attended (h : s.Opening) : s.Attended := by
  intro id hid
  rw [Promises.get?, h.replies] at hid
  exact (hid rfl).elim

end NativeBridge.Exchange

namespace NativeBridge.Threads

open Eff Bridge

variable {Native Script : Type} {s s' s₀ t u : State Native Script} {id promise : PromiseId} {j : Request}
  {base : List LoopFrame}

/-! ### The wait for a request -/

/-- The scripting thread is in the wait for the reply to that request. -/
def State.WaitsFor (s : State Native Script) (promise : PromiseId) (j : Request) : Prop :=
  .waiting promise j ∈ s.script ∨ .draining promise j ∈ s.script

lemma exists_matches_of_mem {script : List ScriptFrame} {waits : List (Exchange.Wait (Bridge.sides Native Script))}
    (h : List.Forall₂ Matches script waits) {g : Exchange.Wait (Bridge.sides Native Script)} (hg : g ∈ waits) :
    ∃ f ∈ script, Matches f g := by
  induction h with
  | nil => cases hg
  | cons hf _ ih =>
    rcases List.mem_cons.1 hg with rfl | hg
    · exact ⟨_, List.mem_cons_self, hf⟩
    · obtain ⟨f, hmem, hf⟩ := ih hg
      exact ⟨f, List.mem_cons_of_mem _ hmem, hf⟩

/-- As long as a request runs, the scripting thread waits for it. -/
lemma waitsFor_of_running (h₀ : s₀.Started) (hr : Run s₀ s) (hj : .task (.request promise j) ∈ s.loop) :
    s.WaitsFor promise j := by
  obtain ⟨e, hrun, hshows⟩ := h₀.shows.run hr
  have hsound := h₀.opens.sound.run hrun
  have hattended := h₀.opens.attended.run h₀.opens.sound hrun
  have howing : (promise, j) ∈ e.book.owing := by
    refine List.mem_append_right _ ?_
    rw [Exchange.State.book, hshows.running]
    exact List.mem_filterMap.2 ⟨_, List.mem_filterMap.2 ⟨_, hj, rfl⟩, rfl⟩
  have hpending : e.world.replies.Pending promise := (hsound.book.owed _).2 (List.mem_map_of_mem howing)
  obtain ⟨g, hg, hopen⟩ := hattended promise (by rw [hpending]; exact Option.some_ne_none _)
  obtain ⟨f, hf, hmatch⟩ := exists_matches_of_mem hshows.waits hg
  have hf := List.mem_of_mem_filter hf
  -- the wait is for this job, since each promise was made for one
  have hjob {k : Request} (hk : (promise, k) ∈ e.posted) : k = j := by
    have hposted := hsound.book.posted _ (List.mem_append_left _ howing)
    exact (Prod.mk.inj (List.inj_on_of_nodup_map hsound.book.own hk hposted rfl)).2
  cases hmatch with
  | entered | leaving => cases hopen
  | waiting id k =>
    cases hopen
    exact .inl (hjob ((hsound.fits _ hg).posted rfl) ▸ hf)
  | draining id k =>
    cases hopen
    exact .inr (hjob ((hsound.fits _ hg).posted rfl) ▸ hf)

lemma State.WaitsFor.waits (h : s.WaitsFor promise j) : s.Waits := by
  rcases h with h | h
  · exact ⟨_, h, rfl⟩
  · exact ⟨_, h, rfl⟩

/-! ### The wait for a callback -/

/-- Native code at `base` waits for the result of a call that was left to the scripting thread. -/
def State.Holds (s : State Native Script) (id : PromiseId) (base : List LoopFrame) : Prop :=
  ∃ above, s.loop = above ++ .waiting id true :: base ∨ s.loop = above ++ .serving id true :: base

lemma State.Holds.length_lt (h : s.Holds id base) : base.length < s.loop.length := by
  obtain ⟨above, hs | hs⟩ := h
  · rw [hs, List.length_append, List.length_cons]
    omega
  · rw [hs, List.length_append, List.length_cons]
    omega

/-- The run of a call ends with the step from `s` to `s'`. -/
inductive Answers : State Native Script → PromiseId → State Native Script → Prop where
  | mk {s : State Native Script} {w : World (Bridge.sides Native Script)} {call : PendingCall}
      {rest : List ScriptFrame} (hs : s.script = .calling call :: rest) (r : Except Raised Value)
      (hx : ScriptDispatch.settle call r s.world = some (.ok (), w)) :
      Answers s call.promise { s with world := w, script := rest }

/-- Between `u` and `s` the scripting thread has run the call to its end. -/
def Ran (u : State Native Script) (id : PromiseId) (s : State Native Script) : Prop :=
  ∃ t t', Run u t ∧ Answers t id t' ∧ Run t' s

/-- Only the innermost frame of the loop thread moves. -/
lemma LoopStep.beneath {f : LoopFrame} {rest : List LoopFrame} (h : LoopStep s s') (hs : s.loop = f :: rest) :
    ∃ above, s'.loop = above ++ rest := by
  cases h with
  | work => exact ⟨[f], hs⟩
  | begin hnil | handle hnil | leave hnil => cases hs.symm.trans hnil
  | handled hs' | batched hs' | ended hs' =>
    cases hs.symm.trans hs'
    exact ⟨[], rfl⟩
  | serve => exact ⟨[_, f], congrArg _ hs⟩
  | done hs' | finish hs' | stop hs' | result hs' =>
    cases hs.symm.trans hs'
    exact ⟨[], rfl⟩
  | served hs' | announce hs' | miss hs' =>
    cases hs.symm.trans hs'
    exact ⟨[_], rfl⟩
  | fire h =>
    cases h
    exact ⟨[_, f], congrArg _ hs⟩
  | queue h =>
    cases h with
    | mk hs' =>
      cases hs.symm.trans hs'
      exact ⟨[_], rfl⟩

/-- Native code goes on only when the call is answered. -/
lemma LoopStep.holds (h : LoopStep s s') (hh : s.Holds id base) (hu : s.calls.Unanswered id) : s'.Holds id base := by
  obtain ⟨_ | ⟨f, above⟩, hs⟩ := hh
  · -- the wait is at the innermost
    cases h with
    | serve => exact ⟨[_], hs.imp (congrArg _) (congrArg _)⟩
    | miss hs' =>
      rcases hs with hs | hs <;> cases hs.symm.trans hs'
      exact ⟨[], .inr rfl⟩
    | served hs' =>
      rcases hs with hs | hs <;> cases hs.symm.trans hs'
      exact ⟨[], .inl rfl⟩
    | result hs' hr hx =>
      rcases hs with hs | hs <;> cases hs.symm.trans hs'
      exact ((ScriptDispatch.collect_result hr hx).1 hu).elim
    | work hs' hf =>
      rcases hs with hs | hs <;> cases hs.symm.trans hs' <;> cases hf
    | fire h =>
      cases h with
      | mk hs' hf =>
        rcases hs with hs | hs <;> cases hs.symm.trans hs' <;> cases hf
    | queue h =>
      cases h with
      | mk hs' => rcases hs with hs | hs <;> cases hs.symm.trans hs'
    | begin hs' | handle hs' | handled hs' | batched hs' | done hs' | finish hs' | stop hs' | announce hs' | leave hs'
    | ended hs' =>
      rcases hs with hs | hs <;> cases hs.symm.trans hs'
  · rcases hs with hs | hs
    · obtain ⟨top, htop⟩ := h.beneath hs
      exact ⟨top ++ above, .inl (htop.trans (List.append_assoc ..).symm)⟩
    · obtain ⟨top, htop⟩ := h.beneath hs
      exact ⟨top ++ above, .inr (htop.trans (List.append_assoc ..).symm)⟩

/-- A call is answered by the end of its own run. -/
lemma ScriptStep.answers (h : ScriptStep s s') (hs : s.Sound) (hu : s.calls.Unanswered id)
    (ha : ¬s'.calls.Unanswered id) : Answers s id s' := by
  have unchanged (hq : s'.world.script.results = s.world.script.results) : Answers s id s' := by
    rw [Calls.Unanswered, State.calls, hq] at ha
    exact (ha hu).elim
  cases h with
  | @answer w call rest hs r hx =>
    have hid : id = call.promise := by
      by_contra hne
      cases hx
      exact ha ((Promises.pending_keep _).2 ⟨hu, hne⟩)
    exact hid ▸ .mk hs r hx
  | join _ he =>
    have hwaited := hs.calls.waited id hu
    rw [Calls.awaited, State.calls, hs.ended he] at hwaited
    cases hwaited
  | work _ hw => exact unchanged (by rw [hw.script])
  | drop _ id hx => exact unchanged (by rw [(Apart.schedule (t := .remove id) (by simp) hx).script])
  | enter _ _ _ hx | leave _ hx => cases hx; exact unchanged rfl
  | send _ hx => exact unchanged (by rw [(Apart.post _ hx).script])
  | miss _ hx | reply _ hx | refusal _ hx => exact unchanged (by rw [(Apart.collect _ hx).script])
  | poll => exact unchanged rfl
  | wake _ hx =>
    obtain ⟨_, _, -, rfl, -⟩ := ScriptDispatch.deliver_some hx
    exact unchanged rfl
  | take _ _ hx =>
    obtain ⟨_, -, rfl⟩ := ScriptDispatch.take_some hx
    exact unchanged rfl
  | drained _ hx | polled _ hx =>
    obtain ⟨-, rfl⟩ := ScriptDispatch.take_none hx
    exact unchanged rfl

/-- From then on native code waits for the call, until the scripting thread has run it to its end. -/
lemma holds_or_ran (hs : u.Sound) (hh : u.Holds id base) (hu : u.calls.Unanswered id) (hr : Run u s) :
    s.Holds id base ∧ s.calls.Unanswered id ∨ Ran u id s := by
  induction hr with
  | refl => exact .inl ⟨hh, hu⟩
  | @tail s s' hr hstep ih =>
    rcases ih with ⟨hh, hu⟩ | ⟨t, t', hrun, ha, hrun'⟩
    · rcases hstep with hstep | hstep
      · by_cases hu' : s'.calls.Unanswered id
        · exact .inl ⟨hh.imp fun _ hl => hstep.loop ▸ hl, hu'⟩
        · exact .inr ⟨s, s', hr, hstep.answers (hs.run hr) hu hu', .refl⟩
      · refine .inl ⟨hstep.holds hh hu, ?_⟩
        rcases hstep.calls with hc | hc
        · exact hc ▸ hu
        · exact (hc.unanswered_iff (hs.run hr).calls id).2 (.inl hu)
    · exact .inr ⟨t, t', hrun, ha, hrun'.tail hstep⟩

/-! ### Callbacks of a request -/

/-- A call that is left to the scripting thread is counted as such. -/
lemma Routes.recorded {synchronous : Bool} (h : Routes s synchronous t) (hb : synchronous) :
    t.world.loop.syncCalls = s.world.loop.syncCalls + 1 ∧ t.world.loop.asyncCalls = s.world.loop.asyncCalls ∧
      ∃ function args capture, t.loop = .routed true function args capture :: s.loop := by
  cases h with
  | mk _ _ function args capture hx =>
    cases hx
    have hwaiting : s.world.loop.isWaiting = true := hb
    rw [hwaiting]
    exact ⟨rfl, rfl, function, args, capture, rfl⟩

lemma loop_of_scriptSteps (h : Relation.ReflTransGen ScriptStep s s') : s'.loop = s.loop := by
  induction h with
  | refl => rfl
  | tail _ hs ih => exact hs.loop.trans ih

/-- The call is queued without a wake-up, and native code waits for it. -/
lemma Queues.without_wakeUp {synchronous capture : Bool} {function : Option FunctionId} {args : List Value}
    (h : Queues s id synchronous u) (hs : s.loop = .routed true function args capture :: base) :
    u.world.script.mailbox = s.world.script.mailbox ∧ u.loop = .waiting id true :: base ∧
      u.calls.queued = s.calls.queued ++ [id] := by
  cases h with
  | mk hs' hx =>
    cases hs.symm.trans hs'
    cases hx
    exact ⟨rfl, rfl, List.map_append⟩

/-! ### Starts and stops -/

section

variable {host : Host (Bridge.sides Native Script)} {config : LifecycleConfig}
  {w w' : World (Bridge.sides Native Script)}

/-- A start makes new queues, and owes nobody more than before. -/
lemma start_queues (hx : Bridge.start host config w = some (.ok (), w')) :
    w'.loop = {} ∧ w'.loopOwned ∧ w'.script = w.script.renew ∧ w'.replies = w.replies := by
  rcases hs : w.state with _ | state
  · simp [Bridge.start, Bridge.isRunning, Lifecycle.resolve, LoopState.install, bind_apply, map_apply, if_apply,
      Except.map, hs] at hx
    obtain rfl := hx
    exact ⟨rfl, rfl, rfl, rfl⟩
  · simp [Bridge.start, Bridge.isRunning, bind_apply, map_apply, if_apply, Except.map, hs] at hx

/-- A bridge that has stopped and is started again is one that was just started: whatever was promised has been
collected, and no call is left. -/
lemma State.Started.again (h₀ : s₀.Started) (hr : Run s₀ s) (hs : s.script = []) (he : s.ended)
    (hx : Bridge.start host config s.world = some (.ok (), w)) :
    State.Started { s with world := w, loop := [], ended := false } := by
  obtain ⟨hloop, howned, hscript, hreplies⟩ := start_queues hx
  obtain ⟨e, hrun, hshows⟩ := h₀.shows.run hr
  have hsound := h₀.sound.run hr
  have hnone : s.calls.waits = [] := by rw [State.calls, hsound.ended he]; rfl
  have hclear : s.world.script.clear = s.world.script := hsound.calls.clear_eq hnone
  have hresults : w.script.results = s.world.script.results := by rw [hscript, ScriptQueue.renew, hclear]
  have hunanswered (id : PromiseId) : ¬s.world.script.results.Pending id := fun hu => by
    have hwaited := hsound.calls.waited id hu
    rw [Calls.awaited, hnone] at hwaited
    cases hwaited
  have hchannel : s.world.script.channel = s₀.world.script.channel := Calls.channel_of_run (Run.calls h₀.sound hr)
  have hwaits : e.waits = [] := by
    have hmatch := hshows.waits
    rw [hs] at hmatch
    exact List.forall₂_nil_left_iff.1 hmatch
  have hcollected (id : PromiseId) : s.world.replies.get? id = none := by
    by_contra hne
    obtain ⟨f, hf, -⟩ := h₀.opens.attended.run h₀.opens.sound hrun id (hshows.world ▸ hne)
    rw [hwaits] at hf
    cases hf
  refine ⟨⟨hs, rfl, rfl, ?_, ?_, fun id => ?_, ?_, ?_⟩, howned, ?_, hloop⟩
  · show w.script.pending = []
    rw [hscript]
    rfl
  · exact hresults ▸ hsound.calls.fresh
  · exact hresults ▸ hunanswered id
  · show w.loop.depth = 0
    rw [hloop]
  · show w.script.channel ≠ .inline
    rw [hscript]
    exact hchannel ▸ h₀.channel
  · show w.replies.table = []
    rw [hreplies, List.eq_nil_iff_forall_not_mem]
    rintro ⟨id, promise⟩ hmem
    have hlookup := List.lookup_eq_none_iff.1 (hcollected id) _ hmem
    simp at hlookup

/-- What both threads may come to, through any number of starts and stops. -/
inductive Lived (host : Host (Bridge.sides Native Script)) : State Native Script → Prop where
  | start {s : State Native Script} (h : s.Started) : Lived host s
  | step {s s' : State Native Script} (h : Lived host s) (hs : Step s s') : Lived host s'
  | again {s : State Native Script} {w : World (Bridge.sides Native Script)} (h : Lived host s) (hs : s.script = [])
      (he : s.ended) (config : LifecycleConfig) (hx : Bridge.start host config s.world = some (.ok (), w)) :
      Lived host { s with world := w, loop := [], ended := false }

lemma Lived.onward (h : Lived host s) (hr : Run s s') : Lived host s' := by
  induction hr with
  | refl => exact h
  | tail _ hs ih => exact ih.step hs

/-- Since the last start everything is one run. -/
lemma Lived.run (h : Lived host s) : ∃ s₀, s₀.Started ∧ Run s₀ s := by
  induction h with
  | start h => exact ⟨_, h, .refl⟩
  | step _ hs ih =>
    obtain ⟨s₀, h₀, hr⟩ := ih
    exact ⟨s₀, h₀, hr.tail hs⟩
  | again _ hs he config hx ih =>
    obtain ⟨s₀, h₀, hr⟩ := ih
    exact ⟨_, h₀.again hr hs he hx, .refl⟩

end

/-- **Callbacks of a request are answered within its wait.** The depth is how many waits the scripting thread is in.
While a request runs, the scripting thread is in the wait for it. Every call that native code makes meanwhile, however
deeply nested, is counted as synchronous and is queued without a wake-up. From then on the native code that made it
waits for it, and the scripting thread waits for the request, until the scripting thread has run the call to its
end. -/
theorem callbacks_within_wait {host : Host (Bridge.sides Native Script)} (h : Lived host s) :
    s.world.loop.depth = s.script.countP ScriptFrame.waits ∧
      ∀ promise j, .task (.request promise j) ∈ s.loop →
        s.WaitsFor promise j ∧ 1 ≤ s.world.loop.depth ∧
          ∀ synchronous t, Routes s synchronous t →
            synchronous ∧ t.world.loop.syncCalls = s.world.loop.syncCalls + 1 ∧
              t.world.loop.asyncCalls = s.world.loop.asyncCalls ∧
              ∀ t' id u, Relation.ReflTransGen ScriptStep t t' → Queues t' id synchronous u →
                u.world.script.mailbox = t'.world.script.mailbox ∧ u.loop = .waiting id true :: s.loop ∧
                  ∀ v, Run u v → v.Holds id s.loop ∧ v.WaitsFor promise j ∨ Ran u id v := by
  obtain ⟨s₀, h₀, hr⟩ := h.run
  have hdeep := h₀.deep hr
  refine ⟨hdeep, fun promise j hj => ?_⟩
  have hwaits := waitsFor_of_running h₀ hr hj
  have hdepth : 1 ≤ s.world.loop.depth := by
    rw [hdeep]
    exact List.countP_pos_iff.2 hwaits.waits
  refine ⟨hwaits, hdepth, fun synchronous t hroutes => ?_⟩
  have hsync : synchronous := (hroutes.iff_waits hdeep).2 hwaits.waits
  obtain ⟨hcounted, hothers, function, args, capture, hrouted⟩ := hroutes.recorded hsync
  refine ⟨hsync, hcounted, hothers, fun t' id u hscript hqueues => ?_⟩
  have hrun : Run s₀ t' :=
    (hr.tail (.inr (.fire hroutes))).trans (Relation.ReflTransGen.mono (fun _ _ h => Or.inl h) _ _ hscript)
  have hrun' : Run s₀ u := hrun.tail (.inr (.queue hqueues))
  obtain ⟨hmailbox, hloop, hqueued⟩ := hqueues.without_wakeUp ((loop_of_scriptSteps hscript).trans hrouted)
  have hsound := h₀.sound.run hrun'
  have hunanswered : u.calls.Unanswered id := by
    refine (hsound.calls.unanswered id).2 (.inl ?_)
    rw [hqueued]
    exact List.mem_append_right _ List.mem_cons_self
  refine ⟨hmailbox, hloop, fun v hv => ?_⟩
  refine (holds_or_ran hsound ⟨[], .inl hloop⟩ hunanswered hv).imp_left fun hholds => ⟨hholds.1, ?_⟩
  refine waitsFor_of_running h₀ (hrun'.trans hv) ?_
  obtain ⟨above, hl | hl⟩ := hholds.1
  · rw [hl]
    exact List.mem_append_right _ (List.mem_cons_of_mem _ hj)
  · rw [hl]
    exact List.mem_append_right _ (List.mem_cons_of_mem _ hj)

/-- A request within the callback of a request: its own callback is run, and then its native code goes on. -/
theorem callback_within_callback_run :
    ∃ s t u v, Lived (silentHost 0) s ∧ s.loop.filterMap LoopFrame.reply? = [1, 0] ∧ s.world.loop.depth = 2 ∧
      Routes s true t ∧ t.world.loop.syncCalls = 2 ∧ Queues t 1 true u ∧ Run u v ∧ v.loop = s.loop ∧ Ran u 1 v := by
  have run : ∃ s, Run (started .none) s ∧ .task (.request 1 (.batch [])) ∈ s.loop ∧
      s.loop.filterMap LoopFrame.reply? = [1, 0] ∧ s.script.countP ScriptFrame.waits = 2 ∧
      s.world.loop.syncCalls = 1 ∧ ∃ t u, Routes s true t ∧ Queues t 1 true u ∧ ∃ v, Run u v ∧ v.loop = s.loop := by
    refine run_of_step (.inl (.enter (.inl rfl) (.batch []) rfl rfl)) ?_
    refine run_of_step (.inl (.send rfl rfl)) ?_
    refine run_of_step (.inr (.begin rfl rfl (by decide) rfl)) ?_
    refine run_of_step (.inr (.serve rfl rfl rfl)) ?_
    refine run_of_step (.inr (.fire (.mk rfl rfl (some 0) [] true rfl))) ?_
    refine run_of_step (.inr (.queue (.mk rfl rfl))) ?_
    refine run_of_step (.inl (.miss rfl rfl)) ?_
    refine run_of_step (.inl (.take rfl rfl rfl)) ?_
    -- the callback makes a request of its own, and the loop thread serves it while it waits
    refine run_of_step (.inl (.enter (.inr ⟨_, _, rfl⟩) (.batch []) rfl rfl)) ?_
    refine run_of_step (.inl (.send rfl rfl)) ?_
    refine run_of_step (.inr (.miss rfl rfl)) ?_
    refine run_of_step (.inr (.serve rfl rfl rfl)) ?_
    refine ⟨_, .refl, List.mem_cons_self, rfl, rfl, rfl, _, _, .mk rfl rfl (some 1) [] true rfl, .mk rfl rfl, ?_⟩
    refine run_of_step (.inl (.miss rfl rfl)) ?_
    refine run_of_step (.inl (.take rfl rfl rfl)) ?_
    refine run_of_step (.inl (.answer rfl (.ok .undefined) rfl)) ?_
    exact ⟨_, .single (.inr (.result rfl (fun h => by cases h) rfl)), rfl⟩
  obtain ⟨s, hr, hj, hreplies, hwaits, hcalls, t, u, hroutes, hqueues, v, hv, hloop⟩ := run
  have hlived : Lived (silentHost 0) s := (Lived.start (started_started (by decide))).onward hr
  obtain ⟨hdepth, hwithin⟩ := callbacks_within_wait hlived
  obtain ⟨-, hcounted, -, hcall⟩ := (hwithin 1 (.batch []) hj).2.2 true t hroutes
  have hran := ((hcall t 1 u .refl hqueues).2.2 v hv).resolve_left fun h => by
    have hlt := h.1.length_lt
    rw [hloop] at hlt
    exact lt_irrefl _ hlt
  exact ⟨s, t, u, v, hlived, hreplies, hdepth.trans hwaits, hroutes, by rw [hcounted, hcalls], hqueues, hv, hloop, hran⟩

end NativeBridge.Threads
