import NativeBridge.Proofs.Exchange.Outcome
import NativeBridge.Proofs.Threads.Operations

/-!
The waits of the scripting thread, as an exchange of jobs and results. Each step of the two threads is a run of the
exchange.
-/

namespace NativeBridge.Exchange

open Eff

variable {S : Sides}

/-! ### Effects that leave the exchange alone -/

instance : IsPreorder (World S) Aside where
  refl _ := ⟨rfl, rfl, rfl, rfl⟩
  trans _ _ _ h h' :=
    ⟨h'.pending.trans h.pending, h'.stopped.trans h.stopped, h'.depth.trans h.depth, h'.replies.trans h.replies⟩

namespace Aside

lemma same {w w' : World S} (hl : w'.loop = w.loop) (hr : w'.replies = w.replies) : Aside w w' :=
  ⟨by rw [hl], by rw [hl], by rw [hl], hr⟩

lemma beginBatch : Along Aside (LoopDispatch.beginBatch : Eff S Unit) := .modify fun _ => ⟨rfl, rfl, rfl, rfl⟩

lemma endBatch : Along Aside (LoopDispatch.endBatch : Eff S Unit) :=
  .modify fun w => ⟨w.loop.pending_endBatch, w.loop.stopped_endBatch, w.loop.depth_endBatch, rfl⟩

lemma chooseRoute : Along Aside (ScriptDispatch.chooseRoute : Eff S Bool) :=
  .update fun w => ⟨w.loop.pending_recordRoute _, w.loop.stopped_recordRoute _, w.loop.depth_recordRoute _, rfl⟩

lemma queue (function : Option FunctionId) (args : List Value) (capture : Bool) :
    Along Aside (ScriptDispatch.queue function args capture : Eff S PromiseId) :=
  .update fun _ => ⟨rfl, rfl, rfl, rfl⟩

lemma take : Along Aside (ScriptDispatch.take : Eff S (Option PendingCall)) := by
  refine .update fun w => ?_
  split <;> exact ⟨rfl, rfl, rfl, rfl⟩

lemma settle (c : PendingCall) (r : Except Raised Value) : Along Aside (ScriptDispatch.settle c r : Eff S Unit) :=
  .modify fun _ => ⟨rfl, rfl, rfl, rfl⟩

lemma announce : Along Aside (ScriptDispatch.announce : Eff S Unit) := by
  refine .modify fun w => ?_
  split <;> exact ⟨rfl, rfl, rfl, rfl⟩

lemma deliver : Along Aside (ScriptDispatch.deliver : Eff S (Option Bool)) := by
  refine .update fun w => ?_
  split <;> exact ⟨rfl, rfl, rfl, rfl⟩

lemma collect (id : PromiseId) : Along Aside (ScriptDispatch.collect id : Eff S (Option ScriptResult)) :=
  Along.parametric.collectResult (.modify fun _ => ⟨rfl, rfl, rfl, rfl⟩)

lemma clear : Along Aside (ScriptDispatch.clear : Eff S Unit) := .modify fun _ => ⟨rfl, rfl, rfl, rfl⟩

lemma holding {α : Type} {x : Eff S α} (hx : Along Aside x) : Along Aside (LoopState.holding x) :=
  hx.holding fun _ _ => ⟨rfl, rfl, rfl, rfl⟩

end Aside

end NativeBridge.Exchange

namespace NativeBridge.Threads

open Eff Bridge

variable {Native Script : Type} {s s' : State Native Script}
  {e : Exchange.State (Bridge.sides Native Script)} {w : World (Bridge.sides Native Script)}

/-! ### Frames of waits -/

/-- A frame of the scripting thread is that wait. -/
inductive Matches : ScriptFrame → Exchange.Wait (Bridge.sides Native Script) → Prop where
  | entered (j : Request) (before : Nat) : Matches (.entered j) ⟨j, before, .entered⟩
  | waiting (id : PromiseId) (j : Request) (before : Nat) : Matches (.waiting id j) ⟨j, before, .waiting id⟩
  | draining (id : PromiseId) (j : Request) (before : Nat) : Matches (.draining id j) ⟨j, before, .waiting id⟩
  | leaving (id : PromiseId) (j : Request) (r : Except Error Reply) (before : Nat) :
      Matches (.leaving j r) ⟨j, before, .leaving id r⟩

/-- A job is sent as soon as it is promised. -/
lemma unsent_of_matches {script : List ScriptFrame} {waits : List (Exchange.Wait (Bridge.sides Native Script))}
    (h : List.Forall₂ Matches script waits) : waits.filterMap Exchange.Wait.unsent? = [] := by
  induction h with
  | nil => rfl
  | cons hf _ ih => cases hf <;> exact ih

def LoopFrame.task? : LoopFrame → Option (Task Request)
  | .task t => some t
  | _ => none

/-- The exchange of the two threads. -/
structure Shows (e : Exchange.State (Bridge.sides Native Script)) (s : State Native Script) : Prop where
  world : e.world = s.world
  waits : List.Forall₂ Matches (s.script.filter ScriptFrame.waits) e.waits
  running : e.running = s.loop.filterMap LoopFrame.task?

namespace Shows

/-- A step that sends no job, starts none and ends none. -/
lemma aside (h : Shows e s) (hw : Exchange.Aside s.world s'.world)
    (hs : List.Forall₂ Matches (s'.script.filter ScriptFrame.waits) e.waits)
    (hl : s'.loop.filterMap LoopFrame.task? = s.loop.filterMap LoopFrame.task?) :
    ∃ e', Exchange.Run e e' ∧ Shows e' s' :=
  ⟨{ e with world := s'.world }, .single (.aside (h.world ▸ hw)), rfl, hs, h.running.trans hl.symm⟩

/-- The innermost frame is the innermost wait. -/
lemma wait {f : ScriptFrame} {rest : List ScriptFrame} (h : Shows e s) (hs : s.script = f :: rest) (hf : f.waits) :
    ∃ g waits, e.waits = g :: waits ∧ Matches f g ∧ List.Forall₂ Matches (rest.filter ScriptFrame.waits) waits := by
  have hwaits := h.waits
  rw [hs, List.filter_cons_of_pos hf] at hwaits
  obtain ⟨g, waits, hg, hrest, heq⟩ := List.forall₂_cons_left_iff.1 hwaits
  exact ⟨g, waits, heq, hg, hrest⟩

/-- A frame that is no wait comes or goes. -/
lemma waits_of_cons {f : ScriptFrame} {rest : List ScriptFrame} (h : Shows e s) (hs : s.script = f :: rest)
    (hf : f.waits = false) : List.Forall₂ Matches (rest.filter ScriptFrame.waits) e.waits := by
  have hwaits := h.waits
  rwa [hs, List.filter_cons_of_neg (by simp [hf])] at hwaits

/-- A job is sent to a loop that was found stopped, or to one that was found running. -/
lemma send {j : Request} {rest : List ScriptFrame} {id : PromiseId} (h : Shows e s) (hs : s.script = .entered j :: rest)
    (hx : LoopRequest.post j s.world = some (.ok id, w)) :
    ∃ e', Exchange.Run e e' ∧ Shows e' { s with world := w, script := .waiting id j :: rest } := by
  obtain ⟨g, waits, hw, hg, hrest⟩ := h.wait hs rfl
  obtain ⟨world, _, running, posted, started, ended⟩ := e
  obtain ⟨rfl, -, hrunning⟩ := h
  obtain ⟨j, before⟩ := hg
  cases hw
  rcases bind_eq_some.1 hx with ⟨id', w₁, h₁, h₂⟩ | ⟨e, h₁, -⟩
  · cases h₁
    rcases bind_eq_some.1 h₂ with ⟨_, w₂, h₃, h₄⟩ | ⟨e, h₃, he⟩
    · cases h₄
      rw [LoopDispatch.schedule_apply] at h₃
      have hmatch (id : PromiseId) : List.Forall₂ Matches ((ScriptFrame.waiting id j :: rest).filter ScriptFrame.waits)
          (⟨j, before, .waiting id⟩ :: waits) := .cons (.waiting id j before) hrest
      split at h₃
      next hstop => exact ⟨_, .head (.promise rfl rfl) (.single (.refuse rfl rfl hstop h₃)), rfl, hmatch _,
          hrunning⟩
      next hstop =>
        have hopen := Bool.eq_false_iff.2 hstop
        exact ⟨_, .head (.promise rfl rfl) (.head (.pass rfl rfl hopen) (.single (.push rfl rfl h₃))), rfl, hmatch _,
          hrunning⟩
    · cases he
  · cases h₁

lemma collect {j : Request} {rest : List ScriptFrame} {id : PromiseId} {r : Except Error Reply} (h : Shows e s)
    (hs : s.script = .waiting id j :: rest) (hx : LoopRequest.collect id s.world = some (r.map some, w)) :
    ∃ e', Exchange.Run e e' ∧ Shows e' { s with world := w, script := .leaving j r :: rest } := by
  obtain ⟨g, waits, hw, hg, hrest⟩ := h.wait hs rfl
  cases hg with
  | waiting _ _ before =>
    exact ⟨_, .single (.collect hw rfl r (h.world ▸ hx)), rfl, .cons (.leaving id j r before) hrest, h.running⟩

lemma leave {j : Request} {rest : List ScriptFrame} {r : Except Error Reply} (h : Shows e s)
    (hs : s.script = .leaving j r :: rest) (hx : LoopRequest.leave s.world = some (.ok (), w)) :
    ∃ e', Exchange.Run e e' ∧
      Shows e' { s with world := w, script := if joins j r then .joining :: rest else rest } := by
  obtain ⟨g, waits, hw, hg, hrest⟩ := h.wait hs rfl
  cases hg with
  | leaving id _ _ before =>
    refine ⟨_, .single (.leave hw rfl (h.world ▸ hx)), rfl, ?_, h.running⟩
    dsimp only
    split <;> exact hrest

lemma script (h : Shows e s) (hs : ScriptStep s s') : ∃ e', Exchange.Run e e' ∧ Shows e' s' := by
  cases hs with
  | work _ hw => exact h.aside (.same hw.loop hw.replies) h.waits rfl
  | drop _ id hx => exact ⟨_, .single (.send (.remove id) rfl (h.world ▸ hx)), rfl, h.waits, h.running⟩
  | enter _ j _ hx => exact ⟨_, .single (.enter j (h.world ▸ hx)), rfl, .cons (.entered j _) h.waits, h.running⟩
  | send hs hx => exact h.send hs hx
  | @miss w j rest id hs hx =>
    obtain ⟨g, waits, hw, hg, hrest⟩ := h.wait hs rfl
    refine h.aside (LoopRequest.collect_none hx ▸ refl _) ?_ rfl
    cases hg with
    | waiting _ _ before => exact hw ▸ .cons (.draining id j before) hrest
  | reply hs hx => exact h.collect hs hx
  | refusal hs hx => exact h.collect hs hx
  | leave hs hx => exact h.leave hs hx
  | poll => exact h.aside (refl _) h.waits rfl
  | wake _ hx =>
    refine h.aside (Exchange.Aside.deliver hx) ?_ rfl
    dsimp only
    split
    · exact h.waits
    · exact h.waits
  | take _ _ hx => exact h.aside (Exchange.Aside.take hx) h.waits rfl
  | @drained w id j rest hs hx =>
    obtain ⟨g, waits, hw, hg, hrest⟩ := h.wait hs rfl
    refine h.aside (Exchange.Aside.take hx) ?_ rfl
    cases hg with
    | draining _ _ before => exact hw ▸ .cons (.waiting id j before) hrest
  | polled hs hx => exact h.aside (Exchange.Aside.take hx) (h.waits_of_cons hs rfl) rfl
  | answer hs r hx => exact h.aside (Exchange.Aside.settle _ r hx) (h.waits_of_cons hs rfl) rfl
  | join hs _ hx =>
    refine h.aside ?_ (h.waits_of_cons hs rfl) rfl
    exact IsTrans.trans _ _ _ (Exchange.Aside.clear hx) ⟨rfl, rfl, rfl, rfl⟩

/-- The innermost task of the loop thread is the innermost one that runs. -/
lemma task {t : Task Request} {rest : List LoopFrame} (h : Shows e s) (hs : s.loop = .task t :: rest) :
    e.running = t :: rest.filterMap LoopFrame.task? := by
  rw [h.running, hs]
  rfl

/-- The end of the loop is a stop in two halves, and what is aside from the exchange. -/
lemma endLoop {r : Except Error Reply} {w w' : World (Bridge.sides Native Script)}
    (hx : Bridge.endLoop w = some (r, w')) :
    ∃ w₁ w₂, LoopDispatch.close w = some (.ok (), w₁) ∧ LoopDispatch.sweep w₁ = some (.ok (), w₂) ∧
      Exchange.Aside w₂ w' := by
  have hrest : Along Exchange.Aside (do
      LoopState.holding LoopState.releaseWorkGuard
      return .done : Eff (Bridge.sides Native Script) Reply) :=
    .bind (Exchange.Aside.holding (.modify fun _ => ⟨rfl, rfl, rfl, rfl⟩)) fun _ => .pure _
  rcases bind_eq_some.1 hx with ⟨_, w₁, h₁, h₂⟩ | ⟨e, h₁, -⟩
  · cases h₁
    exact ⟨_, _, rfl, rfl, hrest h₂⟩
  · cases h₁

lemma loop (h : Shows e s) (hs : LoopStep s s') : ∃ e', Exchange.Run e e' ∧ Shows e' s' := by
  cases hs with
  | work _ _ hw => exact h.aside (.same hw.loop hw.replies) h.waits rfl
  | begin hs _ _ hx => exact h.aside (Exchange.Aside.beginBatch hx) h.waits (by rw [hs]; rfl)
  | handle hs => exact h.aside (refl _) h.waits (by rw [hs]; rfl)
  | handled hs => exact h.aside (refl _) h.waits (by rw [hs]; rfl)
  | serve hs hf hx =>
    exact ⟨_, .single (.take (h.world ▸ hx)), rfl, h.waits, congrArg (_ :: ·) h.running⟩
  | batched hs ht hx =>
    refine h.aside ?_ h.waits (by rw [hs]; rfl)
    obtain ⟨-, rfl⟩ := LoopDispatch.take_none ht
    exact Exchange.Aside.endBatch hx
  | served hs hx =>
    refine h.aside ?_ h.waits (by rw [hs]; rfl)
    obtain ⟨-, rfl⟩ := LoopDispatch.take_none hx
    exact refl _
  | @done t rest hs ht =>
    have hrequest : t.request? = none := by
      cases t with
      | request promise j => exact (ht promise j rfl).elim
      | _ => rfl
    exact ⟨_, .single (.done (h.task hs) hrequest), h.world, h.waits, rfl⟩
  | finish hs hj r hx => exact ⟨_, .single (.finish (h.task hs) r (h.world ▸ hx)), rfl, h.waits, rfl⟩
  | stop hs ha hx =>
    rw [attempt_apply, Option.map_eq_some_iff] at ha
    obtain ⟨⟨q, w₀⟩, ha, heq⟩ := ha
    cases heq
    obtain ⟨w₁, w₂, hclose, hsweep, haside⟩ := endLoop ha
    have hfinish := Exchange.Step.finish (s := { e with world := w₀ }) (h.task hs) _ hx
    exact ⟨_, .head (.close (h.world ▸ hclose)) (.head (.sweep hsweep) (.head (.aside haside) (.single hfinish))), rfl,
      h.waits, rfl⟩
  | fire hf =>
    cases hf with
    | mk hs _ _ _ _ hx => exact h.aside (Exchange.Aside.chooseRoute hx) h.waits rfl
  | queue hq =>
    cases hq with
    | mk hs hx => exact h.aside (Exchange.Aside.queue _ _ _ hx) h.waits (by rw [hs]; dsimp only; split <;> rfl)
  | announce hs hx => exact h.aside (Exchange.Aside.announce hx) h.waits (by rw [hs]; rfl)
  | miss hs hx => exact h.aside (Exchange.Aside.collect _ hx) h.waits (by rw [hs]; rfl)
  | result hs _ hx => exact h.aside (Exchange.Aside.collect _ hx) h.waits (by rw [hs]; rfl)
  | leave hs => exact h.aside (refl _) h.waits (by rw [hs]; rfl)
  | ended hs => exact h.aside ⟨rfl, rfl, rfl, rfl⟩ h.waits (by rw [hs]; rfl)

end Shows

/-- **A run of the two threads is a run of their exchange.** -/
theorem Shows.run (h : Shows e s) (hr : Run s s') : ∃ e', Exchange.Run e e' ∧ Shows e' s' := by
  induction hr with
  | refl => exact ⟨e, .refl, h⟩
  | tail _ hs ih =>
    obtain ⟨e₁, hr₁, h₁⟩ := ih
    obtain ⟨e₂, hr₂, h₂⟩ := hs.elim h₁.script h₁.loop
    exact ⟨e₂, hr₁.trans hr₂, h₂⟩

/-- A bridge that was just started. -/
structure State.Started (s : State Native Script) : Prop extends s.Opening where
  owned : s.world.loopOwned
  replies : s.world.replies.table = []
  tasks : s.world.loop = {}

/-- The exchange of a bridge before either thread has done anything. -/
def State.exchange (s : State Native Script) : Exchange.State (Bridge.sides Native Script) where
  world := s.world
  waits := []
  running := []
  posted := []
  started := []
  ended := []

/-- What the two threads do, as an exchange of which everything is known. -/
def State.Exchanges (s : State Native Script) : Prop := ∃ e, Shows e s ∧ e.Sound

lemma State.Started.opens (h : s.Started) : s.exchange.Opening := by
  refine ⟨rfl, rfl, rfl, rfl, rfl, h.replies, ?_⟩
  rw [State.exchange, h.tasks]
  rfl

lemma State.Started.shows (h : s.Started) : Shows s.exchange s := by
  refine ⟨rfl, ?_, ?_⟩
  · rw [h.script]
    exact .nil
  · rw [h.loop]
    rfl

lemma State.Started.exchanges (h : s.Started) : s.Exchanges := ⟨s.exchange, h.shows, h.opens.sound⟩

namespace State.Exchanges

lemma run (h : s.Exchanges) (hr : Run s s') : s'.Exchanges := by
  obtain ⟨e, hshows, hsound⟩ := h
  obtain ⟨e', hrun, hshows'⟩ := hshows.run hr
  exact ⟨e', hshows', hsound.run hrun⟩

variable {id : PromiseId}

/-- The reply to a request that is running has been promised. -/
lemma lt_made (h : s.Exchanges) {j : Request} (hj : .task (.request id j) ∈ s.loop) : id < s.world.replies.made := by
  obtain ⟨e, hshows, hsound⟩ := h
  have hmem : (id, j) ∈ e.running.filterMap Task.request? := by
    rw [hshows.running]
    exact List.mem_filterMap.2 ⟨_, List.mem_filterMap.2 ⟨_, hj, rfl⟩, rfl⟩
  have howing : id ∈ e.book.owing.map Prod.fst := List.mem_map_of_mem (List.mem_append_right _ hmem)
  exact hshows.world ▸ hsound.book.lt_made_of_owing howing

/-- A reply that nobody has settled is that of a request that is queued or running. -/
lemma owed (h : s.Exchanges) (hp : s.world.replies.Pending id) :
    (∃ j, .request id j ∈ s.world.loop.pending) ∨ ∃ j, .task (.request id j) ∈ s.loop := by
  obtain ⟨e, hshows, hsound⟩ := h
  have hunsent : e.book.unsent = [] := unsent_of_matches hshows.waits
  rw [← hshows.world] at hp
  have howing := (hsound.book.owed id).1 hp
  rw [Book.owing, hunsent, List.nil_append, List.map_append, List.mem_append] at howing
  have request {ts : List (Task Request)} (hid : id ∈ (ts.filterMap Task.request?).map Prod.fst) :
      ∃ j, .request id j ∈ ts := by
    obtain ⟨⟨k, j⟩, hkj, rfl⟩ := List.mem_map.1 hid
    obtain ⟨t, ht, hkj⟩ := List.mem_filterMap.1 hkj
    cases t <;> cases hkj
    exact ⟨j, ht⟩
  rcases howing with hqueued | hrunning
  · exact .inl (hshows.world ▸ request hqueued)
  · obtain ⟨j, hj⟩ := request hrunning
    rw [hshows.running] at hj
    obtain ⟨f, hf, hft⟩ := List.mem_filterMap.1 hj
    cases f <;> cases hft
    exact .inr ⟨j, hf⟩

end State.Exchanges

end NativeBridge.Threads
