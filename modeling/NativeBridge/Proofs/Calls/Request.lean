import NativeBridge.Bridge
import NativeBridge.Proofs.Calls.Blind
import NativeBridge.Proofs.Evolution.Replies

/-!
A request to a loop thread that has nothing else to do. It is served within one turn of the loop, and apart from the
counts of the queue only what serves it changes anything.
-/

namespace NativeBridge

open Eff

variable {S : Sides}

lemma Eff.discard_apply {α : Type} (x : Eff S α) (w : World S) :
    (discard x : Eff S Unit) w = (x w).map fun p => (p.1.map fun _ => (), p.2) := by
  rw [Functor.discard, map_const]
  exact map_apply _ x w

/-- Nothing waits on either thread, and the loop thread takes requests. -/
structure World.Idle (w : World S) : Prop where
  pending : w.loop.pending = []
  armed : w.loop.armed = false
  posted : w.loop.posted = 0
  stopped : w.loop.stopped = false
  replies : w.replies.Fresh
  script : w.script.pending = []
  installed : w.state.isSome

/-- The world in which a request of an idle world is served. -/
def World.serving (w : World S) : World S :=
  { w with
    loop := { w.loop with
      depth := w.loop.depth + 1
      scheduled := w.loop.scheduled + 1
      wakeups := w.loop.wakeups + 1
      dispatched := w.loop.dispatched + 1 }
    replies := w.replies.make.2
    thread := .loop }

/-- The world after a request of the first world that was served up to the second. -/
def World.served (w u : World S) (r : Except Error S.Reply) : World S :=
  { u with
    loop := u.loop.exitWait
    replies := (u.replies.keep w.replies.made r).forget w.replies.made
    thread := w.thread }

lemma World.Idle.served {w u : World S} (hw : w.Idle) (hu : Kept w.serving u) (r : Except Error S.Reply) :
    (w.served u r).Idle := by
  have hloop : u.loop = w.serving.loop := hu.loop
  have hreplies : u.replies = w.replies.make.2 := hu.replies
  have hscript : u.script = w.script := hu.script
  refine ⟨?_, ?_, ?_, ?_, ?_, ?_, ?_⟩
  · exact (congrArg LoopQueue.pending hloop).trans hw.pending
  · exact (congrArg LoopQueue.armed hloop).trans hw.armed
  · exact (congrArg LoopQueue.posted hloop).trans hw.posted
  · exact (congrArg LoopQueue.stopped hloop).trans hw.stopped
  · exact ((hreplies ▸ hw.replies.make).keep _ r).forget _
  · exact (congrArg ScriptQueue.pending hscript).trans hw.script
  · exact hu.state.trans hw.installed

namespace LoopDispatch

/-- One turn of the loop thread, after which the thread that was running goes on. -/
def turn (h : Host S) : Eff S Unit := do
  let running := (← get).thread
  modify fun w => { w with thread := .loop }
  Eff.andFinally (discard (poll h)) (modify fun w => { w with thread := running })

variable {h : Host S} {j : S.Job}

/-- A drain that finds one request serves it and ends, if that leaves no task. -/
lemma drain_request {w u : World S} {id : PromiseId} {r : Except Error S.Reply}
    (hp : w.loop.pending = [.request id j])
    (ha : h.answer j { w with loop := { w.loop with pending := [], dispatched := w.loop.dispatched + 1 } } =
      some (r, u))
    (hu : u.loop.pending = []) (n : Nat) :
    drain h (n + 2) w = some (.ok 1, { u with replies := u.replies.keep id r }) := by
  rw [drain, bind_ok (take_of_cons hp)]
  dsimp only
  have hrun : run h (.request id j)
      { w with loop := { w.loop with pending := [], dispatched := w.loop.dispatched + 1 } } =
        some (.ok (), { u with replies := u.replies.keep id r }) := by
    rw [run, bind_ok (a := r) (by rw [attempt_apply, ha]; rfl)]
    rfl
  rw [bind_ok hrun, bind_ok (drain_of_nil (w := { u with replies := u.replies.keep id r }) hu n)]
  rfl

/-- A loop with one request posted serves it and has nothing more to do. -/
lemma poll_request (hlimit : 2 ≤ h.limit) {w u : World S} {id : PromiseId} {r : Except Error S.Reply}
    (hpending : w.loop.pending = [.request id j]) (hposted : w.loop.posted = 1)
    (ha : h.answer j { w with
      loop := { w.loop with pending := [], armed := false, posted := 0, dispatched := w.loop.dispatched + 1 } } =
        some (r, u))
    (hu : u.loop.pending = []) (hnone : u.loop.posted = 0) :
    poll h w = some (.ok 1, { u with replies := u.replies.keep id r }) := by
  obtain ⟨n, hn⟩ : ∃ n, h.limit = n + 2 := ⟨h.limit - 2, by omega⟩
  have hsome : ¬w.loop.posted = 0 := by omega
  set w₁ : World S := { w with loop := { w.loop with armed := false, posted := 0 } }
  have hbegin : beginBatch w = some (.ok (), w₁) := by
    rw [beginBatch, modify_apply, LoopQueue.beginBatch, hposted]
  set w₂ : World S := { u with replies := u.replies.keep id r }
  have hend : endBatch w₂ = some (.ok (), w₂) := by
    rw [endBatch, modify_apply, LoopQueue.endBatch, if_pos (by rw [hu]; rfl)]
  have hrest : runPosted h (n + 1) w₂ = some (.ok 0, w₂) := by
    rw [runPosted, bind_ok (get_apply w₂), if_pos hnone]
    rfl
  have hdrain : drain h (n + 2) w₁ = some (.ok 1, w₂) := drain_request (w := w₁) hpending ha hu n
  rw [poll, hn, runPosted, bind_ok (get_apply w), if_neg hsome, batch, bind_assoc, bind_ok hbegin, hn, bind_assoc,
    bind_ok hdrain, bind_ok hend, bind_ok hrest]
  rfl

lemma turn_request (hlimit : 2 ≤ h.limit) {w u : World S} {id : PromiseId} {r : Except Error S.Reply}
    (hpending : w.loop.pending = [.request id j]) (hposted : w.loop.posted = 1)
    (ha : h.answer j { w with
      thread := .loop
      loop := { w.loop with pending := [], armed := false, posted := 0, dispatched := w.loop.dispatched + 1 } } =
        some (r, u))
    (hu : u.loop.pending = []) (hnone : u.loop.posted = 0) :
    turn h w = some (.ok (), { u with replies := u.replies.keep id r, thread := w.thread }) := by
  have hpoll := poll_request hlimit (w := { w with thread := .loop }) hpending hposted ha hu hnone
  rw [turn, bind_ok (get_apply w), bind_ok (modify_apply _ w), Eff.andFinally, bind_apply, attempt_apply,
    discard_apply, hpoll]
  rfl

/-- A turn that finds one request posted answers it, whatever the loop does then. -/
lemma turn_answers {R : World S → World S → Prop} [Permits R] (hd : ∀ fuel, Along R (drain h fuel)) {w w' : World S}
    {id : PromiseId} {r : Except Error Unit} (hpending : w.loop.pending = [.request id j])
    (hposted : w.loop.posted = 1) (hx : turn h w = some (r, w')) :
    ∃ q u, h.answer j { w with
        thread := .loop
        loop := { w.loop with pending := [], armed := false, posted := 0, dispatched := w.loop.dispatched + 1 } } =
      some (q, u) ∧ r = .ok () ∧ R { u with replies := u.replies.keep id q } w' := by
  rw [turn, bind_ok (get_apply w), bind_ok (modify_apply _ w)] at hx
  obtain ⟨p, w₁, hpoll, hx⟩ := attempt_bind_eq_some.1 hx
  rw [bind_ok (modify_apply _ w₁), ofExcept_apply] at hx
  cases hx
  have hback : R w₁ { w₁ with thread := w.thread } := Permits.still (.flags w₁ _ _ _ _) rfl rfl rfl
  rw [discard_apply, Option.map_eq_some_iff] at hpoll
  obtain ⟨⟨n, polled⟩, hpoll, hp⟩ := hpoll
  cases hp
  obtain ⟨n, rfl⟩ := runPosted_ok hpoll
  rw [poll] at hpoll
  rcases hlimit : h.limit with _ | fuel
  · rw [hlimit] at hpoll
    cases hpoll
  · have hsome : ¬w.loop.posted = 0 := by omega
    rw [hlimit, runPosted, bind_ok (get_apply _), if_neg hsome, batch, bind_assoc, beginBatch,
      bind_ok (modify_apply _ _), hlimit, bind_assoc] at hpoll
    rcases bind_eq_some.1 hpoll with ⟨k, w₂, hdrain, hpoll⟩ | ⟨e, -, he⟩
    · let begun : World S := { w with thread := .loop, loop := w.loop.beginBatch }
      obtain ⟨w₃, p, hrun, hdrain, -⟩ := drain_of_cons (w := begun) hpending hdrain
      obtain ⟨q, u, ha, hsettle⟩ := attempt_bind_eq_some.1 hrun
      cases hsettle
      refine ⟨q, u, ?_, rfl, ?_⟩
      · simp only [begun, LoopQueue.beginBatch, hposted] at ha
        exact ha
      · have hend : R w₂ polled := by
          refine Along.bind (.modify fun w => ?_) (fun _ => ?_) hpoll
          · exact Permits.still (.queues w _ _ _) (LoopQueue.pending_endBatch _) rfl rfl
          · exact .bind (Evolution.runPosted hd _) fun _ => .pure _
        exact IsTrans.trans _ _ _ (hd fuel hdrain) (IsTrans.trans _ _ _ hend hback)
    · cases he

end LoopDispatch

namespace LoopRequest

lemma collect_of_kept {w : World S} {id : PromiseId} {r : Except Error S.Reply}
    (hr : w.replies.get? id = some (.kept r)) :
    collect id w = some (r.map some, { w with replies := w.replies.forget id }) := by
  obtain ⟨q, hx, hq | ⟨hq | hq, -⟩⟩ := collect_of_settled (Promises.not_pending_of_get? hr nofun)
  all_goals cases hr.symm.trans hq
  exact hx

variable {h inner : Host S} {j : S.Job}

/-- A wait for a reply that is not there gives the loop thread a turn. -/
lemma await_of_pending {w : World S} {id : PromiseId} (hp : w.replies.Pending id) (hs : w.script.pending = [])
    (hlimit : 0 < h.limit) (n : Nat) : await h id (n + 1) w = (h.loopTurn >>= fun _ => await h id n) w := by
  have hnone : ScriptDispatch.processPending h w = some (.ok 0, w) := by
    obtain ⟨k, hk⟩ := Nat.exists_eq_add_one.2 hlimit
    rw [ScriptDispatch.processPending, hk, ScriptDispatch.process_of_nil hs]
  rw [await, bind_ok (collect_of_pending hp)]
  dsimp only
  rw [bind_ok hnone, bind_ok (isPending_apply id w), if_pos (decide_eq_true hp)]

lemma await_of_kept {w : World S} {id : PromiseId} {r : Except Error S.Reply}
    (hr : w.replies.get? id = some (.kept r)) (n : Nat) :
    await h id (n + 1) w = some (r, { w with replies := w.replies.forget id }) :=
  await_of_collect (collect_of_kept hr) h n

section

variable {w : World S} (hw : w.Idle)

/-- The world in which the request of an idle world is posted. -/
def posting (w : World S) (j : S.Job) : World S :=
  { w with
    loop := { w.loop with
      pending := [.request w.replies.made j], armed := true, posted := 1, depth := w.loop.depth + 1
      scheduled := w.loop.scheduled + 1, wakeups := w.loop.wakeups + 1 }
    replies := w.replies.make.2 }

include hw

lemma pending_posting (j : S.Job) : (posting w j).replies.Pending w.replies.made :=
  (Promises.pending_make hw.replies).2 (.inr rfl)

/-- A request of an idle world is the only task when the loop thread gets its turn. -/
lemma send_of_idle (hlimit : 0 < h.limit) (j : S.Job) :
    send h j w =
      (Eff.andFinally (do h.loopTurn; await h w.replies.made (h.limit - 1)) leave : Eff S S.Reply) (posting w j) := by
  obtain ⟨n, hn⟩ := Nat.exists_eq_add_one.2 hlimit
  set w₁ : World S := { w with loop := w.loop.enterWait }
  have hqueue : w₁.loop.schedule (.request w.replies.made j) = ((posting w j).loop, true) := by
    simp [w₁, posting, LoopQueue.enterWait, LoopQueue.schedule, LoopQueue.arm, hw.stopped, hw.armed, hw.pending,
      hw.posted]
  have hschedule : LoopDispatch.schedule (.request w.replies.made j) { w₁ with replies := w₁.replies.make.2 } =
      some (.ok (), posting w j) := by
    rw [LoopDispatch.schedule, modify_apply]
    simp only [hqueue]
    rfl
  have hpost : post j w₁ = some (.ok w.replies.made, posting w j) := by
    rw [post, bind_ok (update_apply _ w₁)]
    exact bind_ok hschedule
  have henter : (enter : Eff S Unit) w = some (.ok (), w₁) := rfl
  rw [send, bind_ok henter, bind_ok hpost, hn, Nat.add_sub_cancel]
  exact andFinally_congr (await_of_pending (pending_posting hw j) hw.script hlimit n)

lemma serving_eq (j : S.Job) :
    { posting w j with
      thread := .loop
      loop := { (posting w j).loop with
        pending := [], armed := false, posted := 0, dispatched := (posting w j).loop.dispatched + 1 } } = w.serving := by
  simp only [posting, World.serving, hw.pending, hw.armed, hw.posted]

/-- A request of an idle world is served in one turn if serving it leaves the queues alone, and leaves the world as
idle. -/
lemma send_served (hwaits : 2 ≤ h.limit) (hdrains : 2 ≤ inner.limit) (hturn : h.loopTurn = LoopDispatch.turn inner)
    {r : Except Error S.Reply} {u : World S} (ha : inner.answer j w.serving = some (r, u)) (hu : Kept w.serving u) :
    send h j w = some (r, w.served u r) := by
  obtain ⟨n, hn⟩ : ∃ n, h.limit - 1 = n + 1 := ⟨h.limit - 2, by omega⟩
  have hempty : u.loop.pending = [] := (congrArg LoopQueue.pending hu.loop).trans hw.pending
  have hnone : u.loop.posted = 0 := (congrArg LoopQueue.posted hu.loop).trans hw.posted
  have hturned : LoopDispatch.turn inner (posting w j) = some (.ok (), { u with
      replies := u.replies.keep w.replies.made r
      thread := w.thread }) :=
    LoopDispatch.turn_request hdrains rfl rfl ((serving_eq hw j).symm ▸ ha) hempty hnone
  have hkept : (u.replies.keep w.replies.made r).get? w.replies.made = some (.kept r) :=
    Promises.get?_settle_self (hu.replies ▸ pending_posting hw j)
  have hbody : (do h.loopTurn; await h w.replies.made (h.limit - 1) : Eff S S.Reply) (posting w j) =
      some (r, { u with
        replies := (u.replies.keep w.replies.made r).forget w.replies.made
        thread := w.thread }) := by
    rw [hturn, bind_ok hturned, hn]
    exact await_of_kept hkept n
  rw [send_of_idle hw (by omega), Eff.andFinally, bind_apply, attempt_apply, hbody]
  cases r <;> rfl

/-- What a request of an idle world ends with is the answer to it, whatever the loop thread does after the answer. -/
lemma send_answers {E : World S → World S → Prop} [IsPreorder (World S) E]
    (hc : ∀ {w w' : World S}, Change w w' → E w w')
    {A : S.Job → Except Error S.Reply → World S → World S → Prop} (hwaits : 2 ≤ h.limit)
    (hturn : h.loopTurn = LoopDispatch.turn inner)
    (hd : ∀ fuel, Along (Honours E A (w.replies.made + 1)) (LoopDispatch.drain inner fuel))
    (ha : Along (Honours E A (w.replies.made + 1)) (inner.answer j)) {r : Except Error S.Reply} {w' : World S}
    (hx : send h j w = some (r, w')) : ∃ u, inner.answer j w.serving = some (r, u) := by
  have hkept {u v : World S} {q : Except Error S.Reply} (hu : Honours E A (w.replies.made + 1) w.serving u)
      (hv : Honours E A (w.replies.made + 1) { u with replies := u.replies.keep w.replies.made q } v) :
      v.replies.get? w.replies.made = some (.kept q) := by
    have hnone : w.serving.requests w.replies.made = [] := by
      rw [World.requests, World.serving, hw.pending]
      rfl
    have hpending : u.replies.Pending w.replies.made := by
      rcases (hu.fate (Nat.le_refl _) _ (Nat.lt_succ_self _)).pending (pending_posting hw j) with
        hp | ⟨hne, -⟩ | ⟨j', r', z, z', -, hq, -⟩
      · exact hp
      · exact absurd hnone hne
      · rw [hnone] at hq
        cases hq
    have hself : (u.replies.keep w.replies.made q).get? w.replies.made = some (.kept q) :=
      Promises.get?_settle_self hpending
    have hfate := hv.fate (hu.made (Nat.le_refl _)) _ (Nat.lt_succ_self _)
    exact (hfate.settled (Promises.not_pending_of_get? hself (by simp))).trans hself
  let _ := Honours.permits (n := w.replies.made + 1) (A := A) hc
  obtain ⟨n, hn⟩ : ∃ n, h.limit - 1 = n + 1 := ⟨h.limit - 2, by omega⟩
  rw [send_of_idle hw (by omega), hturn] at hx
  obtain ⟨q, v, hbody, hx⟩ := attempt_bind_eq_some.1 hx
  rw [leave, bind_ok (modify_apply _ v), ofExcept_apply] at hx
  cases hx
  rcases bind_eq_some.1 hbody with ⟨_, v₁, hturned, hawait⟩ | ⟨e, hturned, -⟩
  · obtain ⟨q, u, hanswer, -, hrest⟩ := LoopDispatch.turn_answers hd rfl rfl hturned
    rw [serving_eq hw j] at hanswer
    rw [hn, await_of_kept (hkept (ha hanswer) hrest)] at hawait
    cases hawait
    exact ⟨u, hanswer⟩
  · obtain ⟨-, -, -, he, -⟩ := LoopDispatch.turn_answers hd rfl rfl hturned
    cases he

end

end LoopRequest

end NativeBridge
