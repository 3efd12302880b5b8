import NativeBridge.Proofs.Evolution.Dispatch
import NativeBridge.Proofs.Exchange.Outcome

/-!
What becomes of the requests that the loop thread owes a reply. A request leaves the queue once, and its promise is then
kept by the answer that the loop thread gave, or broken. Nobody else settles it, whatever runs in between.
-/

namespace NativeBridge

open Eff

variable {S : Sides}

/-- The requests in the queue whose sender waits for a promise. -/
def World.requests (w : World S) (id : PromiseId) : List (PromiseId × S.Job) :=
  (w.loop.pending.filterMap Task.request?).filter (·.1 = id)

/-- On the way from one world to another the loop is stopped while a request is in the queue. Its promise is broken. -/
def Dropped (E : World S → World S → Prop) (id : PromiseId) (w w' : World S) : Prop :=
  ∃ u u', E w u ∧ u.requests id ≠ [] ∧ LoopDispatch.stop u = some (.ok (), u') ∧ E u' w' ∧
    w'.replies.get? id = some .broken

/-- What may become of a promise from one world to a later one. Answers are known by a relation between the worlds at
their begin and end, and the worlds in between by another. -/
structure Fate (E : World S → World S → Prop) (A : S.Job → Except Error S.Reply → World S → World S → Prop)
    (id : PromiseId) (w w' : World S) : Prop where
  queued : (w'.requests id).Sublist (w.requests id)
  settled : ¬w.replies.Pending id → w'.replies.get? id = w.replies.get? id
  pending : w.replies.Pending id → w'.replies.Pending id ∨
    w.requests id ≠ [] ∧ Dropped E id w w' ∨
    ∃ j r u u', E w u ∧ ((id, j) :: u.requests id).Sublist (w.requests id) ∧ A j r u u' ∧ E u' w' ∧
      w'.replies.get? id = some (.kept r)

/-- The promises below a bound are kept by answers, or broken. -/
structure Honours (E : World S → World S → Prop) (A : S.Job → Except Error S.Reply → World S → World S → Prop)
    (n : Nat) (w w' : World S) : Prop where
  comes : E w w'
  made : n ≤ w.replies.made → n ≤ w'.replies.made
  fate : n ≤ w.replies.made → ∀ id < n, Fate E A id w w'

/-! ### Posting -/

/-- A request that is posted waits. Where the loop was stopped it is refused and its promise is broken. -/
lemma LoopRequest.post_cases {j : S.Job} {w w' : World S} {r : Except Error PromiseId}
    (hx : LoopRequest.post j w = some (r, w')) :
    r = .ok w.replies.made ∧
      (w'.loop.pending = w.loop.pending ++ [.request w.replies.made j] ∧ w'.replies = w.replies.make.2 ∨
        w.loop.stopped ∧ w'.loop.pending = w.loop.pending ∧
          w'.replies = w.replies.make.2.break_ w.replies.made) := by
  have hpost : LoopRequest.post j w = (do
      LoopDispatch.schedule (.request w.replies.made j)
      return w.replies.made : Eff S PromiseId) { w with replies := w.replies.make.2 } := by
    rw [LoopRequest.post, bind_ok (update_apply _ w)]
    rfl
  rw [hpost] at hx
  rcases bind_eq_some.1 hx with ⟨⟨⟩, w₁, h₁, h₂⟩ | ⟨e, h₁, -⟩
  · cases h₂
    rw [LoopDispatch.schedule_apply] at h₁
    split at h₁
    · next hstop =>
      obtain ⟨hpending, -, hreplies⟩ := Exchange.refuse_loop h₁
      exact ⟨rfl, .inr ⟨hstop, hpending, hreplies⟩⟩
    · obtain ⟨q, rfl, hpending, -⟩ := LoopDispatch.accept_eq h₁
      exact ⟨rfl, .inl ⟨hpending, rfl⟩⟩
  · rw [LoopDispatch.schedule, modify_apply] at h₁
    cases h₁

lemma requests_append {w w' : World S} {m : PromiseId} {j : S.Job}
    (hp : w'.loop.pending = w.loop.pending ++ [.request m j]) (id : PromiseId) :
    w'.requests id = w.requests id ++ if m = id then [(m, j)] else [] := by
  rw [World.requests, hp, List.filterMap_append, List.filter_append]
  by_cases hm : m = id <;> simp [World.requests, Task.request?, hm]

/-- Where a handle is let go of, no request comes or goes. -/
lemma told_requests (w : World S) (key : HandleKey) :
    (w.told key).pending.filterMap Task.request? = w.loop.pending.filterMap Task.request? := by
  unfold World.told
  split
  · split
    · next object generation _ _ =>
      have hx : LoopDispatch.schedule (S := S) (.remove object) w = some (.ok (), _) := modify_apply _ _
      have h := (Exchange.schedule_loop rfl hx).1
      rcases hs : w.loop.schedule (.remove object) with ⟨loop, _ | _⟩ <;> rw [hs] at h <;> exact h
    · rfl
  · rfl

lemma Promises.get?_make_of_lt {p : Promises (Except Error S.Reply)} {id : PromiseId} (hid : id < p.made) :
    p.make.2.get? id = p.get? id := by
  have hb : (id == p.made) = false := beq_false_of_ne hid.ne
  simp only [Promises.get?, Promises.make, List.lookup_append, List.lookup_cons, hb]
  cases p.table.lookup id <;> rfl

/-! ### What may become of a promise -/

section

variable {E : World S → World S → Prop} {A : S.Job → Except Error S.Reply → World S → World S → Prop} {n : Nat}
  {id : PromiseId} {u v w w' : World S}

lemma Fate.of_eq (hq : (w'.requests id).Sublist (w.requests id))
    (hr : w'.replies.get? id = w.replies.get? id) : Fate E A id w w' :=
  ⟨hq, fun _ => hr, fun hp => .inl (hr.trans hp)⟩

variable [IsPreorder (World S) E]

lemma Fate.trans (hwv : E w v) (hvw : E v w') (h : Fate E A id w v) (h' : Fate E A id v w') : Fate E A id w w' := by
  have queued {j : S.Job} {u : World S} (hu : ((id, j) :: u.requests id).Sublist (v.requests id)) := hu.trans h.queued
  have kept {promise : Promise (Except Error S.Reply)} (hv : v.replies.get? id = some promise)
      (hne : promise ≠ .pending) : w'.replies.get? id = some promise :=
    (h'.settled (Promises.not_pending_of_get? hv hne)).trans hv
  refine ⟨h'.queued.trans h.queued, fun hp => ?_, fun hp => ?_⟩
  · have hsame := h.settled hp
    refine (h'.settled ?_).trans hsame
    rwa [Promises.Pending, hsame]
  · rcases h.pending hp with hp' | ⟨hne, u, u', hu, hin, hstop, hu', hb⟩ | ⟨j, r, u, u', hu, hq, ha, hu', hk⟩
    · rcases h'.pending hp' with hp'' | ⟨hne, u, u', hu, hin, hstop, hb⟩ | ⟨j, r, u, u', hu, hq, ha, hu', hk⟩
      · exact .inl hp''
      · refine .inr (.inl ⟨fun hnil => hne ?_, u, u', IsTrans.trans _ _ _ hwv hu, hin, hstop, hb⟩)
        exact List.sublist_nil.1 (hnil ▸ h.queued)
      · exact .inr (.inr ⟨j, r, u, u', IsTrans.trans _ _ _ hwv hu, queued hq, ha, hu', hk⟩)
    · exact .inr (.inl ⟨hne, u, u', hu, hin, hstop, IsTrans.trans _ _ _ hu' hvw, kept hb (by simp)⟩)
    · exact .inr (.inr ⟨j, r, u, u', hu, hq, ha, IsTrans.trans _ _ _ hu' hvw, kept hk (by simp)⟩)

instance : IsPreorder (World S) (Honours E A n) where
  refl w := ⟨refl w, fun hn => hn, fun _ _ _ => .of_eq (List.Sublist.refl _) rfl⟩
  trans _ _ _ h h' :=
    ⟨IsTrans.trans _ _ _ h.comes h'.comes, fun hn => h'.made (h.made hn),
      fun hn k hk => (h.fate hn k hk).trans h.comes h'.comes (h'.fate (h.made hn) k hk)⟩

omit [IsPreorder (World S) E] in
/-- Nothing happens to the promises. -/
lemma Honours.of_same (he : E w w') (hq : ∀ id, (w'.requests id).Sublist (w.requests id))
    (hr : w'.replies = w.replies) : Honours E A n w w' :=
  ⟨he, fun hn => hr ▸ hn, fun _ id _ => .of_eq (hq id) (by rw [hr])⟩

omit [IsPreorder (World S) E] in
lemma requests_sublist (h : w'.loop.pending.Sublist w.loop.pending) (id : PromiseId) :
    (w'.requests id).Sublist (w.requests id) := (h.filterMap _).filter _

end

namespace Honours

variable {E : World S → World S → Prop} [IsPreorder (World S) E] (hc : ∀ {w w' : World S}, Change w w' → E w w')
  {A : S.Job → Except Error S.Reply → World S → World S → Prop} {n : Nat}

include hc

omit [IsPreorder (World S) E] in
lemma change {w w' : World S} (h : Change w w') (hp : w'.loop.pending.Sublist w.loop.pending)
    (hr : w'.replies = w.replies) : Honours E A n w w' :=
  .of_same (hc h) (requests_sublist hp) hr

lemma finalize (key : HandleKey) : Along (Honours E A n) (LoopDispatch.finalize key : Eff S Unit) := by
  intro w r w' h
  rw [LoopDispatch.finalize_apply] at h
  cases h
  refine .of_same (IsTrans.trans _ _ _ (hc (.handles w _ List.filter_sublist)) (hc (.queues _ _ _ _)))
    (fun id => ?_) rfl
  rw [World.requests, told_requests]
  exact List.Sublist.refl _

/-- The requests that a stop drops have their promises broken. -/
lemma stop : Along (Honours E A n) (LoopDispatch.stop : Eff S Unit) := by
  intro w r w' h
  have he : E w w' := Evolution.stop (fun w _ _ _ => hc (.queues w _ _ _)) h
  have hstop := h
  rw [LoopDispatch.stop, modify_apply] at h
  simp only [Exchange.abandonAll_eq, Option.some.injEq, Prod.mk.injEq] at h
  obtain ⟨rfl, rfl⟩ := h
  refine ⟨he, fun hn => ?_, fun hn id hid => ⟨List.nil_sublist _, fun hp => ?_, fun hp => ?_⟩⟩
  · exact (Promises.made_breakAll _ _).symm ▸ hn
  · exact Promises.get?_breakAll_of_not_pending _ hp
  · by_cases hm : id ∈ (w.loop.pending.filterMap Task.request?).map Prod.fst
    · have hne : w.requests id ≠ [] := by
        obtain ⟨e, he, rfl⟩ := List.mem_map.1 hm
        exact List.ne_nil_of_mem (List.mem_filter.2 ⟨he, by simp⟩)
      refine .inr (.inl ⟨hne, w, _, refl w, hne, hstop, refl _, ?_⟩)
      exact (Promises.get?_breakAll _ _).trans (if_pos ⟨hm, hp⟩)
    · exact .inl (((Promises.get?_breakAll _ _).trans (if_neg fun h => hm h.1)).trans hp)

variable {h : Host S}

/-- A task runs. The promise of a request is kept by its answer, unless that was settled meanwhile. -/
lemma run_task (ha : ∀ j w r w', h.answer j w = some (r, w') → Honours E A n w w' ∧ A j r w w')
    (hremove : ∀ id, Along (Honours E A n) (LoopState.removeObject h id)) {t : Task S.Job} {w w₁ w₂ : World S}
    {r : Except Error Unit} (ht : LoopDispatch.take w = some (.ok (some t), w₁))
    (hx : LoopDispatch.run h t w₁ = some (r, w₂)) : Honours E A n w w₂ := by
  have htake : E w w₁ := Evolution.takeTask (fun w _ _ _ => hc (.queues w _ _ _)) ht
  obtain ⟨rest, hpending, rfl⟩ := LoopDispatch.take_some ht
  have taken : Honours E A n w _ := .of_same htake (requests_sublist (hpending ▸ List.sublist_cons_self _ _)) rfl
  cases t with
  | remove id => exact IsTrans.trans _ _ _ taken (Along.bind (hremove id).attempt (fun _ => .pure _) hx)
  | job j =>
    have along : Along (Honours E A n) (h.answer j) := fun w r w' hx => (ha j w r w' hx).1
    exact IsTrans.trans _ _ _ taken (Along.bind along.attempt (fun _ => .pure _) hx)
  | request p j =>
    obtain ⟨q, u, hq, hend⟩ := attempt_bind_eq_some.1 hx
    obtain ⟨hu, hanswer⟩ := ha j _ q u hq
    rw [LoopDispatch.settle, modify_apply] at hend
    obtain ⟨-, rfl⟩ := Prod.mk.inj (Option.some.inj hend)
    have hsettle : E u { u with replies := u.replies.keep p q } := hc (.queues u _ _ _)
    refine ⟨IsTrans.trans _ _ _ (IsTrans.trans _ _ _ htake hu.comes) hsettle,
      fun hn => hu.made hn, fun hn id hid => ?_⟩
    have hfate := (taken.fate hn id hid).trans htake hu.comes (hu.fate (taken.made hn) id hid)
    have other (hne : ¬(id = p ∧ u.replies.Pending id)) :
        (u.replies.keep p q).get? id = u.replies.get? id := Promises.get?_settle_of_not hne
    refine ⟨hfate.queued, fun hp => ?_, fun hp => ?_⟩
    · have hsame := hfate.settled hp
      exact (other fun h => hp (hsame.symm.trans h.2)).trans hsame
    · rcases hfate.pending hp with
        hp' | ⟨hne, v, v', hv, hin, hstop, hv', hb⟩ | ⟨j', r', v, v', hv, hl, ha', hv', hk⟩
      · by_cases hid : id = p
        · subst hid
          refine .inr (.inr ⟨j, q, _, u, htake, ?_, hanswer, hsettle, Promises.get?_settle_self hp'⟩)
          simp [World.requests, hpending, Task.request?]
        · exact .inl ((other fun h => hid h.1).trans hp')
      · exact .inr (.inl ⟨hne, v, v', hv, hin, hstop, IsTrans.trans _ _ _ hv' hsettle,
          (other fun h => Promises.not_pending_of_get? hb (by simp) h.2).trans hb⟩)
      · exact .inr (.inr ⟨j', r', v, v', hv, hl, ha', IsTrans.trans _ _ _ hv' hsettle,
          (other fun h => Promises.not_pending_of_get? hk (by simp) h.2).trans hk⟩)

lemma drain (ha : ∀ j w r w', h.answer j w = some (r, w') → Honours E A n w w' ∧ A j r w w')
    (hremove : ∀ id, Along (Honours E A n) (LoopState.removeObject h id)) (fuel : Nat) :
    Along (Honours E A n) (LoopDispatch.drain h fuel) := by
  induction fuel with
  | zero => exact .stuck
  | succ fuel ih =>
    intro w r w' hx
    cases hp : w.loop.pending with
    | nil =>
      rw [LoopDispatch.drain_of_nil hp] at hx
      cases hx
      exact refl w
    | cons t rest =>
      obtain ⟨w₁, q, hrun, hrest, -⟩ := LoopDispatch.drain_of_cons hp hx
      exact IsTrans.trans _ _ _ (run_task hc ha hremove (LoopDispatch.take_of_cons hp) hrun) (ih hrest)

/-- A wait for a promise that is not below the bound. -/
lemma await {k : PromiseId} (hk : n ≤ k) (hp : Along (Honours E A n) (ScriptDispatch.processPending h))
    (hl : Along (Honours E A n) h.loopTurn) (fuel : Nat) : Along (Honours E A n) (LoopRequest.await h k fuel) := by
  have hforget (w : World S) : Honours E A n w { w with replies := w.replies.forget k } := by
    refine ⟨hc (.queues w _ _ _), fun hn => hn, fun _ id hid => .of_eq (List.Sublist.refl _) ?_⟩
    exact Promises.get?_forget.trans (if_neg fun h => absurd (h ▸ hid) (Nat.not_lt.2 hk))
  exact Along.parametric.awaitReply h h (Along.parametric.collectReply (.modify hforget)) hp hl fuel

lemma posted {j : S.Job} {w w' : World S} {k : PromiseId} (hn : n ≤ w.replies.made)
    (hx : LoopRequest.post j w = some (.ok k, w')) : Honours E A n w w' ∧ n ≤ k := by
  have he : E w w' := Evolution.post (fun w _ _ _ => hc (.queues w _ _ _)) j hx
  obtain ⟨hk, hcases⟩ := LoopRequest.post_cases hx
  cases hk
  refine ⟨?_, hn⟩
  rcases hcases with ⟨hpending, hreplies⟩ | ⟨-, hpending, hreplies⟩
  · refine ⟨he, fun hn => hreplies ▸ Nat.le_succ_of_le hn, fun _ id hid => .of_eq ?_ ?_⟩
    · rw [requests_append hpending, if_neg (hid.trans_le hn).ne', List.append_nil]
    · rw [hreplies, Promises.get?_make_of_lt (hid.trans_le hn)]
  · refine ⟨he, fun hn => hreplies ▸ Nat.le_succ_of_le hn, fun _ id hid => .of_eq ?_ ?_⟩
    · exact requests_sublist (hpending ▸ List.Sublist.refl _) id
    · rw [hreplies, Promises.break_, Promises.get?_settle_of_not fun h => (hid.trans_le hn).ne h.1,
        Promises.get?_make_of_lt (hid.trans_le hn)]

/-- Requests that others send have promises that are not below the bound. -/
lemma send (hp : Along (Honours E A n) (ScriptDispatch.processPending h)) (hl : Along (Honours E A n) h.loopTurn)
    (j : S.Job) : Along (Honours E A n) (LoopRequest.send h j) := by
  have hcomes : Along E (LoopRequest.send h j) :=
    Evolution.sendRequest (fun w _ _ _ => hc (.queues w _ _ _)) (fun _ _ _ h => (hp h).comes)
      (fun _ _ _ h => (hl h).comes) j
  intro w r w' hx
  by_cases hn : n ≤ w.replies.made
  · rcases bind_eq_some.1 hx with ⟨⟨⟩, w₁, henter, hx⟩ | ⟨e, henter, -⟩
    · have henter : Honours E A n w w₁ := by
        cases henter
        exact .change hc (.queues w _ _ _) (List.Sublist.refl _) rfl
      have hn := henter.made hn
      rcases bind_eq_some.1 hx with ⟨k, w₂, hpost, hx⟩ | ⟨e, hpost, -⟩
      · obtain ⟨hposted, hk⟩ := posted hc hn hpost
        have hleave : Along (Honours E A n) (LoopRequest.leave : Eff S Unit) :=
          .modify fun w => .change hc (.queues w _ _ _) (List.Sublist.refl _) rfl
        exact IsTrans.trans _ _ _ henter
          (IsTrans.trans _ _ _ hposted (Along.andFinally (await hc hk hp hl _) hleave hx))
      · cases (LoopRequest.post_cases hpost).1
    · cases henter
  · exact ⟨hcomes hx, fun h => absurd h hn, fun h => absurd h hn⟩

@[reducible]
def permits : Permits (Honours E A n) where
  Answers j r w w' := Honours E A n w w' ∧ A j r w w'
  change h hp hr _ := change hc h hp hr
  finalize := finalize hc
  stop := stop hc
  drain _ := drain hc
  send _ := send hc

end Honours

/-! ### Requests and their answers -/

section

variable {E : World S → World S → Prop} [IsPreorder (World S) E] (hc : ∀ {w w' : World S}, Change w w' → E w w')
  {A : S.Job → Except Error S.Reply → World S → World S → Prop} {h : Host S} {j : S.Job} {w : World S}
  (hpending : Along (Honours E A (w.replies.made + 1)) (ScriptDispatch.processPending h))
  (hturn : Along (Honours E A (w.replies.made + 1)) h.loopTurn)
  (hraise : ∀ v e v', h.loopTurn v ≠ some (.error e, v'))

include hc hpending hturn hraise

/-- What the wait for a posted request ends with. -/
lemma await_answered {u v v' : World S} {r : Except Error S.Reply}
    (hwait : u.replies.Pending w.replies.made ∨ u.replies.get? w.replies.made = some .broken)
    (hmade : u.replies.made = w.replies.made + 1) (hv : Honours E A (w.replies.made + 1) u v) {fuel : Nat}
    (hx : LoopRequest.await h w.replies.made fuel v = some (r, v')) :
    (r = .error .loopGone ∧
        (u.replies.get? w.replies.made = some .broken ∨ ∃ z, Dropped E w.replies.made u z ∧ E z v')) ∨
      ∃ j z z', E u z ∧ ((w.replies.made, j) :: z.requests w.replies.made).Sublist (u.requests w.replies.made) ∧
        A j r z z' ∧ E z' v' := by
  induction fuel generalizing v with
  | zero => cases hx
  | succ fuel ih =>
    have hfate := hv.fate hmade.ge w.replies.made (Nat.lt_succ_self _)
    by_cases hp : v.replies.Pending w.replies.made
    · rw [LoopRequest.await, bind_ok (LoopRequest.collect_of_pending hp)] at hx
      rcases bind_eq_some.1 hx with ⟨k, v₁, hprocess, hx⟩ | ⟨e, hprocess, -⟩
      · have hv₁ := IsTrans.trans _ _ _ hv (hpending hprocess)
        rw [bind_ok (LoopRequest.isPending_apply _ v₁), if_apply] at hx
        split at hx
        · rcases bind_eq_some.1 hx with ⟨_, v₂, hl, hx⟩ | ⟨e, hl, -⟩
          · exact ih (IsTrans.trans _ _ _ hv₁ (hturn hl)) hx
          · exact absurd hl (hraise v₁ e v')
        · exact ih hv₁ hx
      · obtain ⟨⟨k, hk⟩, -⟩ := ScriptDispatch.process_ok hprocess
        cases hk
    · obtain ⟨q, hcollect, hq⟩ := LoopRequest.collect_of_settled hp
      have hforget : E v { v with replies := v.replies.forget w.replies.made } := hc (.queues v _ _ _)
      rw [LoopRequest.await_of_collect hcollect] at hx
      cases hx
      have broken (hb : v.replies.get? w.replies.made = some .broken) : r = .error .loopGone := by
        rcases hq with hkept | ⟨-, hgone⟩
        · rw [hb] at hkept
          cases hkept
        · exact hgone
      rcases hwait with hwait | hbroken
      · rcases hfate.pending hwait with hp' | ⟨-, hdropped⟩ | ⟨j, r', z, z', hz, hl, ha, hz', hk⟩
        · exact absurd hp' hp
        · have hb : v.replies.get? w.replies.made = some .broken := by
            obtain ⟨-, -, -, -, -, -, hb⟩ := hdropped
            exact hb
          exact .inl ⟨broken hb, .inr ⟨v, hdropped, hforget⟩⟩
        · have hkept : r' = r := by
            rcases hq with hkept | ⟨hkept | hkept, -⟩ <;> rw [hk] at hkept <;> cases hkept
            rfl
          exact .inr ⟨j, z, z', hz, hl, hkept ▸ ha, IsTrans.trans _ _ _ hz' hforget⟩
      · exact .inl ⟨broken ((hfate.settled (Promises.not_pending_of_get? hbroken (by simp))).trans hbroken), .inl hbroken⟩

/-- **Whoever sends a request gets the answer that the loop thread gave to it**, unless the loop took no tasks or was
stopped before. The request is in the queue no more when it is answered. -/
lemma send_answered (hfresh : w.replies.Fresh) (hnone : w.requests w.replies.made = []) {w' : World S}
    {r : Except Error S.Reply} (hx : LoopRequest.send h j w = some (r, w')) :
    (r = .error .loopGone ∧ (w.loop.stopped ∨ ∃ v, Dropped E w.replies.made w v ∧ E v w')) ∨
      ∃ u u', E w u ∧ u.requests w.replies.made = [] ∧ A j r u u' ∧ E u' w' := by
  rcases bind_eq_some.1 hx with ⟨⟨⟩, w₁, henter, hx⟩ | ⟨e, henter, -⟩
  · cases henter
    rcases bind_eq_some.1 hx with ⟨k, w₂, hpost, hx⟩ | ⟨e, hpost, -⟩
    · have hsent : E w w₂ := IsTrans.trans _ _ _ (hc (.queues w w.loop.enterWait w.replies w.script))
        (Evolution.post (fun w _ _ _ => hc (.queues w _ _ _)) j hpost)
      obtain ⟨hk, hcases⟩ := LoopRequest.post_cases hpost
      cases hk
      obtain ⟨q, w₃, hawait, hx⟩ := attempt_bind_eq_some.1 hx
      rw [LoopRequest.leave, bind_ok (modify_apply _ w₃), ofExcept_apply] at hx
      cases hx
      have hleave : E w₃ { w₃ with loop := w₃.loop.exitWait } := hc (.queues w₃ _ _ _)
      have hmade : w.replies.make.2.Pending w.replies.made := (Promises.pending_make hfresh).2 (.inr rfl)
      have hwait : (w₂.replies.Pending w.replies.made ∨ w₂.replies.get? w.replies.made = some .broken) ∧
          w₂.replies.made = w.replies.made + 1 := by
        rcases hcases with ⟨-, hreplies⟩ | ⟨-, -, hreplies⟩ <;> rw [hreplies]
        · exact ⟨.inl hmade, rfl⟩
        · exact ⟨.inr (Promises.get?_settle_self hmade), rfl⟩
      have hrefused : w₂.replies.get? w.replies.made = some .broken → w.loop.stopped = true := by
        intro hb
        rcases hcases with ⟨-, hreplies⟩ | ⟨hstop, -⟩
        · rw [hreplies] at hb
          exact absurd hmade (Promises.not_pending_of_get? hb (by simp))
        · exact hstop
      have hqueued : (w₂.requests w.replies.made).Sublist [(w.replies.made, j)] := by
        rcases hcases with ⟨hposted, -⟩ | ⟨-, hposted, -⟩
        · have hold : World.requests { w with loop := w.loop.enterWait } w.replies.made = [] := hnone
          rw [requests_append hposted, if_pos rfl, hold]
          exact List.Sublist.refl _
        · exact (requests_sublist (hposted ▸ List.Sublist.refl _) _).trans (hnone ▸ List.nil_sublist _)
      rcases await_answered hc hpending hturn hraise hwait.1 hwait.2 (refl w₂) hawait with
        ⟨hgone, hb | ⟨z, ⟨v, v', hv, hdropped⟩, hz⟩⟩ | ⟨j', u, u', hu, hq, ha, hu'⟩
      · exact .inl ⟨hgone, .inl (hrefused hb)⟩
      · exact .inl ⟨hgone, .inr ⟨z, ⟨v, v', IsTrans.trans _ _ _ hsent hv, hdropped⟩, IsTrans.trans _ _ _ hz hleave⟩⟩
      · have hone := (hq.trans hqueued).eq_of_length_le (Nat.succ_le_succ (Nat.zero_le _))
        cases (List.cons.inj hone).1
        exact .inr ⟨u, u', IsTrans.trans _ _ _ hsent hu, (List.cons.inj hone).2, ha, IsTrans.trans _ _ _ hu' hleave⟩
    · cases (LoopRequest.post_cases hpost).1
  · cases henter

end

end NativeBridge
