import NativeBridge.Proofs.Evolution.Host
import NativeBridge.Proofs.Evolution.Replies

/-!
Promises that are still to be made. They are new in every world that a bridge comes to, and no request in the queue
waits for one.
-/

namespace NativeBridge

open Eff

variable {S : Sides}

/-- The promise that is made next is new, and nobody waits for it. -/
structure World.Booked (w : World S) : Prop where
  fresh : w.replies.Fresh
  queued : ∀ p ∈ w.loop.pending.filterMap Task.request?, p.1 < w.replies.made

namespace World.Booked

lemma requests {w : World S} (hw : w.Booked) : w.requests w.replies.made = [] :=
  List.filter_eq_nil_iff.2 fun p hp => by simpa using (hw.queued p hp).ne

/-- Fewer requests wait. -/
lemma sublist {w w' : World S} (hw : w.Booked) (hf : w'.replies.Fresh) (hm : w'.replies.made = w.replies.made)
    (hq : (w'.loop.pending.filterMap Task.request?).Sublist (w.loop.pending.filterMap Task.request?)) : w'.Booked :=
  ⟨hf, fun p hp => hm ▸ hw.queued p (hq.subset hp)⟩

lemma opening (native : S.Native) (side : S.Script) (channel : Channel) :
    (World.opening native side channel : World S).Booked :=
  ⟨fun _ he => (by cases he), fun _ hp => (by cases hp)⟩

end World.Booked

/-- Promises that are still to be made stay new. -/
def KeepsBooked (w w' : World S) : Prop := w.Booked → w'.Booked

namespace KeepsBooked

instance : IsPreorder (World S) KeepsBooked where
  refl _ h := h
  trans _ _ _ h h' hw := h' (h hw)

lemma of_same {w w' : World S} (hr : w'.replies = w.replies) (hp : w'.loop.pending.Sublist w.loop.pending) :
    KeepsBooked w w' := fun hw => hw.sublist (hr ▸ hw.fresh) (hr ▸ rfl) (hp.filterMap _)

lemma take : Along KeepsBooked (LoopDispatch.take : Eff S _) := by
  refine .update fun w => ?_
  cases hp : w.loop.pending with
  | nil =>
    rw [LoopQueue.pop_of_nil hp]
    exact refl w
  | cons t rest =>
    rw [LoopQueue.pop_of_cons hp]
    exact of_same rfl (hp ▸ List.sublist_cons_self t rest)

lemma settle (id : PromiseId) (r : Except Error S.Reply) : Along KeepsBooked (LoopDispatch.settle id r : Eff S Unit) :=
  .modify fun _ hw => hw.sublist (hw.fresh.keep id r) rfl (List.Sublist.refl _)

lemma stop : Along KeepsBooked (LoopDispatch.stop : Eff S Unit) := by
  intro w r w' hx hw
  rw [LoopDispatch.stop, modify_apply] at hx
  simp only [Exchange.abandonAll_eq, Option.some.injEq, Prod.mk.injEq] at hx
  obtain ⟨-, rfl⟩ := hx
  exact hw.sublist (hw.fresh.breakAll _) (Promises.made_breakAll _ _) (List.nil_sublist _)

lemma finalize (key : HandleKey) : Along KeepsBooked (LoopDispatch.finalize key : Eff S Unit) := by
  intro w r w' hx hw
  rw [LoopDispatch.finalize_apply] at hx
  cases hx
  exact hw.sublist hw.fresh rfl (told_requests w key ▸ List.Sublist.refl _)

lemma post (j : S.Job) : Along KeepsBooked (LoopRequest.post j : Eff S PromiseId) := by
  intro w r w' hx hw
  have old (p : PromiseId × S.Job) (hp : p ∈ w.loop.pending.filterMap Task.request?) : p.1 < w.replies.made + 1 :=
    (hw.queued p hp).trans (Nat.lt_succ_self _)
  obtain ⟨-, ⟨hpending, hreplies⟩ | ⟨-, hpending, hreplies⟩⟩ := LoopRequest.post_cases hx
  · refine ⟨hreplies ▸ hw.fresh.make, fun p hp => ?_⟩
    rw [hpending, List.filterMap_append, List.mem_append] at hp
    rw [hreplies]
    rcases hp with hp | hp
    · exact old p hp
    · rw [List.mem_singleton.1 hp]
      exact Nat.lt_succ_self _
  · exact ⟨hreplies ▸ hw.fresh.make.settle _ _, fun p hp => hreplies ▸ old p (hpending ▸ hp)⟩

lemma collect (id : PromiseId) : Along KeepsBooked (LoopRequest.collect id : Eff S _) :=
  Along.parametric.collectReply (.modify fun _ hw => hw.sublist (hw.fresh.forget id) rfl (List.Sublist.refl _))

instance : Permits (KeepsBooked (S := S)) where
  Answers _ _ := KeepsBooked
  change _ hp hr _ := of_same hr hp
  finalize := finalize
  stop := stop
  drain h ha := Along.parametric.drain h h take settle fun j w r w' => ha j w r w'
  send _ hp hl j := Along.parametric.send (.modify fun _ => of_same rfl (List.Sublist.refl _)) (post j) collect
    (.modify fun _ => of_same rfl (List.Sublist.refl _)) rfl hp hl

end KeepsBooked

/-- Whatever a bridge does, promises that are still to be made stay new. -/
theorem Host.Tied.keepsBooked {Native Script : Type} {h : Host (Bridge.sides Native Script)} (hh : h.Tied) :
    h.Within KeepsBooked :=
  hh.within fun _ _ hin j _ _ _ hx => Evolution.answer (Evolution.runs hin) j hx

end NativeBridge
