import Mathlib.Data.List.Nodup
import Mathlib.Data.List.Perm.Basic
import Mathlib.Logic.Relation
import NativeBridge.Proofs.Promises

/-!
The book of what one side owes the other. A job is promised, queued, begun and ended, or it is dropped before it begins.
Each promise belongs to one job, and it is settled by the end of that job or broken by its loss.
-/

namespace NativeBridge

/-- Jobs with the numbers of their promises, by how far they have come, and what has happened so far. -/
structure Book (Job Reply : Type) where
  replies : Promises Reply
  /-- promised, and still with their sender -/
  unsent : List (PromiseId × Job)
  queued : List (PromiseId × Job)
  /-- begun, the innermost first -/
  running : List (PromiseId × Job)
  /-- every job that was promised -/
  posted : List (PromiseId × Job)
  /-- every job that was begun, as often as it was -/
  started : List (PromiseId × Job)
  /-- every end of a job, with its result -/
  ended : List (PromiseId × Reply)

namespace Book

variable {Job Reply : Type} {b b' : Book Job Reply} {id : PromiseId}

inductive Step : Book Job Reply → Book Job Reply → Prop where
  | promise (b : Book Job Reply) (j : Job) :
      Step b { b with
        replies := b.replies.make.2
        unsent := (b.replies.made, j) :: b.unsent
        posted := (b.replies.made, j) :: b.posted }
  | send {b : Book Job Reply} {e : PromiseId × Job} {rest : List (PromiseId × Job)} (h : b.unsent = e :: rest) :
      Step b { b with unsent := rest, queued := b.queued ++ [e] }
  | refuse {b : Book Job Reply} {e : PromiseId × Job} {rest : List (PromiseId × Job)} (h : b.unsent = e :: rest) :
      Step b { b with unsent := rest, replies := b.replies.break_ e.1 }
  | begin {b : Book Job Reply} {e : PromiseId × Job} {rest : List (PromiseId × Job)} (h : b.queued = e :: rest) :
      Step b { b with queued := rest, running := e :: b.running, started := e :: b.started }
  | finish {b : Book Job Reply} {e : PromiseId × Job} {rest : List (PromiseId × Job)} (h : b.running = e :: rest)
      (r : Reply) :
      Step b { b with running := rest, replies := b.replies.keep e.1 r, ended := (e.1, r) :: b.ended }
  | sweep (b : Book Job Reply) :
      Step b { b with queued := [], replies := (b.queued.map Prod.fst).foldl Promises.break_ b.replies }

/-- The outcome of a promise is collected. -/
def collect (b : Book Job Reply) (id : PromiseId) : Book Job Reply := { b with replies := b.replies.forget id }

/-- Jobs that are neither done nor dropped. -/
def owing (b : Book Job Reply) : List (PromiseId × Job) := b.unsent ++ b.queued ++ b.running

/-- A promise is pending as long as its job is owed. A job is begun once at most, and each job that was begun is running
or has ended. What is kept is the result of the job, and what is broken was never begun. -/
structure Sound (b : Book Job Reply) : Prop where
  fresh : b.replies.Fresh
  owed : ∀ id, b.replies.Pending id ↔ id ∈ b.owing.map Prod.fst
  distinct : (b.owing.map Prod.fst).Nodup
  unbegun : ∀ e ∈ b.unsent ++ b.queued, e.1 ∉ b.started.map Prod.fst
  begun : (b.started.map Prod.fst).Perm (b.running.map Prod.fst ++ b.ended.map Prod.fst)
  once : (b.started.map Prod.fst).Nodup
  kept : ∀ id r, b.replies.get? id = some (.kept r) → (id, r) ∈ b.ended
  broken : ∀ id, b.replies.get? id = some .broken → id ∉ b.started.map Prod.fst
  posted : ∀ e ∈ b.owing ++ b.started, e ∈ b.posted
  own : (b.posted.map Prod.fst).Nodup
  numbered : ∀ e ∈ b.posted, e.1 < b.replies.made

namespace Sound

lemma lt_made_of_owing (h : b.Sound) (hid : id ∈ b.owing.map Prod.fst) : id < b.replies.made := by
  obtain ⟨e, he, rfl⟩ := List.mem_map.1 hid
  exact h.numbered e (h.posted e (List.mem_append_left _ he))

lemma lt_made_of_started (h : b.Sound) (hid : id ∈ b.started.map Prod.fst) : id < b.replies.made := by
  obtain ⟨e, he, rfl⟩ := List.mem_map.1 hid
  exact h.numbered e (h.posted e (List.mem_append_right _ he))

lemma promise (h : b.Sound) (j : Job) :
    Sound { b with
      replies := b.replies.make.2
      unsent := (b.replies.made, j) :: b.unsent
      posted := (b.replies.made, j) :: b.posted } := by
  have hnew {id : PromiseId} (hid : id < b.replies.made) : id ≠ b.replies.made := hid.ne
  refine ⟨h.fresh.make, fun k => ?_, ?_, ?_, h.begun, h.once, fun k r hk => ?_, fun k hk => ?_, ?_, ?_, ?_⟩
  · refine (Promises.pending_make h.fresh).trans ?_
    rw [h.owed k, or_comm]
    exact List.mem_cons.symm
  · exact List.nodup_cons.2 ⟨fun hid => hnew (h.lt_made_of_owing hid) rfl, h.distinct⟩
  · exact List.forall_mem_cons.2 ⟨fun hid => hnew (h.lt_made_of_started hid) rfl, h.unbegun⟩
  · rw [Promises.get?_make h.fresh] at hk
    split at hk
    · cases hk
    · exact h.kept k r hk
  · rw [Promises.get?_make h.fresh] at hk
    split at hk
    · cases hk
    · exact h.broken k hk
  · exact List.forall_mem_cons.2 ⟨List.mem_cons_self, fun e he => List.mem_cons_of_mem _ (h.posted e he)⟩
  · refine List.nodup_cons.2 ⟨fun hid => ?_, h.own⟩
    obtain ⟨e, he, heq⟩ := List.mem_map.1 hid
    exact hnew (h.numbered e he) heq
  · exact List.forall_mem_cons.2 ⟨Nat.lt_succ_self _, fun e he => (h.numbered e he).trans (Nat.lt_succ_self _)⟩

lemma send (h : b.Sound) {e : PromiseId × Job} {rest : List (PromiseId × Job)} (hu : b.unsent = e :: rest) :
    Sound { b with unsent := rest, queued := b.queued ++ [e] } := by
  have hperm : (rest ++ (b.queued ++ [e]) ++ b.running).Perm b.owing := by
    rw [owing, hu, ← List.append_assoc, List.cons_append]
    exact (List.perm_append_singleton e (rest ++ b.queued)).append_right b.running
  have hkeys := hperm.map Prod.fst
  refine ⟨h.fresh, fun k => (h.owed k).trans hkeys.mem_iff.symm, hkeys.nodup_iff.2 h.distinct, fun d hd => ?_, h.begun,
    h.once, h.kept, h.broken, fun d hd => ?_, h.own, h.numbered⟩
  · refine h.unbegun d ?_
    simp only [hu, List.mem_append, List.mem_cons] at hd ⊢
    tauto
  · exact h.posted d (((hperm.append_right b.started).mem_iff).1 hd)

lemma refuse (h : b.Sound) {e : PromiseId × Job} {rest : List (PromiseId × Job)} (hu : b.unsent = e :: rest) :
    Sound { b with unsent := rest, replies := b.replies.break_ e.1 } := by
  have howing : b.owing = e :: (rest ++ b.queued ++ b.running) := by rw [owing, hu]; rfl
  have hdistinct := h.distinct
  rw [howing, List.map_cons] at hdistinct
  have hnot : e.1 ∉ b.started.map Prod.fst := h.unbegun e (by simp [hu])
  have hbroken : (.broken : Promise Reply) ≠ .pending := nofun
  refine ⟨h.fresh.settle _ _, fun k => ?_, hdistinct.of_cons, fun d hd => h.unbegun d ?_, h.begun, h.once,
    fun k r hk => ?_, fun k hk => ?_, fun d hd => h.posted d ?_, h.own, h.numbered⟩
  · refine (Promises.pending_settle hbroken).trans ?_
    rw [h.owed k, howing, List.map_cons, and_comm, ← hdistinct.mem_erase_iff, List.erase_cons_head]
    exact Iff.rfl
  · rw [hu]
    exact List.mem_cons_of_mem _ hd
  · rw [Promises.break_, Promises.get?_settle] at hk
    split at hk
    · cases hk
    · exact h.kept k r hk
  · rw [Promises.break_, Promises.get?_settle] at hk
    split at hk
    next hself => exact hself.1 ▸ hnot
    next => exact h.broken k hk
  · rw [howing]
    exact List.mem_cons_of_mem _ hd

lemma begin (h : b.Sound) {e : PromiseId × Job} {rest : List (PromiseId × Job)} (hq : b.queued = e :: rest) :
    Sound { b with queued := rest, running := e :: b.running, started := e :: b.started } := by
  have hperm : (b.unsent ++ rest ++ e :: b.running).Perm b.owing := by
    rw [owing, hq, List.append_assoc, List.append_assoc, List.cons_append]
    exact List.perm_middle.append_left b.unsent
  have hkeys := hperm.map Prod.fst
  have hnot : e.1 ∉ b.started.map Prod.fst := h.unbegun e (by simp [hq])
  have hpending : b.replies.Pending e.1 := (h.owed e.1).2 (List.mem_map_of_mem (by simp [owing, hq]))
  refine ⟨h.fresh, fun k => (h.owed k).trans hkeys.mem_iff.symm, hkeys.nodup_iff.2 h.distinct, fun d hd hid => ?_,
    h.begun.cons e.1, List.nodup_cons.2 ⟨hnot, h.once⟩, h.kept, fun k hk hid => ?_, fun d hd => ?_, h.own, h.numbered⟩
  · rcases List.mem_cons.1 hid with heq | hid
    · have hdistinct := hkeys.nodup_iff.2 h.distinct
      rw [List.map_append, List.nodup_append] at hdistinct
      exact hdistinct.2.2 _ (List.mem_map_of_mem hd) _ List.mem_cons_self heq
    · refine h.unbegun d ?_ hid
      simp only [hq, List.mem_append, List.mem_cons] at hd ⊢
      tauto
  · rcases List.mem_cons.1 hid with rfl | hid
    · cases hk.symm.trans hpending
    · exact h.broken k hk hid
  · refine h.posted d ?_
    have he : e ∈ b.owing := hperm.mem_iff.1 (by simp)
    rcases List.mem_append.1 hd with hd | hd
    · exact List.mem_append_left _ (hperm.mem_iff.1 hd)
    · rcases List.mem_cons.1 hd with rfl | hd
      · exact List.mem_append_left _ he
      · exact List.mem_append_right _ hd

lemma finish (h : b.Sound) {e : PromiseId × Job} {rest : List (PromiseId × Job)} (hr : b.running = e :: rest)
    (r : Reply) :
    Sound { b with running := rest, replies := b.replies.keep e.1 r, ended := (e.1, r) :: b.ended } := by
  have hperm : (e :: (b.unsent ++ b.queued ++ rest)).Perm b.owing := by
    rw [owing, hr]
    exact List.perm_middle.symm
  have hkeys := hperm.map Prod.fst
  have hdistinct := hkeys.nodup_iff.2 h.distinct
  rw [List.map_cons] at hdistinct
  have hkept : Promise.kept r ≠ .pending := nofun
  have hstarted : e.1 ∈ b.started.map Prod.fst := h.begun.mem_iff.2 (by simp [hr])
  refine ⟨h.fresh.settle _ _, fun k => ?_, hdistinct.of_cons, h.unbegun, ?_, h.once, fun k v hk => ?_,
    fun k hk => ?_, fun d hd => h.posted d ?_, h.own, h.numbered⟩
  · refine (Promises.pending_settle hkept).trans ?_
    rw [h.owed k, ← hkeys.mem_iff, List.map_cons, and_comm, ← hdistinct.mem_erase_iff, List.erase_cons_head]
    exact Iff.rfl
  · refine h.begun.trans ?_
    rw [hr]
    exact List.perm_middle.symm
  · rw [Promises.keep, Promises.get?_settle] at hk
    split at hk
    next hself =>
      cases hk
      exact hself.1 ▸ List.mem_cons_self
    next => exact List.mem_cons_of_mem _ (h.kept k v hk)
  · rw [Promises.keep, Promises.get?_settle] at hk
    split at hk
    · cases hk
    · exact h.broken k hk
  · rcases List.mem_append.1 hd with hd | hd
    · exact List.mem_append_left _ (hperm.mem_iff.1 (List.mem_cons_of_mem _ hd))
    · exact List.mem_append_right _ hd

lemma sweep (h : b.Sound) :
    Sound { b with queued := [], replies := (b.queued.map Prod.fst).foldl Promises.break_ b.replies } := by
  have hperm : (b.queued ++ (b.unsent ++ [] ++ b.running)).Perm b.owing := by
    rw [owing, List.append_nil, ← List.append_assoc]
    exact List.perm_append_comm.append_right b.running
  have hkeys := hperm.map Prod.fst
  have hdistinct := hkeys.nodup_iff.2 h.distinct
  rw [List.map_append, List.nodup_append] at hdistinct
  refine ⟨h.fresh.breakAll _, fun k => ?_, hdistinct.2.1, fun d hd => h.unbegun d ?_, h.begun, h.once, fun k r hk => ?_,
    fun k hk => ?_, fun d hd => h.posted d ?_, h.own, fun d hd => ?_⟩
  · rw [Promises.Pending, Promises.get?_breakAll]
    split
    next hk => exact iff_of_false (by simp) fun hid => hdistinct.2.2 _ hk.1 _ hid rfl
    next hk =>
      refine (h.owed k).trans ?_
      rw [← hkeys.mem_iff, List.map_append, List.mem_append]
      exact ⟨fun hid => hid.resolve_left fun hq => hk ⟨hq, (h.owed k).2 (hkeys.mem_iff.1 (by simpa using hid))⟩, .inr⟩
  · rw [List.append_nil] at hd
    exact List.mem_append_left _ hd
  · rw [Promises.get?_breakAll] at hk
    split at hk
    · cases hk
    · exact h.kept k r hk
  · rw [Promises.get?_breakAll] at hk
    split at hk
    next hdropped =>
      obtain ⟨d, hd, rfl⟩ := List.mem_map.1 hdropped.1
      exact h.unbegun d (List.mem_append_right _ hd)
    next => exact h.broken k hk
  · rcases List.mem_append.1 hd with hd | hd
    · exact List.mem_append_left _ (hperm.mem_iff.1 (List.mem_append_right _ hd))
    · exact List.mem_append_right _ hd
  · rw [Promises.made_breakAll]
    exact h.numbered d hd

lemma collect (h : b.Sound) (hid : ¬b.replies.Pending id) : (b.collect id).Sound := by
  refine ⟨h.fresh.forget id, fun k => ?_, h.distinct, h.unbegun, h.begun, h.once, fun k r hk => ?_, fun k hk => ?_,
    h.posted, h.own, h.numbered⟩
  · refine Promises.pending_forget.trans (Iff.trans ?_ (h.owed k))
    exact ⟨And.left, fun hk => ⟨hk, fun heq => hid (heq ▸ hk)⟩⟩
  · rw [Book.collect, Promises.get?_forget] at hk
    split at hk
    · cases hk
    · exact h.kept k r hk
  · rw [Book.collect, Promises.get?_forget] at hk
    split at hk
    · cases hk
    · exact h.broken k hk

lemma step (h : b.Sound) (hs : Step b b') : b'.Sound := by
  cases hs with
  | promise j => exact h.promise j
  | send hu => exact h.send hu
  | refuse hu => exact h.refuse hu
  | begin hq => exact h.begin hq
  | finish hr r => exact h.finish hr r
  | sweep => exact h.sweep

end Sound

/-- A book in which nothing is written. -/
lemma Sound.of_nothing (hreplies : b.replies.table = []) (howing : b.owing = []) (hposted : b.posted = [])
    (hstarted : b.started = []) (hended : b.ended = []) : b.Sound := by
  have hnone (id : PromiseId) : b.replies.get? id = none := by simp [Promises.get?, hreplies]
  simp only [owing, List.append_eq_nil_iff] at howing
  obtain ⟨⟨hunsent, hqueued⟩, hrunning⟩ := howing
  refine ⟨?_, fun id => ?_, ?_, ?_, ?_, ?_, fun id r hk => ?_, fun id hk => ?_, ?_, ?_, ?_⟩
  · intro e he
    rw [hreplies] at he
    cases he
  · simp [Promises.Pending, hnone, owing, hunsent, hqueued, hrunning]
  · simp [owing, hunsent, hqueued, hrunning]
  · simp [hunsent, hqueued]
  · simp [hstarted, hrunning, hended]
  · simp [hstarted]
  · cases (hnone id).symm.trans hk
  · cases (hnone id).symm.trans hk
  · simp [owing, hunsent, hqueued, hrunning, hstarted]
  · simp [hposted]
  · simp [hposted]

/-! ### What was begun, and what never is -/

/-- Each job ends once at most, and a job that has ended was begun. -/
lemma Sound.ended_nodup (h : b.Sound) : (b.ended.map Prod.fst).Nodup :=
  (List.nodup_append.1 (h.begun.nodup_iff.1 h.once)).2.1

lemma Sound.started_of_ended (h : b.Sound) (hid : id ∈ b.ended.map Prod.fst) : id ∈ b.started.map Prod.fst :=
  h.begun.mem_iff.2 (List.mem_append_right _ hid)

/-- A job that has ended is neither to be sent nor queued nor running. -/
lemma Sound.not_owing_of_ended (h : b.Sound) (hid : id ∈ b.ended.map Prod.fst) : id ∉ b.owing.map Prod.fst := by
  intro howing
  obtain ⟨e, he, rfl⟩ := List.mem_map.1 howing
  rcases List.mem_append.1 he with he | he
  · exact h.unbegun e he (h.started_of_ended hid)
  · exact (List.nodup_append.1 (h.begun.nodup_iff.1 h.once)).2.2 _ (List.mem_map_of_mem he) _ hid rfl

/-- What a job has ended with is what its promise was kept with. -/
lemma Sound.kept_of_ended (h : b.Sound) (hne : b.replies.get? id ≠ none) {r : Reply} (hid : (id, r) ∈ b.ended) :
    b.replies.get? id = some (.kept r) := by
  have hended : id ∈ b.ended.map Prod.fst := List.mem_map_of_mem hid
  rcases hp : b.replies.get? id with _ | ⟨_ | r' | _⟩
  · exact (hne hp).elim
  · exact (h.not_owing_of_ended hended ((h.owed id).1 hp)).elim
  · have hsame := List.inj_on_of_nodup_map h.ended_nodup (h.kept id r' hp) hid rfl
    rw [(Prod.mk.inj hsame).2]
  · exact (h.broken id hp (h.started_of_ended hended)).elim

/-- A job that is gone without having begun has broken its promise. -/
lemma Sound.broken_of_gone (h : b.Sound) (hne : b.replies.get? id ≠ none) (howing : id ∉ b.owing.map Prod.fst)
    (hstarted : id ∉ b.started.map Prod.fst) : b.replies.get? id = some .broken := by
  rcases hp : b.replies.get? id with _ | ⟨_ | r | _⟩
  · exact (hne hp).elim
  · exact (howing ((h.owed id).1 hp)).elim
  · exact (hstarted (h.started_of_ended (List.mem_map_of_mem (h.kept id r hp)))).elim
  · rfl

/-- The job of the promise was dropped before it began. -/
structure Lost (b : Book Job Reply) (id : PromiseId) : Prop where
  made : id < b.replies.made
  owing : id ∉ b.owing.map Prod.fst
  started : id ∉ b.started.map Prod.fst

lemma Sound.lost (h : b.Sound) (hid : b.replies.get? id = some .broken) : b.Lost id := by
  refine ⟨Promises.lt_made_of_get? h.fresh hid, fun howing => ?_, h.broken id hid⟩
  cases hid.symm.trans ((h.owed id).2 howing)

/-- A job that was dropped is never begun. -/
lemma Lost.step (h : b.Lost id) (hs : Step b b') : b'.Lost id := by
  obtain ⟨hmade, howing, hstarted⟩ := h
  simp only [Book.owing, List.map_append, List.mem_append, not_or] at howing
  obtain ⟨⟨hunsent, hqueued⟩, hrunning⟩ := howing
  have lost {b' : Book Job Reply} (hmade : id < b'.replies.made) (hu : id ∉ b'.unsent.map Prod.fst)
      (hq : id ∉ b'.queued.map Prod.fst) (hr : id ∉ b'.running.map Prod.fst) (hs : id ∉ b'.started.map Prod.fst) :
      b'.Lost id :=
    ⟨hmade, by simp only [Book.owing, List.map_append, List.mem_append, not_or]; exact ⟨⟨hu, hq⟩, hr⟩, hs⟩
  cases hs with
  | promise j =>
    exact lost (hmade.trans (Nat.lt_succ_self _)) (List.not_mem_cons_of_ne_of_not_mem hmade.ne hunsent) hqueued hrunning
      hstarted
  | send hu =>
    rw [hu, List.map_cons, List.mem_cons, not_or] at hunsent
    exact lost hmade hunsent.2 (by simpa [hunsent.1] using hqueued) hrunning hstarted
  | refuse hu =>
    rw [hu, List.map_cons, List.mem_cons, not_or] at hunsent
    exact lost hmade hunsent.2 hqueued hrunning hstarted
  | begin hq =>
    rw [hq, List.map_cons, List.mem_cons, not_or] at hqueued
    exact lost hmade hunsent hqueued.2 (List.not_mem_cons_of_ne_of_not_mem hqueued.1 hrunning)
      (List.not_mem_cons_of_ne_of_not_mem hqueued.1 hstarted)
  | finish hr r =>
    rw [hr, List.map_cons, List.mem_cons, not_or] at hrunning
    exact lost hmade hunsent hqueued hrunning.2 hstarted
  | sweep => exact lost (by rwa [Promises.made_breakAll]) hunsent List.not_mem_nil hrunning hstarted

lemma Lost.collect (h : b.Lost id) (k : PromiseId) : (b.collect k).Lost id := ⟨h.made, h.owing, h.started⟩

/-! ### What lasts -/

lemma Step.posted_subset (hs : Step b b') : b.posted ⊆ b'.posted := by
  cases hs with
  | promise j => exact List.subset_cons_self _ _
  | _ => exact List.Subset.refl _

lemma Step.ended_subset (hs : Step b b') : b.ended ⊆ b'.ended := by
  cases hs with
  | finish hr r => exact List.subset_cons_self _ _
  | _ => exact List.Subset.refl _

/-- No promise is forgotten before its outcome is collected. -/
lemma Step.get?_ne_none (hb : b.Sound) (hs : Step b b') (h : b.replies.get? id ≠ none) :
    b'.replies.get? id ≠ none := by
  cases hs with
  | promise j =>
    rw [Promises.get?_make hb.fresh]
    split <;> simp [h]
  | refuse hu =>
    rw [Promises.break_, Promises.get?_settle]
    split <;> simp [h]
  | finish hr r =>
    rw [Promises.keep, Promises.get?_settle]
    split <;> simp [h]
  | sweep =>
    rw [Promises.get?_breakAll]
    split <;> simp [h]
  | _ => exact h

/-- A promise that is settled is never settled again. -/
lemma Step.get?_settled (hb : b.Sound) (hs : Step b b') {p : Promise Reply} (h : b.replies.get? id = some p)
    (hp : p ≠ .pending) : b'.replies.get? id = some p := by
  have hnot : ¬b.replies.Pending id := Promises.not_pending_of_get? h hp
  cases hs with
  | promise j => rwa [Promises.get?_make hb.fresh, if_neg (Promises.lt_made_of_get? hb.fresh h).ne]
  | refuse hu => exact (Promises.get?_settle_of_not_pending hnot).trans h
  | finish hr r => exact (Promises.get?_settle_of_not_pending hnot).trans h
  | sweep => exact (Promises.get?_breakAll_of_not_pending _ hnot).trans h
  | _ => exact h

/-! ### Runs -/

abbrev Run : Book Job Reply → Book Job Reply → Prop := Relation.ReflTransGen Step

namespace Run

lemma sound (hr : Run b b') (h : b.Sound) : b'.Sound := by
  induction hr with
  | refl => exact h
  | tail _ hs ih => exact ih.step hs

lemma get?_ne_none (hr : Run b b') (hb : b.Sound) (h : b.replies.get? id ≠ none) : b'.replies.get? id ≠ none := by
  induction hr with
  | refl => exact h
  | tail hr hs ih => exact hs.get?_ne_none (sound hr hb) ih

lemma get?_settled (hr : Run b b') (hb : b.Sound) {p : Promise Reply} (h : b.replies.get? id = some p)
    (hp : p ≠ .pending) : b'.replies.get? id = some p := by
  induction hr with
  | refl => exact h
  | tail hr hs ih => exact hs.get?_settled (sound hr hb) ih hp

end Run

end Book

end NativeBridge
