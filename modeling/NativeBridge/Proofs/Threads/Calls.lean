import Mathlib.Data.List.Range
import Mathlib.Logic.Relation
import NativeBridge.Dispatch.ScriptQueue
import NativeBridge.Proofs.Promises

/-!
The calls that two threads have between them: which are queued, which run on the scripting thread, and which the loop
thread waits for. Whatever else the threads do, they change these by the steps that are listed here.
-/

namespace NativeBridge

namespace Threads

/-- How the scripting thread comes to know of a call that the loop thread waits for: it looks for itself, or a wake-up
is still to be sent, or was sent. -/
inductive Notice where
  | itself | due | sent
  deriving DecidableEq

/-- Calls between two threads. -/
structure Calls where
  queue : ScriptQueue
  /-- calls that run on the scripting thread, the innermost first -/
  calling : List PromiseId
  /-- drains that run there for a wake-up -/
  woken : Nat
  /-- calls that the loop thread waits for, the innermost first -/
  waits : List (PromiseId × Notice)

namespace Calls

/-- The calls that are queued, in order. -/
def queued (c : Calls) : List PromiseId := c.queue.pending.map PendingCall.promise

/-- The numbers of the calls that the loop thread waits for. -/
def awaited (c : Calls) : List PromiseId := c.waits.map Prod.fst

lemma awaited_cons {c : Calls} {id : PromiseId} {notice : Notice} {waits : List (PromiseId × Notice)}
    (h : c.waits = (id, notice) :: waits) : c.awaited = id :: waits.map Prod.fst := by
  rw [awaited, h]
  rfl

/-- How many calls have been made. -/
def made (c : Calls) : Nat := c.queue.results.made

/-- Nobody has answered the call. -/
def Unanswered (c : Calls) (id : PromiseId) : Prop := c.queue.results.Pending id

/-- What the scripting thread does to calls. -/
inductive ScriptStep : Calls → Calls → Prop where
  | take {c : Calls} {call : PendingCall} {pending : List PendingCall} (h : c.queue.pending = call :: pending) :
      ScriptStep c { c with queue := { c.queue with pending }, calling := call.promise :: c.calling }
  | settle {c : Calls} {id : PromiseId} {calling : List PromiseId} (h : c.calling = id :: calling) (r : ScriptResult) :
      ScriptStep c { c with queue := { c.queue with results := c.queue.results.keep id r }, calling }
  /-- one wake-up is delivered, which may have been sent for an earlier queue -/
  | deliver {c : Calls} {generation : Nat} {mailbox : List Nat} (h : c.queue.mailbox = generation :: mailbox) :
      ScriptStep c { c with
        queue := { c.queue with mailbox }
        woken := if c.queue.generation = generation then c.woken + 1 else c.woken }
  | drained {c : Calls} {woken : Nat} (h : c.woken = woken + 1) (hq : c.queue.pending = []) :
      ScriptStep c { c with woken }
  | clear {c : Calls} (h : c.waits = []) : ScriptStep c { c with queue := c.queue.clear }

/-- What the loop thread does to calls. -/
inductive LoopStep : Calls → Calls → Prop where
  | push (c : Calls) (function : Option FunctionId) (args : List Value) (capture synchronous : Bool) :
      LoopStep c { c with
        queue := (c.queue.push function args capture).2
        waits := (c.queue.results.made, if synchronous then .itself else .due) :: c.waits }
  | announce {c : Calls} {id : PromiseId} {waits : List (PromiseId × Notice)} (h : c.waits = (id, .due) :: waits) :
      LoopStep c { c with
        queue := if c.queue.channel = .eventLoop then c.queue.sendWakeup else c.queue
        waits := (id, .sent) :: waits }
  | collect {c : Calls} {id : PromiseId} {notice : Notice} {waits : List (PromiseId × Notice)}
      (h : c.waits = (id, notice) :: waits) (ha : ¬c.Unanswered id) :
      LoopStep c { c with queue := { c.queue with results := c.queue.results.forget id }, waits }

lemma LoopStep.made_le (h : LoopStep c c') : c.made ≤ c'.made := by
  cases h with
  | push => exact Nat.le_succ _
  | announce =>
    dsimp only [made]
    split <;> rfl
  | collect => rfl

/-- The queue is the tail of all calls that were made; a call is unanswered while it is queued or runs, and then the
loop thread waits for it; calls run and are waited for in the order in which they are nested. -/
structure Sound (c : Calls) : Prop where
  fresh : c.queue.results.Fresh
  tail : ∃ first ≤ c.queue.results.made, c.queued = List.range' first (c.queue.results.made - first) ∧
    ∀ id ∈ c.calling, id < first
  nested : c.calling.Pairwise (· > ·)
  unanswered : ∀ id, c.Unanswered id ↔ id ∈ c.queued ∨ id ∈ c.calling
  waited : ∀ id, c.Unanswered id → id ∈ c.awaited
  ordered : (c.awaited).Pairwise (· > ·)
  made : ∀ id ∈ c.awaited, id < c.queue.results.made

variable {c c' : Calls}

/-- Nothing is queued when nothing is waited for. -/
lemma Sound.clear_eq (h : c.Sound) (hw : c.waits = []) : c.queue.clear = c.queue := by
  have hnone : ∀ id, ¬c.Unanswered id := fun id hu => by simpa [awaited, hw] using h.waited id hu
  have hpending : c.queue.pending = [] := by
    refine List.eq_nil_iff_forall_not_mem.2 fun call hcall => hnone call.promise ?_
    exact (h.unanswered _).2 (.inl (List.mem_map_of_mem hcall))
  simp only [ScriptQueue.clear, hpending, List.foldl_nil]
  rw [← hpending]

namespace Sound

lemma script (h : c.Sound) (hs : ScriptStep c c') : c'.Sound := by
  obtain ⟨first, hle, hq, hc⟩ := h.tail
  cases hs with
  | @take call pending hp =>
    have hcons : c.queued = call.promise :: pending.map PendingCall.promise := by simp [Calls.queued, hp]
    obtain ⟨n, hn⟩ : ∃ n, c.queue.results.made - first = n + 1 := by
      refine Nat.exists_eq_add_one.2 (Nat.pos_of_ne_zero fun h0 => ?_)
      rw [h0, hcons] at hq
      cases hq
    rw [hn, List.range'_succ, hcons, List.cons.injEq] at hq
    obtain ⟨hfirst, hrest⟩ := hq
    have hlt : first + 1 ≤ c.queue.results.made := by omega
    refine ⟨h.fresh, ⟨first + 1, hlt, ?_, ?_⟩, ?_, fun id => ?_, h.waited, h.ordered, h.made⟩
    · rw [show c.queue.results.made - (first + 1) = n by omega]
      exact hrest
    · rw [hfirst]
      exact List.forall_mem_cons.2 ⟨Nat.lt_succ_self _, fun id hid => (hc id hid).trans (Nat.lt_succ_self _)⟩
    · rw [hfirst]
      exact List.pairwise_cons.2 ⟨hc, h.nested⟩
    · refine (h.unanswered id).trans ?_
      rw [hcons, List.mem_cons, List.mem_cons]
      exact ⟨fun hid => by tauto, fun hid => by tauto⟩
  | @settle id calling hcalling r =>
    have hnested := hcalling ▸ h.nested
    have hbelow := hcalling ▸ hc
    rw [List.forall_mem_cons] at hbelow
    refine ⟨h.fresh.keep id r, ⟨first, hle, hq, hbelow.2⟩, hnested.of_cons, fun k => ?_, fun k hk => ?_, h.ordered,
      h.made⟩
    · have hqueued : id ∉ c.queued := fun hid => by
        rw [hq, List.mem_range'_1] at hid
        exact absurd hid.1 (Nat.not_le.2 hbelow.1)
      have hcallings : id ∉ calling := fun hid => lt_irrefl _ (List.rel_of_pairwise_cons hnested hid)
      refine Promises.pending_keep r |>.trans ?_
      have hk := h.unanswered k
      rw [hcalling, List.mem_cons] at hk
      constructor
      · rintro ⟨hu, hne⟩
        have := hk.1 hu
        tauto
      · intro hmem
        refine ⟨hk.2 (by tauto), ?_⟩
        rintro rfl
        exact hmem.elim hqueued hcallings
    · exact h.waited k (Promises.pending_keep r |>.1 hk).1
  | deliver hm => exact ⟨h.fresh, ⟨first, hle, hq, hc⟩, h.nested, h.unanswered, h.waited, h.ordered, h.made⟩
  | drained => exact ⟨h.fresh, ⟨first, hle, hq, hc⟩, h.nested, h.unanswered, h.waited, h.ordered, h.made⟩
  | clear hw =>
    rw [h.clear_eq hw]
    exact h

lemma loop (h : c.Sound) (hs : LoopStep c c') : c'.Sound := by
  obtain ⟨first, hle, hq, hc⟩ := h.tail
  cases hs with
  | push function args capture synchronous =>
    have hmade : (c.queue.push function args capture).2.results.made = c.queue.results.made + 1 := rfl
    have hqueued : (c.queue.push function args capture).2.pending.map PendingCall.promise =
        c.queued ++ [c.queue.results.made] := by
      simp [ScriptQueue.push, Promises.make, Calls.queued]
    have hunanswered (id : PromiseId) :
        (c.queue.push function args capture).2.results.Pending id ↔ c.Unanswered id ∨ id = c.queue.results.made :=
      Promises.pending_make h.fresh
    refine ⟨h.fresh.make, ⟨first, hle.trans (Nat.le_succ _), ?_, hc⟩, h.nested, fun id => ?_, fun id hid => ?_, ?_, ?_⟩
    · refine hqueued.trans ?_
      rw [hq, hmade, Nat.succ_sub hle, List.range'_1_concat, Nat.add_sub_cancel' hle]
    · refine (hunanswered id).trans ?_
      rw [Calls.queued, hqueued, List.mem_append, List.mem_singleton, h.unanswered id]
      tauto
    · rcases (hunanswered id).1 hid with hid | rfl
      · exact List.mem_cons_of_mem _ (h.waited id hid)
      · exact List.mem_cons_self
    · exact List.pairwise_cons.2 ⟨fun id hid => h.made id hid, h.ordered⟩
    · exact List.forall_mem_cons.2 ⟨Nat.lt_succ_self _, fun id hid => (h.made id hid).trans (Nat.lt_succ_self _)⟩
  | @announce id waits hw =>
    have hids := awaited_cons hw
    have hwaited := h.waited
    have hordered := h.ordered
    have hmade := h.made
    rw [hids] at hwaited hordered hmade
    split
    all_goals exact ⟨h.fresh, ⟨first, hle, hq, hc⟩, h.nested, h.unanswered, hwaited, hordered, hmade⟩
  | @collect id notice waits hw ha =>
    have hids := awaited_cons hw
    have hordered := h.ordered
    have hmade := h.made
    rw [hids] at hordered hmade
    have hforget (k : PromiseId) :
        (c.queue.results.forget id).Pending k ↔ c.Unanswered k := by
      rw [Promises.pending_forget]
      exact ⟨And.left, fun hk => ⟨hk, fun hid => ha (hid ▸ hk)⟩⟩
    refine ⟨h.fresh.forget id, ⟨first, hle, hq, hc⟩, h.nested, fun k => (hforget k).trans (h.unanswered k),
      fun k hk => ?_, hordered.of_cons, (List.forall_mem_cons.1 hmade).2⟩
    have hk' := (hforget k).1 hk
    have hwaited := h.waited k hk'
    rw [hids, List.mem_cons] at hwaited
    rcases hwaited with rfl | hwaited
    · exact absurd hk' ha
    · exact hwaited

end Sound

/-! ### What lasts from step to step -/

/-- A step of either thread. -/
def Step (c c' : Calls) : Prop := ScriptStep c c' ∨ LoopStep c c'

lemma Sound.step (h : c.Sound) (hs : Step c c') : c'.Sound := hs.elim h.script h.loop

lemma made_clear (q : ScriptQueue) : q.clear.results.made = q.results.made := by
  have broken (calls : List PendingCall) (r : Promises ScriptResult) :
      (calls.foldl (fun r call => r.break_ call.promise) r).made = r.made := by
    induction calls generalizing r with
    | nil => rfl
    | cons call rest ih => exact ih _
  exact broken _ _

lemma made_le_of_step (hs : Step c c') : c.made ≤ c'.made := by
  rcases hs with hs | hs
  · cases hs with
    | clear => exact (made_clear c.queue).ge
    | _ => exact Nat.le_refl _
  · exact hs.made_le

lemma channel_of_step (hs : Step c c') : c'.queue.channel = c.queue.channel := by
  rcases hs with hs | hs
  · cases hs <;> rfl
  · cases hs with
    | announce =>
      dsimp only
      split <;> rfl
    | _ => rfl

lemma channel_of_run (hr : Relation.ReflTransGen Step c c') : c'.queue.channel = c.queue.channel := by
  induction hr with
  | refl => rfl
  | tail _ hs ih => exact (channel_of_step hs).trans ih

/-- The loop thread makes calls and answers none. -/
lemma LoopStep.unanswered_iff (hc : c.Sound) (h : LoopStep c c') (id : PromiseId) :
    c'.Unanswered id ↔ c.Unanswered id ∨ c.made ≤ id ∧ id < c'.made := by
  cases h with
  | push function args capture synchronous =>
    refine (Promises.pending_make hc.fresh).trans (or_congr_right ?_)
    exact ⟨fun h => ⟨h.ge, Nat.lt_succ_of_le h.le⟩, fun h => le_antisymm (Nat.le_of_lt_succ h.2) h.1⟩
  | announce =>
    have hmade : ¬(c.made ≤ id ∧ id < c.made) := fun h => absurd h.1 (Nat.not_le.2 h.2)
    dsimp only [Unanswered, made] at hmade ⊢
    split <;> exact (or_iff_left hmade).symm
  | @collect a notice waits hw ha =>
    have hmade : ¬(c.made ≤ id ∧ id < c.made) := fun h => absurd h.1 (Nat.not_le.2 h.2)
    refine Iff.trans ?_ (or_iff_left hmade).symm
    refine Promises.pending_forget.trans ⟨And.left, fun hu => ⟨hu, ?_⟩⟩
    rintro rfl
    exact ha hu

/-- A call that has an answer is not asked again. -/
lemma unanswered_of_step (hc : c.Sound) (hs : Step c c') {id : PromiseId} (hmade : id < c.made)
    (hu : c'.Unanswered id) : c.Unanswered id := by
  rcases hs with hs | hs
  · cases hs with
    | settle _ r => exact (Promises.pending_keep r |>.1 hu).1
    | clear hw =>
      rw [Unanswered, hc.clear_eq hw] at hu
      exact hu
    | _ => exact hu
  · rcases (hs.unanswered_iff hc id).1 hu with hu | ⟨hle, -⟩
    · exact hu
    · exact absurd hmade (Nat.not_lt.2 hle)

lemma unanswered_of_run (hc : c.Sound) (hr : Relation.ReflTransGen Step c c') {id : PromiseId} (hmade : id < c.made)
    (hu : c'.Unanswered id) : c.Unanswered id := by
  induction hr using Relation.ReflTransGen.head_induction_on with
  | refl => exact hu
  | head hs _ ih => exact unanswered_of_step hc hs hmade (ih (hc.step hs) (hmade.trans_le (made_le_of_step hs)))

end Calls

end Threads

end NativeBridge
