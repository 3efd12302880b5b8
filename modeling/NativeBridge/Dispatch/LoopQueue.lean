/-!
The queue of tasks for the loop thread. However many tasks wait, at most one batch is posted to the loop: `armed`
says that one is. Every way a task leaves the queue is counted.
-/

namespace NativeBridge

structure LoopQueue (τ : Type) where
  pending : List τ := []
  /-- a batch is posted, or about to be -/
  armed : Bool := false
  /-- batches posted to the loop that have not begun -/
  posted : Nat := 0
  stopped : Bool := false
  /-- how deeply the scripting thread is nested in waits for the loop -/
  depth : Nat := 0
  scheduled : Nat := 0
  discarded : Nat := 0
  dispatched : Nat := 0
  wakeups : Nat := 0
  syncCalls : Nat := 0
  asyncCalls : Nat := 0

namespace LoopQueue

variable {τ : Type} (q : LoopQueue τ)

/-- Posts a batch unless one is posted. -/
def arm : LoopQueue τ :=
  if q.armed then q else { q with armed := true, posted := q.posted + 1, wakeups := q.wakeups + 1 }

/-- Accepts a task, or refuses it after the stop. The second part says whether it was accepted. -/
def schedule (t : τ) : LoopQueue τ × Bool :=
  if q.stopped then ({ q with discarded := q.discarded + 1 }, false)
  else (arm { q with pending := q.pending ++ [t], scheduled := q.scheduled + 1 }, true)

/-- Takes the first task, which counts as dispatched from here on. -/
def pop : Option (τ × LoopQueue τ) :=
  match q.pending with
  | [] => none
  | t :: rest => some (t, { q with pending := rest, dispatched := q.dispatched + 1 })

/-- A posted batch begins. -/
def beginBatch : LoopQueue τ := { q with posted := q.posted - 1, armed := false }

/-- A batch ends; tasks that came in meanwhile need another one. -/
def endBatch : LoopQueue τ := if q.pending.isEmpty then q else q.arm

/-- Refuses all tasks from here on and drops those that wait. -/
def stop : LoopQueue τ × List τ :=
  ({ q with stopped := true, pending := [], discarded := q.discarded + q.pending.length }, q.pending)

def enterWait : LoopQueue τ := { q with depth := q.depth + 1 }

/-- Leaves a wait; there is no depth below zero. -/
def exitWait : LoopQueue τ := { q with depth := q.depth - 1 }

def isWaiting : Bool := q.depth > 0

/-- Counts a callback by the way it takes to the scripting thread. -/
def recordRoute (synchronous : Bool) : LoopQueue τ :=
  if synchronous then { q with syncCalls := q.syncCalls + 1 } else { q with asyncCalls := q.asyncCalls + 1 }

/-! ### The first task -/

variable {q} {t : τ}

theorem pop_of_nil (h : q.pending = []) : q.pop = none := by rw [pop, h]

theorem pop_of_cons {rest : List τ} (h : q.pending = t :: rest) :
    q.pop = some (t, { q with pending := rest, dispatched := q.dispatched + 1 }) := by rw [pop, h]

theorem pending_of_pop_none (h : q.pop = none) : q.pending = [] := by
  cases hp : q.pending with
  | nil => rfl
  | cons t rest => rw [pop_of_cons hp] at h; cases h

theorem eq_of_pop {q' : LoopQueue τ} (h : q.pop = some (t, q')) :
    ∃ rest, q.pending = t :: rest ∧ q' = { q with pending := rest, dispatched := q.dispatched + 1 } := by
  cases hp : q.pending with
  | nil => rw [pop_of_nil hp] at h; cases h
  | cons t rest => rw [pop_of_cons hp] at h; cases h; exact ⟨rest, rfl, rfl⟩

/-! ### What the operations leave alone -/

variable (q)

@[simp] theorem pending_arm : q.arm.pending = q.pending := by
  unfold arm
  split <;> rfl

@[simp] theorem stopped_arm : q.arm.stopped = q.stopped := by
  unfold arm
  split <;> rfl

@[simp] theorem depth_arm : q.arm.depth = q.depth := by
  unfold arm
  split <;> rfl

theorem pending_schedule (h : q.stopped = false) : (q.schedule t).1.pending = q.pending ++ [t] := by
  rw [schedule, if_neg (Bool.eq_false_iff.1 h)]
  exact pending_arm _

theorem mem_pending_schedule {u : τ} (h : u ∈ (q.schedule t).1.pending) : u ∈ q.pending ∨ u = t := by
  cases hs : q.stopped with
  | true =>
    rw [schedule, if_pos hs] at h
    exact .inl h
  | false =>
    rw [pending_schedule q hs, List.mem_append, List.mem_singleton] at h
    exact h

@[simp] theorem depth_schedule : (q.schedule t).1.depth = q.depth := by
  unfold schedule
  split
  · rfl
  · exact depth_arm _

@[simp] theorem pending_endBatch : q.endBatch.pending = q.pending := by
  unfold endBatch
  split
  · rfl
  · exact pending_arm q

@[simp] theorem stopped_endBatch : q.endBatch.stopped = q.stopped := by
  unfold endBatch
  split
  · rfl
  · exact stopped_arm q

@[simp] theorem depth_endBatch : q.endBatch.depth = q.depth := by
  unfold endBatch
  split
  · rfl
  · exact depth_arm q

variable (synchronous : Bool)

@[simp] theorem pending_recordRoute : (q.recordRoute synchronous).pending = q.pending := by
  unfold recordRoute
  split <;> rfl

@[simp] theorem stopped_recordRoute : (q.recordRoute synchronous).stopped = q.stopped := by
  unfold recordRoute
  split <;> rfl

@[simp] theorem depth_recordRoute : (q.recordRoute synchronous).depth = q.depth := by
  unfold recordRoute
  split <;> rfl

end LoopQueue

end NativeBridge
