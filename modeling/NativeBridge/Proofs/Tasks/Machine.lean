import Mathlib.Data.List.Perm.Basic
import Mathlib.Logic.Relation
import NativeBridge.Dispatch.LoopQueue

/-!
The queue of tasks, shared by any number of threads. Sending a task, running what waits and stopping take several
accesses to the queue, and other threads may come in between any two of them. Each access is a step.
-/

namespace NativeBridge

namespace LoopQueue

/-! ### Accesses -/

variable {τ : Type} (q : LoopQueue τ)

/-- Counts a task that is not accepted. -/
def refuse : LoopQueue τ := { q with discarded := q.discarded + 1 }

/-- Puts a task behind those that wait. -/
def push (t : τ) : LoopQueue τ := { q with pending := q.pending ++ [t], scheduled := q.scheduled + 1 }

/-- Says that a batch is posted, or about to be. -/
def mark : LoopQueue τ := { q with armed := true }

def post : LoopQueue τ := { q with posted := q.posted + 1, wakeups := q.wakeups + 1 }

/-- Refuses all tasks from here on. -/
def close : LoopQueue τ := { q with stopped := true }

/-- Drops the tasks that wait. -/
def sweep : LoopQueue τ := { q with pending := [], discarded := q.discarded + q.pending.length }

/-- Counts waits and callbacks otherwise, which is nothing to the tasks. -/
def recount (depth syncCalls asyncCalls : Nat) : LoopQueue τ := { q with depth, syncCalls, asyncCalls }

variable {q} {t : τ}

lemma arm_of_armed (h : q.armed) : q.arm = q := if_pos h

lemma arm_of_not_armed (h : q.armed = false) : q.arm = q.mark.post := if_neg (Bool.eq_false_iff.1 h)

lemma schedule_of_stopped (h : q.stopped) : q.schedule t = (q.refuse, false) := if_pos h

lemma schedule_of_open (h : q.stopped = false) : q.schedule t = ((q.push t).arm, true) :=
  if_neg (Bool.eq_false_iff.1 h)

lemma stop_eq : q.stop = (q.close.sweep, q.pending) := rfl

end LoopQueue

namespace Tasks

variable {τ : Type}

/-! ### Threads -/

/-- What runs the tasks that wait: a batch that was posted, or a thread that waits for something else. -/
inductive Drain where
  | batch | aside
  deriving DecidableEq

/-- What a thread is in the middle of. -/
inductive Phase (τ : Type) where
  /-- code that is no part of the queue: its own, or that of a task -/
  | free
  /-- found the queue open, and has not put its task into it -/
  | admitted (t : τ)
  /-- its task is in the queue, and it has not looked whether a batch is posted -/
  | pushed
  /-- has said that a batch is posted, and has not posted it -/
  | marked
  /-- takes the next task -/
  | draining (d : Drain)
  /-- a batch that found no task, and looks once more -/
  | emptied
  /-- a batch that then found some, and has not looked whether another batch is posted -/
  | refilled
  /-- refuses tasks from here on, and has not dropped those that wait -/
  | closing
  deriving DecidableEq

structure Thread (τ : Type) where
  phase : Phase τ
  /-- drains that are in the middle of a task, the innermost first -/
  outer : List Drain
  deriving DecidableEq

namespace Thread

/-- Between setting the flag and posting the batch. -/
def posts (T : Thread τ) : Bool :=
  match T.phase with
  | .marked => true
  | _ => false

/-- Between finding the queue open and putting a task into it. -/
def admits (T : Thread τ) : Bool :=
  match T.phase with
  | .admitted _ => true
  | _ => false

/-- A batch is in progress on the thread. -/
def InBatch (T : Thread τ) : Prop :=
  T.phase = .draining .batch ∨ T.phase = .emptied ∨ T.phase = .refilled ∨ .batch ∈ T.outer

end Thread

/-- The queue, and what has happened to tasks so far. The first task is the first one of each list. -/
structure Shared (τ : Type) where
  queue : LoopQueue τ
  /-- how often a task was sent -/
  calls : Nat
  accepted : List τ
  started : List τ
  /-- tasks that a stop dropped from the queue -/
  dropped : List τ

structure State (τ : Type) extends Shared τ where
  threads : List (Thread τ)

/-! ### Steps -/

/-- What one thread may do next. -/
inductive Act : Shared τ → Thread τ → Shared τ → Thread τ → Prop where
  | recount {m : Shared τ} {outer : List Drain} (depth syncCalls asyncCalls : Nat) :
      Act m ⟨.free, outer⟩ { m with queue := m.queue.recount depth syncCalls asyncCalls } ⟨.free, outer⟩
  /-- a task is sent, and the queue is stopped: the task is gone -/
  | refuse {m : Shared τ} {outer : List Drain} (hstop : m.queue.stopped) :
      Act m ⟨.free, outer⟩ { m with queue := m.queue.refuse, calls := m.calls + 1 } ⟨.free, outer⟩
  | pass {m : Shared τ} {outer : List Drain} (t : τ) (hstop : m.queue.stopped = false) :
      Act m ⟨.free, outer⟩ { m with calls := m.calls + 1 } ⟨.admitted t, outer⟩
  | push {m : Shared τ} {outer : List Drain} {t : τ} :
      Act m ⟨.admitted t, outer⟩ { m with queue := m.queue.push t, accepted := m.accepted ++ [t] } ⟨.pushed, outer⟩
  | found {m : Shared τ} {outer : List Drain} (h : m.queue.armed) : Act m ⟨.pushed, outer⟩ m ⟨.free, outer⟩
  | mark {m : Shared τ} {outer : List Drain} (h : m.queue.armed = false) :
      Act m ⟨.pushed, outer⟩ { m with queue := m.queue.mark } ⟨.marked, outer⟩
  | post {m : Shared τ} {outer : List Drain} :
      Act m ⟨.marked, outer⟩ { m with queue := m.queue.post } ⟨.free, outer⟩
  /-- a batch that was posted begins -/
  | begin {m : Shared τ} {outer : List Drain} (h : 0 < m.queue.posted) :
      Act m ⟨.free, outer⟩ { m with queue := m.queue.beginBatch } ⟨.draining .batch, outer⟩
  | serve {m : Shared τ} {outer : List Drain} : Act m ⟨.free, outer⟩ m ⟨.draining .aside, outer⟩
  /-- a drain starts the first task that waits -/
  | take {m : Shared τ} {outer : List Drain} {d : Drain} {t : τ} {q : LoopQueue τ} (h : m.queue.pop = some (t, q)) :
      Act m ⟨.draining d, outer⟩ { m with queue := q, started := m.started ++ [t] } ⟨.free, d :: outer⟩
  /-- a task ends, which may be by an exception -/
  | done {m : Shared τ} {outer : List Drain} {d : Drain} (thrown : Bool) :
      Act m ⟨.free, d :: outer⟩ m ⟨.draining d, outer⟩
  | served {m : Shared τ} {outer : List Drain} (h : m.queue.pop = none) :
      Act m ⟨.draining .aside, outer⟩ m ⟨.free, outer⟩
  | empty {m : Shared τ} {outer : List Drain} (h : m.queue.pop = none) :
      Act m ⟨.draining .batch, outer⟩ m ⟨.emptied, outer⟩
  | rest {m : Shared τ} {outer : List Drain} (h : m.queue.pending = []) : Act m ⟨.emptied, outer⟩ m ⟨.free, outer⟩
  | refill {m : Shared τ} {outer : List Drain} (h : m.queue.pending ≠ []) :
      Act m ⟨.emptied, outer⟩ m ⟨.refilled, outer⟩
  | refound {m : Shared τ} {outer : List Drain} (h : m.queue.armed) : Act m ⟨.refilled, outer⟩ m ⟨.free, outer⟩
  | remark {m : Shared τ} {outer : List Drain} (h : m.queue.armed = false) :
      Act m ⟨.refilled, outer⟩ { m with queue := m.queue.mark } ⟨.marked, outer⟩
  | close {m : Shared τ} {outer : List Drain} :
      Act m ⟨.free, outer⟩ { m with queue := m.queue.close } ⟨.closing, outer⟩
  | sweep {m : Shared τ} {outer : List Drain} :
      Act m ⟨.closing, outer⟩
        { m with queue := m.queue.sweep, dropped := m.dropped ++ m.queue.pending } ⟨.free, outer⟩

/-- A step of any thread. -/
inductive Step : State τ → State τ → Prop where
  | act {m m' : Shared τ} {T T' : Thread τ} (before after : List (Thread τ)) (h : Act m T m' T') :
      Step ⟨m, before ++ T :: after⟩ ⟨m', before ++ T' :: after⟩

abbrev Run : State τ → State τ → Prop := Relation.ReflTransGen Step

/-- A new queue, and threads that have done nothing with it. -/
structure State.Opening (s : State τ) : Prop where
  queue : s.queue = {}
  calls : s.calls = 0
  accepted : s.accepted = []
  started : s.started = []
  dropped : s.dropped = []
  threads : ∀ T ∈ s.threads, T = ⟨.free, []⟩

/-- A new queue and two threads. -/
def twoIdle : State Nat where
  queue := {}
  calls := 0
  accepted := []
  started := []
  dropped := []
  threads := [⟨.free, []⟩, ⟨.free, []⟩]

lemma twoIdle_opening : twoIdle.Opening := ⟨rfl, rfl, rfl, rfl, rfl, by decide⟩

/-! ### What every step keeps -/

/-- What was accepted has been started or dropped, or it waits. -/
def Shared.Kept (m : Shared τ) : Prop := m.accepted.Perm (m.started ++ m.dropped ++ m.queue.pending)

lemma Act.kept {m m' : Shared τ} {T T' : Thread τ} (h : Act m T m' T') (hm : m.Kept) : m'.Kept := by
  cases h with
  | push => exact (hm.append_right _).trans (by rw [List.append_assoc]; exact .refl _)
  | @take _ d t q hpop =>
    obtain ⟨rest, hp, rfl⟩ := LoopQueue.eq_of_pop hpop
    refine hm.trans ?_
    rw [hp, List.append_assoc, List.append_assoc, List.append_assoc]
    exact List.perm_middle.append_left m.started
  | sweep => simpa [Shared.Kept, LoopQueue.sweep] using hm
  | _ => exact hm

/-- What every step keeps holds all along a run. -/
lemma Run.invariant {P : State τ → Prop} {s s' : State τ} (h : Run s s') (hP : ∀ {t t'}, P t → Step t t' → P t')
    (hs : P s) : P s' := by
  induction h with
  | refl => exact hs
  | tail _ hstep ih => exact hP ih hstep

lemma Step.kept {s s' : State τ} (h : Step s s') (hs : s.Kept) : s'.Kept := by
  cases h with
  | act _ _ hact => exact hact.kept hs

lemma Run.kept {s s' : State τ} (h : Run s s') (hs : s.Kept) : s'.Kept :=
  h.invariant (P := fun s => s.Kept) (fun ht hstep => hstep.kept ht) hs

lemma State.Opening.kept {s : State τ} (h : s.Opening) : s.Kept := by
  simp [Shared.Kept, h.accepted, h.started, h.dropped, h.queue]

end Tasks

end NativeBridge
