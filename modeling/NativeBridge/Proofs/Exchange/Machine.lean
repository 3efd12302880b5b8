import NativeBridge.Proofs.Dispatch
import NativeBridge.Proofs.Exchange.Book

/-!
Jobs that a script sends to the loop thread and waits for. Waits are nested in each other, and so are the tasks that the
loop thread runs. The loop may be stopped at any time, also between the two halves of sending a task.
-/

namespace NativeBridge

variable {S : Sides}

/-! ### Sending and stopping in two halves -/

namespace LoopDispatch

open Eff

/-- Sends a task to a loop that was found running; whether it was stopped since is not looked at again. -/
def accept (t : Task S.Job) : Eff S Unit :=
  modify fun w =>
    { w with loop := LoopQueue.arm { w.loop with pending := w.loop.pending ++ [t], scheduled := w.loop.scheduled + 1 } }

/-- Drops a task for a loop that was found stopped. -/
def refuse (t : Task S.Job) : Eff S Unit :=
  modify fun w => abandon { w with loop := { w.loop with discarded := w.loop.discarded + 1 } } t

lemma schedule_apply (t : Task S.Job) (w : World S) :
    schedule t w = if w.loop.stopped then refuse t w else accept t w := by
  simp only [schedule, LoopQueue.schedule, refuse, accept, modify_apply]
  split <;> rfl

lemma accept_eq {t : Task S.Job} {w w' : World S} (hx : accept t w = some (.ok (), w')) :
    ∃ q, w' = { w with loop := q } ∧ q.pending = w.loop.pending ++ [t] ∧ q.stopped = w.loop.stopped ∧
      q.depth = w.loop.depth := by
  cases hx
  exact ⟨_, rfl, LoopQueue.pending_arm _, LoopQueue.stopped_arm _, LoopQueue.depth_arm _⟩

/-- Refuses all tasks from here on. -/
def close : Eff S Unit := modify fun w => { w with loop := { w.loop with stopped := true } }

/-- Drops the tasks that wait. -/
def sweep : Eff S Unit :=
  modify fun w =>
    w.loop.pending.foldl abandon
      { w with loop := { w.loop with pending := [], discarded := w.loop.discarded + w.loop.pending.length } }

lemma stop_eq : (stop : Eff S Unit) = (do close; sweep) := rfl

end LoopDispatch

/-- The promise of a task that somebody waits for. -/
def Task.request? {Job : Type} : Task Job → Option (PromiseId × Job)
  | .request id j => some (id, j)
  | _ => none

namespace Exchange

/-! ### Steps -/

/-- How far a wait has come. -/
inductive Stage (S : Sides) where
  | entered
  /-- a promise is made, and the job is not sent -/
  | promised (id : PromiseId)
  /-- the loop was found running, and the job is not queued -/
  | admitted (id : PromiseId)
  | waiting (id : PromiseId)
  /-- has what was waited for, and has not left the wait -/
  | leaving (id : PromiseId) (r : Except Error S.Reply)

structure Wait (S : Sides) where
  job : S.Job
  /-- how deep in waits the scripting thread was before -/
  before : Nat
  stage : Stage S

namespace Wait

/-- The promise of a wait, with its job. -/
def promise? (f : Wait S) : Option (PromiseId × S.Job) :=
  match f.stage with
  | .entered => none
  | .promised id | .admitted id | .waiting id | .leaving id _ => some (id, f.job)

/-- The job of a wait that has not sent it. -/
def unsent? (f : Wait S) : Option (PromiseId × S.Job) :=
  match f.stage with
  | .promised id | .admitted id => some (id, f.job)
  | _ => none

end Wait

/-- The world, what the two threads are at, and what has happened so far. -/
structure State (S : Sides) where
  world : World S
  /-- waits of the scripting thread, the innermost first -/
  waits : List (Wait S)
  /-- tasks that run on the loop thread, the innermost first -/
  running : List (Task S.Job)
  /-- every job that was promised -/
  posted : List (PromiseId × S.Job)
  /-- every job that was started, as often as it was -/
  started : List (PromiseId × S.Job)
  /-- every end of a job, with its result -/
  ended : List (PromiseId × Except Error S.Reply)

/-- What leaves alone the tasks that wait, the promises, and how deep the scripting thread is in waits. -/
structure Aside (w w' : World S) : Prop where
  pending : w'.loop.pending = w.loop.pending
  stopped : w'.loop.stopped = w.loop.stopped
  depth : w'.loop.depth = w.loop.depth
  replies : w'.replies = w.replies

/-- Steps of both threads, in any order. What a job does is any number of steps between its start and its end, and it
may end with any result. -/
inductive Step : State S → State S → Prop where
  | aside {s : State S} {w : World S} (hw : Aside s.world w) : Step s { s with world := w }
  /-- a task that nobody waits for is sent -/
  | send {s : State S} {w : World S} (t : Task S.Job) (ht : t.request? = none)
      (hx : LoopDispatch.schedule t s.world = some (.ok (), w)) : Step s { s with world := w }
  | enter {s : State S} {w : World S} (j : S.Job) (hx : LoopRequest.enter s.world = some (.ok (), w)) :
      Step s { s with world := w, waits := ⟨j, s.world.loop.depth, .entered⟩ :: s.waits }
  | promise {s : State S} {f : Wait S} {rest : List (Wait S)} (hs : s.waits = f :: rest) (hf : f.stage = .entered) :
      Step s { s with
        world := { s.world with replies := s.world.replies.make.2 }
        waits := { f with stage := .promised s.world.replies.made } :: rest
        posted := (s.world.replies.made, f.job) :: s.posted }
  | pass {s : State S} {f : Wait S} {rest : List (Wait S)} {id : PromiseId} (hs : s.waits = f :: rest)
      (hf : f.stage = .promised id) (hstop : s.world.loop.stopped = false) :
      Step s { s with waits := { f with stage := .admitted id } :: rest }
  | refuse {s : State S} {w : World S} {f : Wait S} {rest : List (Wait S)} {id : PromiseId} (hs : s.waits = f :: rest)
      (hf : f.stage = .promised id) (hstop : s.world.loop.stopped)
      (hx : LoopDispatch.refuse (.request id f.job) s.world = some (.ok (), w)) :
      Step s { s with world := w, waits := { f with stage := .waiting id } :: rest }
  | push {s : State S} {w : World S} {f : Wait S} {rest : List (Wait S)} {id : PromiseId} (hs : s.waits = f :: rest)
      (hf : f.stage = .admitted id) (hx : LoopDispatch.accept (.request id f.job) s.world = some (.ok (), w)) :
      Step s { s with world := w, waits := { f with stage := .waiting id } :: rest }
  | collect {s : State S} {w : World S} {f : Wait S} {rest : List (Wait S)} {id : PromiseId}
      (hs : s.waits = f :: rest) (hf : f.stage = .waiting id) (r : Except Error S.Reply)
      (hx : LoopRequest.collect id s.world = some (r.map some, w)) :
      Step s { s with world := w, waits := { f with stage := .leaving id r } :: rest }
  | leave {s : State S} {w : World S} {f : Wait S} {rest : List (Wait S)} {id : PromiseId} {r : Except Error S.Reply}
      (hs : s.waits = f :: rest) (hf : f.stage = .leaving id r) (hx : LoopRequest.leave s.world = some (.ok (), w)) :
      Step s { s with world := w, waits := rest }
  /-- a drain starts the first task that waits, also within a task -/
  | take {s : State S} {w : World S} {t : Task S.Job} (hx : LoopDispatch.take s.world = some (.ok (some t), w)) :
      Step s { s with world := w, running := t :: s.running, started := t.request?.toList ++ s.started }
  | done {s : State S} {t : Task S.Job} {rest : List (Task S.Job)} (hs : s.running = t :: rest)
      (ht : t.request? = none) : Step s { s with running := rest }
  | finish {s : State S} {w : World S} {id : PromiseId} {j : S.Job} {rest : List (Task S.Job)}
      (hs : s.running = .request id j :: rest) (r : Except Error S.Reply)
      (hx : LoopDispatch.settle id r s.world = some (.ok (), w)) :
      Step s { s with world := w, running := rest, ended := (id, r) :: s.ended }
  | close {s : State S} {w : World S} (hx : LoopDispatch.close s.world = some (.ok (), w)) :
      Step s { s with world := w }
  /-- what waits is dropped, by a stop or with the dispatcher -/
  | sweep {s : State S} {w : World S} (hx : LoopDispatch.sweep s.world = some (.ok (), w)) :
      Step s { s with world := w }

abbrev Run : State S → State S → Prop := Relation.ReflTransGen Step

namespace State

/-- Nothing has been sent that somebody waits for. -/
structure Opening (s : State S) : Prop where
  waits : s.waits = []
  running : s.running = []
  posted : s.posted = []
  started : s.started = []
  ended : s.ended = []
  replies : s.world.replies.table = []
  pending : s.world.loop.pending.filterMap Task.request? = []

/-- What one thread owes the other. -/
def book (s : State S) : Book S.Job (Except Error S.Reply) where
  replies := s.world.replies
  unsent := s.waits.filterMap Wait.unsent?
  queued := s.world.loop.pending.filterMap Task.request?
  running := s.running.filterMap Task.request?
  posted := s.posted
  started := s.started
  ended := s.ended

end State

end Exchange

end NativeBridge
