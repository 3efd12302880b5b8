import Mathlib.Logic.Relation
import NativeBridge.Dispatch.ScriptDispatch

/-!
Calls of script functions that are queued, and the drains that run them. A call may queue others, drain the queue, clear
it or destroy it, and so drains are nested in the calls of other drains.
-/

namespace NativeBridge

namespace Callbacks

/-! ### States -/

/-- What is in progress. -/
inductive Frame where
  /-- a drain, by its number, and how many calls it has taken -/
  | draining (number count : Nat)
  | calling (c : PendingCall)

namespace Frame

def call? : Frame → Option PendingCall
  | draining _ _ => none
  | calling c => some c

def drain? : Frame → Option (Nat × Nat)
  | draining number count => some (number, count)
  | calling _ => none

end Frame

/-- How a call left the queue. -/
inductive Fate where
  | started (drain : Nat)
  /-- by a clearing or with the queue -/
  | dropped
  deriving DecidableEq

/-- A call that was started. -/
def started? (e : PendingCall × Fate) : Option PendingCall :=
  match e.2 with
  | .started _ => some e.1
  | .dropped => none

/-- The queue, what is in progress, and what has happened so far. -/
structure State where
  queue : ScriptQueue
  /-- the innermost comes first -/
  stack : List Frame
  /-- every call that was queued, the first one first -/
  queued : List PendingCall
  /-- every call that left the queue, the first one first -/
  left : List (PendingCall × Fate)
  /-- every end of a call, with what the script function gave -/
  ended : List (PendingCall × Except Raised Value)
  /-- how many drains have begun -/
  drains : Nat
  /-- drains that have returned, with the counts they returned -/
  returned : List (Nat × Nat)

/-- A drain may begin: nothing is in progress, or the innermost is a call. -/
def Free (stack : List Frame) : Prop := stack = [] ∨ ∃ c rest, stack = .calling c :: rest

/-! ### Steps -/

inductive Step : State → State → Prop where
  /-- wake-ups and channels are nothing to the calls -/
  | aside {s : State} {q : ScriptQueue} (hp : q.pending = s.queue.pending) (hr : q.results = s.queue.results) :
      Step s { s with queue := q }
  | queue {s : State} (function : Option FunctionId) (args : List Value) (capture : Bool) :
      Step s { s with
        queue := (s.queue.push function args capture).2
        queued := s.queued ++ [⟨function, args, capture, (s.queue.push function args capture).1⟩] }
  /-- a drain begins, by itself or by a wake-up -/
  | process {s : State} (hs : Free s.stack) :
      Step s { s with stack := .draining s.drains 0 :: s.stack, drains := s.drains + 1 }
  | take {s : State} {number count : Nat} {rest : List Frame} {c : PendingCall} {q : ScriptQueue}
      (hs : s.stack = .draining number count :: rest) (h : s.queue.pop = some (c, q)) :
      Step s { s with
        queue := q
        stack := .calling c :: .draining number (count + 1) :: rest
        left := s.left ++ [(c, .started number)] }
  /-- a call ends with a value or by an exception -/
  | answer {s : State} {c : PendingCall} {rest : List Frame} (hs : s.stack = .calling c :: rest)
      (r : Except Raised Value) :
      Step s { s with
        queue := { s.queue with results := s.queue.results.keep c.promise (ScriptDispatch.resultOf c.capture r) }
        stack := rest
        ended := (c, r) :: s.ended }
  | finish {s : State} {number count : Nat} {rest : List Frame} (hs : s.stack = .draining number count :: rest)
      (h : s.queue.pop = none) :
      Step s { s with stack := rest, returned := (number, count) :: s.returned }
  | clear {s : State} :
      Step s { s with queue := s.queue.clear, left := s.left ++ s.queue.pending.map fun c => (c, .dropped) }
  | destroy {s : State} :
      Step s { s with queue := s.queue.renew, left := s.left ++ s.queue.pending.map fun c => (c, .dropped) }

abbrev Run : State → State → Prop := Relation.ReflTransGen Step

/-- A new queue, with which nothing has been done. -/
structure State.Opening (s : State) : Prop where
  pending : s.queue.pending = []
  results : s.queue.results.table = []
  stack : s.stack = []
  queued : s.queued = []
  left : s.left = []
  ended : s.ended = []
  returned : s.returned = []

end Callbacks

end NativeBridge
