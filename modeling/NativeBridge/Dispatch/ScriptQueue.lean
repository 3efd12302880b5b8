import NativeBridge.Dispatch.Promise
import NativeBridge.Value.Basic

/-!
The queue of callbacks for the scripting thread, and the channel that tells it of them. The queue has a generation:
one that is replaced breaks what it owed, and wake-ups sent for it find nobody.
-/

namespace NativeBridge

/-- How a wake-up reaches the scripting thread: not at all, through its event loop, or at once. -/
inductive Channel where
  | none | eventLoop | inline
  deriving DecidableEq, Repr

/-- What a script function gave: a value, or the text of what it threw. -/
abbrev ScriptResult := Except Bytes Value

structure PendingCall where
  function : Option FunctionId
  args : List Value
  /-- whether the value is wanted -/
  capture : Bool
  promise : PromiseId

structure ScriptQueue where
  pending : List PendingCall := []
  generation : Nat := 0
  channel : Channel := .none
  /-- wake-ups in the event loop, by the generation they were sent for -/
  mailbox : List Nat := []
  results : Promises ScriptResult := {}

namespace ScriptQueue

variable (q : ScriptQueue)

/-- Queues a call and promises its result. -/
def push (function : Option FunctionId) (args : List Value) (capture : Bool) : PromiseId × ScriptQueue :=
  let (id, results) := q.results.make
  (id, { q with pending := q.pending ++ [⟨function, args, capture, id⟩], results })

def pop : Option (PendingCall × ScriptQueue) :=
  match q.pending with
  | [] => none
  | c :: rest => some (c, { q with pending := rest })

/-- Puts a wake-up for this queue into the event loop. -/
def sendWakeup : ScriptQueue := { q with mailbox := q.mailbox ++ [q.generation] }

/-- Drops the calls that wait and breaks what was promised for them. -/
def clear : ScriptQueue :=
  { q with pending := [], results := q.pending.foldl (fun r c => r.break_ c.promise) q.results }

/-- Replaces the queue by a new one with the same channel. -/
def renew : ScriptQueue := { q.clear with generation := q.generation + 1 }

/-! ### The first call -/

variable {q} {c : PendingCall}

theorem pop_of_nil (h : q.pending = []) : q.pop = none := by rw [pop, h]

theorem pop_of_cons {rest : List PendingCall} (h : q.pending = c :: rest) :
    q.pop = some (c, { q with pending := rest }) := by rw [pop, h]

theorem eq_of_pop {q' : ScriptQueue} (h : q.pop = some (c, q')) :
    ∃ rest, q.pending = c :: rest ∧ q' = { q with pending := rest } := by
  cases hp : q.pending with
  | nil => rw [pop_of_nil hp] at h; cases h
  | cons c rest => rw [pop_of_cons hp] at h; cases h; exact ⟨rest, rfl, rfl⟩

end ScriptQueue

end NativeBridge
