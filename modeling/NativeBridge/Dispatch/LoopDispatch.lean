import NativeBridge.LoopState

/-!
Tasks for the loop thread: sending them, and running them in the order in which they came. An error of a task ends that
task only.
-/

namespace NativeBridge.LoopDispatch

variable {S : Sides}

/-- Breaks what a task that was dropped unrun owed. -/
def abandon (w : World S) : Task S.Job → World S
  | .request promise _ => { w with replies := w.replies.break_ promise }
  | _ => w

/-- Sends a task. After the stop it is dropped. -/
def schedule (t : Task S.Job) : Eff S Unit :=
  modify fun w =>
    let (loop, accepted) := w.loop.schedule t
    let w := { w with loop }
    if accepted then w else abandon w t

/-- Takes the first task that waits. -/
def take : Eff S (Option (Task S.Job)) :=
  Eff.update fun w =>
    match w.loop.pop with
    | none => (none, w)
    | some (t, loop) => (some t, { w with loop })

/-- Settles what a task owed. -/
def settle (promise : PromiseId) (r : Except Error S.Reply) : Eff S Unit :=
  modify fun w => { w with replies := w.replies.keep promise r }

/-- Runs a task. -/
def run (h : Host S) : Task S.Job → Eff S Unit
  | .remove id => do
    let _ ← Eff.attempt (LoopState.removeObject h id)
  | .job j => do
    let _ ← Eff.attempt (h.answer j)
  | .request promise j => do
    settle promise (← Eff.attempt (h.answer j))

/-- Runs tasks until none waits, and counts them. -/
def drain (h : Host S) : Nat → Eff S Nat
  | 0 => Eff.stuck
  | fuel + 1 => do
    match ← take with
    | none => return 0
    | some t =>
      run h t
      return (← drain h fuel) + 1

/-- Runs tasks that wait, for a loop that is busy otherwise. -/
def dispatchPending (h : Host S) : Eff S Bool := return (← drain h h.limit) != 0

def beginBatch : Eff S Unit := modify fun w => { w with loop := w.loop.beginBatch }

def endBatch : Eff S Unit := modify fun w => { w with loop := w.loop.endBatch }

/-- One posted batch. -/
def batch (h : Host S) : Eff S Unit := do
  beginBatch
  let _ ← drain h h.limit
  endBatch

/-- Runs posted batches until none is left, and counts them. -/
def runPosted (h : Host S) : Nat → Eff S Nat
  | 0 => Eff.stuck
  | fuel + 1 => do
    if (← get).loop.posted = 0 then return 0
    batch h
    return (← runPosted h fuel) + 1

/-- Runs the loop until it has nothing to do. -/
def poll (h : Host S) : Eff S Nat := runPosted h h.limit

/-- Stops the dispatcher: what waits is dropped, what comes is refused. -/
def stop : Eff S Unit :=
  modify fun w =>
    let (loop, dropped) := w.loop.stop
    dropped.foldl abandon { w with loop }

/-- What happens when a script lets go of a handle: the removal of its object is sent to the loop, if that is
still there. -/
def finalize (key : HandleKey) : Eff S Unit := do
  let w ← get
  match w.handles.lookup key with
  | none => return
  | some (id, generation) =>
    set { w with handles := w.handles.filter (·.1 != key) }
    if generation = w.generation ∧ w.loopAlive generation then schedule (.remove id)

/-- Lets go of handles that no script has come to hold. -/
def letGo : List HandleKey → Eff S Unit := Eff.each finalize

/-- Runs work that makes handles. If it raises an error, all that it made are let go of. -/
def unwinding {α : Type} (work : Eff S α) : Eff S α := do
  let mark := (← get).minted
  match ← Eff.attempt work with
  | .ok a => return a
  | .error e =>
    letGo (((← get).handles.map Prod.fst).filter (mark ≤ ·))
    throw e

end NativeBridge.LoopDispatch
