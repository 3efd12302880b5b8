import NativeBridge.Scenario.Stage

/-!
Scenarios of the two dispatchers on one thread: tasks that take steps of their own, queued script calls and what becomes
of their promises, and waits.
-/

namespace NativeBridge.Scenario.Dispatchers

inductive Step where
  /-- sends a task -/
  | schedule (id : String) (steps : List Step) (throws : Option Bytes)
  | runLoop
  | drain
  | stop
  | enter
  | exit
  /-- takes steps within a wait -/
  | wait (steps : List Step)
  | route (synchronous : Bool)
  | stats
  | queue (id : String) (function : ValueSpec Step) (args : List (ValueSpec Step)) (capture wakeup : Bool)
  | process
  | clear
  | runEvents
  /-- replaces the script dispatcher -/
  | reset
  | future (id : String)
  | invoke (function : ValueSpec Step) (args : List (ValueSpec Step)) (capture : Bool)
  /-- runs steps on the loop and waits -/
  | onLoop (id : String) (steps : List Step) (throws : Option Bytes)

/-- What a task does when it is run. -/
structure Work where
  id : String
  steps : List Step
  throws : Option Bytes

inductive Job where
  | task (w : Work)
  | awaited (w : Work)

structure Props where
  futures : List (String × PromiseId) := []
  /-- tasks that are gone -/
  freed : List String := []

abbrev setting : Setting := ⟨Step, Props, Job, String, fun _ => []⟩

/-- Notes that a task is gone. -/
def free (id : String) : Play setting Unit := Stage.updateKept fun p => { p with freed := p.freed ++ [id] }

/-- The tasks among these. -/
def taskIds (tasks : List (Task Job)) : List String :=
  tasks.filterMap fun t =>
    match t with
    | .job (.task w) | .request _ (.task w) => some w.id
    | _ => none

/-- What a finished promise tells. -/
def resultReport : ScriptResult → Play setting Report
  | .ok v => return .record [("value", ← Stage.report v)]
  -- of a report only the message is shown
  | .error text => return .record [("failed", .text (({} : Site).messageOf text))]

def setFuture (id : String) (promise : PromiseId) : Play setting Unit :=
  Stage.updateKept fun p => { p with futures := Stage.put id promise p.futures }

/-- What has become of a promise; one that is settled is collected. -/
def collectFuture (id : String) : Play setting Report := do
  match (← Stage.kept).futures.lookup id with
  | none => return .words "none"
  | some promise =>
    let status := (← get).script.results.get? promise
    if let some .pending := status then return .words "pending"
    Stage.updateKept fun p => { p with futures := p.futures.filter (·.1 != id) }
    modify fun w => { w with script := { w.script with results := w.script.results.forget promise } }
    match status with
    | some (.kept r) => resultReport r
    | _ => return .words "broken"

section

variable (h : Host setting.sides)

def update (f : LoopQueue (Task Job) → LoopQueue (Task Job)) : Play setting Report := do
  modify fun w => { w with loop := f w.loop }
  return .nothing

mutual

def step : Step → Play setting Report
  | .schedule id steps throws => do
    Stage.updateKept fun p => { p with freed := [] }
    if (← get).loop.stopped then free id
    LoopDispatch.schedule (.job (.task ⟨id, steps, throws⟩))
    return .nothing
  | .runLoop => return .ofCount (← LoopDispatch.poll h)
  | .drain => return .truth (← LoopDispatch.dispatchPending h)
  | .stop => do
    Eff.each free (taskIds (← get).loop.pending)
    LoopDispatch.stop
    return .nothing
  | .enter => update LoopQueue.enterWait
  | .exit => update LoopQueue.exitWait
  | .wait steps => do
    let _ ← update LoopQueue.enterWait
    within steps
    let depth := (← get).loop.depth
    let _ ← update LoopQueue.exitWait
    return .ofCount depth
  | .route synchronous => update (LoopQueue.recordRoute · synchronous)
  | .stats => do
    let q := (← get).loop
    return .list ([q.scheduled, q.discarded, q.dispatched, q.wakeups, q.syncCalls, q.asyncCalls].map .ofCount)
  | .queue id function args capture wakeup => do
    let f ← Eff.ofExcept (← evaluateHeld function).asCallback
    let values ← Eff.collect evaluateHeld args
    let promise ← if wakeup then ScriptDispatch.queueWithWakeup h f values capture
      else ScriptDispatch.queue f values capture
    setFuture id promise
    return .nothing
  | .process => return .ofCount (← ScriptDispatch.processPending h)
  | .clear => do
    ScriptDispatch.clear
    return .nothing
  | .runEvents => return .ofCount (← ScriptDispatch.runMailbox h h.limit)
  | .reset => do
    modify fun w => { w with script := w.script.renew }
    return .nothing
  | .future id => collectFuture id
  | .invoke function args capture => do
    let f ← Eff.ofExcept (← evaluateHeld function).asCallback
    let values ← Eff.collect evaluateHeld args
    resultReport (← ScriptDispatch.invokeAndWait h f values capture)
  | .onLoop id steps throws => return .words (← LoopRequest.send h (.awaited ⟨id, steps, throws⟩))

/-- Takes steps within another one and adds their results to the trace. -/
def within : List Step → Play setting Unit
  | [] => pure ()
  | s :: rest => do
    Stage.note (← nested (step s))
    within rest

end

/-- Does the work of a task, which may end by throwing. -/
def workOn (w : Work) : Play setting Unit := do
  within h w.steps
  if let some text := w.throws then throw (.foreign text)

/-- Runs a job on the loop. A task notes that it runs, and is gone when it has run. -/
def answer : Job → Play setting String
  | .task w => do
    Stage.note (.words ("run:" ++ w.id))
    Eff.andFinally (workOn h w) (free w.id)
    return w.id
  | .awaited w => do
    workOn h w
    return w.id

end

def rules : Rules setting where
  step := step
  answer := answer
  threads := false

/-- Where the dispatchers stand: tasks that wait, the depth of waits, whether there is one, whether the loop is
stopped, and calls that wait. -/
def standing : Play setting Report := do
  let w ← get
  return .list
    [.ofCount w.loop.pending.length, .ofCount w.loop.depth, .truth w.loop.isWaiting, .truth w.loop.stopped,
     .ofCount w.script.pending.length]

/-- Takes a step on its own, with where things stand after it and the tasks that went while it ran. -/
def performShown (h : Host setting.sides) (s : Step) : Play setting StepReport := do
  Stage.updateKept fun p => { p with freed := [] }
  let e ← perform rules h s
  let freed := (← Stage.kept).freed.mergeSort
  let gone := if freed.isEmpty then [] else [("freed", Report.list (freed.map .words))]
  return { e with extra := ("s", ← standing) :: gone }

/-- What happens in a scenario; nothing if it does not end. -/
def run (files : Sample.Files) (channel : Channel) (steps : List Step) :
    Option (Except Error (List StepReport)) :=
  @play setting _ {} do
    modify fun w => { w with script := { w.script with channel } }
    Eff.collect (performShown (hostAt files rules 200)) steps

end NativeBridge.Scenario.Dispatchers
