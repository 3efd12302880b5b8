import NativeBridge.Bridge
import NativeBridge.Scenario.Natives

/-!
Scenarios of a whole bridge: a scripting thread that calls native functions on a loop thread, and a third thread on
which native code may call back.
-/

namespace NativeBridge.Scenario.TwoThreads

inductive Step where
  | start
  | stop
  | running
  | call (c : CallSpec Step) (result : TypeSpec) (as : Option String)
  | batch (calls : List (CallSpec Step))
  | read (object : ValueSpec Step) (type : TypeSpec) (offset : Nat) (as : Option String)
  | write (object : ValueSpec Step) (type : TypeSpec) (offset : Nat) (value : ValueSpec Step)
  | alloc (size : Nat) (name : String) (owner : Option String) (as : Option String)
  /-- whether an address is not NULL, or is the same as another one -/
  | address (a : ValueSpec Step) (b : Option (ValueSpec Step))
  | poll
  | stats
  | counters
  | config
  | set (value : ValueSpec Step) (as : Option String)
  | get (name : String)
  | drop (name : String)
  /-- another thread ends the operation that native code has under way -/
  | finish

abbrev setting : Setting := ⟨Step, Config, Bridge.Request, Bridge.Reply, fun _ => []⟩

section

variable (h : Host setting.sides)

/-- What the cells of reference arguments hold now. -/
def cellReports (args : List Arg) : Play setting (List Report) := do
  let w ← MonadState.get
  let cells := args.filterMap fun a =>
    match a.value with
    | .ref c => some (w.cell c)
    | _ => none
  Eff.collect Stage.report cells

/-- Reports a value, which the step holds or a variable keeps. -/
def showValue (name : Option String) (v : Value) : Play setting Report := do
  Stage.storeAs name v
  Stage.report v

def statsReport (s : Bridge.Stats) : Report :=
  .record
    [("scheduled", .ofCount s.scheduled), ("discarded", .ofCount s.discarded), ("sync", .ofCount s.syncCalls),
     ("async", .ofCount s.asyncCalls), ("objects", .ofCount s.held.objects),
     ("libraries", .ofCount s.held.libraries), ("retained", .ofCount s.held.retained),
     ("pending", .ofCount s.pendingCalls), ("closures", .ofCount s.closures)]

/-- The counters, after the loop thread has done what was sent to it before. -/
def settledCounts : Play setting Report := do
  let _ ← Bridge.stats h
  NativeStep.counts

/-- Native code ends its operation on a thread of its own. -/
def finishElsewhere : Play setting Unit := do
  match h.anySymbol (.ofString "ft_async_finish") with
  | none => return
  | some a =>
    modify fun w => { w with thread := .foreign }
    Eff.andFinally (discard (h.run a (callCode h) { ints := [0] })) (modify fun w => { w with thread := .loop })

def isSameAddress (a : Value) (b : Option Value) : Play setting Bool := do
  let p ← Bridge.address h a
  match b with
  | none => return p != 0
  | some b => return p == (← Bridge.address h b)

def noReport (x : Play setting Unit) : Play setting Report := do
  x
  return .nothing

def step : Step → Play setting Report
  | .start => do noReport (Bridge.start h (← Stage.kept).lifecycle)
  | .stop => noReport (Bridge.stop h)
  | .running => return .truth (← Bridge.isRunning)
  | .call c result name => do
    let call ← evaluateCall c
    let type ← Eff.ofExcept result.parse
    let v ← Bridge.call h call type
    let shown ← showValue name v
    let refs ← cellReports call.args
    return .record (("value", shown) :: if refs.isEmpty then [] else [("refs", .list refs)])
  | .batch calls => do
    let calls ← Eff.collect evaluateCall calls
    let done ← match ← Eff.attempt (Bridge.batch h calls) with
      | .ok _ => pure (Report.words "done")
      | .error e => pure (Report.failure e)
    return .record [("batch", done), ("refs", .list (← cellReports (calls.flatMap Call.args)))]
  | .read object type offset name => do
    let o ← evaluateHeld object
    let d ← Eff.ofExcept type.parse
    showValue name (← Bridge.read h o d offset)
  | .write object type offset value => do
    let o ← evaluateHeld object
    let d ← Eff.ofExcept type.parse
    noReport (Bridge.write h o d offset (← evaluateHeld value))
  | .alloc size name owner as => do showValue as (← Bridge.alloc h size name owner)
  | .address a b => do
    let v ← evaluateHeld a
    let w ← match b with
      | none => pure none
      | some b => some <$> evaluateHeld b
    return .truth (← isSameAddress h v w)
  | .poll => return .ofCount (← Bridge.poll h)
  | .stats => return statsReport (← Bridge.stats h)
  | .counters => settledCounts h
  | .config => return .document (← Stage.kept).toJson
  | .set value name => do
    let v ← evaluate value
    showValue name v
  | .get name => do Stage.report (← Stage.lookup name)
  | .drop name => return .ofCount (if ← Stage.forget name then 1 else 0)
  | .finish => noReport (finishElsewhere h)

end

def rules : Rules setting where
  step := step
  answer := Bridge.answer
  threads := true

/-- What a scenario shows: its steps, the counters when all variables are gone, and those after the stop. -/
structure Course where
  steps : List StepReport
  dropped : Report
  stopped : Report

def script (files : Sample.Files) (config : Config) (channel : Channel) (started : Bool) (steps : List Step) :
    Play setting Course := do
  let h := hostAt files rules 100
  modify fun w => { w with script := { w.script with channel } }
  if started then Bridge.start h config.lifecycle
  let reports ← Eff.collect (perform rules h) steps
  Stage.update fun s => { s with vars := [], frames := [] }
  sweepAll
  let dropped ← settledCounts h
  Bridge.stop h
  return { steps := reports, dropped, stopped := ← NativeStep.counts }

/-- What happens in a scenario; nothing if it does not end. -/
def run (files : Sample.Files) (config : Config) (channel : Channel) (started : Bool) (steps : List Step) :
    Option (Except Error Course) :=
  @play setting _ config (script files config channel started steps)

end NativeBridge.Scenario.TwoThreads
