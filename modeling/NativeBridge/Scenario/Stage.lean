import NativeBridge.Sample.Linkage
import NativeBridge.Scenario.Report
import NativeBridge.Scenario.Script
import NativeBridge.Call

/-!
Where a scenario is played: its variables, its script functions and what has been noted. A handle that nothing holds any
more is finalized when the step ends in which the last holder let go of it.
-/

namespace NativeBridge.Scenario

/-- What differs from one sort of scenario to the next: its steps, what it keeps besides variables, and the jobs for
the loop thread. -/
structure Setting where
  Step : Type
  Props : Type
  Job : Type
  Reply : Type
  /-- values that the props hold -/
  held : Props → List Value

structure Stage (Step Props : Type) where
  vars : List (String × Value) := []
  /-- native objects by the names that reports use -/
  natives : List (String × Address) := []
  /-- script functions, and how often each was called -/
  functions : List (FunctionSpec Step × Nat) := []
  /-- values that steps and calls in progress hold, the innermost first -/
  frames : List (List Value) := []
  /-- values that lost a holder since the last look for unreachable handles -/
  dropped : List Value := []
  trace : List Report := []
  props : Props

namespace Setting

abbrev sides (k : Setting) : Sides := Sample.sides (Stage k.Step k.Props) k.Job k.Reply

end Setting

/-- What is done in a scenario. -/
abbrev Play (k : Setting) (α : Type) : Type := Eff k.sides α

namespace Stage

variable {k : Setting}

def get : Play k (Stage k.Step k.Props) := return (← MonadState.get).side

def update (f : Stage k.Step k.Props → Stage k.Step k.Props) : Play k Unit :=
  modify fun w => { w with side := f w.side }

/-- What the scenario keeps besides variables. -/
def kept : Play k k.Props := return (← get).props

def updateKept (f : k.Props → k.Props) : Play k Unit := update fun s => { s with props := f s.props }

/-- Adds to the trace of the step. -/
def note (r : Report) : Play k Unit := update fun s => { s with trace := s.trace ++ [r] }

/-- Sets an entry of a table. -/
def put {α : Type} (name : String) (a : α) (table : List (String × α)) : List (String × α) :=
  table.filter (·.1 != name) ++ [(name, a)]

/-- Holds values until the step or call in progress ends. -/
def hold (vs : List Value) : Play k Unit :=
  update fun s =>
    match s.frames with
    | [] => { s with frames := [vs] }
    | f :: rest => { s with frames := (f ++ vs) :: rest }

/-- Holds a value until what is around the innermost step or call ends. -/
def holdOutside (v : Value) : Play k Unit :=
  update fun s =>
    match s.frames with
    | f :: g :: rest => { s with frames := f :: (g ++ [v]) :: rest }
    | [f] => { s with frames := [f, [v]] }
    | [] => { s with frames := [[v]] }

/-- Stores a value in a variable. -/
def store (name : String) (v : Value) : Play k Unit :=
  update fun s =>
    { s with vars := put name v s.vars, dropped := s.dropped ++ (s.vars.lookup name).toList }

/-- Stores a value if it has a name; otherwise the step holds it until it ends. -/
def storeAs (name : Option String) (v : Value) : Play k Unit :=
  match name with
  | some n => store n v
  | none => hold [v]

/-- Forgets a variable; says whether there was one. -/
def forget (name : String) : Play k Bool := do
  let old := (← get).vars.lookup name
  update fun s =>
    { s with vars := s.vars.filter (·.1 != name), dropped := s.dropped ++ old.toList }
  return old.isSome

/-- The value of a variable. -/
def lookup (name : String) : Play k Value := do
  match (← get).vars.lookup name with
  | some v => return v
  | none => throw (.foreign (.ofString "no such variable"))

/-- The address of a native object; none has no name. -/
def native (name : Option String) : Play k Address := do
  match name with
  | none => return 0
  | some n => return ((← get).natives.lookup n).getD 0

/-- How reports name a pointer: nothing, the name of a native object, or that it is another one. -/
def pointerName (p : Address) : Play k Report := do
  if p = 0 then return .nothing
  match (← get).natives.find? fun e => e.2 == p with
  | some (name, _) => return .words name
  | none => return .words "other"

/-- A value as it stands now. -/
def snapshot (v : Value) : Play k Snapshot := do
  let w ← MonadState.get
  return v.snapshot w.cell w.cells.length

def report (v : Value) : Play k Report := return .value (← snapshot v)

end Stage

namespace Holding

mutual

/-- The keys of the handles in a value; cells are followed to a depth of `fuel` cells. -/
def keys (cell : CellId → Value) (fuel : Nat) (v : Value) : List HandleKey :=
  match fuel, v with
  | _, .object (some h) => h.key.toList
  | fuel, .array items => keysOfAll cell fuel items
  | fuel + 1, .ref c => keys cell fuel (cell c)
  | _, _ => []
  termination_by (fuel, sizeOf v)

def keysOfAll (cell : CellId → Value) (fuel : Nat) (vs : List Value) : List HandleKey :=
  match vs with
  | [] => []
  | v :: rest => keys cell fuel v ++ keysOfAll cell fuel rest
  termination_by (fuel, sizeOf vs)

end

/-- The values that calls and results in the script queue hold. -/
def queued (q : ScriptQueue) : List Value :=
  q.pending.flatMap PendingCall.args
    ++ q.results.table.filterMap fun e =>
      match e.2 with
      | .kept (.ok v) => some v
      | _ => none

end Holding

section

variable {k : Setting}

/-- The keys of all handles that something holds. -/
def heldKeys (w : World k.sides) : List HandleKey :=
  Holding.keysOfAll w.cell w.cells.length
    (w.side.vars.map Prod.snd ++ w.side.frames.flatten ++ k.held w.side.props ++ Holding.queued w.script)

/-- Finalizes the handles among these that nothing holds any more. -/
def finalizeUnheld (candidates : List HandleKey) : Play k Unit := do
  let held := heldKeys (← get)
  Eff.each LoopDispatch.finalize (candidates.filter fun key => !held.contains key)

/-- Finalizes handles in values that have lost a holder. -/
def sweepDropped : Play k Unit := do
  let w ← get
  Stage.update fun s => { s with dropped := [] }
  finalizeUnheld (Holding.keysOfAll w.cell w.cells.length w.side.dropped)

/-- Finalizes every handle that nothing holds. -/
def sweepAll : Play k Unit := do
  Stage.update fun s => { s with dropped := [] }
  finalizeUnheld ((← get).handles.map Prod.fst)

/-- Runs something that holds values of its own until it ends; `after` gets its result before they are let go. -/
def scene {α : Type} (after : α → Play k Unit) (x : Play k α) : Play k α := do
  Stage.update fun s => { s with frames := [] :: s.frames }
  Eff.andFinally
    (do
      let a ← x
      after a
      return a)
    (do
      Stage.update fun s => { s with frames := s.frames.tail, dropped := s.dropped ++ s.frames.headD [] }
      sweepDropped)

/-- Runs a step within another one: its result, or its error. -/
def nested (x : Play k Report) : Play k Report := do
  match ← Eff.attempt (scene (fun _ => pure ()) x) with
  | .ok r => return r
  | .error e => return .failure e

/-- Runs steps and adds their results to the trace. -/
def playAll (step : k.Step → Play k Report) : List k.Step → Play k Unit :=
  Eff.each fun s => do Stage.note (← nested (step s))

end

section

variable {k : Setting}

mutual

/-- The value that is meant. -/
def evaluate : ValueSpec k.Step → Play k Value
  | .undefined => return .undefined
  | .null => return .null
  | .boolean b => return .boolean b
  | .number x => return .number x
  | .string s => return .string s
  | .array items => return .array (← evaluateAll items)
  | .variable name => Stage.lookup name
  | .identity id => return .object (some ⟨id, none⟩)
  | .emptyObject => return .object none
  | .emptyFunction => return .callback none
  | .ref content name => do
    let v ← evaluate content
    let r := Value.ref (← Cell.new v)
    if let some n := name then Stage.store n r
    return r
  | .function f name => do
    let n := (← Stage.get).functions.length
    Stage.update fun s => { s with functions := s.functions ++ [(f, 0)] }
    let v := Value.callback (some n)
    if let some n := name then Stage.store n v
    return v

def evaluateAll : List (ValueSpec k.Step) → Play k (List Value)
  | [] => return []
  | v :: rest => do
    let first ← evaluate v
    return first :: (← evaluateAll rest)

end

/-- Evaluates a value that the step holds. -/
def evaluateHeld (v : ValueSpec k.Step) : Play k Value := do
  let value ← evaluate v
  Stage.hold [value]
  return value

def evaluateArg (a : ArgSpec k.Step) : Play k Arg := do
  let type ← Eff.ofExcept a.type.parse
  let value ← evaluateHeld a.value
  return { type, value, optional := a.optional }

def evaluateCall (c : CallSpec k.Step) : Play k Call := do
  let args ← Eff.collect evaluateArg c.args
  return { library := c.library, symbol := c.symbol, args }

/-- The argument that an answer needs. -/
def neededArg (args : List Value) (i : Nat) : Play k Value :=
  match args[i]? with
  | some v => return v
  | none => throw (.foreign (.ofString "no such argument"))

/-- The sum of numbers, from left to right. -/
def sumOf (args : List Value) : Except Error Double := do
  let xs ← args.mapM Value.asNumber
  return Sample.sumDoubles xs

/-- What a function answers when it is called for the `n`th time, from zero on. -/
def answerOf (a : AnswerSpec k.Step) (n : Nat) (args : List Value) : Play k Value :=
  match a with
  | .nothing => return .undefined
  | .sequence values =>
    match values[min n (values.length - 1)]? with
    | some v => evaluate v
    | none => return .undefined
  | .value v => evaluate v
  | .argument i => neededArg args i
  | .greaterThan bound => do
    let x ← Eff.ofExcept (← neededArg args 0).asNumber
    return .boolean (bound.less x)
  | .sum => return .number (← Eff.ofExcept (sumOf args))

/-- What is noted of a call. -/
def callNote (f : FunctionSpec k.Step) (args : List Value) : Play k Report := do
  let told ← if f.kindsOnly then pure (args.map fun v => Report.words v.kind.name)
    else Eff.collect Stage.report args
  return .record [("fn", .text f.name), ("args", .list told)]

/-- Calls a script function. Whoever waits for its answer holds it from then on. -/
def callFunction (step : k.Step → Play k Report) (function : Option FunctionId)
    (args : List Value) : Play k Value := do
  let some n := function | Eff.stuck
  let some (f, calls) := (← Stage.get).functions[n]? | Eff.stuck
  Stage.update fun s => { s with functions := s.functions.set n (f, calls + 1) }
  scene Stage.holdOutside do
    Stage.hold args
    Stage.note (← callNote f args)
    playAll step f.run
    if let some name := f.keep then Stage.store name (args.headD .undefined)
    if let some text := f.throws then throw (.foreign text)
    answerOf f.answer calls args

end

/-- How the parts of a scenario are played. -/
structure Rules (k : Setting) where
  step : Host k.sides → k.Step → Play k Report
  answer : Host k.sides → k.Job → Play k k.Reply
  /-- the script has a thread of its own -/
  threads : Bool

/-- Runs something on the loop thread, whatever thread is running. -/
def onLoopThread {k : Setting} {α : Type} (x : Play k α) : Play k α := do
  let running := (← get).thread
  modify fun w => { w with thread := .loop }
  Eff.andFinally x (modify fun w => { w with thread := running })

/-- The other sides of the bridge in a scenario. Each crossing from one side to the other takes one from `depth`. -/
def hostAt {k : Setting} (files : Sample.Files) (rules : Rules k) : Nat → Host k.sides
  | 0 =>
    { Sample.linkage files with
      limit := 0, script := fun _ _ => Eff.stuck, answer := fun _ => Eff.stuck
      scriptTurn := Eff.stuck, loopTurn := Eff.stuck }
  | depth + 1 =>
    let inner := hostAt files rules depth
    { Sample.linkage files with
      limit := 10000
      script := callFunction (rules.step inner)
      answer := rules.answer inner
      scriptTurn := if rules.threads then discard (ScriptDispatch.processPending inner) else pure ()
      loopTurn := if rules.threads then onLoopThread (discard (LoopDispatch.poll inner)) else pure () }

/-- Plays a step on its own: its result, and what was noted while it ran. -/
def perform {k : Setting} (rules : Rules k) (h : Host k.sides) (s : k.Step) : Play k StepReport := do
  Stage.update fun st => { st with trace := [] }
  let result ← nested (rules.step h s)
  Stage.update fun st => { st with frames := [] }
  sweepAll
  return { result, trace := (← Stage.get).trace }

/-- A stage on which nothing has happened yet. -/
def opening (k : Setting) (props : k.Props) : World k.sides := { native := ({} : Sample.State), side := { props } }

/-- Plays something from the beginning; nothing if it does not end. -/
def play {k : Setting} {α : Type} (props : k.Props) (x : Play k α) : Option (Except Error α) :=
  (x (opening k props)).map Prod.fst

end NativeBridge.Scenario
