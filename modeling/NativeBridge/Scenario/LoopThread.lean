import NativeBridge.Scenario.NativeView
import NativeBridge.Scenario.Natives

/-!
Scenarios on the loop thread: the loop state, conversions between script values and native values, fields of structs,
callbacks that native code fires, and calls. Script functions run at once.
-/

namespace NativeBridge.Scenario.LoopThread

/-- What is put into memory. -/
inductive Content where
  | bytes (b : Bytes)
  /-- the address of a new string -/
  | text (t : Bytes)
  /-- the address of a native object, or NULL -/
  | pointer (ptr : Option String)

/-- An item of a linked list. -/
inductive ListItem where
  | number (n : Int)
  | text (t : Bytes)
  | native (ptr : Option String)

/-- Something in memory that a pointer leads to; without items the pointer is NULL. -/
inductive Pointee where
  | string (items : Option (List Bytes))
  | strings (items : Option (List Bytes))
  | pointers (items : Option (List (Option String)))
  | list (items : Option (List ListItem))

/-- Steps on the loop state. -/
inductive StateStep where
  | install (guard : Bool)
  | teardown
  | installed
  /-- asks for the state, and for its teardown, while it is held -/
  | nested
  | throwInside
  | retain (as : String)
  | alive (name : String)
  | releaseGuard
  /-- runs the loop; says whether it has run out of work -/
  | runOut
  | summary
  | stop
  | dropDispatcher
  | runLoop
  | pending
  | remove (id : ObjectId)

/-- Steps on native values that the scenario keeps. -/
inductive KeptStep where
  | view
  | drop
  | slots
  | poke (c : Content)
  | handOver
  | refs

/-- Steps on a struct in memory. -/
inductive FieldStep where
  | memory (size : Nat)
  | bytes
  | put (offset : Nat) (c : Content)

/-- How native code fires a callback. -/
structure Firing where
  kind : CallbackKind
  a : Option String
  b : Option String
  width : Int
  height : Int

inductive Step where
  | native (s : NativeStep)
  | ref (ptr : Option String)
  | free (ptr : Option String)
  | state (s : StateStep)
  | kept (name : String) (s : KeptStep)
  | field (s : FieldStep)
  | drop (name : String)
  | get (name : String)
  | resolve (value : ValueSpec Step)
  | typeId (name : String) (lib : Option String)
  | marshal (arg : ArgSpec Step) (as : Option String)
  | unmarshal (name : String) (type : Option TypeSpec) (as : Option String)
  | result (type : TypeSpec) (buffer : Bytes) (as : Option String)
  | scalar (type : TypeSpec) (memory : Bytes)
  | argument (type : TypeSpec) (c : Content) (as : Option String)
  | wrap (ptr : Option String) (type : TypeSpec) (transfer : Bool) (as : Option String)
  | fromPointee (p : Pointee) (type : TypeSpec) (transfer : Bool) (as : Option String)
  | write (type : TypeSpec) (offset : Nat) (value : ValueSpec Step) (null : Bool)
  | read (type : TypeSpec) (offset : Nat) (null : Bool) (as : Option String)
  | callback (type : TypeSpec) (function : ValueSpec Step) (as : Option String)
  | fire (name : Option String) (f : Firing)
  | notify (name : Option String)
  | invoke (c : CallSpec Step) (result : TypeSpec) (apply : Bool)
  | batch (calls : List (CallSpec Step))

structure Props where
  /-- native values by name, with the types they were made for -/
  values : List (String × NativeValue × Descriptor) := []
  resources : List (String × Nat) := []
  /-- the struct in memory -/
  memory : Address := 0
  size : Nat := 0
  lifecycle : Lifecycle

/-- The handles that a native value keeps. -/
def handlesOf : NativeValue → List Value
  | .owned _ (.objects _ handles) => handles.map fun k => .object (some k)
  | _ => []

abbrev setting : Setting := ⟨Step, Props, Empty, Unit, fun p => p.values.flatMap fun v => handlesOf v.2.1⟩

section

variable (h : Host setting.sides)

/-- The native value of a name, with its type. -/
def valueOf (name : String) : Play setting (NativeValue × Descriptor) := do
  match (← Stage.kept).values.lookup name with
  | some v => return v
  | none => throw (.foreign (.ofString "no such native value"))

/-- Lets a native value go; what it keeps may have lost its last holder. -/
def letGo (v : NativeValue) : Play setting Unit := do
  v.release
  Stage.update fun s => { s with dropped := s.dropped ++ handlesOf v }

/-- Keeps a native value if it has a name, and lets it go otherwise. -/
def keepValue (name : Option String) (v : NativeValue) (type : Descriptor) : Play setting Unit := do
  match name with
  | none => letGo v
  | some n =>
    let old := (← Stage.kept).values.lookup n
    Stage.updateKept fun p => { p with values := Stage.put n (v, type) p.values }
    if let some (o, _) := old then letGo o

/-- Reports a native value, then keeps it or lets it go. -/
def showValue (name : Option String) (v : NativeValue) (type : Descriptor) : Play setting Report := do
  let r ← NativeView.report v type
  keepValue name v type
  return r

/-- Reports a script value, which the step holds or a variable keeps. -/
def showResult (name : Option String) (v : Value) : Play setting Report := do
  Stage.storeAs name v
  Stage.report v

/-- The bytes that are put into memory. -/
def contentBytes : Content → Play setting Bytes
  | .bytes b => return b
  | .text t => return Bytes.ofNatLE 8 (← Memory.allocString t)
  | .pointer ptr => return Bytes.ofNatLE 8 (← Stage.native ptr)

/-- The address of something new in memory. -/
def build : Pointee → Play setting Address
  | .string none | .strings none | .pointers none | .list none => return 0
  | .string (some items) => Memory.allocString (items.headD [])
  | .strings (some items) => Sample.allocStrings items
  | .pointers (some items) => do Sample.allocWords ((← Eff.collect Stage.native items) ++ [0])
  | .list (some items) => do
    Sample.buildList (← Eff.collect (fun item => do
      match item with
      | .number n => return Width.w64.low n
      | .text t => Memory.allocString t
      | .native ptr => Stage.native ptr) items)

/-- The closure of a native callback. -/
def closureOf : NativeValue → Play setting Address
  | .trampoline _ data _ _ => return data
  | .owned _ (.code thunk) => return (((← get).thunks.lookup thunk).map (·.target)).getD 0
  | _ => return 0

def dataOf (name : Option String) : Play setting Address := do
  match name with
  | none => return 0
  | some n => closureOf (← valueOf n).1

/-- What each slot of a native value passes. -/
def slotNames : NativeValue → List String
  | .void => ["null"]
  | .trampoline _ _ destroy dataFirst =>
    (if dataFirst then ["closure", "trampoline"] else ["trampoline", "closure"])
      ++ (if destroy.isSome then ["destroy"] else [])
  | _ => ["value"]

/-- A resource that has not been kept before. -/
def retainResource (name : String) : Play setting Unit := do
  let number := (← Stage.kept).resources.length
  LoopState.holding (LoopState.retain (.resource number))
  Stage.updateKept fun p => { p with resources := Stage.put name number p.resources }

/-- Whether a resource is still kept. -/
def isRetained (name : String) : Play setting Bool := do
  match (← Stage.kept).resources.lookup name, (← get).state with
  | some number, some s => return s.retained.contains (.resource number)
  | _, _ => return false

def installState (workGuard : Bool) : Play setting Unit := do
  LoopState.install { lifecycle := (← Stage.kept).lifecycle, workGuard }

def noReport (x : Play setting Unit) : Play setting Report := do
  x
  return .nothing

/-- A result, or the error in its place. -/
def orFailure (x : Play setting Report) : Play setting Report := do
  match ← Eff.attempt x with
  | .ok r => return r
  | .error e => return .failure e

def stateStep : StateStep → Play setting Report
  | .install guard => noReport (installState guard)
  | .teardown => noReport (LoopState.teardown h)
  | .installed => return .truth (← LoopState.isInstalled)
  | .nested => LoopState.holding do
    let inner ← orFailure (LoopState.holding (return .words "in"))
    let torn ← orFailure do
      LoopState.teardown h
      return .words "torn down"
    return .list [inner, torn]
  | .throwInside => LoopState.holding (throw (.foreign (.ofString "inside")))
  | .retain name => noReport (retainResource name)
  | .alive name => return .truth (← isRetained name)
  | .releaseGuard => noReport (LoopState.holding LoopState.releaseWorkGuard)
  | .runOut => do
    let _ ← LoopDispatch.poll h
    return .truth (((← get).state.map (!·.workGuard)).getD true)
  | .summary => LoopState.holding do
    let s ← LoopState.current
    return .list ([s.registry.size, s.registry.nextId, s.libraries.size, s.retained.length].map .ofCount)
  | .stop => noReport LoopDispatch.stop
  | .dropDispatcher => do
    let _ ← LoopDispatch.poll h
    modify fun w => { w with loopOwned := false }
    return .nothing
  | .runLoop => return .ofCount (← LoopDispatch.poll h)
  | .pending => return .ofCount (← get).loop.pending.length
  | .remove id => do
    let found ← LoopState.holding do return ((← LoopState.current).registry.find? id).isSome
    LoopState.removeObject h id
    return .truth found

def keptStep (name : String) (s : KeptStep) : Play setting Report := do
  match s with
  | .drop =>
    let old := (← Stage.kept).values.lookup name
    Stage.updateKept fun p => { p with values := p.values.filter (·.1 != name) }
    if let some (v, _) := old then letGo v
    return .ofCount (if old.isSome then 1 else 0)
  | other =>
    let (v, type) ← valueOf name
    match other with
    | .slots => return .list ((slotNames v).map .words)
    | .poke c => do
      Memory.store (v.pointer?.getD 0) (← contentBytes c)
      return .nothing
    | .handOver => noReport v.handOver
    | .refs => do
      match ← Closure.get? (← closureOf v) with
      | some c => return .ofCount c.refs
      | none => return .nothing
    | _ => NativeView.report v type

def memoryReport : Play setting Report := do
  let p ← Stage.kept
  return .hex (← Memory.load p.memory p.size)

def fieldStep : FieldStep → Play setting Report
  | .memory size => do
    let memory ← Memory.alloc (List.replicate size 0)
    Stage.updateKept fun p => { p with memory, size }
    return .nothing
  | .bytes => memoryReport
  | .put offset c => do
    Memory.store ((← Stage.kept).memory + offset) (← contentBytes c)
    return .nothing

/-- The words that native code passes to an entry point. -/
def firingWords (f : Firing) (data : Address) : Play setting (List Nat) := do
  let a ← Stage.native f.a
  let b ← Stage.native f.b
  match f.kind with
  | .drawFunc => return [a, b, Width.w32.low f.width, Width.w32.low f.height, data]
  | .destroy | .sourceFunc => return [data]
  | _ => return [a, b, data]

/-- Fires a callback. An entry point that lets go of its closure is given a reference to let go of. -/
def fire (f : Firing) (data : Address) : Play setting Report := do
  match Entry.ofKind? f.kind with
  | none => return .nothing
  | some entry =>
    if f.kind.slotCount = 2 ∧ data ≠ 0 then Closure.ref data
    let r ← Trampoline.enter h entry { ints := ← firingWords f data }
    match f.kind with
    | .tickFunc | .sourceFunc | .compareFunc => return .number (Sample.asInt32 r.int)
    | _ => return .nothing

def signatureOf : Descriptor → Signature
  | .callback kind scope args result source outcome => { kind, scope, args, result, source, outcome }
  | _ => { kind := .closure, scope := .call, args := none, result := none, source := none, outcome := none }

/-- The base of a struct, or NULL. -/
def baseOf (null : Bool) : Play setting Address := do
  if null then return 0 else return (← Stage.kept).memory

/-- Converts something to a script value while the state is held. -/
def convert (x : Play setting Value) : Play setting Value := LoopDispatch.unwinding (LoopState.holding x)

def convertPointer (p : Address) (type : TypeSpec) (transfer : Bool) (name : Option String) :
    Play setting Report := do
  let d ← Eff.ofExcept type.parse
  showResult name (← convert (fromPointer h p d transfer))

def step : Step → Play setting Report
  | .native s => s.run
  | .ref ptr => do
    Sample.Object.ref (← Stage.native ptr)
    return .nothing
  | .free ptr => do
    Memory.release (← Stage.native ptr)
    return .nothing
  | .state s => stateStep h s
  | .kept name s => keptStep name s
  | .field s => fieldStep s
  | .drop name => return .ofCount (if ← Stage.forget name then 1 else 0)
  | .get name => do Stage.report (← Stage.lookup name)
  | .resolve value => do
    let handle ← Eff.ofExcept (← evaluateHeld value).asObject
    Stage.pointerName (← LoopState.holding (resolveObject handle))
  | .typeId name lib => return .ofCount (← LoopState.holding (boxedTypeId h name lib))
  | .marshal arg name => do
    let a ← evaluateArg arg
    showValue name (← LoopState.holding (toNative h a)) a.type
  | .unmarshal name type as => do
    let (v, own) ← valueOf name
    let d ← Eff.ofExcept ((type.map TypeSpec.parse).getD (.ok own))
    showResult as (← convert (fromNative h v d))
  | .result type buffer name => do
    let d ← Eff.ofExcept type.parse
    let v ← Eff.ofExcept (readReturn d (Bytes.resize 16 buffer))
    let shown ← NativeView.fields v d
    keepValue name v d
    match v with
    | .raw (_ + 1) => return .record shown
    | _ => do
      let value ← convert (fromNative h v d)
      return .record (shown ++ [("value", ← Stage.report value)])
  | .scalar type memory => do
    let d ← Eff.ofExcept type.parse
    Stage.report (← Eff.ofExcept (readScalar memory d))
  | .argument type c name => do
    let d ← Eff.ofExcept type.parse
    let memory ← contentBytes c
    showResult name (← convert (argumentFromMemory h memory d))
  | .wrap ptr type transfer name => do convertPointer h (← Stage.native ptr) type transfer name
  | .fromPointee p type transfer name => do convertPointer h (← build p) type transfer name
  | .write type offset value null => do
    let d ← Eff.ofExcept type.parse
    writeField (← baseOf null) offset d (← evaluateHeld value)
    if null then return .nothing else memoryReport
  | .read type offset null name => do
    let d ← Eff.ofExcept type.parse
    let base ← baseOf null
    showResult name (← convert (readField h base offset d))
  | .callback type function name => do
    let d ← Eff.ofExcept type.parse
    let f ← Eff.ofExcept (← evaluateHeld function).asCallback
    showValue name (← LoopState.holding (makeCallback f (signatureOf d))) d
  | .fire name f => do fire h f (← dataOf name)
  | .notify name => do
    Trampoline.unref (← dataOf name)
    return .nothing
  | .invoke c result apply => do
    let call ← evaluateCall c
    let outcome ← Call.invoke h call (← Eff.ofExcept result.parse)
    Stage.hold (outcome.value :: outcome.updates.map Prod.snd)
    if apply then Call.applyUpdates outcome.updates
    return .record
      [("value", ← Stage.report outcome.value),
       ("updates", .list (← Eff.collect Stage.report (outcome.updates.map Prod.snd)))]
  | .batch calls => do
    let updates ← Call.invokeAll h (← Eff.collect evaluateCall calls)
    Stage.hold (updates.map Prod.snd)
    return .list (← Eff.collect Stage.report (updates.map Prod.snd))

end

def rules : Rules setting where
  step := step
  answer _ job := nomatch job
  threads := false

/-- Drops all variables and native values, and releases what the state owns. -/
def close (h : Host setting.sides) : Play setting Unit := do
  Eff.each letGo ((← Stage.kept).values.map fun v => v.2.1)
  Stage.updateKept fun p => { p with values := [] }
  Stage.update fun s => { s with vars := [], frames := [] }
  sweepAll
  let _ ← LoopDispatch.poll h
  LoopState.teardown h

/-- Plays steps, then lets everything go; gives what happened, and the counters at the end. -/
def script (files : Sample.Files) (config : LifecycleConfig) (installed : Bool) (steps : List Step) :
    Play setting (List StepReport × Report) := do
  let h := hostAt files rules 100
  let lifecycle ← Lifecycle.resolve h config
  Stage.updateKept fun p => { p with lifecycle }
  modify fun w => { w with script := { w.script with channel := .inline } }
  if installed then installState false
  let reports ← Eff.collect (perform rules h) steps
  close h
  lifecycle.destroy
  return (reports, ← NativeStep.counts)

/-- What happens in a scenario; nothing if it does not end. -/
def run (files : Sample.Files) (config : LifecycleConfig) (installed : Bool) (steps : List Step) :
    Option (Except Error (List StepReport × Report)) :=
  @play setting _ { lifecycle := ⟨fun _ => none, []⟩ } (script files config installed steps)

end NativeBridge.Scenario.LoopThread
