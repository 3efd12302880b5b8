import NativeBridge.Scenario.Natives

/-!
Scenarios of the object registry, of wrappers that are held outside of it, and of the functions that manage native
lifetimes.
-/

namespace NativeBridge.Scenario.Ownership

/-- How a wrapper comes to hold a pointer. -/
inductive Acquisition where
  | objectNone | objectFull | variantNone | variantFull | boxedNone | boxedFull | boxedAlloc
  deriving DecidableEq, Repr

structure WrapperSpec where
  how : Acquisition
  ptr : Option String
  type : TypeId
  size : Nat

/-- Calls of lifetime functions. -/
inductive LifetimeStep where
  | objectRef (ptr : Option String)
  | objectUnref (ptr : Option String)
  | objectRefSink (ptr : Option String)
  | objectIsFloating (ptr : Option String)
  | variantRef (ptr : Option String)
  | variantRefSink (ptr : Option String)
  | variantUnref (ptr : Option String)
  | boxedCopy (type : TypeId) (ptr : Option String) (as : Option String)
  | boxedFree (type : TypeId) (ptr : Option String)
  | free (ptr : Option String)
  | typeFromName (name : Bytes)
  | hasTypeRegistry
  | alloc0 (size : Nat) (as : Option String)
  | strfreev (items : Option (List Bytes))
  | listFree
  | slistFree

inductive Step where
  | native (s : NativeStep)
  | lifetime (s : LifetimeStep)
  | add (w : WrapperSpec)
  | resolve (id : ObjectId)
  | find (id : ObjectId)
  | bytes (id : ObjectId) (size : Nat)
  | remove (id : ObjectId)
  /-- moves a wrapper out of the registry -/
  | take (id : ObjectId) (as : String)
  /-- makes a wrapper outside of the registry -/
  | hold (w : WrapperSpec) (as : String)
  /-- moves a wrapper into the registry -/
  | addHeld (name : String)
  | release (name : String)
  | assign (target source : String)
  | clear
  | size
  | next

structure Props where
  lifecycle : Lifecycle
  registry : Registry := {}
  held : List (String × Wrapper) := []

abbrev setting : Setting := ⟨Step, Props, Unit, Unit, fun _ => []⟩

section

variable (h : Host setting.sides)

def lifecycle : Play setting Lifecycle := return (← Stage.kept).lifecycle

/-- What reports say about a wrapper. -/
def about (w : Wrapper) : Play setting Report := do
  let ptr ← Stage.pointerName w.pointer
  match w with
  | .object _ => return .record [("kind", .words "object"), ("ptr", ptr)]
  | .variant _ => return .record [("kind", .words "variant"), ("ptr", ptr)]
  | .boxed _ type release =>
    return .record
      [("kind", .words "boxed"), ("ptr", ptr), ("type", .ofCount type), ("release", .words release.name)]

def acquire (w : WrapperSpec) : Play setting Wrapper := do
  let l ← lifecycle
  let p ← Stage.native w.ptr
  match w.how with
  | .objectNone => Wrapper.objectNone h l p
  | .objectFull => Wrapper.objectFull h l p
  | .variantNone => Wrapper.variantNone h l p
  | .variantFull => return Wrapper.variantFull p
  | .boxedNone => Wrapper.boxedNone h l p w.type
  | .boxedFull => return Wrapper.boxedFull p w.type
  | .boxedAlloc => Wrapper.boxedAlloc h l w.size w.type

def drop (w : Wrapper) : Play setting Unit := do w.drop h (← lifecycle)

def register (w : Wrapper) : Play setting Report := do
  let (id, registry) := (← Stage.kept).registry.add w
  Stage.updateKept fun p => { p with registry }
  return .ofCount id

/-- Takes a wrapper out of the registry. -/
def takeOut (id : ObjectId) : Play setting (Option Wrapper) := do
  let (taken, registry) := (← Stage.kept).registry.take id
  Stage.updateKept fun p => { p with registry }
  return taken

/-- Keeps a wrapper outside of the registry; one that has the name goes. -/
def keep (name : String) (w : Wrapper) : Play setting Unit := do
  let old := (← Stage.kept).held.lookup name
  Stage.updateKept fun p => { p with held := Stage.put name w p.held }
  if let some o := old then drop h o

def gone : Report := .words "gone"

/-- Runs a lifetime function that gives a pointer back. -/
def pointerResult (p : Play setting Address) : Play setting Report := do Stage.pointerName (← p)

/-- Runs a lifetime function that gives nothing back. -/
def noResult (x : Play setting Unit) : Play setting Report := do
  x
  return .nothing

/-- Names new memory, if it gets a name. -/
def nameMemory (name : Option String) (p : Address) : Play setting Unit :=
  match name with
  | some n => NativeStep.nameNative n p
  | none => pure ()

def lifetime (s : LifetimeStep) : Play setting Report := do
  let l ← lifecycle
  match s with
  | .objectRef ptr => do pointerResult (l.objectRef h (← Stage.native ptr))
  | .objectUnref ptr => do noResult (l.objectUnref h (← Stage.native ptr))
  | .objectRefSink ptr => do pointerResult (l.objectRefSink h (← Stage.native ptr))
  | .objectIsFloating ptr => do return .truth (← l.objectIsFloating h (← Stage.native ptr))
  | .variantRef ptr => do pointerResult (l.variantRef h (← Stage.native ptr))
  | .variantRefSink ptr => do pointerResult (l.variantRefSink h (← Stage.native ptr))
  | .variantUnref ptr => do noResult (l.variantUnref h (← Stage.native ptr))
  | .boxedCopy type ptr name => do
    let p ← l.boxedCopy h type (← Stage.native ptr)
    if p = 0 then return .words "null"
    nameMemory name p
    return .hex (← Memory.load p 8)
  | .boxedFree type ptr => do noResult (l.boxedFree h type (← Stage.native ptr))
  | .free ptr => do noResult (l.free h (← Stage.native ptr))
  | .typeFromName name => do return .ofCount (← l.typeFromName h name)
  | .hasTypeRegistry => return .truth l.hasTypeRegistry
  | .alloc0 size name => do
    let p ← l.alloc0 h size
    nameMemory name p
    return .hex (← Memory.load p size)
  | .strfreev items => do
    let p ← match items with
      | none => pure 0
      | some texts => Sample.allocStrings texts
    noResult (l.strfreev h p)
  | .listFree => noResult (l.listFree h 0)
  | .slistFree => noResult (l.slistFree h 0)

def step : Step → Play setting Report
  | .native s => s.run
  | .lifetime s => lifetime h s
  | .add w => do register (← acquire h w)
  | .resolve id => do
    match (← Stage.kept).registry.resolve id with
    | some p => return .record [("ptr", ← Stage.pointerName p)]
    | none => return gone
  | .find id => do
    match (← Stage.kept).registry.find? id with
    | some w => about w
    | none => return gone
  | .bytes id size => do
    match (← Stage.kept).registry.resolve id with
    | some p => return .hex (← Memory.load p size)
    | none => return gone
  | .remove id => do
    match ← takeOut id with
    | some w =>
      drop h w
      return .truth true
    | none => return .truth false
  | .take id name => do
    match ← takeOut id with
    | some w =>
      keep h name w
      about w
    | none => return gone
  | .hold w name => do
    let o ← acquire h w
    keep h name o
    about o
  | .addHeld name => do
    match (← Stage.kept).held.lookup name with
    | none => return gone
    | some w =>
      Stage.updateKept fun p => { p with held := Stage.put name w.emptied p.held }
      register w
  | .release name => do
    let old := (← Stage.kept).held.lookup name
    Stage.updateKept fun p => { p with held := p.held.filter (·.1 != name) }
    if let some o := old then drop h o
    return .nothing
  | .assign target source => do
    let held := (← Stage.kept).held
    match held.lookup target, held.lookup source with
    | some t, some s => do
      if target = source then return .list [← about t, ← about t]
      let (t, s) ← Wrapper.moveInto h (← lifecycle) t s
      Stage.updateKept fun p => { p with held := Stage.put source s (Stage.put target t p.held) }
      return .list [← about t, ← about s]
    | _, _ => return gone
  | .clear => do
    let (wrappers, registry) := (← Stage.kept).registry.clear
    Stage.updateKept fun p => { p with registry }
    Eff.each (drop h) wrappers
    return .ofCount registry.size
  | .size => return .ofCount (← Stage.kept).registry.size
  | .next => return .ofCount (← Stage.kept).registry.nextId

end

def rules : Rules setting where
  step := step
  answer _ _ := Eff.stuck
  threads := false

/-- Plays steps, then lets everything go; gives the entries, and the counters at the end. -/
def script (files : Sample.Files) (config : LifecycleConfig) (steps : List Step) :
    Play setting (List StepReport × Report) := do
  let h := hostAt files rules 1
  let lifecycle ← Lifecycle.resolve h config
  Stage.updateKept fun p => { p with lifecycle }
  let entries ← Eff.collect (perform rules h) steps
  let p ← Stage.kept
  Eff.each (drop h) (p.registry.clear.1 ++ p.held.map Prod.snd)
  lifecycle.destroy
  return (entries, ← NativeStep.counts)

/-- A lifecycle without any function. -/
def unbound : Lifecycle := ⟨fun _ => none, []⟩

/-- What happens in a scenario; nothing if it does not end. -/
def run (files : Sample.Files) (config : LifecycleConfig) (steps : List Step) :
    Option (Except Error (List StepReport × Report)) :=
  @play setting _ { lifecycle := unbound } (script files config steps)

end NativeBridge.Scenario.Ownership
