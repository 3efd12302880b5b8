import NativeBridge.Object.Ownership

/-!
The state of the loop thread, which one piece of work at a time may hold, and what it owns: registered objects,
libraries and what is retained for native code.
-/

namespace NativeBridge

variable {S : Sides}

namespace Closure

/-- A new closure, with the creator's reference. -/
def create (c : Closure) : Eff S Address := do
  let a ← Memory.reserve
  modify fun w => { w with closures := w.closures ++ [(a, c)] }
  return a

def get? (a : Address) : Eff S (Option Closure) := return (← get).closures.lookup a

def ref (a : Address) : Eff S Unit :=
  modify fun w => { w with closures := w.closures.map fun e =>
    if e.1 = a then (a, { e.2 with refs := e.2.refs + 1 }) else e }

/-- Drops a reference; the closure goes with the last one. -/
def unref (a : Address) : Eff S Unit :=
  modify fun w => { w with closures := w.closures.filterMap fun e =>
    if e.1 = a then (if e.2.refs ≤ 1 then none else some (a, { e.2 with refs := e.2.refs - 1 })) else some e }

end Closure

namespace Thunk

def create (t : Thunk) : Eff S Address := do
  let a ← Memory.reserve
  modify fun w => { w with thunks := w.thunks ++ [(a, t)] }
  return a

def own (a : Address) : Eff S Unit :=
  modify fun w => { w with thunks := w.thunks.map fun e =>
    if e.1 = a then (a, { e.2 with owners := e.2.owners + 1 }) else e }

/-- Drops an owner; with the last one the code goes, and its reference to the closure. -/
def disown (a : Address) : Eff S Unit := do
  match (← get).thunks.lookup a with
  | none => return
  | some t =>
    if t.owners ≤ 1 then
      modify fun w => { w with thunks := w.thunks.filter (·.1 != a) }
      Closure.unref t.target
    else
      modify fun w => { w with thunks := w.thunks.map fun e =>
        if e.1 = a then (a, { e.2 with owners := e.2.owners - 1 }) else e }

end Thunk

namespace LoopState

/-- Makes a state the one of the loop thread. -/
def install (s : LoopState) : Eff S Unit := do
  if (← get).state.isSome then throw .alreadyInstalled
  modify fun w => { w with state := some s }

def isInstalled : Eff S Bool := do
  let w ← get
  return w.thread = .loop && w.state.isSome

/-- Changes the state, if there is one. -/
def update (f : LoopState → LoopState) : Eff S Unit := modify fun w => { w with state := w.state.map f }

/-- The state, for work that holds it. -/
def current : Eff S LoopState := do
  match (← get).state with
  | some s => return s
  | none => throw .outsideLoop

/-- Runs work that holds the state; nobody else may hold it meanwhile. -/
def holding {α : Type} (work : Eff S α) : Eff S α := do
  if !(← isInstalled) then throw .outsideLoop
  if (← get).inUse then throw .reentrant
  modify fun w => { w with inUse := true }
  Eff.andFinally work (modify fun w => { w with inUse := false })

def releaseRetained : Retained → Eff S Unit
  | .thunk a => Thunk.disown a
  | .resource _ => pure ()

/-- Lets go of everything the state owns. -/
def clear (h : Host S) (s : LoopState) : Eff S Unit := do
  let (wrappers, registry) := s.registry.clear
  update fun s => { s with registry }
  Eff.each (Wrapper.drop h s.lifecycle) wrappers
  update fun s => { s with retained := [] }
  Eff.each releaseRetained s.retained
  update fun s => { s with workGuard := false }

/-- Lets go of all libraries, first those of calls and then those of lifetimes. All of them stay open. -/
def releaseLibraries (s : LoopState) (r : Library.Record) : Library.Record :=
  Library.releaseAll s.lifecycle.libraries (s.libraries.destroy r)

/-- Removes the state. -/
def uninstall : Eff S Unit :=
  modify fun w =>
    { w with
      inUse := false
      state := none
      record := w.state.elim w.record fun s => s.releaseLibraries w.record }

/-- Releases what the state owns and removes it; nothing happens where none is installed. -/
def teardown (h : Host S) : Eff S Unit := do
  if !(← isInstalled) then return
  if (← get).inUse then throw .teardownInUse
  let s ← current
  modify fun w => { w with inUse := true }
  clear h s
  uninstall

def currentLifecycle : Eff S Lifecycle := return (← current).lifecycle

/-- Keeps something alive until the teardown. -/
def retain (r : Retained) : Eff S Unit := update fun s => { s with retained := s.retained ++ [r] }

def releaseWorkGuard : Eff S Unit := update fun s => { s with workGuard := false }

/-- Registers an object and gives the script a handle of it. -/
def wrap (o : Wrapper) : Eff S Handle := do
  let s ← current
  let (id, registry) := s.registry.add o
  update fun s => { s with registry }
  Eff.update fun w =>
    (⟨id, some w.minted⟩,
     { w with handles := w.handles ++ [(w.minted, id, w.generation)], minted := w.minted + 1 })

/-- Removes an identity; its object is released after the state is free again. -/
def removeObject (h : Host S) (id : ObjectId) : Eff S Unit := do
  let (taken, l) ← holding do
    let s ← current
    let (taken, registry) := s.registry.take id
    update fun s => { s with registry }
    return (taken, s.lifecycle)
  match taken with
  | some o => o.drop h l
  | none => return

/-- The library of a name. -/
def library (h : Host S) (name : Bytes) : Eff S Library.Opening := do
  let s ← current
  let (r, libraries, record) := s.libraries.get h.loader name (← get).record
  modify fun w => { w with record }
  update fun s => { s with libraries }
  Eff.ofExcept r

/-- The address of a symbol of a library. -/
def symbol (h : Host S) (name symbol : Bytes) : Eff S Address := do
  let s ← current
  let (r, libraries, record) := s.libraries.symbol h.loader h.symbol name symbol (← get).record
  modify fun w => { w with record }
  update fun s => { s with libraries }
  Eff.ofExcept r

end LoopState

end NativeBridge
