import NativeBridge.Callback.Closure
import NativeBridge.Config
import NativeBridge.Dispatch.LoopQueue
import NativeBridge.Dispatch.ScriptQueue
import NativeBridge.Library.Cache
import NativeBridge.Native.Convention
import NativeBridge.Object.Registry

/-!
Everything an operation of the bridge can see or change, and the effect it runs in. An effect may raise an error, which
keeps what was changed before it, or may not end: a wait for something that never comes, or a bound that was reached.
-/

namespace NativeBridge

/-- What the bridge leaves open: the state of native libraries, the state of the script, and the jobs
that the script sends to the loop thread with their replies. -/
structure Sides where
  Native : Type
  Script : Type
  Job : Type
  Reply : Type

/-- The functions that were found for the roles of native lifetimes, and the libraries searched for them. -/
structure Lifecycle where
  bound : LifecycleRole → Option Address
  libraries : List Library.Opening

/-- What the loop state keeps alive until it is torn down. -/
inductive Retained where
  | thunk (a : Address)
  | resource (number : Nat)
  deriving DecidableEq, Repr

/-- What the loop thread owns. -/
structure LoopState where
  lifecycle : Lifecycle
  registry : Registry := {}
  libraries : Library.Cache := {}
  retained : List Retained := []
  /-- keeps the loop from running out of work -/
  workGuard : Bool := false

/-- A task for the loop thread. -/
inductive Task (Job : Type) where
  /-- an identity that no script holds any more -/
  | remove (id : ObjectId)
  /-- a job whose sender does not wait -/
  | job (j : Job)
  /-- a job whose sender waits for a promise -/
  | request (promise : PromiseId) (j : Job)

inductive Thread where
  | loop | foreign
  deriving DecidableEq, Repr

structure World (S : Sides) where
  heap : Heap := .empty
  closures : List (Address × Closure) := []
  thunks : List (Address × Thunk) := []
  loop : LoopQueue (Task S.Job) := {}
  /-- the owner of the loop dispatcher has not let go of it -/
  loopOwned : Bool := true
  /-- counts the pairs of dispatchers that there have been -/
  generation : Nat := 0
  replies : Promises (Except Error S.Reply) := {}
  script : ScriptQueue := {}
  state : Option LoopState := none
  /-- somebody is working with the loop state -/
  inUse : Bool := false
  /-- the thread that native code runs on -/
  thread : Thread := .loop
  /-- handles that a script may still hold: identity, and generation of the dispatcher to tell -/
  handles : List (HandleKey × ObjectId × Nat) := []
  minted : Nat := 0
  cells : List Value := []
  record : Library.Record := {}
  native : S.Native
  side : S.Script

/-- An effect on the world: it may not end, and it ends with a value or an error. -/
abbrev Eff (S : Sides) (α : Type) : Type := ExceptT Error (StateT (World S) Option) α

namespace Eff

variable {S : Sides} {α β : Type}

/-- The effect that does not end. -/
def stuck : Eff S α := fun _ => none

/-- Runs an effect and gives its error as a value. -/
def attempt (x : Eff S α) : Eff S (Except Error α) := fun w =>
  match x w with
  | some (r, w) => some (.ok r, w)
  | none => none

def ofExcept (r : Except Error α) : Eff S α :=
  match r with
  | .ok a => pure a
  | .error e => throw e

/-- Reads and replaces the world. -/
def update (f : World S → α × World S) : Eff S α := fun w =>
  let (a, w) := f w
  some (.ok a, w)

/-- Runs `last` after `x`, whether `x` raised an error or not. -/
def andFinally (x : Eff S α) (last : Eff S Unit) : Eff S α := do
  let r ← attempt x
  last
  ofExcept r

/-- Runs an effect for each item, in order. -/
def each (f : β → Eff S Unit) : List β → Eff S Unit
  | [] => pure ()
  | b :: rest => do
    f b
    each f rest

/-- Collects the results of an effect for each item, in order. -/
def collect (f : β → Eff S α) : List β → Eff S (List α)
  | [] => pure []
  | b :: rest => do
    let a ← f b
    let more ← collect f rest
    return a :: more

end Eff

/-- How native code calls a function pointer. -/
abbrev CallCode (S : Sides) := Address → Registers → Eff S Returned

/-- The native libraries: which there are, what is defined in them, what runs at an address, and how it is called. -/
structure Linkage (S : Sides) where
  loader : Library.Loader
  /-- a symbol of a library -/
  symbol : Library.Symbols
  /-- a symbol of any library -/
  anySymbol : Bytes → Option Address
  run : Address → CallCode S → Registers → Eff S Returned
  convention : Convention := .standard

/-- The other sides as the bridge calls them. -/
structure Host (S : Sides) extends Linkage S where
  /-- a bound for each wait and each drain -/
  limit : Nat
  /-- runs a script function -/
  script : Option FunctionId → List Value → Eff S Value
  /-- runs a job on the loop thread -/
  answer : S.Job → Eff S S.Reply
  /-- what the scripting thread does while the loop thread waits -/
  scriptTurn : Eff S Unit
  /-- what the loop thread does while the scripting thread waits -/
  loopTurn : Eff S Unit
  /-- where an error was raised that a script function ended with -/
  site : World S → Error → Site := fun _ _ => {}

namespace World

variable {S : Sides} (w : World S)

/-- The value of a reference cell. -/
def cell (c : CellId) : Value := w.cells.getD c .undefined

/-- Closures that are alive. -/
def liveClosures : Nat := w.closures.length

/-- Somebody still holds the loop dispatcher of this generation: its owner, a batch that is posted, or a closure. -/
def loopAlive (generation : Nat) : Bool :=
  (w.generation == generation && (w.loopOwned || w.loop.posted > 0))
    || w.closures.any fun c => c.2.generation == some generation

end World

namespace Memory

variable {S : Sides}

def alloc (bytes : Bytes) : Eff S Address :=
  Eff.update fun w => let (a, h) := w.heap.alloc bytes; (a, { w with heap := h })

/-- A new block with a string and the NUL after it. -/
def allocString (s : Bytes) : Eff S Address := alloc (s ++ [0])

def reserve : Eff S Address :=
  Eff.update fun w => let (a, h) := w.heap.reserve; (a, { w with heap := h })

def release (a : Address) : Eff S Unit := modify fun w => { w with heap := w.heap.release a }

def load (a : Address) (width : Nat) : Eff S Bytes := return (← get).heap.load a width

def loadWord (a : Address) : Eff S Nat := return (← get).heap.loadWord a

def store (a : Address) (bytes : Bytes) : Eff S Unit := modify fun w => { w with heap := w.heap.store a bytes }

def loadString (a : Address) : Eff S Bytes := return (← get).heap.loadString a

end Memory

/-- A new reference cell. -/
def Cell.new {S : Sides} (v : Value) : Eff S CellId :=
  Eff.update fun w => (w.cells.length, { w with cells := w.cells ++ [v] })

/-- Stores a value in a cell. -/
def Cell.set {S : Sides} (c : CellId) (v : Value) : Eff S Unit :=
  modify fun w => { w with cells := w.cells.set c v }

end NativeBridge
