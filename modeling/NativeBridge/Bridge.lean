import NativeBridge.Call

/-!
The bridge as the scripting thread sees it: a loop thread that is started and stopped, and requests to it. Each
request waits for its reply, and script functions that native code calls meanwhile run within the wait.
-/

namespace NativeBridge.Bridge

/-- What the scripting thread asks of the loop thread. -/
inductive Request where
  | call (c : Call) (result : Descriptor)
  | batch (calls : List Call)
  | read (object : Option Handle) (type : Descriptor) (offset : Nat)
  | write (object : Option Handle) (type : Descriptor) (offset : Nat) (value : Value)
  | alloc (size : Nat) (name : String) (lib : Option String)
  | address (object : Option Handle)
  | holdings
  | stop

/-- What the loop thread holds. -/
structure Holdings where
  objects : Nat := 0
  libraries : Nat := 0
  retained : Nat := 0
  deriving DecidableEq, Repr

inductive Reply where
  | outcome (o : Outcome)
  | updates (cells : List (CellId × Value))
  | value (v : Value)
  | address (a : Address)
  | holdings (held : Holdings)
  | done

/-- A bridge whose loop thread serves requests. -/
abbrev sides (Native Script : Type) : Sides := ⟨Native, Script, Request, Reply⟩

section

variable {Native Script : Type} (h : Host (sides Native Script))

/-- Ends the loop: no more tasks are taken, and nothing keeps it from running out of work. -/
def endLoop : Eff (sides Native Script) Reply := do
  LoopDispatch.stop
  LoopState.holding LoopState.releaseWorkGuard
  return .done

/-- Serves a request on the loop thread. -/
def answer : Request → Eff (sides Native Script) Reply
  | .call c result => return .outcome (← Call.invoke h c result)
  | .batch calls => return .updates (← Call.invokeAll h calls)
  | .read object type offset =>
    LoopState.holding do return .value (← readField h (← resolveObject object) offset type)
  | .write object type offset value =>
    LoopState.holding do
      writeField (← resolveObject object) offset type value
      return .done
  | .alloc size name lib =>
    LoopState.holding do
      let id ← boxedTypeId h name lib
      let o ← Wrapper.boxedAlloc h (← LoopState.currentLifecycle) size id
      return .value (.object (some (← LoopState.wrap o)))
  | .address object => LoopState.holding do return .address (← resolveObject object)
  | .holdings =>
    LoopState.holding do
      let s ← LoopState.current
      return .holdings
        { objects := s.registry.size, libraries := s.libraries.size, retained := s.retained.length }
  | .stop => endLoop

def isRunning : Eff (sides Native Script) Bool := return (← get).state.isSome

/-- Starts the loop thread, with dispatchers and a loop state of its own. -/
def start (config : LifecycleConfig) : Eff (sides Native Script) Unit := do
  if ← isRunning then throw .alreadyRunning
  modify fun w =>
    { w with loop := {}, loopOwned := true, generation := w.generation + 1, script := w.script.renew }
  LoopState.install { lifecycle := ← Lifecycle.resolve h config, workGuard := true }

/-- The other sides while the scripting thread waits for the end of the loop thread and runs nothing. -/
def joining : Host (sides Native Script) := { h with scriptTurn := Eff.stuck }

/-- Stops the loop thread: what waits for it is dropped, and it releases all that it owns. A stop from within a
call would wait for itself. -/
def stop : Eff (sides Native Script) Unit := do
  if !(← isRunning) then return
  if (← get).loop.isWaiting then Eff.stuck
  match ← Eff.attempt (LoopRequest.send h .stop) with
  | .ok _ | .error .loopGone => pure ()
  | .error e => throw e
  let _ ← LoopDispatch.poll (joining h)
  LoopState.teardown (joining h)
  ScriptDispatch.clear
  modify fun w => { w with loopOwned := false }

/-- Sends a request to the running loop. -/
def request (r : Request) : Eff (sides Native Script) Reply := do
  if !(← isRunning) then throw .notRunning
  LoopRequest.send h r

/-- Calls a native function; its reference arguments have their cells updated before this returns. -/
def call (c : Call) (result : Descriptor) : Eff (sides Native Script) Value := do
  match ← request h (.call c result) with
  | .outcome o =>
    Call.applyUpdates o.updates
    return o.value
  | _ => Eff.stuck

/-- Makes calls for their effect with one request. -/
def batch (calls : List Call) : Eff (sides Native Script) Unit := do
  if calls.isEmpty then return
  match ← request h (.batch calls) with
  | .updates cells => Call.applyUpdates cells
  | _ => Eff.stuck

/-- A field of the struct or object behind an object value. -/
def read (object : Value) (type : Descriptor) (offset : Nat) : Eff (sides Native Script) Value := do
  let handle ← Eff.ofExcept object.asObject
  match ← request h (.read handle type offset) with
  | .value v => return v
  | _ => Eff.stuck

/-- Writes a scalar field. -/
def write (object : Value) (type : Descriptor) (offset : Nat) (value : Value) :
    Eff (sides Native Script) Unit := do
  let handle ← Eff.ofExcept object.asObject
  let _ ← request h (.write handle type offset value)

/-- Zeroed memory as a boxed value of a named type. -/
def alloc (size : Nat) (name : String) (lib : Option String) : Eff (sides Native Script) Value := do
  match ← request h (.alloc size name lib) with
  | .value v => return v
  | _ => Eff.stuck

/-- The native address behind an object value. -/
def address (object : Value) : Eff (sides Native Script) Address := do
  let handle ← Eff.ofExcept object.asObject
  match ← request h (.address handle) with
  | .address a => return a
  | _ => Eff.stuck

/-- Runs script functions that the loop thread has queued, and counts them. -/
def poll : Eff (sides Native Script) Nat := do
  if ← isRunning then ScriptDispatch.processPending h else return 0

/-- Figures to watch a bridge by. -/
structure Stats where
  scheduled : Nat := 0
  discarded : Nat := 0
  syncCalls : Nat := 0
  asyncCalls : Nat := 0
  held : Holdings := {}
  pendingCalls : Nat := 0
  closures : Nat := 0
  deriving DecidableEq, Repr

/-- The figures at this moment, before the request that asks for what the loop thread holds. -/
def stats : Eff (sides Native Script) Stats := do
  let w ← get
  if !(← isRunning) then return { closures := w.liveClosures }
  match ← request h .holdings with
  | .holdings held =>
    return { scheduled := w.loop.scheduled, discarded := w.loop.discarded, syncCalls := w.loop.syncCalls
             asyncCalls := w.loop.asyncCalls, held, pendingCalls := w.script.pending.length
             closures := w.liveClosures }
  | _ => Eff.stuck

end

end NativeBridge.Bridge
