import NativeBridge.Dispatch.LoopDispatch

/-!
Calls of script functions from the loop thread. A call is queued, the scripting thread runs what is queued when it
waits for the loop or when a wake-up reaches it, and the loop thread runs its own tasks until the result is there.
-/

namespace NativeBridge.ScriptDispatch

variable {S : Sides} (h : Host S)

/-- Queues a call and promises its result. -/
def queue (function : Option FunctionId) (args : List Value) (capture : Bool) : Eff S PromiseId :=
  Eff.update fun w =>
    let (id, script) := w.script.push function args capture
    (id, { w with script })

/-- What a call gives: its value if that is wanted, or what its error says of itself. -/
def resultOf (capture : Bool) : Except Raised Value → ScriptResult
  | .ok v => .ok (if capture then v else .undefined)
  | .error e => .error e.what

/-- Takes the first queued call. -/
def take : Eff S (Option PendingCall) :=
  Eff.update fun w =>
    match w.script.pop with
    | none => (none, w)
    | some (c, script) => (some c, { w with script })

/-- What a script function ended with, and if that was an error, where it was raised. -/
def ending (w : World S) (r : Except Error Value) : Except Raised Value := r.mapError fun e => ⟨e, h.site w e⟩

/-- Runs a script function and gives its error as a value. -/
def attempt (function : Option FunctionId) (args : List Value) : Eff S (Except Raised Value) := do
  let r ← Eff.attempt (h.script function args)
  return ending h (← get) r

/-- Settles the result of a call that has been run. -/
def settle (c : PendingCall) (r : Except Raised Value) : Eff S Unit :=
  modify fun w =>
    { w with script := { w.script with results := w.script.results.keep c.promise (resultOf c.capture r) } }

/-- Runs queued calls until none is left, and counts them. -/
def process : Nat → Eff S Nat
  | 0 => Eff.stuck
  | fuel + 1 => do
    match ← take with
    | none => return 0
    | some c =>
      settle c (← attempt h c.function c.args)
      return (← process fuel) + 1

def processPending : Eff S Nat := process h h.limit

/-- Sends a wake-up to the script's event loop, where there is one. -/
def announce : Eff S Unit :=
  modify fun w =>
    if w.script.channel = .eventLoop then { w with script := w.script.sendWakeup } else w

/-- Queues a call and tells the scripting thread of it through its channel. -/
def queueWithWakeup (function : Option FunctionId) (args : List Value) (capture : Bool) : Eff S PromiseId := do
  let id ← queue function args capture
  announce
  if (← get).script.channel = .inline then
    let _ ← processPending h
  return id

/-- Takes the first wake-up out of the script's event loop; says whether it was sent for this queue. -/
def deliver : Eff S (Option Bool) :=
  Eff.update fun w =>
    match w.script.mailbox with
    | [] => (none, w)
    | generation :: mailbox =>
      (some (w.script.generation == generation), { w with script := { w.script with mailbox } })

/-- Runs the wake-ups of the script's event loop until none is left, and counts them. One that was sent for an
earlier queue does nothing. -/
def runMailbox : Nat → Eff S Nat
  | 0 => Eff.stuck
  | fuel + 1 => do
    match ← deliver with
    | none => return 0
    | some current =>
      if current then
        let _ ← processPending h
      return (← runMailbox fuel) + 1

/-- Nobody has settled the result of a call yet. -/
def isPending (id : PromiseId) : Eff S Bool :=
  return match (← get).script.results.get? id with
    | some .pending => true
    | _ => false

/-- Collects the result of a call, if it is settled. -/
def collect (id : PromiseId) : Eff S (Option ScriptResult) := do
  let outcome := (← get).script.results.get? id
  if ← isPending id then return none
  modify fun w => { w with script := { w.script with results := w.script.results.forget id } }
  match outcome with
  | some (.kept r) => return some r
  | _ => throw .scriptGone

/-- Waits for a result; the loop thread runs its tasks meanwhile. -/
def await (id : PromiseId) : Nat → Eff S ScriptResult
  | 0 => Eff.stuck
  | fuel + 1 => do
    match ← collect id with
    | some r => return r
    | none =>
      let _ ← LoopDispatch.dispatchPending h
      if ← isPending id then h.scriptTurn
      await id fuel

/-- The way a call takes to the scripting thread: a thread that waits for the loop looks for calls by itself. -/
def chooseRoute : Eff S Bool :=
  Eff.update fun w => (w.loop.isWaiting, { w with loop := w.loop.recordRoute w.loop.isWaiting })

/-- The round trip of a call from native code. While the scripting thread waits for the loop it runs the queue
itself, otherwise it is woken up. -/
def invokeAndWait (function : Option FunctionId) (args : List Value) (capture : Bool) : Eff S ScriptResult := do
  let synchronous ← chooseRoute
  let id ← if synchronous then queue function args capture else queueWithWakeup h function args capture
  await h id h.limit

/-- Drops queued calls. -/
def clear : Eff S Unit := modify fun w => { w with script := w.script.clear }

end NativeBridge.ScriptDispatch

namespace NativeBridge.LoopRequest

variable {S : Sides} (h : Host S)

def enter : Eff S Unit := modify fun w => { w with loop := w.loop.enterWait }

def leave : Eff S Unit := modify fun w => { w with loop := w.loop.exitWait }

/-- Sends a job with a promise of its reply. -/
def post (j : S.Job) : Eff S PromiseId := do
  let id ← Eff.update fun w =>
    let (id, replies) := w.replies.make
    (id, { w with replies })
  LoopDispatch.schedule (.request id j)
  return id

/-- The loop thread has not settled a reply yet. -/
def isPending (id : PromiseId) : Eff S Bool :=
  return match (← get).replies.get? id with
    | some .pending => true
    | _ => false

/-- Collects a reply, if it is settled. -/
def collect (id : PromiseId) : Eff S (Option S.Reply) := do
  let outcome := (← get).replies.get? id
  if ← isPending id then return none
  modify fun w => { w with replies := w.replies.forget id }
  match outcome with
  | some (.kept r) => some <$> Eff.ofExcept r
  | _ => throw .loopGone

/-- Waits for a reply; the scripting thread runs queued calls meanwhile. -/
def await (id : PromiseId) : Nat → Eff S S.Reply
  | 0 => Eff.stuck
  | fuel + 1 => do
    match ← collect id with
    | some r => return r
    | none =>
      let _ ← ScriptDispatch.processPending h
      if ← isPending id then h.loopTurn
      await id fuel

/-- Runs a job on the loop thread and waits for its reply. The wait is entered before the job is sent, so that
callbacks of the job find the scripting thread waiting. -/
def send (j : S.Job) : Eff S S.Reply := do
  enter
  let id ← post j
  Eff.andFinally (await h id h.limit) leave

end NativeBridge.LoopRequest
