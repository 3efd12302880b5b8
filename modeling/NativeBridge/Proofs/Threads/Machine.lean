import NativeBridge.Proofs.Operations
import NativeBridge.Proofs.Threads.Calls

/-!
The scripting thread and the loop thread of a running bridge, step by step. Each thread has a stack of what it is at,
the innermost first, and each step runs one of the short effects that the operations of the bridge are made of. What
native and script code do besides is left open, as long as it leaves the queues alone.
-/

namespace NativeBridge.Threads

open Bridge (Request Reply)

/-- What the scripting thread is at. -/
inductive ScriptFrame where
  /-- a wait is entered, and its job is not sent -/
  | entered (j : Request)
  /-- waits for a reply, and looks for it next -/
  | waiting (id : PromiseId) (j : Request)
  /-- found no reply, and runs what is queued -/
  | draining (id : PromiseId) (j : Request)
  /-- has what was waited for, and has not left the wait -/
  | leaving (j : Request) (r : Except Error Reply)
  /-- runs what is queued, by itself or because a wake-up said so -/
  | polling (woken : Bool)
  /-- runs the script function of a call -/
  | calling (call : PendingCall)
  /-- waits in a stop for the loop thread to end -/
  | joining

/-- What the loop thread is at. -/
inductive LoopFrame where
  | batch
  | task (t : Task Request)
  /-- some other handler of the loop -/
  | handler
  /-- the way of a call is chosen, and it is not queued -/
  | routed (synchronous : Bool) (function : Option FunctionId) (args : List Value) (capture : Bool)
  /-- a call is queued, and its wake-up is not sent -/
  | queued (id : PromiseId)
  /-- waits for a result, and looks for it next -/
  | waiting (id : PromiseId) (synchronous : Bool)
  /-- found no result, and runs its own tasks -/
  | serving (id : PromiseId) (synchronous : Bool)
  | teardown

namespace ScriptFrame

/-- In a wait for the loop thread. -/
def waits : ScriptFrame → Bool
  | entered _ | waiting .. | draining .. | leaving .. => true
  | _ => false

/-- Runs what is queued. -/
def drains : ScriptFrame → Bool
  | draining .. | polling _ => true
  | _ => false

def call? : ScriptFrame → Option PromiseId
  | calling call => some call.promise
  | _ => none

def isWoken : ScriptFrame → Bool
  | polling woken => woken
  | _ => false

end ScriptFrame

/-- Script code runs, at top level or in a callback. -/
def Free (script : List ScriptFrame) : Prop := script = [] ∨ ∃ call rest, script = .calling call :: rest

namespace LoopFrame

/-- Native code runs in it, and may call back. -/
def native : LoopFrame → Bool
  | task (.request _ .stop) => false
  | task _ | handler | teardown => true
  | _ => false

/-- Runs the tasks that wait. -/
def serves : LoopFrame → Bool
  | batch | serving .. => true
  | _ => false

def wait? : LoopFrame → Option (PromiseId × Notice)
  | queued id => some (id, .due)
  | waiting id synchronous | serving id synchronous => some (id, if synchronous then .itself else .sent)
  | _ => none

end LoopFrame

variable {Native Script : Type}

/-- Both threads, and the world between them. -/
structure State (Native Script : Type) where
  world : World (Bridge.sides Native Script)
  script : List ScriptFrame
  loop : List LoopFrame
  /-- the loop thread has ended -/
  ended : Bool

/-- What changes nothing that the threads tell each other. -/
structure Beside (w w' : World (Bridge.sides Native Script)) : Prop where
  loop : w'.loop = w.loop
  replies : w'.replies = w.replies
  script : w'.script = w.script
  loopOwned : w'.loopOwned = w.loopOwned
  guard : w'.state.map LoopState.workGuard = w.state.map LoopState.workGuard

/-- A stop goes on to the join if its job was done or dropped. -/
def joins : Request → Except Error Reply → Bool
  | .stop, .ok _ | .stop, .error .loopGone => true
  | _, _ => false

namespace State

def calls (s : State Native Script) : Calls where
  queue := s.world.script
  calling := s.script.filterMap ScriptFrame.call?
  woken := s.script.countP ScriptFrame.isWoken
  waits := s.loop.filterMap LoopFrame.wait?

/-- The scripting thread is in a wait. -/
def Waits (s : State Native Script) : Prop := ∃ f ∈ s.script, f.waits

/-- The loop thread waits for the result of a call. -/
def Awaits (s : State Native Script) (id : PromiseId) : Prop :=
  ∃ synchronous rest, s.loop = .waiting id synchronous :: rest ∨ s.loop = .serving id synchronous :: rest

/-- A bridge that was started, before either thread has done anything. -/
structure Opening (s : State Native Script) : Prop where
  script : s.script = []
  loop : s.loop = []
  ended : s.ended = false
  pending : s.world.script.pending = []
  fresh : s.world.script.results.Fresh
  answered : ∀ id, ¬s.world.script.results.Pending id
  depth : s.world.loop.depth = 0
  /-- calls are run by the scripting thread, and not at once by the thread that queues them -/
  channel : s.world.script.channel ≠ .inline

end State

/-- Steps of the scripting thread. -/
inductive ScriptStep : State Native Script → State Native Script → Prop where
  | work {s : State Native Script} {w : World (Bridge.sides Native Script)} (hs : Free s.script)
      (hw : Beside s.world w) : ScriptStep s { s with world := w }
  /-- an object is let go of -/
  | drop {s : State Native Script} {w : World (Bridge.sides Native Script)} (hs : Free s.script) (id : ObjectId)
      (hx : LoopDispatch.schedule (.remove id) s.world = some (.ok (), w)) : ScriptStep s { s with world := w }
  | enter {s : State Native Script} {w : World (Bridge.sides Native Script)} (hs : Free s.script) (j : Request)
      (hr : s.world.loopOwned) (hx : LoopRequest.enter s.world = some (.ok (), w)) :
      ScriptStep s { s with world := w, script := .entered j :: s.script }
  | send {s : State Native Script} {w : World (Bridge.sides Native Script)} {j : Request} {rest : List ScriptFrame}
      {id : PromiseId} (hs : s.script = .entered j :: rest) (hx : LoopRequest.post j s.world = some (.ok id, w)) :
      ScriptStep s { s with world := w, script := .waiting id j :: rest }
  | miss {s : State Native Script} {w : World (Bridge.sides Native Script)} {j : Request} {rest : List ScriptFrame}
      {id : PromiseId} (hs : s.script = .waiting id j :: rest)
      (hx : LoopRequest.collect id s.world = some (.ok none, w)) :
      ScriptStep s { s with world := w, script := .draining id j :: rest }
  | reply {s : State Native Script} {w : World (Bridge.sides Native Script)} {j : Request} {rest : List ScriptFrame}
      {id : PromiseId} {r : Reply} (hs : s.script = .waiting id j :: rest)
      (hx : LoopRequest.collect id s.world = some (.ok (some r), w)) :
      ScriptStep s { s with world := w, script := .leaving j (.ok r) :: rest }
  | refusal {s : State Native Script} {w : World (Bridge.sides Native Script)} {j : Request} {rest : List ScriptFrame}
      {id : PromiseId} {e : Error} (hs : s.script = .waiting id j :: rest)
      (hx : LoopRequest.collect id s.world = some (.error e, w)) :
      ScriptStep s { s with world := w, script := .leaving j (.error e) :: rest }
  | leave {s : State Native Script} {w : World (Bridge.sides Native Script)} {j : Request}
      {r : Except Error Reply} {rest : List ScriptFrame} (hs : s.script = .leaving j r :: rest)
      (hx : LoopRequest.leave s.world = some (.ok (), w)) :
      ScriptStep s { s with world := w, script := if joins j r then .joining :: rest else rest }
  | poll {s : State Native Script} (hs : Free s.script) (hr : s.world.loopOwned) :
      ScriptStep s { s with script := .polling false :: s.script }
  | wake {s : State Native Script} {w : World (Bridge.sides Native Script)} {current : Bool} (hs : Free s.script)
      (hx : ScriptDispatch.deliver s.world = some (.ok (some current), w)) :
      ScriptStep s { s with world := w, script := if current then .polling true :: s.script else s.script }
  | take {s : State Native Script} {w : World (Bridge.sides Native Script)} {f : ScriptFrame}
      {rest : List ScriptFrame} {call : PendingCall} (hs : s.script = f :: rest) (hf : f.drains)
      (hx : ScriptDispatch.take s.world = some (.ok (some call), w)) :
      ScriptStep s { s with world := w, script := .calling call :: s.script }
  | drained {s : State Native Script} {w : World (Bridge.sides Native Script)} {id : PromiseId} {j : Request}
      {rest : List ScriptFrame} (hs : s.script = .draining id j :: rest)
      (hx : ScriptDispatch.take s.world = some (.ok none, w)) :
      ScriptStep s { s with world := w, script := .waiting id j :: rest }
  | polled {s : State Native Script} {w : World (Bridge.sides Native Script)} {woken : Bool}
      {rest : List ScriptFrame} (hs : s.script = .polling woken :: rest)
      (hx : ScriptDispatch.take s.world = some (.ok none, w)) : ScriptStep s { s with world := w, script := rest }
  | answer {s : State Native Script} {w : World (Bridge.sides Native Script)} {call : PendingCall}
      {rest : List ScriptFrame} (hs : s.script = .calling call :: rest) (r : Except Raised Value)
      (hx : ScriptDispatch.settle call r s.world = some (.ok (), w)) :
      ScriptStep s { s with world := w, script := rest }
  | join {s : State Native Script} {w : World (Bridge.sides Native Script)} {rest : List ScriptFrame}
      (hs : s.script = .joining :: rest) (he : s.ended)
      (hx : ScriptDispatch.clear s.world = some (.ok (), w)) :
      ScriptStep s { s with world := { w with loopOwned := false }, script := rest }

/-- Native code calls a callback, and the way of the call is chosen. -/
inductive Routes : State Native Script → Bool → State Native Script → Prop where
  | mk {s : State Native Script} {w : World (Bridge.sides Native Script)} {f : LoopFrame} {rest : List LoopFrame}
      {synchronous : Bool} (hs : s.loop = f :: rest) (hf : f.native) (function : Option FunctionId) (args : List Value)
      (capture : Bool) (hx : ScriptDispatch.chooseRoute s.world = some (.ok synchronous, w)) :
      Routes s synchronous { s with world := w, loop := .routed synchronous function args capture :: s.loop }

/-- The loop thread queues the call whose way was chosen. -/
inductive Queues : State Native Script → PromiseId → Bool → State Native Script → Prop where
  | mk {s : State Native Script} {w : World (Bridge.sides Native Script)} {synchronous capture : Bool}
      {function : Option FunctionId} {args : List Value} {rest : List LoopFrame} {id : PromiseId}
      (hs : s.loop = .routed synchronous function args capture :: rest)
      (hx : ScriptDispatch.queue function args capture s.world = some (.ok id, w)) :
      Queues s id synchronous
        { s with world := w, loop := (if synchronous then .waiting id true else .queued id) :: rest }

/-- Steps of the loop thread. -/
inductive LoopStep : State Native Script → State Native Script → Prop where
  | work {s : State Native Script} {w : World (Bridge.sides Native Script)} {f : LoopFrame} {rest : List LoopFrame}
      (hs : s.loop = f :: rest) (hf : f.native) (hw : Beside s.world w) : LoopStep s { s with world := w }
  | begin {s : State Native Script} {w : World (Bridge.sides Native Script)} (hs : s.loop = []) (he : s.ended = false)
      (hp : 0 < s.world.loop.posted) (hx : LoopDispatch.beginBatch s.world = some (.ok (), w)) :
      LoopStep s { s with world := w, loop := [.batch] }
  | handle {s : State Native Script} (hs : s.loop = []) (he : s.ended = false) :
      LoopStep s { s with loop := [.handler] }
  | handled {s : State Native Script} (hs : s.loop = [.handler]) : LoopStep s { s with loop := [] }
  | serve {s : State Native Script} {w : World (Bridge.sides Native Script)} {f : LoopFrame} {rest : List LoopFrame}
      {t : Task Request} (hs : s.loop = f :: rest) (hf : f.serves)
      (hx : LoopDispatch.take s.world = some (.ok (some t), w)) :
      LoopStep s { s with world := w, loop := .task t :: s.loop }
  | batched {s : State Native Script} {w w' : World (Bridge.sides Native Script)} (hs : s.loop = [.batch])
      (ht : LoopDispatch.take s.world = some (.ok none, w)) (hx : LoopDispatch.endBatch w = some (.ok (), w')) :
      LoopStep s { s with world := w', loop := [] }
  | served {s : State Native Script} {w : World (Bridge.sides Native Script)} {id : PromiseId} {synchronous : Bool}
      {rest : List LoopFrame} (hs : s.loop = .serving id synchronous :: rest)
      (hx : LoopDispatch.take s.world = some (.ok none, w)) :
      LoopStep s { s with world := w, loop := .waiting id synchronous :: rest }
  | done {s : State Native Script} {t : Task Request} {rest : List LoopFrame} (hs : s.loop = .task t :: rest)
      (ht : ∀ promise j, t ≠ .request promise j) : LoopStep s { s with loop := rest }
  | finish {s : State Native Script} {w : World (Bridge.sides Native Script)} {promise : PromiseId} {j : Request}
      {rest : List LoopFrame} (hs : s.loop = .task (.request promise j) :: rest) (hj : j ≠ .stop)
      (r : Except Error Reply) (hx : LoopDispatch.settle promise r s.world = some (.ok (), w)) :
      LoopStep s { s with world := w, loop := rest }
  | stop {s : State Native Script} {w w' : World (Bridge.sides Native Script)} {promise : PromiseId}
      {rest : List LoopFrame} {r : Except Error Reply} (hs : s.loop = .task (.request promise .stop) :: rest)
      (ha : Eff.attempt Bridge.endLoop s.world = some (.ok r, w))
      (hx : LoopDispatch.settle promise r w = some (.ok (), w')) : LoopStep s { s with world := w', loop := rest }
  | fire {s s' : State Native Script} {synchronous : Bool} (h : Routes s synchronous s') : LoopStep s s'
  | queue {s s' : State Native Script} {id : PromiseId} {synchronous : Bool} (h : Queues s id synchronous s') :
      LoopStep s s'
  | announce {s : State Native Script} {w : World (Bridge.sides Native Script)} {id : PromiseId}
      {rest : List LoopFrame} (hs : s.loop = .queued id :: rest)
      (hx : ScriptDispatch.announce s.world = some (.ok (), w)) :
      LoopStep s { s with world := w, loop := .waiting id false :: rest }
  | miss {s : State Native Script} {w : World (Bridge.sides Native Script)} {id : PromiseId} {synchronous : Bool}
      {rest : List LoopFrame} (hs : s.loop = .waiting id synchronous :: rest)
      (hx : ScriptDispatch.collect id s.world = some (.ok none, w)) :
      LoopStep s { s with world := w, loop := .serving id synchronous :: rest }
  | result {s : State Native Script} {w : World (Bridge.sides Native Script)} {id : PromiseId} {synchronous : Bool}
      {rest : List LoopFrame} {r : Except Error (Option ScriptResult)} (hs : s.loop = .waiting id synchronous :: rest)
      (hr : r ≠ .ok none) (hx : ScriptDispatch.collect id s.world = some (r, w)) :
      LoopStep s { s with world := w, loop := rest }
  | leave {s : State Native Script} (hs : s.loop = []) (he : s.ended = false) (hstop : s.world.loop.stopped)
      (hp : s.world.loop.posted = 0) (hg : s.world.state.map LoopState.workGuard ≠ some true) :
      LoopStep s { s with loop := [.teardown] }
  | ended {s : State Native Script} (hs : s.loop = [.teardown]) :
      LoopStep s { s with world := { s.world with state := none }, loop := [], ended := true }

/-- A step of either thread. -/
def Step (s s' : State Native Script) : Prop := ScriptStep s s' ∨ LoopStep s s'

abbrev Run : State Native Script → State Native Script → Prop := Relation.ReflTransGen Step

end NativeBridge.Threads
