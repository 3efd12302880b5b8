import Mathlib.Data.List.Perm.Basic
import NativeBridge.Proofs.Exchange.Machine

/-!
Objects that the loop thread keeps for scripts. A script that lets go of a handle has the removal of the object sent to
the loop thread, which releases the object, and a teardown releases what is left. Handles go at any time and on any
thread, also between the two halves of a stop.
-/

namespace NativeBridge

variable {S : Sides}

/-! ### Parts of the operations -/

/-- The identity that a task removes. -/
def Task.removal? {Job : Type} : Task Job → Option ObjectId
  | .remove id => some id
  | _ => none

/-- Takes an identity out of the registry, with the lifecycle that its object is to be released by. -/
def LoopState.unregister (id : ObjectId) : Eff S (Option Wrapper × Lifecycle) :=
  LoopState.holding do
    let s ← LoopState.current
    let (taken, registry) := s.registry.take id
    LoopState.update fun s => { s with registry }
    return (taken, s.lifecycle)

/-- A handle goes. Gives its identity if the loop that it was made for may still be told. -/
def LoopDispatch.lose (key : HandleKey) : Eff S (Option ObjectId) :=
  Eff.update fun w =>
    match w.handles.lookup key with
    | none => (none, w)
    | some (id, generation) =>
      (if generation = w.generation ∧ w.loopAlive generation then some id else none,
       { w with handles := w.handles.filter (·.1 != key) })

namespace World

variable (w : World S)

/-- The registry, and the lifecycle that its objects are to be released by, where a state is installed. -/
def estate : Option (Registry × Lifecycle) := w.state.map fun s => (s.registry, s.lifecycle)

/-- What the registry holds. -/
def registered : List (ObjectId × Wrapper) := (w.estate.map fun e => e.1.entries).getD []

/-- The identities that scripts have handles of, among those of this run of the bridge. -/
def live : List ObjectId := (w.handles.filter fun e => e.2.2 = w.generation).map fun e => e.2.1

/-- The identities whose removal waits for the loop thread. -/
def queued : List ObjectId := w.loop.pending.filterMap Task.removal?

end World

namespace Custody

/-! ### Steps -/

/-- What the loop thread is at. -/
inductive Frame where
  /-- a task that removes nothing, and native code and waits within it -/
  | task
  /-- work that holds the state -/
  | holding
  /-- a removal that has begun -/
  | removing (id : ObjectId)
  /-- objects that are out of the registry and not released yet -/
  | releasing (objects : List (ObjectId × Wrapper))
  | tearing
  deriving DecidableEq

namespace Frame

def removing? : Frame → Option ObjectId
  | removing id => some id
  | _ => none

def objects : Frame → List (ObjectId × Wrapper)
  | releasing es => es
  | _ => []

/-- What the loop thread is at when it has taken a task. -/
def of {Job : Type} : Task Job → Frame
  | .remove id => removing id
  | _ => task

end Frame

/-- The world, what the loop thread is at, and what was done with objects so far. -/
structure State (S : Sides) where
  world : World S
  /-- the innermost first -/
  loop : List Frame
  /-- identities whose handle is gone, where the loop was found running and the removal is not queued yet -/
  leaving : List ObjectId
  /-- every object that was wrapped -/
  wrapped : List (ObjectId × Wrapper)
  /-- every object that was released, as often as it was -/
  released : List (ObjectId × Wrapper)

/-- What leaves alone the registry, the handles and the tasks that wait. -/
structure Aside (w w' : World S) : Prop where
  pending : w'.loop.pending = w.loop.pending
  stopped : w'.loop.stopped = w.loop.stopped
  owned : w.loop.stopped = false → w'.loopOwned = w.loopOwned
  generation : w'.generation = w.generation
  estate : w'.estate = w.estate
  inUse : w'.inUse = w.inUse
  thread : w'.thread = w.thread
  handles : w'.handles = w.handles
  minted : w'.minted = w.minted

/-- The functions for native lifetimes return, and leave the objects of the bridge alone. -/
def Silent (h : Host S) (l : Lifecycle) : Prop :=
  ∀ role a, l.bound role = some a → ∀ words (w : World S), ∃ r w',
    h.run a (fun _ _ => Eff.stuck) { ints := words } w = some (.ok r, w') ∧ Aside w w'

namespace State

/-- The loop thread may begin a task, or hold the state: nothing is under way that must not be interrupted. -/
def Free (s : State S) : Prop := ∀ f ∈ s.loop.head?, f = .task

/-- The identities that have neither a handle nor a removal that waits, since the removal is about to be queued or has
begun. -/
def amid (s : State S) : List ObjectId := s.leaving ++ s.loop.filterMap Frame.removing?

/-- The objects that are out of the registry and not released yet. -/
def removed (s : State S) : List (ObjectId × Wrapper) := s.loop.flatMap Frame.objects

end State

/-- Steps of the loop thread, and of any thread that sends tasks or lets go of handles. -/
inductive Step (h : Host S) (l : Lifecycle) : State S → State S → Prop where
  | aside {s : State S} {w : World S} (hw : Aside s.world w) : Step h l s { s with world := w }
  /-- another task is sent to a loop that was found running -/
  | send {s : State S} {w : World S} (t : Task S.Job) (ht : t.removal? = none)
      (hx : LoopDispatch.accept t s.world = some (.ok (), w)) : Step h l s { s with world := w }
  /-- a handle goes, and its loop runs -/
  | lose {s : State S} {w : World S} {key : HandleKey} {id : ObjectId}
      (hx : LoopDispatch.lose key s.world = some (.ok (some id), w)) (hopen : s.world.loop.stopped = false) :
      Step h l s { s with world := w, leaving := id :: s.leaving }
  /-- a handle goes, and there is nobody to tell -/
  | lapse {s : State S} {w : World S} {key : HandleKey} {r : Option ObjectId}
      (hx : LoopDispatch.lose key s.world = some (.ok r, w)) (hr : r = none ∨ s.world.loop.stopped) :
      Step h l s { s with world := w }
  | queue {s : State S} {w : World S} {id : ObjectId} (hid : id ∈ s.leaving)
      (hx : LoopDispatch.accept (.remove id) s.world = some (.ok (), w)) :
      Step h l s { s with world := w, leaving := s.leaving.erase id }
  /-- a drain starts the first task that waits, also within a task -/
  | serve {s : State S} {w : World S} {t : Task S.Job} (hs : s.Free)
      (hx : LoopDispatch.take s.world = some (.ok (some t), w)) :
      Step h l s { s with world := w, loop := .of t :: s.loop }
  | done {s : State S} {rest : List Frame} (hs : s.loop = .task :: rest) : Step h l s { s with loop := rest }
  | hold {s : State S} (hs : s.Free) (ht : s.world.thread = .loop) (hstate : s.world.state.isSome)
      (hu : s.world.inUse = false) :
      Step h l s { s with world := { s.world with inUse := true }, loop := .holding :: s.loop }
  | wrap {s : State S} {w : World S} {rest : List Frame} {o : Wrapper} {k : Handle} (hs : s.loop = .holding :: rest)
      (hx : LoopState.wrap o s.world = some (.ok k, w)) :
      Step h l s { s with world := w, wrapped := (k.id, o) :: s.wrapped }
  | letGo {s : State S} {rest : List Frame} (hs : s.loop = .holding :: rest) :
      Step h l s { s with world := { s.world with inUse := false }, loop := rest }
  | unregister {s : State S} {w : World S} {rest : List Frame} {id : ObjectId} {o : Wrapper} {lifecycle : Lifecycle}
      (hs : s.loop = .removing id :: rest)
      (hx : LoopState.unregister id s.world = some (.ok (some o, lifecycle), w)) :
      Step h l s { s with world := w, loop := .releasing [(id, o)] :: rest }
  /-- a removal finds nothing, or fails -/
  | miss {s : State S} {w : World S} {rest : List Frame} {id : ObjectId} {r : Except Error (Option Wrapper × Lifecycle)}
      (hs : s.loop = .removing id :: rest) (hx : LoopState.unregister id s.world = some (r, w))
      (hr : ∀ o lifecycle, r ≠ .ok (some o, lifecycle)) : Step h l s { s with world := w, loop := rest }
  | release {s : State S} {w : World S} {rest : List Frame} {e : ObjectId × Wrapper} {es : List (ObjectId × Wrapper)}
      (hs : s.loop = .releasing (e :: es) :: rest) (hx : e.2.drop h l s.world = some (.ok (), w)) :
      Step h l s { s with world := w, loop := .releasing es :: rest, released := e :: s.released }
  | released {s : State S} {rest : List Frame} (hs : s.loop = .releasing [] :: rest) :
      Step h l s { s with loop := rest }
  | close {s : State S} {w : World S} (hx : LoopDispatch.close s.world = some (.ok (), w)) :
      Step h l s { s with world := w }
  | sweep {s : State S} {w : World S} (hstop : s.world.loop.stopped)
      (hx : LoopDispatch.sweep s.world = some (.ok (), w)) : Step h l s { s with world := w }
  /-- a teardown empties the registry -/
  | clear {s : State S} {st : LoopState} (hs : s.loop = []) (hstop : s.world.loop.stopped)
      (hstate : s.world.state = some st) (hu : s.world.inUse = false) :
      Step h l s { s with
        world := { s.world with inUse := true, state := some { st with registry := st.registry.clear.2 } }
        loop := [.releasing st.registry.entries, .tearing] }
  | uninstall {s : State S} {rest : List Frame} (hs : s.loop = .tearing :: rest) :
      Step h l s { s with world := { s.world with inUse := false, state := none }, loop := rest }

abbrev Run (h : Host S) (l : Lifecycle) : State S → State S → Prop := Relation.ReflTransGen (Step h l)

namespace State

/-- A loop state was installed, and nothing was wrapped since. Handles may be left of earlier runs of the bridge. -/
structure Opening (l : Lifecycle) (s : State S) : Prop where
  loop : s.loop = []
  leaving : s.leaving = []
  wrapped : s.wrapped = []
  released : s.released = []
  estate : s.world.estate = some ({}, l)
  inUse : s.world.inUse = false
  thread : s.world.thread = .loop
  owned : s.world.loopOwned
  queued : s.world.queued = []
  live : s.world.live = []
  keys : (s.world.handles.map Prod.fst).Nodup
  minted : ∀ e ∈ s.world.handles, e.1 < s.world.minted

end State

end Custody

end NativeBridge
