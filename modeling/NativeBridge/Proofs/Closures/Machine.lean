import Mathlib.Logic.Relation
import NativeBridge.Callback.Trampoline
import NativeBridge.Proofs.Evolution.Host

/-!
Closures and who holds them: the native value that a closure was made for, native code that was handed a reference, and
for code that may be kept forever the state of the loop thread. What each of them does is a step, in any order that
native code may choose; native code runs a callback that runs once at most once, and lets go of what it was handed at
most once and after the last use.
-/

namespace NativeBridge

variable {S : Sides}

/-- The code that is kept. -/
def Retained.thunk? : Retained → Option Address
  | thunk a => some a
  | resource _ => none

/-- The code that the state of the loop thread keeps, in the order in which it was made. -/
def World.kept (w : World S) : List Address := (w.state.elim [] LoopState.retained).filterMap Retained.thunk?

/-- Code of this signature is kept until the next teardown. -/
def Signature.Lasts (s : Signature) : Prop := s.kind = .closure ∧ s.scope = .forever

instance (s : Signature) : Decidable s.Lasts := inferInstanceAs (Decidable (_ ∧ _))

/-- Closures and code are left alone. -/
structure Spares (w w' : World S) : Prop where
  given : w.heap.given ≤ w'.heap.given
  closures : w'.closures = w.closures
  thunks : w'.thunks = w.thunks
  kept : w'.kept = w.kept

namespace Spares

lemma rfl' (w : World S) : Spares w w := ⟨Nat.le_refl _, rfl, rfl, rfl⟩

lemma of_memory {w : World S} {native : S.Native} {heap : Heap} (hg : w.heap.given ≤ heap.given) :
    Spares w { w with native, heap } := ⟨hg, rfl, rfl, rfl⟩

lemma of_update {w : World S} {f : LoopState → LoopState} (hf : ∀ s, (f s).retained = s.retained) :
    Spares w { w with state := w.state.map f } := by
  refine ⟨Nat.le_refl _, rfl, rfl, ?_⟩
  rcases hs : w.state with _ | s
  · simp [World.kept, hs]
  · simp [World.kept, hs, hf]

lemma inUse (b : Bool) (w : World S) : Spares w { w with inUse := b } := ⟨Nat.le_refl _, rfl, rfl, rfl⟩

instance : Housekeeping (Spares (S := S)) where
  refl := rfl'
  trans _ _ _ h h' :=
    ⟨Nat.le_trans h.given h'.given, h'.closures.trans h.closures, h'.thunks.trans h.thunks, h'.kept.trans h.kept⟩
  memory _ _ h := of_memory h
  record _ _ := ⟨Nat.le_refl _, rfl, rfl, rfl⟩
  libraries _ _ := of_update fun _ => rfl

end Spares

namespace Closures

/-! ### States -/

/-- A native value of a callback that is alive. -/
structure Live where
  value : NativeValue
  /-- the closure that it was made for -/
  closure : Address
  /-- native code was given its reference to the closure -/
  handed : Bool

/-- The value goes with a data pointer. -/
def Live.isTrampoline (x : Live) : Bool :=
  match x.value with
  | .trampoline .. => true
  | _ => false

/-- The world, and who holds closures. -/
structure State (S : Sides) where
  world : World S
  values : List Live
  /-- closures that were handed over to native code, which has not let go of them -/
  handed : List Address
  /-- callbacks that run once and are running -/
  running : List Address
  /-- closures of code that is kept until the next teardown, in the order in which they were made -/
  lasting : List Address
  /-- how often what the loop thread keeps was torn down -/
  teardowns : Nat

namespace State

variable (s : State S)

/-- The closure of a value that is alive. -/
def Held (a : Address) : Prop := ∃ x ∈ s.values, x.closure = a

instance (a : Address) : Decidable (s.Held a) := inferInstanceAs (Decidable (∃ x ∈ s.values, x.closure = a))

/-- How many hold the closure. -/
def holders (a : Address) : Nat := (s.values.map Live.closure).count a + s.handed.count a + s.lasting.count a

/-- A value was made with a closure of its own. -/
def made (signature : Signature) (v : NativeValue) (w : World S) : State S where
  world := w
  values := ⟨v, s.world.heap.reserve.1, false⟩ :: s.values
  handed := s.handed
  running := s.running
  lasting := if signature.Lasts then s.lasting ++ [s.world.heap.reserve.1] else s.lasting
  teardowns := s.teardowns

end State

/-! ### Steps -/

inductive Step : State S → State S → Prop where
  /-- whatever has nothing to do with closures -/
  | other {s : State S} {w : World S} (hw : Spares s.world w) : Step s { s with world := w }
  | make {s : State S} {function : Option FunctionId} {signature : Signature} {v : NativeValue} {w : World S}
      (hstate : s.world.state.isSome) (hx : makeCallback function signature s.world = some (.ok v, w)) :
      Step s (s.made signature v w)
  /-- no value is made of the function, and no closure stays -/
  | refuse {s : State S} {function : Option FunctionId} {signature : Signature} {e : Error} {w : World S}
      (hx : makeCallback function signature s.world = some (.error e, w)) : Step s { s with world := w }
  | handOver {s : State S} {before after : List Live} {x : Live} {w : World S} (hv : s.values = before ++ x :: after)
      (hfirst : x.handed = false) (hx : x.value.handOver s.world = some (.ok (), w)) :
      Step s { s with
        world := w
        values := before ++ { x with handed := true } :: after
        handed := if x.isTrampoline then x.closure :: s.handed else s.handed }
  /-- a value goes, and lets go of what it owns -/
  | release {s : State S} {before after : List Live} {x : Live} {w : World S} (hv : s.values = before ++ x :: after)
      (hx : x.value.release s.world = some (.ok (), w)) :
      Step s { s with world := w, values := before ++ after }
  /-- native code calls a callback that runs once -/
  | fire {s : State S} {a : Address} (ha : a ∈ s.handed) (hr : a ∉ s.running) :
      Step s { s with running := a :: s.running }
  /-- a callback that runs once has run, whatever the script function did -/
  | finish {s : State S} {before after : List Address} {a : Address} {w : World S}
      (hr : s.running = before ++ a :: after) (hx : Closure.unref a s.world = some (.ok (), w)) :
      Step s { s with world := w, handed := s.handed.erase a, running := before ++ after }
  /-- native code lets go of a closure that it uses no more -/
  | unref {s : State S} {a : Address} {w : World S} (ha : a ∈ s.handed) (hr : a ∉ s.running)
      (hx : Trampoline.unref a s.world = some (.ok (), w)) :
      Step s { s with world := w, handed := s.handed.erase a }
  | teardown {s : State S} {h : Host S} {w : World S} (hn : ∀ a call words, NativeCode call (h.run a call words))
      (hthread : s.world.thread = .loop) (hstate : s.world.state.isSome)
      (hx : LoopState.teardown h s.world = some (.ok (), w)) :
      Step s { s with world := w, lasting := [], teardowns := s.teardowns + 1 }

abbrev Run : State S → State S → Prop := Relation.ReflTransGen Step

/-- Nothing was made yet. -/
structure State.Opening (s : State S) : Prop where
  closures : s.world.closures = []
  thunks : s.world.thunks = []
  kept : s.world.kept = []
  values : s.values = []
  handed : s.handed = []
  running : s.running = []
  lasting : s.lasting = []

end Closures

end NativeBridge
