import NativeBridge.Memory.Heap

/-!
Wrappers of native objects. A wrapper holds at most one duty: a reference, a copy, or memory to give back. Moving from a
wrapper leaves it with none.
-/

namespace NativeBridge

/-- The runtime identifier of a boxed type; zero is unknown. -/
abbrev TypeId := Nat

/-- What becomes of a boxed value when its wrapper goes. -/
inductive Release where
  | none | boxedFree | memFree
  deriving DecidableEq, Repr

namespace Release

def name : Release → String
  | none => "None"
  | boxedFree => "BoxedFree"
  | memFree => "MemFree"

end Release

inductive Wrapper where
  /-- one reference to a counted object -/
  | object (ptr : Address)
  /-- a struct with a rule for its release -/
  | boxed (ptr : Address) (type : TypeId) (release : Release)
  /-- one reference to a counted variant -/
  | variant (ptr : Address)
  deriving DecidableEq, Repr

namespace Wrapper

def pointer : Wrapper → Address
  | object p | boxed p _ _ | variant p => p

/-- What is left of a wrapper that has been moved from. -/
def emptied : Wrapper → Wrapper
  | object _ => object 0
  | boxed _ type _ => boxed 0 type .none
  | variant _ => variant 0

end Wrapper

end NativeBridge
