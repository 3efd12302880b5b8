import NativeBridge.Descriptor.Basic
import NativeBridge.Memory.Heap
import NativeBridge.Value.Basic

/-!
What stands behind a function pointer or a data pointer that native code was given for a script function.
-/

namespace NativeBridge

/-- What a callback descriptor says. -/
structure Signature where
  kind : CallbackKind
  scope : CallbackScope
  args : Option (List Descriptor)
  result : Option Descriptor
  source : Option Descriptor
  outcome : Option Descriptor

/-- A counted reference to a script function. One without a generation knows no dispatcher. -/
structure Closure where
  function : Option FunctionId
  signature : Signature
  refs : Nat
  generation : Option Nat

/-- Code with a signature of its own that calls a closure. It is owned by the value it was made for and, with
scope `forever`, by the loop state; with the last owner it lets go of the closure. -/
structure Thunk where
  target : Address
  args : List Descriptor
  result : Descriptor
  owners : Nat

/-- The entry points that the bridge itself has for native code. -/
inductive Entry where
  | asyncReady | destroy | drawFunc | tickFunc | sourceFunc | compareFunc | unref
  deriving DecidableEq, Repr

namespace Entry

def all : List Entry := [asyncReady, destroy, drawFunc, tickFunc, sourceFunc, compareFunc, unref]

/-- The entry points lie at the bottom of the address space, below every block. -/
def address (e : Entry) : Address := 4096 + 16 * all.idxOf e

def ofAddress? (a : Address) : Option Entry := all.find? fun e => e.address == a

/-- The entry point of a kind; bare function pointers have none. -/
def ofKind? : CallbackKind → Option Entry
  | .closure => none
  | .asyncReady => some asyncReady
  | .destroy => some destroy
  | .drawFunc => some drawFunc
  | .tickFunc => some tickFunc
  | .sourceFunc => some sourceFunc
  | .compareFunc => some compareFunc

end Entry

end NativeBridge
