import NativeBridge.LoopState
import NativeBridge.Native.Scalar

/-!
Values ready for a native call. A value may own memory, handles or code, which live until the value is released.
-/

namespace NativeBridge

/-- What keeps the target of an owned pointer alive. -/
inductive Storage where
  /-- memory blocks -/
  | blocks (bases : List Address)
  /-- a block of pointers, and the handles of the objects they point to -/
  | objects (block : Address) (handles : List Handle)
  /-- a slot that native code writes through, what its first content owned, and that content if it was a pointer -/
  | slot (block : Address) (held : List Address) (initial : Option Address)
  /-- code with a signature of its own -/
  | code (thunk : Address)
  deriving DecidableEq, Repr

inductive NativeValue where
  | void
  | scalar (s : Scalar)
  /-- a pointer that the value does not own -/
  | raw (p : Address)
  /-- a pointer into what the value owns -/
  | owned (p : Address) (storage : Storage)
  /-- a function pointer with its data, and a function that lets go of the data -/
  | trampoline (code data : Address) (destroy : Option Address) (dataFirst : Bool)
  deriving DecidableEq, Repr

namespace NativeValue

/-- The argument slots that a value occupies. -/
def slotCount : NativeValue → Nat
  | trampoline _ _ destroy _ => if destroy.isSome then 3 else 2
  | _ => 1

/-- The slots of a value, in the order in which they are passed. -/
def slots : NativeValue → List Slot
  | void => [.void]
  | scalar s => [.scalar s]
  | raw p | owned p _ => [.pointer p]
  | trampoline code data destroy dataFirst =>
    (if dataFirst then [.pointer data, .pointer code] else [.pointer code, .pointer data])
      ++ (destroy.map Slot.pointer).toList

/-- The pointer of a value that is one. -/
def pointer? : NativeValue → Option Address
  | raw p | owned p _ => some p
  | _ => none

variable {S : Sides}

/-- Lets go of what a value owns. -/
def release : NativeValue → Eff S Unit
  | owned _ (.blocks bases) => Eff.each Memory.release bases
  | owned _ (.objects block _) => Memory.release block
  | owned _ (.slot block held _) => do
    Eff.each Memory.release held
    Memory.release block
  | owned _ (.code thunk) => Thunk.disown thunk
  | trampoline _ data _ _ => if data = 0 then pure () else Closure.unref data
  | _ => pure ()

/-- Gives native code its reference to the closure of a trampoline. -/
def handOver : NativeValue → Eff S Unit
  | trampoline _ data _ _ => if data = 0 then pure () else Closure.ref data
  | _ => pure ()

end NativeValue

end NativeBridge
