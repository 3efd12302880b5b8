import NativeBridge.Memory.Heap
import NativeBridge.Native.Scalar

/-!
How arguments and results pass between the bridge and native code: in the registers of a call, by the types that are
declared for them.
-/

namespace NativeBridge

/-- What one slot of a call holds. -/
inductive NativeValue.Slot where
  | void
  | scalar (s : Scalar)
  | pointer (p : Address)
  deriving DecidableEq, Repr

/-- The words of a register file that a call passes or returns: integers and pointers, and floats. -/
structure Registers where
  ints : List Nat := []
  floats : List Nat := []

/-- What native code leaves in the two result registers. -/
structure Returned where
  int : Nat := 0
  float : Nat := 0

/-- What the bridge relies on to make calls, and code of its own for callbacks, whose types are known only when it
runs. -/
structure Convention where
  /-- the words that slots pass, by the types that are declared for them -/
  pass : List AbiType → List NativeValue.Slot → Registers
  /-- the return buffer of a call for the result registers -/
  receive : AbiType → Returned → Bytes
  /-- the words of a call dealt out to the argument types of a callback, each in the eight bytes it lies in -/
  deal : List Descriptor → Registers → List (Descriptor × Bytes)
  /-- the result registers for the return buffer of a callback -/
  give : Descriptor → Bytes → Returned

namespace Convention

/-- A void slot passes no word. -/
def words : List AbiType → List NativeValue.Slot → Registers
  | [], _ => {}
  | _, [] => {}
  | .void :: types, _ :: slots => words types slots
  | _ :: types, slot :: slots =>
    let rest := words types slots
    match slot with
    | .void => rest
    | .pointer p => { rest with ints := p :: rest.ints }
    | .scalar (.int k n) => { rest with ints := k.toRegister n :: rest.ints }
    | .scalar (.single x) => { rest with floats := x.bits.toNat :: rest.floats }
    | .scalar (.double x) => { rest with floats := x.bits.toNat :: rest.floats }

/-- Integers fill a register by their sign or with zeros. -/
def buffer (type : AbiType) (r : Returned) : Bytes :=
  match type with
  | .void => List.replicate 16 0
  | .int k => Bytes.resize 16 (Bytes.ofNatLE 8 (k.toRegister (k.ofWord r.int)))
  | .float => Bytes.resize 16 (Bytes.ofNatLE 4 r.float)
  | .double => Bytes.resize 16 (Bytes.ofNatLE 8 r.float)
  | .pointer => Bytes.resize 16 (Bytes.ofNatLE 8 r.int)

/-- Floats have registers of their own, and an undefined argument has none. -/
def memories : List Descriptor → Registers → List (Descriptor × Bytes)
  | [], _ => []
  | d :: rest, words =>
    match d with
    | .float _ =>
      (d, Bytes.ofNatLE 8 (words.floats.headD 0)) :: memories rest { words with floats := words.floats.tail }
    | .undefined => (d, Bytes.ofNatLE 8 0) :: memories rest words
    | _ => (d, Bytes.ofNatLE 8 (words.ints.headD 0)) :: memories rest { words with ints := words.ints.tail }

def registers (type : Descriptor) (buffer : Bytes) : Returned :=
  match type with
  | .float _ => { float := Bytes.toNatLE buffer }
  | _ => { int := Bytes.toNatLE buffer }

/-- Words of 64 bits, integers and floats apart, with the least significant byte first in memory. -/
def standard : Convention := ⟨words, buffer, memories, registers⟩

end Convention

end NativeBridge
