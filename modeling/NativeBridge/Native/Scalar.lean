import NativeBridge.Descriptor.Basic
import NativeBridge.Value.Basic

/-!
Numbers and truth values as native code holds them: their conversion from script values, and the bytes they have in
memory, least significant first.
-/

namespace NativeBridge

inductive Scalar where
  | int (kind : IntKind) (n : Int)
  | single (x : Single)
  | double (x : Double)
  deriving DecidableEq, Repr

namespace Scalar

/-- A byte that holds a truth value. -/
def truth (b : Bool) : Scalar := .int ⟨.w8, false⟩ (if b then 1 else 0)

/-- The bytes of a scalar in memory. -/
def bytes : Scalar → Bytes
  | int k n => Bytes.ofNatLE k.width.bytes (k.toWord n)
  | single x => Bytes.ofNatLE 4 x.bits.toNat
  | double x => Bytes.ofNatLE 8 x.bits.toNat

/-- The number that a scalar is. -/
def number : Scalar → Double
  | int _ n => .ofInt n
  | single x => x.widen
  | double x => x

/-- A number as an integer type holds it: cut off, then wrapped. -/
def ofInteger (size : Nat) (signed : Bool) (x : Double) : Except Error Scalar :=
  match Width.ofBits? size with
  | some w => .ok (.int ⟨w, signed⟩ (x.toInt ⟨w, signed⟩))
  | none => .error (.nativeIntSize size)

/-- A number as a float type holds it. -/
def ofFloat (size : Nat) (x : Double) : Scalar := if size = 32 then .single x.narrow else .double x

/-- The integer type of a size; a size that is none reads as 64 bits. -/
def readKind (size : Nat) (signed : Bool) : IntKind := ⟨(Width.ofBits? size).getD .w64, signed⟩

/-- The scalar of a type in the first bytes of memory; nothing for a type that is not scalar. -/
def read? (type : Descriptor) (memory : Bytes) : Option Scalar :=
  match type with
  | .int size signed =>
    let k := readKind size signed
    some (.int k (k.ofWord (Bytes.toNatLE (memory.take k.width.bytes))))
  | .float size =>
    if size = 32 then some (.single ⟨UInt32.ofNat (Bytes.toNatLE (memory.take 4))⟩)
    else some (.double ⟨UInt64.ofNat (Bytes.toNatLE (memory.take 8))⟩)
  | .boolean => some (.int ⟨.w8, false⟩ (Bytes.toNatLE (memory.take 1)))
  | _ => none

/-- The scalar of a type in a return buffer, where an integer narrower than a register was widened to one. -/
def returned? (type : Descriptor) (buffer : Bytes) : Option Scalar :=
  let widened := Bytes.toNatLE (buffer.take 8)
  match type with
  | .int size signed =>
    let k := readKind size signed
    some (.int k (k.ofWord widened))
  | .float size =>
    if size = 32 then some (.single ⟨UInt32.ofNat (Bytes.toNatLE (buffer.take 4))⟩)
    else some (.double ⟨UInt64.ofNat (Bytes.toNatLE (buffer.take 8))⟩)
  | .boolean =>
    let k : IntKind := ⟨.w8, false⟩
    some (.int k (k.ofWord widened))
  | _ => none

/-- The script value of a scalar of a type: a truth value for a boolean, otherwise a number. -/
def toValue (type : Descriptor) (s : Scalar) : Value :=
  match type with
  | .boolean => .boolean (!s.number.eqv (.ofInt 0))
  | _ => .number s.number

end Scalar

/-- The value of a scalar type in the first bytes of memory. -/
def readScalar (memory : Bytes) (type : Descriptor) : Except Error Value :=
  match Scalar.read? type memory with
  | some s => .ok (s.toValue type)
  | none => .error (.notScalar type.describe)

/-- The bytes that a field of a scalar type gets. -/
def fieldBytes (type : Descriptor) (v : Value) : Except Error Bytes :=
  match type with
  | .boolean => do return (Scalar.truth (← v.asBoolean)).bytes
  | .int size signed => do return (← Scalar.ofInteger size signed (← v.asNumber)).bytes
  | .float size => do return (Scalar.ofFloat size (← v.asNumber)).bytes
  | other => .error (.fieldWrite other.describe)

end NativeBridge
