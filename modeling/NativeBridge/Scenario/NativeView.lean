import NativeBridge.Native.Marshal
import NativeBridge.Scenario.Stage

/-!
How reports show native values: what a scalar is, where a pointer leads, and what lies behind an owned pointer.
-/

namespace NativeBridge.Scenario.NativeView

/-- The letter and size of an integer kind. -/
def kindName (k : IntKind) : String := (if k.signed then "i" else "u") ++ toString k.width.bits

/-- The bits of a float, in hexadecimal with the most significant digit first; there is one NaN. -/
def bits (isNaN : Bool) (bytes : Bytes) : Report :=
  .words (if isNaN then "nan" else "0x" ++ Bytes.toHex bytes.reverse)

def scalarFields : Scalar → List (String × Report)
  | .int k n => [("cif", .words (kindName k)), ("v", .words (toString n))]
  | .single x => [("cif", .words "f32"), ("bits", bits x.isNaN (Bytes.ofNatLE 4 x.bits.toNat))]
  | .double x => [("cif", .words "f64"), ("bits", bits x.isNaN (Bytes.ofNatLE 8 x.bits.toNat))]

section

variable {k : Setting}

/-- The length of the block at an address. -/
def blockSize (p : Address) : Play k Nat := return (((← get).heap.blockAt p).map (·.bytes.length)).getD 0

/-- What lies in an array. -/
def arrayItems (p : Address) (item : Descriptor) : Play k Report := do
  match item with
  | .string _ => return .list ((← Eff.collect Memory.loadString (← Sample.stringPointers p)).map Report.text)
  | .object _ | .boxed .. | .variant _ => do
    let count := (← blockSize p) / 8
    return .list (← Eff.collect Stage.pointerName (← Sample.loadWords p count))
  | _ => return .hex (← Memory.load p (← blockSize p))

/-- The bytes that a scalar type takes. -/
def scalarWidth : Descriptor → Nat
  | .int size _ => ((Width.ofBits? size).getD .w64).bytes
  | .float size => if size = 32 then 4 else 8
  | _ => 1

/-- What lies in the slot of a reference. -/
def slotContent (p : Address) (inner : Descriptor) : Play k Report := do
  if inner.isScalar then return .hex (← Memory.load p (scalarWidth inner))
  let q ← Memory.loadWord p
  match inner with
  | .string _ => if q = 0 then return .nothing else return .text (← Memory.loadString q)
  | _ => Stage.pointerName q

/-- What lies behind an owned pointer. -/
def content (p : Address) (type : Descriptor) : Play k Report :=
  match type with
  | .string _ => return .text (← Memory.loadString p)
  | .array item _ _ => arrayItems p item
  | .ref inner => slotContent p inner
  | _ => return .words "code"

/-- What becomes of a callback's data. -/
def destroyName : Option Address → String
  | none => "none"
  | some 0 => "null"
  | some _ => "set"

def fields (v : NativeValue) (type : Descriptor) : Play k (List (String × Report)) := do
  let shown ← match v with
    | .void => pure [("cif", Report.words "void")]
    | .scalar s => pure (scalarFields s)
    | .raw p => do pure [("cif", Report.words "raw"), ("ptr", ← Stage.pointerName p)]
    | .owned p _ => do pure [("cif", Report.words "owned"), ("data", ← content p type)]
    | .trampoline code data destroy dataFirst =>
      pure [("cif", Report.words "trampoline"), ("closure", .truth (data != 0)), ("code", .truth (code != 0)),
        ("destroy", .words (destroyName destroy)), ("dataFirst", .truth dataFirst)]
  return ("slots", .ofCount v.slotCount) :: shown

def report (v : NativeValue) (type : Descriptor) : Play k Report := return .record (← fields v type)

end

end NativeBridge.Scenario.NativeView
