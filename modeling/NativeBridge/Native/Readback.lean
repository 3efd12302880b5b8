import NativeBridge.Native.Value

/-!
From native code to script values. A transferred pointer is adopted, or freed after it has been copied; a borrowed
one is copied or referenced.
-/

namespace NativeBridge

variable {S : Sides} (h : Host S)

/-- The pointer of a registered object that a handle stands for. -/
def resolveObject (handle : Option Handle) : Eff S Address := do
  match handle with
  | none => throw .emptyHandle
  | some k =>
    match (← LoopState.current).registry.resolve k.id with
    | some p => return p
    | none => throw (.released k.id)

/-- The identifier of a boxed type: from the type registry, or else from its registration function in the library
that owns it. Zero if there is neither. -/
def boxedTypeId (inner : String) (lib : Option String) : Eff S TypeId := do
  let l ← LoopState.currentLifecycle
  let name := Bytes.ofString inner
  let id ← l.typeFromName h name
  if id ≠ 0 then return id
  match lib with
  | none => return 0
  | some lib =>
    match ← Eff.attempt (LoopState.library h (.ofString lib)) with
    | .error _ => return 0
    | .ok o =>
      match h.symbol o.library (Bytes.untilNul (Library.typeFunction name)) with
      | .error _ => return 0
      | .ok a => return (← h.run a (fun _ _ => Eff.stuck) {}).int

/-- A copy of a string; null for a null pointer. -/
def copyString (p : Address) : Eff S Value := do
  if p = 0 then return .null
  return .string (← Memory.loadString p)

/-- The handle of an object of an object-like type; null for a null pointer. -/
def wrapObject (p : Address) (type : Descriptor) (transfer : Bool) : Eff S Value := do
  if p = 0 then return .null
  let l ← LoopState.currentLifecycle
  let o ← match type with
    | .object _ => if transfer then Wrapper.objectFull h l p else Wrapper.objectNone h l p
    | .boxed _ inner lib => do
      let id ← boxedTypeId h inner lib
      if transfer then pure (Wrapper.boxedFull p id) else Wrapper.boxedNone h l p id
    | _ => if transfer then pure (Wrapper.variantFull p) else Wrapper.variantNone h l p
  return .object (some (← LoopState.wrap o))

/-- An item of a list or an array of pointers, which its container keeps. -/
def itemFromPointer (data : Nat) (type : Descriptor) : Eff S Value :=
  match type with
  | .string _ => copyString data
  | .object _ | .boxed .. | .variant _ => wrapObject h data type false
  | .int .. => return .ofInt (IntKind.int64.ofWord data)
  | other => throw (.listItem other.describe)

/-- The items of a linked list, which is freed if it was transferred. -/
def listFromPointer (p : Address) (item : Descriptor) (kind : ListKind) (transfer : Bool) : Eff S Value := do
  let l ← LoopState.currentLifecycle
  let heap := (← get).heap
  let items ← Eff.collect (fun d => itemFromPointer h d item) (heap.listData heap.bound p)
  if transfer then
    match kind with
    | .list => l.listFree h p
    | _ => l.slistFree h p
  return .array items

/-- The items of an array of pointers that ends in NULL, which is freed if it was transferred. -/
def pointersFromPointer (p : Address) (item : Descriptor) (transfer : Bool) : Eff S Value := do
  let l ← LoopState.currentLifecycle
  let heap := (← get).heap
  let items ← Eff.collect (fun d => itemFromPointer h d item) (heap.wordsUntilZero heap.bound p)
  if transfer then
    match item with
    | .string _ => l.strfreev h p
    | _ => l.free h p
  return .array items

/-- The items behind a pointer; none behind a null pointer. Without a length, only an array that ends in NULL can be
walked. -/
def arrayFromPointer (p : Address) (item : Descriptor) (kind : ListKind) (transfer : Bool) : Eff S Value :=
  if p = 0 then return .array []
  else if kind ≠ .array then listFromPointer h p item kind transfer
  else
    match item with
    | .string _ | .object _ | .boxed .. | .variant _ => pointersFromPointer h p item transfer
    | other => throw (.arrayWithoutLength other.describe)

/-- The script value of a native pointer. -/
def fromPointer (p : Address) (type : Descriptor) (transfer : Bool) : Eff S Value :=
  match type with
  | .null => return .null
  | .undefined => return .undefined
  | .string _ => do
    let s ← copyString p
    if transfer ∧ p ≠ 0 then
      (← LoopState.currentLifecycle).free h p
    return s
  | .object _ | .boxed .. | .variant _ => wrapObject h p type transfer
  | .array item kind _ => arrayFromPointer h p item kind transfer
  | other => throw (.pointerConversion other.describe)

/-- What native code left in the slot of a reference. A string that is still the one the bridge put there stays the
bridge's. -/
def readRef (p : Address) (storage : Storage) (inner : Descriptor) : Eff S Value :=
  match inner with
  | .object _ | .boxed .. | .variant _ => do
    wrapObject h (← Memory.loadWord p) inner inner.isTransferred
  | .string _ => do
    let written ← Memory.loadWord p
    match storage with
    | .slot _ _ (some initial) =>
      if initial = written then copyString written else fromPointer h written inner inner.isTransferred
    | _ => fromPointer h written inner inner.isTransferred
  | other => do Eff.ofExcept (readScalar (← Memory.load p 8) other)

/-- The script value of a native value. -/
def fromNative (v : NativeValue) (type : Descriptor) : Eff S Value :=
  match type with
  | .null => return .null
  | .undefined => return .undefined
  | .int .. | .float _ | .boolean =>
    match v with
    | .scalar s => return s.toValue type
    | _ => throw .numericExpected
  | .ref inner =>
    match v with
    | .owned p storage => readRef h p storage inner
    | _ => return .null
  | other =>
    match v.pointer? with
    | some p => fromPointer h p other other.isTransferred
    | none => throw (.pointerExpected other.describe)

/-- The native value that a call left in the return buffer. -/
def readReturn (type : Descriptor) (buffer : Bytes) : Except Error NativeValue :=
  match type with
  | .undefined => .ok .void
  | .callback .. | .ref _ => .error (.returnType type.describe)
  | other =>
    match Scalar.returned? other buffer with
    | some s => .ok (.scalar s)
    | none => .ok (.raw (Bytes.toNatLE (buffer.take 8)))

/-- The field of a struct, which keeps its pointers. -/
def readField (base : Address) (offset : Nat) (type : Descriptor) : Eff S Value :=
  if base = 0 then throw .nullRead
  else
    match type with
    | .string _ => do copyString (← Memory.loadWord (base + offset))
    | .object _ | .boxed .. | .variant _ => do wrapObject h (← Memory.loadWord (base + offset)) type false
    | .int .. | .float _ | .boolean => do Eff.ofExcept (readScalar (← Memory.load (base + offset) 8) type)
    | other => throw (.fieldRead other.describe)

/-- Writes a scalar field of a struct. -/
def writeField (base : Address) (offset : Nat) (type : Descriptor) (v : Value) : Eff S Unit :=
  if base = 0 then throw .nullWrite
  else do Memory.store (base + offset) (← Eff.ofExcept (fieldBytes type v))

/-- The value of an argument that lies at an address; its pointer stays native code's. -/
def argumentFromMemory (memory : Bytes) (type : Descriptor) : Eff S Value :=
  if type.isScalar then Eff.ofExcept (readScalar memory type)
  else fromPointer h (Bytes.toNatLE (memory.take 8)) type false

end NativeBridge
