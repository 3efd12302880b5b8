import NativeBridge.Native.Readback

/-!
From script values to native values. Numbers out of range are cut to the target, never refused; a value of the
wrong kind is.
-/

namespace NativeBridge

variable {S : Sides} (h : Host S)

/-- A typed argument of a native call. With `optional`, null and undefined pass for an integer and for a callback. -/
structure Arg where
  type : Descriptor
  value : Value
  optional : Bool := false

/-- A string, with its NUL; null and undefined pass as a null pointer. -/
def stringToNative (v : Value) : Eff S NativeValue := do
  if v.isNullish then return .raw 0
  let s ← Eff.ofExcept v.asString
  if s.contains 0 then throw .embeddedNul
  let p ← Memory.allocString s
  return .owned p (.blocks [p])

/-- Native code's reference to an object, or its copy of a struct of known type, unless it borrows. -/
def grant (p : Address) (type : Descriptor) : Eff S Address := do
  let l ← LoopState.currentLifecycle
  match type with
  | .object borrowed =>
    if !borrowed then
      let _ ← l.objectRef h p
    return p
  | .boxed borrowed inner lib =>
    if borrowed then return p
    let id ← boxedTypeId h inner lib
    if id ≠ 0 then l.boxedCopy h id p else return p
  | .variant borrowed =>
    if !borrowed then
      let _ ← l.variantRef h p
    return p
  | _ => return p

def objectToNative (type : Descriptor) (v : Value) : Eff S NativeValue := do
  let p ← match v with
    | .object handle => resolveObject handle
    | .null | .undefined => pure 0
    | other => throw (.objectExpected type.describe other.kind)
  if p = 0 then return .raw 0
  return .raw (← grant h p type)

/-- A block of items that lie one after the other; no items have no block. -/
def packItems (items : List Bytes) : Eff S NativeValue := do
  if items.isEmpty then return .owned 0 (.blocks [])
  let p ← Memory.alloc items.flatten
  return .owned p (.blocks [p])

/-- The scalars of the items of an array. -/
def scalarItems (type : Descriptor) (items : List Value) : Except Error (List Scalar) :=
  match type with
  | .int size signed => do
    if (Width.ofBits? size).isNone then throw (.nativeIntSize size)
    items.mapM fun v => do Scalar.ofInteger size signed (← v.asNumber)
  | .float size => items.mapM fun v => do return Scalar.ofFloat size (← v.asNumber)
  | _ => items.mapM fun v => do return Scalar.truth (← v.asBoolean)

/-- An array of strings that ends in NULL. -/
def packStrings (items : List Value) : Eff S NativeValue := do
  let strings ← Eff.ofExcept (items.mapM Value.asString)
  let pointers ← Eff.collect Memory.allocString strings
  let p ← Memory.alloc ((pointers ++ [0]).flatMap (Bytes.ofNatLE 8))
  return .owned p (.blocks (pointers ++ [p]))

/-- An array of object pointers, which keeps the handles. -/
def packObjects (items : List Value) : Eff S NativeValue := do
  let found ← Eff.collect (fun v => do
    let handle ← Eff.ofExcept v.asObject
    let p ← resolveObject handle
    return (p, handle)) items
  if found.isEmpty then return .owned 0 (.objects 0 [])
  let p ← Memory.alloc ((found.map Prod.fst).flatMap (Bytes.ofNatLE 8))
  return .owned p (.objects p (found.filterMap Prod.snd))

def arrayToNative (item : Descriptor) (kind : ListKind) (v : Value) : Eff S NativeValue := do
  if kind ≠ .array then throw .listArgument
  let items ← Eff.ofExcept v.asArray
  match item with
  | .int .. | .float _ | .boolean => do
    let scalars ← Eff.ofExcept (scalarItems item items)
    packItems (scalars.map Scalar.bytes)
  | .string _ => packStrings items
  | .object _ | .boxed .. | .variant _ => packObjects items
  | other => throw (.arrayItem other.describe)

/-- The slot of a reference has room for any scalar and any pointer. -/
def slotSize : Nat := 16

/-- A slot with some first content, which may own memory and may be a pointer. -/
def makeSlot (content : Bytes) (held : List Address) (initial : Option Address) : Eff S NativeValue := do
  let p ← Memory.alloc (Bytes.resize slotSize content)
  return .owned p (.slot p held initial)

/-- The slot for the inner value of a reference, which passes as an optional argument. -/
def scalarSlot (type : Descriptor) (v : Value) : Eff S NativeValue :=
  match type with
  | .int size signed => do
    let x ← if v.isNullish then pure (.ofInt 0) else Eff.ofExcept v.asNumber
    makeSlot (← Eff.ofExcept (Scalar.ofInteger size signed x)).bytes [] none
  | .float size => do
    makeSlot (Scalar.ofFloat size (← Eff.ofExcept v.asNumber)).bytes [] none
  | _ => do
    makeSlot (Scalar.truth (← Eff.ofExcept v.asBoolean)).bytes [] none

/-- A reference: a slot that native code writes through, or the object itself that it writes into. -/
def refToNative (inner : Descriptor) (v : Value) : Eff S NativeValue := do
  if v.isNullish then return .raw 0
  let content := (← get).cell (← Eff.ofExcept v.asRef)
  match inner with
  | .object _ | .boxed .. | .variant _ =>
    match content with
    | .object handle => return .raw (← resolveObject handle)
    | .null | .undefined => makeSlot (Bytes.ofNatLE 8 0) [] (some 0)
    | other => throw (.refCellExpected inner.describe other.kind)
  | .int .. | .float _ | .boolean => scalarSlot inner content
  | .string _ => do
    let s ← stringToNative content
    let p := s.pointer?.getD 0
    let held := match s with
      | .owned _ (.blocks bases) => bases
      | _ => []
    makeSlot (Bytes.ofNatLE 8 p) held (some p)
  | other => throw (.refInner other.describe)

/-- Return types that a bare function pointer can have. -/
def closureReturns : Descriptor → Bool
  | .undefined | .null | .int .. | .float _ | .boolean | .object _ | .boxed .. | .variant _ => true
  | _ => false

/-- Code with the signature of a callback. If there can be none, the closure goes again. -/
def makeThunk (target : Address) (s : Signature) : Eff S Address := do
  let result := s.result.getD .undefined
  let args := s.args.getD []
  let checked : Except Error Unit := do
    if !closureReturns result then throw (.closureReturn result.describe)
    let _ ← args.mapM Descriptor.abi
    let _ ← result.abi
  match checked with
  | .error e =>
    Closure.unref target
    throw e
  | .ok _ => Thunk.create { target, args, result, owners := 1 }

/-- The native form of a script function: code with a signature of its own, or an entry point with the closure as its
data and, where the kind has one, a function that lets go of it. -/
def makeCallback (function : Option FunctionId) (s : Signature) : Eff S NativeValue := do
  let w ← get
  if function.isNone then throw .emptyCallback
  if !w.loopAlive w.generation || w.loop.stopped then throw .loopStopping
  let closure ← Closure.create { function, signature := s, refs := 1, generation := some w.generation }
  match Entry.ofKind? s.kind with
  | none => do
    let thunk ← makeThunk closure s
    if s.scope = .forever then
      Thunk.own thunk
      LoopState.retain (.thunk thunk)
    return .owned thunk (.code thunk)
  | some entry =>
    let destroy := if s.kind.slotCount = 3 then some Entry.unref.address else none
    return .trampoline entry.address closure destroy (s.kind = .destroy)

/-- A callback; if it is optional, null and undefined pass as null pointers in all of its slots. -/
def callbackToNative (s : Signature) (v : Value) (optional : Bool) : Eff S NativeValue := do
  if v.isNullish && optional then
    match s.kind with
    | .closure => return .raw 0
    | kind => return .trampoline 0 0 (if kind.slotCount = 3 then some 0 else none) (kind = .destroy)
  makeCallback (← Eff.ofExcept v.asCallback) s

/-- The native value of an argument. -/
def toNative (a : Arg) : Eff S NativeValue :=
  match a.type with
  | .int size signed => do
    let x ← if a.value.isNullish && a.optional then pure (.ofInt 0) else Eff.ofExcept a.value.asNumber
    return .scalar (← Eff.ofExcept (Scalar.ofInteger size signed x))
  | .float size => do return .scalar (Scalar.ofFloat size (← Eff.ofExcept a.value.asNumber))
  | .boolean => do return .scalar (Scalar.truth (← Eff.ofExcept a.value.asBoolean))
  | .string _ => stringToNative a.value
  | .null | .undefined => return .raw 0
  | .object _ | .boxed .. | .variant _ => objectToNative h a.type a.value
  | .array item kind _ => arrayToNative item kind a.value
  | .callback kind scope args result source outcome =>
    callbackToNative { kind, scope, args, result, source, outcome } a.value a.optional
  | .ref inner => refToNative inner a.value

end NativeBridge
