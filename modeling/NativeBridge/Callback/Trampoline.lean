import NativeBridge.Dispatch.ScriptDispatch
import NativeBridge.Native.Marshal

/-!
What runs when native code calls a callback. No error leaves a callback: native code gets nothing, or the value
that stands for nothing, whenever the script cannot give an answer.
-/

namespace NativeBridge

variable {S : Sides} (h : Host S)

namespace Closure

/-- Runs the script function of a closure and waits; nothing if the function threw. -/
def call (c : Closure) (args : List Value) (capture : Bool) : Eff S (Option Value) := do
  match c.generation with
  | none => throw .noDispatcher
  | some generation =>
    -- A closure keeps to the dispatchers of its own run. Of these only the ones of the present run are here: once a run
    -- has stopped nobody drains what it has queued, unless the channel itself runs it.
    if generation ≠ (← get).generation then Eff.stuck
    match ← ScriptDispatch.invokeAndWait h c.function args capture with
    | .ok v => return some v
    | .error _ => return none

end Closure

namespace Trampoline

/-- An argument as it lies in memory, and the value it has when no type describes it. -/
structure RawArg where
  memory : Bytes
  fallback : Value

/-- An untyped pointer: null, or its address as a number. -/
def genericPointer (p : Address) : Value := if p = 0 then .null else .ofInt p

def pointerArg (p : Address) : RawArg := ⟨Bytes.ofNatLE 8 p, genericPointer p⟩

/-- A C integer passed by value. -/
def intArg (word : Nat) : RawArg :=
  ⟨Bytes.resize 8 (Bytes.ofNatLE 4 word), .ofInt (IntKind.int32.ofWord word)⟩

/-- Converts each argument that has a type; the others have their fallback. -/
def convertTyped : List RawArg → List (Option Descriptor) → Eff S (List Value)
  | [], _ => pure []
  | a :: rest, [] => do return a.fallback :: (← convertTyped rest [])
  | a :: rest, none :: types => do return a.fallback :: (← convertTyped rest types)
  | a :: rest, some type :: types => do
    let v ← argumentFromMemory h a.memory type
    return v :: (← convertTyped rest types)

/-- The values of arguments. Without types the loop state is not needed. -/
def convertArgs (types : List (Option Descriptor)) (raw : List RawArg) : Eff S (List Value) :=
  if types.isEmpty then return raw.map RawArg.fallback
  else LoopDispatch.unwinding (LoopState.holding (convertTyped h raw types))

/-- The declared argument types of a closure. -/
def typesOf (c : Closure) : List (Option Descriptor) := (c.signature.args.getD []).map some

def toBoolean : Value → Bool
  | .boolean b => b
  | .number x => !x.eqv (.ofInt 0)
  | _ => false

/-- An ordering as a C integer: cut off and clamped; anything that is no number says equal. -/
def toOrdering : Value → Int
  | .number x => x.toInt32Clamped
  | _ => 0

/-- Calls a script function for its effect; an error is ignored. -/
def notify (c : Closure) (args : Eff S (List Value)) : Eff S Unit := do
  let _ ← Eff.attempt do
    let values ← args
    c.call h values false

/-- Calls a script function for its answer, with a fallback for want of one. -/
def request {α : Type} (c : Closure) (fallback : α) (args : Eff S (List Value)) (convert : Value → α) :
    Eff S α := do
  let r ← Eff.attempt do
    let values ← args
    c.call h values true
  match r with
  | .ok (some v) => return convert v
  | _ => return fallback

/-- The closure behind a data pointer. -/
def closureAt (data : Address) : Eff S Closure := do
  match ← Closure.get? data with
  | some c => return c
  | none => Eff.stuck

/-- Runs once and lets go of the closure. -/
def asyncReady (source result data : Address) : Eff S Unit := do
  if data = 0 then return
  let c ← closureAt data
  let s := c.signature
  let types := if s.source.isSome || s.outcome.isSome then [s.source, s.outcome] else []
  notify h c (convertArgs h types [pointerArg source, pointerArg result])
  Closure.unref data

/-- Runs once and lets go of the closure. -/
def destroy (data : Address) : Eff S Unit := do
  if data = 0 then return
  notify h (← closureAt data) (pure [])
  Closure.unref data

def drawFunc (area cr width height data : Nat) : Eff S Unit := do
  if data = 0 then return
  let c ← closureAt data
  notify h c (convertArgs h (typesOf c) [pointerArg area, pointerArg cr, intArg width, intArg height])

def tickFunc (widget clock data : Address) : Eff S Bool := do
  if data = 0 then return false
  let c ← closureAt data
  request h c false (convertArgs h (typesOf c) [pointerArg widget, pointerArg clock]) toBoolean

def sourceFunc (data : Address) : Eff S Bool := do
  if data = 0 then return false
  request h (← closureAt data) false (pure []) toBoolean

def compareFunc (a b data : Address) : Eff S Int := do
  if data = 0 then return 0
  let c ← closureAt data
  request h c 0 (convertArgs h (typesOf c) [pointerArg a, pointerArg b]) toOrdering

/-- The function that lets go of a callback's data. -/
def unref (data : Address) : Eff S Unit := if data = 0 then pure () else Closure.unref data

/-- A truth value as a C integer. -/
def ofBool (b : Bool) : Returned := { int := if b then 1 else 0 }

/-- Runs an entry point with the words that native code passed. -/
def enter (e : Entry) (words : Registers) : Eff S Returned := do
  let arg (i : Nat) : Nat := words.ints.getD i 0
  match e with
  | .asyncReady => do
    asyncReady h (arg 0) (arg 1) (arg 2)
    return {}
  | .destroy => do
    destroy h (arg 0)
    return {}
  | .drawFunc => do
    drawFunc h (arg 0) (arg 1) (arg 2) (arg 3) (arg 4)
    return {}
  | .tickFunc => return ofBool (← tickFunc h (arg 0) (arg 1) (arg 2))
  | .sourceFunc => return ofBool (← sourceFunc h (arg 0))
  | .compareFunc => return { int := Width.w32.low (← compareFunc h (arg 0) (arg 1) (arg 2)) }
  | .unref => do
    unref (arg 0)
    return {}

end Trampoline

namespace Thunk

/-- The return buffer of a call before anything is written to it. -/
def emptyBuffer : Bytes := List.replicate 8 0

/-- The bytes that a native value puts into the return buffer: integers fill a register. -/
def resultBytes : NativeValue → Option Bytes
  | .scalar (.int k n) => some (Bytes.ofNatLE 8 (k.toRegister n))
  | .scalar s => some (Bytes.resize 8 s.bytes)
  | .raw p => some (Bytes.ofNatLE 8 p)
  | _ => none

/-- The return buffer of a call with these arguments. It is all zeros unless the arguments convert, the function
returns, and its value has the return type. -/
def respond (t : Thunk) (args : List (Descriptor × Bytes)) : Eff S Bytes := do
  let r ← Eff.attempt do
    let values ← LoopDispatch.unwinding (LoopState.holding (Eff.collect (fun a => argumentFromMemory h a.2 a.1) args))
    let c ← Trampoline.closureAt t.target
    match ← c.call h values true, t.result with
    | some _, .undefined => return emptyBuffer
    | some v, type => do
      let native ← LoopState.holding (toNative h { type, value := v, optional := true })
      return (resultBytes native).getD emptyBuffer
    | none, _ => return emptyBuffer
  match r with
  | .ok buffer => return buffer
  | .error _ => return emptyBuffer

end Thunk

/-- Calls a function pointer: an entry point, or code made for a callback. -/
def callCode (a : Address) (words : Registers) : Eff S Returned := do
  match Entry.ofAddress? a with
  | some e => Trampoline.enter h e words
  | none =>
    match (← get).thunks.lookup a with
    | some t =>
      return h.convention.give t.result (← Thunk.respond h t (h.convention.deal t.args words))
    | none => h.run a (fun _ _ => Eff.stuck) words

end NativeBridge
