import NativeBridge.Callback.Trampoline

/-!
Native calls on the loop thread. The loop state is held while arguments are converted and while results are read
back; the native function runs without it, so that callbacks it fires can reach the state.
-/

namespace NativeBridge

variable {S : Sides} (h : Host S)

/-- A function to call and its arguments. The library may list alternatives. -/
structure Call where
  library : Bytes
  symbol : Bytes
  args : List Arg

/-- The result of a call, and what is to be stored in its reference cells. -/
structure Outcome where
  value : Value
  updates : List (CellId × Value)

/-- A call whose arguments are ready. -/
structure PreparedCall where
  function : Address
  types : List AbiType
  values : List NativeValue
  result : AbiType

namespace Call

/-- The slots that native code expects for an argument. -/
def expectedSlots (type : Descriptor) : Nat :=
  match type with
  | .callback kind _ _ _ _ _ => kind.slotCount
  | _ => 1

/-- The native value of one argument and the types of its slots. -/
def prepareArg (symbol : Bytes) (index : Nat) (a : Arg) : Eff S (NativeValue × List AbiType) := do
  let v ← toNative h a
  let expected := expectedSlots a.type
  let checked ← Eff.attempt do
    if v.slotCount ≠ expected then throw (.slotMismatch index symbol v.slotCount expected)
    return List.replicate expected (← Eff.ofExcept a.type.abi)
  match checked with
  | .ok types => return (v, types)
  | .error e =>
    v.release
    throw e

/-- The arguments in order. If one fails, those before it are released. -/
def prepareArgs (symbol : Bytes) (index : Nat) (done : List NativeValue) (types : List AbiType) :
    List Arg → Eff S (List NativeValue × List AbiType)
  | [] => pure (done, types)
  | a :: rest => do
    match ← Eff.attempt (prepareArg h symbol index a) with
    | .ok (v, more) => prepareArgs symbol (index + 1) (done ++ [v]) (types ++ more) rest
    | .error e =>
      Eff.each NativeValue.release done
      throw e

/-- No callback and no reference can be returned. -/
def returnable (result : Descriptor) : Except Error Unit :=
  match result with
  | .callback .. | .ref _ => .error (.returnType result.describe)
  | _ => .ok ()

/-- Finds the function and converts the arguments. They are released again if the result has no type of its own. -/
def prepare (c : Call) (result : Descriptor) : Eff S PreparedCall := do
  Eff.ofExcept (returnable result)
  let function ← LoopState.symbol h c.library c.symbol
  let (values, types) ← prepareArgs h c.symbol 0 [] [] c.args
  match result.abi with
  | .ok type => return { function, types, values, result := type }
  | .error e =>
    Eff.each NativeValue.release values
    throw e

/-- The value for the cell of a reference argument. Where native code wrote into an object that the cell
holds, there is none. -/
def readUpdate (a : Arg) (v : NativeValue) : Eff S (Option (CellId × Value)) := do
  match a.type, a.value with
  | .ref inner, .ref cell =>
    match (← get).cell cell with
    | .object _ => if inner.isObjectLike then return none else return some (cell, ← fromNative h v a.type)
    | _ => return some (cell, ← fromNative h v a.type)
  | _, _ => return none

/-- Reads the result and the references back. -/
def readBack (c : Call) (result : Descriptor) (values : List NativeValue) (buffer : Bytes) : Eff S Outcome := do
  let value ← fromNative h (← Eff.ofExcept (readReturn result buffer)) result
  let updates ← Eff.collect (fun p => readUpdate h p.1 p.2) (c.args.zip values)
  return { value, updates := updates.filterMap id }

/-- Finds, converts, calls and reads back. What the arguments own lives until the end. -/
def invoke (c : Call) (result : Descriptor) : Eff S Outcome := do
  let p ← LoopState.holding (prepare h c result)
  Eff.andFinally
    (do
      Eff.each NativeValue.handOver p.values
      let r ← h.run p.function (callCode h) (h.convention.pass p.types (p.values.flatMap NativeValue.slots))
      LoopDispatch.unwinding (LoopState.holding (readBack h c result p.values (h.convention.receive p.result r))))
    (Eff.each NativeValue.release p.values)

/-- The handles in values that are to be stored. -/
def handleKeys (updates : List (CellId × Value)) : List HandleKey := updates.flatMap fun u => u.2.handleKeys

/-- Runs calls in order, after calls that gave updates. An error ends them, and what they gave is let go of. -/
def invokeAfter (updates : List (CellId × Value)) : List Call → Eff S (List (CellId × Value))
  | [] => pure updates
  | c :: rest => do
    match ← Eff.attempt (invoke h c .undefined) with
    | .ok outcome => invokeAfter (updates ++ outcome.updates) rest
    | .error e =>
      LoopDispatch.letGo (handleKeys updates)
      throw e

/-- Runs calls for their effect, in order; the first error ends the batch. Gives the updates of all calls. -/
def invokeAll (calls : List Call) : Eff S (List (CellId × Value)) := invokeAfter h [] calls

/-- Stores values in their cells. -/
def applyUpdates : List (CellId × Value) → Eff S Unit := Eff.each fun u => Cell.set u.1 u.2

end Call

end NativeBridge
