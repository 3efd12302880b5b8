import NativeBridge.World

/-!
A small native world to try the bridge on: counted objects, two boxed struct types, and counters of what native memory
functions were asked to do. This module has its state and the ways in which its functions read their words.
-/

namespace NativeBridge.Sample

/-- What the sample libraries count and keep between calls. -/
structure State where
  /-- objects alive -/
  live : Int := 0
  /-- memory given back that was not NULL -/
  free : Int := 0
  strfreev : Int := 0
  slistFree : Int := 0
  listFree : Int := 0
  boxedCopy : Int := 0
  boxedFree : Int := 0
  /-- the object whose reference was handed over -/
  adopted : Address := 0
  /-- data that waits for its release, and the function that releases it -/
  heldData : Address := 0
  heldNotify : Address := 0
  /-- the function that waits for the end of an operation, and its data -/
  readyCode : Address := 0
  readyData : Address := 0
  deriving Repr

/-- A bridge to the sample libraries. -/
abbrev sides (Script Job Reply : Type) : Sides := ⟨State, Script, Job, Reply⟩

/-- What runs in the sample libraries. -/
abbrev Run (Script Job Reply α : Type) : Type := Eff (sides Script Job Reply) α

/-- The code of a native function: it may call function pointers. -/
abbrev Code (Script Job Reply : Type) : Type :=
  CallCode (sides Script Job Reply) → Registers → Run Script Job Reply Returned

/-- A function that a library exports. -/
structure Export (Script Job Reply : Type) where
  name : String
  code : Code Script Job Reply

section

variable {Script Job Reply : Type}

/-- The sample state. -/
def state : Run Script Job Reply State := return (← get).native

/-- Changes the sample state. -/
def count (f : State → State) : Run Script Job Reply Unit := modify fun w => { w with native := f w.native }

/-- An integer or pointer argument as the word it is passed in. -/
def word (r : Registers) (i : Nat) : Nat := r.ints.getD i 0

/-- An integer argument of a type. -/
def int (kind : IntKind) (r : Registers) (i : Nat) : Int := kind.ofWord (word r i)

def int32 (r : Registers) (i : Nat) : Int := int .int32 r i

def double (r : Registers) (i : Nat) : Double := ⟨UInt64.ofNat (r.floats.getD i 0)⟩

def single (r : Registers) (i : Nat) : Single := ⟨UInt32.ofNat (r.floats.getD i 0)⟩

/-- A result in the integer register. -/
def returnWord (n : Nat) : Run Script Job Reply Returned := return { int := n }

/-- A C integer as a result. -/
def returnInt32 (n : Int) : Run Script Job Reply Returned := return { int := Width.w32.low n }

def returnDouble (x : Double) : Run Script Job Reply Returned := return { float := x.bits.toNat }

def returnSingle (x : Single) : Run Script Job Reply Returned := return { float := x.bits.toNat }

/-- The end of a function without a result. -/
def returnVoid : Run Script Job Reply Returned := return {}

/-- A signed number in memory. -/
def loadInt (width : Width) (p : Address) : Run Script Job Reply Int :=
  return (IntKind.mk width true).ofWord (Bytes.toNatLE (← Memory.load p width.bytes))

/-- Stores the low bytes of a number. -/
def storeInt (width : Width) (p : Address) (n : Int) : Run Script Job Reply Unit :=
  Memory.store p (Bytes.ofNatLE width.bytes (width.low n))

/-- A new block with C integers in it. -/
def allocInts (ns : List Int) : Run Script Job Reply Address :=
  Memory.alloc (ns.flatMap fun n => Bytes.ofNatLE 4 (Width.w32.low n))

/-- A new block with words in it. -/
def allocWords (ws : List Nat) : Run Script Job Reply Address := Memory.alloc (ws.flatMap (Bytes.ofNatLE 8))

/-- A linked list with these data words. -/
def buildList : List Nat → Run Script Job Reply Address
  | [] => pure 0
  | d :: rest => do
    let next ← buildList rest
    allocWords [d, next]

/-- Frees the nodes of a linked list. -/
def freeNodes (p : Address) : Run Script Job Reply Unit := do
  let heap := (← get).heap
  Eff.each Memory.release (heap.listNodes heap.bound p)

/-- The strings of an array that ends in NULL; none for a null pointer. -/
def stringPointers (p : Address) : Run Script Job Reply (List Address) := do
  let heap := (← get).heap
  return if p = 0 then [] else heap.wordsUntilZero heap.bound p

end

end NativeBridge.Sample
