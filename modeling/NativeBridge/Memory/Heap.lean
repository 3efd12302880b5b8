import NativeBridge.Text.Bytes

/-!
Native memory: blocks of bytes far apart in one address space, so that no access to one block reaches another.
Addresses of code and of closures come from the same space and hold no bytes.
-/

namespace NativeBridge

abbrev Address := Nat

structure Block where
  base : Address
  bytes : Bytes
  deriving Repr

structure Heap where
  blocks : List Block
  /-- how many bases have been given out -/
  given : Nat
  deriving Repr, Inhabited

namespace Heap

/-- The distance between the bases of blocks. -/
def stride : Nat := 0x100000000

def empty : Heap := ⟨[], 0⟩

/-- The block that an address lies in. -/
def blockAt (h : Heap) (a : Address) : Option Block :=
  h.blocks.find? fun b => b.base ≤ a && a < b.base + stride

/-- A base that no block has or will have. -/
def reserve (h : Heap) : Address × Heap :=
  let given := h.given + 1
  (given * stride, { h with given })

/-- A new block with these bytes. -/
def alloc (h : Heap) (bytes : Bytes) : Address × Heap :=
  let (base, h) := h.reserve
  (base, { h with blocks := ⟨base, bytes⟩ :: h.blocks })

/-- Gives the block at an address back. -/
def release (h : Heap) (a : Address) : Heap := { h with blocks := h.blocks.filter (·.base != a) }

/-- The `width` bytes from an address on; what lies outside of its block reads as zeros. -/
def load (h : Heap) (a : Address) (width : Nat) : Bytes :=
  match h.blockAt a with
  | some b => Bytes.resize width (b.bytes.drop (a - b.base))
  | none => List.replicate width 0

/-- Bytes with some of them replaced from an offset on; nothing is written past the end. -/
def overwrite : Bytes → Nat → Bytes → Bytes
  | old, 0, new => new.take old.length ++ old.drop new.length
  | [], _, _ => []
  | c :: rest, offset + 1, new => c :: overwrite rest offset new

/-- Stores bytes from an address on. -/
def store (h : Heap) (a : Address) (new : Bytes) : Heap :=
  { h with blocks := h.blocks.map fun b =>
      if b.base ≤ a && a < b.base + stride then { b with bytes := overwrite b.bytes (a - b.base) new } else b }

def loadWord (h : Heap) (a : Address) : Address := Bytes.toNatLE (h.load a 8)

/-- The bytes from an address up to a NUL. -/
def loadString (h : Heap) (a : Address) : Bytes :=
  match h.blockAt a with
  | some b => Bytes.untilNul (b.bytes.drop (a - b.base))
  | none => []

/-- The words from an address up to a zero; `fuel` bounds their number. -/
def wordsUntilZero (h : Heap) : Nat → Address → List Nat
  | 0, _ => []
  | fuel + 1, a =>
    let w := h.loadWord a
    if w = 0 then [] else w :: wordsUntilZero h fuel (a + 8)

/-- The data words of a linked list of nodes that hold data and the next node; `fuel` bounds their number. -/
def listData (h : Heap) : Nat → Address → List Nat
  | 0, _ => []
  | fuel + 1, a => if a = 0 then [] else h.loadWord a :: listData h fuel (h.loadWord (a + 8))

/-- The nodes of a linked list. -/
def listNodes (h : Heap) : Nat → Address → List Address
  | 0, _ => []
  | fuel + 1, a => if a = 0 then [] else a :: listNodes h fuel (h.loadWord (a + 8))

/-- More than the number of words in all blocks together, hence of items of any list or array in memory. -/
def bound (h : Heap) : Nat := h.blocks.foldl (fun n b => n + b.bytes.length) 1

end Heap

end NativeBridge
