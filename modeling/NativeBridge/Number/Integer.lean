import NativeBridge.Number.Binary

/-!
Fixed-width integers, and the conversion of a floating-point number to one: the fraction is cut off, the
result saturates at the ends of the 64-bit ranges and then wraps to the width.
-/

namespace NativeBridge

inductive Width where
  | w8 | w16 | w32 | w64
  deriving DecidableEq, Repr, Inhabited

namespace Width

def bits : Width → Nat
  | w8 => 8
  | w16 => 16
  | w32 => 32
  | w64 => 64

def bytes (w : Width) : Nat := w.bits / 8

/-- How many numbers fit into a width. -/
def modulus (w : Width) : Nat := twoPow w.bits

/-- The low bits of a number, as many as the width has. -/
def low (w : Width) (n : Int) : Nat := (n % w.modulus).toNat

def ofBits? : Nat → Option Width
  | 8 => some w8
  | 16 => some w16
  | 32 => some w32
  | 64 => some w64
  | _ => none

end Width

/-- An integer type of native code. -/
structure IntKind where
  width : Width
  signed : Bool
  deriving DecidableEq, Repr, Inhabited

namespace IntKind

def int32 : IntKind := ⟨.w32, true⟩

def int64 : IntKind := ⟨.w64, true⟩

def uint64 : IntKind := ⟨.w64, false⟩

/-- The value of the type that is congruent to `n` modulo the width. -/
def wrap (k : IntKind) (n : Int) : Int :=
  if k.signed then n.bmod k.width.modulus else n % k.width.modulus

/-- The smallest value of the type. -/
def least (k : IntKind) : Int := if k.signed then -(twoPow (k.width.bits - 1) : Int) else 0

/-- The largest value of the type. -/
def greatest (k : IntKind) : Int :=
  if k.signed then (twoPow (k.width.bits - 1) : Int) - 1 else (k.width.modulus : Int) - 1

/-- The two's complement bits of a value, zero above the width. -/
def toWord (k : IntKind) (n : Int) : Nat := k.width.low n

/-- The bits of a value extended to a register, by its sign or by zeros. -/
def toRegister (k : IntKind) (n : Int) : Nat := Width.w64.low (k.wrap n)

/-- The value of the type that the low bits of a word stand for. -/
def ofWord (k : IntKind) (w : Nat) : Int := k.wrap w

end IntKind

/-- A number, or the end of an interval that it lies beyond. -/
def clamp (n low high : Int) : Int := if n < low then low else if high < n then high else n

namespace Double

/-- Numerical order or equality; a NaN is never at most anything. -/
def atMost (x y : Double) : Bool := !x.isNaN && !y.isNaN && decide (x.rank ≤ y.rank)

/-- The integer part of a number, toward zero; an infinity or a NaN has none. -/
def integerPart? (x : Double) : Option Int :=
  match x.reading with
  | .finite negative m e =>
    let magnitude : Nat := if 0 ≤ e then m * twoPow e.toNat else m / twoPow (-e).toNat
    some (if negative then -(magnitude : Int) else magnitude)
  | _ => none

/-- The conversion of native code to an integer type, which is defined only if the type has the integer part. -/
def convert? (k : IntKind) (x : Double) : Option Int :=
  x.integerPart?.filter fun n => k.least ≤ n && n ≤ k.greatest

/-- The integer part of a number, saturated at the ends of the 64-bit types; `0` for a NaN. Negative numbers go through
the signed type and the others through the unsigned one. There is no value if a conversion on the way is not defined. -/
def saturate? (x : Double) : Option Int :=
  if x.isNaN then some 0
  else if x.less (ofInt 0) then
    if x.atMost (ofInt IntKind.int64.least) then some IntKind.int64.least else x.convert? .int64
  else if atMost (ofInt (twoPow 64)) x then some IntKind.uint64.greatest
  else x.convert? .uint64

/-- The integer part, saturated; the conversions on the way are always defined. -/
def truncate (x : Double) : Int := x.saturate?.getD 0

/-- The conversion of a number to an integer type. -/
def toInt (k : IntKind) (x : Double) : Int := k.wrap x.truncate

/-- A number clamped to the 32-bit signed range, its fraction cut off; `0` for a NaN. -/
def toInt32Clamped (x : Double) : Int := clamp x.truncate IntKind.int32.least IntKind.int32.greatest

end Double

end NativeBridge
