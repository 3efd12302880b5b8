import NativeBridge.Number.Power

/-!
Binary floating-point numbers of the interchange formats, by their bits. A format has `fraction`
explicit bits and an exponent field; `Format.decode` reads bits as a number, `Format.encode` rounds an
exact quotient to the nearest representable number, ties to the even one.
-/

namespace NativeBridge

/-- The integer nearest to `num / den`; a tie goes to the even one. -/
def roundHalfEven (num den : Nat) : Nat :=
  let q := num / den
  let r := num % den
  if 2 * r < den then q else if den < 2 * r then q + 1 else q + q % 2

/-- What bits of a binary format stand for: `mantissa * 2 ^ exponent` with a sign, or no finite number. -/
inductive Reading where
  | nan (negative : Bool) (payload : Nat)
  | infinite (negative : Bool)
  | finite (negative : Bool) (mantissa : Nat) (exponent : Int)
  deriving DecidableEq, Repr

/-- A binary interchange format. -/
structure Format where
  /-- explicit bits of the significand -/
  fraction : Nat
  /-- bits of the exponent field -/
  width : Nat
  deriving DecidableEq, Repr

namespace Format

/-- The exponent of the last place of the smallest numbers. -/
def least (f : Format) : Int := 2 - (twoPow (f.width - 1) : Int) - f.fraction

/-- The exponent field of infinities and NaNs. -/
def top (f : Format) : Nat := twoPow f.width - 1

/-- The bits of positive infinity. -/
def infinity (f : Format) : Nat := f.top * twoPow f.fraction

def signBit (f : Format) (negative : Bool) : Nat := if negative then twoPow (f.fraction + f.width) else 0

def decode (f : Format) (bits : Nat) : Reading :=
  let negative := bits / twoPow (f.fraction + f.width) % 2 == 1
  let field := bits / twoPow f.fraction % twoPow f.width
  let low := bits % twoPow f.fraction
  if field = f.top then (if low = 0 then .infinite negative else .nan negative low)
  else if field = 0 then .finite negative low f.least
  else .finite negative (low + twoPow f.fraction) (f.least + (field - 1 : Nat))

/-- The largest `e` with `2 ^ e ≤ num / den`, for positive `num` and `den`. -/
def log2Quotient (num den : Nat) : Int :=
  let a := num.log2
  let b := den.log2
  let reached := if b ≤ a then den * twoPow (a - b) ≤ num else den ≤ num * twoPow (b - a)
  if reached then (a : Int) - b else (a : Int) - b - 1

/-- The bits of the number nearest to `num / den`; beyond the range, infinity. The exponent field and
the significand are added, so a significand that rounds up to the next power carries into the field. -/
def encodeQuotient (f : Format) (negative : Bool) (num den : Nat) : Nat :=
  let magnitude :=
    if num = 0 then 0
    else
      let e := max (log2Quotient num den - f.fraction) f.least
      let m :=
        if 0 ≤ e then roundHalfEven num (den * twoPow e.toNat)
        else roundHalfEven (num * twoPow (-e).toNat) den
      min ((e - f.least).toNat * twoPow f.fraction + m) f.infinity
  f.signBit negative + magnitude

/-- The bits of a reading, rounded where the format is too narrow. A NaN becomes quiet and keeps the
leading bits of its payload, which is given for a fraction of `source` bits. -/
def encode (f : Format) (source : Nat) : Reading → Nat
  | .nan negative payload =>
    let kept := payload * twoPow f.fraction / twoPow source
    let quiet := twoPow (f.fraction - 1)
    f.signBit negative + f.infinity + quiet + kept % quiet
  | .infinite negative => f.signBit negative + f.infinity
  | .finite negative m e =>
    if 0 ≤ e then f.encodeQuotient negative (m * twoPow e.toNat) 1
    else f.encodeQuotient negative m (twoPow (-e).toNat)

end Format

/-- The format of 64 bits. -/
def binary64 : Format := ⟨52, 11⟩

/-- The format of 32 bits. -/
def binary32 : Format := ⟨23, 8⟩

/-- A floating-point number of 64 bits. -/
structure Double where
  bits : UInt64
  deriving DecidableEq, Repr, Inhabited

/-- A floating-point number of 32 bits. -/
structure Single where
  bits : UInt32
  deriving DecidableEq, Repr, Inhabited

namespace Double

def reading (x : Double) : Reading := binary64.decode x.bits.toNat

def isNaN (x : Double) : Bool :=
  match x.reading with
  | .nan _ _ => true
  | _ => false

/-- The number nearest to `num / den`, with a sign. -/
def ofQuotient (negative : Bool) (num den : Nat) : Double :=
  ⟨UInt64.ofNat (binary64.encodeQuotient negative num den)⟩

/-- The number nearest to an integer. -/
def ofInt (n : Int) : Double := ofQuotient (n < 0) n.natAbs 1

/-- The place of a number that is not NaN in the numerical order; both zeros have place `0`. -/
def rank (x : Double) : Int :=
  let magnitude : Int := x.bits.toNat % twoPow 63
  if twoPow 63 ≤ x.bits.toNat then -magnitude else magnitude

/-- Numerical equality: the zeros are equal, and a NaN differs from everything. -/
def eqv (x y : Double) : Bool := !x.isNaN && !y.isNaN && x.rank == y.rank

/-- Numerical order; a NaN is never below or above. -/
def less (x y : Double) : Bool := !x.isNaN && !y.isNaN && x.rank < y.rank

/-- The nearest number of 32 bits. -/
def narrow (x : Double) : Single := ⟨UInt32.ofNat (binary32.encode 52 x.reading)⟩

def ofFloat (x : Float) : Double := ⟨x.toBits⟩

def toFloat (x : Double) : Float := Float.ofBits x.bits

end Double

namespace Single

def reading (x : Single) : Reading := binary32.decode x.bits.toNat

def isNaN (x : Single) : Bool :=
  match x.reading with
  | .nan _ _ => true
  | _ => false

/-- The same number in 64 bits. -/
def widen (x : Single) : Double := ⟨UInt64.ofNat (binary64.encode 23 x.reading)⟩

end Single

end NativeBridge
