import NativeBridge.Number.Power

/-!
Byte strings: what native memory and C strings hold. A text of the bridge is a byte string, because
native code promises no encoding; a name that a document gives is a Unicode string and is
written as UTF-8.
-/

namespace NativeBridge

abbrev Bytes := List UInt8

namespace Bytes

/-- The UTF-8 form of a Unicode string. -/
def ofString (s : String) : Bytes := s.toUTF8.toList

/-- The Unicode string, if the bytes are valid UTF-8. -/
def toString? (b : Bytes) : Option String := String.fromUTF8? ⟨b.toArray⟩

/-- What C code sees of a byte string: all before the first NUL. -/
def untilNul (b : Bytes) : Bytes := b.takeWhile (· != 0)

/-- The low `width` bytes of a number, least significant first. -/
def ofNatLE : Nat → Nat → Bytes
  | 0, _ => []
  | width + 1, n => UInt8.ofNat n :: ofNatLE width (n / 256)

/-- The number that bytes denote, least significant first. -/
def toNatLE : Bytes → Nat
  | [] => 0
  | b :: r => b.toNat + 256 * toNatLE r

/-- The bytes brought to `width`: cut off, or filled up with zeros. -/
def resize (width : Nat) (b : Bytes) : Bytes := b.take width ++ List.replicate (width - b.length) 0

@[simp] theorem length_ofNatLE (width n : Nat) : (ofNatLE width n).length = width := by
  induction width generalizing n with
  | zero => rfl
  | succ w ih => simp [ofNatLE, ih]

theorem toNatLE_ofNatLE (width n : Nat) : toNatLE (ofNatLE width n) = n % twoPow (8 * width) := by
  induction width generalizing n with
  | zero => simp [ofNatLE, toNatLE, twoPow, Nat.mod_one]
  | succ w ih =>
    have split : twoPow (8 * (w + 1)) = 256 * twoPow (8 * w) := by
      rw [Nat.mul_succ, twoPow_add, Nat.mul_comm]; rfl
    rw [ofNatLE, toNatLE, ih, split, Nat.mod_mul]
    simp

@[simp] theorem length_resize (width : Nat) (b : Bytes) : (resize width b).length = width := by
  simp [resize]; omega

/-- ASCII letters in lower case, every other byte as it is. -/
def asciiLower (c : UInt8) : UInt8 := if 65 ≤ c ∧ c ≤ 90 then c + 32 else c

/-- ASCII letters in upper case, every other byte as it is. -/
def asciiUpper (c : UInt8) : UInt8 := if 97 ≤ c ∧ c ≤ 122 then c - 32 else c

/-- An ASCII capital letter. -/
def isAsciiUpper (c : UInt8) : Bool := 65 ≤ c ∧ c ≤ 90

private def hexDigit (n : Nat) : Char := if n < 10 then Char.ofNat (48 + n) else Char.ofNat (87 + n)

/-- Two hexadecimal digits a byte, in order. -/
def toHex (b : Bytes) : String :=
  String.ofList (b.flatMap fun c => [hexDigit (c.toNat / 16), hexDigit (c.toNat % 16)])

/-- The value of a hexadecimal digit of either case. -/
def hexValue? (c : Char) : Option Nat :=
  if '0' ≤ c ∧ c ≤ '9' then some (c.toNat - 48)
  else if 'a' ≤ c ∧ c ≤ 'f' then some (c.toNat - 87)
  else if 'A' ≤ c ∧ c ≤ 'F' then some (c.toNat - 55)
  else none

/-- Reads pairs of hexadecimal digits. -/
def ofHexDigits? : List Char → Option Bytes
  | [] => some []
  | [_] => none
  | a :: b :: r => do
    let high ← hexValue? a
    let low ← hexValue? b
    let rest ← ofHexDigits? r
    return UInt8.ofNat (16 * high + low) :: rest

def ofHex? (s : String) : Option Bytes := ofHexDigits? s.toList

end Bytes

end NativeBridge
