import NativeBridge.Number.Binary

/-!
The shortest decimal that reads back as a given binary number: with 1, 2, … 17 digits, the two neighbours
of the number on that decimal grid are tried against the interval of reals that round to it.
-/

namespace NativeBridge

/-- The decimal `digits * 10 ^ exponent`. -/
structure Decimal where
  digits : Nat
  exponent : Int
  deriving DecidableEq, Repr

namespace Shortest

/-- Whether `a * 10 ^ k ≤ x * 2 ^ q`. -/
def tenLeTwo (a : Nat) (k : Int) (x : Nat) (q : Int) : Bool :=
  a * tenPow k.toNat * twoPow (-q).toNat ≤ x * twoPow q.toNat * tenPow (-k).toNat

/-- Whether `x * 2 ^ q ≤ a * 10 ^ k`. -/
def twoLeTen (x : Nat) (q : Int) (a : Nat) (k : Int) : Bool :=
  x * twoPow q.toNat * tenPow (-k).toNat ≤ a * tenPow k.toNat * twoPow (-q).toNat

/-- The number of decimal digits; one for zero. -/
def digitCount (n : Nat) : Nat := (Nat.toDigits 10 n).length

/-- The largest `e` with `10 ^ e ≤ m * 2 ^ q`, for positive `m`. -/
def log10 (m : Nat) (q : Int) : Int :=
  let num := m * twoPow q.toNat
  let den := twoPow (-q).toNat
  if den ≤ num then (digitCount (num / den) : Int) - 1
  else
    let l := digitCount (den / num)
    if den ≤ num * tenPow (l - 1) then -((l : Int) - 1) else -(l : Int)

/-- The reals that round to `m * 2 ^ q`, in units of `2 ^ (q - 2)`. -/
structure Interval where
  low : Nat
  high : Nat
  closed : Bool

/-- Below a power of two the neighbour is half as far away, unless the exponent is the least one. -/
def interval (f : Format) (m : Nat) (q : Int) : Interval :=
  let low := if m = twoPow f.fraction ∧ f.least < q then 4 * m - 1 else 4 * m - 2
  ⟨low, 4 * m + 2, m % 2 == 0⟩

/-- Whether `a * 10 ^ k` rounds to the number. -/
def Interval.holds (i : Interval) (q : Int) (a : Nat) (k : Int) : Bool :=
  if i.closed then twoLeTen i.low (q - 2) a k && tenLeTwo a k i.high (q - 2)
  else !tenLeTwo a k i.low (q - 2) && !twoLeTen i.high (q - 2) a k

/-- Drops factors of ten, at most `fuel` of them. -/
def strip : Nat → Nat → Int → Decimal
  | 0, a, k => ⟨a, k⟩
  | fuel + 1, a, k => if a % 10 = 0 ∧ a ≠ 0 then strip fuel (a / 10) (k + 1) else ⟨a, k⟩

/-- The neighbours with `n` digits that round to the number; of two, the nearer one, a tie to the even. -/
def withDigits (f : Format) (m : Nat) (q : Int) (n : Nat) : Option Decimal :=
  let k := log10 m q + 1 - n
  let num := m * twoPow q.toNat * tenPow (-k).toNat
  let den := twoPow (-q).toNat * tenPow k.toNat
  let below := num / den
  let i := interval f m q
  let nearest := roundHalfEven num den
  let other := if nearest = below then below + 1 else below
  if i.holds q nearest k then some (strip 17 nearest k)
  else if i.holds q other k then some (strip 17 other k)
  else none

/-- The first hit among the grids of `n`, `n + 1`, … digits; the exact value if `fuel` grids have none. -/
def search (f : Format) (m : Nat) (q : Int) : Nat → Nat → Decimal
  | 0, _ => if 0 ≤ q then ⟨m * twoPow q.toNat, 0⟩ else ⟨m * Nat.pow 5 (-q).toNat, q⟩
  | fuel + 1, n => (withDigits f m q n).getD (search f m q fuel (n + 1))

end Shortest

/-- The shortest decimal that rounds to `m * 2 ^ q`, and the nearest of those. -/
def Decimal.shortest (f : Format) (m : Nat) (q : Int) : Decimal :=
  if m = 0 then ⟨0, 0⟩ else Shortest.search f m q 17 1

/-- The power of ten of the leading digit. -/
def Decimal.magnitude (d : Decimal) : Int := d.exponent + Shortest.digitCount d.digits - 1

end NativeBridge
