import NativeBridge.Number.Shortest

/-!
How the shortest digits of a number are written: positional between two powers of ten, otherwise with an
exponent of a sign and at least two digits.
-/

namespace NativeBridge

/-- The choices that a number format leaves open. -/
structure NumberLayout where
  /-- the least power of ten of a leading digit that is written positionally -/
  from10 : Int
  /-- the first power of ten of a leading digit that is not -/
  to10 : Int
  /-- whether an integer written positionally ends in `.0` -/
  pointZero : Bool

namespace NumberLayout

def exponentText (e : Int) : String :=
  let digits := toString e.natAbs
  (if e < 0 then "e-" else "e+") ++ (if e.natAbs < 10 then "0" ++ digits else digits)

/-- The text of a decimal. -/
def write (l : NumberLayout) (d : Decimal) : String :=
  let digits := Nat.toDigits 10 d.digits
  let e := d.magnitude
  if l.from10 ≤ e ∧ e < l.to10 then
    if 0 ≤ d.exponent then
      String.ofList (digits ++ List.replicate d.exponent.toNat '0') ++ (if l.pointZero then ".0" else "")
    else if e < 0 then
      "0." ++ String.ofList (List.replicate (-e - 1).toNat '0' ++ digits)
    else
      let whole := (e + 1).toNat
      String.ofList (digits.take whole) ++ "." ++ String.ofList (digits.drop whole)
  else
    let rest := digits.drop 1
    String.ofList (digits.take 1) ++ (if rest.isEmpty then "" else "." ++ String.ofList rest) ++ exponentText e

/-- The text of a number. -/
def render (l : NumberLayout) (x : Double) : String :=
  let sign (negative : Bool) := if negative then "-" else ""
  match x.reading with
  | .nan negative _ => sign negative ++ "nan"
  | .infinite negative => sign negative ++ "inf"
  | .finite negative m e => sign negative ++ l.write (Decimal.shortest binary64 m e)

/-- Numbers in messages and in the text of values: no point where there is no fraction. -/
def plain : NumberLayout := ⟨-4, 16, false⟩

/-- Numbers in a document: an integral one ends in `.0`. -/
def document : NumberLayout := ⟨-4, 15, true⟩

end NumberLayout

end NativeBridge
