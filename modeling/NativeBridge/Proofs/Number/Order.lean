import Mathlib
import NativeBridge.Number.Integer

/-!
The exact numbers that floating-point numbers stand for. They are the multiples of the smallest positive one by the
integers of `Double.place`, in the order of the bits.
-/

namespace NativeBridge

lemma cast_twoPow (k : Nat) : (twoPow k : ℚ) = 2 ^ k := Nat.cast_pow 2 k

/-- The exact number of a finite reading. -/
def Reading.value? : Reading → Option ℚ
  | .finite negative m e => some (if negative then -(m * 2 ^ e) else m * 2 ^ e)
  | _ => none

namespace Double

/-- The exact number of a finite floating-point number. -/
def value? (x : Double) : Option ℚ := x.reading.value?

/-- What the bits below the sign stand for, counted in the smallest positive number. -/
def units (magnitude : Nat) : Nat :=
  let field := magnitude / twoPow 52
  let low := magnitude % twoPow 52
  if field = 0 then low else (low + twoPow 52) * twoPow (field - 1)

lemma units_zero : units 0 = 0 := rfl

lemma units_strictMono : StrictMono units := by
  have hpow : twoPow 52 = 4503599627370496 := rfl
  refine strictMono_nat_of_lt_succ fun n => ?_
  simp only [units, hpow]
  by_cases hlow : n % 4503599627370496 + 1 < 4503599627370496
  · have hfield : (n + 1) / 4503599627370496 = n / 4503599627370496 := by omega
    have hnext : (n + 1) % 4503599627370496 = n % 4503599627370496 + 1 := by omega
    rw [hfield, hnext]
    split
    · omega
    · exact Nat.mul_lt_mul_of_pos_right (by omega) (twoPow_pos _)
  · -- the last number below a power of two, which the next one is
    have hfield : (n + 1) / 4503599627370496 = n / 4503599627370496 + 1 := by omega
    have hnext : (n + 1) % 4503599627370496 = 0 := by omega
    rw [hfield, hnext, if_neg (Nat.succ_ne_zero _), Nat.zero_add, Nat.add_sub_cancel]
    by_cases hzero : n / 4503599627370496 = 0
    · rw [if_pos hzero, hzero]
      exact Nat.lt_of_lt_of_eq (by omega) (Nat.mul_one _).symm
    · obtain ⟨f, hf⟩ : ∃ f, n / 4503599627370496 = f + 1 := ⟨n / 4503599627370496 - 1, by omega⟩
      rw [if_neg hzero, hf, Nat.add_sub_cancel, twoPow_succ, Nat.mul_comm (twoPow f), ← Nat.mul_assoc]
      exact Nat.mul_lt_mul_of_pos_right (by omega) (twoPow_pos f)

/-- What a rank stands for, counted in the smallest positive number. -/
def place (rank : Int) : Int := if rank < 0 then -(units rank.natAbs : Int) else units rank.natAbs

lemma place_strictMono : StrictMono place := by
  intro r s hrs
  have mono {a b : Nat} (h : a < b) : (units a : Int) < units b := Int.ofNat_lt.2 (units_strictMono h)
  have pos {a : Nat} (h : 0 < a) : (0 : Int) < units a := mono h
  unfold place
  split
  · split
    · have := mono (show s.natAbs < r.natAbs by omega)
      omega
    · have := pos (show 0 < r.natAbs by omega)
      omega
  · rw [if_neg (by omega)]
    exact mono (by omega)

lemma place_sign (magnitude : Nat) (negative : Prop) [Decidable negative] :
    place (if negative then -(magnitude : Int) else magnitude) =
      if negative then -(units magnitude : Int) else units magnitude := by
  by_cases h : negative
  · rcases Nat.eq_zero_or_pos magnitude with rfl | hpos
    · simp [place, h, units_zero]
    · simp [place, h, hpos]
  · simp [place, h]

section Reading

variable {x : Double}

/-- The parts of the bits, of which the sign is the highest. -/
lemma reading_eq : x.reading =
    let negative := decide (twoPow 63 ≤ x.bits.toNat)
    let field := x.bits.toNat % twoPow 63 / twoPow 52
    let low := x.bits.toNat % twoPow 63 % twoPow 52
    if field = 2047 then (if low = 0 then .infinite negative else .nan negative low)
    else if field = 0 then .finite negative low (-1074)
    else .finite negative (low + twoPow 52) (-1074 + (field - 1 : Nat)) := by
  have h52 : twoPow 52 = 4503599627370496 := rfl
  have h63 : twoPow 63 = 9223372036854775808 := rfl
  have hsize : x.bits.toNat < 18446744073709551616 := x.bits.toNat_lt
  have hsign : (x.bits.toNat / twoPow 63 % 2 == 1) = decide (twoPow 63 ≤ x.bits.toNat) := by
    rw [h63, Bool.eq_iff_iff, beq_iff_eq, decide_eq_true_eq]
    omega
  have hfield : x.bits.toNat / twoPow 52 % twoPow 11 = x.bits.toNat % twoPow 63 / twoPow 52 := by
    rw [h52, h63, show twoPow 11 = 2048 from rfl]
    omega
  have hlow : x.bits.toNat % twoPow 52 = x.bits.toNat % twoPow 63 % twoPow 52 := by
    rw [h52, h63]
    omega
  rw [← hsign, ← hfield, ← hlow]
  rfl

lemma finite_iff : x.bits.toNat % twoPow 63 < binary64.infinity ↔ x.bits.toNat % twoPow 63 / twoPow 52 ≠ 2047 := by
  rw [show binary64.infinity = 9218868437227405312 from rfl, show twoPow 63 = 9223372036854775808 from rfl,
    show twoPow 52 = 4503599627370496 from rfl]
  omega

/-- Below the bits of infinity, the exponent field and the significand give the units. -/
lemma value?_eq_some (h : x.bits.toNat % twoPow 63 < binary64.infinity) :
    x.value? = some ((place x.rank : ℚ) * 2 ^ (-1074 : ℤ)) := by
  obtain ⟨m, e, hx, hm⟩ : ∃ m e, x.reading = .finite (decide (twoPow 63 ≤ x.bits.toNat)) m e ∧
      (m * 2 ^ e : ℚ) = units (x.bits.toNat % twoPow 63) * 2 ^ (-1074 : ℤ) := by
    rw [reading_eq]
    simp only [if_neg (finite_iff.1 h), units]
    split
    · exact ⟨_, _, rfl, rfl⟩
    · refine ⟨_, _, rfl, ?_⟩
      rw [zpow_add₀ two_ne_zero, zpow_natCast, Nat.cast_mul, cast_twoPow, mul_assoc, mul_comm (2 ^ (-1074 : ℤ))]
  have hrank : x.rank = if twoPow 63 ≤ x.bits.toNat then -((x.bits.toNat % twoPow 63 : Nat) : Int)
      else (x.bits.toNat % twoPow 63 : Nat) := by
    rw [Int.natCast_mod]
    rfl
  rw [hrank, place_sign]
  simp only [value?, hx, Reading.value?, hm, decide_eq_true_eq]
  split
  · simp
  · simp

lemma finite_of_value? {q : ℚ} (h : x.value? = some q) : x.bits.toNat % twoPow 63 < binary64.infinity := by
  rw [finite_iff]
  intro hfield
  rw [value?, reading_eq] at h
  simp only [hfield, if_true] at h
  split at h
  · simp [Reading.value?] at h
  · simp [Reading.value?] at h

lemma eq_place_of_value? {q : ℚ} (h : x.value? = some q) : q = place x.rank * 2 ^ (-1074 : ℤ) :=
  Option.some.inj (h.symm.trans (value?_eq_some (finite_of_value? h)))

end Reading

lemma isNaN_of_value? {x : Double} {q : ℚ} (h : x.value? = some q) : x.isNaN = false := by
  unfold value? at h
  unfold isNaN
  cases hx : x.reading with
  | nan => simp [hx, Reading.value?] at h
  | infinite => rfl
  | finite => rfl

lemma unit_pos : (0 : ℚ) < 2 ^ (-1074 : ℤ) := by
  positivity

/-- **The order of the bits is the order of the numbers.** -/
theorem less_iff {x y : Double} {p q : ℚ} (hx : x.value? = some p) (hy : y.value? = some q) :
    x.less y = true ↔ p < q := by
  rw [eq_place_of_value? hx, eq_place_of_value? hy, mul_lt_mul_iff_left₀ unit_pos, Int.cast_lt,
    place_strictMono.lt_iff_lt]
  simp [less, isNaN_of_value? hx, isNaN_of_value? hy]

theorem atMost_iff {x y : Double} {p q : ℚ} (hx : x.value? = some p) (hy : y.value? = some q) :
    x.atMost y = true ↔ p ≤ q := by
  rw [eq_place_of_value? hx, eq_place_of_value? hy, mul_le_mul_iff_left₀ unit_pos, Int.cast_le,
    place_strictMono.le_iff_le]
  simp [atMost, isNaN_of_value? hx, isNaN_of_value? hy]

end Double

end NativeBridge
