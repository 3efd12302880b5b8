import NativeBridge.Proofs.Number.Conversion

/-!
Integers that are floating-point numbers. The number nearest to such an integer is the integer, and converting it to an
integer type that has it gives it back.
-/

namespace NativeBridge

namespace Double

lemma reading_bounds {x : Double} {negative : Bool} {m : Nat} {e : ℤ} (h : x.reading = .finite negative m e) :
    m < twoPow 53 ∧ e ≤ 971 := by
  have h52 : twoPow 52 = 4503599627370496 := rfl
  have h53 : twoPow 53 = 9007199254740992 := rfl
  have h63 : twoPow 63 = 9223372036854775808 := rfl
  rw [reading_eq, h52, h63] at h
  dsimp only at h
  rw [h53]
  split at h
  · split at h <;> cases h
  · split at h
    · cases h
      omega
    · cases h
      omega

/-- An integer that is a floating-point number has a significand of 53 bits. -/
lemma significand_of_value? {x : Double} {n : ℤ} (h : x.value? = some (n : ℚ)) :
    ∃ m e, m < twoPow 53 ∧ e ≤ 971 ∧ n.natAbs = m * twoPow e := by
  unfold value? at h
  cases hx : x.reading with
  | nan => simp [hx, Reading.value?] at h
  | infinite => simp [hx, Reading.value?] at h
  | finite negative m e =>
    obtain ⟨hm, hle⟩ := reading_bounds hx
    have habs : (n.natAbs : ℚ) = m * 2 ^ e := by
      rw [hx] at h
      have hpos : (0 : ℚ) ≤ m * 2 ^ e := by positivity
      have hn := Option.some.inj h
      rw [Nat.cast_natAbs, Int.cast_abs, ← hn]
      split
      · rw [abs_neg, abs_of_nonneg hpos]
      · rw [abs_of_nonneg hpos]
    rcases le_or_gt 0 e with he | he
    · obtain ⟨k, rfl⟩ := Int.eq_ofNat_of_zero_le he
      refine ⟨m, k, hm, by omega, ?_⟩
      rw [zpow_natCast, ← cast_twoPow] at habs
      exact_mod_cast habs
    · -- the fraction is cut off by a factor that the significand has
      obtain ⟨k, hk⟩ := Int.eq_ofNat_of_zero_le (show 0 ≤ -e by omega)
      obtain rfl : e = -k := by omega
      rw [zpow_neg, zpow_natCast, ← cast_twoPow, ← div_eq_mul_inv, eq_div_iff (by exact_mod_cast (twoPow_pos k).ne')]
        at habs
      have hscaled : n.natAbs * twoPow k = m := by exact_mod_cast habs
      have hshrink : n.natAbs ≤ n.natAbs * twoPow k := Nat.le_mul_of_pos_right _ (twoPow_pos k)
      exact ⟨n.natAbs, 0, by omega, by omega, (Nat.mul_one _).symm⟩

lemma twoPow_mono {j k : Nat} (h : j ≤ k) : twoPow j ≤ twoPow k := Nat.pow_le_pow_right (by decide) h

lemma log2_le_of_lt {n k : Nat} (hn : n ≠ 0) (h : n < twoPow (k + 1)) : n.log2 ≤ k :=
  Nat.le_of_lt_succ ((Nat.log2_lt hn).2 h)

lemma roundHalfEven_of_exact {q den : Nat} (hden : 0 < den) : roundHalfEven (q * den) den = q := by
  unfold roundHalfEven
  rw [Nat.mul_mod_left, Nat.mul_div_cancel _ hden]
  exact if_pos (by omega)

/-- A number of at most 53 significant bits, with its leading bit brought to place 52. -/
lemma exists_scaled {num m e : Nat} (hm : m < twoPow 53) (hnum : num = m * twoPow e) (hpos : num ≠ 0) :
    ∃ q, twoPow 52 ≤ q ∧ q < twoPow 53 ∧ q * twoPow (num.log2 - 52) = num * twoPow (52 - num.log2) := by
  have hlow : twoPow num.log2 ≤ num := Nat.log2_self_le hpos
  have hhigh : num < twoPow (num.log2 + 1) := Nat.lt_log2_self
  rcases le_or_gt 52 num.log2 with hlog | hlog
  · obtain ⟨d, hd⟩ := Nat.exists_eq_add_of_le hlog
    have hde : d ≤ e := by
      have hlt : twoPow num.log2 < twoPow (53 + e) :=
        calc twoPow num.log2 ≤ m * twoPow e := hnum ▸ hlow
          _ < twoPow 53 * twoPow e := Nat.mul_lt_mul_of_pos_right hm (twoPow_pos e)
          _ = twoPow (53 + e) := (twoPow_add 53 e).symm
      by_contra hgt
      exact absurd (twoPow_mono (show 53 + e ≤ num.log2 by omega)) (Nat.not_le.2 hlt)
    obtain ⟨f, rfl⟩ := Nat.exists_eq_add_of_le hde
    have hq : num = m * twoPow f * twoPow d := by rw [hnum, twoPow_add, Nat.mul_comm (twoPow d), Nat.mul_assoc]
    rw [hd, twoPow_add] at hlow
    rw [hd, show 52 + d + 1 = 53 + d by omega, twoPow_add] at hhigh
    refine ⟨m * twoPow f, ?_, ?_, ?_⟩
    · exact Nat.le_of_mul_le_mul_right (hq ▸ hlow) (twoPow_pos d)
    · exact Nat.lt_of_mul_lt_mul_right (hq ▸ hhigh)
    · rw [hd, Nat.add_sub_cancel_left, ← hq, show 52 - (52 + d) = 0 by omega]
      exact (Nat.mul_one _).symm
  · refine ⟨num * twoPow (52 - num.log2), ?_, ?_, ?_⟩
    · calc twoPow 52 = twoPow num.log2 * twoPow (52 - num.log2) := by rw [← twoPow_add]; congr 1; omega
        _ ≤ num * twoPow (52 - num.log2) := Nat.mul_le_mul_right _ hlow
    · calc num * twoPow (52 - num.log2) < twoPow (num.log2 + 1) * twoPow (52 - num.log2) :=
            Nat.mul_lt_mul_of_pos_right hhigh (twoPow_pos _)
        _ = twoPow 53 := by rw [← twoPow_add]; congr 1; omega
    · rw [show num.log2 - 52 = 0 by omega]
      exact Nat.mul_one _

lemma log2Quotient_one {num : Nat} (h : num ≠ 0) : Format.log2Quotient num 1 = num.log2 := by
  have hreached : 1 * twoPow (num.log2 - Nat.log2 1) ≤ num := by
    rw [Nat.one_mul]
    exact Nat.log2_self_le h
  have hone : Nat.log2 1 = 0 := rfl
  unfold Format.log2Quotient
  dsimp only
  rw [if_pos (by rwa [if_pos (by rw [hone]; exact Nat.zero_le _)]), hone]
  simp

/-- The bits of a number that needs no rounding. -/
lemma encodeQuotient_of_scaled {num q : Nat} (negative : Bool) (hpos : num ≠ 0) (hhigh : q < twoPow 53)
    (hscaled : q * twoPow (num.log2 - 52) = num * twoPow (52 - num.log2)) (hlog : num.log2 ≤ 1023) :
    binary64.encodeQuotient negative num 1 = binary64.signBit negative + ((num.log2 + 1022) * twoPow 52 + q) := by
  have hleast : binary64.least = -1074 := rfl
  have he : max (Format.log2Quotient num 1 - binary64.fraction) binary64.least = (num.log2 : ℤ) - 52 := by
    rw [log2Quotient_one hpos, hleast]
    change max ((num.log2 : ℤ) - 52) (-1074) = _
    omega
  have hround : (if 0 ≤ (num.log2 : ℤ) - 52 then roundHalfEven num (1 * twoPow ((num.log2 : ℤ) - 52).toNat)
      else roundHalfEven (num * twoPow (-((num.log2 : ℤ) - 52)).toNat) 1) = q := by
    split
    · rw [show ((num.log2 : ℤ) - 52).toNat = num.log2 - 52 by omega, Nat.one_mul]
      rw [show 52 - num.log2 = 0 by omega] at hscaled
      have hexact : q * twoPow (num.log2 - 52) = num := hscaled.trans (Nat.mul_one num)
      calc roundHalfEven num (twoPow (num.log2 - 52))
          = roundHalfEven (q * twoPow (num.log2 - 52)) (twoPow (num.log2 - 52)) := by rw [hexact]
        _ = q := roundHalfEven_of_exact (twoPow_pos _)
    · rw [show (-((num.log2 : ℤ) - 52)).toNat = 52 - num.log2 by omega, ← hscaled,
        show num.log2 - 52 = 0 by omega]
      exact roundHalfEven_of_exact Nat.one_pos
  unfold Format.encodeQuotient
  dsimp only
  rw [if_neg hpos, he, hleast, hround, show ((num.log2 : ℤ) - 52 - -1074).toNat = num.log2 + 1022 by omega]
  refine congrArg _ (Nat.min_eq_left ?_)
  change (num.log2 + 1022) * 4503599627370496 + q ≤ 9218868437227405312
  have h53 : twoPow 53 = 9007199254740992 := rfl
  omega

/-- The reading of bits that are put together from a sign, an exponent field and a significand. -/
lemma reading_of_bits {x : Double} {negative : Bool} {field q : Nat} (hlow : twoPow 52 ≤ q) (hhigh : q < twoPow 53)
    (hfield : field ≤ 2045) (hbits : x.bits.toNat = binary64.signBit negative + (field * twoPow 52 + q)) :
    x.reading = .finite negative q (field - 1074) := by
  have h52 : twoPow 52 = 4503599627370496 := rfl
  have h53 : twoPow 53 = 9007199254740992 := rfl
  have h63 : twoPow 63 = 9223372036854775808 := rfl
  rw [h52] at hlow hbits
  rw [h53] at hhigh
  have hparts : decide (9223372036854775808 ≤ x.bits.toNat) = negative ∧
      x.bits.toNat % 9223372036854775808 = field * 4503599627370496 + q := by
    cases negative with
    | false =>
      have hsign : binary64.signBit false = 0 := rfl
      refine ⟨decide_eq_false (by omega), by omega⟩
    | true =>
      have hsign : binary64.signBit true = 9223372036854775808 := rfl
      refine ⟨decide_eq_true (by omega), by omega⟩
  rw [reading_eq, h63, h52]
  dsimp only
  rw [hparts.1, hparts.2, if_neg (by omega), if_neg (by omega)]
  congr 1
  · omega
  · omega

/-- **The number nearest to an integer that is a number is that integer.** -/
theorem value?_ofInt {x : Double} {n : ℤ} (h : x.value? = some (n : ℚ)) : (ofInt n).value? = some (n : ℚ) := by
  rcases eq_or_ne n 0 with rfl | hn0
  · exact_mod_cast value?_zero
  obtain ⟨m, e, hm, he, hn⟩ := significand_of_value? h
  have hlog : n.natAbs.log2 ≤ 1023 := by
    have hlt : n.natAbs < twoPow 1024 :=
      calc n.natAbs = m * twoPow e := hn
        _ < twoPow 53 * twoPow e := Nat.mul_lt_mul_of_pos_right hm (twoPow_pos e)
        _ ≤ twoPow 53 * twoPow 971 := Nat.mul_le_mul_left _ (twoPow_mono he)
        _ = twoPow 1024 := (twoPow_add 53 971).symm
    exact log2_le_of_lt (Int.natAbs_ne_zero.2 hn0) hlt
  obtain ⟨q, hlow, hhigh, hscaled⟩ := exists_scaled hm hn (Int.natAbs_ne_zero.2 hn0)
  have hencode := encodeQuotient_of_scaled (n < 0) (Int.natAbs_ne_zero.2 hn0) hhigh hscaled hlog
  have hbits : (ofInt n).bits.toNat = binary64.signBit (n < 0) + ((n.natAbs.log2 + 1022) * twoPow 52 + q) := by
    rw [ofInt, ofQuotient, hencode]
    refine UInt64.toNat_ofNat_of_lt' ?_
    have h52 : twoPow 52 = 4503599627370496 := rfl
    have h53 : twoPow 53 = 9007199254740992 := rfl
    have hsign : binary64.signBit (n < 0) ≤ 9223372036854775808 := by
      cases decide (n < 0) <;> decide
    rw [h52, UInt64.size]
    omega
  have hexponent : ((n.natAbs.log2 + 1022 : Nat) : ℤ) - 1074 =
      ((n.natAbs.log2 - 52 : Nat) : ℤ) - ((52 - n.natAbs.log2 : Nat) : ℤ) := by omega
  have hvalue : (q * 2 ^ (((n.natAbs.log2 + 1022 : Nat) : ℤ) - 1074) : ℚ) = n.natAbs := by
    have hcast : (q * 2 ^ (n.natAbs.log2 - 52) : ℚ) = n.natAbs * 2 ^ (52 - n.natAbs.log2) := by
      rw [← cast_twoPow, ← cast_twoPow]
      exact_mod_cast hscaled
    rw [hexponent, zpow_sub₀ two_ne_zero, zpow_natCast, zpow_natCast, ← mul_div_assoc, hcast]
    exact mul_div_cancel_right₀ _ (by positivity)
  rw [value?, reading_of_bits hlow hhigh (by omega) hbits, Reading.value?, hvalue, Nat.cast_natAbs]
  by_cases hneg : n < 0
  · simp [hneg, abs_of_neg]
  · simp [hneg, abs_of_nonneg (not_lt.1 hneg)]

lemma towardZero_intCast (n : ℤ) : towardZero (n : ℚ) = n := by
  unfold towardZero
  split <;> simp

/-- Converting an integer that the type has gives it back. -/
theorem toInt_of_value? {x : Double} {k : IntKind} {n : ℤ} (h : x.value? = some (n : ℚ)) (hleast : k.least ≤ n)
    (hgreatest : n ≤ k.greatest) : x.toInt k = n := by
  have hrange := k.range_le
  have htruncate : x.truncate = n := by
    rw [truncate, saturate?_of_value? h, Option.getD_some, towardZero_intCast, min_eq_right (by omega),
      max_eq_right (by omega)]
  rw [toInt, htruncate]
  exact IntKind.wrap_of_range hleast hgreatest

end Double

end NativeBridge
