import NativeBridge.Proofs.Number.Order

/-!
The conversion of floating-point numbers to integer types. Its guards keep every conversion to a 64-bit type within the
range of the type, and what it gives is the integer part, clamped to the 64-bit ranges, modulo the width.
-/

namespace NativeBridge

/-- The integer part of a number, toward zero. -/
def towardZero (q : ℚ) : ℤ := if q < 0 then ⌈q⌉ else ⌊q⌋

lemma towardZero_neg (q : ℚ) : towardZero (-q) = -towardZero q := by
  unfold towardZero
  rcases lt_trichotomy q 0 with hq | rfl | hq
  · rw [if_neg (by linarith), if_pos hq, Int.floor_neg]
  · simp
  · rw [if_pos (by linarith), if_neg (by linarith), Int.ceil_neg]

lemma towardZero_mul_twoPow (m : Nat) (e : Int) :
    towardZero (m * 2 ^ e) = ((if 0 ≤ e then m * twoPow e.toNat else m / twoPow (-e).toNat : Nat) : ℤ) := by
  have hpos : (0 : ℚ) ≤ m * 2 ^ e := by positivity
  rw [towardZero, if_neg (not_lt.2 hpos)]
  split
  · next he =>
    obtain ⟨k, rfl⟩ := Int.eq_ofNat_of_zero_le he
    have hint : (m * 2 ^ (k : ℤ) : ℚ) = ((m * twoPow k : Nat) : ℤ) := by
      rw [zpow_natCast, ← cast_twoPow]
      push_cast
      rfl
    rw [hint, Int.floor_intCast]
    rfl
  · next he =>
    obtain ⟨k, hk⟩ := Int.eq_ofNat_of_zero_le (show 0 ≤ -e by omega)
    obtain rfl : e = -k := by omega
    have hquot : (m * 2 ^ (-(k : ℤ)) : ℚ) = (m : ℚ) / (twoPow k : Nat) := by
      rw [zpow_neg, zpow_natCast, cast_twoPow, div_eq_mul_inv]
    rw [hquot, Rat.floor_natCast_div_natCast]
    simp

lemma Width.modulus_eq (w : Width) : (w.modulus : ℤ) = 2 * twoPow (w.bits - 1) := by
  cases w <;> rfl

lemma Width.modulus_pos (w : Width) : 0 < w.modulus := twoPow_pos _

namespace IntKind

/-- A value of the type, congruent modulo the width. -/
lemma wrap_range (k : IntKind) (m : ℤ) :
    k.least ≤ k.wrap m ∧ k.wrap m ≤ k.greatest ∧ k.wrap m ≡ m [ZMOD k.width.modulus] := by
  obtain ⟨width, signed⟩ := k
  cases signed with
  | false =>
    have hpos : (0 : ℤ) < width.modulus := Int.natCast_pos.2 width.modulus_pos
    exact ⟨Int.emod_nonneg _ hpos.ne', Int.le_sub_one_of_lt (Int.emod_lt_of_pos _ hpos), Int.mod_modEq _ _⟩
  | true =>
    have hhalf := width.modulus_eq
    have hlow := Int.le_bmod (x := m) width.modulus_pos
    have hhigh := Int.bmod_lt (x := m) width.modulus_pos
    refine ⟨?_, ?_, Int.bmod_emod⟩
    · change -(twoPow (width.bits - 1) : ℤ) ≤ m.bmod width.modulus
      omega
    · change m.bmod width.modulus ≤ (twoPow (width.bits - 1) : ℤ) - 1
      omega

/-- No type reaches beyond the 64-bit ranges. -/
lemma range_le (k : IntKind) : -2 ^ 63 ≤ k.least ∧ k.greatest ≤ 2 ^ 64 - 1 := by
  obtain ⟨width, signed⟩ := k
  cases width <;> cases signed <;> decide

/-- Wrapping gives the one value of the type that is congruent modulo the width. -/
theorem eq_wrap_iff (k : IntKind) (m n : ℤ) :
    n = k.wrap m ↔ k.least ≤ n ∧ n ≤ k.greatest ∧ n ≡ m [ZMOD k.width.modulus] := by
  obtain ⟨hlow, hhigh, hcong⟩ := k.wrap_range m
  constructor
  · rintro rfl
    exact ⟨hlow, hhigh, hcong⟩
  · rintro ⟨hleast, hgreatest, hmod⟩
    have hsize : k.greatest - k.least + 1 = k.width.modulus := by
      obtain ⟨width, signed⟩ := k
      cases width <;> cases signed <;> rfl
    have hzero := Int.eq_zero_of_abs_lt_dvd (hmod.trans hcong.symm).dvd (by rw [abs_lt]; omega)
    omega

/-- Wrapping leaves the values of the type as they are. -/
lemma wrap_of_range {k : IntKind} {n : ℤ} (hleast : k.least ≤ n) (hgreatest : n ≤ k.greatest) : k.wrap n = n :=
  ((k.eq_wrap_iff n n).2 ⟨hleast, hgreatest, Int.ModEq.refl n⟩).symm

/-- A value of the type is read from every word that is congruent to it. -/
lemma ofWord_of_modEq {k : IntKind} {word : Nat} {n : ℤ} (hleast : k.least ≤ n) (hgreatest : n ≤ k.greatest)
    (hword : word ≡ n [ZMOD k.width.modulus]) : k.ofWord word = n :=
  ((k.eq_wrap_iff _ n).2 ⟨hleast, hgreatest, hword.symm⟩).symm

/-- A value is congruent to its bits in a register, however it was extended. -/
lemma toRegister_modEq (k : IntKind) (n : ℤ) : k.toRegister n ≡ n [ZMOD k.width.modulus] := by
  have hpos : (0 : ℤ) < Width.w64.modulus := Int.natCast_pos.2 Width.w64.modulus_pos
  have hword : (k.toRegister n : ℤ) = k.wrap n % Width.w64.modulus := Int.toNat_of_nonneg (Int.emod_nonneg _ hpos.ne')
  have hdvd : (k.width.modulus : ℤ) ∣ Width.w64.modulus := by
    cases k.width <;> decide
  rw [hword]
  exact ((Int.mod_modEq _ _).of_dvd hdvd).trans (k.wrap_range n).2.2

end IntKind

namespace Double

variable {x : Double}

lemma integerPart?_of_value? {q : ℚ} (h : x.value? = some q) : x.integerPart? = some (towardZero q) := by
  unfold value? at h
  unfold integerPart?
  cases hx : x.reading with
  | nan => simp [hx, Reading.value?] at h
  | infinite => simp [hx, Reading.value?] at h
  | finite negative m e =>
    rw [hx] at h
    cases h
    cases negative with
    | false => simp [towardZero_mul_twoPow]
    | true => simp [towardZero_neg, towardZero_mul_twoPow]

/-- A conversion is defined exactly if the type has the integer part of the number. -/
lemma convert?_eq_some_iff {k : IntKind} {n : ℤ} :
    x.convert? k = some n ↔ x.integerPart? = some n ∧ k.least ≤ n ∧ n ≤ k.greatest := by
  simp [convert?, Option.filter_eq_some_iff]

lemma value?_zero : (ofInt 0).value? = some 0 := by
  have h : (ofInt 0).reading = .finite false 0 (-1074) := by decide +kernel
  simp [value?, h, Reading.value?]

lemma value?_least : (ofInt IntKind.int64.least).value? = some (-2 ^ 63) := by
  have h : (ofInt IntKind.int64.least).reading = .finite true (twoPow 52) 11 := by decide +kernel
  norm_num [value?, h, Reading.value?, cast_twoPow]

lemma value?_twoPow : (ofInt (twoPow 64)).value? = some (2 ^ 64) := by
  have h : (ofInt (twoPow 64)).reading = .finite false (twoPow 52) 12 := by decide +kernel
  norm_num [value?, h, Reading.value?, cast_twoPow]

lemma least_int64 : IntKind.int64.least = -2 ^ 63 := rfl

lemma greatest_int64 : IntKind.int64.greatest = 2 ^ 63 - 1 := rfl

lemma least_uint64 : IntKind.uint64.least = 0 := rfl

lemma greatest_uint64 : IntKind.uint64.greatest = 2 ^ 64 - 1 := rfl

/-- The guards leave to each conversion the numbers that it is defined for. -/
lemma saturate?_of_value? {q : ℚ} (h : x.value? = some q) :
    x.saturate? = some (max (-2 ^ 63) (min (2 ^ 64 - 1) (towardZero q))) := by
  have hpart := integerPart?_of_value? h
  unfold saturate?
  rw [if_neg (by simp [isNaN_of_value? h])]
  simp only [less_iff h value?_zero, atMost_iff h value?_least, atMost_iff value?_twoPow h]
  by_cases hneg : q < 0
  · have hzero : towardZero q = ⌈q⌉ := if_pos hneg
    have hnonpos : ⌈q⌉ ≤ 0 := Int.ceil_le.2 (by exact_mod_cast hneg.le)
    rw [if_pos hneg]
    by_cases hlow : q ≤ -2 ^ 63
    · have hbelow : ⌈q⌉ ≤ -2 ^ 63 := Int.ceil_le.2 (by push_cast; exact hlow)
      rw [if_pos hlow, least_int64, hzero, min_eq_right (by omega), max_eq_left hbelow]
    · have habove : -2 ^ 63 < ⌈q⌉ := Int.lt_ceil.2 (by push_cast; exact not_le.1 hlow)
      rw [if_neg hlow, convert?_eq_some_iff.2 ⟨hpart, ?_⟩]
      · rw [hzero, min_eq_right (by omega), max_eq_right habove.le]
      · rw [hzero, least_int64, greatest_int64]
        omega
  · have hzero : towardZero q = ⌊q⌋ := if_neg hneg
    have hnonneg : 0 ≤ ⌊q⌋ := Int.floor_nonneg.2 (not_lt.1 hneg)
    rw [if_neg hneg]
    by_cases hhigh : 2 ^ 64 ≤ q
    · have habove : 2 ^ 64 ≤ ⌊q⌋ := Int.le_floor.2 (by push_cast; exact hhigh)
      rw [if_pos hhigh, greatest_uint64, hzero, min_eq_left (by omega), max_eq_right (by omega)]
    · have hbelow : ⌊q⌋ < 2 ^ 64 := Int.floor_lt.2 (by push_cast; exact not_le.1 hhigh)
      rw [if_neg hhigh, convert?_eq_some_iff.2 ⟨hpart, ?_⟩]
      · rw [hzero, min_eq_right (by omega), max_eq_right (by omega)]
      · rw [hzero, least_uint64, greatest_uint64]
        omega

/-- There are two infinities. -/
lemma eq_of_infinite {negative : Bool} (h : x.reading = .infinite negative) :
    x = ⟨if negative then 0xFFF0000000000000 else 0x7FF0000000000000⟩ := by
  have h52 : twoPow 52 = 4503599627370496 := rfl
  have h63 : twoPow 63 = 9223372036854775808 := rfl
  obtain ⟨bits⟩ := x
  have hsize : bits.toNat < 18446744073709551616 := bits.toNat_lt
  rw [reading_eq] at h
  dsimp only at h
  rw [Double.mk.injEq, ← UInt64.toNat_inj]
  split at h
  · next hfield =>
    split at h
    · next hlow =>
      rw [h63, h52] at hfield hlow
      cases negative with
      | false =>
        have hsign := of_decide_eq_false (Reading.infinite.inj h)
        rw [h63] at hsign
        change bits.toNat = 9218868437227405312
        omega
      | true =>
        have hsign := of_decide_eq_true (Reading.infinite.inj h)
        rw [h63] at hsign
        change bits.toNat = 18442240474082181120
        omega
    · cases h
  · split at h <;> cases h

lemma saturate?_of_infinite {negative : Bool} (h : x.reading = .infinite negative) :
    x.saturate? = some (if negative then -2 ^ 63 else 2 ^ 64 - 1) := by
  rw [eq_of_infinite h]
  cases negative <;> decide +kernel

end Double

/-- What a reading is to give as an integer of 64 bits: the integer part, no further than the ends. -/
def Reading.clamped : Reading → ℤ
  | .nan _ _ => 0
  | .infinite negative => if negative then -2 ^ 63 else 2 ^ 64 - 1
  | .finite negative m e =>
    max (-2 ^ 63) (min (2 ^ 64 - 1) (towardZero (if negative then -(m * 2 ^ e) else m * 2 ^ e)))

lemma Double.saturate?_eq (x : Double) : x.saturate? = some x.reading.clamped := by
  cases hx : x.reading with
  | nan => exact if_pos (by simp [isNaN, hx])
  | infinite negative => exact saturate?_of_infinite hx
  | finite negative m e => exact saturate?_of_value? (by rw [value?, hx, Reading.value?])

/-- **Conversion to integers.** For every number, each conversion to a 64-bit type on the way is defined. A NaN gives
zero, and any other number the one value of the type that is congruent, modulo the width, to the integer part clamped to
the 64-bit ranges. -/
theorem conversion_is_congruent (x : Double) :
    (∃ n, x.saturate? = some n) ∧ ∀ k : IntKind,
      if x.isNaN = true then x.toInt k = 0
      else ∀ n, n = x.toInt k ↔ k.least ≤ n ∧ n ≤ k.greatest ∧ n ≡ x.reading.clamped [ZMOD 2 ^ k.width.bits] := by
  refine ⟨⟨_, x.saturate?_eq⟩, fun k => ?_⟩
  have htruncate : x.truncate = x.reading.clamped := by rw [Double.truncate, x.saturate?_eq, Option.getD_some]
  rw [Double.toInt, htruncate]
  split
  · next hnan =>
    have hzero : x.reading.clamped = 0 := Option.some.inj (x.saturate?_eq.symm.trans (if_pos hnan))
    rw [hzero]
    simp [IntKind.wrap]
  · intro n
    have hmodulus : (k.width.modulus : ℤ) = 2 ^ k.width.bits := Nat.cast_pow 2 _
    rw [k.eq_wrap_iff, hmodulus]

end NativeBridge
