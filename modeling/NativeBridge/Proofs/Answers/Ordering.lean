import NativeBridge.Callback.Trampoline
import NativeBridge.Proofs.Native.Scalars

/-!
Comparisons that native code leaves to a script. The number that the script function answers becomes an integer of 32
bits: its integer part, no further than the ends. Larger answers give larger integers, and the integer has the sign of
the answer unless that is a fraction between -1 and 1.
-/

namespace NativeBridge

open Eff

/-! ### The integer part -/

lemma towardZero_mono : Monotone towardZero := by
  intro p q hpq
  unfold towardZero
  by_cases hp : p < 0
  · rw [if_pos hp]
    by_cases hq : q < 0
    · rw [if_pos hq]
      exact Int.ceil_mono hpq
    · rw [if_neg hq]
      have hbelow : ⌈p⌉ ≤ 0 := Int.ceil_le.2 (by exact_mod_cast hp.le)
      exact hbelow.trans (Int.floor_nonneg.2 (not_lt.1 hq))
  · rw [if_neg hp, if_neg (not_lt.2 ((not_lt.1 hp).trans hpq))]
    exact Int.floor_mono hpq

/-- The integer part is zero between -1 and 1, and has the sign of the number elsewhere. -/
lemma sign_towardZero (q : ℚ) : SignType.sign (towardZero q) = if -1 < q ∧ q < 1 then 0 else SignType.sign q := by
  unfold towardZero
  rcases lt_trichotomy q 0 with hq | rfl | hq
  · rw [if_pos hq]
    by_cases hone : -1 < q
    · have hzero : ⌈q⌉ = 0 := Int.ceil_eq_iff.2 ⟨by push_cast; linarith, by push_cast; exact hq.le⟩
      rw [if_pos ⟨hone, hq.trans one_pos⟩, hzero, sign_zero]
    · have hneg : ⌈q⌉ ≤ -1 := Int.ceil_le.2 (by push_cast; exact not_lt.1 hone)
      rw [if_neg fun h => hone h.1, sign_neg (hneg.trans_lt (by decide)), sign_neg hq]
  · simp
  · rw [if_neg hq.not_gt]
    by_cases hone : q < 1
    · have hzero : ⌊q⌋ = 0 := Int.floor_eq_iff.2 ⟨by push_cast; exact hq.le, by push_cast; linarith⟩
      rw [if_pos ⟨by linarith, hone⟩, hzero, sign_zero]
    · have hpos : 1 ≤ ⌊q⌋ := Int.le_floor.2 (by push_cast; exact not_lt.1 hone)
      rw [if_neg fun h => hone h.2, sign_pos (Int.one_pos.trans_le hpos), sign_pos hq]

/-! ### Clamping -/

section

variable {low high : ℤ}

lemma clamp_range (hlow : low ≤ high) (n : ℤ) : low ≤ clamp n low high ∧ clamp n low high ≤ high := by
  unfold clamp
  split_ifs <;> omega

lemma clamp_mono (hlow : low ≤ high) : Monotone (clamp · low high) := by
  intro m n hmn
  dsimp only [clamp]
  split_ifs <;> omega

lemma sign_clamp (hlow : low < 0) (hhigh : 0 < high) (n : ℤ) : SignType.sign (clamp n low high) = SignType.sign n := by
  unfold clamp
  split_ifs with hbelow habove
  · rw [sign_neg hlow, sign_neg (hbelow.trans hlow)]
  · rw [sign_pos hhigh, sign_pos (hhigh.trans habove)]
  · rfl

end

/-! ### Numbers -/

namespace Double

/-- The side of zero that a number is on; a NaN is on neither. -/
def sign (x : Double) : SignType := if x.less (ofInt 0) then -1 else if (ofInt 0).less x then 1 else 0

/-- A number between -1 and 1 that is not zero. -/
def IsFraction (x : Double) : Prop := x.sign ≠ 0 ∧ (ofInt (-1)).less x ∧ x.less (ofInt 1)

variable {x y : Double}

lemma truncate_eq (x : Double) : x.truncate = x.reading.clamped := by
  rw [truncate, x.saturate?_eq, Option.getD_some]

lemma isNaN_of_reading {negative : Bool} {payload : Nat} (h : x.reading = .nan negative payload) : x.isNaN = true := by
  simp [isNaN, h]

lemma value?_of_reading {negative : Bool} {m : Nat} {e : ℤ} (h : x.reading = .finite negative m e) :
    ∃ q : ℚ, x.value? = some q ∧ x.reading.clamped = max (-2 ^ 63) (min (2 ^ 64 - 1) (towardZero q)) := by
  refine ⟨_, by rw [value?, h, Reading.value?], ?_⟩
  rw [h, Reading.clamped]

lemma value?_one : (ofInt 1).value? = some 1 := by
  have h : (ofInt 1).reading = .finite false (twoPow 52) (-52) := by decide +kernel
  norm_num [value?, h, Reading.value?, cast_twoPow]

lemma value?_neg_one : (ofInt (-1)).value? = some (-1) := by
  have h : (ofInt (-1)).reading = .finite true (twoPow 52) (-52) := by decide +kernel
  norm_num [value?, h, Reading.value?, cast_twoPow]

lemma sign_of_value? {q : ℚ} (h : x.value? = some q) : x.sign = SignType.sign q := by
  unfold sign
  simp only [less_iff h value?_zero, less_iff value?_zero h]
  rcases lt_trichotomy q 0 with hq | rfl | hq
  · rw [if_pos hq, sign_neg hq]
  · simp
  · rw [if_neg hq.not_gt, if_pos hq, sign_pos hq]

lemma isFraction_of_value? {q : ℚ} (h : x.value? = some q) : x.IsFraction ↔ q ≠ 0 ∧ -1 < q ∧ q < 1 := by
  rw [IsFraction, sign_of_value? h, less_iff value?_neg_one h, less_iff h value?_one, sign_ne_zero]

lemma sign_of_isNaN (h : x.isNaN = true) : x.sign = 0 := by
  simp [sign, less, h]

/-- The integer part of a number has its sign unless the number is a fraction. -/
lemma sign_truncate_iff (x : Double) : SignType.sign x.truncate = x.sign ↔ ¬x.IsFraction := by
  rw [truncate_eq]
  cases hx : x.reading with
  | nan =>
    have hsign := sign_of_isNaN (isNaN_of_reading hx)
    simp [Reading.clamped, IsFraction, hsign]
  | infinite negative =>
    rw [eq_of_infinite hx]
    cases negative
    · refine iff_of_true (by decide +kernel) fun h => absurd h.2.2 (by decide +kernel)
    · refine iff_of_true (by decide +kernel) fun h => absurd h.2.1 (by decide +kernel)
  | finite =>
    obtain ⟨q, hq, hclamped⟩ := value?_of_reading hx
    have hsign : SignType.sign (max (-2 ^ 63) (min (2 ^ 64 - 1) (towardZero q))) = SignType.sign (towardZero q) := by
      rcases lt_trichotomy (towardZero q) 0 with h | h | h
      · rw [sign_neg h, sign_neg (by omega)]
      · rw [h]
        decide
      · rw [sign_pos h, sign_pos (by omega)]
    rw [← hx, hclamped, hsign, sign_towardZero, sign_of_value? hq, isFraction_of_value? hq]
    by_cases hbetween : -1 < q ∧ q < 1
    · rw [if_pos hbetween, eq_comm, sign_eq_zero_iff]
      tauto
    · rw [if_neg hbetween]
      tauto

lemma clamped_range (r : Reading) : -2 ^ 63 ≤ r.clamped ∧ r.clamped ≤ 2 ^ 64 - 1 := by
  cases r with
  | nan => simp [Reading.clamped]
  | infinite negative => cases negative <;> decide
  | finite => dsimp only [Reading.clamped]; omega

/-- Finite numbers have their places between those of the infinities. -/
lemma rank_of_value? {q : ℚ} (h : x.value? = some q) : -binary64.infinity < x.rank ∧ x.rank < binary64.infinity := by
  have hfinite := finite_of_value? h
  unfold rank
  dsimp only
  split <;> omega

lemma rank_of_infinite {negative : Bool} (h : x.reading = .infinite negative) :
    x.rank = if negative then -(binary64.infinity : ℤ) else binary64.infinity := by
  rw [eq_of_infinite h]
  cases negative <;> decide +kernel

/-- Only infinity is as great as infinity. -/
lemma reading_of_infinity_le (hx : x.reading = .infinite false) (hy : y.isNaN = false) (hrank : x.rank ≤ y.rank) :
    y.reading = .infinite false := by
  have hpos : 0 < binary64.infinity := by decide
  have hxr : x.rank = binary64.infinity := rank_of_infinite hx
  cases hread : y.reading with
  | nan => rw [isNaN_of_reading hread] at hy; cases hy
  | infinite negative =>
    cases negative with
    | false => rfl
    | true =>
      have hyr : y.rank = -(binary64.infinity : ℤ) := rank_of_infinite hread
      omega
  | finite =>
    obtain ⟨q, hq, -⟩ := value?_of_reading hread
    have hyr := (rank_of_value? hq).2
    omega

/-- The integer part grows with the number. -/
lemma truncate_mono (h : x.atMost y = true) : x.truncate ≤ y.truncate := by
  obtain ⟨⟨hxn, hyn⟩, hrank⟩ : (x.isNaN = false ∧ y.isNaN = false) ∧ x.rank ≤ y.rank := by simpa [atMost] using h
  rw [truncate_eq, truncate_eq]
  cases hx : x.reading with
  | nan => rw [isNaN_of_reading hx] at hxn; cases hxn
  | infinite negative =>
    cases negative with
    | true => exact (clamped_range y.reading).1
    | false => rw [reading_of_infinity_le hx hyn hrank]
  | finite =>
    obtain ⟨p, hp, hpc⟩ := value?_of_reading hx
    cases hy : y.reading with
    | nan => rw [isNaN_of_reading hy] at hyn; cases hyn
    | infinite negative =>
      cases negative with
      | true =>
        have hyr : y.rank = -(binary64.infinity : ℤ) := rank_of_infinite hy
        have hxr := (rank_of_value? hp).1
        omega
      | false => exact (clamped_range _).2
    | finite =>
      obtain ⟨q, hq, hqc⟩ := value?_of_reading hy
      have hparts := towardZero_mono ((atMost_iff hp hq).1 h)
      rw [← hx, ← hy, hpc, hqc]
      omega

end Double

/-! ### Comparisons -/

namespace Trampoline

variable {S : Sides}

/-- The closure behind an address, if it is alive. -/
lemma closureAt_eq_some {a : Address} {r : Except Error Closure} {w w' : World S} :
    closureAt a w = some (r, w') ↔ ∃ c, w.closures.lookup a = some c ∧ r = .ok c ∧ w = w' := by
  rw [closureAt, Closure.get?, bind_ok (bind_ok (get_apply w))]
  rcases w.closures.lookup a with _ | c <;> simp [eq_comm]

/-- What a script answers for two pointers becomes an ordering. -/
lemma compareFunc_apply (h : Host S) {a b data : Address} {c : Closure} {values : List Value} {v : Value}
    {w w₁ w₂ : World S} (hdata : data ≠ 0) (hc : w.closures.lookup data = some c)
    (hargs : convertArgs h (typesOf c) [pointerArg a, pointerArg b] w = some (.ok values, w₁))
    (hcall : c.call h values true w₁ = some (.ok (some v), w₂)) :
    compareFunc h a b data w = some (.ok (toOrdering v), w₂) := by
  have hanswer : Eff.attempt (convertArgs h (typesOf c) [pointerArg a, pointerArg b] >>= fun values =>
      c.call h values true) w = some (.ok (.ok (some v)), w₂) := by
    rw [attempt_apply, bind_ok hargs, hcall]
    rfl
  rw [compareFunc, if_neg hdata, bind_ok (closureAt_eq_some.2 ⟨c, hc, rfl, rfl⟩), request, bind_ok hanswer]
  rfl

/-- **Comparisons keep the sign of the answer unless it is a fraction.** -/
theorem comparison_keeps_sign_iff (h : Host S) {a b data : Address} {c : Closure} {values : List Value} {x : Double}
    {w w₁ w₂ : World S} (hdata : data ≠ 0) (hc : w.closures.lookup data = some c)
    (hargs : convertArgs h (typesOf c) [pointerArg a, pointerArg b] w = some (.ok values, w₁))
    (hcall : c.call h values true w₁ = some (.ok (some (.number x)), w₂)) :
    ∃ r, enter h .compareFunc { ints := [a, b, data] } w = some (.ok r, w₂) ∧
      IntKind.int32.ofWord r.int = toOrdering (.number x) ∧
      IntKind.int32.least ≤ toOrdering (.number x) ∧ toOrdering (.number x) ≤ IntKind.int32.greatest ∧
      (SignType.sign (toOrdering (.number x)) = x.sign ↔ ¬x.IsFraction) ∧
      ∀ y : Double, (x.atMost y → toOrdering (.number x) ≤ toOrdering (.number y)) ∧
        (y.atMost x → toOrdering (.number y) ≤ toOrdering (.number x)) := by
  have hends : IntKind.int32.least ≤ IntKind.int32.greatest := by decide
  have hmono {x y : Double} (h : x.atMost y) : toOrdering (.number x) ≤ toOrdering (.number y) :=
    clamp_mono hends (Double.truncate_mono h)
  obtain ⟨hleast, hgreatest⟩ := clamp_range hends x.truncate
  refine ⟨{ int := Width.w32.low (toOrdering (.number x)) }, ?_, Scalar.ofWord_toWord hleast hgreatest, hleast, hgreatest, ?_,
    fun y => ⟨hmono, hmono⟩⟩
  · change (compareFunc h a b data >>= _) w = _
    rw [bind_ok (compareFunc_apply h hdata hc hargs hcall)]
    rfl
  · rw [toOrdering, Double.toInt32Clamped, sign_clamp (by decide) (by decide), Double.sign_truncate_iff]

/-- Nothing stands on the other sides but a script that answers every call with one value. -/
def answeringHost (v : Value) : Host ⟨Unit, Unit, Unit, Unit⟩ where
  loader := .ok
  symbol := fun _ _ => .error []
  anySymbol := fun _ => none
  run := fun _ _ _ => Eff.stuck
  limit := 2
  script := fun _ _ => pure v
  answer := fun _ => Eff.stuck
  scriptTurn := Eff.stuck
  loopTurn := Eff.stuck

/-- A comparison that native code was given. -/
def comparison : Closure where
  function := some 1
  signature := ⟨.compareFunc, .call, none, none, none, none⟩
  refs := 1
  generation := some 0

def comparingWorld : World ⟨Unit, Unit, Unit, Unit⟩ :=
  { native := (), side := (), script := { channel := .inline }, closures := [(1024, comparison)] }

/-- A great negative answer is cut to the least integer. -/
theorem great_answer_keeps_sign :
    (Double.ofInt (-3000000000)).sign = -1 ∧ ∃ r w,
      enter (answeringHost (.ofInt (-3000000000))) .compareFunc { ints := [64, 80, 1024] } comparingWorld =
        some (.ok r, w) ∧ IntKind.int32.ofWord r.int = -2147483648 := by
  have hsign : (Double.ofInt (-3000000000)).sign = -1 := by decide +kernel
  have hvalue : toOrdering (.number (.ofInt (-3000000000))) = -2147483648 := by decide +kernel
  have hargs : convertArgs (answeringHost (.ofInt (-3000000000))) (typesOf comparison) [pointerArg 64, pointerArg 80]
      comparingWorld = some (.ok [.ofInt 64, .ofInt 80], comparingWorld) := rfl
  have hcall : ∃ w, comparison.call (answeringHost (.ofInt (-3000000000))) [.ofInt 64, .ofInt 80] true comparingWorld =
      some (.ok (some (.number (.ofInt (-3000000000)))), w) := ⟨_, rfl⟩
  have hdata : (1024 : Address) ≠ 0 := by decide
  obtain ⟨w, hcall⟩ := hcall
  obtain ⟨r, henter, hword, -⟩ :=
    comparison_keeps_sign_iff (answeringHost (.ofInt (-3000000000))) hdata rfl hargs hcall
  exact ⟨hsign, r, w, henter, hword.trans hvalue⟩

/-- **The sign of a fraction is lost.** The script answers a half, which is above zero, and native code gets zero. -/
theorem half_answers_equal :
    (Double.mk 0x3FE0000000000000).sign = 1 ∧ ∃ r w,
      enter (answeringHost (.number ⟨0x3FE0000000000000⟩)) .compareFunc { ints := [64, 80, 1024] } comparingWorld =
        some (.ok r, w) ∧ IntKind.int32.ofWord r.int = 0 := by
  refine ⟨by decide +kernel, _, _, rfl, by decide +kernel⟩

end Trampoline

end NativeBridge
