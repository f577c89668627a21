import Mathlib.Data.Int.Log
import Mathlib.Data.Rat.Floor
import Mathlib.Tactic.Linarith
import Mathlib.Tactic.Positivity
import Mathlib.Tactic.Ring

/-!
# Binary64 rounding of exact values

A finite IEEE 754 binary64 value is `m * 2^q` with an integer significand `|m| < 2^53` and
`q ≥ -1074`. An operation whose exact result `x` stays below the overflow threshold returns the
double nearest `x`, ties to even (`round x`): `x` is divided by the spacing `2^(quantumExp x)` of
the doubles around it, rounded to an integer and multiplied back. The conversion of an integer,
a quotient and a product of doubles are each `round` of the exact result.

`mulDiv a b d` is `a * (b / d)` computed in doubles from three naturals, the shape of a linear
interpolation that converts the span `a`, the offset `b` and the width `d` and rounds the quotient
and the product.

Results:
* `round_natCast`: a natural below `2^53` converts exactly.
* `round_mono`: rounding is monotone on the non-negative values.
* `abs_round_sub_le`: in the normal range, the error of one rounding is at most `x / 2^53`.
* `abs_mulDiv_sub_lt`: below `2^53`, the two roundings of `mulDiv a b d` stay within `1 / d` of
  `a * b / d` when `a * b < 2^51`; so its truncation is the floor of `a * b / d`, or one less when
  `d` divides `a * b` (`floor_mulDiv_le`, `le_floor_mulDiv_add_one`, `floor_mulDiv_of_not_dvd`).
* `mulDiv_mono`, `mulDiv_le`: it grows with `b`, and stays at most `a` while `b ≤ d`.
-/

namespace Sandook.Lib.Binary64

/-- The bits of the significand after its leading one. -/
def fractionBits : ℕ := 52

/-- The exponent of the least normal double. -/
def emin : ℤ := -1022

/-- The exponent of the spacing of the doubles around `x`. -/
def quantumExp (x : ℚ) : ℤ := max emin (Int.log 2 |x|) - fractionBits

/-- The integer nearest `x`, ties to the even one. -/
def roundEven (x : ℚ) : ℤ :=
  let k := ⌊x⌋
  if x - k < 1 / 2 then k else if 1 / 2 < x - k then k + 1 else k + k % 2

/-- The double nearest `x`, ties to even, for `|x|` below the overflow threshold. -/
def round (x : ℚ) : ℚ := roundEven (x / 2 ^ quantumExp x) * 2 ^ quantumExp x

/-- `a * (b / d)` in doubles, from the naturals `a`, `b` and `d`. -/
def mulDiv (a b d : ℕ) : ℚ := round (round a * round (round b / round d))

/-! ## Rounding to an integer -/

@[simp] theorem roundEven_intCast (k : ℤ) : roundEven k = k := by
  simp [roundEven]

theorem floor_le_roundEven (x : ℚ) : ⌊x⌋ ≤ roundEven x := by
  dsimp only [roundEven]
  split_ifs <;> omega

theorem roundEven_le_floor_add_one (x : ℚ) : roundEven x ≤ ⌊x⌋ + 1 := by
  dsimp only [roundEven]
  split_ifs <;> omega

theorem abs_roundEven_sub_le (x : ℚ) : |(roundEven x : ℚ) - x| ≤ 1 / 2 := by
  have hlo := Int.floor_le x
  have hhi := Int.lt_floor_add_one x
  have hm0 : (0 : ℚ) ≤ (⌊x⌋ % 2 : ℤ) := by
    exact_mod_cast Int.emod_nonneg ⌊x⌋ (by norm_num : (2 : ℤ) ≠ 0)
  have hm1 : ((⌊x⌋ % 2 : ℤ) : ℚ) ≤ 1 := by
    exact_mod_cast (show ⌊x⌋ % 2 ≤ 1 by omega)
  dsimp only [roundEven]
  split_ifs <;> push_cast <;> rw [abs_le] <;> constructor <;> linarith

theorem roundEven_mono {x y : ℚ} (h : x ≤ y) : roundEven x ≤ roundEven y := by
  rcases (Int.floor_mono h).lt_or_eq with hlt | heq
  · calc roundEven x ≤ ⌊x⌋ + 1 := roundEven_le_floor_add_one x
      _ ≤ ⌊y⌋ := hlt
      _ ≤ roundEven y := floor_le_roundEven y
  · -- one integer part: the fractional parts are ordered, and so are the three outcomes
    dsimp only [roundEven]
    simp only [heq]
    split_ifs <;> first | omega | (exfalso; linarith)

/-! ## The spacing -/

theorem quantumExp_of_nonneg {x : ℚ} (hx : 0 ≤ x) :
    quantumExp x = max emin (Int.log 2 x) - fractionBits := by
  rw [quantumExp, abs_of_nonneg hx]

theorem zpow_quantumExp_pos (x : ℚ) : (0 : ℚ) < 2 ^ quantumExp x := zpow_pos (by norm_num) _

/-- Below the next power of two, a non-negative `x` is less than `2^53` spacings. -/
theorem div_zpow_quantumExp_lt {x : ℚ} (hx : 0 ≤ x) : x / 2 ^ quantumExp x < 2 ^ 53 := by
  have hq := zpow_quantumExp_pos x
  rw [div_lt_iff₀ hq]
  have hnext : x < (2 : ℚ) ^ (Int.log 2 x + 1) := by
    exact_mod_cast Int.lt_zpow_succ_log_self (by norm_num : 1 < 2) x
  have hle : (2 : ℚ) ^ (Int.log 2 x + 1) ≤ 2 ^ (quantumExp x + 53) := by
    refine zpow_le_zpow_right₀ (by norm_num) ?_
    rw [quantumExp_of_nonneg hx, fractionBits]
    omega
  calc x < 2 ^ (quantumExp x + 53) := hnext.trans_le hle
    _ = 2 ^ 53 * 2 ^ quantumExp x := by
      rw [zpow_add₀ (by norm_num), mul_comm]
      norm_num

/-- In the normal range, `x` is at least `2^52` spacings. -/
theorem le_div_zpow_quantumExp {x : ℚ} (hx : 0 < x) (hn : emin ≤ Int.log 2 x) :
    2 ^ 52 ≤ x / 2 ^ quantumExp x := by
  have hq : quantumExp x = Int.log 2 x - 52 := by
    rw [quantumExp_of_nonneg hx.le, fractionBits]
    omega
  rw [le_div_iff₀ (zpow_quantumExp_pos x), hq, zpow_sub₀ (by norm_num)]
  have hlog : (2 : ℚ) ^ Int.log 2 x ≤ x := by
    exact_mod_cast Int.zpow_log_le_self (by norm_num : 1 < 2) hx
  calc (2 : ℚ) ^ 52 * (2 ^ Int.log 2 x / 2 ^ (52 : ℤ)) = 2 ^ Int.log 2 x := by
        rw [zpow_ofNat]
        field_simp
    _ ≤ x := hlog

/-! ## Rounding to a double -/

@[simp] theorem round_zero : round 0 = 0 := by
  have h := roundEven_intCast 0
  simp only [Int.cast_zero] at h
  simp [round, h]

theorem round_nonneg {x : ℚ} (hx : 0 ≤ x) : 0 ≤ round x := by
  have hs : 0 ≤ roundEven (x / 2 ^ quantumExp x) :=
    (Int.floor_nonneg.mpr (div_nonneg hx (zpow_quantumExp_pos x).le)).trans
      (floor_le_roundEven _)
  unfold round
  exact mul_nonneg (by exact_mod_cast hs) (zpow_quantumExp_pos x).le

/-- A whole number of spacings is a double. -/
theorem round_eq_self {x : ℚ} (m : ℤ) (hx : x = m * 2 ^ quantumExp x) : round x = x := by
  have hdiv : x / 2 ^ quantumExp x = m := by
    rw [div_eq_iff (zpow_quantumExp_pos x).ne']
    exact hx
  unfold round
  rw [hdiv, roundEven_intCast]
  exact hx.symm

/-- **A natural below `2^53` converts exactly.** -/
theorem round_natCast {n : ℕ} (hn : n < 2 ^ 53) : round n = n := by
  rcases Nat.eq_zero_or_pos n with rfl | hpos
  · simp
  have hlog : Nat.log 2 n < 53 := Nat.log_lt_of_lt_pow (by omega) hn
  have hq : quantumExp n = (Nat.log 2 n : ℤ) - 52 := by
    rw [quantumExp_of_nonneg (Nat.cast_nonneg n), Int.log_natCast, fractionBits, emin]
    omega
  -- the spacing at `n` is `2^(log n - 52) ≤ 1`, so `n` is `n * 2^(52 - log n)` spacings
  refine round_eq_self ((n * 2 ^ (52 - Nat.log 2 n) : ℕ) : ℤ) ?_
  rw [hq]
  have hexp : (((52 - Nat.log 2 n : ℕ) : ℤ) + ((Nat.log 2 n : ℤ) - 52)) = 0 := by omega
  push_cast
  rw [mul_assoc, ← zpow_natCast, ← zpow_add₀ (by norm_num), hexp, zpow_zero, mul_one]

theorem round_one : round 1 = 1 := by
  exact_mod_cast round_natCast (n := 1) (by norm_num)

theorem round_le_zpow {x : ℚ} (hx : 0 ≤ x) : round x ≤ 2 ^ (quantumExp x + 53) := by
  have hq := zpow_quantumExp_pos x
  have hs : roundEven (x / 2 ^ quantumExp x) ≤ 2 ^ 53 := by
    have hfl : ⌊x / 2 ^ quantumExp x⌋ < 2 ^ 53 := by
      exact_mod_cast Int.floor_lt.mpr (by exact_mod_cast div_zpow_quantumExp_lt hx)
    have := roundEven_le_floor_add_one (x / 2 ^ quantumExp x)
    omega
  unfold round
  calc (roundEven (x / 2 ^ quantumExp x) : ℚ) * 2 ^ quantumExp x ≤ 2 ^ 53 * 2 ^ quantumExp x :=
        mul_le_mul_of_nonneg_right (by exact_mod_cast hs) hq.le
    _ = 2 ^ (quantumExp x + 53) := by
      rw [zpow_add₀ (by norm_num), mul_comm]
      norm_num

theorem zpow_log_le_round {x : ℚ} (hx : 0 < x) (hn : emin ≤ Int.log 2 x) :
    2 ^ Int.log 2 x ≤ round x := by
  have hq := zpow_quantumExp_pos x
  have hs : 2 ^ 52 ≤ roundEven (x / 2 ^ quantumExp x) := by
    have hfl : 2 ^ 52 ≤ ⌊x / 2 ^ quantumExp x⌋ :=
      Int.le_floor.mpr (by exact_mod_cast le_div_zpow_quantumExp hx hn)
    exact hfl.trans (floor_le_roundEven _)
  have hexp : Int.log 2 x = quantumExp x + 52 := by
    rw [quantumExp_of_nonneg hx.le, fractionBits]
    omega
  unfold round
  calc (2 : ℚ) ^ Int.log 2 x = 2 ^ 52 * 2 ^ quantumExp x := by
        rw [hexp, zpow_add₀ (by norm_num), mul_comm]
        norm_num
    _ ≤ (roundEven (x / 2 ^ quantumExp x) : ℚ) * 2 ^ quantumExp x :=
        mul_le_mul_of_nonneg_right (by exact_mod_cast hs) hq.le

/-- **Rounding is monotone on the non-negative values.** -/
theorem round_mono {x y : ℚ} (hx : 0 ≤ x) (h : x ≤ y) : round x ≤ round y := by
  rcases hx.eq_or_lt with rfl | hx
  · rw [round_zero]
    exact round_nonneg h
  have hy : 0 < y := hx.trans_le h
  have hexp : quantumExp x ≤ quantumExp y := by
    rw [quantumExp_of_nonneg hx.le, quantumExp_of_nonneg hy.le]
    have := Int.log_mono_right (b := 2) hx h
    omega
  rcases hexp.lt_or_eq with hlt | heq
  · -- `y` lies in a higher binade, which starts above every double of `x`'s
    have hn : emin ≤ Int.log 2 y ∧ quantumExp x + 53 ≤ Int.log 2 y := by
      rw [quantumExp_of_nonneg hy.le] at hlt
      have := quantumExp_of_nonneg hx.le
      rw [fractionBits] at hlt this
      omega
    calc round x ≤ 2 ^ (quantumExp x + 53) := round_le_zpow hx.le
      _ ≤ 2 ^ Int.log 2 y := zpow_le_zpow_right₀ (by norm_num) hn.2
      _ ≤ round y := zpow_log_le_round hy hn.1
  · -- one spacing: the scaled values are ordered, and so are their roundings
    have hq := zpow_quantumExp_pos y
    unfold round
    rw [heq]
    refine mul_le_mul_of_nonneg_right ?_ hq.le
    exact_mod_cast roundEven_mono (div_le_div_of_nonneg_right h hq.le)

/-- **One rounding errs by at most `x / 2^53`** in the normal range. -/
theorem abs_round_sub_le {x : ℚ} (hx : 0 < x) (hn : (2 : ℚ) ^ emin ≤ x) :
    |round x - x| ≤ x / 2 ^ 53 := by
  have hlog : emin ≤ Int.log 2 x := by
    refine (Int.zpow_le_iff_le_log (by norm_num : 1 < 2) hx).mp ?_
    exact_mod_cast hn
  have hq := zpow_quantumExp_pos x
  have hexp : quantumExp x = Int.log 2 x - 52 := by
    rw [quantumExp_of_nonneg hx.le, fractionBits]
    omega
  have herr : round x - x =
      ((roundEven (x / 2 ^ quantumExp x) : ℚ) - x / 2 ^ quantumExp x) * 2 ^ quantumExp x := by
    unfold round
    field_simp
  have hpow : (2 : ℚ) ^ Int.log 2 x ≤ x := by
    exact_mod_cast Int.zpow_log_le_self (by norm_num : 1 < 2) hx
  rw [herr, abs_mul, abs_of_pos hq]
  calc |(roundEven (x / 2 ^ quantumExp x) : ℚ) - x / 2 ^ quantumExp x| * 2 ^ quantumExp x
      ≤ 1 / 2 * 2 ^ quantumExp x := mul_le_mul_of_nonneg_right (abs_roundEven_sub_le _) hq.le
    _ = 2 ^ Int.log 2 x / 2 ^ 53 := by
      rw [hexp, zpow_sub₀ (by norm_num), zpow_ofNat]
      ring
    _ ≤ x / 2 ^ 53 := div_le_div_of_nonneg_right hpow (by positivity)

/-! ## A product of a rounded quotient -/

theorem mulDiv_eq {a b d : ℕ} (ha : a < 2 ^ 53) (hb : b < 2 ^ 53) (hd : d < 2 ^ 53) :
    mulDiv a b d = round (a * round (b / d)) := by
  rw [mulDiv, round_natCast ha, round_natCast hb, round_natCast hd]

theorem mulDiv_nonneg (a b d : ℕ) : 0 ≤ mulDiv a b d :=
  round_nonneg (mul_nonneg (round_nonneg (Nat.cast_nonneg a))
    (round_nonneg (div_nonneg (round_nonneg (Nat.cast_nonneg b))
      (round_nonneg (Nat.cast_nonneg d)))))

/-- `2^emin` lies below every value the interpolation rounds. -/
theorem zpow_emin_le_inv : (2 : ℚ) ^ emin ≤ 1 / 2 ^ 54 := by
  rw [one_div, ← zpow_natCast, ← zpow_neg]
  exact zpow_le_zpow_right₀ (by norm_num) (by rw [emin]; omega)

section MulDiv

variable {a b d : ℕ} (ha : a < 2 ^ 53) (hd : d < 2 ^ 53)
include ha hd

/-- The quotient `b / d ≤ 1` rounds to at most `1`, so the product to at most `a`. -/
theorem mulDiv_le (hbd : b ≤ d) : mulDiv a b d ≤ a := by
  rw [mulDiv_eq ha (hbd.trans_lt hd) hd]
  have hq : round (b / d) ≤ 1 := by
    rw [← round_one]
    exact round_mono (by positivity) (div_le_one_of_le₀ (by exact_mod_cast hbd) (by positivity))
  have hprod : (a : ℚ) * round (b / d) ≤ a :=
    mul_le_of_le_one_right (Nat.cast_nonneg a) hq
  calc round (a * round (b / d)) ≤ round a :=
        round_mono (mul_nonneg (Nat.cast_nonneg a) (round_nonneg (by positivity))) hprod
    _ = a := round_natCast ha

theorem mulDiv_mono {b₁ b₂ : ℕ} (hb : b₁ ≤ b₂) (hb₂ : b₂ < 2 ^ 53) :
    mulDiv a b₁ d ≤ mulDiv a b₂ d := by
  rw [mulDiv_eq ha (hb.trans_lt hb₂) hd, mulDiv_eq ha hb₂ hd]
  have hq : round (b₁ / d) ≤ round (b₂ / d) :=
    round_mono (by positivity) (div_le_div_of_nonneg_right (by exact_mod_cast hb) (by positivity))
  exact round_mono (mul_nonneg (Nat.cast_nonneg a) (round_nonneg (by positivity)))
    (mul_le_mul_of_nonneg_left hq (Nat.cast_nonneg a))

theorem floor_mulDiv_le_self (hbd : b ≤ d) : ⌊mulDiv a b d⌋₊ ≤ a :=
  Nat.floor_le_of_le (mulDiv_le ha hd hbd)

theorem floor_mulDiv_mono {b₁ b₂ : ℕ} (hb : b₁ ≤ b₂) (hb₂ : b₂ < 2 ^ 53) :
    ⌊mulDiv a b₁ d⌋₊ ≤ ⌊mulDiv a b₂ d⌋₊ :=
  Nat.floor_le_floor (mulDiv_mono ha hd hb hb₂)

/-- **The two roundings of `mulDiv a b d` stay within `1 / d` of `a * b / d`** when
`a * b < 2^51`: each errs by a `2^-53` share of its value. -/
theorem abs_mulDiv_sub_lt (hbd : b ≤ d) (hd0 : 0 < d) (hab : a * b < 2 ^ 51) :
    |mulDiv a b d - a * b / d| < 1 / d := by
  have hd' : (0 : ℚ) < d := by exact_mod_cast hd0
  rw [mulDiv_eq ha (hbd.trans_lt hd) hd]
  rcases Nat.eq_zero_or_pos a with rfl | ha0
  · simpa using hd'
  rcases Nat.eq_zero_or_pos b with rfl | hb0
  · simpa using hd'
  -- the quotient, at least `1 / d > 2^-53`, errs by at most `x₁ / 2^53`
  set x₁ : ℚ := b / d with hx₁
  have hx₁lo : 1 / 2 ^ 53 ≤ x₁ := by
    rw [hx₁, div_le_div_iff₀ (by positivity) hd']
    have : (d : ℚ) ≤ 2 ^ 53 := by exact_mod_cast hd.le
    have : (1 : ℚ) ≤ b := by exact_mod_cast hb0
    nlinarith
  have he₁ : |round x₁ - x₁| ≤ x₁ / 2 ^ 53 :=
    abs_round_sub_le (by positivity) (zpow_emin_le_inv.trans (hx₁lo.trans' (by norm_num)))
  -- the product `x₂`, at least the rounded quotient, errs by at most `x₂ / 2^53`
  set x₂ : ℚ := a * round x₁ with hx₂
  have hx₂lo : 1 / 2 ^ 54 ≤ x₂ := by
    have hlo : x₁ - x₁ / 2 ^ 53 ≤ round x₁ := by linarith [abs_le.mp he₁]
    have ha1 : (1 : ℚ) ≤ a := by exact_mod_cast ha0
    have hr : 1 / 2 ^ 54 ≤ round x₁ := by linarith
    nlinarith [round_nonneg (show (0 : ℚ) ≤ x₁ by positivity)]
  have he₂ : |round x₂ - x₂| ≤ x₂ / 2 ^ 53 :=
    abs_round_sub_le (by linarith [show (0 : ℚ) < 1 / 2 ^ 54 by positivity])
      (zpow_emin_le_inv.trans hx₂lo)
  -- the product of the exact quotient is the exact interpolation `v`
  set v : ℚ := a * b / d with hv
  have hv' : v = a * x₁ := by rw [hv, hx₁, mul_div_assoc]
  have ha' : (0 : ℚ) ≤ a := Nat.cast_nonneg a
  have hdiff : |x₂ - v| ≤ v / 2 ^ 53 := by
    rw [hx₂, hv', ← mul_sub, abs_mul, abs_of_nonneg ha', mul_div_assoc]
    exact mul_le_mul_of_nonneg_left he₁ ha'
  have hv0 : 0 ≤ v := by positivity
  have hx₂v : x₂ ≤ v + v / 2 ^ 53 := by linarith [abs_le.mp hdiff]
  -- two shares of `2^-53` and their product stay below `2^-51`, and `v * 2^-51 < 1 / d`
  have htot : |round x₂ - v| ≤ v / 2 ^ 51 := by
    calc |round x₂ - v| = |(round x₂ - x₂) + (x₂ - v)| := by ring_nf
      _ ≤ |round x₂ - x₂| + |x₂ - v| := abs_add_le _ _
      _ ≤ (v + v / 2 ^ 53) / 2 ^ 53 + v / 2 ^ 53 := by
        have : x₂ / 2 ^ 53 ≤ (v + v / 2 ^ 53) / 2 ^ 53 :=
          div_le_div_of_nonneg_right hx₂v (by positivity)
        linarith
      _ ≤ v / 2 ^ 51 := by linarith
  calc |round x₂ - v| ≤ v / 2 ^ 51 := htot
    _ < 1 / d := by
      rw [div_lt_div_iff₀ (by positivity) hd']
      have hvd : v * d = a * b := by
        rw [hv, div_mul_cancel₀ _ hd'.ne']
      have hab' : ((a * b : ℕ) : ℚ) < 2 ^ 51 := by exact_mod_cast hab
      push_cast at hab'
      linarith

variable (hbd : b ≤ d) (hd0 : 0 < d) (hab : a * b < 2 ^ 51)
include hbd hd0 hab

/-- **The truncation is at most the floor** of `a * b / d`. -/
theorem floor_mulDiv_le : ⌊mulDiv a b d⌋₊ ≤ a * b / d := by
  have hd' : (0 : ℚ) < d := by exact_mod_cast hd0
  have herr := abs_mulDiv_sub_lt ha hd hbd hd0 hab
  have hlt : a * b < d * (a * b / d + 1) := by
    have h1 := Nat.div_add_mod (a * b) d
    have h2 := Nat.mod_lt (a * b) hd0
    rw [Nat.mul_add, mul_one]
    linarith
  have hup : mulDiv a b d < (a * b / d + 1 : ℕ) := by
    have hcast : ((a * b : ℕ) : ℚ) + 1 ≤ d * ((a * b / d + 1 : ℕ) : ℚ) := by
      exact_mod_cast hlt
    calc mulDiv a b d < a * b / d + 1 / d := by linarith [abs_lt.mp herr]
      _ = (((a * b : ℕ) : ℚ) + 1) / d := by push_cast; ring
      _ ≤ ((a * b / d + 1 : ℕ) : ℚ) := by rw [div_le_iff₀ hd']; linarith
  exact Nat.lt_succ_iff.mp ((Nat.floor_lt (mulDiv_nonneg a b d)).mpr hup)

/-- **The truncation is at least the floor of `a * b / d` less one.** -/
theorem le_floor_mulDiv_add_one : a * b / d ≤ ⌊mulDiv a b d⌋₊ + 1 := by
  have hd' : (0 : ℚ) < d := by exact_mod_cast hd0
  have herr := abs_mulDiv_sub_lt ha hd hbd hd0 hab
  have hle : ((a * b / d : ℕ) : ℚ) ≤ a * b / d := by
    rw [le_div_iff₀ hd']
    exact_mod_cast Nat.div_mul_le_self (a * b) d
  have hinv : 1 / (d : ℚ) ≤ 1 := by
    rw [div_le_one hd']
    exact_mod_cast hd0
  rcases Nat.eq_zero_or_pos (a * b / d) with h0 | hpos
  · omega
  have hlo : ((a * b / d - 1 : ℕ) : ℚ) ≤ mulDiv a b d := by
    rw [Nat.cast_sub hpos]
    push_cast
    linarith [abs_lt.mp herr]
  have := Nat.le_floor hlo
  omega

/-- The one-less case: `22 * (15 / 22)` rounds below `15`. -/
example : ⌊mulDiv 22 15 22⌋₊ = 14 ∧ 22 * 15 / 22 = 15 := by decide +kernel

/-- **Away from a whole value, the truncation is the floor** of `a * b / d`. -/
theorem floor_mulDiv_of_not_dvd (hndvd : ¬d ∣ a * b) : ⌊mulDiv a b d⌋₊ = a * b / d := by
  have hd' : (0 : ℚ) < d := by exact_mod_cast hd0
  have herr := abs_mulDiv_sub_lt ha hd hbd hd0 hab
  -- `a * b` is at least one past a multiple of `d`
  have hrem : d * (a * b / d) + 1 ≤ a * b := by
    have hmod := Nat.div_add_mod (a * b) d
    have : a * b % d ≠ 0 := fun h => hndvd (Nat.dvd_of_mod_eq_zero h)
    omega
  have hlo : ((a * b / d : ℕ) : ℚ) ≤ mulDiv a b d := by
    have hcast : (d : ℚ) * ((a * b / d : ℕ) : ℚ) + 1 ≤ ((a * b : ℕ) : ℚ) := by
      exact_mod_cast hrem
    calc ((a * b / d : ℕ) : ℚ) ≤ (((a * b : ℕ) : ℚ) - 1) / d := by
          rw [le_div_iff₀ hd']
          linarith
      _ = a * b / d - 1 / d := by push_cast; ring
      _ ≤ mulDiv a b d := by linarith [abs_lt.mp herr]
  exact le_antisymm (floor_mulDiv_le ha hd hbd hd0 hab) (Nat.le_floor hlo)

end MulDiv

end Sandook.Lib.Binary64
