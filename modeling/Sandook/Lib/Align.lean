import Mathlib.Tactic.Ring

/-!
# Alignment by masks

An address is rounded down to a multiple of `2^k` by clearing its low `k` bits,
`x & ~(2^k - 1)` in `w`-bit arithmetic, and rounded up by adding `2^k - 1` first. The rounded-up
address is the least multiple of `2^k` at or above `x`.

Results:
* `land_notLowBits`: inside `w` bits, clearing the low `k` bits is `x / 2^k * 2^k`.
* `alignUp_dvd`, `le_alignUp`, `alignUp_lt`: the rounded-up address is a multiple of `2^k`, at
  least `x`, and below `x + 2^k`.
-/

namespace Sandook.Lib

/-- `~(2^k - 1)` in `w`-bit arithmetic: the bits from `k` to `w - 1`. -/
def notLowBits (w k : ℕ) : ℕ := 2 ^ w - 1 - (2 ^ k - 1)

/-- `x` rounded up to a multiple of `2^k`. -/
def alignUp (x k : ℕ) : ℕ := (x + 2 ^ k - 1) / 2 ^ k * 2 ^ k

theorem notLowBits_eq {w k : ℕ} (hk : k ≤ w) : notLowBits w k = (2 ^ (w - k) - 1) <<< k := by
  have hpow : 2 ^ w = 2 ^ (w - k) * 2 ^ k := by rw [← Nat.pow_add, Nat.sub_add_cancel hk]
  have hk₁ : 1 ≤ 2 ^ k := Nat.one_le_two_pow
  have hwk₁ : 1 ≤ 2 ^ (w - k) := Nat.one_le_two_pow
  rw [notLowBits, Nat.shiftLeft_eq, Nat.sub_mul, Nat.one_mul, ← hpow]
  omega

/-- **Clearing the low `k` bits** of a `w`-bit value rounds it down to a multiple of `2^k`. -/
theorem land_notLowBits {x w k : ℕ} (hk : k ≤ w) (hx : x < 2 ^ w) :
    x &&& notLowBits w k = x / 2 ^ k * 2 ^ k := by
  apply Nat.eq_of_testBit_eq
  intro i
  rw [Nat.testBit_and, notLowBits_eq hk, ← Nat.shiftRight_eq_div_pow, ← Nat.shiftLeft_eq,
    Nat.testBit_shiftLeft, Nat.testBit_shiftLeft, Nat.testBit_shiftRight,
    Nat.testBit_two_pow_sub_one]
  by_cases hki : k ≤ i
  · -- at and above bit `k` the mask keeps what `x` has, which is nothing from bit `w` on
    rw [Nat.add_sub_cancel' hki]
    by_cases hiw : i < w
    · simp [hki, show i - k < w - k by omega]
    · have hbit : x.testBit i = false :=
        Nat.testBit_lt_two_pow (Nat.lt_of_lt_of_le hx (Nat.pow_le_pow_right (by decide) (by omega)))
      simp [hbit]
  · simp [hki]

theorem alignUp_dvd (x k : ℕ) : 2 ^ k ∣ alignUp x k := Nat.dvd_mul_left _ _

theorem le_alignUp (x k : ℕ) : x ≤ alignUp x k := by
  have h₁ := Nat.div_add_mod (x + 2 ^ k - 1) (2 ^ k)
  have h₂ := Nat.mod_lt (x + 2 ^ k - 1) (Nat.two_pow_pos k)
  have h₃ : 1 ≤ 2 ^ k := Nat.one_le_two_pow
  unfold alignUp
  rw [Nat.mul_comm] at h₁
  omega

theorem alignUp_lt (x k : ℕ) : alignUp x k < x + 2 ^ k := by
  have h₁ := Nat.div_mul_le_self (x + 2 ^ k - 1) (2 ^ k)
  have h₂ : 1 ≤ 2 ^ k := Nat.one_le_two_pow
  unfold alignUp
  omega

end Sandook.Lib
