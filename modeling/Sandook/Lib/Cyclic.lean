import Mathlib.Data.Finset.Card
import Mathlib.Order.Interval.Finset.Nat
import Mathlib.Tactic.Ring

/-!
# Windows on a ring of `n` slots

A walk that starts at slot `s < n` and steps `i ↦ (i + 1) % n` visits `(s + i) % n` at its
`i`-th step. `ringDist n s x` is how many steps it takes to reach `x`. The walk's first `k`
slots are exactly the `x < n` with `ringDist n s x < k`, and for `k ≤ n` there are `k` of them.
-/

namespace Sandook.Lib

/-- The forward distance from slot `s` to slot `x` on a ring of `n` slots. -/
def ringDist (n s x : ℕ) : ℕ := (x + n - s) % n

variable {n s : ℕ}

theorem ringDist_lt (hn : 0 < n) (x : ℕ) : ringDist n s x < n :=
  Nat.mod_lt _ hn

/-- One step of the walk from the `i`-th slot is the `i + 1`-th. -/
theorem add_mod_succ_mod (i : ℕ) : ((s + i) % n + 1) % n = (s + (i + 1)) % n := by
  rw [Nat.add_mod, Nat.mod_mod, ← Nat.add_mod, Nat.add_assoc]

/-- The `i`-th slot of the walk is `i` steps away from its start. -/
theorem ringDist_add_mod {i : ℕ} (hs : s < n) (hi : i < n) : ringDist n s ((s + i) % n) = i := by
  unfold ringDist
  by_cases h : s + i < n
  · rw [Nat.mod_eq_of_lt h, show s + i + n - s = i + n by omega, Nat.add_mod_right,
      Nat.mod_eq_of_lt hi]
  · have h1 : (s + i) % n = s + i - n := by
      rw [Nat.mod_eq_sub_mod (by omega), Nat.mod_eq_of_lt (by omega)]
    rw [h1, show s + i - n + n - s = i by omega, Nat.mod_eq_of_lt hi]

/-- The slot `ringDist n s x` steps from `s` is `x`. -/
theorem add_ringDist_mod {x : ℕ} (hs : s < n) (hx : x < n) : (s + ringDist n s x) % n = x := by
  unfold ringDist
  by_cases h : s ≤ x
  · rw [show x + n - s = (x - s) + n by omega, Nat.add_mod_right,
      Nat.mod_eq_of_lt (show x - s < n by omega), show s + (x - s) = x by omega,
      Nat.mod_eq_of_lt hx]
  · rw [Nat.mod_eq_of_lt (show x + n - s < n by omega), show s + (x + n - s) = x + n by omega,
      Nat.add_mod_right, Nat.mod_eq_of_lt hx]

/-- The `j`-th slot of the walk is `x` iff `x` is `j` steps from the start. -/
theorem add_mod_eq_iff_ringDist {j x : ℕ} (hs : s < n) (hj : j < n) (hx : x < n) :
    (s + j) % n = x ↔ ringDist n s x = j := by
  constructor
  · rintro rfl
    exact ringDist_add_mod hs hj
  · rintro rfl
    exact add_ringDist_mod hs hx

/-- **The first `k` slots of the walk** are the slots less than `k` steps from its start. -/
theorem exists_add_mod_eq_iff {k x : ℕ} (hs : s < n) (hk : k ≤ n) (hx : x < n) :
    (∃ i < k, (s + i) % n = x) ↔ ringDist n s x < k := by
  constructor
  · rintro ⟨i, hi, rfl⟩
    rw [ringDist_add_mod hs (by omega)]
    exact hi
  · intro h
    exact ⟨ringDist n s x, h, add_ringDist_mod hs hx⟩

/-- **A window of `k ≤ n` slots holds `k` slots.** -/
theorem card_filter_ringDist_lt {k : ℕ} (hs : s < n) (hk : k ≤ n) :
    ((Finset.range n).filter fun x => ringDist n s x < k).card = k := by
  have himg : (Finset.range k).image (fun i => (s + i) % n) =
      (Finset.range n).filter fun x => ringDist n s x < k := by
    ext x
    simp only [Finset.mem_image, Finset.mem_range, Finset.mem_filter]
    constructor
    · rintro ⟨i, hi, rfl⟩
      exact ⟨Nat.mod_lt _ (by omega), by rw [ringDist_add_mod hs (by omega)]; exact hi⟩
    · rintro ⟨hx, hd⟩
      exact (exists_add_mod_eq_iff hs hk hx).mpr hd
  rw [← himg, Finset.card_image_of_injOn, Finset.card_range]
  intro i hi j hj hij
  have hi' : i < n := by simp only [Finset.coe_range, Set.mem_Iio] at hi; omega
  have hj' : j < n := by simp only [Finset.coe_range, Set.mem_Iio] at hj; omega
  have := congrArg (ringDist n s) hij
  simp only at this
  rwa [ringDist_add_mod hs hi', ringDist_add_mod hs hj'] at this

end Sandook.Lib
