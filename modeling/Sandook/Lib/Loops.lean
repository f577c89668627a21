import Mathlib.Data.List.Basic

/-!
# Invariants of loops that may not return

A `for` loop whose body may fail to return is a `List.foldlM` in `Option`: `none` is a loop
that never returns. The rule here is the usual one: an invariant that holds before the loop and
that each iteration carries from one index to the next holds when the loop returns.

Two nested loops `for (t = 0; t < m; t++) for (i = 0; i < k; i++)` visit `t * k + i` in order:
the loop over the concatenated index lists is the nested loop.

A scan of slots `1` to `m` for the first slot with some property, upwards or downwards, is a
`List.find?` over the indices it visits. When the slots that have the property are those past a
boundary `n` (or those up to it), both scans find the boundary.

Results:
* `foldlM_range_invariant`: the rule for `for (i = 0; i < n; i++)`.
* `foldlM_range_total`: the rule for such a loop that returns, each iteration returning.
* `foldlM_flatMap`: a loop over a concatenation of index lists is a nested loop.
* `flatMap_range_range'`: the indices `t * k + i` of two nested loops, in order.
* `find?_range'_of_boundary`, `find?_reverse_range'_of_boundary`: the upward scan finds the
  first slot past the boundary, the downward scan the last slot up to it.
-/

namespace Sandook.Lib

variable {β : Type}

/-- The rule for `for (i = 0; i < n; i++)`: `P i` holds of the state before iteration `i`. -/
theorem foldlM_range_invariant (P : ℕ → β → Prop) (f : β → ℕ → Option β) :
    ∀ {n : ℕ} {b b' : β}, P 0 b → (∀ i < n, ∀ x y, P i x → f x i = some y → P (i + 1) y) →
      (List.range n).foldlM f b = some b' → P n b'
  | 0, b, b', h0, _, h => by
    rw [List.range_zero, List.foldlM_nil] at h
    cases h
    exact h0
  | n + 1, b, b', h0, hstep, h => by
    rw [List.range_succ, List.foldlM_append] at h
    obtain ⟨x, hx, h⟩ := Option.bind_eq_some_iff.mp h
    have hn : P n x :=
      foldlM_range_invariant P f h0 (fun i hi => hstep i (Nat.lt_succ_of_lt hi)) hx
    simp only [List.foldlM_cons, List.foldlM_nil, bind_pure] at h
    exact hstep n (Nat.lt_succ_self n) x b' hn h

/-- The rule for a `for (i = 0; i < n; i++)` loop that returns: when every iteration returns from
a state that has `P i` and gives one that has `P (i + 1)`, the loop returns with `P n`. -/
theorem foldlM_range_total (P : ℕ → β → Prop) (f : β → ℕ → Option β) :
    ∀ {n : ℕ} {b : β}, P 0 b → (∀ i < n, ∀ x, P i x → ∃ y, f x i = some y ∧ P (i + 1) y) →
      ∃ b', (List.range n).foldlM f b = some b' ∧ P n b'
  | 0, b, h0, _ => ⟨b, rfl, h0⟩
  | n + 1, b, h0, hstep => by
    obtain ⟨x, hx, hn⟩ :=
      foldlM_range_total P f h0 fun i hi => hstep i (Nat.lt_succ_of_lt hi)
    obtain ⟨y, hy, hy'⟩ := hstep n (Nat.lt_succ_self n) x hn
    refine ⟨y, ?_, hy'⟩
    rw [List.range_succ, List.foldlM_append, hx]
    simpa using hy

/-- A loop over the concatenation of the lists `g a`, `a ∈ l`, is a loop over `l` whose body
loops over `g a`. -/
theorem foldlM_flatMap {α γ : Type} (f : β → α → Option β) (g : γ → List α) :
    ∀ (l : List γ) (b : β),
      (l.flatMap g).foldlM f b = l.foldlM (fun b c => (g c).foldlM f b) b
  | [], b => rfl
  | c :: l, b => by
    rw [List.flatMap_cons, List.foldlM_append, List.foldlM_cons]
    congr 1
    funext b'
    exact foldlM_flatMap f g l b'

/-- The inner loop of `m` outer iterations, `k` indices each from `t * k`, visits `0, …, m * k - 1`
in order. -/
theorem flatMap_range_range' (k : ℕ) :
    ∀ m : ℕ, (List.range m).flatMap (fun t => List.range' (t * k) k) = List.range (m * k)
  | 0 => by simp
  | m + 1 => by
    rw [List.range_succ, List.flatMap_append, flatMap_range_range' k m, List.flatMap_singleton,
      List.range_eq_range', List.range_eq_range', Nat.succ_mul]
    have h := @List.range'_append 0 (m * k) k 1
    rw [Nat.zero_add, Nat.one_mul] at h
    exact h

/-! ## Scans for the end of a prefix -/

/-- `for (i = 1; i <= m; i++) if (q(i)) return i;` over slots of which `q` holds past `n` finds
`n + 1`, if there is such a slot. -/
theorem find?_range'_of_boundary {q : ℕ → Bool} {n : ℕ} :
    ∀ {m : ℕ}, (∀ i, 1 ≤ i → i ≤ m → (q i = true ↔ n < i)) →
      (List.range' 1 m).find? q = if n < m then some (n + 1) else none
  | 0, _ => by simp
  | m + 1, hq => by
    rw [List.range'_concat, show 1 + 1 * m = m + 1 by omega, List.find?_append,
      find?_range'_of_boundary fun i h₁ h₂ => hq i h₁ (Nat.le_succ_of_le h₂)]
    have hlast := hq (m + 1) (by omega) (Nat.le_refl _)
    by_cases hnm : n < m
    · simp [hnm, show n < m + 1 by omega]
    · by_cases hn : n = m
      · subst hn
        simp [hlast]
      · have hq' : q (m + 1) = false := by simpa [show ¬n < m + 1 by omega] using hlast
        simp [hnm, show ¬n < m + 1 by omega, hq']

/-- `for (i = m; i > 0; i--) if (q(i)) return i;` over slots of which `q` holds up to `n ≤ m`
finds `n`, unless `n` is `0`. -/
theorem find?_reverse_range'_of_boundary {q : ℕ → Bool} {n : ℕ} :
    ∀ {m : ℕ}, n ≤ m → (∀ i, 1 ≤ i → i ≤ m → (q i = true ↔ i ≤ n)) →
      (List.range' 1 m).reverse.find? q = if n = 0 then none else some n
  | 0, hn, _ => by simp [Nat.le_zero.mp hn]
  | m + 1, hn, hq => by
    rw [List.range'_concat, List.reverse_append, List.reverse_singleton, List.singleton_append,
      List.find?_cons, show 1 + 1 * m = m + 1 by omega]
    have hlast := hq (m + 1) (by omega) (Nat.le_refl _)
    by_cases h : n = m + 1
    · subst h
      rw [hlast.mpr (Nat.le_refl _)]
      simp
    · have hq' : q (m + 1) = false := by simpa [show ¬m + 1 ≤ n by omega] using hlast
      rw [hq']
      exact find?_reverse_range'_of_boundary (by omega) fun i h₁ h₂ =>
        hq i h₁ (Nat.le_succ_of_le h₂)

end Sandook.Lib
