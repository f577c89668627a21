import Mathlib.Algebra.BigOperators.Ring.List
import Mathlib.Algebra.Order.BigOperators.Group.List
import Mathlib.Algebra.Order.Field.Basic
import Mathlib.Data.List.Nodup
import Mathlib.Tactic.FieldSimp
import Mathlib.Tactic.Linarith
import Mathlib.Tactic.Positivity
import Mathlib.Tactic.Ring

/-!
# Weights that form a probability distribution over a list of keys

Weights `w : ι → K` in an ordered field form a distribution over a list of distinct keys when
each key's weight lies in `[0, 1]` and the keys' weights sum to `1`. Three ways of making or
moving such weights keep the property.

Results:
* `isDistribution_uniform`: the uniform weight `1 / n` over `n > 0` keys.
* `IsDistribution.boost`: move `bias` to one key and rescale the others by
  `(1 - (w b + bias)) / (1 - w b)`, clamping the key at `1` and the others at `0`; when the boost
  overshoots `1`, the scale factor is negative and every other weight is clamped to `0`.
* `isDistribution_normalize`: non-negative weights with a positive sum, divided by their sum.
-/

namespace Sandook.Lib

variable {ι K : Type*} [Field K] [LinearOrder K] [IsStrictOrderedRing K]

/-- The weights of `ids` lie in `[0, 1]` and sum to `1`. -/
def IsDistribution (ids : List ι) (w : ι → K) : Prop :=
  (∀ i ∈ ids, 0 ≤ w i ∧ w i ≤ 1) ∧ (ids.map w).sum = 1

omit [IsStrictOrderedRing K] in
theorem IsDistribution.congr {ids : List ι} {w w' : ι → K} (h : IsDistribution ids w)
    (heq : ∀ i ∈ ids, w' i = w i) : IsDistribution ids w' := by
  refine ⟨fun i hi => heq i hi ▸ h.1 i hi, ?_⟩
  rw [List.map_congr_left heq]
  exact h.2

/-- The uniform weight over a non-empty list of keys. -/
theorem isDistribution_uniform {ids : List ι} (hne : ids ≠ []) :
    IsDistribution ids fun _ => (1 : K) / ids.length := by
  have hn : (0 : K) < ids.length := by exact_mod_cast List.length_pos_iff.mpr hne
  have hn1 : (1 : K) ≤ ids.length := by exact_mod_cast List.length_pos_iff.mpr hne
  refine ⟨fun _ _ => ⟨by positivity, (div_le_one hn).mpr hn1⟩, ?_⟩
  rw [List.map_const', List.sum_replicate, nsmul_eq_mul]
  field_simp

omit [LinearOrder K] [IsStrictOrderedRing K] in
/-- The sum of a weight that differs from `f` at one key `b`, over distinct keys holding `b`. -/
theorem sum_map_update {ids : List ι} [DecidableEq ι] (hnd : ids.Nodup) {b : ι} (hb : b ∈ ids)
    (x : K) (f : ι → K) :
    (ids.map fun i => if i = b then x else f i).sum = x + ((ids.map f).sum - f b) := by
  obtain ⟨l₁, l₂, rfl⟩ := List.append_of_mem hb
  have hnd' := List.nodup_middle.mp hnd
  have hb₁ : b ∉ l₁ := fun h => (List.nodup_cons.mp hnd').1 (List.mem_append_left _ h)
  have hb₂ : b ∉ l₂ := fun h => (List.nodup_cons.mp hnd').1 (List.mem_append_right _ h)
  have hl₁ : (l₁.map fun i => if i = b then x else f i) = l₁.map f :=
    List.map_congr_left fun i hi => if_neg (ne_of_mem_of_not_mem hi hb₁)
  have hl₂ : (l₂.map fun i => if i = b then x else f i) = l₂.map f :=
    List.map_congr_left fun i hi => if_neg (ne_of_mem_of_not_mem hi hb₂)
  simp only [List.map_append, List.map_cons, List.sum_append, List.sum_cons, if_pos, hl₁, hl₂]
  ring

/-- **Boosting one key keeps a distribution.** The key gets `min (w b + bias) 1`, every other
key `max (scale * w i) 0` with `scale = (1 - (w b + bias)) / (1 - w b)`: the others' mass
`1 - w b` becomes exactly what the key leaves over, or `0` when the boost overshoots. -/
theorem IsDistribution.boost [DecidableEq ι] {ids : List ι} {w : ι → K}
    (h : IsDistribution ids w) (hnd : ids.Nodup) {b : ι} (hb : b ∈ ids) {bias : K}
    (hbias : 0 ≤ bias) (hrem : 1 - w b ≠ 0) :
    IsDistribution ids fun i =>
      if i = b then min (w b + bias) 1 else max ((1 - (w b + bias)) / (1 - w b) * w i) 0 := by
  obtain ⟨hw₀, hw₁⟩ := h.1 b hb
  have hpos : 0 < 1 - w b := lt_of_le_of_ne (by linarith) (Ne.symm hrem)
  by_cases hover : w b + bias ≤ 1
  · -- the boost fits: the others scale by a factor in `[0, 1]`
    have hscale₀ : 0 ≤ (1 - (w b + bias)) / (1 - w b) := div_nonneg (by linarith) hpos.le
    have hscale₁ : (1 - (w b + bias)) / (1 - w b) ≤ 1 := (div_le_one hpos).mpr (by linarith)
    have heq : ∀ i ∈ ids, (if i = b then min (w b + bias) 1
        else max ((1 - (w b + bias)) / (1 - w b) * w i) 0) =
        if i = b then w b + bias else (1 - (w b + bias)) / (1 - w b) * w i := by
      intro i hi
      split_ifs
      · exact min_eq_left hover
      · exact max_eq_left (mul_nonneg hscale₀ (h.1 i hi).1)
    refine IsDistribution.congr ⟨fun i hi => ?_, ?_⟩ heq
    · split_ifs
      · exact ⟨by linarith, hover⟩
      · obtain ⟨hi₀, hi₁⟩ := h.1 i hi
        exact ⟨mul_nonneg hscale₀ hi₀, by nlinarith⟩
    · rw [sum_map_update hnd hb, List.sum_map_mul_left, h.2]
      field_simp
      ring
  · -- the boost overshoots: the factor is negative and the others drop to `0`
    have hscale : (1 - (w b + bias)) / (1 - w b) < 0 := div_neg_of_neg_of_pos (by linarith) hpos
    have heq : ∀ i ∈ ids, (if i = b then min (w b + bias) 1
        else max ((1 - (w b + bias)) / (1 - w b) * w i) 0) = if i = b then 1 else 0 := by
      intro i hi
      split_ifs
      · exact min_eq_right (by linarith)
      · exact max_eq_right (mul_nonpos_of_nonpos_of_nonneg hscale.le (h.1 i hi).1)
    refine IsDistribution.congr ⟨fun i hi => ?_, ?_⟩ heq
    · split_ifs <;> norm_num
    · rw [sum_map_update hnd hb, List.map_const', List.sum_replicate, nsmul_eq_mul, mul_zero]
      ring

/-- **Normalising non-negative weights with a positive sum makes a distribution.** -/
theorem isDistribution_normalize {ids : List ι} {v : ι → K} (hnn : ∀ i ∈ ids, 0 ≤ v i)
    (hpos : 0 < (ids.map v).sum) : IsDistribution ids fun i => v i / (ids.map v).sum := by
  refine ⟨fun i hi => ⟨div_nonneg (hnn i hi) hpos.le, (div_le_one hpos).mpr ?_⟩, ?_⟩
  · refine List.single_le_sum (fun x hx => ?_) _ (List.mem_map_of_mem hi)
    obtain ⟨j, hj, rfl⟩ := List.mem_map.mp hx
    exact hnn j hj
  · simp only [div_eq_mul_inv]
    rw [List.sum_map_mul_right, mul_inv_cancel₀ hpos.ne']

end Sandook.Lib
