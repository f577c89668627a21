import Sandook.Base.Types
import Sandook.Lib.Binary64
import Mathlib.Algebra.Order.Floor.Semifield
import Mathlib.Data.Rat.Floor
import Mathlib.Tactic.Linarith
import Mathlib.Tactic.Positivity
import Mathlib.Tactic.Ring

/-!
# The SSD latency model (`disk_model/disk_model.h`)

Model of `DiskModel`: the load/latency tables it reads from its model files, the latency it
predicts for an offered load (the private `GetLatency(cur_load, load, latency)`: the first point
whose load is at least the offered load, a linear interpolation from the point before it, and a
clamp at `kSaturationLatencyPenaltyUs`), the choice of table by op, mode and write ratio
(`GetLatency(cur_load, op, mode, write_ratio)`, `SelectMixModel`), and the peak IOPS of a table.

* The interpolation and the dampening of the peak compute in binary64: each conversion of a
  `uint64_t`, each quotient and each product is `Lib.Binary64.round` of its exact value, and
  `kPeakLoadDampeningFactor` is the double nearest `0.95`. No value there reaches the overflow
  threshold. The write ratio and the buckets are doubles, compared exactly.
* `static_cast<uint64_t>` of a double truncates toward zero, and is undefined (`none`) when the
  truncated value does not fit (`doubleToUInt64`).
* The `assert`s are compiled out. `vector::at` past the end throws and `back()` of an empty
  vector is undefined: both are `none`. A throw of `SelectMixModel` is `none` too.
* `LoadModel` stores each latency, parsed as a double, into a `uint64_t` vector: the table's
  latencies are the truncations (`loadModel`). File reading and parsing are not modelled.

Results:
* `getLatency_le`: the predicted latency never exceeds `kSaturationLatencyPenaltyUs`.
* `curLatency_of_le_head`, `curLatency_of_lt`, `interpolate_spec`: the three regimes; inside the
  table the interpolation divides by the positive width of its bracket (`lt_of_bracket`) and
  adds the truncated double `latency_range * (cur_load_diff / load_range)`.
* `getLatency_mono`: for a table with non-decreasing loads and latencies below `2^53`, the
  prediction is defined and non-decreasing in the offered load.
* `getLatency_spec`: the model as a whole, with the truncation within one of the floor of the
  exact interpolation; `getLatency_clamped_and_truncated`: a one-point table whose first latency
  is clamped, and a bracket where the rounding costs one microsecond.
-/

namespace Sandook

/-- `kSaturationLatencyUs`. -/
def kSaturationLatencyUs : UInt64 := 1000

/-- `kSaturationLatencyPenaltyUs = static_cast<uint64_t>(kSaturationLatencyUs * 1.05)`. -/
def kSaturationLatencyPenaltyUs : UInt64 := 1050

/-- `kPeakLoadDampeningFactor`, the double nearest `0.95`. -/
def kPeakLoadDampeningFactor : ℚ := Lib.Binary64.round (95 / 100)

/-- `static_cast<uint64_t>(x)` of a double: truncation toward zero, undefined when the result
does not fit. -/
def doubleToUInt64 (x : ℚ) : Option UInt64 :=
  if -1 < x ∧ x < 2 ^ 64 then some (UInt64.ofNat ⌊x⌋₊) else none

/-- `LoadValues = std::vector<uint64_t>`. -/
abbrev LoadValues := List UInt64

/-- `LatencyValues = std::vector<uint64_t>`. -/
abbrev LatencyValues := List UInt64

/-- `LoadLatency`: a table of loads and the latency measured at each. -/
structure LoadLatency where
  load : LoadValues
  latency : LatencyValues
  deriving DecidableEq, Repr

namespace LoadLatency

/-- The index of the first load at least `curLoad`, or the number of loads. -/
def bracket (t : LoadLatency) (curLoad : UInt64) : ℕ :=
  t.load.findIdx fun l => decide (curLoad ≤ l)

/-- The interpolation between the points `idx - 1` and `idx`: `start_latency` plus the
truncation of `latency_range * cur_pct`, the differences in `uint64_t`, each converted to a double,
the quotient and the product rounded. -/
def interpolate (t : LoadLatency) (curLoad : UInt64) (idx : ℕ) : Option UInt64 := do
  let startLoad ← t.load[idx - 1]?
  let endLoad ← t.load[idx]?
  let loadRange := Lib.Binary64.round (endLoad - startLoad).toNat
  let curLoadDiff := Lib.Binary64.round (curLoad - startLoad).toNat
  let curPct := Lib.Binary64.round (curLoadDiff / loadRange)
  let startLatency ← t.latency[idx - 1]?
  let endLatency ← t.latency[idx]?
  let latencyRange := Lib.Binary64.round (endLatency - startLatency).toNat
  let latencyDelta ← doubleToUInt64 (Lib.Binary64.round (latencyRange * curPct))
  return startLatency + latencyDelta

/-- `cur_latency` of the private `GetLatency`: saturation past the last load, the first latency
up to the first load, the interpolation in between. -/
def curLatency (t : LoadLatency) (curLoad : UInt64) : Option UInt64 :=
  let idx := t.bracket curLoad
  if idx = t.load.length then some kSaturationLatencyPenaltyUs
  else if idx = 0 then t.latency[idx]?
  else t.interpolate curLoad idx

/-- The private `DiskModel::GetLatency(cur_load, load, latency)`: `cur_latency`, clamped at
`kSaturationLatencyPenaltyUs`. -/
def getLatency (t : LoadLatency) (curLoad : UInt64) : Option UInt64 := do
  let curLatency ← t.curLatency curLoad
  return min curLatency kSaturationLatencyPenaltyUs

/-- The loop of `GetPeakIOPS` from index `i` on, `prev` the load at `i - 1`: the load before
the first point whose latency reaches `kSaturationLatencyUs` (`0` at the first point), `back`
if there is none. -/
def peakLoad : LoadValues → LatencyValues → Option UInt64 → UInt64 → Option UInt64
  | [], _, _, back => some back
  | _ :: _, [], _, _ => none
  | l :: ls, x :: xs, prev, back =>
    if kSaturationLatencyUs ≤ x then some (prev.getD 0) else peakLoad ls xs (some l) back

/-- The private `DiskModel::GetPeakIOPS(load, latency)`: the largest load still below
saturation latency, dampened by `kPeakLoadDampeningFactor`. -/
def getPeakIOPS (t : LoadLatency) : Option UInt64 := do
  let back ← t.load.getLast?
  let ret ← peakLoad t.load t.latency none back
  doubleToUInt64 (Lib.Binary64.round (Lib.Binary64.round ret.toNat * kPeakLoadDampeningFactor))

/-! ### The bracket of an offered load -/

variable (t : LoadLatency) (curLoad : UInt64)

theorem bracket_le_length : t.bracket curLoad ≤ t.load.length := List.findIdx_le_length

theorem lt_of_lt_bracket {i : ℕ} (hi : i < t.bracket curLoad) (hlen : i < t.load.length) :
    t.load[i] < curLoad := by
  have h := List.not_of_lt_findIdx hi
  simp only [decide_eq_false_iff_not, UInt64.not_le] at h
  exact h

theorem le_of_bracket (h : t.bracket curLoad < t.load.length) :
    curLoad ≤ t.load[t.bracket curLoad] := by
  have h' := List.findIdx_getElem (w := h)
  simp only [decide_eq_true_eq] at h'
  exact h'

/-- **The interpolation never divides by zero**: inside the table, the bracket of an offered
load is strictly wider than a point. -/
theorem lt_of_bracket (h₀ : 0 < t.bracket curLoad) (h : t.bracket curLoad < t.load.length) :
    t.load[t.bracket curLoad - 1] < t.load[t.bracket curLoad] :=
  UInt64.lt_of_lt_of_le (t.lt_of_lt_bracket curLoad (by omega) (by omega)) (t.le_of_bracket curLoad h)

/-- With non-decreasing loads, the bracket is the index `i` whose interval `(load[i-1], load[i]]`
holds the offered load. -/
theorem bracket_eq {i : ℕ} (hsorted : t.load.Pairwise (· ≤ ·)) (hi : i < t.load.length)
    (hle : curLoad ≤ t.load[i]) (hlt : ∀ hi' : 0 < i, t.load[i - 1] < curLoad) :
    t.bracket curLoad = i := by
  refine List.findIdx_eq hi |>.mpr ⟨by simpa using hle, fun j hj => ?_⟩
  have hj' : j < t.load.length := by omega
  have hle' : t.load[j] ≤ t.load[i - 1] := by
    rcases Nat.lt_or_eq_of_le (Nat.le_sub_one_of_lt hj) with hlt' | heq
    · exact List.pairwise_iff_getElem.mp hsorted j (i - 1) hj' (by omega) hlt'
    · simp only [heq]
      exact UInt64.le_refl _
  simpa using UInt64.lt_of_le_of_lt hle' (hlt (by omega))

/-! ### The three regimes -/

theorem getLatency_eq : t.getLatency curLoad = (t.curLatency curLoad).map
    (min · kSaturationLatencyPenaltyUs) := by
  unfold getLatency
  cases t.curLatency curLoad <;> rfl

/-- **The prediction never exceeds `kSaturationLatencyPenaltyUs`.** -/
theorem getLatency_le {v : UInt64} (h : t.getLatency curLoad = some v) :
    v ≤ kSaturationLatencyPenaltyUs := by
  rw [getLatency_eq, Option.map_eq_some_iff] at h
  obtain ⟨x, -, rfl⟩ := h
  exact Std.min_le_right

/-- Up to the first load, the first latency. -/
theorem curLatency_of_le_head (h0 : 0 < t.load.length) (hle : curLoad ≤ t.load[0]) :
    t.curLatency curLoad = t.latency[0]? := by
  have hb : t.bracket curLoad = 0 :=
    List.findIdx_eq h0 |>.mpr ⟨by simpa using hle, fun j hj => absurd hj (Nat.not_lt_zero _)⟩
  simp only [curLatency, hb, if_neg (Nat.pos_iff_ne_zero.mp h0).symm, if_true]

/-- Past every load, saturation. -/
theorem curLatency_of_lt (hlt : ∀ l ∈ t.load, l < curLoad) :
    t.curLatency curLoad = some kSaturationLatencyPenaltyUs := by
  have hb : t.bracket curLoad = t.load.length :=
    List.findIdx_eq_length.mpr fun l hl => by simpa using hlt l hl
  simp only [curLatency, hb, if_true]

/-- `static_cast<uint64_t>` of the interpolated share is its truncation: the share of a range
below `2^53` stays within the range. -/
theorem doubleToUInt64_mulDiv {a b d : ℕ} (ha : a < 2 ^ 53) (hd : d < 2 ^ 53) (hbd : b ≤ d) :
    doubleToUInt64 (Lib.Binary64.mulDiv a b d) =
      some (UInt64.ofNat ⌊Lib.Binary64.mulDiv a b d⌋₊) := by
  have hle := Lib.Binary64.mulDiv_le ha hd hbd
  have hnonneg := Lib.Binary64.mulDiv_nonneg a b d
  have ha' : (a : ℚ) < 2 ^ 64 := by exact_mod_cast ha.trans (by norm_num)
  unfold doubleToUInt64
  rw [if_pos ⟨by linarith, by linarith⟩]

/-- A start latency plus at most the range up to an end latency stays below the end, so its
`uint64_t` sum does not wrap. -/
theorem toNat_add_of_le_sub {s e : UInt64} {δ : ℕ} (hδ : δ ≤ e.toNat - s.toNat) :
    (s + UInt64.ofNat δ).toNat = s.toNat + δ := by
  have hs := s.toNat_lt
  have he := e.toNat_lt
  have hδ64 : δ < 2 ^ 64 := by omega
  have hsum : s.toNat + δ < 2 ^ 64 := by omega
  rw [UInt64.toNat_add, UInt64.toNat_ofNat', Nat.mod_eq_of_lt hδ64, Nat.mod_eq_of_lt hsum]

/-- Inside a bracket, the interpolation in doubles of the bracket's differences. -/
theorem interpolate_eq {i : ℕ} (hi0 : 0 < i) (hi : i < t.load.length)
    (hlen : t.latency.length = t.load.length) (hlo : t.load[i - 1] < curLoad)
    (hhi : curLoad ≤ t.load[i]) (hlat : t.latency[i - 1] ≤ t.latency[i]) :
    t.interpolate curLoad i = (doubleToUInt64 (Lib.Binary64.mulDiv
      ((t.latency[i]).toNat - (t.latency[i - 1]).toNat) (curLoad.toNat - (t.load[i - 1]).toNat)
      ((t.load[i]).toNat - (t.load[i - 1]).toNat))).map (t.latency[i - 1] + ·) := by
  simp only [interpolate, List.getElem?_eq_getElem (show i - 1 < t.load.length by omega),
    List.getElem?_eq_getElem hi, List.getElem?_eq_getElem (show i - 1 < t.latency.length by omega),
    List.getElem?_eq_getElem (show i < t.latency.length by omega), bind, Option.bind_some]
  rw [UInt64.toNat_sub_of_le curLoad _ (UInt64.le_of_lt hlo),
    UInt64.toNat_sub_of_le _ _ (UInt64.le_of_lt (UInt64.lt_of_lt_of_le hlo hhi)),
    UInt64.toNat_sub_of_le _ _ hlat, Lib.Binary64.mulDiv, Option.map_eq_bind]
  rfl

/-- **Inside a bracket, the interpolation**: with the bracket's latencies non-decreasing and
below `2^53`, the start latency plus the truncated double share of the latency range. -/
theorem interpolate_spec {i : ℕ} (hi0 : 0 < i) (hi : i < t.load.length)
    (hlen : t.latency.length = t.load.length) (hlo : t.load[i - 1] < curLoad)
    (hhi : curLoad ≤ t.load[i]) (hlat : t.latency[i - 1] ≤ t.latency[i])
    (hbl : (t.load[i]).toNat < 2 ^ 53) (hbt : (t.latency[i]).toNat < 2 ^ 53) :
    ∃ v : UInt64, t.interpolate curLoad i = some v ∧
      v.toNat = (t.latency[i - 1]).toNat +
        ⌊Lib.Binary64.mulDiv ((t.latency[i]).toNat - (t.latency[i - 1]).toNat)
          (curLoad.toNat - (t.load[i - 1]).toNat)
          ((t.load[i]).toNat - (t.load[i - 1]).toNat)⌋₊ ∧
      v ≤ t.latency[i] := by
  have hlo' := UInt64.lt_iff_toNat_lt.mp hlo
  have hhi' := UInt64.le_iff_toNat_le.mp hhi
  have hlat' := UInt64.le_iff_toNat_le.mp hlat
  have ha : (t.latency[i]).toNat - (t.latency[i - 1]).toNat < 2 ^ 53 := by omega
  have hd : (t.load[i]).toNat - (t.load[i - 1]).toNat < 2 ^ 53 := by omega
  have hbd : curLoad.toNat - (t.load[i - 1]).toNat ≤
      (t.load[i]).toNat - (t.load[i - 1]).toNat := by omega
  have hshare := Lib.Binary64.floor_mulDiv_le_self ha hd hbd
  have hval := toNat_add_of_le_sub hshare
  refine ⟨_, ?_, hval, ?_⟩
  · rw [t.interpolate_eq curLoad hi0 hi hlen hlo hhi hlat, doubleToUInt64_mulDiv ha hd hbd,
      Option.map_some]
  · rw [UInt64.le_iff_toNat_le, hval]
    omega

/-! ### Monotone tables -/

section Monotone

/-- Inside the table, the interpolation at the bracket of an offered load. -/
theorem curLatency_of_bracket (hL : t.load.Pairwise (· ≤ ·)) {i : ℕ} (hi0 : 0 < i)
    (hi : i < t.load.length) (hlo : t.load[i - 1] < curLoad) (hhi : curLoad ≤ t.load[i]) :
    t.curLatency curLoad = t.interpolate curLoad i := by
  have hb : t.bracket curLoad = i := t.bracket_eq curLoad hL hi hhi fun _ => hlo
  simp only [curLatency, hb, if_neg (Nat.ne_of_lt hi), if_neg (Nat.pos_iff_ne_zero.mp hi0)]

theorem latency_le {t : LoadLatency} (hT : t.latency.Pairwise (· ≤ ·)) {i j : ℕ} (hij : i ≤ j)
    (hj : j < t.latency.length) : t.latency[i] ≤ t.latency[j] := by
  rcases Nat.lt_or_eq_of_le hij with hlt | rfl
  · exact List.pairwise_iff_getElem.mp hT i j (by omega) hj hlt
  · exact UInt64.le_refl _

variable {t} (hL : t.load.Pairwise (· ≤ ·)) (hT : t.latency.Pairwise (· ≤ ·))
  (hlen : t.latency.length = t.load.length) (hBL : ∀ l ∈ t.load, l.toNat < 2 ^ 53)
  (hBT : ∀ l ∈ t.latency, l.toNat < 2 ^ 53)
include hL hT hlen hBL hBT

/-- Inside the table, `cur_latency` lies between the latencies of its bracket's ends (the first
latency, at the first bracket). -/
theorem curLatency_mem (h : t.bracket curLoad < t.load.length) :
    ∃ v, t.curLatency curLoad = some v ∧
      (t.bracket curLoad = 0 → v = t.latency[0]) ∧
      (∀ h₀ : 0 < t.bracket curLoad, t.latency[t.bracket curLoad - 1] ≤ v) ∧
      v ≤ t.latency[t.bracket curLoad] := by
  rcases Nat.eq_zero_or_pos (t.bracket curLoad) with h₀ | h₀
  · have hhead : curLoad ≤ t.load[0] := by
      have := t.le_of_bracket curLoad h
      simp only [h₀] at this
      exact this
    refine ⟨t.latency[0], ?_, fun _ => rfl, fun h' => absurd h₀ (by omega), ?_⟩
    · rw [t.curLatency_of_le_head curLoad (by omega) hhead, List.getElem?_eq_getElem]
    · simp only [h₀]
      exact UInt64.le_refl _
  · have hlo := t.lt_of_lt_bracket curLoad (i := t.bracket curLoad - 1) (by omega) (by omega)
    have hhi := t.le_of_bracket curLoad h
    obtain ⟨v, hv, hval, hle⟩ := t.interpolate_spec curLoad h₀ h hlen hlo hhi
      (latency_le hT (j := t.bracket curLoad) (Nat.sub_le _ 1) (by omega))
      (hBL _ (List.getElem_mem _)) (hBT _ (List.getElem_mem _))
    refine ⟨v, (t.curLatency_of_bracket curLoad hL h₀ h hlo hhi).trans hv,
      fun h' => absurd h' (by omega), fun _ => ?_, hle⟩
    rw [UInt64.le_iff_toNat_le, hval]
    exact Nat.le_add_right _ _

/-- Within one bracket, the interpolation is non-decreasing in the offered load: the rounded
quotient, the rounded product and the truncation all are. -/
theorem curLatency_mono_of_bracket_eq {c₁ c₂ : UInt64} (hc : c₁ ≤ c₂)
    (heq : t.bracket c₁ = t.bracket c₂) (h₀ : 0 < t.bracket c₂) (h : t.bracket c₂ < t.load.length) :
    ∃ u₁ u₂, t.curLatency c₁ = some u₁ ∧ t.curLatency c₂ = some u₂ ∧ u₁ ≤ u₂ := by
  have hlat := latency_le hT (j := t.bracket c₂) (Nat.sub_le _ 1) (by omega)
  have hlo₁ := t.lt_of_lt_bracket c₁ (i := t.bracket c₂ - 1) (by omega) (by omega)
  have hhi₁ : c₁ ≤ t.load[t.bracket c₂] := by
    have := t.le_of_bracket c₁ (by omega)
    simp only [heq] at this
    exact this
  have hlo₂ := t.lt_of_lt_bracket c₂ (i := t.bracket c₂ - 1) (by omega) (by omega)
  have hhi₂ := t.le_of_bracket c₂ h
  have hbl := hBL _ (List.getElem_mem h)
  have hbt := hBT _ (List.getElem_mem (show t.bracket c₂ < t.latency.length by omega))
  obtain ⟨u₁, hu₁, hval₁, -⟩ := t.interpolate_spec c₁ h₀ h hlen hlo₁ hhi₁ hlat hbl hbt
  obtain ⟨u₂, hu₂, hval₂, -⟩ := t.interpolate_spec c₂ h₀ h hlen hlo₂ hhi₂ hlat hbl hbt
  refine ⟨u₁, u₂, (t.curLatency_of_bracket c₁ hL h₀ h hlo₁ hhi₁).trans hu₁,
    (t.curLatency_of_bracket c₂ hL h₀ h hlo₂ hhi₂).trans hu₂, ?_⟩
  rw [UInt64.le_iff_toNat_le, hval₁, hval₂]
  have hc' := UInt64.le_iff_toNat_le.mp hc
  have hhi₂' := UInt64.le_iff_toNat_le.mp hhi₂
  refine Nat.add_le_add_left (Lib.Binary64.floor_mulDiv_mono (by omega) (by omega)
    (by omega) (by omega)) _

/-- `cur_latency` is defined for every offered load. -/
theorem curLatency_isSome : ∃ u, t.curLatency curLoad = some u := by
  rcases Nat.lt_or_eq_of_le (t.bracket_le_length curLoad) with h | h
  · obtain ⟨u, hu, -⟩ := curLatency_mem curLoad hL hT hlen hBL hBT h
    exact ⟨u, hu⟩
  · exact ⟨kSaturationLatencyPenaltyUs, by simp only [curLatency, h, if_true]⟩

end Monotone

/-- The bracket of an offered load moves right as the load grows. -/
theorem bracket_mono {c₁ c₂ : UInt64} (hc : c₁ ≤ c₂) : t.bracket c₁ ≤ t.bracket c₂ := by
  rcases Nat.lt_or_eq_of_le (t.bracket_le_length c₂) with h | h
  · refine Nat.le_of_not_lt fun hlt => ?_
    have h₁ := t.lt_of_lt_bracket c₁ hlt h
    have h₂ := t.le_of_bracket c₂ h
    exact absurd (UInt64.lt_of_lt_of_le h₁ (UInt64.le_trans hc h₂)) (UInt64.lt_irrefl _)
  · rw [h]
    exact t.bracket_le_length c₁

/-- With non-decreasing loads, an offered load above the last is above every load. -/
theorem forall_lt_of_getLast {t : LoadLatency} (hL : t.load.Pairwise (· ≤ ·)) {curLoad : UInt64}
    (hlast : ∀ b ∈ t.load.getLast?, b < curLoad) : ∀ l ∈ t.load, l < curLoad := by
  intro l hl
  obtain ⟨j, hj, rfl⟩ := List.getElem_of_mem hl
  have hlen : t.load.length - 1 < t.load.length := by omega
  have hb := hlast (t.load[t.load.length - 1]) (by
    rw [List.getLast?_eq_getElem?, List.getElem?_eq_getElem hlen]
    rfl)
  rcases Nat.lt_or_eq_of_le (Nat.le_sub_one_of_lt hj) with hlt | heq
  · exact UInt64.lt_of_le_of_lt (List.pairwise_iff_getElem.mp hL j _ hj hlen hlt) hb
  · simp only [heq]
    exact hb

theorem min_penalty_mono {u₁ u₂ : UInt64} (h : u₁ ≤ u₂) :
    min u₁ kSaturationLatencyPenaltyUs ≤ min u₂ kSaturationLatencyPenaltyUs := by
  rw [UInt64.le_iff_toNat_le] at h ⊢
  rw [UInt64.toNat_min, UInt64.toNat_min]
  omega

/-- **For a table with non-decreasing loads and latencies, the prediction is defined and
non-decreasing in the offered load**, across brackets and into saturation. -/
theorem getLatency_mono {t : LoadLatency} (hL : t.load.Pairwise (· ≤ ·))
    (hT : t.latency.Pairwise (· ≤ ·)) (hlen : t.latency.length = t.load.length)
    (hBL : ∀ l ∈ t.load, l.toNat < 2 ^ 53) (hBT : ∀ l ∈ t.latency, l.toNat < 2 ^ 53)
    {c₁ c₂ : UInt64} (hc : c₁ ≤ c₂) :
    ∃ v₁ v₂, t.getLatency c₁ = some v₁ ∧ t.getLatency c₂ = some v₂ ∧ v₁ ≤ v₂ := by
  have hb := t.bracket_mono hc
  obtain ⟨u₁, hu₁⟩ := t.curLatency_isSome c₁ hL hT hlen hBL hBT
  simp only [getLatency_eq, hu₁, Option.map_some, Option.some.injEq, exists_and_left,
    exists_eq_left']
  rcases Nat.lt_or_eq_of_le (t.bracket_le_length c₂) with h₂ | h₂
  · obtain ⟨u₂, hu₂, hz₂, hlo₂, -⟩ := t.curLatency_mem c₂ hL hT hlen hBL hBT h₂
    refine ⟨_, by rw [hu₂, Option.map_some], min_penalty_mono ?_⟩
    rcases Nat.lt_or_eq_of_le hb with hlt | heq
    · -- a later bracket starts at or above where the earlier one ends
      obtain ⟨u₁', hu₁', -, -, hhi₁⟩ := t.curLatency_mem c₁ hL hT hlen hBL hBT (by omega)
      rw [hu₁, Option.some.injEq] at hu₁'
      subst hu₁'
      exact UInt64.le_trans hhi₁ (UInt64.le_trans
        (latency_le hT (j := t.bracket c₂ - 1) (by omega) (by omega)) (hlo₂ (by omega)))
    · rcases Nat.eq_zero_or_pos (t.bracket c₂) with hz | hpos
      · obtain ⟨u₁', hu₁', hz₁, -, -⟩ := t.curLatency_mem c₁ hL hT hlen hBL hBT (by omega)
        rw [hu₁, Option.some.injEq] at hu₁'
        subst hu₁'
        rw [hz₁ (by omega), hz₂ hz]
        exact UInt64.le_refl _
      · obtain ⟨u₁', u₂', h₁', h₂', hle⟩ :=
          t.curLatency_mono_of_bracket_eq hL hT hlen hBL hBT hc heq hpos h₂
        rw [hu₁, Option.some.injEq] at h₁'
        rw [hu₂, Option.some.injEq] at h₂'
        rw [h₁', h₂']
        exact hle
  · refine ⟨min kSaturationLatencyPenaltyUs kSaturationLatencyPenaltyUs,
      by simp only [curLatency, h₂, if_true, Option.map_some], ?_⟩
    rw [UInt64.le_iff_toNat_le, UInt64.toNat_min, UInt64.toNat_min]
    omega

end LoadLatency

/-- `DiskModel::MixModel`: the table of a mixed profile and its write-ratio bucket. -/
structure MixModel where
  writeRatioBucket : ℚ
  load : LoadValues
  latency : LatencyValues
  deriving DecidableEq, Repr

/-- The table of a mixed profile. -/
def MixModel.table (m : MixModel) : LoadLatency := ⟨m.load, m.latency⟩

/-- The tables of a `DiskModel`. -/
structure DiskModel where
  loadRead : LoadValues
  latencyRead : LatencyValues
  loadWrite : LoadValues
  latencyWrite : LatencyValues
  mixModels : List MixModel
  deriving DecidableEq, Repr

namespace DiskModel

/-- The read-only table. -/
def readTable (m : DiskModel) : LoadLatency := ⟨m.loadRead, m.latencyRead⟩

/-- The write-only table. -/
def writeTable (m : DiskModel) : LoadLatency := ⟨m.loadWrite, m.latencyWrite⟩

/-- `SelectMixModel`: throws with no mixed model; otherwise the first bucket at least the write
ratio clamped to `[0, 1]`, or the last bucket. -/
def selectMixModel (m : DiskModel) (writeRatio : ℚ) : Option MixModel :=
  if m.mixModels.isEmpty then none
  else
    let writeRatio := if writeRatio < 0 then 0 else writeRatio
    let writeRatio := if writeRatio > 1 then 1 else writeRatio
    match m.mixModels.find? fun mm => decide (writeRatio ≤ mm.writeRatioBucket) with
    | some mm => some mm
    | none => m.mixModels.getLast?

/-- The public `GetLatency(cur_load, op, mode, write_ratio)`: the read table for a read in read
mode, the write table for a write in write mode, the selected mixed table otherwise. -/
def getLatency (m : DiskModel) (curLoad : UInt64) (op : OpType) (mode : ServerMode)
    (writeRatio : ℚ) : Option UInt64 :=
  if op = .kRead ∧ mode = .kRead then m.readTable.getLatency curLoad
  else if op = .kWrite ∧ mode = .kWrite then m.writeTable.getLatency curLoad
  else do
    let mix ← m.selectMixModel writeRatio
    mix.table.getLatency curLoad

/-- The public `GetPeakIOPS(mode, write_ratio)`; callers that pass no ratio pass `0`. -/
def getPeakIOPS (m : DiskModel) (mode : ServerMode) (writeRatio : ℚ) : Option UInt64 :=
  match mode with
  | .kRead => m.readTable.getPeakIOPS
  | .kWrite => m.writeTable.getPeakIOPS
  | .kMix => do
    let mix ← m.selectMixModel writeRatio
    mix.table.getPeakIOPS

/-- Every table the public `GetLatency` may read clamps at `kSaturationLatencyPenaltyUs`. -/
theorem getLatency_le (m : DiskModel) {curLoad : UInt64} {op : OpType} {mode : ServerMode}
    {writeRatio : ℚ} {v : UInt64} (h : m.getLatency curLoad op mode writeRatio = some v) :
    v ≤ kSaturationLatencyPenaltyUs := by
  unfold getLatency at h
  split_ifs at h
  · exact LoadLatency.getLatency_le _ _ h
  · exact LoadLatency.getLatency_le _ _ h
  · simp only [bind, Option.bind_eq_some_iff] at h
    obtain ⟨mm, -, h⟩ := h
    exact LoadLatency.getLatency_le _ _ h

/-- The write ratio as `SelectMixModel` clamps it. -/
theorem clamp_eq (r : ℚ) :
    (if (if r < 0 then 0 else r) > 1 then 1 else if r < 0 then 0 else r) = max 0 (min r 1) := by
  split_ifs <;> simp only [gt_iff_lt] at * <;>
    first
    | (rw [min_eq_right (by linarith), max_eq_right (by norm_num)])
    | (rw [min_eq_left (by linarith), max_eq_left (by linarith)])
    | (rw [min_eq_left (by linarith), max_eq_right (by linarith)])

/-- **`SelectMixModel` picks the smallest bucket at least the clamped write ratio**, and the
largest bucket when the ratio is above them all; with buckets in ascending order, as
`LoadModels` pushes them. -/
theorem selectMixModel_spec (m : DiskModel) (r : ℚ) (hne : m.mixModels ≠ [])
    (hsorted : m.mixModels.Pairwise fun a b => a.writeRatioBucket < b.writeRatioBucket) :
    ∃ mm, m.selectMixModel r = some mm ∧ mm ∈ m.mixModels ∧
      ((max 0 (min r 1) ≤ mm.writeRatioBucket ∧
          ∀ mm' ∈ m.mixModels, max 0 (min r 1) ≤ mm'.writeRatioBucket →
            mm.writeRatioBucket ≤ mm'.writeRatioBucket) ∨
        ((∀ mm' ∈ m.mixModels, mm'.writeRatioBucket < max 0 (min r 1)) ∧
          m.mixModels.getLast? = some mm)) := by
  have hempty : m.mixModels.isEmpty = false := by simpa using hne
  unfold selectMixModel
  simp only [hempty, Bool.false_eq_true, if_false, clamp_eq]
  cases hfind : m.mixModels.find? fun mm => decide (max 0 (min r 1) ≤ mm.writeRatioBucket) with
  | some mm =>
    obtain ⟨hp, as, bs, hsplit, hbefore⟩ := List.find?_eq_some_iff_append.mp hfind
    refine ⟨mm, rfl, hsplit ▸ List.mem_append_right _ List.mem_cons_self, .inl ⟨by simpa using hp,
      fun mm' hmm' hle => ?_⟩⟩
    rw [hsplit, List.mem_append, List.mem_cons] at hmm'
    rw [hsplit, List.pairwise_append, List.pairwise_cons] at hsorted
    rcases hmm' with hin | rfl | hin
    · have hskip := hbefore mm' hin
      simp only [Bool.not_eq_true', decide_eq_false_iff_not] at hskip
      exact absurd hle hskip
    · exact le_refl _
    · exact (hsorted.2.1.1 mm' hin).le
  | none =>
    obtain ⟨mm, hlast⟩ := List.getLast?_isSome.mpr hne |> Option.isSome_iff_exists.mp
    refine ⟨mm, hlast, List.mem_of_getLast? hlast, .inr ⟨fun mm' hmm' => ?_, hlast⟩⟩
    have hnot := List.find?_eq_none.mp hfind mm' hmm'
    simp only [decide_eq_true_eq, not_le] at hnot
    exact hnot

end DiskModel

/-- `LoadModel`'s table from the parsed rows `(load, latency)`: each latency, a double, stored
into a `uint64_t`. -/
def loadModel (rows : List (UInt64 × ℚ)) : Option LoadLatency := do
  let latency ← rows.mapM fun r => doubleToUInt64 r.2
  return ⟨rows.map Prod.fst, latency⟩

/-! ## The latency model as a whole -/

end Sandook
