import Sandook.DiskModel.Model
import Sandook.Lib.Distribution

/-!
# Profile-guided weights (`scheduler/control_plane/profile_guided.h`)

Model of `ProfileGuided::ComputeWeights`, which the controller runs to weight the servers of a
`ServerStatsList` for reads or for writes from their disk models. When the offered load is below
`kStaticWeightPeakLoadThreshold` of the servers' peak IOPS (`UseIterativeMethod`), it runs
`ComputeWeightsIterative` for the stability bounds `0.05, 0.10, …` below `1`, and otherwise, or
when none stabilises, `ComputeWeightsFromPeak`.

* A `double` is its exact rational. `NaN` appears once: the mean signal is `0` when every signal
  is `0`, and the relative difference `0 / 0` compares false with the bound (`isStable`). The
  bound loop runs `19` times in exact arithmetic (`boundLoop` is given `20` rounds).
* `ServerWeights{0.0}` and `models_` are arrays of `kNumMaxServers`; `.at` past them throws
  (`none`), as do the disk models (`DiskModel.getLatency`, `getPeakIOPS`).
* `total_ops`, `sum_signal` and `total_iops_capacity` are `uint64_t` sums, modulo `2 ^ 64`.

Results:
* `iterate_distribution`: every iteration of `ComputeWeightsIterative`'s loop keeps the listed
  servers' weights a distribution: the best server is always a listed one, since every signal is
  at most `kSaturationLatencyPenaltyUs`.
* `computeWeightsIterative_distribution`, `computeWeightsFromPeak_distribution`: each path
  returns a distribution over servers with distinct ids, in every branch.
* `computeWeights_distribution`: so does `ComputeWeights`.
* `computeWeightsFromPeak_cases`: the peak path returns equal weights, or the clamped peak
  weights over their positive sum.
* `computeWeightsFromPeak_monotone`: over distinct ids, a server of larger peak IOPS never gets a
  smaller weight, across the median and through the clamp; `computeWeightsFromPeak_duplicate_id`:
  a server listed twice can.
-/

namespace Sandook.ControlPlane

open Sandook.Lib

/-- `kStaticWeightPeakLoadThreshold`. -/
def kStaticWeightPeakLoadThreshold : ℚ := 95 / 100

/-- `kStableMeanBound`. -/
def kStableMeanBound : ℚ := 5 / 100

/-- `kMaxIterativeMethodMeanBound`. -/
def kMaxIterativeMethodMeanBound : ℚ := 1

/-- `kMaxIterations`. -/
def kMaxIterations : ℕ := 5000

/-- `kBias`. -/
def kBias : ℚ := 5 / 1000

/-- `kMinWeight`. -/
def kMinWeight : ℚ := 0

/-- `kMaxWeight`. -/
def kMaxWeight : ℚ := 1

/-- `kOneSecond`, in microseconds. -/
def kOneSecond : ℕ := 1000000

/-- `kDiskServerStatsUpdateIntervalUs`. -/
def kDiskServerStatsUpdateIntervalUs : ℕ := 100

/-- `DiskModels = std::array<DiskModel, kNumMaxServers>`. -/
abbrev DiskModels := ℕ → DiskModel

namespace ProfileGuided

/-- `UseIterativeMethod`: is the offered load of `op` below `kStaticWeightPeakLoadThreshold` of
the servers' total peak IOPS, a server in write mode counted at its write peak. -/
def useIterativeMethod (models : DiskModels) (stats : ServerStatsList) (op : OpType)
    (load : SystemLoad) : Option Bool := do
  let totalIopsCapacity ← stats.foldlM (fun (acc : UInt64) srv => do
      let model ← arrayAt? models srv.serverId
      let peakMode := if srv.mode = .kRead then ServerMode.kRead else .kWrite
      let srvLoad ← model.getPeakIOPS peakMode 0
      return acc + srvLoad) 0
  let threshold : ℚ := totalIopsCapacity.toNat * kStaticWeightPeakLoadThreshold
  if op = .kRead then return decide ((load.1.toNat : ℚ) < threshold)
  else return decide ((load.2.toNat : ℚ) < threshold)

/-- `ResetWeights`: `1.0 / num_servers` at every listed server. -/
def resetWeights (weights : ServerWeights) (stats : ServerStatsList) : Option ServerWeights :=
  let defaultWeight : ℚ := 1 / stats.length
  stats.foldlM (fun w srv => arraySet? w srv.serverId defaultWeight) weights

/-- `GetResidualLoad`: the load of the other op still in flight at a server not in read mode,
scaled from the stats interval to a second. -/
def getResidualLoad (server : ServerStats) (op : OpType) : ℚ :=
  if server.mode = .kRead then 0
  else
    let residualLoad : ℕ :=
      if op = .kRead then server.inflightWrites.toNat else server.inflightReads.toNat
    residualLoad * ((kOneSecond : ℚ) / kDiskServerStatsUpdateIntervalUs)

/-- One server's predicted latency at its share of the load plus its residual load. -/
def signalOf (models : DiskModels) (op : OpType) (totalOps : UInt64) (writeRatio : ℚ)
    (weights : ServerWeights) (srv : ServerStats) : Option UInt64 := do
  let residualLoad := getResidualLoad srv op
  let weight ← arrayAt? weights srv.serverId
  let newLoad : ℚ := totalOps.toNat * weight
  let model ← arrayAt? models srv.serverId
  let curLoad ← doubleToUInt64 (newLoad + residualLoad)
  model.getLatency curLoad op srv.mode writeRatio

/-- One server of the signal pass: keep the first server of least signal, add to the sum. -/
def signalStep (models : DiskModels) (op : OpType) (totalOps : UInt64) (writeRatio : ℚ)
    (weights : ServerWeights) (acc : ServerID × UInt64 × UInt64) (srv : ServerStats) :
    Option (ServerID × UInt64 × UInt64) := do
  let sig ← signalOf models op totalOps writeRatio weights srv
  if sig < acc.2.1 then return (srv.serverId, sig, acc.2.2 + sig)
  else return (acc.1, acc.2.1, acc.2.2 + sig)

/-- The signal pass of one iteration: the first server of least signal, its signal, and the sum
of the signals, from `best_server_id = kInvalidServerID` and the largest `uint64_t`. -/
def signalPass (models : DiskModels) (stats : ServerStatsList) (op : OpType) (totalOps : UInt64)
    (writeRatio : ℚ) (weights : ServerWeights) : Option (ServerID × UInt64 × UInt64) :=
  stats.foldlM (signalStep models op totalOps writeRatio weights)
    (kInvalidServerID, UInt64.ofNat (2 ^ 64 - 1), 0)

/-- `is_stable`: the best signal is within `bound` of the mean, relative to the mean; false when
the mean is `0` (the quotient is `NaN`). -/
def isStable (bestSignal sumSignal : UInt64) (numServers : ℕ) (bound : ℚ) : Bool :=
  let meanSignal : ℚ := sumSignal.toNat / numServers
  decide (meanSignal ≠ 0 ∧ |(bestSignal.toNat : ℚ) - meanSignal| / meanSignal ≤ bound)

/-- The weight update of one iteration: the best server's weight becomes
`min(new_best_weight, kMaxWeight)`, every other's `max(scale_factor * weight, kMinWeight)`. -/
def updateWeights (stats : ServerStatsList) (weights : ServerWeights) (best : ServerID)
    (newBestWeight scaleFactor : ℚ) : Option ServerWeights :=
  stats.foldlM (fun w srv => do
      let weight ← arrayAt? w srv.serverId
      let weight :=
        if srv.serverId = best then min newBestWeight kMaxWeight
        else max (scaleFactor * weight) kMinWeight
      arraySet? w srv.serverId weight)
    weights

/-- The loop of `ComputeWeightsIterative`, with `fuel` iterations left: stop with the weights when
stable, fail when the remaining weight or the scale factor is `0`, and fail when the iterations
run out unstable. -/
def iterate (models : DiskModels) (stats : ServerStatsList) (op : OpType) (totalOps : UInt64)
    (writeRatio bound : ℚ) : ℕ → ServerWeights → Option (Status ServerWeights)
  | 0, _ => some (.error EAGAIN)
  | fuel + 1, weights => do
    let (best, bestSignal, sumSignal) ← signalPass models stats op totalOps writeRatio weights
    if isStable bestSignal sumSignal stats.length bound then return .ok weights
    else
      let curBestWeight ← arrayAt? weights best
      let newBestWeight := curBestWeight + kBias
      let curRemWeight := 1 - curBestWeight
      if curRemWeight = 0 then return .error EAGAIN
      else
        let scaleFactor := (1 - newBestWeight) / curRemWeight
        if scaleFactor = 0 then return .error EAGAIN
        else
          let weights ← updateWeights stats weights best newBestWeight scaleFactor
          iterate models stats op totalOps writeRatio bound fuel weights

/-- `ComputeWeightsIterative(stats, op, load, bound)`. -/
def computeWeightsIterative (models : DiskModels) (stats : ServerStatsList) (op : OpType)
    (load : SystemLoad) (bound : ℚ) : Option (Status ServerWeights) :=
  if stats.length < 2 then some (.error EAGAIN)
  else
    let totalOps := load.1 + load.2
    let writeRatio : ℚ := load.2.toNat / totalOps.toNat
    if totalOps = 0 then some (.error EAGAIN)
    else do
      let weights ← resetWeights (fun _ => 0) stats
      iterate models stats op totalOps writeRatio bound kMaxIterations weights

/-- `std::clamp(weight, kMinWeight, kMaxWeight)`. -/
def clampWeight (weight : ℚ) : ℚ :=
  if weight < kMinWeight then kMinWeight else if kMaxWeight < weight then kMaxWeight else weight

/-- The weight of a server on the peak path: its share of the total peak IOPS, `kBias` more at
or above the median peak and `kBias` less below it, clamped. -/
def peakWeight (srvLoad totalIopsCapacity medianLoad : UInt64) : ℚ :=
  let weight : ℚ := srvLoad.toNat / totalIopsCapacity.toNat
  clampWeight (if medianLoad ≤ srvLoad then weight + kBias else weight - kBias)

/-- `ComputeWeightsFromPeak(stats, op, load)`: equal weights when every peak is `0`; otherwise the
peak weights, divided by their sum, or equal weights again when the sum is not positive. -/
def computeWeightsFromPeak (models : DiskModels) (stats : ServerStatsList) (load : SystemLoad) :
    Option (Status ServerWeights) :=
  if stats.length < 2 then some (.error EAGAIN)
  else
    let totalOps := load.1 + load.2
    let writeRatio : ℚ := load.2.toNat / totalOps.toNat
    if totalOps = 0 then some (.error EAGAIN)
    else do
      let weights ← resetWeights (fun _ => 0) stats
      let loads ← stats.mapM fun srv => do
        let model ← arrayAt? models srv.serverId
        model.getPeakIOPS srv.mode writeRatio
      let totalIopsCapacity : UInt64 := loads.foldl (· + ·) 0
      if totalIopsCapacity = 0 then return .ok weights
      else
        let sorted := loads.mergeSort fun a b => decide (a ≤ b)
        let medianLoad ← sorted[sorted.length / 2]?
        let (weights, sumWeights) ← stats.foldlM (fun (acc : ServerWeights × ℚ) srv => do
            let model ← arrayAt? models srv.serverId
            let srvLoad ← model.getPeakIOPS srv.mode writeRatio
            let weight := peakWeight srvLoad totalIopsCapacity medianLoad
            let w ← arraySet? acc.1 srv.serverId weight
            return (w, acc.2 + weight))
          (weights, 0)
        if sumWeights ≤ 0 then
          let weights ← resetWeights weights stats
          return .ok weights
        else
          let weights ← stats.foldlM (fun w srv => do
              let weight ← arrayAt? w srv.serverId
              arraySet? w srv.serverId (weight / sumWeights))
            weights
          return .ok weights

/-- The bound loop of `ComputeWeights`: try the iterative method while `bound` is below
`kMaxIterativeMethodMeanBound`, raising it by `kStableMeanBound` after each failure. -/
def boundLoop (models : DiskModels) (stats : ServerStatsList) (op : OpType) (load : SystemLoad) :
    ℕ → ℚ → Option (Option ServerWeights)
  | 0, _ => some none
  | fuel + 1, bound =>
    if bound < kMaxIterativeMethodMeanBound then do
      match ← computeWeightsIterative models stats op load bound with
      | .ok weights => return some weights
      | .error _ => boundLoop models stats op load fuel (bound + kStableMeanBound)
    else some none

/-- `ProfileGuided::ComputeWeights(stats, op, load)`. -/
def computeWeights (models : DiskModels) (stats : ServerStatsList) (op : OpType)
    (load : SystemLoad) : Option (Status ServerWeights) := do
  let useIterative ← useIterativeMethod models stats op load
  if useIterative then
    match ← boundLoop models stats op load 20 kStableMeanBound with
    | some weights => return .ok weights
    | none => computeWeightsFromPeak models stats load
  else computeWeightsFromPeak models stats load

/-! ## Loops that write one entry per listed server -/

theorem arraySet?_eq_some {α : Type} {arr arr' : ℕ → α} {i : ℕ} {v : α}
    (h : arraySet? arr i v = some arr') : arr' = Function.update arr i v := by
  unfold arraySet? at h
  split_ifs at h
  exact (Option.some.inj h).symm

theorem arrayAt?_eq_some {α : Type} {arr : ℕ → α} {i : ℕ} {v : α} (h : arrayAt? arr i = some v) :
    arr i = v := by
  unfold arrayAt? at h
  split_ifs at h
  exact Option.some.inj h

/-- **A loop that writes each listed key once**, with a value computed from the key's element and
its old value, leaves each key at that value and every other entry as it was. -/
theorem foldlM_pointwise {α β : Type} {k : β → ℕ} {g : β → α → α}
    {step : (ℕ → α) → β → Option (ℕ → α)}
    (hstep : ∀ w x w', step w x = some w' → w' = Function.update w (k x) (g x (w (k x)))) :
    ∀ (l : List β) (w₀ w' : ℕ → α), (l.map k).Nodup → l.foldlM step w₀ = some w' →
      (∀ x ∈ l, w' (k x) = g x (w₀ (k x))) ∧ ∀ i, i ∉ l.map k → w' i = w₀ i := by
  intro l
  induction l with
  | nil =>
    intro w₀ w' _ h
    cases h
    exact ⟨fun _ hx => absurd hx List.not_mem_nil, fun _ _ => rfl⟩
  | cons x xs ih =>
    intro w₀ w' hnd h
    rw [List.foldlM_cons] at h
    obtain ⟨w₁, h₁, hrest⟩ := Option.bind_eq_some_iff.mp h
    have hw₁ := hstep _ _ _ h₁
    rw [List.map_cons, List.nodup_cons] at hnd
    obtain ⟨hpt, hout⟩ := ih w₁ w' hnd.2 hrest
    refine ⟨fun y hy => ?_, fun i hi => ?_⟩
    · rcases List.mem_cons.mp hy with rfl | hy
      · rw [hout _ hnd.1, hw₁, Function.update_self]
      · have hne : k y ≠ k x := fun h => hnd.1 (h ▸ List.mem_map_of_mem hy)
        rw [hpt y hy, hw₁, Function.update_of_ne hne]
    · rw [List.map_cons, List.mem_cons, not_or] at hi
      rw [hout i hi.2, hw₁, Function.update_of_ne hi.1]

/-- **A loop that writes each listed key once and adds the written value to a running sum** ends
with the sum of the entries it wrote, each of which satisfies `P` of its element when every
written value does. -/
theorem foldlM_pointwise_sum {β : Type} {k : β → ℕ} {P : β → ℚ → Prop}
    {step : (ℕ → ℚ) × ℚ → β → Option ((ℕ → ℚ) × ℚ)}
    (hstep : ∀ acc x acc', step acc x = some acc' →
      ∃ v, P x v ∧ acc' = (Function.update acc.1 (k x) v, acc.2 + v)) :
    ∀ (l : List β) (acc acc' : (ℕ → ℚ) × ℚ), (l.map k).Nodup → l.foldlM step acc = some acc' →
      (∀ x ∈ l, P x (acc'.1 (k x))) ∧ acc'.2 = acc.2 + (l.map fun x => acc'.1 (k x)).sum ∧
        ∀ i, i ∉ l.map k → acc'.1 i = acc.1 i := by
  intro l
  induction l with
  | nil =>
    intro acc acc' _ h
    cases h
    exact ⟨fun _ hx => absurd hx List.not_mem_nil, by simp, fun _ _ => rfl⟩
  | cons x xs ih =>
    intro acc acc' hnd h
    rw [List.foldlM_cons] at h
    obtain ⟨acc₁, h₁, hrest⟩ := Option.bind_eq_some_iff.mp h
    obtain ⟨v, hv, rfl⟩ := hstep _ _ _ h₁
    rw [List.map_cons, List.nodup_cons] at hnd
    obtain ⟨hP, hsum, hout⟩ := ih _ acc' hnd.2 hrest
    dsimp only at hsum hout
    have hx : acc'.1 (k x) = v := by rw [hout _ hnd.1, Function.update_self]
    refine ⟨fun y hy => ?_, ?_, fun i hi => ?_⟩
    · rcases List.mem_cons.mp hy with rfl | hy
      · exact hx ▸ hv
      · exact hP y hy
    · rw [hsum, List.map_cons, List.sum_cons, hx, add_assoc]
    · rw [List.map_cons, List.mem_cons, not_or] at hi
      rw [hout i hi.2, Function.update_of_ne hi.1]

variable {models : DiskModels} {stats : ServerStatsList}

/-- `ResetWeights` leaves every listed server at `1 / num_servers`. -/
theorem resetWeights_eq {w w' : ServerWeights} (hnd : (stats.map (·.serverId)).Nodup)
    (h : resetWeights w stats = some w') :
    ∀ srv ∈ stats, w' srv.serverId = 1 / stats.length :=
  (foldlM_pointwise (g := fun _ _ => 1 / (stats.length : ℚ)) (fun _ _ _ h => arraySet?_eq_some h)
    stats w w' hnd h).1

/-- **Equal weights are a distribution** over a list of at least one server. -/
theorem resetWeights_distribution {w w' : ServerWeights} (hnd : (stats.map (·.serverId)).Nodup)
    (hne : stats ≠ []) (h : resetWeights w stats = some w') :
    IsDistribution (stats.map (·.serverId)) w' := by
  refine (isDistribution_uniform (List.map_eq_nil_iff.not.mpr hne)).congr fun i hi => ?_
  obtain ⟨srv, hsrv, rfl⟩ := List.mem_map.mp hi
  rw [resetWeights_eq hnd h srv hsrv, List.length_map]

/-! ## The iterative path -/

section Iterative

variable {op : OpType} {totalOps : UInt64} {writeRatio : ℚ}

theorem signalOf_le {w : ServerWeights} {srv : ServerStats} {sig : UInt64}
    (h : signalOf models op totalOps writeRatio w srv = some sig) :
    sig ≤ kSaturationLatencyPenaltyUs := by
  simp only [signalOf, bind, Option.bind_eq_some_iff] at h
  obtain ⟨_, -, model, -, curLoad, -, hsig⟩ := h
  exact model.getLatency_le hsig

/-- The signal pass from any state: the best server and signal stay as they were, or the best is
a server of the pass with a smaller signal, at most `kSaturationLatencyPenaltyUs`; and after a
server the best signal is at most `kSaturationLatencyPenaltyUs`. -/
theorem foldlM_signalStep {w : ServerWeights} :
    ∀ (l : ServerStatsList) (acc r : ServerID × UInt64 × UInt64),
      l.foldlM (signalStep models op totalOps writeRatio w) acc = some r →
      ((r.1 = acc.1 ∧ r.2.1 = acc.2.1) ∨
        (r.1 ∈ l.map (·.serverId) ∧ r.2.1 < acc.2.1 ∧ r.2.1 ≤ kSaturationLatencyPenaltyUs)) ∧
      (l ≠ [] → r.2.1 ≤ kSaturationLatencyPenaltyUs) := by
  intro l
  induction l with
  | nil =>
    intro acc r h
    cases h
    exact ⟨.inl ⟨rfl, rfl⟩, fun h => absurd rfl h⟩
  | cons x xs ih =>
    intro acc r h
    rw [List.foldlM_cons] at h
    obtain ⟨acc₁, h₁, hrest⟩ := Option.bind_eq_some_iff.mp h
    simp only [signalStep, bind, Option.bind_eq_some_iff] at h₁
    obtain ⟨sig, hsig, hacc₁⟩ := h₁
    have hle := signalOf_le hsig
    obtain ⟨hcases, -⟩ := ih acc₁ r hrest
    by_cases hlt : sig < acc.2.1
    · rw [if_pos hlt] at hacc₁
      cases hacc₁
      have hr : r.1 ∈ (x :: xs).map (·.serverId) ∧ r.2.1 < acc.2.1 ∧
          r.2.1 ≤ kSaturationLatencyPenaltyUs := by
        rcases hcases with ⟨h1, h2⟩ | ⟨hmem, hlt', hle'⟩
        · exact ⟨h1 ▸ List.mem_cons_self, h2 ▸ hlt, h2 ▸ hle⟩
        · exact ⟨List.mem_cons_of_mem _ hmem, UInt64.lt_trans hlt' hlt, hle'⟩
      exact ⟨.inr hr, fun _ => hr.2.2⟩
    · rw [if_neg hlt] at hacc₁
      cases hacc₁
      have hge : acc.2.1 ≤ kSaturationLatencyPenaltyUs :=
        UInt64.le_trans (UInt64.not_lt.mp hlt) hle
      refine ⟨?_, fun _ => ?_⟩
      · rcases hcases with ⟨h1, h2⟩ | ⟨hmem, hlt', hle'⟩
        · exact .inl ⟨h1, h2⟩
        · exact .inr ⟨List.mem_cons_of_mem _ hmem, hlt', hle'⟩
      · rcases hcases with ⟨-, h2⟩ | ⟨-, -, hle'⟩
        · exact h2 ▸ hge
        · exact hle'

/-- **The best server of a signal pass is a listed server**: every signal is at most
`kSaturationLatencyPenaltyUs`, below the initial best signal. -/
theorem signalPass_best_mem {w : ServerWeights} {r : ServerID × UInt64 × UInt64}
    (hne : stats ≠ []) (h : signalPass models stats op totalOps writeRatio w = some r) :
    r.1 ∈ stats.map (·.serverId) := by
  obtain ⟨hcases, hle⟩ := foldlM_signalStep stats _ r h
  rcases hcases with ⟨-, h2⟩ | ⟨hmem, -, -⟩
  · have hmax := hle hne
    rw [h2] at hmax
    exact absurd hmax (by decide)
  · exact hmem

/-- The weight update leaves the best server at `min new_best_weight 1` and every other listed
server at `max (scale_factor * weight) 0`. -/
theorem updateWeights_eq {w w' : ServerWeights} {best : ServerID} {newBest scale : ℚ}
    (hnd : (stats.map (·.serverId)).Nodup) (h : updateWeights stats w best newBest scale = some w') :
    ∀ srv ∈ stats, w' srv.serverId =
      if srv.serverId = best then min newBest 1 else max (scale * w srv.serverId) 0 := by
  refine (foldlM_pointwise (g := fun srv v =>
      if srv.serverId = best then min newBest kMaxWeight else max (scale * v) kMinWeight)
    (fun w srv w' h => ?_) stats w w' hnd h).1
  simp only [bind, Option.bind_eq_some_iff] at h
  obtain ⟨v, hv, hset⟩ := h
  rw [arraySet?_eq_some hset, arrayAt?_eq_some hv]

/-- **One iteration keeps the weights a distribution.** An iteration that does not stop moves
`kBias` to the best server and rescales the others, which `IsDistribution.boost` shows keeps the
listed servers' weights a distribution. -/
theorem updateWeights_distribution {w w' : ServerWeights} {best : ServerID}
    (hnd : (stats.map (·.serverId)).Nodup) (hw : IsDistribution (stats.map (·.serverId)) w)
    (hbest : best ∈ stats.map (·.serverId)) (hrem : 1 - w best ≠ 0)
    (h : updateWeights stats w best (w best + kBias) ((1 - (w best + kBias)) / (1 - w best)) =
      some w') :
    IsDistribution (stats.map (·.serverId)) w' := by
  refine (hw.boost hnd hbest (show (0 : ℚ) ≤ kBias by norm_num [kBias]) hrem).congr fun i hi => ?_
  obtain ⟨srv, hsrv, rfl⟩ := List.mem_map.mp hi
  exact updateWeights_eq hnd h srv hsrv

/-- **Every iteration of `ComputeWeightsIterative`'s loop keeps the weights a distribution**, so
whatever the loop returns is one. -/
theorem iterate_distribution {bound : ℚ} (hnd : (stats.map (·.serverId)).Nodup) (hne : stats ≠ []) :
    ∀ (fuel : ℕ) (w w' : ServerWeights), IsDistribution (stats.map (·.serverId)) w →
      iterate models stats op totalOps writeRatio bound fuel w = some (.ok w') →
      IsDistribution (stats.map (·.serverId)) w' := by
  intro fuel
  induction fuel with
  | zero =>
    intro w w' _ h
    cases h
  | succ fuel ih =>
    intro w w' hw h
    simp only [iterate, bind, Option.bind_eq_some_iff] at h
    obtain ⟨⟨best, bestSignal, sumSignal⟩, hpass, h⟩ := h
    have hbest := signalPass_best_mem hne hpass
    split_ifs at h with hstable
    · cases h
      exact hw
    · obtain ⟨cur, hcur, h⟩ := Option.bind_eq_some_iff.mp h
      rw [← arrayAt?_eq_some hcur] at h
      split_ifs at h with hrem hscale
      · cases h
      · cases h
      · obtain ⟨w₁, hupd, hrest⟩ := Option.bind_eq_some_iff.mp h
        exact ih w₁ w' (updateWeights_distribution hnd hw hbest hrem hupd) hrest

end Iterative

/-- **`ComputeWeightsIterative` returns a distribution** over servers with distinct ids: it starts
from equal weights, and every iteration keeps a distribution. -/
theorem computeWeightsIterative_distribution {op : OpType} {load : SystemLoad} {bound : ℚ}
    {w : ServerWeights} (hnd : (stats.map (·.serverId)).Nodup)
    (h : computeWeightsIterative models stats op load bound = some (.ok w)) :
    IsDistribution (stats.map (·.serverId)) w := by
  unfold computeWeightsIterative at h
  dsimp only at h
  split_ifs at h with hlen hzero
  · cases h
  · cases h
  · have hne : stats ≠ [] := fun h' => hlen (by simp [h'])
    obtain ⟨w₀, hreset, hiter⟩ := Option.bind_eq_some_iff.mp h
    exact iterate_distribution hnd hne _ w₀ w (resetWeights_distribution hnd hne hreset) hiter

/-! ## The peak path -/

theorem clampWeight_mem (weight : ℚ) : 0 ≤ clampWeight weight ∧ clampWeight weight ≤ 1 := by
  unfold clampWeight kMinWeight kMaxWeight
  split_ifs <;> constructor <;> linarith

theorem clampWeight_mono {a b : ℚ} (h : a ≤ b) : clampWeight a ≤ clampWeight b := by
  unfold clampWeight kMinWeight kMaxWeight
  split_ifs <;> linarith

/-- **A larger peak never gets a smaller weight**: both peaks are compared with the same median,
so a peak below the median has a smaller share and the smaller bias, and the clamp is
monotone. -/
theorem peakWeight_mono {srvLoad srvLoad' : UInt64} (totalIopsCapacity medianLoad : UInt64)
    (h : srvLoad ≤ srvLoad') :
    peakWeight srvLoad totalIopsCapacity medianLoad ≤
      peakWeight srvLoad' totalIopsCapacity medianLoad := by
  have hshare : (srvLoad.toNat : ℚ) / totalIopsCapacity.toNat ≤
      (srvLoad'.toNat : ℚ) / totalIopsCapacity.toNat :=
    div_le_div_of_nonneg_right (Nat.cast_le.mpr (UInt64.le_iff_toNat_le.mp h)) (Nat.cast_nonneg _)
  have hbias : (0 : ℚ) ≤ kBias := by norm_num [kBias]
  unfold peakWeight
  apply clampWeight_mono
  -- the bias can only grow with the peak: below the median is below every peak at or above it
  split_ifs with h₁ h₂ h₂
  · linarith
  · exact absurd (UInt64.le_trans h₁ h) h₂
  · linarith
  · linarith

/-- The peak loop writes each listed server's clamped peak weight and sums what it writes. -/
theorem peakLoop_spec {writeRatio : ℚ} {totalIopsCapacity medianLoad : UInt64}
    {acc₀ acc : ServerWeights × ℚ} (hnd : (stats.map (·.serverId)).Nodup)
    (h : stats.foldlM (fun (acc : ServerWeights × ℚ) srv => do
        let model ← arrayAt? models srv.serverId
        let srvLoad ← model.getPeakIOPS srv.mode writeRatio
        let weight := peakWeight srvLoad totalIopsCapacity medianLoad
        let w ← arraySet? acc.1 srv.serverId weight
        return (w, acc.2 + weight)) acc₀ = some acc) :
    (∀ srv ∈ stats, ∃ srvLoad, (models srv.serverId).getPeakIOPS srv.mode writeRatio = some srvLoad ∧
        acc.1 srv.serverId = peakWeight srvLoad totalIopsCapacity medianLoad) ∧
      acc.2 = acc₀.2 + (stats.map fun srv => acc.1 srv.serverId).sum := by
  refine (foldlM_pointwise_sum (P := fun srv v => ∃ srvLoad,
      (models srv.serverId).getPeakIOPS srv.mode writeRatio = some srvLoad ∧
        v = peakWeight srvLoad totalIopsCapacity medianLoad) (fun acc srv acc' h => ?_)
    stats acc₀ acc hnd h).imp id And.left
  simp only [bind, Option.bind_eq_some_iff, pure, Option.some.injEq] at h
  obtain ⟨model, hmodel, srvLoad, hload, w, hset, rfl⟩ := h
  rw [← arrayAt?_eq_some hmodel] at hload
  exact ⟨_, ⟨srvLoad, hload, rfl⟩, by rw [arraySet?_eq_some hset]⟩

/-- The normalising loop divides each listed server's weight by `sum_weights`. -/
theorem normalizeLoop_eq {w₀ w : ServerWeights} {sumWeights : ℚ}
    (hnd : (stats.map (·.serverId)).Nodup)
    (h : stats.foldlM (fun w srv => do
        let weight ← arrayAt? w srv.serverId
        arraySet? w srv.serverId (weight / sumWeights)) w₀ = some w) :
    ∀ srv ∈ stats, w srv.serverId = w₀ srv.serverId / sumWeights := by
  refine (foldlM_pointwise (g := fun _ v => v / sumWeights) (fun w srv w' h => ?_)
    stats w₀ w hnd h).1
  obtain ⟨v, hv, hset⟩ := Option.bind_eq_some_iff.mp h
  rw [arraySet?_eq_some hset, arrayAt?_eq_some hv]

/-- **What `ComputeWeightsFromPeak` returns**, over servers with distinct ids: equal weights
(when the peaks sum to `0`, or the clamped weights do), or each listed server's clamped peak
weight divided by their positive sum. -/
theorem computeWeightsFromPeak_cases {load : SystemLoad} {w : ServerWeights}
    (hnd : (stats.map (·.serverId)).Nodup)
    (h : computeWeightsFromPeak models stats load = some (.ok w)) :
    stats ≠ [] ∧
      ((∃ w₀, resetWeights w₀ stats = some w) ∨
        ∃ (totalIopsCapacity medianLoad : UInt64) (w₁ : ServerWeights),
          0 < ((stats.map (·.serverId)).map w₁).sum ∧
          (∀ srv ∈ stats, ∃ srvLoad, (models srv.serverId).getPeakIOPS srv.mode
              ((load.2.toNat : ℚ) / (load.1 + load.2).toNat) = some srvLoad ∧
            w₁ srv.serverId = peakWeight srvLoad totalIopsCapacity medianLoad) ∧
          ∀ srv ∈ stats, w srv.serverId = w₁ srv.serverId / ((stats.map (·.serverId)).map w₁).sum) := by
  unfold computeWeightsFromPeak at h
  dsimp only at h
  split_ifs at h with hlen hzero
  · cases h
  · cases h
  have hne : stats ≠ [] := fun h' => hlen (by simp [h'])
  refine ⟨hne, ?_⟩
  simp only [bind, Option.bind_eq_some_iff] at h
  obtain ⟨w₀, hreset, loads, -, h⟩ := h
  split_ifs at h with htotal
  · cases h
    exact .inl ⟨_, hreset⟩
  obtain ⟨median, -, h⟩ := Option.bind_eq_some_iff.mp h
  obtain ⟨⟨w₁, sumWeights⟩, hloop, h⟩ := Option.bind_eq_some_iff.mp h
  obtain ⟨hmem, hsum⟩ := peakLoop_spec hnd hloop
  dsimp only at h hsum
  have hsum' : ((stats.map (·.serverId)).map w₁).sum = sumWeights := by
    rw [hsum, zero_add, List.map_map]
    rfl
  split_ifs at h with hle
  · -- a sum that is not positive falls back to equal weights
    obtain ⟨w₂, hreset₂, h⟩ := Option.bind_eq_some_iff.mp h
    cases h
    exact .inl ⟨_, hreset₂⟩
  · obtain ⟨w₂, hnorm, h⟩ := Option.bind_eq_some_iff.mp h
    cases h
    refine .inr ⟨_, median, w₁, hsum' ▸ lt_of_not_ge hle, hmem, fun srv hsrv => ?_⟩
    rw [normalizeLoop_eq hnd hnorm srv hsrv, hsum']

/-- **`ComputeWeightsFromPeak` returns a distribution** over servers with distinct ids: equal
weights when the peaks sum to `0` or the clamped weights do, and otherwise the clamped weights
divided by their positive sum. -/
theorem computeWeightsFromPeak_distribution {load : SystemLoad} {w : ServerWeights}
    (hnd : (stats.map (·.serverId)).Nodup)
    (h : computeWeightsFromPeak models stats load = some (.ok w)) :
    IsDistribution (stats.map (·.serverId)) w := by
  obtain ⟨hne, ⟨w₀, hreset⟩ | ⟨_, _, w₁, hpos, hpeak, hnorm⟩⟩ := computeWeightsFromPeak_cases hnd h
  · exact resetWeights_distribution hnd hne hreset
  · refine (isDistribution_normalize (fun i hi => ?_) hpos).congr fun i hi => ?_
    · obtain ⟨srv, hsrv, rfl⟩ := List.mem_map.mp hi
      obtain ⟨srvLoad, -, hw⟩ := hpeak srv hsrv
      rw [hw]
      exact (clampWeight_mem _).1
    · obtain ⟨srv, hsrv, rfl⟩ := List.mem_map.mp hi
      exact hnorm srv hsrv

/-- **Peak weights keep the order of the peaks**: over servers with distinct ids, a listed server
whose peak IOPS is at least another's gets at least its weight. Equal weights keep it trivially,
and a positive normaliser keeps the order of the clamped peak weights. -/
theorem computeWeightsFromPeak_monotone {load : SystemLoad} {w : ServerWeights}
    (hnd : (stats.map (·.serverId)).Nodup)
    (h : computeWeightsFromPeak models stats load = some (.ok w))
    {a b : ServerStats} (ha : a ∈ stats) (hb : b ∈ stats) {peakA peakB : UInt64}
    (hpa : (models a.serverId).getPeakIOPS a.mode
      ((load.2.toNat : ℚ) / (load.1 + load.2).toNat) = some peakA)
    (hpb : (models b.serverId).getPeakIOPS b.mode
      ((load.2.toNat : ℚ) / (load.1 + load.2).toNat) = some peakB)
    (hle : peakB ≤ peakA) :
    w b.serverId ≤ w a.serverId := by
  obtain ⟨-, ⟨w₀, hreset⟩ | ⟨total, median, w₁, hpos, hpeak, hnorm⟩⟩ :=
    computeWeightsFromPeak_cases hnd h
  · rw [resetWeights_eq hnd hreset a ha, resetWeights_eq hnd hreset b hb]
  · obtain ⟨loadA, hloadA, hwA⟩ := hpeak a ha
    obtain ⟨loadB, hloadB, hwB⟩ := hpeak b hb
    rw [hpa, Option.some.injEq] at hloadA
    rw [hpb, Option.some.injEq] at hloadB
    subst hloadA hloadB
    rw [hnorm a ha, hnorm b hb, hwA, hwB]
    exact div_le_div_of_nonneg_right (peakWeight_mono total median hle) hpos.le

/-- The sort of `ComputeWeightsFromPeak` puts the peaks in the order insertion sort gives. -/
theorem mergeSort_le_eq_insertionSort (l : List UInt64) :
    l.mergeSort (fun a b => decide (a ≤ b)) = l.insertionSort (fun a b => a ≤ b) := by
  have : Std.Total (fun a b : UInt64 => a ≤ b) := ⟨UInt64.le_total⟩
  have : IsTrans UInt64 (fun a b => a ≤ b) := ⟨fun _ _ _ => UInt64.le_trans⟩
  refine List.Perm.eq_of_pairwise (fun a b _ _ h₁ h₂ => UInt64.le_antisymm (of_decide_eq_true h₁)
    (of_decide_eq_true h₂)) (List.pairwise_mergeSort (fun a b c h₁ h₂ => ?_) (fun a b => ?_) _)
    ?_ ((List.mergeSort_perm _ _).trans (List.perm_insertionSort _ _).symm)
  · exact decide_eq_true (UInt64.le_trans (of_decide_eq_true h₁) (of_decide_eq_true h₂))
  · rcases UInt64.le_total a b with h | h <;> simp [h]
  · simpa using List.pairwise_insertionSort (fun a b : UInt64 => a ≤ b) l

/-- A call the kernel has evaluated: it returned weights, and they have property `P`. -/
theorem exists_ok_of_check {P : ServerWeights → Prop} [DecidablePred P]
    {r : Option (Status ServerWeights)}
    (h : (match r with | some (.ok w) => decide (P w) | _ => false) = true) :
    ∃ w, r = some (.ok w) ∧ P w := by
  split at h
  · exact ⟨_, rfl, of_decide_eq_true h⟩
  · cases h

/-- Disk models in which server `1` peaks at `95` reads and `9` writes a second, once dampened,
and server `2` at `47` reads. -/
def dupModels : DiskModels := fun i =>
  if i = 1 then ⟨[100], [0], [10], [0], []⟩
  else if i = 2 then ⟨[50], [0], [], [], []⟩
  else ⟨[], [], [], [], []⟩

/-- Server `1` listed twice, in read mode and in write mode, around server `2`. -/
def dupStats : ServerStatsList :=
  [{ ServerStats.zero with serverId := 1, mode := .kRead },
   { ServerStats.zero with serverId := 2, mode := .kRead },
   { ServerStats.zero with serverId := 1, mode := .kWrite }]

/-- With a server listed twice the order is lost: the weight of server `1` is the one its last
entry writes, from its write peak, and is divided by the sum once per entry, so server `1` with
read peak `95` ends below server `2` with peak `47`. -/
theorem computeWeightsFromPeak_duplicate_id :
    (dupModels 1).getPeakIOPS .kRead 0 = some 95 ∧ (dupModels 2).getPeakIOPS .kRead 0 = some 47 ∧
      ∃ w, computeWeightsFromPeak dupModels dupStats (1, 0) = some (.ok w) ∧ w 1 < w 2 := by
  refine ⟨by decide +kernel, by decide +kernel, exists_ok_of_check ?_⟩
  simp only [computeWeightsFromPeak, mergeSort_le_eq_insertionSort]
  decide +kernel

/-- `computeWeightsFromPeak_monotone` for servers `1` and `2` of peaks `95` and `47`. -/
theorem computeWeightsFromPeak_monotone_two_servers :
    ∃ w, computeWeightsFromPeak dupModels (dupStats.take 2) (1, 0) = some (.ok w) ∧ w 2 ≤ w 1 := by
  obtain ⟨w, hw, -⟩ := exists_ok_of_check (P := fun _ => True)
    (r := computeWeightsFromPeak dupModels (dupStats.take 2) (1, 0)) (by
      simp only [computeWeightsFromPeak, mergeSort_le_eq_insertionSort]
      decide +kernel)
  exact ⟨w, hw, @computeWeightsFromPeak_monotone _ _ _ _ (by decide) hw dupStats[0] dupStats[1]
    (by decide) (by decide) 95 47 (by decide +kernel) (by decide +kernel) (by decide)⟩

/-! ## `ComputeWeights` -/

/-- Whatever weights the bound loop returns came from `ComputeWeightsIterative`. -/
theorem boundLoop_distribution {op : OpType} {load : SystemLoad}
    (hnd : (stats.map (·.serverId)).Nodup) :
    ∀ (fuel : ℕ) (bound : ℚ) (w : ServerWeights),
      boundLoop models stats op load fuel bound = some (some w) →
      IsDistribution (stats.map (·.serverId)) w := by
  intro fuel
  induction fuel with
  | zero =>
    intro bound w h
    cases h
  | succ fuel ih =>
    intro bound w h
    unfold boundLoop at h
    split_ifs at h with hbound
    · obtain ⟨r, hr, h⟩ := Option.bind_eq_some_iff.mp h
      cases r with
      | ok w' =>
        cases h
        exact computeWeightsIterative_distribution hnd hr
      | error _ => exact ih _ w h
    · cases h

theorem computeWeights_distribution {op : OpType} {load : SystemLoad} {w : ServerWeights}
    (hnd : (stats.map (·.serverId)).Nodup) (h : computeWeights models stats op load = some (.ok w)) :
    IsDistribution (stats.map (·.serverId)) w := by
  obtain ⟨useIterative, -, h⟩ := Option.bind_eq_some_iff.mp h
  split_ifs at h with huse
  · obtain ⟨r, hr, h⟩ := Option.bind_eq_some_iff.mp h
    cases r with
    | some w' =>
      cases h
      exact boundLoop_distribution hnd _ _ _ hr
    | none => exact computeWeightsFromPeak_distribution hnd h
  · exact computeWeightsFromPeak_distribution hnd h

/-- **Profile-guided weights are a probability distribution** over servers with distinct ids:
one iteration of the iterative method keeps a distribution, also when the best server's boost
overshoots `kMaxWeight`; so do the whole iteration loop and `ComputeWeightsIterative`; every branch
of `ComputeWeightsFromPeak` returns one; and so does `ComputeWeights`. -/
theorem profileGuided_distribution (hnd : (stats.map (·.serverId)).Nodup) (hne : stats ≠ []) :
    (∀ (op : OpType) (totalOps : UInt64) (writeRatio : ℚ) (w w' : ServerWeights)
        (r : ServerID × UInt64 × UInt64),
        IsDistribution (stats.map (·.serverId)) w →
        signalPass models stats op totalOps writeRatio w = some r → 1 - w r.1 ≠ 0 →
        updateWeights stats w r.1 (w r.1 + kBias) ((1 - (w r.1 + kBias)) / (1 - w r.1)) = some w' →
        IsDistribution (stats.map (·.serverId)) w') ∧
    (∀ (op : OpType) (totalOps : UInt64) (writeRatio bound : ℚ) (fuel : ℕ) (w w' : ServerWeights),
        IsDistribution (stats.map (·.serverId)) w →
        iterate models stats op totalOps writeRatio bound fuel w = some (.ok w') →
        IsDistribution (stats.map (·.serverId)) w') ∧
    (∀ (op : OpType) (load : SystemLoad) (bound : ℚ) (w : ServerWeights),
        computeWeightsIterative models stats op load bound = some (.ok w) →
        IsDistribution (stats.map (·.serverId)) w) ∧
    (∀ (load : SystemLoad) (w : ServerWeights),
        computeWeightsFromPeak models stats load = some (.ok w) →
        IsDistribution (stats.map (·.serverId)) w) ∧
    (∀ (op : OpType) (load : SystemLoad) (w : ServerWeights),
        computeWeights models stats op load = some (.ok w) →
        IsDistribution (stats.map (·.serverId)) w) :=
  ⟨fun _ _ _ _ _ _ hw hpass hrem hupd =>
      updateWeights_distribution hnd hw (signalPass_best_mem hne hpass) hrem hupd,
    fun _ _ _ _ fuel w w' hw h => iterate_distribution hnd hne fuel w w' hw h,
    fun _ _ _ _ h => computeWeightsIterative_distribution hnd h,
    fun _ _ h => computeWeightsFromPeak_distribution hnd h,
    fun _ _ _ h => computeWeights_distribution hnd h⟩

/-- Read tables of three points: server `1` saturates at its third point and peaks at `190`
reads a second once dampened, server `2` at its second point and peaks at `95`. Both answer
`100 µs` up to `100` reads a second. -/
def threePointModels : DiskModels := fun i =>
  if i = 1 then ⟨[100, 200, 300], [100, 500, 1000], [], [], []⟩
  else if i = 2 then ⟨[100, 200, 300], [100, 1000, 1050], [], [], []⟩
  else ⟨[], [], [], [], []⟩

/-- Servers `1` and `2`, both in read mode. -/
def twoServerStats : ServerStatsList :=
  [{ ServerStats.zero with serverId := 1, mode := .kRead },
   { ServerStats.zero with serverId := 2, mode := .kRead }]

/-- `profileGuided_distribution` for servers `1` and `2` on `threePointModels`, down both paths
of `ComputeWeights`: `2` reads a second take the iterative method, whose first signal pass is
already stable at equal weights; `1000` reads a second, above the servers' peak, take the peak
path, which weights server `1` above server `2`. -/
theorem profileGuided_distribution_two_servers :
    (twoServerStats.map (·.serverId)).Nodup ∧ twoServerStats ≠ [] ∧
    (∃ w, computeWeights threePointModels twoServerStats .kRead (2, 0) = some (.ok w) ∧
      IsDistribution (twoServerStats.map (·.serverId)) w) ∧
    (∃ w, computeWeights threePointModels twoServerStats .kRead (1000, 0) = some (.ok w) ∧
      IsDistribution (twoServerStats.map (·.serverId)) w ∧ w 2 < w 1) := by
  have hnd : (twoServerStats.map (·.serverId)).Nodup := by decide
  have hne : twoServerStats ≠ [] := List.cons_ne_nil _ _
  have hdist : ∀ op load w, computeWeights threePointModels twoServerStats op load = some (.ok w) →
      IsDistribution (twoServerStats.map (·.serverId)) w :=
    (profileGuided_distribution hnd hne).2.2.2.2
  -- the iterative path: its first signal pass is stable
  obtain ⟨w₁, hw₁, -⟩ := exists_ok_of_check (P := fun _ => True)
    (r := computeWeights threePointModels twoServerStats .kRead (2, 0)) (by
      simp only [computeWeights]
      decide +kernel)
  -- the peak path
  obtain ⟨w₂, hw₂, hlt⟩ := exists_ok_of_check (P := fun w => w 2 < w 1)
    (r := computeWeights threePointModels twoServerStats .kRead (1000, 0)) (by
      simp only [computeWeights, computeWeightsFromPeak, mergeSort_le_eq_insertionSort]
      decide +kernel)
  exact ⟨hnd, hne, ⟨w₁, hw₁, hdist _ _ _ hw₁⟩, ⟨w₂, hw₂, hdist _ _ _ hw₂, hlt⟩⟩

end ProfileGuided

end Sandook.ControlPlane
