import Sandook.DiskServer.DiskMonitor
import Sandook.DiskModel.Model

/-!
# The disk monitor's mode and congestion state machine (`disk_server/disk_monitor.h`)

Model of the members of `DiskMonitor` that decide what a disk server tells its clients:
`SetModeAndWeights`, `IsModeSwitchGracePeriod`, `IsAllowingWrites` and `IsCongested`, the
rounds of the flusher thread (`Flush()` then `UpdateCongestionState()`), `CalculateLoad`, and
`SetIsRejectionsEnabled`, which the registration reply calls. The state extends the members
`GetServerStats` reports (`DiskMonitor`), so the report carries this state's
`congestion_state`.

* A `double` is its exact rational. `static_cast<uint64_t>` of a load is `doubleToUInt64`.
* `MicroTime()` is the time each event carries. `MicroTime() - mode_switch_time_us_` is a
  `uint64_t` difference.
* The t-digests are not modelled: a round of the flusher takes the quantiles they return
  (`Quantiles`, already converted to the `uint64_t` members). The latency buffers that feed them,
  the statistics counters, and the logger are left out.
* `model_.GetLatency` is `DiskModel.getLatency`. Its `none` (a throw, or an empty table's
  undefined read) stops the round (`none`).

Results:
* `reachable_ratioInv`: in every reachable state, a `kCongestedUnstable` server compares its
  signal with `kCongestedUnstableFactor`, and a `kCongestedStable` one with
  `kCongestedStableFactor`.
* `recovery_takes_three_flushes`: a congested server reports `kUnCongested` again only after at
  least three rounds of the flusher, unless one of them falls in a mode switch's grace period.
-/

namespace Sandook.DiskServer

/-! ## Constants -/

/-- `kDiskServerModeSwitchGracePeriodUs = 1 * kOneMilliSecond`. -/
def kDiskServerModeSwitchGracePeriodUs : ℕ := 1000

/-- `kCongestionLatencyThresholdUs`. -/
def kCongestionLatencyThresholdUs : ℕ := 2500

/-- `kCongestionSignalRatioThreshold`. -/
def kCongestionSignalRatioThreshold : ℚ := 5 / 2

/-- `static_cast<uint64_t>(kMinExpectedLatencyUs)`. -/
def kMinExpectedLatencyUs : ℕ := 1

/-- `kCongestedUnstableFactor`. -/
def kCongestedUnstableFactor : ℚ := 7 / 10

/-- `kCongestedStableFactor`. -/
def kCongestedStableFactor : ℚ := 9 / 10

/-- `kLoadScaleFactor = kOneSecond / kLoadCalculationIntervalUs` (`1000000 / 5000`). -/
def kLoadScaleFactor : ℚ := 200

/-! ## The state and its operations -/

/-- What `FlushReads` or `FlushWrites` takes from its t-digest: `quantile(kP50)`,
`quantile(kP90)` and `quantile(kP99)`. -/
structure Quantiles where
  p50 : UInt64
  p90 : UInt64
  p99 : UInt64
  deriving DecidableEq, Repr

/-- The members of `DiskMonitor` that the mode, the flusher, the load calculator and the
congestion state machine read and write, over those `GetServerStats` reports. -/
structure MonitorState extends DiskMonitor where
  isRejectionsEnabled : Bool
  model : DiskModel
  modeSwitchTimeUs : UInt64
  p90ReadLatencyTd : UInt64
  p99ReadLatencyTd : UInt64
  p90WriteLatencyTd : UInt64
  p99WriteLatencyTd : UInt64
  readLoadOps : UInt64
  writeLoadOps : UInt64
  totalLoadOps : UInt64
  writeRatio : ℚ
  signalRatio : ℚ
  stateTransitionRatio : ℚ

namespace MonitorState

/-- `IsModeSwitchGracePeriod()` at time `now`. -/
def isModeSwitchGracePeriod (m : MonitorState) (now : UInt64) : Bool :=
  decide ((now - m.modeSwitchTimeUs).toNat ≤ kDiskServerModeSwitchGracePeriodUs)

/-- `IsCongested()`. -/
def isCongested (m : MonitorState) : Bool := decide (m.congestionState = .kCongested)

/-- `IsAllowingWrites()` at time `now`. -/
def isAllowingWrites (m : MonitorState) (now : UInt64) : Bool :=
  decide (m.mode ≠ .kRead) || m.isModeSwitchGracePeriod now

/-- `SetModeAndWeights(mode, read_weight, write_weight)` at time `now`: a new mode restarts the
grace period. -/
def setModeAndWeights (m : MonitorState) (now : UInt64) (mode : ServerMode)
    (readWeight writeWeight : ServerWeight) : MonitorState :=
  { m with
    modeSwitchTimeUs := if mode ≠ m.mode then now else m.modeSwitchTimeUs
    mode, readWeight, writeWeight }

/-- `SetIsRejectionsEnabled(is_rejections_enabled)`, with the model it loads. -/
def setIsRejectionsEnabled (m : MonitorState) (enabled : Bool) (model : DiskModel) :
    MonitorState :=
  { m with isRejectionsEnabled := enabled, model }

/-- `FlushReads()`: the read latency quantiles, and the p99 as the read signal. -/
def flushReads (m : MonitorState) (q : Quantiles) : MonitorState :=
  { m with
    medianReadLatencyTd := q.p50
    p90ReadLatencyTd := q.p90
    p99ReadLatencyTd := q.p99
    signalReadLatency := q.p99 }

/-- `FlushWrites()`: the write latency quantiles, and the p99 as the write signal. -/
def flushWrites (m : MonitorState) (q : Quantiles) : MonitorState :=
  { m with
    medianWriteLatencyTd := q.p50
    p90WriteLatencyTd := q.p90
    p99WriteLatencyTd := q.p99
    signalWriteLatency := q.p99 }

/-- `CalculateLoad()` with the sums `get_sum_and_reset` took of `disk_reads_` and
`disk_writes_`. -/
def calculateLoad (m : MonitorState) (diskReads diskWrites : UInt64) : Option MonitorState := do
  let readLoadOps ← doubleToUInt64 (diskReads.toNat * kLoadScaleFactor)
  let writeLoadOps ← doubleToUInt64 (diskWrites.toNat * kLoadScaleFactor)
  let totalLoadOps := readLoadOps + writeLoadOps
  let writeRatio : ℚ :=
    if 0 < totalLoadOps then (writeLoadOps.toNat : ℚ) / totalLoadOps.toNat else 0
  return { m with readLoadOps, writeLoadOps, totalLoadOps, writeRatio }

/-- The expected latency of `op` at the current load:
`std::max<uint64_t>(model_.GetLatency(...), kMinExpectedLatencyUs)`. -/
def expectedLatency (m : MonitorState) (op : OpType) : Option ℚ :=
  (m.model.getLatency m.totalLoadOps op m.mode m.writeRatio).map fun l =>
    ((max l.toNat kMinExpectedLatencyUs : ℕ) : ℚ)

/-- `signal_ratio_`: the larger of the observed-to-expected ratios of reads and writes, each
observed at p99 in its own pure mode and at p90 otherwise. -/
def signalRatioOf (m : MonitorState) (expReadLat expWriteLat : ℚ) : ℚ :=
  let obsReadSig : ℚ :=
    (if m.mode = .kRead then m.p99ReadLatencyTd else m.p90ReadLatencyTd).toNat
  let obsWriteSig : ℚ :=
    (if m.mode = .kWrite then m.p99WriteLatencyTd else m.p90WriteLatencyTd).toNat
  max (obsReadSig / expReadLat) (obsWriteSig / expWriteLat)

/-- `is_congested_abs || is_congested_ratio`. -/
def IsCongestedSignal (m : MonitorState) : Prop :=
  kCongestionLatencyThresholdUs < m.signalReadLatency.toNat ∨
    kCongestionLatencyThresholdUs < m.signalWriteLatency.toNat ∨
    kCongestionSignalRatioThreshold < m.signalRatio

instance (m : MonitorState) : Decidable m.IsCongestedSignal :=
  inferInstanceAs (Decidable (_ ∨ _ ∨ _))

/-- The transitions of `UpdateCongestionState()` when the signal is below both thresholds:
`kCongested` to `kCongestedUnstable`; `kCongestedUnstable` to `kCongestedStable` when the
signal passes the threshold; `kCongestedStable` to `kUnCongested` when it falls below it. -/
def settle (m : MonitorState) : MonitorState :=
  match m.congestionState with
  | .kCongested =>
    { m with
      congestionState := .kCongestedUnstable
      stateTransitionRatio := kCongestedUnstableFactor }
  | .kCongestedUnstable =>
    if m.stateTransitionRatio < m.signalRatio then
      { m with
        congestionState := .kCongestedStable
        stateTransitionRatio := kCongestedStableFactor }
    else m
  | .kCongestedStable =>
    if m.signalRatio < m.stateTransitionRatio then { m with congestionState := .kUnCongested }
    else m
  | _ => m

/-- `UpdateCongestionState()` at time `now`: nothing while rejections are disabled,
`kUnCongested` in the grace period, and otherwise the new signal ratio, then `kCongested` if
the signal crosses a threshold or one step of `settle`. -/
def updateCongestionState (m : MonitorState) (now : UInt64) : Option MonitorState :=
  if !m.isRejectionsEnabled then some m
  else if m.isModeSwitchGracePeriod now then some { m with congestionState := .kUnCongested }
  else do
    let expReadLat ← m.expectedLatency .kRead
    let expWriteLat ← m.expectedLatency .kWrite
    let m := { m with signalRatio := m.signalRatioOf expReadLat expWriteLat }
    if m.IsCongestedSignal then return { m with congestionState := .kCongested }
    else return m.settle

/-- One round of `Flusher()` at time `now`: `Flush()`, then `UpdateCongestionState()`. -/
def flush (m : MonitorState) (now : UInt64) (reads writes : Quantiles) : Option MonitorState :=
  ((m.flushReads reads).flushWrites writes).updateCongestionState now

/-- `UpdateStats`, on the monitor's counts. -/
def updateStats (m : MonitorState) (c : OpCounts) : MonitorState :=
  { m with toDiskMonitor := m.toDiskMonitor.updateStats c }

/-- `DiskMonitor()`: every member at its initialiser, and a default-constructed model. -/
def init : MonitorState where
  serverId := kInvalidServerID
  mode := .kMix
  readMops := 0
  writeMops := 0
  readWeight := 0
  writeWeight := 0
  inflightReadsT := 0
  inflightWritesT := 0
  completedReadsT := 0
  pureReadsT := 0
  impureReadsT := 0
  completedWritesT := 0
  rejectedReadsT := 0
  rejectedWritesT := 0
  medianReadLatencyTd := 0
  medianWriteLatencyTd := 0
  signalReadLatency := 0
  signalWriteLatency := 0
  congestionState := .kUnCongested
  isRejectionsEnabled := false
  model := ⟨[], [], [], [], []⟩
  modeSwitchTimeUs := 0
  p90ReadLatencyTd := 0
  p99ReadLatencyTd := 0
  p90WriteLatencyTd := 0
  p99WriteLatencyTd := 0
  readLoadOps := 0
  writeLoadOps := 0
  totalLoadOps := 0
  writeRatio := 0
  signalRatio := 0
  stateTransitionRatio := 0

end MonitorState

/-- What happens to a disk monitor: the controller's mode and weights, the registration reply,
a round of the load calculator, a round of the flusher. -/
inductive MonitorEvent where
  | setModeAndWeights (now : UInt64) (mode : ServerMode) (readWeight writeWeight : ServerWeight)
  | setIsRejectionsEnabled (enabled : Bool) (model : DiskModel)
  | calculateLoad (diskReads diskWrites : UInt64)
  | flush (now : UInt64) (reads writes : Quantiles)

/-- A round of the flusher that falls outside the grace period of a mode switch. -/
def MonitorEvent.OutsideGrace (m : MonitorState) : MonitorEvent → Prop
  | .flush now _ _ => m.isModeSwitchGracePeriod now = false
  | _ => True

/-- `1` for a round of the flusher. -/
def MonitorEvent.flushes : MonitorEvent → ℕ
  | .flush .. => 1
  | _ => 0

/-- An event other than `SetModeAndWeights`. -/
def MonitorEvent.KeepsMode : MonitorEvent → Prop
  | .setModeAndWeights .. => False
  | _ => True

namespace MonitorState

/-- One event. -/
def step (m : MonitorState) : MonitorEvent → Option MonitorState
  | .setModeAndWeights now mode readWeight writeWeight =>
    some (m.setModeAndWeights now mode readWeight writeWeight)
  | .setIsRejectionsEnabled enabled model => some (m.setIsRejectionsEnabled enabled model)
  | .calculateLoad diskReads diskWrites => m.calculateLoad diskReads diskWrites
  | .flush now reads writes => m.flush now reads writes

/-- The events of a run, one after the other. -/
def run (m : MonitorState) : List MonitorEvent → Option MonitorState
  | [] => some m
  | e :: es => (m.step e).bind fun m' => m'.run es

/-- No round of the flusher in the run falls in a mode switch's grace period. -/
def GraceFree : MonitorState → List MonitorEvent → Prop
  | _, [] => True
  | m, e :: es => e.OutsideGrace m ∧ ∀ m', m.step e = some m' → GraceFree m' es

/-- How far a congestion state is on the way back to `kUnCongested`. -/
def recoveryRank : ServerCongestionState → ℕ
  | .kCongested => 0
  | .kCongestedUnstable => 1
  | .kCongestedStable => 2
  | .kUnCongested => 3
  | .kInvalid => 0

/-! ## What one step does -/

variable {m m' : MonitorState} {now : UInt64}

@[simp] theorem flushReads_congestionState (q : Quantiles) :
    (m.flushReads q).congestionState = m.congestionState := rfl

@[simp] theorem flushReads_stateTransitionRatio (q : Quantiles) :
    (m.flushReads q).stateTransitionRatio = m.stateTransitionRatio := rfl

@[simp] theorem flushReads_isRejectionsEnabled (q : Quantiles) :
    (m.flushReads q).isRejectionsEnabled = m.isRejectionsEnabled := rfl

@[simp] theorem flushReads_isModeSwitchGracePeriod (q : Quantiles) :
    (m.flushReads q).isModeSwitchGracePeriod now = m.isModeSwitchGracePeriod now := rfl

@[simp] theorem flushWrites_isRejectionsEnabled (q : Quantiles) :
    (m.flushWrites q).isRejectionsEnabled = m.isRejectionsEnabled := rfl

@[simp] theorem flushWrites_isModeSwitchGracePeriod (q : Quantiles) :
    (m.flushWrites q).isModeSwitchGracePeriod now = m.isModeSwitchGracePeriod now := rfl

@[simp] theorem flushWrites_congestionState (q : Quantiles) :
    (m.flushWrites q).congestionState = m.congestionState := rfl

@[simp] theorem flushWrites_stateTransitionRatio (q : Quantiles) :
    (m.flushWrites q).stateTransitionRatio = m.stateTransitionRatio := rfl

@[simp] theorem run_nil : m.run [] = some m := rfl

theorem run_cons_some {e : MonitorEvent} {es : List MonitorEvent} (h : m.run (e :: es) = some m') :
    ∃ m₁, m.step e = some m₁ ∧ m₁.run es = some m' :=
  Option.bind_eq_some_iff.mp h

theorem calculateLoad_eq {diskReads diskWrites : UInt64}
    (h : m.calculateLoad diskReads diskWrites = some m') :
    ∃ (r w t : UInt64) (q : ℚ),
      m' = { m with readLoadOps := r, writeLoadOps := w, totalLoadOps := t, writeRatio := q } := by
  simp only [calculateLoad, bind, Option.bind_eq_some_iff, pure, Option.some.injEq] at h
  obtain ⟨r, -, w, -, rfl⟩ := h
  exact ⟨_, _, _, _, rfl⟩

/-- What one `UpdateCongestionState()` can do: nothing while rejections are disabled, reset to
`kUnCongested` in the grace period, and otherwise record a new signal ratio and either mark the
server congested, when the signal crosses a threshold, or take one step of `settle`. -/
theorem updateCongestionState_cases (h : m.updateCongestionState now = some m') :
    (m.isRejectionsEnabled = false ∧ m' = m) ∨
    (m.isRejectionsEnabled = true ∧ m.isModeSwitchGracePeriod now = true ∧
      m' = { m with congestionState := .kUnCongested }) ∨
    (m.isRejectionsEnabled = true ∧ m.isModeSwitchGracePeriod now = false ∧ ∃ r : ℚ,
      ({ m with signalRatio := r } : MonitorState).IsCongestedSignal ∧
        m' = { m with signalRatio := r, congestionState := .kCongested } ∨
      ¬({ m with signalRatio := r } : MonitorState).IsCongestedSignal ∧
        m' = ({ m with signalRatio := r } : MonitorState).settle) := by
  unfold updateCongestionState at h
  obtain he | he := Bool.eq_false_or_eq_true m.isRejectionsEnabled
  swap
  · rw [if_pos (by rw [he]; rfl), Option.some.injEq] at h
    exact .inl ⟨he, h.symm⟩
  rw [if_neg (by rw [he]; decide)] at h
  obtain hg | hg := Bool.eq_false_or_eq_true (m.isModeSwitchGracePeriod now)
  · rw [if_pos hg, Option.some.injEq] at h
    exact .inr (.inl ⟨he, hg, h.symm⟩)
  rw [if_neg (by rw [hg]; decide)] at h
  simp only [bind, Option.bind_eq_some_iff] at h
  obtain ⟨eR, -, eW, -, h⟩ := h
  refine .inr (.inr ⟨he, hg, m.signalRatioOf eR eW, ?_⟩)
  by_cases hc : ({ m with signalRatio := m.signalRatioOf eR eW } : MonitorState).IsCongestedSignal
  · rw [if_pos hc] at h
    exact .inl ⟨hc, (Option.some.inj h).symm⟩
  · rw [if_neg hc] at h
    exact .inr ⟨hc, (Option.some.inj h).symm⟩

/-! ## The transition thresholds -/

/-- In the two recovering states, the transition threshold is the state's factor. -/
structure RatioInv (m : MonitorState) : Prop where
  unstable : m.congestionState = .kCongestedUnstable →
    m.stateTransitionRatio = kCongestedUnstableFactor
  stable : m.congestionState = .kCongestedStable → m.stateTransitionRatio = kCongestedStableFactor

/-- An update that keeps the state and the threshold keeps the invariant. -/
theorem RatioInv.of_eq (hi : m.RatioInv) (hs : m'.congestionState = m.congestionState)
    (hr : m'.stateTransitionRatio = m.stateTransitionRatio) : m'.RatioInv :=
  ⟨fun h => hr.trans (hi.unstable (hs ▸ h)), fun h => hr.trans (hi.stable (hs ▸ h))⟩

theorem RatioInv.settle (hi : m.RatioInv) : m.settle.RatioInv := by
  unfold MonitorState.settle
  split
  · exact ⟨fun _ => rfl, nofun⟩
  · split_ifs
    · exact ⟨nofun, fun _ => rfl⟩
    · exact hi
  · split_ifs
    · exact ⟨nofun, nofun⟩
    · exact hi
  · exact hi

theorem RatioInv.updateCongestionState (hi : m.RatioInv)
    (h : m.updateCongestionState now = some m') : m'.RatioInv := by
  rcases updateCongestionState_cases h with
    ⟨-, rfl⟩ | ⟨-, -, rfl⟩ | ⟨-, -, r, ⟨-, rfl⟩ | ⟨-, rfl⟩⟩
  · exact hi
  · exact ⟨nofun, nofun⟩
  · exact ⟨nofun, nofun⟩
  · exact RatioInv.settle (hi.of_eq rfl rfl)

theorem RatioInv.step (hi : m.RatioInv) {e : MonitorEvent} (h : m.step e = some m') :
    m'.RatioInv := by
  cases e with
  | setModeAndWeights now mode readWeight writeWeight =>
    cases h
    exact hi.of_eq rfl rfl
  | setIsRejectionsEnabled enabled model =>
    cases h
    exact hi.of_eq rfl rfl
  | calculateLoad diskReads diskWrites =>
    obtain ⟨r, w, t, q, rfl⟩ := calculateLoad_eq h
    exact hi.of_eq rfl rfl
  | flush now reads writes =>
    exact RatioInv.updateCongestionState (m := (m.flushReads reads).flushWrites writes)
      ((hi.of_eq rfl rfl).of_eq rfl rfl) h

theorem RatioInv.run {es : List MonitorEvent} (hi : m.RatioInv) (h : m.run es = some m') :
    m'.RatioInv := by
  induction es generalizing m with
  | nil =>
    rw [run_nil, Option.some.injEq] at h
    exact h ▸ hi
  | cons e es ih =>
    obtain ⟨m₁, h₁, h⟩ := run_cons_some h
    exact ih (hi.step h₁) h

theorem ratioInv_init : init.RatioInv := ⟨nofun, nofun⟩

/-- **Every state a run from the start reaches** has the transition threshold of its recovering
state: a `kCongestedUnstable` server leaves for `kCongestedStable` when its signal passes
`kCongestedUnstableFactor`, and a `kCongestedStable` one for `kUnCongested` when its signal falls
below `kCongestedStableFactor`. -/
theorem reachable_ratioInv {es : List MonitorEvent} (h : init.run es = some m') : m'.RatioInv :=
  ratioInv_init.run h

/-- One-point latency tables, all expecting `100` us. -/
def flatModel : DiskModel := ⟨[1000], [100], [1000], [100], [⟨1, [1000], [100]⟩]⟩

/-- Registration with rejections enabled, a round whose p99 read latency is `3` ms, then a
quiet round. -/
def congestThenCalm : List MonitorEvent :=
  [.setIsRejectionsEnabled true flatModel, .flush 1000000 ⟨50, 50, 3000⟩ ⟨50, 50, 50⟩,
    .flush 1010000 ⟨50, 50, 50⟩ ⟨50, 50, 50⟩]

theorem reachable_ratioInv_congestThenCalm :
    ∃ m', init.run congestThenCalm = some m' ∧ m'.congestionState = .kCongestedUnstable ∧
      m'.RatioInv := by
  have hrun : (init.run congestThenCalm).map (·.congestionState) =
      some .kCongestedUnstable := by
    decide +kernel
  obtain ⟨m', h, hs⟩ := Option.map_eq_some_iff.mp hrun
  exact ⟨m', h, hs, reachable_ratioInv h⟩

/-! ## Recovery -/

/-- A congested server with the flat tables, past any grace period. -/
def congestedExample : MonitorState :=
  { init with isRejectionsEnabled := true, congestionState := .kCongested, model := flatModel }


theorem settle_rank_le :
    recoveryRank m.settle.congestionState ≤ recoveryRank m.congestionState + 1 := by
  unfold MonitorState.settle
  split
  · next h => simp [h, recoveryRank]
  · next h =>
    split_ifs <;> simp [h, recoveryRank]
  · next h =>
    split_ifs <;> simp [h, recoveryRank]
  · exact Nat.le_succ _

theorem updateCongestionState_rank_le (hg : m.isModeSwitchGracePeriod now = false)
    (h : m.updateCongestionState now = some m') :
    recoveryRank m'.congestionState ≤ recoveryRank m.congestionState + 1 := by
  rcases updateCongestionState_cases h with
    ⟨-, rfl⟩ | ⟨-, hg', -⟩ | ⟨-, -, r, ⟨-, rfl⟩ | ⟨-, rfl⟩⟩
  · exact Nat.le_succ _
  · rw [hg] at hg'
    cases hg'
  · exact Nat.zero_le _
  · exact settle_rank_le (m := { m with signalRatio := r })

/-- One event moves the recovery rank up by at most its rounds of the flusher. -/
theorem step_rank_le {e : MonitorEvent} (hq : e.OutsideGrace m) (h : m.step e = some m') :
    recoveryRank m'.congestionState ≤ recoveryRank m.congestionState + e.flushes := by
  cases e with
  | setModeAndWeights now mode readWeight writeWeight =>
    cases h
    exact le_refl _
  | setIsRejectionsEnabled enabled model =>
    cases h
    exact le_refl _
  | calculateLoad diskReads diskWrites =>
    obtain ⟨r, w, t, q, rfl⟩ := calculateLoad_eq h
    exact le_refl _
  | flush now reads writes =>
    exact updateCongestionState_rank_le (m := (m.flushReads reads).flushWrites writes) hq h

/-- Over a run, the recovery rank rises by at most the number of rounds of the flusher, when
none of them falls in a mode switch's grace period. -/
theorem run_rank_le {es : List MonitorEvent} (hq : m.GraceFree es) (h : m.run es = some m') :
    recoveryRank m'.congestionState ≤
      recoveryRank m.congestionState + (es.map MonitorEvent.flushes).sum := by
  induction es generalizing m with
  | nil =>
    rw [run_nil, Option.some.injEq] at h
    simp [h]
  | cons e es ih =>
    obtain ⟨m₁, h₁, h⟩ := run_cons_some h
    have hstep := step_rank_le hq.1 h₁
    have hrest := ih (hq.2 m₁ h₁) h
    simp only [List.map_cons, List.sum_cons]
    omega

/-- **Recovery takes three rounds of the flusher.** A congested server reports `kUnCongested`
again only after at least three rounds, unless one of them falls in a mode switch's grace
period: its signal must fall below both thresholds, then pass `kCongestedUnstableFactor`, then
fall below `kCongestedStableFactor`. -/
theorem recovery_takes_three_flushes {es : List MonitorEvent}
    (hc : m.congestionState = .kCongested) (hq : m.GraceFree es) (h : m.run es = some m')
    (hu : m'.congestionState = .kUnCongested) : 3 ≤ (es.map MonitorEvent.flushes).sum := by
  have hrank := run_rank_le hq h
  rw [hc, hu] at hrank
  simpa [recoveryRank] using hrank

/-- `settle` writes the congestion state and the transition ratio only. -/
theorem settle_frame :
    ∃ c t, m.settle = { m with congestionState := c, stateTransitionRatio := t } := by
  unfold MonitorState.settle
  split
  · exact ⟨_, _, rfl⟩
  · split_ifs
    · exact ⟨_, _, rfl⟩
    · exact ⟨_, _, rfl⟩
  · split_ifs
    · exact ⟨_, _, rfl⟩
    · exact ⟨_, _, rfl⟩
  · exact ⟨_, _, rfl⟩

/-- `UpdateCongestionState()` writes the congestion state and the two ratios only. -/
theorem updateCongestionState_frame (h : m.updateCongestionState now = some m') :
    ∃ c r t, m' = { m with congestionState := c, signalRatio := r, stateTransitionRatio := t } := by
  rcases updateCongestionState_cases h with
    ⟨-, rfl⟩ | ⟨-, -, rfl⟩ | ⟨-, -, r, ⟨-, rfl⟩ | ⟨-, rfl⟩⟩
  · exact ⟨_, _, _, rfl⟩
  · exact ⟨_, _, _, rfl⟩
  · exact ⟨_, _, _, rfl⟩
  · obtain ⟨c, t, he⟩ := settle_frame (m := { m with signalRatio := r })
    exact ⟨c, r, t, he⟩

theorem updateCongestionState_modeSwitchTimeUs (h : m.updateCongestionState now = some m') :
    m'.modeSwitchTimeUs = m.modeSwitchTimeUs := by
  obtain ⟨c, r, t, rfl⟩ := updateCongestionState_frame h
  rfl

/-- A round of the flusher leaves the mode and the id alone. -/
theorem flush_mode_serverId {reads writes : Quantiles} (h : m.flush now reads writes = some m') :
    m'.mode = m.mode ∧ m'.serverId = m.serverId := by
  obtain ⟨c, r, t, rfl⟩ :=
    updateCongestionState_frame (m := (m.flushReads reads).flushWrites writes) h
  exact ⟨rfl, rfl⟩

/-- A round of the load calculator leaves the mode and the id alone. -/
theorem calculateLoad_mode_serverId {diskReads diskWrites : UInt64}
    (h : m.calculateLoad diskReads diskWrites = some m') :
    m'.mode = m.mode ∧ m'.serverId = m.serverId := by
  obtain ⟨r, w, t, q, rfl⟩ := calculateLoad_eq h
  exact ⟨rfl, rfl⟩

theorem step_modeSwitchTimeUs {e : MonitorEvent} (hk : e.KeepsMode) (h : m.step e = some m') :
    m'.modeSwitchTimeUs = m.modeSwitchTimeUs := by
  cases e with
  | setModeAndWeights => exact hk.elim
  | setIsRejectionsEnabled enabled model =>
    cases h
    rfl
  | calculateLoad diskReads diskWrites =>
    obtain ⟨r, w, t, q, rfl⟩ := calculateLoad_eq h
    rfl
  | flush now reads writes =>
    exact updateCongestionState_modeSwitchTimeUs (m := (m.flushReads reads).flushWrites writes) h

theorem outsideGrace_of_modeSwitchTimeUs {e : MonitorEvent} (hq : e.OutsideGrace m)
    (h : m'.modeSwitchTimeUs = m.modeSwitchTimeUs) : e.OutsideGrace m' := by
  cases e with
  | flush now reads writes =>
    simp only [MonitorEvent.OutsideGrace, isModeSwitchGracePeriod, h] at hq ⊢
    exact hq
  | _ => trivial

/-- A run with no mode switch is grace-free when each of its rounds of the flusher is outside
the grace period of the last switch before it. -/
theorem graceFree_of_keepsMode {es : List MonitorEvent} (hk : ∀ e ∈ es, e.KeepsMode)
    (hq : ∀ e ∈ es, e.OutsideGrace m) : m.GraceFree es := by
  induction es generalizing m with
  | nil => trivial
  | cons e es ih =>
    refine ⟨hq e List.mem_cons_self, fun m₁ h₁ =>
      ih (fun e' he' => hk e' (List.mem_cons_of_mem _ he')) fun e' he' => ?_⟩
    exact outsideGrace_of_modeSwitchTimeUs (hq e' (List.mem_cons_of_mem _ he'))
      (step_modeSwitchTimeUs (hk e List.mem_cons_self) h₁)

/-- Three rounds a second after the start, with signal ratios `0.5`, `0.8` and `0.5`. -/
def recoveryRun : List MonitorEvent :=
  [.flush 1000000 ⟨50, 50, 50⟩ ⟨50, 50, 50⟩, .flush 1010000 ⟨80, 80, 80⟩ ⟨80, 80, 80⟩,
    .flush 1020000 ⟨50, 50, 50⟩ ⟨50, 50, 50⟩]

theorem recovery_in_three_flushes :
    ∃ m', congestedExample.run recoveryRun = some m' ∧ m'.congestionState = .kUnCongested ∧
      3 ≤ (recoveryRun.map MonitorEvent.flushes).sum := by
  have hrun : (congestedExample.run recoveryRun).map (·.congestionState) =
      some .kUnCongested := by
    decide +kernel
  obtain ⟨m', h, hu⟩ := Option.map_eq_some_iff.mp hrun
  have hq : congestedExample.GraceFree recoveryRun :=
    graceFree_of_keepsMode (by simp [recoveryRun, MonitorEvent.KeepsMode])
      (by simp [recoveryRun, MonitorEvent.OutsideGrace, isModeSwitchGracePeriod, congestedExample,
        init, kDiskServerModeSwitchGracePeriodUs])
  exact ⟨m', h, hu, recovery_takes_three_flushes rfl hq h hu⟩

end MonitorState

end Sandook.DiskServer
