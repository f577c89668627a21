import Sandook.Lib.Cyclic
import Sandook.Base.Types
import Mathlib.Data.Finset.Card
import Mathlib.Tactic.IntervalCases

/-!
# Read/write isolation: the mode assignment (`scheduler/control_plane/rw_isolation_base.h`)

Model of `RWIsolationBase`: `AddServer`, `GetAllocation` (`:194-265`) and `ComputeModes`
(`:46-123`), with the state that carries over from one call to the next (the last allocation,
the previous load, the last mode switch time, the number of registered servers and the
rotating index `last_write_server_idx_`).

* `GetPeakIOPS` is virtual: `AdaptiveRWIsolationBase` answers from a disk model. It is a
  parameter `peak` here; `defaultPeakIOPS` is the base class's own answer.
* `ComputeModes` writes into a local `ServerModes modes;` that has no initialiser: its initial
  contents are the parameter `modes`.
* `MicroTime()` is the parameter `now`; the two reads of one call are taken to return the same
  value. The theorems hold for every value of it.
* `modes.at(...)` past the array throws (`none`).
* The demand loop `while (true) { if (handled_writes >= write_ops || dem_w_servers ==
  n_servers) break; ... }` is `demandLoop`, by well-founded recursion on
  `n_servers - dem_w_servers`: Lean's acceptance of the definition is the proof that the loop
  stops, for every `peak` (a peak of `0` included), after at most `n_servers` rounds.

Results:
* `getAllocation_add` (`n_r + n_w = n` outside the all-mix answer) and `assignModes_eq` (the
  mode walk paints a window of consecutive ids).
* `computeModes_rotating_partition`: from every reachable state, a call that returns modes
  either puts every server in `kMix` (`n ≤ kNumReplicas` or allocation `(0, 0)`), or gives
  the `n_w` ids of the window starting at `last_write_server_idx_ + 1` `kWrite` and the other
  `n_r` ids `kRead`, and moves the index by `n_w` modulo `n`, inside `[0, n)`.
* `computeModes_no_write_server`: with a write in flight and a read-only stable load, every
  server is put in `kRead`, although `GetAllocation` has set `min_w_servers = kNumReplicas`.
-/

namespace Sandook.ControlPlane

open Sandook.Lib

/-- `kPeakReadIOPSPerSSD = 0.6 * kMillion`. -/
def kPeakReadIOPSPerSSD : UInt64 := 600000

/-- `kPeakWriteIOPSPerSSD = 0.20 * kMillion`. -/
def kPeakWriteIOPSPerSSD : UInt64 := 200000

/-- `RWIsolationBase::GetPeakIOPS`, the base class's answer. -/
def defaultPeakIOPS (_serverId : ServerID) : ServerMode → UInt64
  | .kRead => kPeakReadIOPSPerSSD
  | _ => kPeakWriteIOPSPerSSD

/-- The state of `RWIsolationBase`. -/
structure RWIsolationBase where
  lastAllocation : ServerAllocation
  prevSystemLoad : SystemLoad
  lastModeSwitchTime : UInt64
  numServers : ℕ
  lastWriteServerIdx : ℕ
  deriving DecidableEq, Repr

/-- Every entry `kMix`. -/
def allMix : ServerModes := fun _ => .kMix

/-- The sum of `inflight_writes + completed_writes + rejected_writes` (a `uint32_t` sum per
server) over the stats, `all_writes` of `GetAllocation`. -/
def allWrites (stats : ServerStatsList) : ℕ :=
  (stats.map fun s => (s.inflightWrites + s.completedWrites + s.rejectedWrites).toNat).sum

/-- The demand loop of `GetAllocation`: add servers' peak write IOPS, walking the ring from
`server_id`, until the write load is covered or every server is counted. -/
def demandLoop (peak : ServerID → ServerMode → UInt64) (nServers numServers : ℕ)
    (writeOps handled : UInt64) (serverId dem : ℕ) (h : dem ≤ nServers) : ℕ :=
  if hb : writeOps ≤ handled ∨ dem = nServers then dem
  else
    demandLoop peak nServers numServers writeOps (handled + peak (serverId + 1) .kMix)
      ((serverId + 1) % numServers) (dem + 1) (by omega)
termination_by nServers - dem
decreasing_by
  have hne : dem ≠ nServers := fun e => hb (Or.inr e)
  omega

/-- `assignModes n mode k modes id`: the loop `for (i < k) { modes.at(id + 1) = mode;
id = (id + 1) % n; }`, returning the array and the final `id`. -/
def assignModes (n : ℕ) (mode : ServerMode) : ℕ → ServerModes → ℕ → Option (ServerModes × ℕ)
  | 0, modes, serverId => some (modes, serverId)
  | k + 1, modes, serverId =>
    (arraySet? modes (serverId + 1) mode).bind fun modes =>
      assignModes n mode k modes ((serverId + 1) % n)

namespace RWIsolationBase

/-- A freshly constructed scheduler (`last_mode_switch_time_(MicroTime())`). -/
def init (now : UInt64) : RWIsolationBase := ⟨(false, 0, 0), (0, 0), now, 0, 0⟩

/-- `AddServer`. -/
def addServer (st : RWIsolationBase) : RWIsolationBase :=
  { st with numServers := st.numServers + 1, lastWriteServerIdx := 0 }

/-- `UpdateSystemLoad`. -/
def updateSystemLoad (st : RWIsolationBase) (load : SystemLoad) : RWIsolationBase :=
  { st with prevSystemLoad := load }

/-- `IsAllocationChanged`. -/
def isAllocationChanged (st : RWIsolationBase) (allocation : ServerAllocation) : Bool :=
  (allocation.2.1 != 0 && st.lastAllocation.2.1 == 0) ||
    (allocation.2.2 != 0 && st.lastAllocation.2.2 == 0) ||
    (decide (st.lastAllocation.2.1 < allocation.2.1) ||
      decide (st.lastAllocation.2.2 < allocation.2.2))

/-- `UpdateAllocation`. -/
def updateAllocation (st : RWIsolationBase) (allocation : ServerAllocation) : RWIsolationBase :=
  { st with lastAllocation := allocation }

/-- `IsTimeToModeSwitch`: `now - last_mode_switch_time_ >= kModeSwitchIntervalUs`, in
`uint64_t`. -/
def isTimeToModeSwitch (st : RWIsolationBase) (now : UInt64) : Bool :=
  decide (kModeSwitchIntervalUs ≤ now - st.lastModeSwitchTime)

/-- `UpdateModeSwitchTime`. -/
def updateModeSwitchTime (st : RWIsolationBase) (now : UInt64) : RWIsolationBase :=
  { st with lastModeSwitchTime := now }

/-- `GetAllocation`: whether there is traffic, the number of read servers and of write
servers. -/
def getAllocation (peak : ServerID → ServerMode → UInt64) (st : RWIsolationBase)
    (stats : ServerStatsList) (load : SystemLoad) : ServerAllocation :=
  let nServers := stats.length
  let readOps := load.1
  let writeOps := load.2
  let minWServers := if 0 < allWrites stats ∨ 0 < writeOps then kNumReplicas else 0
  let kExtraWriteSSDs := 1
  let nRW : ℕ × ℕ :=
    if readOps ≠ 0 ∧ writeOps ≠ 0 then
      let demWServers :=
        demandLoop peak nServers st.numServers writeOps 0 st.lastWriteServerIdx 0
          (Nat.zero_le _) + kExtraWriteSSDs
      let nWServers := min nServers (max minWServers demWServers)
      (nServers - nWServers, nWServers)
    else if readOps ≠ 0 ∧ writeOps = 0 then (nServers, 0)
    else if writeOps ≠ 0 ∧ readOps = 0 then (0, nServers)
    else (0, 0)
  (decide (0 < readOps + writeOps), nRW.1, nRW.2)

/-- `ComputeModes(stats, load)`, from the uninitialised `modes`: the new state, and the modes
or `EAGAIN`. -/
def computeModes (peak : ServerID → ServerMode → UInt64) (st : RWIsolationBase)
    (stats : ServerStatsList) (load : SystemLoad) (now : UInt64) (modes : ServerModes) :
    Option (Status ServerModes × RWIsolationBase) :=
  if stats.length ≤ kNumReplicas then some (.ok allMix, st.updateSystemLoad load)
  else
    let allocation := st.getAllocation peak stats load
    if allocation.1 = false then some (.error EAGAIN, st.updateSystemLoad load)
    else if allocation.2.1 = 0 ∧ allocation.2.2 = 0 then
      some (.ok allMix, st.updateSystemLoad load)
    else
      let isUpdate := st.isAllocationChanged allocation
      let st := st.updateSystemLoad load
      if isUpdate = false ∧ st.isTimeToModeSwitch now = false then some (.error EAGAIN, st)
      else
        let st := st.updateAllocation allocation
        (assignModes st.numServers .kWrite allocation.2.2 modes st.lastWriteServerIdx).bind
          fun w =>
            (assignModes st.numServers .kRead allocation.2.1 w.1 w.2).map fun r =>
              (.ok r.1, ({ st with
                lastWriteServerIdx := (st.lastWriteServerIdx + allocation.2.2) % st.numServers }
                ).updateModeSwitchTime now)

end RWIsolationBase

/-! ## The allocation -/

namespace RWIsolationBase

variable {peak : ServerID → ServerMode → UInt64} {st : RWIsolationBase}
  {stats : ServerStatsList} {load : SystemLoad}

/-- **Outside the all-mix answer the allocation covers every server once**: `n_r + n_w = n`. -/
theorem getAllocation_add (h : ¬((st.getAllocation peak stats load).2.1 = 0 ∧
      (st.getAllocation peak stats load).2.2 = 0)) :
    (st.getAllocation peak stats load).2.1 + (st.getAllocation peak stats load).2.2 =
      stats.length := by
  by_cases h1 : load.1 ≠ 0 ∧ load.2 ≠ 0
  · simp only [getAllocation, if_pos h1]
    omega
  · by_cases h2 : load.1 ≠ 0 ∧ load.2 = 0
    · simp only [getAllocation, if_neg h1, if_pos h2, Nat.add_zero]
    · by_cases h3 : load.2 ≠ 0 ∧ load.1 = 0
      · simp only [getAllocation, if_neg h1, if_neg h2, if_pos h3, Nat.zero_add]
      · simp only [getAllocation, if_neg h1, if_neg h2, if_neg h3, and_self,
          not_true_eq_false] at h

end RWIsolationBase

/-! ## The mode walk -/

/-- The array after the walk from `serverId` has given `k` consecutive ids `mode`. -/
def paintWindow (modes : ServerModes) (mode : ServerMode) (n serverId k : ℕ) : ServerModes :=
  fun j => if ∃ i < k, j = (serverId + i) % n + 1 then mode else modes j

/-- The walk unrolled from its last step. -/
theorem assignModes_succ_right {n : ℕ} (mode : ServerMode) :
    ∀ (k : ℕ) (modes : ServerModes) (serverId : ℕ),
      assignModes n mode (k + 1) modes serverId =
        (assignModes n mode k modes serverId).bind fun p =>
          (arraySet? p.1 (p.2 + 1) mode).map fun m => (m, (p.2 + 1) % n)
  | 0, modes, serverId => by
    simp only [assignModes, Option.bind_some]
    cases arraySet? modes (serverId + 1) mode <;> rfl
  | k + 1, modes, serverId => by
    rw [assignModes, assignModes, Option.bind_assoc]
    congr 1
    funext m
    exact assignModes_succ_right mode k m _

/-- **The mode walk paints a window**: from `serverId < n < kNumMaxServers`, `k` steps give the
ids `(serverId + i) % n + 1`, `i < k`, the mode, and end at `(serverId + k) % n`. -/
theorem assignModes_eq {n serverId : ℕ} (mode : ServerMode) (modes : ServerModes)
    (hn : n < kNumMaxServers) (hs : serverId < n) :
    ∀ k, assignModes n mode k modes serverId =
      some (paintWindow modes mode n serverId k, (serverId + k) % n)
  | 0 => by
    have hw : paintWindow modes mode n serverId 0 = modes := by
      funext j
      simp [paintWindow]
    rw [assignModes, hw, Nat.add_zero, Nat.mod_eq_of_lt hs]
  | k + 1 => by
    have hidx : (serverId + k) % n + 1 < kNumMaxServers := by
      have := Nat.mod_lt (serverId + k) (show 0 < n by omega)
      omega
    rw [assignModes_succ_right, assignModes_eq mode modes hn hs k, Option.bind_some,
      arraySet?_of_lt _ _ hidx, Option.map_some, add_mod_succ_mod]
    congr 2
    funext j
    simp only [paintWindow, Function.update_apply]
    by_cases hj : j = (serverId + k) % n + 1
    · have : ∃ i < k + 1, j = (serverId + i) % n + 1 := ⟨k, by omega, hj⟩
      rw [if_pos hj, if_pos this]
    · have e : (∃ i < k + 1, j = (serverId + i) % n + 1) ↔ ∃ i < k, j = (serverId + i) % n + 1 := by
        constructor
        · rintro ⟨i, hi, hji⟩
          refine ⟨i, ?_, hji⟩
          rcases Nat.lt_succ_iff_lt_or_eq.mp hi with hi | rfl
          · exact hi
          · exact absurd hji hj
        · rintro ⟨i, hi, hji⟩
          exact ⟨i, by omega, hji⟩
      rw [if_neg hj]
      simp only [e]

/-- Id `x + 1` is in the window of `k ≤ n` ids from `serverId` iff `x` is less than `k` steps
from `serverId`. -/
theorem mem_window_iff {n serverId k x : ℕ} (hs : serverId < n) (hk : k ≤ n) (hx : x < n) :
    (∃ i < k, x + 1 = (serverId + i) % n + 1) ↔ ringDist n serverId x < k := by
  rw [← exists_add_mod_eq_iff hs hk hx]
  constructor
  · rintro ⟨i, hi, h⟩
    exact ⟨i, hi, by omega⟩
  · rintro ⟨i, hi, h⟩
    exact ⟨i, hi, by omega⟩

/-- The window that starts where one of `a` ids ended holds the ids `a` to `a + k` steps from
the first window's start. -/
theorem mem_window_after_iff {n serverId a k x : ℕ} (hs : serverId < n) (hak : a + k ≤ n)
    (hx : x < n) :
    (∃ i < k, x + 1 = ((serverId + a) % n + i) % n + 1) ↔
      a ≤ ringDist n serverId x ∧ ringDist n serverId x < a + k := by
  constructor
  · rintro ⟨i, hi, h⟩
    have h' : (serverId + (a + i)) % n = x := by
      rw [Nat.mod_add_mod, Nat.add_assoc] at h
      omega
    rw [(add_mod_eq_iff_ringDist hs (by omega) hx).mp h']
    omega
  · rintro ⟨h1, h2⟩
    refine ⟨ringDist n serverId x - a, by omega, ?_⟩
    rw [Nat.mod_add_mod, Nat.add_assoc, show a + (ringDist n serverId x - a) =
      ringDist n serverId x by omega, add_ringDist_mod hs hx]

/-- **The two walks split the ring**: after `n_w` ids are painted `kWrite` and the next `n_r`
`kRead`, with `n_w + n_r = n`, id `x + 1` is `kWrite` iff `x` is in the first window. -/
theorem paintWindow_write_read {n serverId nW nR x : ℕ} (modes : ServerModes) (hs : serverId < n)
    (hsum : nW + nR = n) (hx : x < n) :
    paintWindow (paintWindow modes .kWrite n serverId nW) .kRead n ((serverId + nW) % n) nR
        (x + 1) = if ringDist n serverId x < nW then .kWrite else .kRead := by
  have hlt := ringDist_lt (s := serverId) (show 0 < n by omega) x
  unfold paintWindow
  by_cases hd : ringDist n serverId x < nW
  · have hr : ¬∃ i < nR, x + 1 = ((serverId + nW) % n + i) % n + 1 := by
      rw [mem_window_after_iff hs (by omega) hx]
      omega
    have hw : ∃ i < nW, x + 1 = (serverId + i) % n + 1 :=
      (mem_window_iff hs (by omega) hx).mpr hd
    rw [if_neg hr, if_pos hw, if_pos hd]
  · have hr : ∃ i < nR, x + 1 = ((serverId + nW) % n + i) % n + 1 := by
      rw [mem_window_after_iff hs (by omega) hx]
      omega
    rw [if_pos hr, if_neg hd]

/-- Where the walk ends after `k` steps. -/
theorem assignModes_snd {n serverId : ℕ} (mode : ServerMode) (hs : serverId < n) :
    ∀ (k : ℕ) (modes : ServerModes) (p : ServerModes × ℕ),
      assignModes n mode k modes serverId = some p → p.2 = (serverId + k) % n
  | 0, modes, p, h => by
    rw [assignModes, Option.some.injEq] at h
    rw [← h, Nat.add_zero, Nat.mod_eq_of_lt hs]
  | k + 1, modes, p, h => by
    rw [assignModes_succ_right] at h
    obtain ⟨q, hq, h⟩ := Option.bind_eq_some_iff.mp h
    obtain ⟨m, -, rfl⟩ := Option.map_eq_some_iff.mp h
    rw [assignModes_snd mode hs k modes q hq, add_mod_succ_mod]

/-- A walk that completes stayed inside the array at every step. -/
theorem lt_of_assignModes {n serverId : ℕ} (mode : ServerMode) (hs : serverId < n) :
    ∀ (k : ℕ) (modes : ServerModes) (p : ServerModes × ℕ),
      assignModes n mode k modes serverId = some p →
        ∀ i < k, (serverId + i) % n + 1 < kNumMaxServers
  | 0, _, _, _ => fun i hi => absurd hi (Nat.not_lt_zero i)
  | k + 1, modes, p, h => by
    rw [assignModes_succ_right] at h
    obtain ⟨q, hq, h⟩ := Option.bind_eq_some_iff.mp h
    obtain ⟨m, hm, -⟩ := Option.map_eq_some_iff.mp h
    have hlast : (serverId + k) % n + 1 < kNumMaxServers := by
      rw [← assignModes_snd mode hs k modes q hq]
      unfold arraySet? at hm
      split at hm
      · assumption
      · cases hm
    intro i hi
    rcases Nat.lt_succ_iff_lt_or_eq.mp hi with hi | rfl
    · exact lt_of_assignModes mode hs k modes q hq i hi
    · exact hlast

/-- **The two walks of `ComputeModes` fit in the array only for `n < kNumMaxServers`**: between
them they visit every id `1 … n`, the id `n` included. -/
theorem lt_kNumMaxServers_of_walks {n serverId nW nR : ℕ} {modes : ServerModes}
    {w r : ServerModes × ℕ} (hs : serverId < n) (hsum : nW + nR = n)
    (hw : assignModes n .kWrite nW modes serverId = some w)
    (hr : assignModes n .kRead nR w.1 w.2 = some r) : n < kNumMaxServers := by
  have hn : 0 < n := by omega
  have hw2 : w.2 = (serverId + nW) % n := assignModes_snd _ hs nW modes w hw
  have hlast := add_ringDist_mod (x := n - 1) hs (by omega)
  by_cases hd : ringDist n serverId (n - 1) < nW
  · have := lt_of_assignModes _ hs nW modes w hw _ hd
    omega
  · have hw2' : w.2 < n := by rw [hw2]; exact Nat.mod_lt _ hn
    have := lt_of_assignModes _ hw2' nR w.1 r hr (ringDist n serverId (n - 1) - nW)
      (by have := ringDist_lt (s := serverId) hn (n - 1); omega)
    rw [hw2, Nat.mod_add_mod, Nat.add_assoc, show nW + (ringDist n serverId (n - 1) - nW) =
      ringDist n serverId (n - 1) by omega, hlast] at this
    omega

/-! ## Runs of the scheduler -/

namespace RWIsolationBase

/-- The states a scheduler reaches: construction, `AddServer`, and `ComputeModes` over the stats
of the registered servers (`Scheduler::Update` passes `stats_mgr_.GetServerStats()`, one record
per registered server), with any load, clock and uninitialised array. -/
inductive Reachable (peak : ServerID → ServerMode → UInt64) : RWIsolationBase → Prop
  | init (now : UInt64) : Reachable peak (init now)
  | addServer {st : RWIsolationBase} : Reachable peak st → Reachable peak st.addServer
  | computeModes {st st' : RWIsolationBase} {stats : ServerStatsList} {load : SystemLoad}
      {now : UInt64} {modes : ServerModes} {r : Status ServerModes} :
      Reachable peak st → stats.length = st.numServers →
      st.computeModes peak stats load now modes = some (r, st') → Reachable peak st'

/-- The rotating index names a registered server, or is `0`. -/
def IndexInRange (st : RWIsolationBase) : Prop :=
  st.lastWriteServerIdx < st.numServers ∨ st.lastWriteServerIdx = 0

variable {peak : ServerID → ServerMode → UInt64} {st st' : RWIsolationBase}
  {stats : ServerStatsList} {load : SystemLoad} {now : UInt64} {garbage modes : ServerModes}

/-- **What one `ComputeModes` call can do.** It keeps the number of servers, and either leaves
the index (every answer but the mode walk), or walks: more than `kNumReplicas` stats, traffic,
an allocation other than `(0, 0)`, both walks complete, and the index moves by `n_w`. -/
theorem computeModes_cases {r : Status ServerModes}
    (h : st.computeModes peak stats load now garbage = some (r, st')) :
    st'.numServers = st.numServers ∧
    (st'.lastWriteServerIdx = st.lastWriteServerIdx ∧
        (r = .ok allMix ∨ r = .error EAGAIN) ∧
        (r = .ok allMix → stats.length ≤ kNumReplicas ∨
          (st.getAllocation peak stats load).2.1 = 0 ∧
            (st.getAllocation peak stats load).2.2 = 0) ∨
      kNumReplicas < stats.length ∧
        ¬((st.getAllocation peak stats load).2.1 = 0 ∧
          (st.getAllocation peak stats load).2.2 = 0) ∧
        st'.lastWriteServerIdx =
          (st.lastWriteServerIdx + (st.getAllocation peak stats load).2.2) % st.numServers ∧
        ∃ w rr, assignModes st.numServers .kWrite (st.getAllocation peak stats load).2.2 garbage
            st.lastWriteServerIdx = some w ∧
          assignModes st.numServers .kRead (st.getAllocation peak stats load).2.1 w.1 w.2 =
            some rr ∧ r = .ok rr.1) := by
  unfold computeModes at h
  dsimp only at h
  split_ifs at h with h1 h2 h3 h4
  · cases h
    exact ⟨rfl, Or.inl ⟨rfl, Or.inl rfl, fun _ => Or.inl h1⟩⟩
  · cases h
    exact ⟨rfl, Or.inl ⟨rfl, Or.inr rfl, fun e => by cases e⟩⟩
  · cases h
    exact ⟨rfl, Or.inl ⟨rfl, Or.inl rfl, fun _ => Or.inr h3⟩⟩
  · cases h
    exact ⟨rfl, Or.inl ⟨rfl, Or.inr rfl, fun e => by cases e⟩⟩
  · obtain ⟨w, hw, h⟩ := Option.bind_eq_some_iff.mp h
    obtain ⟨rr, hrr, h⟩ := Option.map_eq_some_iff.mp h
    cases h
    exact ⟨rfl, Or.inr ⟨by omega, h3, rfl, w, rr, hw, hrr, rfl⟩⟩

/-- `ComputeModes` keeps the rotating index in range, given the registered servers' stats. -/
theorem IndexInRange.computeModes {r : Status ServerModes} (hi : st.IndexInRange)
    (hn : stats.length = st.numServers)
    (h : st.computeModes peak stats load now garbage = some (r, st')) : st'.IndexInRange := by
  obtain ⟨hnum, ⟨hidx, -⟩ | ⟨hlen, -, hidx, -⟩⟩ := computeModes_cases h
  · unfold IndexInRange
    rw [hnum, hidx]
    exact hi
  · left
    rw [hnum, hidx]
    exact Nat.mod_lt _ (by unfold kNumReplicas at hlen; omega)

/-- **Every reachable state keeps its rotating index in range.** -/
theorem Reachable.indexInRange (h : Reachable peak st) : st.IndexInRange := by
  induction h with
  | init now => exact Or.inr rfl
  | addServer _ _ => exact Or.inl (Nat.succ_pos _)
  | computeModes _ hn hc ih => exact ih.computeModes hn hc

/-- The painted ring holds `n_w` write ids and `n - n_w` read ids. -/
theorem card_filter_window {n s nW : ℕ} {modes : ServerModes} (hs : s < n) (hk : nW ≤ n)
    (hm : ∀ x < n, modes (x + 1) = if ringDist n s x < nW then .kWrite else .kRead) :
    ((Finset.range n).filter fun x => modes (x + 1) = .kWrite).card = nW ∧
    ((Finset.range n).filter fun x => modes (x + 1) = .kRead).card = n - nW := by
  have hw : (Finset.range n).filter (fun x => modes (x + 1) = .kWrite) =
      (Finset.range n).filter fun x => ringDist n s x < nW := by
    apply Finset.filter_congr
    intro x hx
    rw [hm x (Finset.mem_range.mp hx)]
    by_cases hd : ringDist n s x < nW <;> simp [hd]
  have hr : (Finset.range n).filter (fun x => modes (x + 1) = .kRead) =
      (Finset.range n).filter fun x => ¬ringDist n s x < nW := by
    apply Finset.filter_congr
    intro x hx
    rw [hm x (Finset.mem_range.mp hx)]
    by_cases hd : ringDist n s x < nW <;> simp [hd]
  have hsplit := Finset.card_filter_add_card_filter_not (s := Finset.range n)
    (fun x => ringDist n s x < nW)
  rw [card_filter_ringDist_lt hs hk, Finset.card_range] at hsplit
  rw [hw, hr, card_filter_ringDist_lt hs hk]
  exact ⟨rfl, by omega⟩

/-- **R/W-isolation modes are a rotating partition.** From every reachable state, a
`ComputeModes` call over the `n` registered servers' stats that returns modes keeps `n`, and
* with `n ≤ kNumReplicas`, or the allocation `(0, 0)`, puts every server in `kMix` and keeps
  the index;
* otherwise `n_r + n_w = n`; id `x + 1` is `kWrite` iff `x` is less than `n_w` steps after
  `last_write_server_idx_` on the ring of `n` (the window of `n_w` consecutive ids from
  `last_write_server_idx_ + 1`) and `kRead` else, so `n_w` ids are `kWrite` and `n_r` are
  `kRead`; the index moves to `(last_write_server_idx_ + n_w) % n`;
* the index stays in `[0, n)`.

The demand loop's termination is `demandLoop`'s well-founded definition. -/
theorem computeModes_rotating_partition (hst : Reachable peak st)
    (hn : stats.length = st.numServers)
    (h : st.computeModes peak stats load now garbage = some (.ok modes, st')) :
    st'.numServers = st.numServers ∧
    (st.numServers ≤ kNumReplicas ∨ (st.getAllocation peak stats load).2.1 = 0 ∧
        (st.getAllocation peak stats load).2.2 = 0 →
      modes = allMix ∧ st'.lastWriteServerIdx = st.lastWriteServerIdx) ∧
    (kNumReplicas < st.numServers → ¬((st.getAllocation peak stats load).2.1 = 0 ∧
        (st.getAllocation peak stats load).2.2 = 0) →
      (st.getAllocation peak stats load).2.1 + (st.getAllocation peak stats load).2.2 =
        st.numServers ∧
      (∀ x < st.numServers, modes (x + 1) =
        if ringDist st.numServers st.lastWriteServerIdx x < (st.getAllocation peak stats load).2.2
        then .kWrite else .kRead) ∧
      ((Finset.range st.numServers).filter fun x => modes (x + 1) = .kWrite).card =
        (st.getAllocation peak stats load).2.2 ∧
      ((Finset.range st.numServers).filter fun x => modes (x + 1) = .kRead).card =
        (st.getAllocation peak stats load).2.1 ∧
      st'.lastWriteServerIdx =
        (st.lastWriteServerIdx + (st.getAllocation peak stats load).2.2) % st.numServers) ∧
    (0 < st.numServers → st'.lastWriteServerIdx < st.numServers) := by
  obtain ⟨hnum, hcase⟩ := computeModes_cases h
  have hidx := hst.indexInRange
  refine ⟨hnum, ?_, ?_, ?_⟩
  · intro hcond
    rcases hcase with ⟨hsame, hr, -⟩ | ⟨hlen, hnz, -⟩
    · rcases hr with hr | hr
      · exact ⟨Except.ok.inj hr, hsame⟩
      · cases hr
    · rcases hcond with hcond | hcond
      · omega
      · exact absurd hcond hnz
  · intro hgt hnz
    rcases hcase with ⟨-, hr, hmix⟩ | ⟨-, -, hlast, w, rr, hw, hrr, hr⟩
    · rcases hr with hr | hr
      · rcases hmix hr with hlen | hz
        · omega
        · exact absurd hz hnz
      · cases hr
    · have hsum := getAllocation_add hnz
      rw [hn] at hsum
      have hs : st.lastWriteServerIdx < st.numServers := by
        rcases hidx with hi | hi
        · exact hi
        · rw [hi]; unfold kNumReplicas at hgt; omega
      have h20 := lt_kNumMaxServers_of_walks hs (by omega) hw hrr
      rw [assignModes_eq _ _ h20 hs] at hw
      cases hw
      rw [assignModes_eq _ _ h20 (Nat.mod_lt _ (by omega))] at hrr
      cases hrr
      cases hr
      have hm : ∀ x < st.numServers, paintWindow (paintWindow garbage .kWrite st.numServers
          st.lastWriteServerIdx (st.getAllocation peak stats load).2.2) .kRead st.numServers
          ((st.lastWriteServerIdx + (st.getAllocation peak stats load).2.2) % st.numServers)
          (st.getAllocation peak stats load).2.1 (x + 1) =
          if ringDist st.numServers st.lastWriteServerIdx x <
            (st.getAllocation peak stats load).2.2 then .kWrite else .kRead := fun x hx =>
        paintWindow_write_read garbage hs (by omega) hx
      obtain ⟨hcw, hcr⟩ := card_filter_window hs (by omega) hm
      exact ⟨hsum, hm, hcw, by rw [hcr]; omega, hlast⟩
  · intro hpos
    rcases (Reachable.computeModes hst hn h).indexInRange with hi | hi
    · rwa [hnum] at hi
    · rw [hi]; exact hpos

/-- Three registered servers, with one write in flight on server `1`. -/
def inflightWriteStats : ServerStatsList :=
  [{ ServerStats.zero with serverId := 1, inflightWrites := 1 },
   { ServerStats.zero with serverId := 2 }, { ServerStats.zero with serverId := 3 }]

/-- A scheduler with three servers registered. -/
def threeServers : RWIsolationBase := (init 0).addServer.addServer.addServer

theorem threeServers_reachable (peak : ServerID → ServerMode → UInt64) :
    Reachable peak threeServers :=
  .addServer (.addServer (.addServer (.init 0)))

/-- `computeModes_rotating_partition` at three servers. Under a read-only load the call returns
modes with all three ids `kRead`. Under a load of reads and writes `GetAllocation` gives
`n_w = 2` (the demand loop's one server plus `kExtraWriteSSDs`) and `n_r = 1`: ids `1` and `2`
(the window from `last_write_server_idx_ + 1`) are `kWrite`, id `3` is `kRead`, and the index
moves to `2`. -/
theorem computeModes_rotating_partition_three :
    (∃ modes st', threeServers.computeModes defaultPeakIOPS inflightWriteStats (1, 0) 0 allMix =
        some (.ok modes, st') ∧
      ((Finset.range 3).filter fun x => modes (x + 1) = .kRead).card = 3) ∧
    (∃ modes st', threeServers.computeModes defaultPeakIOPS inflightWriteStats (1, 1) 0 allMix =
        some (.ok modes, st') ∧
      ((Finset.range 3).filter fun x => modes (x + 1) = .kWrite).card = 2 ∧
      ((Finset.range 3).filter fun x => modes (x + 1) = .kRead).card = 1 ∧
      modes 1 = .kWrite ∧ modes 2 = .kWrite ∧ modes 3 = .kRead ∧ st'.lastWriteServerIdx = 2) := by
  constructor
  · obtain ⟨modes, st', h⟩ : ∃ modes st', threeServers.computeModes defaultPeakIOPS
        inflightWriteStats (1, 0) 0 allMix = some (.ok modes, st') := ⟨_, _, rfl⟩
    have := (computeModes_rotating_partition (threeServers_reachable _) rfl h).2.2.1
      (by decide) (by decide)
    exact ⟨modes, st', h, this.2.2.2.1⟩
  · -- the demand loop is well-founded recursion, which the kernel evaluates
    have ha : threeServers.getAllocation defaultPeakIOPS inflightWriteStats (1, 1) = (true, 1, 2) :=
      by decide +kernel
    obtain ⟨modes, st', h⟩ : ∃ modes st', threeServers.computeModes defaultPeakIOPS
        inflightWriteStats (1, 1) 0 allMix = some (.ok modes, st') := by
      simp only [computeModes, ha]
      exact ⟨_, _, rfl⟩
    obtain ⟨-, hwin, hw, hr, hidx⟩ :=
      (computeModes_rotating_partition (threeServers_reachable _) rfl h).2.2.1
        (by decide) (by rw [ha]; decide)
    rw [ha] at hwin hw hr hidx
    refine ⟨modes, st', h, hw, hr, (hwin 0 (by decide)).trans ?_,
      (hwin 1 (by decide)).trans ?_, (hwin 2 (by decide)).trans ?_, hidx.trans ?_⟩ <;> decide

/-- **No write-capable server while a write is in flight.** Three servers, a write in flight on
server `1` (so `GetAllocation` sets `min_w_servers = kNumReplicas`), and a stable load of reads
only: `ComputeModes` returns modes with all three servers `kRead`, none `kWrite` or `kMix`. -/
theorem computeModes_no_write_server :
    0 < allWrites inflightWriteStats ∧
    ∃ modes st', threeServers.computeModes defaultPeakIOPS inflightWriteStats (1, 0) 0 allMix =
        some (.ok modes, st') ∧ ∀ id, 1 ≤ id → id ≤ 3 → modes id = .kRead := by
  refine ⟨by decide, _, _, rfl, ?_⟩
  intro id h1 h3
  interval_cases id <;> rfl

end RWIsolationBase

end Sandook.ControlPlane
