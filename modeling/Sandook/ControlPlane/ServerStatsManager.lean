import Sandook.DiskServer.DiskMonitor
import Sandook.Lib.Loops

/-!
# The controller's per-server stats (`scheduler/control_plane/server_stats_manager.h`)

`ServerStatsManager` keeps one `ServerStats` record per registered server
(`stats_map_`, an array of `unique_ptr` indexed by server id: `none` is a null pointer), the
set of registered ids, and the reads and writes reported since the last load calculation.

* `updateServerStats` (`server_stats_manager.h:99-127`) stores the incoming record. Without
  `is_override` it first restores `mode`, `read_weight` and `write_weight` from the stored one
  (the comment: "Restore back the parameters we do not want to modify"); every other field,
  `committed_mode` among them, comes from the incoming record.
* `commitServerMode` (`:129-132`) writes `committed_mode` only.
* Dereferencing a null record, and `.at` past the array, end the call (`none`).

Each call holds the `shared_mutex` once, except `UpdateServerStats`: its restore of the stored
fields (`restoreServerStats`, shared) and its store (`storeServerStats`, unique) are two critical
sections, and `updateServerStats` is them back to back (`updateServerStats_eq_bind`). The
`LoadCalculator` thread's `CalculateLoad` publishes the load as `readOps` / `writeOps`. The
`StatsLogger` thread only reads.

Results:
* `getServerStats_updateServerStats_self`: a non-override update keeps the stored mode and
  weights and takes everything else, `committed_mode` included, from the report;
  `getServerStats_commitServerMode_self`: a commit changes `committed_mode` only.
* `report_after_commit_resets_committedMode`: a disk server's report (`DiskMonitor`) that
  arrives after a `CommitServerMode(kRead)` sets the stored `committed_mode` back to `kMix`.
-/

namespace Sandook.ControlPlane

open Sandook.DiskServer

/-- The state of `control_plane::ServerStatsManager`. -/
structure ServerStatsManager where
  /-- `servers_`: the registered ids. -/
  servers : List ServerID
  /-- `stats_map_`: the record of each id, `none` for a null pointer. -/
  statsMap : ℕ → Option ServerStats
  statsSystemReads : UInt64
  statsSystemWrites : UInt64
  /-- `read_ops_`, the read load last published by `CalculateLoad`. -/
  readOps : UInt64
  /-- `write_ops_`, the write load last published by `CalculateLoad`. -/
  writeOps : UInt64

namespace ServerStatsManager

/-- A freshly constructed manager. -/
def init : ServerStatsManager := ⟨[], fun _ => none, 0, 0, 0, 0⟩

/-- `AddServer`: a default record (`kMix`, both weights `kDefaultServerWeight`). -/
def addServer (m : ServerStatsManager) (serverId : ServerID) : Option ServerStatsManager :=
  let stats : ServerStats := { ServerStats.zero with
    serverId := serverId, mode := .kMix, readWeight := kDefaultServerWeight,
    writeWeight := kDefaultServerWeight }
  (arraySet? m.statsMap serverId (some stats)).map fun statsMap =>
    { m with statsMap := statsMap, servers := m.servers.insert serverId }

/-- `GetSystemLoad`. -/
def getSystemLoad (m : ServerStatsManager) : SystemLoad := (m.readOps, m.writeOps)

/-- `GetServerStats()`: the records of ids `1 … servers_.size()` (the array past id `0`,
cut at its end). -/
def getServerStatsList (m : ServerStatsManager) : Option ServerStatsList :=
  (List.range (min m.servers.length (kNumMaxServers - 1))).mapM fun i => m.statsMap (i + 1)

/-- `GetServerStats(server_id)`: `*(stats_map_.at(server_id))`. -/
def getServerStats (m : ServerStatsManager) (serverId : ServerID) : Option ServerStats :=
  (arrayAt? m.statsMap serverId).join

/-- `GetDataPlaneServerStats(server_id)`: the stored mode, congestion state and weights. -/
def getDataPlaneServerStats (m : ServerStatsManager) (serverId : ServerID) :
    Option DataPlaneServerStats :=
  (m.getServerStats serverId).map fun st =>
    (st.mode, st.congestionState, st.readWeight, st.writeWeight)

/-- The id and the committed mode of each record, the fields `Update` never writes. -/
def idents (m : ServerStatsManager) (serverId : ServerID) : Option (ServerID × ServerMode) :=
  (m.getServerStats serverId).map fun st => (st.serverId, st.committedMode)

/-- The restore of a non-override update: the report `stats` with the stored record's mode and
weights. -/
def restoreFields (old stats : ServerStats) : ServerStats :=
  { stats with mode := old.mode, readWeight := old.readWeight, writeWeight := old.writeWeight }

/-- The reads and writes a report adds to the system load (`uint32_t` sums). -/
def addLoad (m : ServerStatsManager) (stats : ServerStats) : ServerStatsManager :=
  let reads : UInt32 := stats.completedReads + stats.rejectedReads
  let writes : UInt32 := stats.completedWrites + stats.rejectedWrites
  { m with statsSystemReads := m.statsSystemReads + reads.toUInt64,
           statsSystemWrites := m.statsSystemWrites + writes.toUInt64 }

/-- `UpdateServerStats(server_id, stats, is_override, is_update_load)`. -/
def updateServerStats (m : ServerStatsManager) (serverId : ServerID) (stats : ServerStats)
    (isOverride isUpdateLoad : Bool) : Option ServerStatsManager :=
  let newStats : Option ServerStats :=
    if isOverride then some stats else (m.getServerStats serverId).map (restoreFields · stats)
  newStats.bind fun newStats =>
    let m := if isUpdateLoad then m.addLoad stats else m
    (arraySet? m.statsMap serverId (some newStats)).map fun statsMap =>
      { m with statsMap := statsMap }

/-- The shared-lock section of `UpdateServerStats` (`:104-111`): the record to store, the report
with the stored mode and weights unless `is_override`. -/
def restoreServerStats (m : ServerStatsManager) (serverId : ServerID) (stats : ServerStats)
    (isOverride : Bool) : Option ServerStats :=
  if isOverride then some stats else (m.getServerStats serverId).map (restoreFields · stats)

/-- The unique-lock section of `UpdateServerStats` (`:116-125`): the report's reads and writes
counted, the record `newStats` stored. -/
def storeServerStats (m : ServerStatsManager) (serverId : ServerID) (stats newStats : ServerStats)
    (isUpdateLoad : Bool) : Option ServerStatsManager :=
  let m := if isUpdateLoad then m.addLoad stats else m
  (arraySet? m.statsMap serverId (some newStats)).map fun statsMap =>
    { m with statsMap := statsMap }

/-- `CommitServerMode(server_id, mode)`: `stats_map_.at(server_id)->committed_mode = mode`. -/
def commitServerMode (m : ServerStatsManager) (serverId : ServerID) (mode : ServerMode) :
    Option ServerStatsManager :=
  (m.getServerStats serverId).bind fun old =>
    (arraySet? m.statsMap serverId (some { old with committedMode := mode })).map fun statsMap =>
      { m with statsMap := statsMap }

/-- `kLoadScaleFactor = kOneSecond / kLoadCalculationIntervalUs` (`1000000 / 10000`). -/
def kLoadScaleFactor : UInt64 := 100

/-- `CalculateLoad`, the step of the `LoadCalculator` thread (`FreezeLoad`, which only tests call,
is not modelled): the counted reads and writes, scaled to a rate, become the published load, and
the counters restart. The `double` product is exact while a count is below `2^53 / 100`. -/
def calculateLoad (m : ServerStatsManager) : ServerStatsManager :=
  { m with readOps := m.statsSystemReads * kLoadScaleFactor,
           writeOps := m.statsSystemWrites * kLoadScaleFactor,
           statsSystemReads := 0, statsSystemWrites := 0 }

/-! ## What each operation does to one server's record -/

variable {m m' : ServerStatsManager} {serverId : ServerID}

theorem lt_of_getServerStats (h : m.getServerStats serverId = some st) :
    serverId < kNumMaxServers := by
  unfold getServerStats arrayAt? at h
  split at h
  · assumption
  · simp at h

theorem getServerStats_of_lt (h : serverId < kNumMaxServers) :
    m.getServerStats serverId = m.statsMap serverId := by
  simp [getServerStats, arrayAt?_of_lt _ h]

/-- `UpdateServerStats` is its two critical sections back to back. -/
theorem updateServerStats_eq_bind {stats : ServerStats} {isOverride isUpdateLoad : Bool} :
    m.updateServerStats serverId stats isOverride isUpdateLoad =
      (m.restoreServerStats serverId stats isOverride).bind fun newStats =>
        m.storeServerStats serverId stats newStats isUpdateLoad := rfl

theorem restoreServerStats_false {stats old : ServerStats}
    (hold : m.getServerStats serverId = some old) :
    m.restoreServerStats serverId stats false = some (restoreFields old stats) := by
  simp [restoreServerStats, hold]

/-- The store puts its record under its id. -/
theorem getServerStats_storeServerStats_self {stats newStats : ServerStats} {isUpdateLoad : Bool}
    (h : m.storeServerStats serverId stats newStats isUpdateLoad = some m') :
    m'.getServerStats serverId = some newStats := by
  unfold storeServerStats at h
  obtain ⟨statsMap, hset, rfl⟩ := Option.map_eq_some_iff.mp h
  unfold arraySet? at hset
  split at hset
  · cases hset
    rename_i hlt
    simp [getServerStats_of_lt hlt]
  · cases hset

/-- A store of one server leaves the others' records alone. -/
theorem getServerStats_storeServerStats_other {stats newStats : ServerStats} {other : ServerID}
    {isUpdateLoad : Bool} (hne : other ≠ serverId)
    (h : m.storeServerStats serverId stats newStats isUpdateLoad = some m') :
    m'.getServerStats other = m.getServerStats other := by
  unfold storeServerStats at h
  obtain ⟨statsMap, hset, rfl⟩ := Option.map_eq_some_iff.mp h
  unfold arraySet? at hset
  split at hset
  · cases hset
    split <;> simp [getServerStats, arrayAt?, Function.update_of_ne hne, addLoad]
  · cases hset

theorem servers_storeServerStats {stats newStats : ServerStats} {isUpdateLoad : Bool}
    (h : m.storeServerStats serverId stats newStats isUpdateLoad = some m') :
    m'.servers = m.servers := by
  unfold storeServerStats at h
  obtain ⟨statsMap, -, rfl⟩ := Option.map_eq_some_iff.mp h
  split <;> rfl

theorem storeServerStats_isSome {stats newStats : ServerStats} {isUpdateLoad : Bool}
    (hlt : serverId < kNumMaxServers) :
    (m.storeServerStats serverId stats newStats isUpdateLoad).isSome := by
  unfold storeServerStats
  split <;> simp [arraySet?_of_lt _ _ hlt]

/-- **A non-override update** stores the report with the stored mode and weights. -/
theorem getServerStats_updateServerStats_self {stats old : ServerStats} {isUpdateLoad : Bool}
    (hold : m.getServerStats serverId = some old)
    (h : m.updateServerStats serverId stats false isUpdateLoad = some m') :
    m'.getServerStats serverId = some (restoreFields old stats) := by
  rw [updateServerStats_eq_bind, restoreServerStats_false hold, Option.bind_some] at h
  exact getServerStats_storeServerStats_self h

/-- An update of one server leaves the others' records alone. -/
theorem getServerStats_updateServerStats_other {stats : ServerStats} {other : ServerID}
    {isOverride isUpdateLoad : Bool} (hne : other ≠ serverId)
    (h : m.updateServerStats serverId stats isOverride isUpdateLoad = some m') :
    m'.getServerStats other = m.getServerStats other := by
  obtain ⟨newStats, -, h⟩ := Option.bind_eq_some_iff.mp (updateServerStats_eq_bind ▸ h)
  exact getServerStats_storeServerStats_other hne h

/-- **A commit** changes the stored `committed_mode` and nothing else. -/
theorem getServerStats_commitServerMode_self {old : ServerStats} {mode : ServerMode}
    (hold : m.getServerStats serverId = some old)
    (h : m.commitServerMode serverId mode = some m') :
    m'.getServerStats serverId = some { old with committedMode := mode } := by
  have hlt := lt_of_getServerStats hold
  unfold commitServerMode at h
  simp only [hold, Option.bind_some, arraySet?_of_lt _ _ hlt, Option.map_some,
    Option.some.injEq] at h
  subst h
  simp [getServerStats_of_lt hlt]

/-- An override update stores its record as it is. -/
theorem getServerStats_updateServerStats_override {stats : ServerStats} {isUpdateLoad : Bool}
    (h : m.updateServerStats serverId stats true isUpdateLoad = some m') :
    m'.getServerStats serverId = some stats :=
  getServerStats_storeServerStats_self h

theorem servers_updateServerStats {stats : ServerStats} {isOverride isUpdateLoad : Bool}
    (h : m.updateServerStats serverId stats isOverride isUpdateLoad = some m') :
    m'.servers = m.servers := by
  obtain ⟨newStats, -, h⟩ := Option.bind_eq_some_iff.mp (updateServerStats_eq_bind ▸ h)
  exact servers_storeServerStats h

/-- A commit of one server leaves the others' records alone. -/
theorem getServerStats_commitServerMode_other {mode : ServerMode} {other : ServerID}
    (hne : other ≠ serverId) (h : m.commitServerMode serverId mode = some m') :
    m'.getServerStats other = m.getServerStats other := by
  unfold commitServerMode at h
  obtain ⟨old, -, h⟩ := Option.bind_eq_some_iff.mp h
  obtain ⟨statsMap, hset, rfl⟩ := Option.map_eq_some_iff.mp h
  unfold arraySet? at hset
  split at hset
  · cases hset
    simp [getServerStats, arrayAt?, Function.update_of_ne hne]
  · cases hset

theorem servers_commitServerMode {mode : ServerMode}
    (h : m.commitServerMode serverId mode = some m') : m'.servers = m.servers := by
  unfold commitServerMode at h
  obtain ⟨old, -, h⟩ := Option.bind_eq_some_iff.mp h
  obtain ⟨statsMap, -, rfl⟩ := Option.map_eq_some_iff.mp h
  rfl

/-- **`AddServer`** stores a default record (`kMix`, committed `kMix`) under the new id,
registers the id, and leaves every other record alone. -/
theorem addServer_eq (h : m.addServer serverId = some m') :
    serverId < kNumMaxServers ∧ m'.servers = m.servers.insert serverId ∧
      (∃ st, m'.getServerStats serverId = some st ∧ st.serverId = serverId ∧
        st.mode = .kMix ∧ st.committedMode = .kMix) ∧
      ∀ j, j ≠ serverId → m'.getServerStats j = m.getServerStats j := by
  unfold addServer arraySet? at h
  split at h
  · rename_i hlt
    cases h
    refine ⟨hlt, rfl, ⟨_, (getServerStats_of_lt hlt).trans (Function.update_self _ _ _), rfl, rfl,
      rfl⟩, fun j hj => ?_⟩
    simp [getServerStats, arrayAt?, Function.update_of_ne hj]
  · cases h

/-! ## A report after a commit -/

/-- **A stats report clobbers the committed mode.** Register server `1`, commit `kRead` for
it, then store any report its `DiskMonitor` builds, as `ControllerAgent::UpdateServerStats`
does (`is_override = false`, `is_update_load = true`): the stored `committed_mode` is `kMix`,
not the committed `kRead`. -/
theorem report_after_commit_resets_committedMode (mon : DiskMonitor) :
    ((init.addServer 1 >>= (·.commitServerMode 1 .kRead) >>=
        (·.updateServerStats 1 mon.getServerStats false true) >>=
        (·.getServerStats 1)).map (·.committedMode)) = some .kMix := by
  rfl

end ServerStatsManager

end Sandook.ControlPlane
