import Sandook.ControlPlane.ServerStatsManager
import Sandook.ControlPlane.RWIsolationBase
import Sandook.ControlPlane.ProfileGuided

/-!
# The controller's scheduler (`scheduler/control_plane/scheduler.h`)

Model of `control_plane::Scheduler`: the stats manager, the number of registered servers, the
policy its `ControlPlaneSchedulerType` names, and `Update`, the step of its updater thread:
compute the modes, write them into the stats, compute the read and the write weights, and
store weights and modes in the record of every registered server `1 … num_servers_`.

* The isolation policies (`rw_isolation_weak.h`, `rw_isolation_strict.h`,
  `adaptive_rw_isolation_weak.h`) write `1.0 / num_valid_servers` into a local
  `ServerWeights weights;` that has no initialiser, at the servers they count only. The
  contents of the three uninitialised arrays of one `Update` (`ComputeModes`'s and the two
  `ComputeWeights` calls') are parameters.
* The policies that hold disk models (`ProfileGuided`, `AdaptiveRWIsolationBase`) load each
  server's at `AddServer` from its profile (`DiskModel(name)`); the models are the parameter
  `DiskProfiles` of `Update`, whose mixed peak IOPS is defined at every server. The adaptive
  policies' `GetPeakIOPS` and `ProfileGuided::ComputeWeights` are computed from them.
* `1.0 / 0` is `inf` in the code and `0` in `ℚ`; it is computed only when no server is counted,
  and then stored nowhere.
* Telemetry streams are not modelled; a record of an unregistered server (a null
  `telemetry_map_` entry) ends `UpdateServerStats` (`none`), as does `.at` past an array.

Results:
* `getServerStats_update_writeWeight`: at the failing input (servers `1`, `2`, `3` under
  `RWIsolationWeak`, one read reported, no write), `Update` stores as every server's write
  weight the uninitialised contents of `ComputeWriteWeights`'s array.
-/

namespace Sandook.ControlPlane

/-- `Config::ControlPlaneSchedulerType`. -/
inductive ControlPlaneSchedulerType where
  | kNoOp | kProfileGuided | kRWIsolationStrict | kRWIsolationWeak | kAdaptiveRWIsolationWeak
  | kProfileGuidedRWIsolation
  deriving DecidableEq, Repr

/-- The disk models of the servers (`models_`), of which `GetPeakIOPS(ServerMode::kMix)` is
defined. -/
structure DiskProfiles where
  models : DiskModels
  getPeakIOPS_mix_isSome : ∀ serverId, ((models serverId).getPeakIOPS .kMix 0).isSome

/-- `AdaptiveRWIsolationBase::GetPeakIOPS(server_id, mode)`: the model's mixed peak, whatever the
mode. -/
def DiskProfiles.peakIOPS (profiles : DiskProfiles) (serverId : ServerID) (_mode : ServerMode) :
    UInt64 :=
  ((profiles.models serverId).getPeakIOPS .kMix 0).get (profiles.getPeakIOPS_mix_isSome serverId)

/-- The profile of a disk with one mixed table of one point, below saturation. -/
def onePointModel : DiskModel := ⟨[], [], [], [], [⟨1, [1], [0]⟩]⟩

/-- Every server with `onePointModel`. -/
def onePointProfiles : DiskProfiles := ⟨fun _ => onePointModel, fun _ => by decide +kernel⟩

/-! ## The isolation policies' weights -/

/-- The loop shared by the isolation policies' weight functions: `1.0 / num_valid_servers` at
every server whose mode passes `valid`, written over `weights`, the contents of the local array
before the loop. -/
def isolationWeights (weights : ServerWeights) (stats : ServerStatsList)
    (valid : ServerMode → Bool) : Option ServerWeights :=
  let weight : ServerWeight := 1 / ((stats.filter fun srv => valid srv.mode).length : ℚ)
  stats.foldlM (fun w srv => if valid srv.mode then arraySet? w srv.serverId weight else some w)
    weights

/-- `RWIsolationWeak::ComputeReadWeights`: reads go to every server. -/
def RWIsolationWeak.computeReadWeights (weights : ServerWeights) (stats : ServerStatsList) :
    Option ServerWeights :=
  isolationWeights weights stats fun _ => true

/-- `RWIsolationWeak::ComputeWriteWeights`: writes go to servers not in `kRead` mode. -/
def RWIsolationWeak.computeWriteWeights (weights : ServerWeights) (stats : ServerStatsList) :
    Option ServerWeights :=
  isolationWeights weights stats fun mode => decide (mode ≠ .kRead)

/-- `RWIsolationWeak::ComputeWeights`; an op other than a read or a write throws. -/
def RWIsolationWeak.computeWeights (weights : ServerWeights) (stats : ServerStatsList)
    (op : OpType) : Option (Status ServerWeights) :=
  match op with
  | .kRead => (RWIsolationWeak.computeReadWeights weights stats).map .ok
  | .kWrite => (RWIsolationWeak.computeWriteWeights weights stats).map .ok
  | _ => none

/-- `AdaptiveRWIsolationWeak::ComputeWeights`, the same functions as `RWIsolationWeak`'s. -/
def AdaptiveRWIsolationWeak.computeWeights (weights : ServerWeights) (stats : ServerStatsList)
    (op : OpType) : Option (Status ServerWeights) :=
  RWIsolationWeak.computeWeights weights stats op

/-- `RWIsolationStrict::ComputeWeights`: reads skip `kWrite` servers, writes skip `kRead`
servers. -/
def RWIsolationStrict.computeWeights (weights : ServerWeights) (stats : ServerStatsList)
    (op : OpType) : Option (Status ServerWeights) :=
  let filterMode : ServerMode := if op = .kRead then .kWrite else .kRead
  (isolationWeights weights stats fun mode => decide (mode ≠ filterMode)).map .ok

/-- `ProfileGuidedRWIsolation::ComputeWeights`: the profile-guided weights over all servers for
reads, over the servers not in `kRead` mode for writes. -/
def ProfileGuidedRWIsolation.computeWeights (profiles : DiskProfiles) (stats : ServerStatsList)
    (op : OpType) (load : SystemLoad) : Option (Status ServerWeights) :=
  match op with
  | .kRead => ProfileGuided.computeWeights profiles.models stats .kRead load
  | .kWrite =>
    ProfileGuided.computeWeights profiles.models
      (stats.filter fun srv => decide (srv.mode ≠ .kRead)) .kWrite load
  | _ => none

/-! ## Dispatch on the policy -/

/-- `sched_->ComputeModes(stats, load)`: the isolation policies' `RWIsolationBase::ComputeModes`,
with the base class's peak IOPS or the disk models'; `ENOTSUP` otherwise. -/
def computeModes (profiles : DiskProfiles) : ControlPlaneSchedulerType → RWIsolationBase →
    ServerStatsList → SystemLoad → UInt64 → ServerModes →
    Option (Status ServerModes × RWIsolationBase)
  | .kNoOp, rw, _, _, _, _ => some (.error ENOTSUP, rw)
  | .kProfileGuided, rw, _, _, _, _ => some (.error ENOTSUP, rw)
  | .kRWIsolationStrict, rw, stats, load, now, modes =>
    rw.computeModes defaultPeakIOPS stats load now modes
  | .kRWIsolationWeak, rw, stats, load, now, modes =>
    rw.computeModes defaultPeakIOPS stats load now modes
  | .kAdaptiveRWIsolationWeak, rw, stats, load, now, modes =>
    rw.computeModes profiles.peakIOPS stats load now modes
  | .kProfileGuidedRWIsolation, rw, stats, load, now, modes =>
    rw.computeModes profiles.peakIOPS stats load now modes

/-- `sched_->ComputeWeights(stats, op, load)`, over the callee's uninitialised `weights`. -/
def computeWeights (profiles : DiskProfiles) : ControlPlaneSchedulerType → ServerWeights →
    ServerStatsList → OpType → SystemLoad → Option (Status ServerWeights)
  | .kNoOp, _, _, _, _ => some (.error ENOTSUP)
  | .kProfileGuided, _, stats, op, load =>
    ProfileGuided.computeWeights profiles.models stats op load
  | .kRWIsolationStrict, weights, stats, op, _ => RWIsolationStrict.computeWeights weights stats op
  | .kRWIsolationWeak, weights, stats, op, _ => RWIsolationWeak.computeWeights weights stats op
  | .kAdaptiveRWIsolationWeak, weights, stats, op, _ =>
    AdaptiveRWIsolationWeak.computeWeights weights stats op
  | .kProfileGuidedRWIsolation, _, stats, op, load =>
    ProfileGuidedRWIsolation.computeWeights profiles stats op load

/-- The policies whose `AddServer` is `RWIsolationBase::AddServer`. -/
def ControlPlaneSchedulerType.isRWIsolation : ControlPlaneSchedulerType → Bool
  | .kNoOp | .kProfileGuided => false
  | _ => true

/-! ## The scheduler -/

/-- The state of `control_plane::Scheduler`; `rw` is the isolation policy's state. -/
structure Scheduler where
  schedType : ControlPlaneSchedulerType
  numServers : ℕ
  statsMgr : ServerStatsManager
  rw : RWIsolationBase
  freezeWeights : Bool
  freezeModes : Bool

namespace Scheduler

/-- The constructor, at time `now`. -/
def init (schedType : ControlPlaneSchedulerType) (now : UInt64) : Scheduler :=
  ⟨schedType, 0, ServerStatsManager.init, RWIsolationBase.init now, false, false⟩

/-- `AddServer`: the policy's `AddServer`, then the stats manager's. -/
def addServer (s : Scheduler) (serverId : ServerID) : Option Scheduler :=
  let rw := if s.schedType.isRWIsolation then s.rw.addServer else s.rw
  (s.statsMgr.addServer serverId).map fun statsMgr =>
    { s with rw := rw, statsMgr := statsMgr, numServers := s.numServers + 1 }

/-- `UpdateServerStats`; the telemetry stream of an unregistered server is a null pointer. -/
def updateServerStats (s : Scheduler) (serverId : ServerID) (stats : ServerStats)
    (isOverride isUpdateLoad : Bool) : Option Scheduler :=
  (s.statsMgr.updateServerStats serverId stats isOverride isUpdateLoad).bind fun statsMgr =>
    if serverId ∈ s.statsMgr.servers then some { s with statsMgr := statsMgr } else none

/-- `UpdateServerStats` from its unique-lock section on: `newStats`, restored in the shared-lock
section, stored and the report's load counted, then the telemetry trace. -/
def storeServerStats (s : Scheduler) (serverId : ServerID) (stats newStats : ServerStats)
    (isUpdateLoad : Bool) : Option Scheduler :=
  (s.statsMgr.storeServerStats serverId stats newStats isUpdateLoad).bind fun statsMgr =>
    if serverId ∈ s.statsMgr.servers then some { s with statsMgr := statsMgr } else none

/-- `CommitServerMode`. -/
def commitServerMode (s : Scheduler) (serverId : ServerID) (mode : ServerMode) :
    Option Scheduler :=
  (s.statsMgr.commitServerMode serverId mode).map fun statsMgr => { s with statsMgr := statsMgr }

/-- The stats manager's `LoadCalculator` thread. -/
def calculateLoad (s : Scheduler) : Scheduler :=
  { s with statsMgr := s.statsMgr.calculateLoad }

/-- `srv_stats.mode = (*modes).at(srv_stats.server_id)` for every record, when the modes are a
success. -/
def setModes (modes : Status ServerModes) (stats : ServerStatsList) : Option ServerStatsList :=
  match modes with
  | .ok modes => stats.mapM fun srv => (arrayAt? modes srv.serverId).map fun mode =>
    { srv with mode := mode }
  | .error _ => some stats

/-- `if (r) field = (*r).at(server_id)`: one field of a record from a result that is a success. -/
def applyResult {α : Type} (r : Status (ℕ → α)) (serverId : ServerID)
    (set : ServerStats → α → ServerStats) (srv : ServerStats) : Option ServerStats :=
  match r with
  | .ok arr => (arrayAt? arr serverId).map (set srv)
  | .error _ => some srv

/-- One iteration of `Update`'s last loop: the server's record with the computed read weight,
write weight and mode, stored as an override without load. -/
def storeComputed (rWeights wWeights : Status ServerWeights) (modes : Status ServerModes)
    (m : ServerStatsManager) (i : ℕ) : Option ServerStatsManager :=
  let serverId := i + kInvalidServerID + 1
  (m.getServerStats serverId).bind fun srvStats =>
    (applyResult rWeights serverId (fun srv w => { srv with readWeight := w }) srvStats).bind
      fun srvStats =>
    (applyResult wWeights serverId (fun srv w => { srv with writeWeight := w }) srvStats).bind
      fun srvStats =>
    (applyResult modes serverId (fun srv mode => { srv with mode := mode }) srvStats).bind
      fun srvStats =>
    if rWeights.toBool || wWeights.toBool || modes.toBool then
      m.updateServerStats serverId srvStats true false
    else some m

/-- The first part of `Update` (`scheduler.h:155-193`) at time `now`: the snapshot of the records
(`GetServerStats()`), the load, the modes written into the snapshot, the read and the write
weights, and the policy's state after `ComputeModes`. -/
def compute (profiles : DiskProfiles) (s : Scheduler) (now : UInt64) (garbageModes : ServerModes)
    (garbageRead garbageWrite : ServerWeights) :
    Option (Status ServerWeights × Status ServerWeights × Status ServerModes × RWIsolationBase) :=
  s.statsMgr.getServerStatsList.bind fun stats =>
    let load := s.statsMgr.getSystemLoad
    let computed : Option (Status ServerModes × RWIsolationBase) :=
      if s.freezeModes then some (.error EINVAL, s.rw)
      else computeModes profiles s.schedType s.rw stats load now garbageModes
    computed.bind fun r =>
      (setModes r.1 stats).bind fun stats =>
        let rWeights : Option (Status ServerWeights) :=
          if s.freezeWeights then some (.error EINVAL)
          else computeWeights profiles s.schedType garbageRead stats .kRead load
        let wWeights : Option (Status ServerWeights) :=
          if s.freezeWeights then some (.error EINVAL)
          else computeWeights profiles s.schedType garbageWrite stats .kWrite load
        rWeights.bind fun rWeights => wWeights.bind fun wWeights =>
          some (rWeights, wWeights, r.1, r.2)

/-- Lines 197-211 of `Update`'s last loop: the record of the server at index `i`, read under the
shared lock (`GetServerStats(server_id)`), with the computed weights and mode. -/
def readComputed (rWeights wWeights : Status ServerWeights) (modes : Status ServerModes)
    (m : ServerStatsManager) (i : ℕ) : Option ServerStats :=
  let serverId := i + kInvalidServerID + 1
  (m.getServerStats serverId).bind fun srvStats =>
    (applyResult rWeights serverId (fun srv w => { srv with readWeight := w }) srvStats).bind
      fun srvStats =>
    (applyResult wWeights serverId (fun srv w => { srv with writeWeight := w }) srvStats).bind
      fun srvStats =>
    applyResult modes serverId (fun srv mode => { srv with mode := mode }) srvStats

/-- Lines 213-217: the write-back of the record, an override without load, when a result is a
success. -/
def writeComputed (rWeights wWeights : Status ServerWeights) (modes : Status ServerModes)
    (m : ServerStatsManager) (i : ℕ) (srvStats : ServerStats) : Option ServerStatsManager :=
  if rWeights.toBool || wWeights.toBool || modes.toBool then
    m.updateServerStats (i + kInvalidServerID + 1) srvStats true false
  else some m

/-- `Update` at time `now`; `garbageModes`, `garbageRead` and `garbageWrite` are the contents of
the uninitialised arrays of `ComputeModes` and of the read and the write `ComputeWeights`. -/
def update (profiles : DiskProfiles) (s : Scheduler) (now : UInt64) (garbageModes : ServerModes)
    (garbageRead garbageWrite : ServerWeights) : Option Scheduler :=
  s.statsMgr.getServerStatsList.bind fun stats =>
    let load := s.statsMgr.getSystemLoad
    let computed : Option (Status ServerModes × RWIsolationBase) :=
      if s.freezeModes then some (.error EINVAL, s.rw)
      else computeModes profiles s.schedType s.rw stats load now garbageModes
    computed.bind fun r =>
      (setModes r.1 stats).bind fun stats =>
        let rWeights : Option (Status ServerWeights) :=
          if s.freezeWeights then some (.error EINVAL)
          else computeWeights profiles s.schedType garbageRead stats .kRead load
        let wWeights : Option (Status ServerWeights) :=
          if s.freezeWeights then some (.error EINVAL)
          else computeWeights profiles s.schedType garbageWrite stats .kWrite load
        rWeights.bind fun rWeights => wWeights.bind fun wWeights =>
          ((List.range s.numServers).foldlM (storeComputed rWeights wWeights r.1) s.statsMgr).map
            fun statsMgr => { s with statsMgr := statsMgr, rw := r.2 }

/-- One iteration of the last loop is its read, then its write-back. -/
theorem storeComputed_eq {rWeights wWeights : Status ServerWeights} {modes : Status ServerModes}
    {m : ServerStatsManager} {i : ℕ} :
    storeComputed rWeights wWeights modes m i =
      (readComputed rWeights wWeights modes m i).bind
        (writeComputed rWeights wWeights modes m i) := by
  simp only [storeComputed, readComputed, Option.bind_assoc]
  rfl

/-- `Update` is its first part, then the loop over the servers. -/
theorem update_eq {profiles : DiskProfiles} {s : Scheduler} {now : UInt64}
    {garbageModes : ServerModes} {garbageRead garbageWrite : ServerWeights} :
    s.update profiles now garbageModes garbageRead garbageWrite =
      (s.compute profiles now garbageModes garbageRead garbageWrite).bind fun c =>
        ((List.range s.numServers).foldlM (storeComputed c.1 c.2.1 c.2.2.1) s.statsMgr).map
          fun statsMgr => { s with statsMgr := statsMgr, rw := c.2.2.2 } := by
  simp only [update, compute, Option.bind_assoc, Option.bind_some]

/-! ### The report's store -/

/-- The store succeeds at a registered id, and changes the stats manager only. -/
theorem storeServerStats_eq {s s' : Scheduler} {serverId : ServerID} {stats newStats : ServerStats}
    {isUpdateLoad : Bool} (h : s.storeServerStats serverId stats newStats isUpdateLoad = some s') :
    serverId ∈ s.statsMgr.servers ∧ ∃ statsMgr,
      s.statsMgr.storeServerStats serverId stats newStats isUpdateLoad = some statsMgr ∧
        s' = { s with statsMgr := statsMgr } := by
  obtain ⟨statsMgr, hstore, h⟩ := Option.bind_eq_some_iff.mp h
  split at h
  · rename_i hmem
    exact ⟨hmem, statsMgr, hstore, (Option.some.inj h).symm⟩
  · cases h

theorem storeServerStats_isSome {s : Scheduler} {serverId : ServerID}
    {stats newStats : ServerStats} {isUpdateLoad : Bool} (hlt : serverId < kNumMaxServers)
    (hmem : serverId ∈ s.statsMgr.servers) :
    (s.storeServerStats serverId stats newStats isUpdateLoad).isSome := by
  obtain ⟨statsMgr, hstore⟩ : ∃ statsMgr,
      s.statsMgr.storeServerStats serverId stats newStats isUpdateLoad = some statsMgr :=
    Option.isSome_iff_exists.mp (ServerStatsManager.storeServerStats_isSome hlt)
  simp [storeServerStats, hstore, hmem]

/-! ### What `Update` never writes -/

variable {m m' : ServerStatsManager}

theorem applyResult_ident {α : Type} {r : Status (ℕ → α)} {serverId : ServerID}
    {set : ServerStats → α → ServerStats} {srv srv' : ServerStats}
    (hset : ∀ a, (set srv a).serverId = srv.serverId ∧
      (set srv a).committedMode = srv.committedMode)
    (h : applyResult r serverId set srv = some srv') :
    srv'.serverId = srv.serverId ∧ srv'.committedMode = srv.committedMode := by
  unfold applyResult at h
  split at h
  · obtain ⟨a, -, rfl⟩ := Option.map_eq_some_iff.mp h
    exact hset a
  · cases h
    exact ⟨rfl, rfl⟩

/-- The copy `Update` takes keeps the id and the committed mode of the record it copies. -/
theorem readComputed_ident {rWeights wWeights : Status ServerWeights} {modes : Status ServerModes}
    {i : ℕ} {st : ServerStats} (h : readComputed rWeights wWeights modes m i = some st) :
    ∃ old, m.getServerStats (i + kInvalidServerID + 1) = some old ∧
      st.serverId = old.serverId ∧ st.committedMode = old.committedMode := by
  unfold readComputed at h
  obtain ⟨st₀, h₀, h⟩ := Option.bind_eq_some_iff.mp h
  obtain ⟨st₁, h₁, h⟩ := Option.bind_eq_some_iff.mp h
  obtain ⟨st₂, h₂, h₃⟩ := Option.bind_eq_some_iff.mp h
  have e₁ := applyResult_ident (fun _ => ⟨rfl, rfl⟩) h₁
  have e₂ := applyResult_ident (fun _ => ⟨rfl, rfl⟩) h₂
  have e₃ := applyResult_ident (fun _ => ⟨rfl, rfl⟩) h₃
  exact ⟨st₀, h₀, e₃.1.trans (e₂.1.trans e₁.1), e₃.2.trans (e₂.2.trans e₁.2)⟩

/-- The write-back stores the copy under its server's id, or nothing when no result is a
success. -/
theorem writeComputed_cases {rWeights wWeights : Status ServerWeights} {modes : Status ServerModes}
    {i : ℕ} {st : ServerStats} (h : writeComputed rWeights wWeights modes m i st = some m') :
    m' = m ∨ m.updateServerStats (i + kInvalidServerID + 1) st true false = some m' := by
  unfold writeComputed at h
  split at h
  · exact .inr h
  · exact .inl (Option.some.inj h).symm

end Scheduler

/-! ## Uninitialised write weights -/

/-- The failing input: an `RWIsolationWeak` controller with servers `1`, `2`, `3`, a report of one
completed read from server `1`, and the load the `LoadCalculator` thread derives from it (`100`
reads per second, no writes). -/
def readLoadScheduler : Option Scheduler :=
  ((((Scheduler.init .kRWIsolationWeak 0).addServer 1).bind (·.addServer 2)).bind
    (·.addServer 3)).bind fun s =>
    (s.updateServerStats 1 { ServerStats.zero with serverId := 1, completedReads := 1 } false
      true).map Scheduler.calculateLoad

/-- **`Update` publishes uninitialised write weights.** At the failing input every server is put
in `kRead` mode, so `ComputeWriteWeights` counts no server and writes nothing into its array;
`Update` then stores the array's initial contents as each server's `write_weight`, for whatever
they are. -/
theorem getServerStats_update_writeWeight (profiles : DiskProfiles) (garbageModes : ServerModes)
    (garbageRead garbageWrite : ServerWeights) :
    ∀ serverId ∈ [1, 2, 3],
      ((readLoadScheduler.bind fun s => s.update profiles 0 garbageModes garbageRead garbageWrite
        ).bind fun s => s.statsMgr.getServerStats serverId).map (·.writeWeight) =
        some (garbageWrite serverId) := by
  intro serverId hid
  simp only [List.mem_cons, List.not_mem_nil, or_false] at hid
  rcases hid with rfl | rfl | rfl <;> rfl

/-- Server `2`'s write weight after `Update`, when `ComputeWriteWeights`'s array held `0.5`. -/
theorem getServerStats_update_writeWeight_half :
    ((readLoadScheduler.bind fun s => s.update onePointProfiles 0
        (fun _ => .kMix) (fun _ => 0) (fun _ => 1 / 2)).bind fun s =>
          s.statsMgr.getServerStats 2).map (·.writeWeight) = some (1 / 2) :=
  getServerStats_update_writeWeight _ _ _ _ 2 (by simp)

end Sandook.ControlPlane
