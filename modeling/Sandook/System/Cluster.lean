import Sandook.Controller.ControllerAgent
import Sandook.DiskServer.Congestion
import Sandook.DataPlane.ServerStatsManager

/-!
# The cluster: the controller, the storage servers and the volumes

The parts of a deployment that pass server modes around, each by its model in the modules
below:

* the controller (`ControllerAgent`), whose connection handler (`controller_conn_handler.cc`)
  serves `RegisterServer`, `UpdateServerStats`, `CommitServerMode` and `GetServerStats`, and
  whose scheduler runs `Update` on its updater thread and `CalculateLoad` on its load calculator;
* each storage server (`storage_server.cc`): its constructor registers it, and
  `ControllerStatsUpdater` loops over its report, the reply's `SetModeAndWeights` and the commit
  of the mode it is in, while its `DiskMonitor`'s flusher and load calculator run beside it;
* each volume's `data_plane::ServerStatsManager`, which `VirtualDiskRemote::UpdateServerStats`
  sets from the reply to its `GetServerStats` call (a poll).

A run interleaves their steps in any order (`Cluster.step`, `Cluster.run`). A step is one
critical section of the stats manager's lock, with the local work before it:

* `Update` (`scheduler.h:154-218`) is `updateBegin`, the snapshot of the records and the modes
  and weights computed from it (`Scheduler.compute`); then, per server, `updateRead`, the loop
  test and the copy of its record (`GetServerStats(server_id)`, line 197), and `updateWrite`, the
  write-back of the changed copy (`UpdateServerStats`, line 214). Run with nothing between them,
  these steps are `Scheduler.update` (`run_updateSteps`).
* `HandleUpdateServerStats` takes the lock three times: `reportRead` (the server's
  `UpdateAndGetServerStats`, then `UpdateServerStats`' shared section, which reads the stored
  mode and weights into the record to store), `reportStore` (its unique section) and `reply`
  (`GetDataPlaneServerStats`).
* A poll is `pollRequest`, the controller's `GetServerStats()`, and `pollReply`, the volume's
  `SetServerStats` of the reply; the reply can be lost (`pollLost`).
* Every call of a server's loop can fail: the report before the controller stores it
  (`reportLost`), its reply (`replyLost`: `HandleUpdateServerStatsReply` then fails on the empty
  buffer), and the commit (`commitLost`). The loop goes on in each case.
* A storage server's `server_id_`, and its monitor's, is the id `RegisterServer` returned, and
  the servers are indexed by it. A failed registration throws in the constructor: no server.
  `Config::kDiskServerRejections` and the model `DiskModel(name)` loads are parameters of the
  registration, which is one step.
* What `UpdateStats` reads off the data path's counters is a parameter of the report
  (`OpCounts`). A message is its fields: the wire formats are not modelled here.
-/

namespace Sandook.System

open Sandook.ControlPlane Sandook.Controller Sandook.DiskServer

/-- Where a storage server's `ControllerStatsUpdater` loop is. -/
inductive UpdaterPc where
  /-- At the top of the loop: the report is next. -/
  | idle
  /-- The controller holds the report `stats` and `newStats`, the record it stores for it, with
  the mode and weights it read from the stored one. -/
  | reporting (stats newStats : ServerStats)
  /-- The controller has stored the report and builds the reply. -/
  | reported
  /-- The reply is on its way back. -/
  | replied (r : DataPlaneServerStats)
  /-- The commit of `mon_.GetMode()` is next. -/
  | committing

/-- Between the report's store and the reply's `SetModeAndWeights`. -/
def UpdaterPc.AwaitsReply : UpdaterPc → Prop
  | .reported | .replied _ => True
  | _ => False

/-- Where the controller's updater thread is in `Update`. -/
inductive UpdatePc where
  /-- Between two calls of `Update`. -/
  | idle
  /-- In the last loop at index `i`, with the computed weights and modes: the loop test and the
  read of the next record are next. -/
  | reading (rWeights wWeights : Status ServerWeights) (modes : Status ServerModes) (i : ℕ)
  /-- The record at index `i` is copied and changed; its write-back is next. -/
  | writing (rWeights wWeights : Status ServerWeights) (modes : Status ServerModes) (i : ℕ)
      (srvStats : ServerStats)

/-- A registered storage server: its monitor and its stats loop. -/
structure StorageServer where
  mon : MonitorState
  pc : UpdaterPc

/-- The constructor once `RegisterServer` returned `serverId`: `HandleRegisterServerReply` sets
the monitor's id, `SetIsRejectionsEnabled` loads the model, and the loop starts. -/
def StorageServer.handleRegisterServerReply (serverId : ServerID) (isRejectionsEnabled : Bool)
    (model : DiskModel) : StorageServer :=
  ⟨({ MonitorState.init with serverId := serverId } : MonitorState).setIsRejectionsEnabled
    isRejectionsEnabled model, .idle⟩

/-- The controller and its updater thread, the storage server registered under each id, each
volume's view of the servers and the reply its poll awaits. -/
structure Cluster where
  ctrl : ControllerAgent
  updater : UpdatePc
  servers : ServerID → Option StorageServer
  volumes : VolumeID → DataPlane.ServerStatsManager
  polls : VolumeID → Option ServerStatsList

/-- The steps of a run. -/
inductive Event where
  /-- A storage server's constructor: `RegisterServer`, then `HandleRegisterServerReply`. -/
  | registerServer (nSectors : ℕ) (isRejectionsEnabled : Bool) (model : DiskModel)
  /-- Server `i`'s `UpdateAndGetServerStats` over the counts `c`; the report reaches
  `HandleUpdateServerStats`, and `UpdateServerStats` restores the stored mode and weights. -/
  | reportRead (i : ServerID) (c : OpCounts)
  /-- `UpdateServerStats` stores server `i`'s record. -/
  | reportStore (i : ServerID)
  /-- Server `i`'s `UpdateAndGetServerStats` over `c`, and its report is lost. -/
  | reportLost (i : ServerID) (c : OpCounts)
  /-- `HandleUpdateServerStats` builds server `i`'s reply from `GetDataPlaneServerStats`. -/
  | reply (i : ServerID)
  /-- Server `i`'s `HandleUpdateServerStatsReply`: `SetModeAndWeights` at time `now`. -/
  | adopt (i : ServerID) (now : UInt64)
  /-- Server `i`'s reply is lost. -/
  | replyLost (i : ServerID)
  /-- Server `i`'s `CommitServerMode` reaches `HandleCommitServerMode`. -/
  | commit (i : ServerID)
  /-- Server `i`'s commit is lost. -/
  | commitLost (i : ServerID)
  /-- A round of server `i`'s flusher at time `now`. -/
  | flush (i : ServerID) (now : UInt64) (reads writes : Quantiles)
  /-- A round of server `i`'s load calculator. -/
  | diskLoad (i : ServerID) (diskReads diskWrites : UInt64)
  /-- The updater thread starts `Update` at time `now`: the snapshot, the modes and the weights. -/
  | updateBegin (profiles : DiskProfiles) (now : UInt64) (garbageModes : ServerModes)
      (garbageRead garbageWrite : ServerWeights)
  /-- `Update`'s loop test, and the copy of the next server's record. -/
  | updateRead
  /-- `Update`'s write-back of the copy. -/
  | updateWrite
  /-- The controller's load calculator. -/
  | calculateLoad
  /-- Volume `v`'s `GetServerStats` call reaches the controller, which lists its records. -/
  | pollRequest (v : VolumeID)
  /-- Volume `v`'s `HandleGetServerStatsReply`: `SetServerStats` of the reply. -/
  | pollReply (v : VolumeID)
  /-- Volume `v`'s reply is lost. -/
  | pollLost (v : VolumeID)

namespace Cluster

/-- A controller of scheduler type `schedType` started at `now`, no storage server yet, and the
volumes' stats managers, no poll on its way. -/
def init (schedType : ControlPlaneSchedulerType) (now : UInt64)
    (volumes : VolumeID → DataPlane.ServerStatsManager) : Cluster :=
  ⟨ControllerAgent.init schedType now, .idle, fun _ => none, volumes, fun _ => none⟩

/-- The controller's record of server `i`. -/
def record (s : Cluster) (i : ServerID) : Option ServerStats :=
  s.ctrl.sched.statsMgr.getServerStats i

/-- Server `i` becomes `srv`. -/
def setServer (s : Cluster) (i : ServerID) (srv : StorageServer) : Cluster :=
  { s with servers := Function.update s.servers i (some srv) }

/-- The controller's scheduler becomes `sched`. -/
def setSched (s : Cluster) (sched : Scheduler) : Cluster :=
  { s with ctrl := { s.ctrl with sched } }

/-- One step of a run. -/
def step (s : Cluster) : Event → Option Cluster
  | .registerServer nSectors isRejectionsEnabled model =>
    (s.ctrl.registerServer nSectors).map fun r =>
      match r.1 with
      | .ok serverId => { s with ctrl := r.2 }.setServer serverId
          (.handleRegisterServerReply serverId isRejectionsEnabled model)
      | .error _ => { s with ctrl := r.2 }
  | .reportRead i c => (s.servers i).bind fun srv =>
    match srv.pc with
    | .idle =>
      let mon := srv.mon.updateStats c
      (s.ctrl.sched.statsMgr.restoreServerStats i mon.getServerStats false).map fun newStats =>
        s.setServer i ⟨mon, .reporting mon.getServerStats newStats⟩
    | _ => none
  | .reportStore i => (s.servers i).bind fun srv =>
    match srv.pc with
    | .reporting stats newStats =>
      (s.ctrl.sched.storeServerStats i stats newStats true).map fun sched =>
        (s.setSched sched).setServer i { srv with pc := .reported }
    | _ => none
  | .reportLost i c => (s.servers i).bind fun srv =>
    match srv.pc with
    | .idle => some (s.setServer i ⟨srv.mon.updateStats c, .committing⟩)
    | _ => none
  | .reply i => (s.servers i).bind fun srv =>
    match srv.pc with
    | .reported => (s.ctrl.getDataPlaneServerStats i).map fun r =>
        s.setServer i { srv with pc := .replied r }
    | _ => none
  | .adopt i now => (s.servers i).bind fun srv =>
    match srv.pc with
    | .replied r => some (s.setServer i
        ⟨srv.mon.setModeAndWeights now r.1 r.2.2.1 r.2.2.2, .committing⟩)
    | _ => none
  | .replyLost i => (s.servers i).bind fun srv =>
    match srv.pc with
    | .replied _ => some (s.setServer i { srv with pc := .committing })
    | _ => none
  | .commit i => (s.servers i).bind fun srv =>
    match srv.pc with
    | .committing => (s.ctrl.commitServerMode i srv.mon.mode).map fun ctrl =>
        { s with ctrl }.setServer i { srv with pc := .idle }
    | _ => none
  | .commitLost i => (s.servers i).bind fun srv =>
    match srv.pc with
    | .committing => some (s.setServer i { srv with pc := .idle })
    | _ => none
  | .flush i now reads writes => (s.servers i).bind fun srv =>
    (srv.mon.flush now reads writes).map fun mon => s.setServer i { srv with mon }
  | .diskLoad i diskReads diskWrites => (s.servers i).bind fun srv =>
    (srv.mon.calculateLoad diskReads diskWrites).map fun mon => s.setServer i { srv with mon }
  | .updateBegin profiles now garbageModes garbageRead garbageWrite =>
    match s.updater with
    | .idle => (s.ctrl.sched.compute profiles now garbageModes garbageRead garbageWrite).map
        fun c => { s.setSched { s.ctrl.sched with rw := c.2.2.2 } with
          updater := .reading c.1 c.2.1 c.2.2.1 0 }
    | _ => none
  | .updateRead =>
    match s.updater with
    | .reading rWeights wWeights modes i =>
      if i < s.ctrl.sched.numServers then
        (Scheduler.readComputed rWeights wWeights modes s.ctrl.sched.statsMgr i).map fun srvStats =>
          { s with updater := .writing rWeights wWeights modes i srvStats }
      else some { s with updater := .idle }
    | _ => none
  | .updateWrite =>
    match s.updater with
    | .writing rWeights wWeights modes i srvStats =>
      (Scheduler.writeComputed rWeights wWeights modes s.ctrl.sched.statsMgr i srvStats).map
        fun statsMgr => { s.setSched { s.ctrl.sched with statsMgr } with
          updater := .reading rWeights wWeights modes (i + 1) }
    | _ => none
  | .calculateLoad => some (s.setSched s.ctrl.sched.calculateLoad)
  | .pollRequest v =>
    match s.polls v with
    | none => s.ctrl.getServerStats.map fun l => { s with polls := Function.update s.polls v (some l) }
    | some _ => none
  | .pollReply v =>
    match s.polls v with
    | some l => ((s.volumes v).setServerStats l).map fun vol =>
        { s with volumes := Function.update s.volumes v vol,
                 polls := Function.update s.polls v none }
    | none => none
  | .pollLost v =>
    match s.polls v with
    | some _ => some { s with polls := Function.update s.polls v none }
    | none => none

/-- The events of a run, one after the other. -/
def run (s : Cluster) : List Event → Option Cluster
  | [] => some s
  | e :: es => (s.step e).bind fun s' => s'.run es

/-- The states some run reaches from a start. -/
inductive Reachable : Cluster → Prop
  | init (schedType : ControlPlaneSchedulerType) (now : UInt64)
      (volumes : VolumeID → DataPlane.ServerStatsManager) : Reachable (init schedType now volumes)
  | step {s s' : Cluster} {e : Event} : Reachable s → s.step e = some s' → Reachable s'

/-! ## Updates of one server -/

variable {s s' : Cluster} {i j : ServerID} {srv : StorageServer}

@[simp] theorem setServer_servers_self : (s.setServer i srv).servers i = some srv := by
  simp [setServer]

@[simp] theorem setServer_servers_of_ne (h : j ≠ i) : (s.setServer i srv).servers j = s.servers j := by
  simp [setServer, h]

@[simp] theorem setServer_ctrl : (s.setServer i srv).ctrl = s.ctrl := rfl

@[simp] theorem setServer_record : (s.setServer i srv).record = s.record := rfl

@[simp] theorem setServer_volumes : (s.setServer i srv).volumes = s.volumes := rfl

@[simp] theorem setServer_updater : (s.setServer i srv).updater = s.updater := rfl

@[simp] theorem setSched_servers {sched : Scheduler} : (s.setSched sched).servers = s.servers := rfl

@[simp] theorem setSched_updater {sched : Scheduler} : (s.setSched sched).updater = s.updater := rfl

@[simp] theorem setSched_record {sched : Scheduler} :
    (s.setSched sched).record = sched.statsMgr.getServerStats := rfl

@[simp] theorem record_mk {ctrl : ControllerAgent} {updater : UpdatePc}
    {servers : ServerID → Option StorageServer} {volumes : VolumeID → DataPlane.ServerStatsManager}
    {polls : VolumeID → Option ServerStatsList} :
    (Cluster.mk ctrl updater servers volumes polls).record = ctrl.sched.statsMgr.getServerStats :=
  rfl

theorem run_append {es es' : List Event} :
    s.run (es ++ es') = (s.run es).bind fun s' => s'.run es' := by
  induction es generalizing s with
  | nil => rfl
  | cons e es ih =>
    simp only [List.cons_append, run]
    cases s.step e with
    | none => rfl
    | some s₁ => exact ih

theorem Reachable.run {es : List Event} (hr : s.Reachable) (h : s.run es = some s') :
    s'.Reachable := by
  induction es generalizing s with
  | nil =>
    cases h
    exact hr
  | cons e es ih =>
    obtain ⟨s₁, h₁, h⟩ := Option.bind_eq_some_iff.mp h
    exact ih (hr.step h₁) h

/-! ## What each step does

One inversion lemma per event: the guards it passed and the state it leaves. -/

theorem step_registerServer {nSectors : ℕ} {isRejectionsEnabled : Bool} {model : DiskModel}
    (h : s.step (.registerServer nSectors isRejectionsEnabled model) = some s') :
    ∃ r ctrl, s.ctrl.registerServer nSectors = some (r, ctrl) ∧
      ((∃ serverId, r = .ok serverId ∧ s' = { s with ctrl }.setServer serverId
          (.handleRegisterServerReply serverId isRejectionsEnabled model)) ∨
        (∀ serverId, r ≠ .ok serverId) ∧ s' = { s with ctrl }) := by
  obtain ⟨⟨r, ctrl⟩, hreg, h⟩ := Option.map_eq_some_iff.mp h
  refine ⟨r, ctrl, hreg, ?_⟩
  cases r with
  | ok serverId => exact .inl ⟨serverId, rfl, h.symm⟩
  | error e => exact .inr ⟨fun _ h => (nomatch h), h.symm⟩

theorem step_reportRead {c : OpCounts} (h : s.step (.reportRead i c) = some s') :
    ∃ srv newStats, s.servers i = some srv ∧ srv.pc = .idle ∧
      s.ctrl.sched.statsMgr.restoreServerStats i (srv.mon.updateStats c).getServerStats false =
        some newStats ∧
      s' = s.setServer i
        ⟨srv.mon.updateStats c, .reporting (srv.mon.updateStats c).getServerStats newStats⟩ := by
  obtain ⟨srv, hs, h⟩ := Option.bind_eq_some_iff.mp h
  split at h
  · rename_i hpc
    obtain ⟨newStats, hn, rfl⟩ := Option.map_eq_some_iff.mp h
    exact ⟨srv, newStats, hs, hpc, hn, rfl⟩
  · cases h

theorem step_reportStore (h : s.step (.reportStore i) = some s') :
    ∃ srv stats newStats sched, s.servers i = some srv ∧ srv.pc = .reporting stats newStats ∧
      s.ctrl.sched.storeServerStats i stats newStats true = some sched ∧
      s' = (s.setSched sched).setServer i { srv with pc := .reported } := by
  obtain ⟨srv, hs, h⟩ := Option.bind_eq_some_iff.mp h
  split at h
  · rename_i stats newStats hpc
    obtain ⟨sched, hc, rfl⟩ := Option.map_eq_some_iff.mp h
    exact ⟨srv, stats, newStats, sched, hs, hpc, hc, rfl⟩
  · cases h

theorem step_reportLost {c : OpCounts} (h : s.step (.reportLost i c) = some s') :
    ∃ srv, s.servers i = some srv ∧ srv.pc = .idle ∧
      s' = s.setServer i ⟨srv.mon.updateStats c, .committing⟩ := by
  obtain ⟨srv, hs, h⟩ := Option.bind_eq_some_iff.mp h
  split at h
  · rename_i hpc
    exact ⟨srv, hs, hpc, (Option.some.inj h).symm⟩
  · cases h

theorem step_reply (h : s.step (.reply i) = some s') :
    ∃ srv r, s.servers i = some srv ∧ srv.pc = .reported ∧
      s.ctrl.getDataPlaneServerStats i = some r ∧
      s' = s.setServer i { srv with pc := .replied r } := by
  obtain ⟨srv, hs, h⟩ := Option.bind_eq_some_iff.mp h
  split at h
  · rename_i hpc
    obtain ⟨r, hr, rfl⟩ := Option.map_eq_some_iff.mp h
    exact ⟨srv, r, hs, hpc, hr, rfl⟩
  · cases h

theorem step_adopt {now : UInt64} (h : s.step (.adopt i now) = some s') :
    ∃ srv r, s.servers i = some srv ∧ srv.pc = .replied r ∧
      s' = s.setServer i ⟨srv.mon.setModeAndWeights now r.1 r.2.2.1 r.2.2.2, .committing⟩ := by
  obtain ⟨srv, hs, h⟩ := Option.bind_eq_some_iff.mp h
  split at h
  · rename_i r hpc
    exact ⟨srv, r, hs, hpc, (Option.some.inj h).symm⟩
  · cases h

theorem step_replyLost (h : s.step (.replyLost i) = some s') :
    ∃ srv r, s.servers i = some srv ∧ srv.pc = .replied r ∧
      s' = s.setServer i { srv with pc := .committing } := by
  obtain ⟨srv, hs, h⟩ := Option.bind_eq_some_iff.mp h
  split at h
  · rename_i r hpc
    exact ⟨srv, r, hs, hpc, (Option.some.inj h).symm⟩
  · cases h

theorem step_commit (h : s.step (.commit i) = some s') :
    ∃ srv ctrl, s.servers i = some srv ∧ srv.pc = .committing ∧
      s.ctrl.commitServerMode i srv.mon.mode = some ctrl ∧
      s' = { s with ctrl }.setServer i { srv with pc := .idle } := by
  obtain ⟨srv, hs, h⟩ := Option.bind_eq_some_iff.mp h
  split at h
  · rename_i hpc
    obtain ⟨ctrl, hc, rfl⟩ := Option.map_eq_some_iff.mp h
    exact ⟨srv, ctrl, hs, hpc, hc, rfl⟩
  · cases h

theorem step_commitLost (h : s.step (.commitLost i) = some s') :
    ∃ srv, s.servers i = some srv ∧ srv.pc = .committing ∧
      s' = s.setServer i { srv with pc := .idle } := by
  obtain ⟨srv, hs, h⟩ := Option.bind_eq_some_iff.mp h
  split at h
  · rename_i hpc
    exact ⟨srv, hs, hpc, (Option.some.inj h).symm⟩
  · cases h

/-- A round of the flusher changes neither the monitor's mode nor its id, nor the loop. -/
theorem step_flush {now : UInt64} {reads writes : Quantiles}
    (h : s.step (.flush i now reads writes) = some s') :
    ∃ srv mon, s.servers i = some srv ∧ mon.mode = srv.mon.mode ∧
      mon.serverId = srv.mon.serverId ∧ s' = s.setServer i { srv with mon } := by
  obtain ⟨srv, hs, h⟩ := Option.bind_eq_some_iff.mp h
  obtain ⟨mon, hm, rfl⟩ := Option.map_eq_some_iff.mp h
  obtain ⟨hmode, hid⟩ := MonitorState.flush_mode_serverId hm
  exact ⟨srv, mon, hs, hmode, hid, rfl⟩

/-- Nor does a round of the load calculator. -/
theorem step_diskLoad {diskReads diskWrites : UInt64}
    (h : s.step (.diskLoad i diskReads diskWrites) = some s') :
    ∃ srv mon, s.servers i = some srv ∧ mon.mode = srv.mon.mode ∧
      mon.serverId = srv.mon.serverId ∧ s' = s.setServer i { srv with mon } := by
  obtain ⟨srv, hs, h⟩ := Option.bind_eq_some_iff.mp h
  obtain ⟨mon, hm, rfl⟩ := Option.map_eq_some_iff.mp h
  obtain ⟨hmode, hid⟩ := MonitorState.calculateLoad_mode_serverId hm
  exact ⟨srv, mon, hs, hmode, hid, rfl⟩

theorem step_updateBegin {profiles : DiskProfiles} {now : UInt64} {garbageModes : ServerModes}
    {garbageRead garbageWrite : ServerWeights}
    (h : s.step (.updateBegin profiles now garbageModes garbageRead garbageWrite) = some s') :
    ∃ c, s.updater = .idle ∧
      s.ctrl.sched.compute profiles now garbageModes garbageRead garbageWrite = some c ∧
      s' = { s.setSched { s.ctrl.sched with rw := c.2.2.2 } with
        updater := .reading c.1 c.2.1 c.2.2.1 0 } := by
  simp only [step] at h
  split at h
  · rename_i hu
    obtain ⟨c, hc, rfl⟩ := Option.map_eq_some_iff.mp h
    exact ⟨c, hu, hc, rfl⟩
  · cases h

/-- `Update`'s loop test: past the last server the call ends, before it the copy of the next
record is taken. -/
theorem step_updateRead (h : s.step .updateRead = some s') :
    ∃ rWeights wWeights modes i, s.updater = .reading rWeights wWeights modes i ∧
      ((s.ctrl.sched.numServers ≤ i ∧ s' = { s with updater := .idle }) ∨
        ∃ srvStats, i < s.ctrl.sched.numServers ∧
          Scheduler.readComputed rWeights wWeights modes s.ctrl.sched.statsMgr i = some srvStats ∧
          s' = { s with updater := .writing rWeights wWeights modes i srvStats }) := by
  simp only [step] at h
  split at h
  · rename_i rWeights wWeights modes i hu
    refine ⟨rWeights, wWeights, modes, i, hu, ?_⟩
    split at h
    · rename_i hlt
      obtain ⟨srvStats, hr, rfl⟩ := Option.map_eq_some_iff.mp h
      exact .inr ⟨srvStats, hlt, hr, rfl⟩
    · rename_i hlt
      exact .inl ⟨Nat.le_of_not_lt hlt, (Option.some.inj h).symm⟩
  · cases h

theorem step_updateWrite (h : s.step .updateWrite = some s') :
    ∃ rWeights wWeights modes i srvStats statsMgr,
      s.updater = .writing rWeights wWeights modes i srvStats ∧
      Scheduler.writeComputed rWeights wWeights modes s.ctrl.sched.statsMgr i srvStats =
        some statsMgr ∧
      s' = { s.setSched { s.ctrl.sched with statsMgr } with
        updater := .reading rWeights wWeights modes (i + 1) } := by
  simp only [step] at h
  split at h
  · rename_i rWeights wWeights modes i srvStats hu
    obtain ⟨statsMgr, hw, rfl⟩ := Option.map_eq_some_iff.mp h
    exact ⟨rWeights, wWeights, modes, i, srvStats, statsMgr, hu, hw, rfl⟩
  · cases h

/-- The steps of a poll touch the volumes and the replies on their way only. -/
theorem step_poll {v : VolumeID} {e : Event} (he : e = .pollRequest v ∨ e = .pollReply v ∨
      e = .pollLost v) (h : s.step e = some s') :
    s'.ctrl = s.ctrl ∧ s'.updater = s.updater ∧ s'.servers = s.servers := by
  rcases he with rfl | rfl | rfl <;> simp only [step] at h <;> split at h
  · obtain ⟨l, -, rfl⟩ := Option.map_eq_some_iff.mp h
    exact ⟨rfl, rfl, rfl⟩
  · cases h
  · obtain ⟨vol, -, rfl⟩ := Option.map_eq_some_iff.mp h
    exact ⟨rfl, rfl, rfl⟩
  · cases h
  · cases h
    exact ⟨rfl, rfl, rfl⟩
  · cases h

/-! ## The steps of a server's round go through

The converse of the inversion lemmas for the server's own round: from the state each step
needs, it goes through. -/

theorem step_reportRead_of {c : OpCounts} {newStats : ServerStats} (hs : s.servers i = some srv)
    (hpc : srv.pc = .idle)
    (hn : s.ctrl.sched.statsMgr.restoreServerStats i (srv.mon.updateStats c).getServerStats false =
      some newStats) :
    s.step (.reportRead i c) = some (s.setServer i
      ⟨srv.mon.updateStats c, .reporting (srv.mon.updateStats c).getServerStats newStats⟩) := by
  simp only [step, hs, Option.bind_some, hpc, hn, Option.map_some]

theorem step_reportStore_of {stats newStats : ServerStats} {sched : Scheduler}
    (hs : s.servers i = some srv) (hpc : srv.pc = .reporting stats newStats)
    (hc : s.ctrl.sched.storeServerStats i stats newStats true = some sched) :
    s.step (.reportStore i) = some ((s.setSched sched).setServer i { srv with pc := .reported }) := by
  simp only [step, hs, Option.bind_some, hpc, hc, Option.map_some]

theorem step_reply_of {r : DataPlaneServerStats} (hs : s.servers i = some srv)
    (hpc : srv.pc = .reported) (hr : s.ctrl.getDataPlaneServerStats i = some r) :
    s.step (.reply i) = some (s.setServer i { srv with pc := .replied r }) := by
  simp only [step, hs, Option.bind_some, hpc, hr, Option.map_some]

theorem step_adopt_of {r : DataPlaneServerStats} {now : UInt64} (hs : s.servers i = some srv)
    (hpc : srv.pc = .replied r) :
    s.step (.adopt i now) = some (s.setServer i
      ⟨srv.mon.setModeAndWeights now r.1 r.2.2.1 r.2.2.2, .committing⟩) := by
  simp only [step, hs, Option.bind_some, hpc]

theorem step_commit_of {ctrl : ControllerAgent} (hs : s.servers i = some srv)
    (hpc : srv.pc = .committing) (hc : s.ctrl.commitServerMode i srv.mon.mode = some ctrl) :
    s.step (.commit i) = some ({ s with ctrl }.setServer i { srv with pc := .idle }) := by
  simp only [step, hs, Option.bind_some, hpc, hc, Option.map_some]

/-! ## `Update` alone

With no step between them, the updater's steps of one `Update` are `Scheduler.update`. -/

/-- The updater's steps of one `Update` over `n` servers: the first part, a read and a
write-back per server, and the loop test that ends the call. -/
def updateSteps (profiles : DiskProfiles) (now : UInt64) (garbageModes : ServerModes)
    (garbageRead garbageWrite : ServerWeights) (n : ℕ) : List Event :=
  .updateBegin profiles now garbageModes garbageRead garbageWrite ::
    ((List.replicate n [.updateRead, .updateWrite]).flatten ++ [.updateRead])

/-- `k` iterations of the loop from index `i`, alone, are the fold of `storeComputed` over
`i, …, i + k - 1`. -/
theorem run_loop {rWeights wWeights : Status ServerWeights} {modes : Status ServerModes} :
    ∀ (k i : ℕ) (s : Cluster), s.updater = .reading rWeights wWeights modes i →
      i + k ≤ s.ctrl.sched.numServers →
      s.run (List.replicate k [.updateRead, .updateWrite]).flatten =
        ((List.range' i k).foldlM (Scheduler.storeComputed rWeights wWeights modes)
          s.ctrl.sched.statsMgr).map fun statsMgr =>
            { s.setSched { s.ctrl.sched with statsMgr } with
              updater := .reading rWeights wWeights modes (i + k) }
  | 0, i, s, hu, _ => by
    cases s
    cases hu
    rfl
  | k + 1, i, s, hu, hk => by
    have hlt : i < s.ctrl.sched.numServers := by omega
    rw [List.replicate_succ, List.flatten_cons, List.range'_succ, List.foldlM_cons,
      Scheduler.storeComputed_eq]
    simp only [List.cons_append, List.nil_append, run, step, hu, if_pos hlt]
    cases hr : Scheduler.readComputed rWeights wWeights modes s.ctrl.sched.statsMgr i with
    | none => rfl
    | some srvStats =>
      simp only [Option.map_some, Option.bind_some]
      cases hw : Scheduler.writeComputed rWeights wWeights modes s.ctrl.sched.statsMgr i srvStats with
      | none => rfl
      | some statsMgr =>
        simp only [Option.map_some, Option.bind_some]
        rw [run_loop k (i + 1) _ rfl (by simpa [setSched] using (show i + 1 + k ≤ _ by omega))]
        simp only [setSched, Nat.add_right_comm i 1 k, Nat.add_assoc]
        rfl

/-- **`Update` alone is `Scheduler.update`.** From an idle updater, its steps of one `Update`
with nothing between them reach exactly the state the sequential `Update` gives, and fail
exactly when it does. -/
theorem run_updateSteps {profiles : DiskProfiles} {now : UInt64} {garbageModes : ServerModes}
    {garbageRead garbageWrite : ServerWeights} (hu : s.updater = .idle) :
    s.run (updateSteps profiles now garbageModes garbageRead garbageWrite
        s.ctrl.sched.numServers) =
      (s.ctrl.sched.update profiles now garbageModes garbageRead garbageWrite).map fun sched =>
        s.setSched sched := by
  rw [Scheduler.update_eq, updateSteps]
  simp only [run, step, hu]
  cases hc : s.ctrl.sched.compute profiles now garbageModes garbageRead garbageWrite with
  | none => rfl
  | some c =>
    simp only [Option.map_some, Option.bind_some]
    rw [run_append, run_loop _ 0 _ rfl (by simp [setSched]), List.range_eq_range']
    cases hf : (List.range' 0 s.ctrl.sched.numServers).foldlM
        (Scheduler.storeComputed c.1 c.2.1 c.2.2.1) s.ctrl.sched.statsMgr with
    | none => simp [setSched, hf]
    | some statsMgr =>
      simp [setSched, hf, run, step, hu]

end Cluster

end Sandook.System
