import Sandook.System.Cluster

/-!
# The mode handshake

`ControllerStatsUpdater` (`storage_server.cc:55-81`) is the only way a server's mode reaches the
controller's `committed_mode`, and `committed_mode` is the mode the volumes route by
(`SetServerStats` stores it, `GetWriteWeights` skips the servers in `kRead`). The report that
opens each round sets the stored `committed_mode` back to `kMix` (the server's `GetServerStats`
leaves it out), the reply moves the server to the controller's mode, and the commit stores the
mode the server is then in.

`Update` writes back a whole copy of each record (`scheduler.h:197-214`), `committed_mode`
included. A report stored or a mode committed between its copy and its write-back is undone:
the write-back restores the committed mode of the copy.

* `Inv` (per id, `InvAt`): the records, the servers, the reports the controller holds and the
  copy `Update` holds carry their ids; every step keeps it (`Inv.step`).
* `Committed` (per id, `CommittedAt`): the committed mode is `kMix` or the mode its server is in,
  and `Update`'s copy carries the stored committed mode; every step keeps it but a report store
  or a commit that overlaps `Update`'s copy of the same record (`Event.Overlaps`).

Results:
* `reachableApart_committedMode`: in every state reached by a run in which no report store or
  commit overlaps `Update`'s copy of its record, a committed mode other than `kMix` is the mode
  its server is in, and a server between its report and the reply's adoption has `kMix`.
* `update_overlap_committedMode`: without that condition the property fails: a report stored
  while `Update` holds the server's copy is overwritten, and the controller records committed
  mode `kRead` for a server that awaits its reply.
-/

namespace Sandook.System

open Sandook.ControlPlane Sandook.Controller Sandook.DiskServer

/-- `Update` holds a copy of the record at `j`: it has read it and not written it back. -/
def UpdatePc.Holds : UpdatePc → ServerID → Prop
  | .writing _ _ _ k _, j => k + kInvalidServerID + 1 = j
  | _, _ => False

/-- A store into the record at `j` while `Update` holds a copy of it: a report's store or a
commit. -/
def Event.Overlaps (e : Event) (s : Cluster) : Prop :=
  match e with
  | .reportStore j | .commit j => s.updater.Holds j
  | _ => False

namespace Cluster

variable {s s' : Cluster} {i j : ServerID} {srv srv' : StorageServer}

/-! ## The invariant of every run -/

/-- The invariant at id `j`. -/
structure InvAt (s : Cluster) (j : ServerID) : Prop where
  /-- The record under `j` is server `j`'s, and `j` was handed out. -/
  recordId : ∀ st, s.record j = some st → st.serverId = j ∧ j < s.ctrl.nextServerId
  /-- A server at `j` carries the id the controller handed out and registered, and has a
  record. -/
  server : ∀ srv, s.servers j = some srv → srv.mon.serverId = j ∧ j < s.ctrl.nextServerId ∧
    j ∈ s.ctrl.sched.statsMgr.servers ∧ (s.record j).isSome
  /-- The record the controller holds for a report of the server at `j` has id `j` and
  committed mode `kMix`. -/
  reporting : ∀ srv stats newStats, s.servers j = some srv → srv.pc = .reporting stats newStats →
    newStats.serverId = j ∧ newStats.committedMode = .kMix
  /-- A copy `Update` holds of the record at `j` has id `j`, which was handed out. -/
  copy : ∀ rWeights wWeights modes k st,
    s.updater = .writing rWeights wWeights modes k st → k + kInvalidServerID + 1 = j →
      st.serverId = j ∧ j < s.ctrl.nextServerId

/-- The invariant of every run. -/
def Inv (s : Cluster) : Prop := ∀ j, s.InvAt j

/-- The invariant at `j` reads the record at `j` through its id only, the server at `j`, the
updater, and the ids handed out and registered, which only grow. -/
theorem InvAt.frame (h : s.InvAt j)
    (hr : (s'.record j).map (·.serverId) = (s.record j).map (·.serverId))
    (hs : s'.servers j = s.servers j) (hu : s'.updater = s.updater)
    (hn : s.ctrl.nextServerId ≤ s'.ctrl.nextServerId)
    (hm : ∀ k ∈ s.ctrl.sched.statsMgr.servers, k ∈ s'.ctrl.sched.statsMgr.servers) :
    s'.InvAt j := by
  refine ⟨fun st' h' => ?_, fun srv h' => ?_, fun srv stats newStats h' => ?_,
    fun rW wW modes k st hw hk => ?_⟩
  · rw [h', Option.map_some] at hr
    obtain ⟨st, hst, he⟩ := Option.map_eq_some_iff.mp hr.symm
    obtain ⟨hid, hlt⟩ := h.recordId st hst
    exact ⟨he.symm.trans hid, lt_of_lt_of_le hlt hn⟩
  · rw [hs] at h'
    obtain ⟨hid, hlt, hmem, hrec⟩ := h.server srv h'
    have hsome := congrArg Option.isSome hr
    simp only [Option.isSome_map] at hsome
    exact ⟨hid, lt_of_lt_of_le hlt hn, hm j hmem, hsome ▸ hrec⟩
  · rw [hs] at h'
    exact h.reporting srv stats newStats h'
  · rw [hu] at hw
    obtain ⟨hid, hlt⟩ := h.copy rW wW modes k st hw hk
    exact ⟨hid, lt_of_lt_of_le hlt hn⟩

/-- A step that changes no record, no server and no registered id, and after which `Update`
holds no copy. -/
theorem InvAt.noCopy (h : s.InvAt j) (hr : s'.record j = s.record j)
    (hs : s'.servers j = s.servers j) (hn : s'.ctrl.nextServerId = s.ctrl.nextServerId)
    (hm : s'.ctrl.sched.statsMgr.servers = s.ctrl.sched.statsMgr.servers)
    (hu : ∀ rW wW modes k st, s'.updater ≠ .writing rW wW modes k st) : s'.InvAt j := by
  refine ⟨fun st h' => ?_, fun srv h' => ?_, fun srv stats newStats h' => ?_,
    fun rW wW modes k st hw _ => absurd hw (hu rW wW modes k st)⟩
  · rw [hr] at h'
    rw [hn]
    exact h.recordId st h'
  · rw [hs] at h'
    rw [hr, hn, hm]
    exact h.server srv h'
  · rw [hs] at h'
    exact h.reporting srv stats newStats h'

theorem record_init {schedType : ControlPlaneSchedulerType} {now : UInt64}
    {volumes : VolumeID → DataPlane.ServerStatsManager} :
    (init schedType now volumes).record j = none := by
  simp only [init, record, ControllerAgent.init, Scheduler.init, ServerStatsManager.init,
    ServerStatsManager.getServerStats, arrayAt?]
  split <;> rfl

theorem inv_init (schedType : ControlPlaneSchedulerType) (now : UInt64)
    (volumes : VolumeID → DataPlane.ServerStatsManager) : (init schedType now volumes).Inv := by
  intro j
  have hr : (init schedType now volumes).record j = none := record_init
  refine ⟨fun st h => ?_, fun srv h => ?_, fun srv _ _ h => ?_, fun _ _ _ _ _ h => ?_⟩
  · rw [hr] at h
    cases h
  · simp [init] at h
  · simp [init] at h
  · cases h

/-! ## The steps -/

/-- **A step of one server's own** keeps the invariant when it keeps the server's id and a report
it holds carries a record of that id and committed mode `kMix`. -/
theorem Inv.setServer (hi : s.Inv) (hs : s.servers i = some srv)
    (hid : srv'.mon.serverId = srv.mon.serverId)
    (hrep : ∀ stats newStats, srv'.pc = .reporting stats newStats →
      newStats.serverId = i ∧ newStats.committedMode = .kMix) :
    (s.setServer i srv').Inv := by
  intro j
  by_cases hj : j = i
  · subst hj
    have h := hi j
    refine ⟨h.recordId, fun srv₁ h₁ => ?_, fun srv₁ stats newStats h₁ hpc => ?_, h.copy⟩
    · simp only [setServer_servers_self, Option.some.injEq] at h₁
      subst h₁
      obtain ⟨hid₀, hrest⟩ := h.server srv hs
      exact ⟨hid.trans hid₀, hrest⟩
    · simp only [setServer_servers_self, Option.some.injEq] at h₁
      subst h₁
      exact hrep stats newStats hpc
  · exact (hi j).frame rfl (setServer_servers_of_ne hj) rfl le_rfl fun _ h => h

/-- A step that stores into the records through the scheduler: the record at every other id,
the servers and the ids handed out and registered stay. -/
theorem Inv.store (hi : s.Inv) (hn : s'.ctrl.nextServerId = s.ctrl.nextServerId)
    (hm : s'.ctrl.sched.statsMgr.servers = s.ctrl.sched.statsMgr.servers)
    (hu : s'.updater = s.updater)
    (hother : ∀ j, j ≠ i → s'.record j = s.record j ∧ s'.servers j = s.servers j)
    (hself : s'.InvAt i) : s'.Inv := by
  intro j
  by_cases hj : j = i
  · exact hj ▸ hself
  · exact (hi j).frame (by rw [(hother j hj).1]) (hother j hj).2 hu hn.ge
      (by rw [hm]; exact fun _ h => h)

/-- The report's store puts the record the controller held, of the server's id, under it. -/
theorem Inv.reportStore (hi : s.Inv) (h : s.step (.reportStore i) = some s') : s'.Inv := by
  obtain ⟨srv, stats, newStats, sched, hs, hpc, hc, rfl⟩ := step_reportStore h
  obtain ⟨hmem, statsMgr, hstore, rfl⟩ := Scheduler.storeServerStats_eq hc
  have hservers := ServerStatsManager.servers_storeServerStats hstore
  have hself := ServerStatsManager.getServerStats_storeServerStats_self hstore
  obtain ⟨hid, hcm⟩ := (hi i).reporting srv stats newStats hs hpc
  obtain ⟨-, hlt, -, -⟩ := (hi i).server srv hs
  refine hi.store (i := i) rfl hservers rfl (fun j hj => ⟨?_, setServer_servers_of_ne hj⟩) ?_
  · exact ServerStatsManager.getServerStats_storeServerStats_other hj hstore
  refine ⟨fun st hst => ?_, fun srv₁ h₁ => ?_, fun srv₁ _ _ h₁ hpc₁ => ?_, (hi i).copy⟩
  · simp only [setServer_record, setSched_record, hself, Option.some.injEq] at hst
    exact ⟨hst ▸ hid, hlt⟩
  · simp only [setServer_servers_self, Option.some.injEq] at h₁
    subst h₁
    obtain ⟨hid₀, -, -⟩ := (hi i).server srv hs
    simp only [setServer_ctrl, setSched, setServer_record, hservers]
    exact ⟨hid₀, hlt, hmem, by simp [record, hself]⟩
  · simp only [setServer_servers_self, Option.some.injEq] at h₁
    subst h₁
    cases hpc₁

/-- The commit writes the committed mode only. -/
theorem Inv.commit (hi : s.Inv) (h : s.step (.commit i) = some s') : s'.Inv := by
  obtain ⟨srv, ctrl, hs, hpc, hc, rfl⟩ := step_commit h
  obtain ⟨hnext, hm⟩ := ControllerAgent.commitServerMode_eq hc
  have hservers := ServerStatsManager.servers_commitServerMode hm
  obtain ⟨hid, hlt, hmem, hsome⟩ := (hi i).server srv hs
  obtain ⟨old, hold⟩ := Option.isSome_iff_exists.mp hsome
  have hself := ServerStatsManager.getServerStats_commitServerMode_self hold hm
  refine hi.store (i := i) hnext hservers rfl (fun j hj => ⟨?_, setServer_servers_of_ne hj⟩) ?_
  · exact ServerStatsManager.getServerStats_commitServerMode_other hj hm
  refine ⟨fun st hst => ?_, fun srv₁ h₁ => ?_, fun srv₁ _ _ h₁ hpc₁ => ?_, fun _ _ _ _ _ hw hk => ?_⟩
  · simp only [setServer_record, record_mk, hself, Option.some.injEq] at hst
    subst hst
    simp only [setServer_ctrl, hnext]
    exact (hi i).recordId old hold
  · simp only [setServer_servers_self, Option.some.injEq] at h₁
    subst h₁
    simp only [setServer_ctrl, setServer_record, record_mk, hself, hnext, hservers]
    exact ⟨hid, hlt, hmem, rfl⟩
  · simp only [setServer_servers_self, Option.some.injEq] at h₁
    subst h₁
    cases hpc₁
  · simp only [setServer_ctrl, hnext]
    exact (hi i).copy _ _ _ _ _ hw hk

/-- A registration stores a default record under the next id, and a server there if it succeeded;
no server, report or copy had that id yet. -/
theorem Inv.registerServer {nSectors : ℕ} {isRejectionsEnabled : Bool} {model : DiskModel}
    (hi : s.Inv) (h : s.step (.registerServer nSectors isRejectionsEnabled model) = some s') :
    s'.Inv := by
  obtain ⟨r, ctrl, hreg, hs'⟩ := step_registerServer h
  obtain ⟨hnext, hok, hadd⟩ := ControllerAgent.registerServer_statsMgr hreg
  obtain ⟨hlt, hservers, ⟨st₀, hst₀, hid₀, -, -⟩, hother⟩ := ServerStatsManager.addServer_eq hadd
  have hmono : ∀ k ∈ s.ctrl.sched.statsMgr.servers, k ∈ ctrl.sched.statsMgr.servers := by
    intro k hk
    rw [hservers]
    exact List.mem_insert_of_mem hk
  have hctrl : s'.ctrl = ctrl := by rcases hs' with ⟨_, _, rfl⟩ | ⟨-, rfl⟩ <;> rfl
  have hrec : s'.record = ctrl.sched.statsMgr.getServerStats := by
    rcases hs' with ⟨_, _, rfl⟩ | ⟨-, rfl⟩ <;> rfl
  have hupd : s'.updater = s.updater := by rcases hs' with ⟨_, _, rfl⟩ | ⟨-, rfl⟩ <;> rfl
  -- the server at the new id, if the registration made one, is fresh from its constructor
  have hnew : ∀ srv, s'.servers s.ctrl.nextServerId = some srv →
      srv.mon.serverId = s.ctrl.nextServerId ∧ srv.pc = .idle := by
    intro srv h₁
    rcases hs' with ⟨serverId, rfl, rfl⟩ | ⟨-, rfl⟩
    · obtain rfl := hok serverId rfl
      simp only [setServer_servers_self, Option.some.injEq] at h₁
      subst h₁
      exact ⟨rfl, rfl⟩
    · obtain ⟨-, hlt', -⟩ := (hi _).server srv h₁
      exact absurd hlt' (lt_irrefl _)
  intro j
  by_cases hj : j = s.ctrl.nextServerId
  · subst hj
    refine ⟨fun st hst => ?_, fun srv h₁ => ?_, fun srv _ _ h₁ hpc => ?_,
      fun _ _ _ _ _ hw hk => ?_⟩
    · rw [hrec, hst₀, Option.some.injEq] at hst
      exact ⟨hst ▸ hid₀, by rw [hctrl, hnext]; exact Nat.lt_succ_self _⟩
    · rw [hctrl, hrec, hst₀, hnext, hservers]
      exact ⟨(hnew srv h₁).1, Nat.lt_succ_self _, List.mem_insert_self, rfl⟩
    · rw [(hnew srv h₁).2] at hpc
      cases hpc
    · rw [hupd] at hw
      exact absurd ((hi _).copy _ _ _ _ _ hw hk).2 (lt_irrefl _)
  · have hsj : s'.servers j = s.servers j := by
      rcases hs' with ⟨serverId, rfl, rfl⟩ | ⟨-, rfl⟩
      · obtain rfl := hok serverId rfl
        exact setServer_servers_of_ne hj
      · rfl
    exact (hi j).frame (by rw [hrec, hother j hj]; rfl) hsj hupd
      (by rw [hctrl, hnext]; exact Nat.le_succ _) (by rw [hctrl]; exact hmono)

/-- `Update`'s copy of a record keeps its id. -/
theorem Inv.updateRead (hi : s.Inv) (h : s.step .updateRead = some s') : s'.Inv := by
  obtain ⟨rW, wW, modes, k, -, ⟨-, rfl⟩ | ⟨st, -, hr, rfl⟩⟩ := step_updateRead h
  · exact fun j => (hi j).noCopy rfl rfl rfl rfl fun _ _ _ _ _ hw => by cases hw
  · obtain ⟨old, hold, hid, -⟩ := Scheduler.readComputed_ident hr
    intro j
    refine ⟨(hi j).recordId, (hi j).server, (hi j).reporting, fun _ _ _ k' st' hw hk => ?_⟩
    cases hw
    subst hk
    obtain ⟨hid₀, hlt⟩ := (hi _).recordId old hold
    exact ⟨hid.trans hid₀, hlt⟩

/-- A record after `Update`'s write-back is the one stored before, or the copy under the copy's
index. -/
theorem record_writeComputed {rWeights wWeights : Status ServerWeights}
    {modes : Status ServerModes} {k : ℕ} {st st' : ServerStats} {statsMgr : ServerStatsManager}
    (hw : Scheduler.writeComputed rWeights wWeights modes s.ctrl.sched.statsMgr k st =
      some statsMgr)
    (hst : statsMgr.getServerStats j = some st') :
    s.record j = some st' ∨ (j = k + kInvalidServerID + 1 ∧ st' = st) := by
  rcases Scheduler.writeComputed_cases hw with rfl | hupd
  · exact .inl hst
  · by_cases hj : j = k + kInvalidServerID + 1
    · subst hj
      rw [ServerStatsManager.getServerStats_updateServerStats_override hupd,
        Option.some.injEq] at hst
      exact .inr ⟨rfl, hst.symm⟩
    · rw [ServerStatsManager.getServerStats_updateServerStats_other hj hupd] at hst
      exact .inl hst

/-- `Update`'s write-back stores its copy, of the right id, under that id. -/
theorem Inv.updateWrite (hi : s.Inv) (h : s.step .updateWrite = some s') : s'.Inv := by
  obtain ⟨rW, wW, modes, k, st, statsMgr, hu, hw, rfl⟩ := step_updateWrite h
  obtain ⟨hid, hlt⟩ := (hi _).copy rW wW modes k st hu rfl
  -- the records and the registered ids after the write-back
  have hsome : ∀ j, (s.record j).isSome → (statsMgr.getServerStats j).isSome := by
    intro j hj
    rcases Scheduler.writeComputed_cases hw with rfl | hupd
    · exact hj
    · by_cases hj' : j = k + kInvalidServerID + 1
      · subst hj'
        rw [ServerStatsManager.getServerStats_updateServerStats_override hupd]
        rfl
      · rwa [ServerStatsManager.getServerStats_updateServerStats_other hj' hupd]
  have hservers : statsMgr.servers = s.ctrl.sched.statsMgr.servers := by
    rcases Scheduler.writeComputed_cases hw with rfl | hupd
    · rfl
    · exact ServerStatsManager.servers_updateServerStats hupd
  intro j
  refine ⟨fun st' hst => ?_, fun srv h₁ => ?_, (hi j).reporting, fun _ _ _ _ _ hw' => by cases hw'⟩
  · rcases record_writeComputed hw hst with hold | ⟨rfl, rfl⟩
    · exact (hi j).recordId st' hold
    · exact ⟨hid, hlt⟩
  · obtain ⟨hid₀, hlt₀, hmem, hr⟩ := (hi j).server srv h₁
    exact ⟨hid₀, hlt₀, hservers ▸ hmem, hsome j hr⟩

/-- **Every step keeps the invariant.** -/
theorem Inv.step (hi : s.Inv) {e : Event} (h : s.step e = some s') : s'.Inv := by
  cases e with
  | registerServer nSectors isRejectionsEnabled model => exact hi.registerServer h
  | reportRead i c =>
    obtain ⟨srv, newStats, hs, -, hn, rfl⟩ := step_reportRead h
    -- the record to store is the report with the stored mode and weights
    obtain ⟨old, hold⟩ := Option.isSome_iff_exists.mp ((hi i).server srv hs).2.2.2
    rw [ServerStatsManager.restoreServerStats_false hold, Option.some.injEq] at hn
    subst hn
    refine hi.setServer hs rfl fun stats newStats hpc => ?_
    cases hpc
    exact ⟨((hi i).server srv hs).1, rfl⟩
  | reportStore i => exact hi.reportStore h
  | reportLost i c =>
    obtain ⟨srv, hs, -, rfl⟩ := step_reportLost h
    exact hi.setServer hs rfl fun _ _ hpc => by cases hpc
  | reply i =>
    obtain ⟨srv, r, hs, -, -, rfl⟩ := step_reply h
    exact hi.setServer hs rfl fun _ _ hpc => by cases hpc
  | adopt i now =>
    obtain ⟨srv, r, hs, -, rfl⟩ := step_adopt h
    exact hi.setServer hs rfl fun _ _ hpc => by cases hpc
  | replyLost i =>
    obtain ⟨srv, r, hs, -, rfl⟩ := step_replyLost h
    exact hi.setServer hs rfl fun _ _ hpc => by cases hpc
  | commit i => exact hi.commit h
  | commitLost i =>
    obtain ⟨srv, hs, -, rfl⟩ := step_commitLost h
    exact hi.setServer hs rfl fun _ _ hpc => by cases hpc
  | flush i now reads writes =>
    obtain ⟨srv, mon, hs, -, hid, rfl⟩ := step_flush h
    refine hi.setServer hs hid fun stats newStats hpc => (hi i).reporting srv stats newStats hs hpc
  | diskLoad i diskReads diskWrites =>
    obtain ⟨srv, mon, hs, -, hid, rfl⟩ := step_diskLoad h
    refine hi.setServer hs hid fun stats newStats hpc => (hi i).reporting srv stats newStats hs hpc
  | updateBegin profiles now garbageModes garbageRead garbageWrite =>
    obtain ⟨c, -, -, rfl⟩ := step_updateBegin h
    exact fun j => (hi j).noCopy rfl rfl rfl rfl fun _ _ _ _ _ hw => by cases hw
  | updateRead => exact hi.updateRead h
  | updateWrite => exact hi.updateWrite h
  | calculateLoad =>
    cases h
    exact fun j => (hi j).frame rfl rfl rfl le_rfl fun _ h => h
  | pollRequest v =>
    obtain ⟨hc, hu, hs⟩ := step_poll (.inl rfl) h
    exact fun j => (hi j).frame (by simp only [record, hc]) (by rw [hs]) hu (by rw [hc])
      (by rw [hc]; exact fun _ h => h)
  | pollReply v =>
    obtain ⟨hc, hu, hs⟩ := step_poll (.inr (.inl rfl)) h
    exact fun j => (hi j).frame (by simp only [record, hc]) (by rw [hs]) hu (by rw [hc])
      (by rw [hc]; exact fun _ h => h)
  | pollLost v =>
    obtain ⟨hc, hu, hs⟩ := step_poll (.inr (.inr rfl)) h
    exact fun j => (hi j).frame (by simp only [record, hc]) (by rw [hs]) hu (by rw [hc])
      (by rw [hc]; exact fun _ h => h)

theorem Reachable.inv (hr : s.Reachable) : s.Inv := by
  induction hr with
  | init schedType now volumes => exact inv_init schedType now volumes
  | step _ hstep ih => exact ih.step hstep

/-! ## The committed mode, in runs apart from `Update`'s copies -/

/-- The committed mode at `j`, and `Update`'s copy of the record at `j`. -/
structure CommittedAt (s : Cluster) (j : ServerID) : Prop where
  /-- The committed mode is `kMix`, or the mode of the server at `j`, which is not between its
  report and the reply's adoption. -/
  committed : ∀ st, s.record j = some st → st.committedMode = .kMix ∨
    ∃ srv, s.servers j = some srv ∧ ¬ srv.pc.AwaitsReply ∧ st.committedMode = srv.mon.mode
  /-- A copy `Update` holds of the record at `j` carries the stored committed mode. -/
  copy : ∀ rWeights wWeights modes k st,
    s.updater = .writing rWeights wWeights modes k st → k + kInvalidServerID + 1 = j →
      (s.record j).map (·.committedMode) = some st.committedMode

/-- The committed modes of every id. -/
def Committed (s : Cluster) : Prop := ∀ j, s.CommittedAt j

/-- The states reached by runs in which no report store or commit overlaps `Update`'s copy of
the record it stores into. -/
inductive ReachableApart : Cluster → Prop
  | init (schedType : ControlPlaneSchedulerType) (now : UInt64)
      (volumes : VolumeID → DataPlane.ServerStatsManager) :
      ReachableApart (init schedType now volumes)
  | step {s s' : Cluster} {e : Event} : ReachableApart s → ¬ e.Overlaps s → s.step e = some s' →
      ReachableApart s'

theorem CommittedAt.frame (h : s.CommittedAt j) (hr : s'.record j = s.record j)
    (hs : s'.servers j = s.servers j) (hu : s'.updater = s.updater) : s'.CommittedAt j := by
  refine ⟨fun st hst => ?_, fun rW wW modes k st hw hk => ?_⟩
  · rw [hr] at hst
    rw [hs]
    exact h.committed st hst
  · rw [hu] at hw
    rw [hr]
    exact h.copy rW wW modes k st hw hk

/-- A step after which `Update` holds no copy, and that changes no record and no server. -/
theorem CommittedAt.noCopy (h : s.CommittedAt j) (hr : s'.record j = s.record j)
    (hs : s'.servers j = s.servers j)
    (hu : ∀ rW wW modes k st, s'.updater ≠ .writing rW wW modes k st) : s'.CommittedAt j := by
  refine ⟨fun st hst => ?_, fun rW wW modes k st hw _ => absurd hw (hu rW wW modes k st)⟩
  rw [hr] at hst
  rw [hs]
  exact h.committed st hst

theorem committed_init (schedType : ControlPlaneSchedulerType) (now : UInt64)
    (volumes : VolumeID → DataPlane.ServerStatsManager) :
    (init schedType now volumes).Committed := by
  intro j
  refine ⟨fun st h => ?_, fun _ _ _ _ _ h => ?_⟩
  · rw [record_init] at h
    cases h
  · cases h

/-- **A step of one server's own** keeps the committed modes when it keeps the server's mode and
enters the window between report and adoption only from inside it, or when it starts inside. -/
theorem Committed.setServer (hc : s.Committed) (hs : s.servers i = some srv)
    (hk : srv.pc.AwaitsReply ∨
      srv'.mon.mode = srv.mon.mode ∧ (srv'.pc.AwaitsReply → srv.pc.AwaitsReply)) :
    (s.setServer i srv').Committed := by
  intro j
  by_cases hj : j = i
  · subst hj
    refine ⟨fun st hst => ?_, (hc j).copy⟩
    rcases (hc j).committed st hst with hm | ⟨srv₀, hs₀, hna, he⟩
    · exact .inl hm
    · rw [hs, Option.some.injEq] at hs₀
      subst hs₀
      rcases hk with ha | ⟨hmode, haw⟩
      · exact absurd ha hna
      · exact .inr ⟨srv', setServer_servers_self, fun ha => hna (haw ha), he.trans hmode.symm⟩
  · exact (hc j).frame rfl (setServer_servers_of_ne hj) rfl

/-- A store into the record at `i` by the server's own report or commit while `Update` holds no
copy of it: every other record and server stays. -/
theorem Committed.store (hc : s.Committed) (hu : s'.updater = s.updater)
    (hapart : ¬ s.updater.Holds i)
    (hother : ∀ j, j ≠ i → s'.record j = s.record j ∧ s'.servers j = s.servers j)
    (hself : ∀ st, s'.record i = some st → st.committedMode = .kMix ∨
      ∃ srv, s'.servers i = some srv ∧ ¬ srv.pc.AwaitsReply ∧ st.committedMode = srv.mon.mode) :
    s'.Committed := by
  intro j
  by_cases hj : j = i
  · subst hj
    refine ⟨hself, fun rW wW modes k st hw hk => ?_⟩
    rw [hu] at hw
    exact absurd (hw ▸ hk : s.updater.Holds j) hapart
  · exact (hc j).frame (hother j hj).1 (hother j hj).2 hu

/-- The report's store, apart from `Update`'s copy, stores committed mode `kMix`. -/
theorem Committed.reportStore (hi : s.Inv) (hc : s.Committed) (ho : ¬ s.updater.Holds i)
    (h : s.step (.reportStore i) = some s') : s'.Committed := by
  obtain ⟨srv, stats, newStats, sched, hs, hpc, hsc, rfl⟩ := step_reportStore h
  obtain ⟨-, statsMgr, hstore, rfl⟩ := Scheduler.storeServerStats_eq hsc
  have hself := ServerStatsManager.getServerStats_storeServerStats_self hstore
  obtain ⟨-, hcm⟩ := (hi i).reporting srv stats newStats hs hpc
  refine hc.store rfl ho (fun j hj => ⟨?_, setServer_servers_of_ne hj⟩) fun st hst => ?_
  · exact ServerStatsManager.getServerStats_storeServerStats_other hj hstore
  · simp only [setServer_record, setSched_record, hself, Option.some.injEq] at hst
    exact .inl (hst ▸ hcm)

/-- The commit, apart from `Update`'s copy, stores the mode the server is in, and the server no
longer awaits a reply. -/
theorem Committed.commit (hi : s.Inv) (hc : s.Committed) (ho : ¬ s.updater.Holds i)
    (h : s.step (.commit i) = some s') : s'.Committed := by
  obtain ⟨srv, ctrl, hs, -, hcm, rfl⟩ := step_commit h
  obtain ⟨-, hm⟩ := ControllerAgent.commitServerMode_eq hcm
  obtain ⟨old, hold⟩ := Option.isSome_iff_exists.mp ((hi i).server srv hs).2.2.2
  have hself := ServerStatsManager.getServerStats_commitServerMode_self hold hm
  refine hc.store rfl ho (fun j hj => ⟨?_, setServer_servers_of_ne hj⟩) fun st hst => ?_
  · exact ServerStatsManager.getServerStats_commitServerMode_other hj hm
  · simp only [setServer_record, record_mk, hself, Option.some.injEq] at hst
    subst hst
    exact .inr ⟨_, setServer_servers_self, fun ha => absurd ha id, rfl⟩

/-- A registration stores committed mode `kMix` under an id of which `Update` holds no copy. -/
theorem Committed.registerServer {nSectors : ℕ} {isRejectionsEnabled : Bool} {model : DiskModel}
    (hi : s.Inv) (hc : s.Committed)
    (h : s.step (.registerServer nSectors isRejectionsEnabled model) = some s') :
    s'.Committed := by
  obtain ⟨r, ctrl, hreg, hs'⟩ := step_registerServer h
  obtain ⟨-, hok, hadd⟩ := ControllerAgent.registerServer_statsMgr hreg
  obtain ⟨-, -, ⟨st₀, hst₀, -, -, hcm₀⟩, hother⟩ := ServerStatsManager.addServer_eq hadd
  have hrec : s'.record = ctrl.sched.statsMgr.getServerStats := by
    rcases hs' with ⟨_, _, rfl⟩ | ⟨-, rfl⟩ <;> rfl
  have hupd : s'.updater = s.updater := by rcases hs' with ⟨_, _, rfl⟩ | ⟨-, rfl⟩ <;> rfl
  intro j
  by_cases hj : j = s.ctrl.nextServerId
  · subst hj
    refine ⟨fun st hst => ?_, fun rW wW modes k st hw hk => ?_⟩
    · rw [hrec, hst₀, Option.some.injEq] at hst
      exact .inl (hst ▸ hcm₀)
    · rw [hupd] at hw
      exact absurd ((hi _).copy _ _ _ _ _ hw hk).2 (lt_irrefl _)
  · have hsj : s'.servers j = s.servers j := by
      rcases hs' with ⟨serverId, rfl, rfl⟩ | ⟨-, rfl⟩
      · obtain rfl := hok serverId rfl
        exact setServer_servers_of_ne hj
      · rfl
    exact (hc j).frame (by rw [hrec, hother j hj]; rfl) hsj hupd

/-- `Update`'s write-back stores a copy whose committed mode is the stored one. -/
theorem Committed.updateWrite (hc : s.Committed) (h : s.step .updateWrite = some s') :
    s'.Committed := by
  obtain ⟨rW, wW, modes, k, st, statsMgr, hu, hw, rfl⟩ := step_updateWrite h
  obtain ⟨old, hold, hcm⟩ := Option.map_eq_some_iff.mp ((hc _).copy rW wW modes k st hu rfl)
  refine fun j => ⟨fun st' hst => ?_, fun _ _ _ _ _ hw' => by cases hw'⟩
  rcases record_writeComputed hw hst with hst' | ⟨rfl, rfl⟩
  · exact (hc j).committed st' hst'
  · rw [← hcm]
    exact (hc _).committed old hold

/-- **Every step apart from `Update`'s copies keeps the committed modes.** -/
theorem Committed.step (hi : s.Inv) (hc : s.Committed) {e : Event} (ho : ¬ e.Overlaps s)
    (h : s.step e = some s') : s'.Committed := by
  cases e with
  | registerServer nSectors isRejectionsEnabled model => exact hc.registerServer hi h
  | reportRead i c =>
    obtain ⟨srv, newStats, hs, -, -, rfl⟩ := step_reportRead h
    exact hc.setServer hs (.inr ⟨rfl, fun ha => absurd ha id⟩)
  | reportStore i => exact hc.reportStore hi ho h
  | reportLost i c =>
    obtain ⟨srv, hs, -, rfl⟩ := step_reportLost h
    exact hc.setServer hs (.inr ⟨rfl, fun ha => absurd ha id⟩)
  | reply i =>
    obtain ⟨srv, r, hs, hpc, -, rfl⟩ := step_reply h
    exact hc.setServer hs (.inl (by rw [hpc]; trivial))
  | adopt i now =>
    obtain ⟨srv, r, hs, hpc, rfl⟩ := step_adopt h
    exact hc.setServer hs (.inl (by rw [hpc]; trivial))
  | replyLost i =>
    obtain ⟨srv, r, hs, hpc, rfl⟩ := step_replyLost h
    exact hc.setServer hs (.inl (by rw [hpc]; trivial))
  | commit i => exact hc.commit hi ho h
  | commitLost i =>
    obtain ⟨srv, hs, -, rfl⟩ := step_commitLost h
    exact hc.setServer hs (.inr ⟨rfl, fun ha => absurd ha id⟩)
  | flush i now reads writes =>
    obtain ⟨srv, mon, hs, hmode, -, rfl⟩ := step_flush h
    exact hc.setServer hs (.inr ⟨hmode, id⟩)
  | diskLoad i diskReads diskWrites =>
    obtain ⟨srv, mon, hs, hmode, -, rfl⟩ := step_diskLoad h
    exact hc.setServer hs (.inr ⟨hmode, id⟩)
  | updateBegin profiles now garbageModes garbageRead garbageWrite =>
    obtain ⟨c, -, -, rfl⟩ := step_updateBegin h
    exact fun j => (hc j).noCopy rfl rfl fun _ _ _ _ _ hw => by cases hw
  | updateRead =>
    obtain ⟨rW, wW, modes, k, -, ⟨-, rfl⟩ | ⟨st, -, hr, rfl⟩⟩ := step_updateRead h
    · exact fun j => (hc j).noCopy rfl rfl fun _ _ _ _ _ hw => by cases hw
    · -- the copy is taken from the stored record
      obtain ⟨old, hold, -, hcm⟩ := Scheduler.readComputed_ident hr
      refine fun j => ⟨(hc j).committed, fun _ _ _ k' st' hw hk => ?_⟩
      cases hw
      subst hk
      simp only [record, hold, Option.map_some, hcm]
  | updateWrite => exact hc.updateWrite h
  | calculateLoad =>
    cases h
    exact fun j => (hc j).frame rfl rfl rfl
  | pollRequest v =>
    obtain ⟨hctrl, hu, hs⟩ := step_poll (.inl rfl) h
    exact fun j => (hc j).frame (by simp only [record, hctrl]) (by rw [hs]) hu
  | pollReply v =>
    obtain ⟨hctrl, hu, hs⟩ := step_poll (.inr (.inl rfl)) h
    exact fun j => (hc j).frame (by simp only [record, hctrl]) (by rw [hs]) hu
  | pollLost v =>
    obtain ⟨hctrl, hu, hs⟩ := step_poll (.inr (.inr rfl)) h
    exact fun j => (hc j).frame (by simp only [record, hctrl]) (by rw [hs]) hu

theorem ReachableApart.inv (hr : s.ReachableApart) : s.Inv ∧ s.Committed := by
  induction hr with
  | init schedType now volumes =>
    exact ⟨inv_init schedType now volumes, committed_init schedType now volumes⟩
  | step _ ho hstep ih => exact ⟨ih.1.step hstep, ih.2.step ih.1 ho hstep⟩

/-! ## Results -/

/-- **A committed mode is the mode its server is in, in runs apart from `Update`'s copies.** In
every state reached by a run in which no report store or commit of a server falls between
`Update`'s copy of its record and the write-back, whatever else interleaves, the controller's
committed mode of a server is `kMix` or the mode the server is in, and it is `kMix` while the
server is between its report and the reply's adoption. -/
theorem reachableApart_committedMode (hr : s.ReachableApart) {st : ServerStats}
    (hst : s.record j = some st) :
    st.committedMode = .kMix ∨
      ∃ srv, s.servers j = some srv ∧ ¬ srv.pc.AwaitsReply ∧ st.committedMode = srv.mon.mode :=
  (hr.inv.2 j).committed st hst

/-- Volumes that have seen no server yet. -/
def freshVolumes : VolumeID → DataPlane.ServerStatsManager :=
  fun _ => DataPlane.ServerStatsManager.init fun _ => .kMix

/-- The registration of one storage server. -/
def registerOne : List Event := [.registerServer 1 false ⟨[], [], [], [], []⟩]

/-- A controller with no scheduler and one registered server. -/
def oneServer : Option Cluster := (init .kNoOp 0 freshVolumes).run registerOne

theorem reachableApart_committedMode_oneServer :
    ∃ s st, oneServer = some s ∧ s.record 1 = some st ∧
      (st.committedMode = .kMix ∨
        ∃ srv, s.servers 1 = some srv ∧ ¬ srv.pc.AwaitsReply ∧ st.committedMode = srv.mon.mode) :=
  ⟨_, _, rfl, rfl, reachableApart_committedMode
    (.step (.init .kNoOp 0 freshVolumes) (e := .registerServer 1 false ⟨[], [], [], [], []⟩)
      (fun h => h) rfl) rfl⟩

/-- A second's counts, one read completed. -/
def oneReadCounts : OpCounts := ⟨1, 0, 0, 0, 0, 0, 0, 0, 1⟩

/-- A second's counts, no operation. -/
def idleCounts : OpCounts := ⟨0, 0, 0, 0, 0, 0, 0, 0, 1⟩

/-- Three servers under `RWIsolationWeak`; server `1` reports one completed read, the load
calculator publishes it, and one whole `Update` puts the servers in `kRead`; server `1` adopts
and commits `kRead`. The next `Update` copies server `1`'s record, and server `1`'s next report
is stored and answered before the write-back. -/
def raceEvents : List Event :=
  registerOne ++ registerOne ++ registerOne ++
  [.reportRead 1 oneReadCounts, .reportStore 1, .calculateLoad] ++
  updateSteps onePointProfiles 0 (fun _ => .kMix) (fun _ => 0) (fun _ => 0) 3 ++
  [.reply 1, .adopt 1 0, .commit 1,
   .updateBegin onePointProfiles 0 (fun _ => .kMix) (fun _ => 0) (fun _ => 0), .updateRead,
   .reportRead 1 idleCounts, .reportStore 1, .reply 1, .updateWrite]

/-- **A report stored during `Update`'s copy is undone.** After `raceEvents`, the write-back has
restored the committed mode `kRead` of the copy over the report's `kMix`, while server `1` awaits
the reply to that report. -/
theorem update_overlap_committedMode :
    ∃ s st srv, (init .kRWIsolationWeak 0 freshVolumes).run raceEvents = some s ∧
      s.record 1 = some st ∧ s.servers 1 = some srv ∧ srv.pc.AwaitsReply ∧
      st.committedMode = .kRead :=
  ⟨_, _, _, rfl, rfl, rfl, trivial, rfl⟩

end Cluster

end Sandook.System
