import Sandook.System.ModeHandshake

/-!
# The handshake converges once the scheduler is quiet

What the controller's `Update` assigns a server reaches it through the handshake only: the reply
to its report carries the stored mode (`GetDataPlaneServerStats`), and `SetModeAndWeights` puts
the server in it. A reply built before a write-back of `Update` may carry the mode the write-back
then replaced, so the statements here are about runs without a write-back: between updates (the
updater thread runs every `kControlPlaneUpdateIntervalUs`) or once the modes are frozen.

* `step_server`: what a step other than a write-back does at a registered server whose report
  and reply carry the controller's mode — the controller's mode for it stays, the server's mode
  changes only by adopting the reply it awaited, and a report it newly holds or a reply it newly
  awaits carries the controller's mode.
* `Fresh` (the report the server holds and the reply on its way carry the controller's mode)
  holds after a reply is built and is kept; `Follows` (the server is in the controller's mode,
  and `Fresh`) holds after a fresh reply is adopted and is kept.

Results:
* `handshake_round`: from every reachable state, a server's round — report, its store, reply,
  adoption, commit — goes through, and leaves the controller's mode, the server's mode and the
  committed mode equal.
* `handshake_converges`: in a run without a write-back, once a reply built in the run is
  adopted, the server is in the controller's mode in every later state, whatever else
  interleaves, lost messages and the rest of `Update` included.
-/

namespace Sandook.System

open Sandook.ControlPlane Sandook.Controller Sandook.DiskServer

/-- `Update`'s write-back of a record, the only step of the updater thread that stores. -/
def Event.IsWriteBack : Event → Prop
  | .updateWrite => True
  | _ => False

namespace Cluster

variable {s s' : Cluster} {i j : ServerID} {srv srv' : StorageServer}

/-! ## One step at a registered server -/

/-- What a step can do to a server, `srv` before it and `srv'` after, when the controller's mode
for it is `assigned`: its mode stays or becomes that of the reply it awaited, and a reply it
awaits or a report it holds after the step is the one before, or carries `assigned`. -/
structure ServerStep (assigned : Option ServerMode) (srv srv' : StorageServer) : Prop where
  mode : srv'.mon.mode = srv.mon.mode ∨ ∃ r, srv.pc = .replied r ∧ srv'.mon.mode = r.1
  replied : ∀ r, srv'.pc = .replied r → srv'.pc = srv.pc ∨ assigned = some r.1
  reporting : ∀ stats newStats, srv'.pc = .reporting stats newStats →
    srv'.pc = srv.pc ∨ assigned = some newStats.mode

theorem ServerStep.refl {assigned : Option ServerMode} : ServerStep assigned srv srv :=
  ⟨.inl rfl, fun _ _ => .inl rfl, fun _ _ _ => .inl rfl⟩

/-- A step after which the server holds neither a report nor a reply. -/
theorem ServerStep.quiet {assigned : Option ServerMode}
    (hmode : srv'.mon.mode = srv.mon.mode ∨ ∃ r, srv.pc = .replied r ∧ srv'.mon.mode = r.1)
    (hr : ∀ r, srv'.pc ≠ .replied r) (hn : ∀ stats newStats, srv'.pc ≠ .reporting stats newStats) :
    ServerStep assigned srv srv' :=
  ⟨hmode, fun r h => absurd h (hr r), fun stats newStats h => absurd h (hn stats newStats)⟩

/-- What a step can do at the registered server `i`, which is `srv` before it: the controller's
mode for `i` stays, and the server steps as `ServerStep` allows. -/
structure StepAt (s s' : Cluster) (i : ServerID) (srv : StorageServer) : Prop where
  assigned : (s'.record i).map (·.mode) = (s.record i).map (·.mode)
  server : ∃ srv', s'.servers i = some srv' ∧ ServerStep ((s.record i).map (·.mode)) srv srv'

theorem StepAt.of_eq (hs : s.servers i = some srv) (hr : s'.record i = s.record i)
    (hs' : s'.servers i = s.servers i) : StepAt s s' i srv :=
  ⟨by rw [hr], srv, hs'.trans hs, .refl⟩

/-- A step of server `i`'s loop that leaves the controller alone. -/
theorem StepAt.setServer_self (h : ServerStep ((s.record i).map (·.mode)) srv srv') :
    StepAt s (s.setServer i srv') i srv :=
  ⟨rfl, srv', setServer_servers_self, h⟩

/-- The step of another server's loop. -/
theorem StepAt.setServer_other (hs : s.servers i = some srv) (hj : i ≠ j) :
    StepAt s (s.setServer j srv') i srv :=
  .of_eq hs rfl (setServer_servers_of_ne hj)

/-- A commit writes the committed mode only: the controller's mode for every server stays. -/
theorem assigned_commit (hi : s.Inv) (h : s.step (.commit j) = some s') :
    ∀ i, (s'.record i).map (·.mode) = (s.record i).map (·.mode) := by
  obtain ⟨srv, ctrl, hs, -, hc, rfl⟩ := step_commit h
  obtain ⟨-, hm⟩ := ControllerAgent.commitServerMode_eq hc
  obtain ⟨old, hold⟩ := Option.isSome_iff_exists.mp ((hi j).server srv hs).2.2.2
  intro i
  simp only [setServer_record, record_mk]
  by_cases hij : i = j
  · subst hij
    rw [ServerStatsManager.getServerStats_commitServerMode_self hold hm]
    exact (congrArg (Option.map (·.mode)) hold).symm
  · rw [ServerStatsManager.getServerStats_commitServerMode_other hij hm]
    rfl

/-! ## Fresh reports and replies, and a server that follows the controller -/

/-- The report server `i` holds and the reply on its way to it carry the controller's mode for
it. -/
structure Fresh (s : Cluster) (i : ServerID) : Prop where
  reporting : ∀ srv stats newStats, s.servers i = some srv → srv.pc = .reporting stats newStats →
    (s.record i).map (·.mode) = some newStats.mode
  replied : ∀ srv r, s.servers i = some srv → srv.pc = .replied r →
    (s.record i).map (·.mode) = some r.1

/-- **One step other than a write-back at a registered server** whose report and reply are
fresh. -/
theorem step_server (hi : s.Inv) (hf : s.Fresh i) (hs : s.servers i = some srv) {e : Event}
    (he : ¬ e.IsWriteBack) (h : s.step e = some s') : StepAt s s' i srv := by
  cases e with
  | registerServer nSectors isRejectionsEnabled model =>
    -- the new id is past every registered one, `i` among them
    obtain ⟨r, ctrl, hreg, hs'⟩ := step_registerServer h
    obtain ⟨-, hok, hadd⟩ := ControllerAgent.registerServer_statsMgr hreg
    obtain ⟨-, -, -, hother⟩ := ServerStatsManager.addServer_eq hadd
    have hne : i ≠ s.ctrl.nextServerId := Nat.ne_of_lt ((hi i).server srv hs).2.1
    rcases hs' with ⟨serverId, rfl, rfl⟩ | ⟨-, rfl⟩
    · obtain rfl := hok serverId rfl
      exact .of_eq hs (hother i hne) (setServer_servers_of_ne hne)
    · exact .of_eq hs (hother i hne) rfl
  | reportRead j c =>
    obtain ⟨srv₁, newStats, hs₁, -, hn, rfl⟩ := step_reportRead h
    by_cases hij : i = j
    · subst hij
      rw [hs, Option.some.injEq] at hs₁
      subst hs₁
      -- the report restores the stored mode
      obtain ⟨old, hold⟩ := Option.isSome_iff_exists.mp ((hi i).server srv hs).2.2.2
      rw [ServerStatsManager.restoreServerStats_false hold, Option.some.injEq] at hn
      subst hn
      refine .setServer_self ⟨.inl rfl, (fun _ h => by cases h), fun _ _ hpc => .inr ?_⟩
      cases hpc
      exact (congrArg (Option.map (·.mode)) hold).trans rfl
    · exact .setServer_other hs hij
  | reportStore j =>
    obtain ⟨srv₁, stats, newStats, sched, hs₁, hpc, hc, rfl⟩ := step_reportStore h
    obtain ⟨-, statsMgr, hstore, rfl⟩ := Scheduler.storeServerStats_eq hc
    by_cases hij : i = j
    · subst hij
      rw [hs, Option.some.injEq] at hs₁
      subst hs₁
      -- the store puts back the mode the report restored, which is still the stored one
      refine ⟨?_, _, setServer_servers_self, .quiet (.inl rfl) (fun _ h => by cases h) fun _ _ h => by cases h⟩
      simp only [setServer_record, setSched_record,
        ServerStatsManager.getServerStats_storeServerStats_self hstore, Option.map_some]
      exact (hf.reporting srv stats newStats hs hpc).symm
    · exact .of_eq hs (ServerStatsManager.getServerStats_storeServerStats_other hij hstore)
        (setServer_servers_of_ne hij)
  | reportLost j c =>
    obtain ⟨srv₁, hs₁, -, rfl⟩ := step_reportLost h
    by_cases hij : i = j
    · subst hij
      rw [hs, Option.some.injEq] at hs₁
      subst hs₁
      exact .setServer_self (.quiet (.inl rfl) (fun _ h => by cases h) fun _ _ h => by cases h)
    · exact .setServer_other hs hij
  | reply j =>
    obtain ⟨srv₁, r, hs₁, -, hr, rfl⟩ := step_reply h
    by_cases hij : i = j
    · subst hij
      rw [hs, Option.some.injEq] at hs₁
      subst hs₁
      -- the reply carries the stored mode
      refine .setServer_self ⟨.inl rfl, fun r' hr' => .inr ?_, fun _ _ h => by cases h⟩
      cases hr'
      obtain ⟨st, hst, rfl⟩ := Option.map_eq_some_iff.mp hr
      exact (congrArg (Option.map (·.mode)) hst).trans rfl
    · exact .setServer_other hs hij
  | adopt j now =>
    obtain ⟨srv₁, r, hs₁, hpc, rfl⟩ := step_adopt h
    by_cases hij : i = j
    · subst hij
      rw [hs, Option.some.injEq] at hs₁
      subst hs₁
      exact .setServer_self (.quiet (.inr ⟨r, hpc, rfl⟩) (fun _ h => by cases h) fun _ _ h => by cases h)
    · exact .setServer_other hs hij
  | replyLost j =>
    obtain ⟨srv₁, r, hs₁, -, rfl⟩ := step_replyLost h
    by_cases hij : i = j
    · subst hij
      rw [hs, Option.some.injEq] at hs₁
      subst hs₁
      exact .setServer_self (.quiet (.inl rfl) (fun _ h => by cases h) fun _ _ h => by cases h)
    · exact .setServer_other hs hij
  | commit j =>
    obtain ⟨srv₁, ctrl, hs₁, -, -, rfl⟩ := step_commit h
    have hassigned := assigned_commit hi h i
    by_cases hij : i = j
    · subst hij
      rw [hs, Option.some.injEq] at hs₁
      subst hs₁
      exact ⟨hassigned, _, setServer_servers_self, .quiet (.inl rfl) (fun _ h => by cases h) fun _ _ h => by cases h⟩
    · exact ⟨hassigned, srv, (setServer_servers_of_ne hij).trans hs, .refl⟩
  | commitLost j =>
    obtain ⟨srv₁, hs₁, -, rfl⟩ := step_commitLost h
    by_cases hij : i = j
    · subst hij
      rw [hs, Option.some.injEq] at hs₁
      subst hs₁
      exact .setServer_self (.quiet (.inl rfl) (fun _ h => by cases h) fun _ _ h => by cases h)
    · exact .setServer_other hs hij
  | flush j now reads writes =>
    obtain ⟨srv₁, mon, hs₁, hmode, -, rfl⟩ := step_flush h
    by_cases hij : i = j
    · subst hij
      rw [hs, Option.some.injEq] at hs₁
      subst hs₁
      exact .setServer_self ⟨.inl hmode, fun _ _ => .inl rfl, fun _ _ _ => .inl rfl⟩
    · exact .setServer_other hs hij
  | diskLoad j diskReads diskWrites =>
    obtain ⟨srv₁, mon, hs₁, hmode, -, rfl⟩ := step_diskLoad h
    by_cases hij : i = j
    · subst hij
      rw [hs, Option.some.injEq] at hs₁
      subst hs₁
      exact .setServer_self ⟨.inl hmode, fun _ _ => .inl rfl, fun _ _ _ => .inl rfl⟩
    · exact .setServer_other hs hij
  | updateBegin profiles now garbageModes garbageRead garbageWrite =>
    obtain ⟨c, -, -, rfl⟩ := step_updateBegin h
    exact .of_eq hs rfl rfl
  | updateRead =>
    obtain ⟨rW, wW, modes, k, -, ⟨-, rfl⟩ | ⟨st, -, -, rfl⟩⟩ := step_updateRead h
    · exact .of_eq hs rfl rfl
    · exact .of_eq hs rfl rfl
  | updateWrite => exact absurd trivial he
  | calculateLoad =>
    cases h
    exact .of_eq hs rfl rfl
  | pollRequest v =>
    obtain ⟨hctrl, -, hs'⟩ := step_poll (.inl rfl) h
    exact .of_eq hs (by simp only [record, hctrl]) (by rw [hs'])
  | pollReply v =>
    obtain ⟨hctrl, -, hs'⟩ := step_poll (.inr (.inl rfl)) h
    exact .of_eq hs (by simp only [record, hctrl]) (by rw [hs'])
  | pollLost v =>
    obtain ⟨hctrl, -, hs'⟩ := step_poll (.inr (.inr rfl)) h
    exact .of_eq hs (by simp only [record, hctrl]) (by rw [hs'])

/-- Server `i` is in the controller's mode for it, and its report and reply carry it. -/
def Follows (s : Cluster) (i : ServerID) : Prop :=
  ∃ srv, s.servers i = some srv ∧ (s.record i).map (·.mode) = some srv.mon.mode ∧ s.Fresh i

theorem Fresh.step (hi : s.Inv) (hf : s.Fresh i) (hs : s.servers i = some srv) {e : Event}
    (he : ¬ e.IsWriteBack) (h : s.step e = some s') : s'.Fresh i ∧ (s'.servers i).isSome := by
  obtain ⟨hassigned, srv', hs', hstep⟩ := step_server hi hf hs he h
  refine ⟨⟨fun srv₁ stats newStats h₁ hpc => ?_, fun srv₁ r h₁ hr => ?_⟩, by rw [hs']; rfl⟩
  · rw [hs', Option.some.injEq] at h₁
    subst h₁
    rw [hassigned]
    rcases hstep.reporting stats newStats hpc with heq | hnew
    · exact hf.reporting srv stats newStats hs (heq ▸ hpc)
    · exact hnew
  · rw [hs', Option.some.injEq] at h₁
    subst h₁
    rw [hassigned]
    rcases hstep.replied r hr with heq | hnew
    · exact hf.replied srv r hs (heq ▸ hr)
    · exact hnew

theorem Follows.step (hi : s.Inv) (hf : s.Follows i) {e : Event} (he : ¬ e.IsWriteBack)
    (h : s.step e = some s') : s'.Follows i := by
  obtain ⟨srv, hs, hm, hfr⟩ := hf
  obtain ⟨hassigned, srv', hs', hstep⟩ := step_server hi hfr hs he h
  refine ⟨srv', hs', ?_, (hfr.step hi hs he h).1⟩
  rw [hassigned]
  rcases hstep.mode with heq | ⟨r, hr, heq⟩
  · rw [heq]
    exact hm
  · -- the server adopted the reply it awaited, which was fresh
    rw [heq]
    exact hfr.replied srv r hs hr

theorem Inv.run {es : List Event} (hi : s.Inv) (h : s.run es = some s') : s'.Inv := by
  induction es generalizing s with
  | nil =>
    cases h
    exact hi
  | cons e es ih =>
    obtain ⟨s₁, h₁, h⟩ := Option.bind_eq_some_iff.mp h
    exact ih (hi.step h₁) h

theorem Fresh.run {es : List Event} (hi : s.Inv) (hf : s.Fresh i) (hs : (s.servers i).isSome)
    (hu : ∀ e ∈ es, ¬ e.IsWriteBack) (h : s.run es = some s') :
    s'.Fresh i ∧ (s'.servers i).isSome := by
  induction es generalizing s with
  | nil =>
    cases h
    exact ⟨hf, hs⟩
  | cons e es ih =>
    obtain ⟨s₁, h₁, h⟩ := Option.bind_eq_some_iff.mp h
    obtain ⟨srv, hsrv⟩ := Option.isSome_iff_exists.mp hs
    obtain ⟨hf₁, hs₁⟩ := hf.step hi hsrv (hu e List.mem_cons_self) h₁
    exact ih (hi.step h₁) hf₁ hs₁ (fun e' he' => hu e' (List.mem_cons_of_mem _ he')) h

theorem Follows.run {es : List Event} (hi : s.Inv) (hf : s.Follows i)
    (hu : ∀ e ∈ es, ¬ e.IsWriteBack) (h : s.run es = some s') : s'.Follows i := by
  induction es generalizing s with
  | nil =>
    cases h
    exact hf
  | cons e es ih =>
    obtain ⟨s₁, h₁, h⟩ := Option.bind_eq_some_iff.mp h
    exact ih (hi.step h₁) (hf.step hi (hu e List.mem_cons_self) h₁)
      (fun e' he' => hu e' (List.mem_cons_of_mem _ he')) h

/-- A reply is built from the controller's record: it is fresh. -/
theorem fresh_of_reply (h : s.step (.reply i) = some s') :
    s'.Fresh i ∧ (s'.servers i).isSome := by
  obtain ⟨srv, r, -, -, hr, rfl⟩ := step_reply h
  refine ⟨⟨fun srv₁ _ _ h₁ hpc => ?_, fun srv₁ r₁ h₁ hr₁ => ?_⟩, by simp⟩
  · simp only [setServer_servers_self, Option.some.injEq] at h₁
    subst h₁
    cases hpc
  · simp only [setServer_servers_self, Option.some.injEq] at h₁
    subst h₁
    cases hr₁
    obtain ⟨st, hst, rfl⟩ := Option.map_eq_some_iff.mp hr
    exact (congrArg (Option.map (·.mode)) hst).trans rfl

/-- Adopting a fresh reply puts the server in the controller's mode. -/
theorem Fresh.adopt (hf : s.Fresh i) {now : UInt64} (h : s.step (.adopt i now) = some s') :
    s'.Follows i := by
  obtain ⟨srv, r, hs, hpc, rfl⟩ := step_adopt h
  refine ⟨_, setServer_servers_self, hf.replied srv r hs hpc,
    ⟨fun srv₁ _ _ h₁ hpc₁ => ?_, fun srv₁ r₁ h₁ hr₁ => ?_⟩⟩
  · simp only [setServer_servers_self, Option.some.injEq] at h₁
    subst h₁
    cases hpc₁
  · simp only [setServer_servers_self, Option.some.injEq] at h₁
    subst h₁
    cases hr₁

/-! ## Results -/

/-- **The handshake converges once the scheduler is quiet.** In a run whose steps after some
`reply i` are no write-back of `Update`, once server `i` adopts a reply, it is in the
controller's mode for it in the final state, and every reply on its way to it carries that
mode — whatever the other servers, the volumes, the rest of `Update` and the lost messages do in
between. -/
theorem handshake_converges (hr : s.Reachable) {pre mid post : List Event} {now : UInt64}
    (hu : ∀ e ∈ mid ++ post, ¬ e.IsWriteBack)
    (h : s.run (pre ++ .reply i :: (mid ++ .adopt i now :: post)) = some s') :
    ∃ srv, s'.servers i = some srv ∧ (s'.record i).map (·.mode) = some srv.mon.mode ∧
      ∀ r, srv.pc = .replied r → r.1 = srv.mon.mode := by
  have hi := hr.inv
  rw [run_append] at h
  obtain ⟨s₁, h₁, h⟩ := Option.bind_eq_some_iff.mp h
  obtain ⟨s₂, h₂, h⟩ := Option.bind_eq_some_iff.mp h
  rw [run_append] at h
  obtain ⟨s₃, h₃, h⟩ := Option.bind_eq_some_iff.mp h
  obtain ⟨s₄, h₄, h⟩ := Option.bind_eq_some_iff.mp h
  have hi₁ := hi.run h₁
  have hi₂ := hi₁.step h₂
  -- the reply built at `s₁` stays fresh through `mid`, and its adoption is kept through `post`
  obtain ⟨hf₂, hs₂⟩ := fresh_of_reply h₂
  obtain ⟨hf₃, -⟩ := hf₂.run hi₂ hs₂ (fun e he => hu e (List.mem_append_left _ he)) h₃
  have hfo : s'.Follows i := (hf₃.adopt h₄).run ((hi₂.run h₃).step h₄)
    (fun e he => hu e (List.mem_append_right _ he)) h
  obtain ⟨srv, hs, hm, hfr⟩ := hfo
  exact ⟨srv, hs, hm, fun r hpc => Option.some.inj ((hfr.replied srv r hs hpc).symm.trans hm)⟩

theorem handshake_converges_oneServer :
    ∃ s s', oneServer = some s ∧
      s.run ([.reportRead 1 idleCounts, .reportStore 1] ++
        .reply 1 :: ([] ++ .adopt 1 0 :: [.commit 1])) = some s' ∧
      ∃ srv, s'.servers 1 = some srv ∧ (s'.record 1).map (·.mode) = some srv.mon.mode ∧
        ∀ r, srv.pc = .replied r → r.1 = srv.mon.mode :=
  ⟨_, _, rfl, rfl, @handshake_converges _ _ 1
    ((Reachable.init .kNoOp 0 freshVolumes).run
      (show (init .kNoOp 0 freshVolumes).run registerOne = some _ from rfl))
    [.reportRead 1 idleCounts, .reportStore 1] [] [.commit 1] 0
    (by simp [Event.IsWriteBack]) rfl⟩

/-- **A round of the handshake goes through.** From every reachable state, a server at the top
of its loop completes a round — its report over any counts, the report's store, the reply,
`SetModeAndWeights`, the commit — with no step failing, and the controller's mode for it, the
mode it is in and its committed mode are then one mode. -/
theorem handshake_round (hr : s.Reachable) (hs : s.servers i = some srv) (hpc : srv.pc = .idle)
    (c : OpCounts) (now : UInt64) :
    ∃ s', s.run [.reportRead i c, .reportStore i, .reply i, .adopt i now, .commit i] = some s' ∧
      ∃ srv' st, s'.servers i = some srv' ∧ s'.record i = some st ∧ srv'.pc = .idle ∧
        srv'.mon.mode = st.mode ∧ st.committedMode = st.mode := by
  have hi := hr.inv
  obtain ⟨-, -, hmem, hsome⟩ := (hi i).server srv hs
  obtain ⟨old, hold⟩ := Option.isSome_iff_exists.mp hsome
  -- the report, with the stored mode and weights restored, and its store
  set mon := srv.mon.updateStats c
  set st₁ := ServerStatsManager.restoreFields old mon.getServerStats
  set s₁ := s.setServer i ⟨mon, .reporting mon.getServerStats st₁⟩
  have h₁ : s.step (.reportRead i c) = some s₁ :=
    step_reportRead_of hs hpc (ServerStatsManager.restoreServerStats_false hold)
  obtain ⟨sched, hc₂⟩ : ∃ sched,
      s.ctrl.sched.storeServerStats i mon.getServerStats st₁ true = some sched :=
    Option.isSome_iff_exists.mp
      (Scheduler.storeServerStats_isSome (ServerStatsManager.lt_of_getServerStats hold) hmem)
  obtain ⟨-, statsMgr, hstore, rfl⟩ := Scheduler.storeServerStats_eq hc₂
  have hrec₂ := ServerStatsManager.getServerStats_storeServerStats_self hstore
  set s₂ := (s₁.setSched { s.ctrl.sched with statsMgr }).setServer i ⟨mon, .reported⟩
  have h₂ : s₁.step (.reportStore i) = some s₂ :=
    step_reportStore_of (s := s₁) setServer_servers_self rfl hc₂
  -- the reply, built from the stored record, and its adoption
  set r : DataPlaneServerStats := (st₁.mode, st₁.congestionState, st₁.readWeight, st₁.writeWeight)
  set s₃ := s₂.setServer i ⟨mon, .replied r⟩
  have h₃ : s₂.step (.reply i) = some s₃ :=
    step_reply_of (s := s₂) setServer_servers_self rfl
      (by simp only [ControllerAgent.getDataPlaneServerStats,
        ServerStatsManager.getDataPlaneServerStats, s₂, setServer_ctrl, setSched, hrec₂,
        Option.map_some, r])
  set mon₄ := mon.setModeAndWeights now r.1 r.2.2.1 r.2.2.2
  set s₄ := s₃.setServer i ⟨mon₄, .committing⟩
  have h₄ : s₃.step (.adopt i now) = some s₄ := step_adopt_of (s := s₃) setServer_servers_self rfl
  -- the commit of the adopted mode
  obtain ⟨ctrl, hc₅⟩ : ∃ ctrl, s₄.ctrl.commitServerMode i mon₄.mode = some ctrl :=
    Option.isSome_iff_exists.mp (ControllerAgent.commitServerMode_isSome (by
      change (statsMgr.getServerStats i).isSome
      rw [hrec₂]
      rfl))
  have hrec₅ := ServerStatsManager.getServerStats_commitServerMode_self hrec₂
    (ControllerAgent.commitServerMode_eq hc₅).2
  have h₅ := step_commit_of (s := s₄) setServer_servers_self rfl hc₅
  refine ⟨({ s₄ with ctrl } : Cluster).setServer i ⟨mon₄, .idle⟩, ?_, ⟨mon₄, .idle⟩,
    { st₁ with committedMode := mon₄.mode }, setServer_servers_self, hrec₅, rfl, rfl, rfl⟩
  simp only [run, h₁, h₂, h₃, h₄, h₅, Option.bind_some]

theorem handshake_round_oneServer :
    ∃ s srv, oneServer = some s ∧ s.servers 1 = some srv ∧ srv.pc = .idle ∧
      ∃ s', s.run [.reportRead 1 idleCounts, .reportStore 1, .reply 1, .adopt 1 0, .commit 1] =
          some s' ∧
        ∃ srv' st, s'.servers 1 = some srv' ∧ s'.record 1 = some st ∧ srv'.pc = .idle ∧
          srv'.mon.mode = st.mode ∧ st.committedMode = st.mode :=
  ⟨_, _, rfl, rfl, rfl, handshake_round ((Reachable.init .kNoOp 0 freshVolumes).run
    (show (init .kNoOp 0 freshVolumes).run registerOne = some _ from rfl)) rfl rfl idleCounts 0⟩

end Cluster

end Sandook.System
