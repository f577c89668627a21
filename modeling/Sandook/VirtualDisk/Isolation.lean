import Sandook.VirtualDisk.Exclusivity
import Sandook.VirtualDisk.Read

/-!
# Volumes do not write each other's blocks (`virtual_disk_remote.cc`)

A request of a volume stores only at blocks that passed through its hands: a write's storage ops
go to the replicas of the list `GetBlocks` has just taken from the volume's caches or fresh from
the controller, a read's change no block, and an allocation stores nothing. In a cluster where no
block is held twice (`reachable_owned`), a block another volume holds is never in the hands of the
request under way, so a request of one volume leaves every block another volume holds as it was.

Requests are of one sector, as `VirtualDiskBase` cuts them (`ProcessShardedRequests`): a storage
op of one sector stores one block, at its server and `start_sector`.

Results:
* `processRequest_keepsForeign`: a one-sector request of a volume stores at no block another
  volume holds.
* `Holds.otherStep`: every step of the cluster that is not a request of the volume keeps what the
  replicas of the volume's mapping of a sector hold.
* `read_after_write_isolated`: after a volume's write of a sector returns, a run of server
  registrations, volume creations and other volumes' requests leaves the volume unchanged, and a
  read of the sector that succeeds returns the written block.
-/

namespace Sandook.VirtualDisk

open Sandook.Controller Sandook.Lib

/-! ## Blocks of other volumes -/

/-- A block that a volume other than the `v`-th of `vols` holds. -/
def Foreign (vols : List VirtualDiskRemote) (v : ℕ) (x : ServerBlockInfo) : Prop :=
  ∃ u p, u ≠ v ∧ x ∈ contents vols [] (.vol u p)

/-- `f`, run by the `v`-th volume from a world where no block is held twice, stores at no block
another volume holds. -/
def KeepsForeign {α : Type} (Blk : Type) (vols : List VirtualDiskRemote) (v : ℕ)
    (f : World ControllerAgent Blk → Option (α × World ControllerAgent Blk)) : Prop :=
  ∀ w r w', f w = some (r, w') → WorldOwned vols v [] w →
    ∀ x, Foreign vols v x → w'.store x.serverId x.blockAddr = w.store x.serverId x.blockAddr

section Request

variable {Blk : Type} (env : Env) {vols : List VirtualDiskRemote} {v : ℕ}
  {w w' : World ControllerAgent Blk}

/-- A block another volume holds is not in the hands of the request under way. -/
theorem Foreign.not_mem_hand {hand : List ServerBlockInfo} (h : WorldOwned vols v hand w)
    {x : ServerBlockInfo} (hx : Foreign vols v x) : x ∉ hand := by
  obtain ⟨u, p, huv, hxu⟩ := hx
  intro hxh
  have hxu' : x ∈ contents (vols.set v w.vd) hand (.vol u p) := by
    rw [contents_set_ne (Ne.symm huv)]
    exact hxu
  exact h.exclusive.disjoint .hand (.vol u p) (by simp) x hxh hxu'

/-- A one-sector storage op stores at most one block: its server's block `start_sector`. -/
theorem processStorageOp_store_of_ne (w : World ControllerAgent Blk) (serverId : ServerID)
    {iod : IODesc} (hn : iod.numSectors = 1) {x : ServerBlockInfo}
    (hx : x ≠ ⟨serverId, iod.startSector⟩) :
    (processStorageOp env w serverId iod).2.store x.serverId x.blockAddr =
      w.store x.serverId x.blockAddr := by
  obtain ⟨store, hp, hstore, -⟩ := processStorageOp_eq env w serverId iod
  rw [hp]
  rcases hstore with hs | ⟨-, -, hs⟩
  · rw [hs]
  · rw [hs, hn, sectorBytes_one_div]
    simp only [List.range_one, List.map_cons, List.map_nil, Nat.mul_zero, Nat.add_zero,
      scatter_singleton]
    by_cases hsrv : x.serverId = serverId
    · have ha : x.blockAddr ≠ iod.startSector := fun ha => hx (by cases x; simp_all)
      rw [hsrv, Function.update_self, Function.update_of_ne ha]
    · rw [Function.update_of_ne hsrv]

/-- **The read loop** stores at no block another volume holds, if its retry does not: its
storage ops are reads. -/
theorem readLoop_keepsForeign (hv : v < vols.length)
    {retry : IODesc → World ControllerAgent Blk → Option (Status ℤ × World ControllerAgent Blk)}
    (hretry : ∀ iod, iod.op = .kRead → iod.numSectors = 1 → KeepsForeign Blk vols v (retry iod))
    (servers : ServerReplicaBlockInfoList) (start : VolumeBlockAddr) :
    ∀ fuel ids iod, iod.op = .kRead → iod.numSectors = 1 →
      KeepsForeign Blk vols v (readLoop env retry servers start fuel ids iod)
  | 0, _, _, _, _ => fun _ _ _ h => by simp [readLoop] at h
  | fuel + 1, [], iod, hop, hn => by
    intro w r w' h hw x hx
    simp only [readLoop] at h
    obtain ⟨w₁, h₁, h⟩ := Option.bind_eq_some_iff.mp h
    have q₁ := (sleep_quiet env h₁).1
    rw [readLoop_keepsForeign hv hretry servers start fuel _ iod hop hn w₁ r w' h
      (hw.of_quiet hv q₁) x hx, q₁.store]
  | fuel + 1, s :: ss, iod, hop, hn => by
    intro w r w' h hw x hx
    obtain ⟨pos, hround⟩ := readLoop_cons_cases env h
    have hw₁ : WorldOwned vols v [] { w with pos := pos } := hw
    rcases hround with ⟨w₂, h₂, h⟩ | ⟨serverId, -, blkInfo, -, r₃, w₃, h₃, hnext⟩
    · have q₂ := (sleep_quiet env h₂).1
      rw [hretry { iod with startSector := start } hop hn _ r w' h (hw₁.of_quiet hv q₂) x hx,
        q₂.store]
    · -- the replica's read stores nothing
      have q₃ : Quiet { w with pos := pos } w₃ := by
        have hp := (@processStorageOp_read ControllerAgent Blk env { w with pos := pos } serverId
          { iod with startSector := blkInfo.1.blockAddr } hop).1
        have q₂ : Quiet { w with pos := pos } (processStorageOp env { w with pos := pos } serverId
            { iod with startSector := blkInfo.1.blockAddr }).2 := by
          rw [hp]
          exact ⟨rfl, rfl, rfl, rfl, rfl⟩
        exact q₂.trans (handleStorageOpReply_quiet env h₃).1
      rcases hnext with ⟨-, -, -, rfl⟩ | ⟨-, -, h⟩
      · rw [q₃.store]
      · rw [readLoop_keepsForeign hv hretry servers start fuel _
          { iod with startSector := blkInfo.1.blockAddr } hop hn w₃ r w' h (hw₁.of_quiet hv q₃) x hx,
          q₃.store]

/-- **A replica's write thread**, on a block no other volume holds, stores at no block another
volume holds, if its retry does not. -/
theorem writeReplica_keepsForeign (hv : v < vols.length)
    {retry : IODesc → World ControllerAgent Blk → Option (Status ℤ × World ControllerAgent Blk)}
    {iod : IODesc} (hretry : KeepsForeign Blk vols v (retry iod)) (hn : iod.numSectors = 1)
    {srvInfo : ServerBlockInfo} (hsrv : ¬Foreign vols v srvInfo) (isRetrying : Bool) :
    KeepsForeign Blk vols v (writeReplica env retry iod srvInfo isRetrying) := by
  intro w r w' h hw x hx
  obtain ⟨-, r₂, w₂, h₂, hdone⟩ := writeReplica_cases env h
  have q₂ := (handleStorageOpReply_quiet env h₂).1
  -- the storage op stores at the thread's block, which is not `x`
  have hne : x ≠ ⟨srvInfo.serverId, srvInfo.blockAddr⟩ := by
    rintro rfl
    exact hsrv hx
  have hx₂ : w₂.store x.serverId x.blockAddr = w.store x.serverId x.blockAddr := by
    rw [q₂.store]
    exact processStorageOp_store_of_ne env w srvInfo.serverId
      (show ({ iod with startSector := srvInfo.blockAddr } : IODesc).numSectors = 1 from hn) hne
  have hw₂ : WorldOwned vols v [] w₂ := (hw.processStorageOp env hv _ _).of_quiet hv q₂
  rcases hdone with ⟨-, -, -, rfl⟩ | ⟨-, -, -, -, rfl⟩ | ⟨-, -, -, -, r₃, h₃⟩
  · exact hx₂
  · exact hx₂
  · rw [hretry w₂ r₃ w' h₃ hw₂ x hx, hx₂]

/-- `ProcessWriteOp` on a list of blocks no other volume holds stores at no block another volume
holds, if its retry does not: the loop rule over its threads, with `Owned` carried along. -/
theorem processWriteOp_keepsForeign (hv : v < vols.length)
    {retry : IODesc → World ControllerAgent Blk → Option (Status ℤ × World ControllerAgent Blk)}
    {iod : IODesc} (hretry : KeepsForeign Blk vols v (retry iod))
    (hretryOwned : ∀ iod, Preserves (WorldOwned vols v []) (retry iod)) (hn : iod.numSectors = 1)
    {servers : ServerReplicaBlockInfoList} (hservers : ∀ rep ∈ servers, ¬Foreign vols v rep.1) :
    KeepsForeign Blk vols v (processWriteOp env retry servers iod) := by
  intro w r w' h hw x hx
  unfold processWriteOp at h
  obtain ⟨acc, hfold, h⟩ := Option.map_eq_some_iff.mp h
  rw [Prod.mk.injEq] at h
  rw [← h.2]
  refine (foldlM_range_invariant (fun _ acc => WorldOwned vols v [] acc.2 ∧
      acc.2.store x.serverId x.blockAddr = w.store x.serverId x.blockAddr) _ ⟨hw, rfl⟩
    (fun i _ y z hy hz => ?_) hfold).2
  obtain ⟨rep, hrep, hz⟩ := Option.bind_eq_some_iff.mp hz
  have hsrv := hservers rep (List.mem_of_getElem? hrep)
  refine ⟨(requestInvariant_owned env hv).writeReplica hretryOwned iod rep.1 y.1 y.2 z.1 z.2 hz hy.1,
    ?_⟩
  rw [writeReplica_keepsForeign env hv hretry hn hsrv y.1 y.2 z.1 z.2 hz hy.1 x hx, hy.2]

/-- The allocation loop stores nothing: it takes blocks and installs them. -/
theorem allocateSectors_store (iod : IODesc) :
    ∀ (ss : List VolumeBlockAddr) {w w' : World ControllerAgent Blk} {r : Status ℤ},
      allocateSectors guardedEndpoint env iod ss w = some (r, w') → w'.store = w.store
  | [], w, w', r, h => by
    simp only [allocateSectors, Option.some.injEq, Prod.mk.injEq] at h
    rw [← h.2]
  | s :: ss, w, w', r, h => by
    simp only [allocateSectors] at h
    obtain ⟨⟨r₁, w₁⟩, h₁, h⟩ := Option.bind_eq_some_iff.mp h
    obtain ⟨blks, rfl, -, -, k₁⟩ := getBlocks_ok guardedEndpoint env h₁
    simp only at h
    obtain ⟨⟨ret, res⟩, ha, h⟩ := Option.bind_eq_some_iff.mp h
    obtain ⟨-, rfl, -⟩ := BlockResolver.addMapping_some ha
    rw [allocateSectors_store iod ss h]
    exact k₁.store

/-- **A one-sector request stores at no block another volume holds**, by induction on the fuel
of its retries: a write stores at the blocks `GetBlocks` has just put in its hands, which no other
volume holds. -/
theorem processRequest_keepsForeign (hv : v < vols.length) :
    ∀ fuel iod, iod.numSectors = 1 →
      KeepsForeign Blk vols v (processRequest guardedEndpoint env fuel iod)
  | 0, _, _ => fun _ _ _ h => by simp [processRequest] at h
  | fuel + 1, iod, hn => by
    intro w r w' h hw x hx
    have hretry : ∀ iod', iod'.numSectors = 1 →
        KeepsForeign Blk vols v (processRequest guardedEndpoint env fuel iod') :=
      processRequest_keepsForeign hv fuel
    cases hop : iod.op
    case kRead =>
      simp only [processRequest, hop] at h
      obtain ⟨res, -, h⟩ := Option.bind_eq_some_iff.mp h
      cases res with
      | error e =>
        simp only [Option.some.injEq, Prod.mk.injEq] at h
        rw [← h.2]
      | ok servers =>
        exact readLoop_keepsForeign env hv (fun iod' _ hn' => hretry iod' hn') servers _ fuel _
          iod hop hn w r w' h hw x hx
    case kWrite =>
      simp only [processRequest, hop] at h
      obtain ⟨⟨r₁, w₁⟩, h₁, h⟩ := Option.bind_eq_some_iff.mp h
      obtain ⟨blks, rfl, -, -, k₁⟩ := getBlocks_ok guardedEndpoint env h₁
      have hw₁ := getBlocks_owned env hv hw h₁
      simp only at h
      obtain ⟨⟨ret, res⟩, ha, h⟩ := Option.bind_eq_some_iff.mp h
      obtain ⟨-, rfl, -⟩ := BlockResolver.addMapping_some ha
      -- the blocks of the new list came through the hands
      have hblks : ∀ rep ∈ blks, ¬Foreign vols v rep.1 := fun rep hrep hf =>
        Foreign.not_mem_hand hw₁ hf
          (List.mem_append_right [] (List.mem_map_of_mem (f := Prod.fst) hrep))
      have hw₂ := addMapping_owned hv (by rwa [List.nil_append] at hw₁ ⊢) ha
      rw [processWriteOp_keepsForeign env hv (hretry iod hn)
        ((requestInvariant_owned env hv).processRequest fuel) hn hblks _ r w' h hw₂ x hx]
      exact congrFun (congrFun k₁.store _) _
    case kAllocate =>
      simp only [processRequest, hop] at h
      rw [allocateSectors_store env iod _ h]
    all_goals
      simp only [processRequest, hop, Option.some.injEq, Prod.mk.injEq] at h
      rw [← h.2]

end Request

/-! ## Runs of the other volumes -/

section Cluster

variable {Blk : Type} (env : Env)

/-- A step of the cluster that is not a request of the `v`-th volume; requests are of one sector,
as `VirtualDiskBase` cuts them. -/
inductive OtherStep (v : ℕ) : Cluster Blk → Cluster Blk → Prop where
  | registerServer {cl : Cluster Blk} {nSectors : ℕ} {r : Status ServerID}
      {ctrl : ControllerAgent} :
      cl.shared.ctrl.registerServer nSectors = some (r, ctrl) →
        OtherStep v cl ⟨{ cl.shared with ctrl := ctrl }, cl.vols⟩
  | createVolume {cl : Cluster Blk} {sched : DataPlane.Scheduler}
      {affinity volId nsectors maxCores fuel : ℕ} {vd : VirtualDiskRemote} {ctrl : ControllerAgent} :
      VirtualDiskRemote.create guardedEndpoint sched cl.shared.ctrl.servers affinity volId nsectors
          maxCores fuel cl.shared.ctrl = some (vd, ctrl) →
        OtherStep v cl ⟨{ cl.shared with ctrl := ctrl }, cl.vols ++ [vd]⟩
  | request {cl : Cluster Blk} {u fuel : ℕ} {vd : VirtualDiskRemote} {iod : IODesc}
      {r : Status ℤ} {w : World ControllerAgent Blk} :
      u ≠ v → iod.numSectors = 1 → cl.vols[u]? = some vd →
        processRequest guardedEndpoint env fuel iod ⟨cl.shared, vd⟩ = some (r, w) →
        OtherStep v cl ⟨w.toShared, cl.vols.set u w.vd⟩

theorem OtherStep.step {v : ℕ} {cl cl' : Cluster Blk} (h : OtherStep env v cl cl') :
    Step guardedEndpoint env cl cl' := by
  cases h with
  | registerServer h => exact .registerServer h
  | createVolume h => exact .createVolume h
  | request _ _ hvd hp => exact .request hvd hp

/-- The `v`-th volume is `vd`, and when its mapping of `s` is one that `ResolveBlock` returns,
every replica of it holds `d`. -/
def Holds (cl : Cluster Blk) (v : ℕ) (vd : VirtualDiskRemote) (s : VolumeBlockAddr) (d : Blk) :
    Prop :=
  cl.vols[v]? = some vd ∧ (s < vd.blkRes.nsectors → Mapped (vd.blkRes.blkMap s) →
    ∀ rep ∈ vd.blkRes.blkMap s, cl.shared.store rep.1.serverId rep.1.blockAddr = d)

/-- The replicas of a mapped sector are live blocks. -/
theorem mem_liveBlocks {r : BlockResolver} {s : VolumeBlockAddr} (hs : s < r.nsectors)
    (hm : Mapped (r.blkMap s)) {rep : ServerReplicaBlockInfo} (hrep : rep ∈ r.blkMap s) :
    rep.1 ∈ liveBlocks r := by
  refine List.mem_flatMap.mpr ⟨s, List.mem_range.mpr hs, ?_⟩
  rw [mappedBlocks, if_pos hm]
  exact List.mem_map_of_mem hrep

/-- **Every step other than a request of the volume keeps what its mapping of a sector holds**:
it leaves the volume alone, and a request of another volume stores at none of its live blocks. -/
theorem Holds.otherStep {cl cl' : Cluster Blk} {v : ℕ} {vd : VirtualDiskRemote}
    {s : VolumeBlockAddr} {d : Blk} (hr : Reachable guardedEndpoint env cl) (h : Holds cl v vd s d)
    (hs : OtherStep env v cl cl') : Holds cl' v vd s d := by
  obtain ⟨hvd, hdur⟩ := h
  have hv : v < cl.vols.length := (List.getElem?_eq_some_iff.mp hvd).1
  cases hs with
  | registerServer _ => exact ⟨hvd, hdur⟩
  | createVolume _ => exact ⟨by rw [List.getElem?_append_left hv]; exact hvd, hdur⟩
  | @request u fuel vdu iod r w huv hn hvdu hp =>
    refine ⟨by rw [List.getElem?_set_ne huv]; exact hvd, fun hlt hm rep hrep => ?_⟩
    -- the replica is a live block of the `v`-th volume, so another volume's for the request
    have hf : Foreign cl.vols u rep.1 := ⟨v, .live, Ne.symm huv, by
      simpa [contents, VirtualDiskRemote.blocksAt, hvd] using mem_liveBlocks hlt hm hrep⟩
    obtain ⟨hu, hget⟩ := List.getElem?_eq_some_iff.mp hvdu
    have h₀ : WorldOwned cl.vols u [] ⟨cl.shared, vdu⟩ := by
      show Owned cl.shared.ctrl (cl.vols.set u vdu) []
      rw [← hget, List.set_getElem_self]
      exact reachable_owned env hr
    show w.store _ _ = d
    rw [processRequest_keepsForeign env hu fuel iod hn _ r w hp h₀ rep.1 hf]
    exact hdur hlt hm rep hrep

/-- What a volume's mapping of a sector holds stays along every run of other volumes' requests,
server registrations and volume creations, which stays reachable. -/
theorem Holds.otherRun {cl cl' : Cluster Blk} {v : ℕ} {vd : VirtualDiskRemote}
    {s : VolumeBlockAddr} {d : Blk} (hr : Reachable guardedEndpoint env cl) (h : Holds cl v vd s d)
    (hrun : Relation.ReflTransGen (OtherStep env v) cl cl') :
    Reachable guardedEndpoint env cl' ∧ Holds cl' v vd s d := by
  induction hrun with
  | refl => exact ⟨hr, h⟩
  | tail _ hs ih => exact ⟨.step ih.1 (hs.step env), ih.2.otherStep env ih.1 hs⟩

/-- **A volume reads back what it wrote, whatever the other volumes do.** In a cluster a run with
the guarded controller reaches, once the `v`-th volume's one-sector write of sector `s` returns,
any run of server registrations, volume creations and one-sector requests of other volumes
leaves the volume as the write left it, and a read of `s` by the volume that succeeds copies the
written block into its buffer. -/
theorem read_after_write_isolated {cl cl' : Cluster Blk} {v fuel s a : ℕ}
    {vd : VirtualDiskRemote} {r : Status ℤ} {w : World ControllerAgent Blk}
    (hr : Reachable guardedEndpoint env cl) (hvd : cl.vols[v]? = some vd)
    (hw : processRequest guardedEndpoint env fuel ⟨.kWrite, 1, s, a⟩ ⟨cl.shared, vd⟩ = some (r, w))
    (hrun : Relation.ReflTransGen (OtherStep env v) ⟨w.toShared, cl.vols.set v w.vd⟩ cl') :
    cl'.vols[v]? = some w.vd ∧
      ∀ fuel' b val (w' : World ControllerAgent Blk), b ≠ 0 →
        processRequest guardedEndpoint env fuel' ⟨.kRead, 1, s, b⟩ ⟨cl'.shared, w.vd⟩ =
          some (.ok val, w') →
        w'.mem b = cl.shared.mem a := by
  have hv : v < cl.vols.length := (List.getElem?_eq_some_iff.mp hvd).1
  have hr₁ : Reachable guardedEndpoint env ⟨w.toShared, cl.vols.set v w.vd⟩ :=
    .step hr (.request hvd hw)
  have hdur := (processRequest_write_spec guardedEndpoint env fuel rfl rfl hw).durable
  have h₁ : Holds ⟨w.toShared, cl.vols.set v w.vd⟩ v w.vd s (cl.shared.mem a) :=
    ⟨List.getElem?_set_self hv, fun _ _ rep hrep => hdur rep hrep⟩
  obtain ⟨-, hvd', hheld⟩ := Holds.otherRun env hr₁ h₁ hrun
  refine ⟨hvd', fun fuel' b val w' hb hread => ?_⟩
  obtain ⟨hlt, hm⟩ := processRequest_read_mapped guardedEndpoint env rfl hread
  obtain ⟨rep, hrep, hmem⟩ :=
    (processRequest_read_spec guardedEndpoint env fuel' rfl rfl hread).fills val rfl hb
  rw [hmem]
  exact hheld hlt hm rep hrep

/-- A server is registered, a volume with affinity to it is created, and it writes sector `0`
from address `64`; nothing runs after the write. -/
theorem read_after_write_isolated_one_volume :
    ∃ (cl : Cluster ℕ) (vd : VirtualDiskRemote) (r : Status ℤ) (w : World ControllerAgent ℕ),
      Reachable guardedEndpoint successEnv cl ∧ cl.vols[0]? = some vd ∧
      processRequest guardedEndpoint successEnv 2 ⟨.kWrite, 1, 0, 64⟩ ⟨cl.shared, vd⟩ =
        some (r, w) ∧
      (cl.vols.set 0 w.vd)[0]? = some w.vd ∧
      ∀ fuel' b val (w' : World ControllerAgent ℕ), b ≠ 0 →
        processRequest guardedEndpoint successEnv fuel' ⟨.kRead, 1, 0, b⟩ ⟨w.toShared, w.vd⟩ =
          some (.ok val, w') →
        w'.mem b = cl.shared.mem 64 := by
  have h : (((ControllerAgent.init .kNoOp 0).registerServer 1).bind fun x =>
      (VirtualDiskRemote.create guardedEndpoint
        ⟨.kWeightedReadWrite, DataPlane.ServerStatsManager.init fun _ => .kMix⟩ x.2.servers 1 1 4 1 1
        x.2).bind fun y =>
        (processRequest guardedEndpoint successEnv 2 ⟨.kWrite, 1, 0, 64⟩
          ⟨⟨y.2, fun _ _ => (0 : ℕ), fun _ => 5, 0, 0⟩, y.1⟩).map Prod.fst) = some (.ok 4096) := by
    decide +kernel
  -- name the controller after the registration, the volume, and the world after the write
  obtain ⟨⟨res, ctrl₁⟩, h₁, h⟩ := Option.bind_eq_some_iff.mp h
  obtain ⟨⟨vd, ctrl₂⟩, h₂, h⟩ := Option.bind_eq_some_iff.mp h
  obtain ⟨⟨r, w⟩, h₃, -⟩ := Option.map_eq_some_iff.mp h
  have hr : Reachable guardedEndpoint successEnv
      (⟨⟨ctrl₂, fun _ _ => 0, fun _ => 5, 0, 0⟩, [vd]⟩ : Cluster ℕ) :=
    .step (.step (.init .kNoOp 0 (fun _ _ => 0) (fun _ => 5) 0 0) (.registerServer h₁))
      (.createVolume h₂)
  have hvd : [vd][0]? = some vd := rfl
  exact ⟨_, vd, r, w, hr, hvd, h₃, read_after_write_isolated successEnv hr hvd h₃ .refl⟩

end Cluster

end Sandook.VirtualDisk
