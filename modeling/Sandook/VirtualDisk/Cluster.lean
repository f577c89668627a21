import Sandook.Controller.ControllerAgent
import Sandook.VirtualDisk.Remote

/-!
# Volumes sharing one controller (`virtual_disk/virtual_disk_remote.{h,cc}`)

The system the block-exclusivity and read-your-writes properties are about: a `ControllerAgent`,
the disk servers' blocks, and any number of volumes, each a `VirtualDiskRemote`, created at any
time and given requests one after the other.

* A volume reaches the controller through `controllerEndpoint`: `AllocateBlocks(server_id)`
  sent as a message, and the batch of the reply, or no block if the reply is an error.
* A volume is created as its constructor does it (`VirtualDiskRemote.create`): its servers are
  those the controller has registered (`RegisterVolume`'s reply); for each, or for the affinity
  server alone when one is set, it makes a cache and `reserve`s
  `RuntimeMaxCores() * kPerCoreCachedBlocks` blocks in it, each `reserve` loop given `fuel` calls
  to the controller. Its data-plane scheduler is given:
  which policy it runs and what statistics it has pulled are left open, as are its volume id,
  affinity and size.
* A step registers a disk server, creates a volume, or runs one `ProcessRequest` on a volume
  (`Step`); `Reachable` is any run of steps from a fresh controller and no volume.
* `guardedEndpoint` is the controller of the runs in which no `AllocateBlocks` takes a server's
  counter to `2^64`: such a call does not return. Every step with it is a step with
  `controllerEndpoint` (`guardedEndpoint_some`), and the two agree on every call that does not
  wrap (`guardedEndpoint_of_lt`).
-/

namespace Sandook.VirtualDisk

open Sandook.Controller Sandook.Lib

/-! ## The controller as the volumes reach it -/

/-- `VirtualDiskRemote::AllocateBlocks(server_id)` answered by a `ControllerAgent`: the batch of
the reply, or no block if `HandleAllocateBlocksReply` finds an error. -/
def controllerEndpoint : Endpoint ControllerAgent := fun c serverId =>
  (c.allocateBlocks serverId).map fun
    | (.ok blocks, c) => (blocks, c)
    | (.error _, c) => ([], c)

/-- The controller of the runs in which no `AllocateBlocks` takes a server's counter to
`2^64`: a call that would does not return. -/
def guardedEndpoint : Endpoint ControllerAgent := fun c serverId =>
  if (c.blkAlloc serverId).nextAllocation + kAllocationBatch < 2 ^ 64 then
    controllerEndpoint c serverId
  else none

/-- A call the guarded controller answers is answered so by the controller. -/
theorem guardedEndpoint_some {c c' : ControllerAgent} {serverId : ServerID}
    {blocks : List ServerBlockInfo} (h : guardedEndpoint c serverId = some (blocks, c')) :
    controllerEndpoint c serverId = some (blocks, c') := by
  unfold guardedEndpoint at h
  split_ifs at h
  exact h

/-- On a call that does not wrap the counter, the two controllers agree. -/
theorem guardedEndpoint_of_lt {c : ControllerAgent} {serverId : ServerID}
    (h : (c.blkAlloc serverId).nextAllocation + kAllocationBatch < 2 ^ 64) :
    guardedEndpoint c serverId = controllerEndpoint c serverId := by
  rw [guardedEndpoint, if_pos h]

/-- The controller answers only for ids within its arrays. -/
theorem lt_of_controllerEndpoint {c c' : ControllerAgent} {serverId : ServerID}
    {blocks : List ServerBlockInfo} (h : controllerEndpoint c serverId = some (blocks, c')) :
    serverId < kNumMaxServers := by
  by_contra hlt
  simp [controllerEndpoint, ControllerAgent.allocateBlocks, BlockAllocator.allocateBlocks,
    arrayAt?, hlt] at h

/-- What the controller answers for a server within the arrays: its next batch. -/
theorem controllerEndpoint_eq (c : ControllerAgent) {serverId : ServerID}
    (h : serverId < kNumMaxServers) :
    let a := c.blkAlloc serverId
    controllerEndpoint c serverId =
      some ((List.range kAllocationBatch).map fun i => ⟨serverId, (a.nextAllocation + i) % 2 ^ 64⟩,
        { c with
          blkAlloc := (Function.update c.blkAlloc serverId
            { a with nextAllocation := (a.nextAllocation + kAllocationBatch) % 2 ^ 64 }) }) := by
  rw [controllerEndpoint, ControllerAgent.allocateBlocks_eq c h]
  rfl

/-! ## Creating a volume -/

section Create

variable {σ : Type} (alloc : Endpoint σ)

/-- The constructor's loop over `servers_`: for each server (the affinity server only, when
one is set) `blk_caches_.at(server_id)` gets a new cache, which `reserve`s
`maxCores * kPerCoreCachedBlocks` blocks from the controller in at most `fuel` calls. -/
def createCaches (affinity maxCores fuel : ℕ) :
    List ServerID → (ℕ → Option (CoreLocalCache ServerBlockInfo)) → σ →
      Option ((ℕ → Option (CoreLocalCache ServerBlockInfo)) × σ)
  | [], caches, ctrl => some (caches, ctrl)
  | serverId :: rest, caches, ctrl =>
    if affinity ≠ kInvalidServerID ∧ serverId ≠ affinity then
      createCaches affinity maxCores fuel rest caches ctrl
    else if serverId < kNumMaxServers then
      ((CoreLocalCache.init kPerCoreCachedBlocks).reserve (fun c => alloc c serverId)
          (maxCores * kPerCoreCachedBlocks) fuel ctrl).bind fun r =>
        createCaches affinity maxCores fuel rest (Function.update caches serverId (some r.1)) r.2
    else none

/-- `VirtualDiskRemote(n_sectors)`, once registered: the given scheduler, servers, affinity and
id, a resolver of `nsectors` unmapped sectors, and the caches. -/
def VirtualDiskRemote.create (sched : DataPlane.Scheduler) (servers : List ServerID)
    (affinity volId nsectors maxCores fuel : ℕ) (ctrl : σ) : Option (VirtualDiskRemote × σ) :=
  (createCaches alloc affinity maxCores fuel servers (fun _ => none) ctrl).map fun r =>
    (⟨sched, servers, affinity, volId, BlockResolver.init nsectors, r.1⟩, r.2)

end Create

/-! ## Runs -/

/-- A cluster: what its volumes share, and the volumes created so far. -/
structure Cluster (Blk : Type) where
  shared : Shared ControllerAgent Blk
  vols : List VirtualDiskRemote

variable {Blk : Type} (alloc : Endpoint ControllerAgent) (env : Env)

/-- One step of a cluster: a disk server registers, a volume is created, or a volume runs one
`ProcessRequest`. -/
inductive Step : Cluster Blk → Cluster Blk → Prop where
  | registerServer {cl : Cluster Blk} {nSectors : ℕ} {r : Status ServerID}
      {ctrl : ControllerAgent} :
      cl.shared.ctrl.registerServer nSectors = some (r, ctrl) →
        Step cl ⟨{ cl.shared with ctrl := ctrl }, cl.vols⟩
  | createVolume {cl : Cluster Blk} {sched : DataPlane.Scheduler}
      {affinity volId nsectors maxCores fuel : ℕ} {vd : VirtualDiskRemote} {ctrl : ControllerAgent} :
      VirtualDiskRemote.create alloc sched cl.shared.ctrl.servers affinity volId nsectors maxCores
          fuel cl.shared.ctrl = some (vd, ctrl) →
        Step cl ⟨{ cl.shared with ctrl := ctrl }, cl.vols ++ [vd]⟩
  | request {cl : Cluster Blk} {v fuel : ℕ} {vd : VirtualDiskRemote} {iod : IODesc}
      {r : Status ℤ} {w : World ControllerAgent Blk} :
      cl.vols[v]? = some vd → processRequest alloc env fuel iod ⟨cl.shared, vd⟩ = some (r, w) →
        Step cl ⟨w.toShared, cl.vols.set v w.vd⟩

/-- The clusters a run reaches from a new controller and no volume. -/
inductive Reachable : Cluster Blk → Prop where
  | init (schedType : ControlPlane.ControlPlaneSchedulerType) (now : UInt64)
      (store : ServerID → ServerBlockAddr → Blk) (mem : ℕ → Blk) (pos tick : ℕ) :
      Reachable ⟨⟨ControllerAgent.init schedType now, store, mem, pos, tick⟩, []⟩
  | step {cl cl' : Cluster Blk} : Reachable cl → Step alloc env cl cl' → Reachable cl'

end Sandook.VirtualDisk
