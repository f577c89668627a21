import Sandook.Base.CoreLocalCache
import Sandook.DataPlane.Scheduler
import Sandook.VirtualDisk.BlockResolver
import Sandook.VirtualDisk.Base

/-!
# The remote virtual disk (`virtual_disk/virtual_disk_remote.{h,cc}`)

Model of `VirtualDiskRemote`: how a volume turns one request into storage ops on the disk
servers, through its data-plane scheduler, its per-server block caches and its block resolver,
and how it handles their replies.

The world a request runs in:
* `VirtualDiskRemote` is the volume's own state; `Shared` is what the volumes of a cluster
  share: the controller (of any type `σ`, reached through an `Endpoint`), the disk servers'
  blocks, the client's memory, and the positions in the oracles.
* Client memory is taken a block at a time: `mem a` is the block at address `a`. Every copy on
  these paths moves whole blocks to or from addresses `addr + kDeviceAlignment * j`.
* A disk server is a `MemServer`: a store of blocks. What it does with a storage op is the
  oracle's `StorageOutcome`: a reply with a code, the op applied iff the code is a success
  (`DiskConnHandler` decides from the server's mode and congestion, which the client does not
  see), or a failed handler and an empty reply. The servers' capacity is not modelled.
* `Env` holds the oracles: the draws of the random policies, the storage outcomes, the core each
  cache access runs on, the clock, and the statistics the updater thread pulls while a request
  sleeps. Its streams are read at `tick`, which every event advances. It also bounds the calls
  to the controller a cache's `reserve` loop makes within one access.
* Threads: the `kNumReplicas` write threads of a request run one after the other, in index
  order, each to its end (its retry included); the statistics updater runs at the request's
  sleeps; the garbage collector is disabled (`kGarbageCollectionIntervalUs = 0`).
* `none` is a call that never returns: an exception, undefined behaviour (`.at` or an array
  access out of range, a null `RPCClient` or cache), or a retry loop that outlasts the fuel.
* `num_sectors << kSectorShift` is taken modulo `2^32`, the width of `num_sectors`. The sums
  `start_sector + j` are not: a request that reaches past `2^64` has reached a sector past
  `nsectors` first, where the model stops. Nor are the buffer addresses
  `addr + kDeviceAlignment * j`, pointers into the client's buffer, whose wrap is undefined.

Results:
* `selectWriteReplicas_ok`, `getBlocks_ok`: a write's replica list always has
  `kNumReplicas` entries.
* The frame lemmas: which parts of the world each step changes.
* `readLoop_cons_cases`, `writeReplica_cases`: the ways out of a round of the read loop and of a
  write thread.
* `RequestInvariant.processRequest`: a property of the world that survives a change of the
  scheduler's statistics, the oracle positions and the client's memory, that every storage op
  keeps and that installing the replica list `GetBlocks` has taken keeps, is kept by every
  request (the rule `Exclusivity` and `OnServers` instantiate).
-/

namespace Sandook.VirtualDisk

open Sandook.DataPlane Sandook.Lib

/-! ## Block stores -/

/-- `f` with `xs` written at `start`, `start + stride`, `start + 2 * stride`, …, in order: a copy
of consecutive blocks into a server's blocks or the client's memory, a later block overwriting an
earlier one at the same address. -/
def scatter {α : Type} (f : ℕ → α) (start stride : ℕ) : List α → ℕ → α
  | [] => f
  | x :: xs => scatter (Function.update f start x) (start + stride) stride xs

@[simp]
theorem scatter_singleton {α : Type} (f : ℕ → α) (start stride : ℕ) (x : α) :
    scatter f start stride [x] = Function.update f start x := rfl

/-! ## Disk servers -/

/-- What a disk server does with one storage op. -/
inductive StorageOutcome where
  /-- A reply with this code; the op is applied iff the code is a success. -/
  | reply (code : StorageOpReplyCode)
  /-- The server's handler fails and the reply buffer is empty. -/
  | empty
  deriving DecidableEq, Repr

/-- `StorageOpReplyMsg` with its payload: the echoed descriptor, the code, the result, and the
blocks a read returns. -/
structure StorageOpReply (Blk : Type) where
  iod : IODesc
  code : StorageOpReplyCode
  res : ℤ
  payload : List Blk

/-- `code == kSuccess || code == kSuccessCongested`. -/
def isSuccess (code : StorageOpReplyCode) : Bool :=
  code == .kSuccess || code == .kSuccessCongested

/-! ## The world -/

/-- The oracles a request reads. -/
structure Env where
  draws : Draws
  outcome : ℕ → StorageOutcome
  cpu : ℕ → ℕ
  now : ℕ → UInt64
  /-- The statistics `ServerStatsUpdater` installs during a sleep, if it runs. -/
  pull : ℕ → Option ServerStatsList
  /-- The fuel of a cache access's `reserve` loop: the calls to the controller it may make. -/
  reserveFuel : ℕ

/-- Oracles under which every server applies every storage op, and a cache's refill may call the
controller once. -/
def successEnv : Env :=
  ⟨fun _ k => ⟨0, Nat.succ_pos k⟩, fun _ => .reply .kSuccess, fun _ => 0, fun _ => 0, fun _ => none,
    1⟩

/-- The controller as a volume reaches it: the reply to `AllocateBlocks(server_id)`, the
controller's next state, or `none` if the call never returns. -/
abbrev Endpoint (σ : Type) := σ → ServerID → Option (List ServerBlockInfo × σ)

/-- The state of `VirtualDiskRemote`. -/
structure VirtualDiskRemote where
  sched : Scheduler
  /-- The keys of `servers_`: the servers with an RPC client. -/
  servers : List ServerID
  affinity : ServerID
  volId : VolumeID
  blkRes : BlockResolver
  /-- `blk_caches_`; `none` is a null pointer. -/
  blkCaches : ℕ → Option (CoreLocalCache ServerBlockInfo)

/-- What the volumes of a cluster share. -/
structure Shared (σ Blk : Type) where
  ctrl : σ
  /-- The disk servers' blocks. -/
  store : ServerID → ServerBlockAddr → Blk
  /-- The client's memory, a block per address. -/
  mem : ℕ → Blk
  /-- The position in `Env.draws`. -/
  pos : ℕ
  /-- The position in the other streams of `Env`. -/
  tick : ℕ

/-- One volume and what it shares with the others. -/
structure World (σ Blk : Type) extends Shared σ Blk where
  vd : VirtualDiskRemote

/-- `kPerCoreCachedBlocks`. -/
def kPerCoreCachedBlocks : ℕ := kAllocationBatch

variable {σ Blk : Type} (alloc : Endpoint σ) (env : Env)

/-! ## Steps of a request -/

/-- `rt::Sleep(kServerStatsPullIntervalUs)`: the statistics updater may pull and install new
statistics (`SetServerStats`, whose result the updater ignores). -/
def sleep (w : World σ Blk) : Option (World σ Blk) :=
  let w' := { w with tick := w.tick + 1 }
  match env.pull w.tick with
  | none => some w'
  | some stats =>
    (w.vd.sched.statsMgr.setServerStats stats).map fun m =>
      { w' with vd := { w.vd with sched := { w.vd.sched with statsMgr := m } } }

/-- `if (server_id != affinity_) sched_->SignalCongested(server_id)`. -/
def signalCongested (w : World σ Blk) (serverId : ServerID) : Option (World σ Blk) :=
  if serverId ≠ w.vd.affinity then
    (w.vd.sched.statsMgr.signalCongested serverId (env.now w.tick)).map fun m =>
      { w with vd := { w.vd with sched := { w.vd.sched with statsMgr := m } } }
  else some w

/-- `ProcessStorageOp` and the server's side of it: server `serverId` handles `iod` as the
oracle says and replies (`RPCClient::Call` itself cannot fail). A write's payload is read from
the client's memory at `iod.addr`; a read's is the server's blocks from `iod.start_sector`. -/
def processStorageOp (w : World σ Blk) (serverId : ServerID) (iod : IODesc) :
    Option (StorageOpReply Blk) × World σ Blk :=
  let w' := { w with tick := w.tick + 1 }
  let blocks := sectorBytes iod.numSectors / kDeviceAlignment
  match env.outcome w.tick with
  | .empty => (none, w')
  | .reply code =>
    if isSuccess code then
      match iod.op with
      | .kWrite =>
        let payload := (List.range blocks).map fun j => w.mem (iod.addr + kDeviceAlignment * j)
        (some ⟨iod, code, toInt32 (sectorBytes iod.numSectors), []⟩,
          { w' with store := Function.update w.store serverId
                      (scatter (w.store serverId) iod.startSector 1 payload) })
      | _ =>
        (some ⟨iod, code, toInt32 (sectorBytes iod.numSectors),
          (List.range blocks).map fun j => w.store serverId (iod.startSector + j)⟩, w')
    else (some ⟨iod, code, 0, []⟩, w')

/-- `HandleStorageOpReply(payload, server_id)`: an empty reply is `EINVAL`; a read's success
copies the payload to the echoed buffer; a code the op does not expect throws (`none`). -/
def handleStorageOpReply (w : World σ Blk) :
    Option (StorageOpReply Blk) → ServerID → Option (Status ℤ × World σ Blk)
  | none, _ => some (.error EINVAL, w)
  | some msg, serverId =>
    (if msg.code = .kSuccessCongested then signalCongested env w serverId else some w).bind
      fun w =>
        match msg.iod.op with
        | .kRead =>
          if isSuccess msg.code then
            let len := sectorBytes msg.iod.numSectors
            some (.ok msg.res,
              if 0 < len ∧ msg.iod.addr ≠ 0 then
                { w with mem := scatter w.mem msg.iod.addr kDeviceAlignment msg.payload }
              else w)
          else if msg.code = .kRejectDeviceBusy then
            (signalCongested env w serverId).map fun w => (.error EBUSY, w)
          else if msg.code = .kFailure then some (.error EINVAL, w)
          else none
        | .kWrite =>
          if isSuccess msg.code then some (.ok msg.res, w)
          else if msg.code = .kRejectDeviceBusy then
            (signalCongested env w serverId).map fun w => (.error EBUSY, w)
          else if msg.code = .kRejectModeMismatch then some (.error EROFS, w)
          else if msg.code = .kFailure then some (.error EINVAL, w)
          else none
        | _ => none

/-- `blk_caches_.at(server_id)->get()`, on the core the oracle names; the cache's `new_fn` is
`AllocateBlocks(server_id)`, a call to the controller. -/
def getBlock (w : World σ Blk) (serverId : ServerID) : Option (ServerBlockInfo × World σ Blk) :=
  (arrayAt? w.vd.blkCaches serverId).bind fun cache? => cache?.bind fun cache =>
    (cache.getFrom (fun ctrl => alloc ctrl serverId) (env.cpu w.tick) env.reserveFuel
        w.ctrl).map fun r =>
      let blkCaches := Function.update w.vd.blkCaches serverId (some r.2.1)
      (r.1, { w with ctrl := r.2.2, tick := w.tick + 1, vd := { w.vd with blkCaches } })

/-- One block from each listed server's cache, in order. -/
def getBlocksFrom : List ServerID → World σ Blk → Option (List ServerBlockInfo × World σ Blk)
  | [], w => some ([], w)
  | s :: ss, w =>
    (getBlock alloc env w s).bind fun r =>
      (getBlocksFrom ss r.2).map fun r' => (r.1 :: r'.1, r'.2)

/-- A value-initialised `ServerReplicaBlockInfoList` with `l` at its front. -/
def padReplicas (l : ServerReplicaBlockInfoList) : ServerReplicaBlockInfoList :=
  l ++ List.replicate (kNumReplicas - l.length) (⟨0, 0⟩, false)

/-- `GetBlocksWithAffinity(iod, set_dirty)`: every replica from the affinity server. -/
def getBlocksWithAffinity (w : World σ Blk) (setDirty : Bool) :
    Option (Status ServerReplicaBlockInfoList × World σ Blk) :=
  (getBlocksFrom alloc env (List.replicate kNumReplicas w.vd.affinity) w).map fun r =>
    (.ok (r.1.map fun b => (b, setDirty)), r.2)

/-- `GetBlocks(iod, set_dirty)`: a block from the cache of each server `SelectWriteReplicas`
picks; `blks.at(i++)` throws past `kNumReplicas` servers. -/
def getBlocks (w : World σ Blk) (iod : IODesc) (setDirty : Bool) :
    Option (Status ServerReplicaBlockInfoList × World σ Blk) :=
  if w.vd.affinity ≠ kInvalidServerID then getBlocksWithAffinity alloc env w setDirty
  else
    (w.vd.sched.selectWriteReplicas env.draws w.pos w.vd.volId iod).bind fun r =>
      let w := { w with pos := r.2 }
      match r.1 with
      | .error e => some (.error e, w)
      | .ok servers =>
        if servers.length ≤ kNumReplicas then
          (getBlocksFrom alloc env servers w).map fun r =>
            (.ok (padReplicas (r.1.map fun b => (b, setDirty))), r.2)
        else none

/-- The servers of a replica list, as `ServerSet server_ids{...}`: the loop only asks whether
the set is empty, draws from it and erases from it, so a list that may repeat an id stands for
it. -/
def serverIdsOf (servers : ServerReplicaBlockInfoList) : List ServerID :=
  servers.map fun b => b.1.serverId

/-- The loops of `ProcessReadOp`: the inner one tries the servers left in `serverIds`, the outer
one sleeps and starts over from all the replicas. `retry` is `ProcessRequest`, called when the
scheduler finds no server. -/
def readLoop (retry : IODesc → World σ Blk → Option (Status ℤ × World σ Blk))
    (servers : ServerReplicaBlockInfoList) (vdiskStartSector : VolumeBlockAddr) :
    ℕ → List ServerID → IODesc → World σ Blk → Option (Status ℤ × World σ Blk)
  | 0, _, _, _ => none
  | fuel + 1, [], iod, w =>
    (sleep env w).bind fun w =>
      readLoop retry servers vdiskStartSector fuel (serverIdsOf servers) iod w
  | fuel + 1, s :: ss, iod, w =>
    let iod := { iod with startSector := vdiskStartSector }
    (w.vd.sched.selectReadServer env.draws w.pos (s :: ss)).bind fun r =>
      let w := { w with pos := r.2 }
      match r.1 with
      | .error _ => (sleep env w).bind (retry iod)
      | .ok serverId =>
        if serverId ∈ w.vd.servers then
          (servers.find? fun b => b.1.serverId == serverId).bind fun blkInfo =>
            let iod := { iod with startSector := blkInfo.1.blockAddr }
            let p := processStorageOp env w serverId iod
            (handleStorageOpReply env p.2 p.1 serverId).bind fun
              | (.ok res, w) => some (.ok res, w)
              | (.error _, w) =>
                readLoop retry servers vdiskStartSector fuel
                  ((s :: ss).filter fun i => i ≠ serverId) iod w
        else none

/-- `ProcessReadOp(servers, iod, req_id)`. -/
def processReadOp (retry : IODesc → World σ Blk → Option (Status ℤ × World σ Blk)) (fuel : ℕ)
    (servers : ServerReplicaBlockInfoList) (iod : IODesc) (w : World σ Blk) :
    Option (Status ℤ × World σ Blk) :=
  readLoop env retry servers iod.startSector fuel (serverIdsOf servers) iod w

/-- The thread of replica `srvInfo` in `ProcessWriteOp`, given the shared `is_retrying` flag:
the first thread to fail sets it and retries the whole write with `retry` (`ProcessRequest`),
ignoring what the retry returns. -/
def writeReplica (retry : IODesc → World σ Blk → Option (Status ℤ × World σ Blk))
    (iod : IODesc) (srvInfo : ServerBlockInfo) (isRetrying : Bool) (w : World σ Blk) :
    Option (Bool × World σ Blk) :=
  if srvInfo.serverId ∈ w.vd.servers then
    let p := processStorageOp env w srvInfo.serverId { iod with startSector := srvInfo.blockAddr }
    (handleStorageOpReply env p.2 p.1 srvInfo.serverId).bind fun
      | (.ok _, w) => some (isRetrying, w)
      | (.error _, w) =>
        if isRetrying then some (true, w)
        else (retry iod w).map fun r => (true, r.2)
  else none

/-- `ProcessWriteOp(servers, iod, req_id)`: one thread per replica, joined, then the number of
bytes whatever the threads did. -/
def processWriteOp (retry : IODesc → World σ Blk → Option (Status ℤ × World σ Blk))
    (servers : ServerReplicaBlockInfoList) (iod : IODesc) (w : World σ Blk) :
    Option (Status ℤ × World σ Blk) :=
  ((List.range kNumReplicas).foldlM
      (fun (acc : Bool × World σ Blk) i =>
        servers[i]?.bind fun srvInfo => writeReplica env retry iod srvInfo.1 acc.1 acc.2)
      (false, w)).map fun r =>
    (.ok (sectorResult iod.numSectors), r.2)

/-- The loop of the `kAllocate` case: for each sector, fresh blocks, installed clean. -/
def allocateSectors (iod : IODesc) :
    List VolumeBlockAddr → World σ Blk → Option (Status ℤ × World σ Blk)
  | [], w => some (.ok 0, w)
  | s :: ss, w =>
    (getBlocks alloc env w { iod with startSector := s } false).bind fun
      | (.error e, w) => some (.error e, w)
      | (.ok blks, w) =>
        (w.vd.blkRes.addMapping s blks).bind fun
          | (.error e, blkRes) => some (.error e, { w with vd := { w.vd with blkRes := blkRes } })
          | (.ok (), blkRes) =>
            allocateSectors iod ss { w with vd := { w.vd with blkRes := blkRes } }

/-- `ProcessRequest(iod)`, with `fuel` for its retries: a read is resolved and sent to a
replica; a write gets fresh blocks, installs them (dirty) and writes every replica; an
allocation installs fresh blocks (clean) for each of its sectors. -/
def processRequest : ℕ → IODesc → World σ Blk → Option (Status ℤ × World σ Blk)
  | 0, _, _ => none
  | fuel + 1, iod, w =>
    match iod.op with
    | .kRead =>
      (w.vd.blkRes.resolveBlock iod.startSector).bind fun
        | .error e => some (.error e, w)
        | .ok servers => processReadOp env (processRequest fuel) fuel servers iod w
    | .kWrite =>
      (getBlocks alloc env w iod true).bind fun
        | (.error e, w) => some (.error e, w)
        | (.ok blks, w) =>
          (w.vd.blkRes.addMapping iod.startSector blks).bind fun
            | (.error e, blkRes) =>
              some (.error e, { w with vd := { w.vd with blkRes := blkRes } })
            | (.ok (), blkRes) =>
              processWriteOp env (processRequest fuel) blks iod
                { w with vd := { w.vd with blkRes := blkRes } }
    | .kAllocate =>
      allocateSectors alloc env iod (List.range' iod.startSector iod.numSectors) w
    | _ => some (.error EINVAL, w)

/-! ## What each step changes -/

/-- Two worlds that differ at most in the scheduler's statistics, the oracle positions and the
client's memory. -/
structure Quiet (w w' : World σ Blk) : Prop where
  ctrl : w'.ctrl = w.ctrl
  store : w'.store = w.store
  servers : w'.vd.servers = w.vd.servers
  blkRes : w'.vd.blkRes = w.vd.blkRes
  blkCaches : w'.vd.blkCaches = w.vd.blkCaches

theorem Quiet.refl (w : World σ Blk) : Quiet w w := ⟨rfl, rfl, rfl, rfl, rfl⟩

theorem Quiet.trans {w₁ w₂ w₃ : World σ Blk} (h₁ : Quiet w₁ w₂) (h₂ : Quiet w₂ w₃) :
    Quiet w₁ w₃ :=
  ⟨h₂.ctrl.trans h₁.ctrl, h₂.store.trans h₁.store, h₂.servers.trans h₁.servers,
    h₂.blkRes.trans h₁.blkRes, h₂.blkCaches.trans h₁.blkCaches⟩

variable {w w' : World σ Blk}

theorem sleep_quiet (h : sleep env w = some w') : Quiet w w' ∧ w'.mem = w.mem := by
  unfold sleep at h
  split at h
  · cases h
    exact ⟨⟨rfl, rfl, rfl, rfl, rfl⟩, rfl⟩
  · obtain ⟨m, -, rfl⟩ := Option.map_eq_some_iff.mp h
    exact ⟨⟨rfl, rfl, rfl, rfl, rfl⟩, rfl⟩

theorem signalCongested_quiet {serverId : ServerID} (h : signalCongested env w serverId = some w') :
    Quiet w w' ∧ w'.mem = w.mem := by
  unfold signalCongested at h
  split_ifs at h
  · obtain ⟨m, -, rfl⟩ := Option.map_eq_some_iff.mp h
    exact ⟨⟨rfl, rfl, rfl, rfl, rfl⟩, rfl⟩
  · cases h
    exact ⟨Quiet.refl w, rfl⟩

/-- A reply leaves the controller, the servers, the block map and the caches alone; unless it is
a read's success, it leaves the client's memory alone too. -/
theorem handleStorageOpReply_quiet {reply : Option (StorageOpReply Blk)} {serverId : ServerID}
    {r : Status ℤ} (h : handleStorageOpReply env w reply serverId = some (r, w')) :
    Quiet w w' ∧
      (w'.mem = w.mem ∨ ∃ msg, reply = some msg ∧ msg.iod.op = .kRead ∧
        isSuccess msg.code = true ∧ r = .ok msg.res) := by
  cases reply with
  | none =>
    simp only [handleStorageOpReply, Option.some.injEq, Prod.mk.injEq] at h
    obtain ⟨-, rfl⟩ := h
    exact ⟨Quiet.refl w, .inl rfl⟩
  | some msg =>
    simp only [handleStorageOpReply] at h
    obtain ⟨w₁, h₁, h⟩ := Option.bind_eq_some_iff.mp h
    -- the congestion signal of a `kSuccessCongested` reply, then the op's own branch
    have q₁ : Quiet w w₁ ∧ w₁.mem = w.mem := by
      split_ifs at h₁
      · exact signalCongested_quiet env h₁
      · cases h₁
        exact ⟨Quiet.refl w, rfl⟩
    have hsig : ∀ {e : ℕ},
        (signalCongested env w₁ serverId).map (fun w => ((.error e : Status ℤ), w)) =
          some (r, w') → Quiet w w' ∧ w'.mem = w.mem := by
      intro e hm
      obtain ⟨w₃, h₃, he⟩ := Option.map_eq_some_iff.mp hm
      rw [Prod.mk.injEq] at he
      rw [← he.2]
      have q₃ := signalCongested_quiet env h₃
      exact ⟨q₁.1.trans q₃.1, q₃.2.trans q₁.2⟩
    have hsame : ∀ {e : ℕ}, some ((.error e : Status ℤ), w₁) = some (r, w') →
        Quiet w w' ∧ w'.mem = w.mem := by
      intro e he
      rw [Option.some.injEq, Prod.mk.injEq] at he
      rw [← he.2]
      exact q₁
    cases hop : msg.iod.op
    case kRead =>
      simp only [hop] at h
      by_cases hs : isSuccess msg.code = true
      · rw [if_pos hs, Option.some.injEq, Prod.mk.injEq] at h
        obtain ⟨rfl, rfl⟩ := h
        refine ⟨?_, .inr ⟨msg, rfl, hop, hs, rfl⟩⟩
        split_ifs
        · exact ⟨q₁.1.ctrl, q₁.1.store, q₁.1.servers, q₁.1.blkRes, q₁.1.blkCaches⟩
        · exact q₁.1
      · rw [if_neg hs] at h
        split_ifs at h
        · exact (hsig h).imp id .inl
        · exact (hsame h).imp id .inl
    case kWrite =>
      simp only [hop] at h
      split_ifs at h
      · rw [Option.some.injEq, Prod.mk.injEq] at h
        rw [← h.2]
        exact ⟨q₁.1, .inl q₁.2⟩
      · exact (hsig h).imp id .inl
      · exact (hsame h).imp id .inl
      · exact (hsame h).imp id .inl
    all_goals simp [hop] at h

/-- Only a success reply gives a success. -/
theorem isSuccess_of_handleStorageOpReply {reply : Option (StorageOpReply Blk)}
    {serverId : ServerID} {v : ℤ}
    (h : handleStorageOpReply env w reply serverId = some (.ok v, w')) :
    ∃ msg, reply = some msg ∧ isSuccess msg.code = true := by
  cases reply with
  | none => simp [handleStorageOpReply] at h
  | some msg =>
    refine ⟨msg, rfl, ?_⟩
    simp only [handleStorageOpReply] at h
    obtain ⟨w₁, -, h⟩ := Option.bind_eq_some_iff.mp h
    by_contra hs
    split at h <;> simp [hs] at h <;> split_ifs at h <;> simp_all

/-- What a server does with a storage op: the world moves one tick, and only a write's success
changes the server's blocks, storing the client's blocks from `iod.addr` at `iod.start_sector`;
the reply echoes the descriptor. -/
theorem processStorageOp_eq (w : World σ Blk) (serverId : ServerID) (iod : IODesc) :
    ∃ store, (processStorageOp env w serverId iod).2 =
        { w with tick := w.tick + 1, store := store } ∧
      (store = w.store ∨
        iod.op = .kWrite ∧ (∃ msg, (processStorageOp env w serverId iod).1 = some msg ∧
          isSuccess msg.code = true) ∧
        store = Function.update w.store serverId (scatter (w.store serverId) iod.startSector 1
          ((List.range (sectorBytes iod.numSectors / kDeviceAlignment)).map fun j =>
            w.mem (iod.addr + kDeviceAlignment * j)))) ∧
      ∀ msg, (processStorageOp env w serverId iod).1 = some msg → msg.iod = iod := by
  unfold processStorageOp
  split
  · exact ⟨w.store, rfl, .inl rfl, by simp⟩
  · split_ifs with hs
    · split
      · rename_i hop
        exact ⟨_, rfl, .inr ⟨hop, ⟨_, rfl, hs⟩, rfl⟩, by simp⟩
      · exact ⟨w.store, rfl, .inl rfl, by simp⟩
    · exact ⟨w.store, rfl, .inl rfl, by simp⟩

/-- A storage op leaves the controller and the volume alone. -/
theorem processStorageOp_ctrl_vd (w : World σ Blk) (serverId : ServerID) (iod : IODesc) :
    (processStorageOp env w serverId iod).2.ctrl = w.ctrl ∧
      (processStorageOp env w serverId iod).2.vd = w.vd := by
  obtain ⟨store, h, -⟩ := processStorageOp_eq env w serverId iod
  rw [h]
  exact ⟨rfl, rfl⟩

/-- A one-sector storage op moves one block. -/
theorem sectorBytes_one_div : sectorBytes 1 / kDeviceAlignment = 1 := by
  decide

/-- A successful one-sector write leaves the client's block at `iod.start_sector`. -/
theorem processStorageOp_write_one {serverId : ServerID} {iod : IODesc}
    (hop : iod.op = .kWrite) (hn : iod.numSectors = 1) {msg : StorageOpReply Blk}
    (hmsg : (processStorageOp env w serverId iod).1 = some msg) (hs : isSuccess msg.code = true) :
    (processStorageOp env w serverId iod).2.store serverId iod.startSector = w.mem iod.addr := by
  unfold processStorageOp at hmsg ⊢
  split at hmsg
  · cases hmsg
  · rename_i code _
    have hcode : isSuccess code = true := by
      split_ifs at hmsg
      · split at hmsg <;> (cases hmsg; exact hs)
      · cases hmsg
        exact hs
    simp only [hcode, if_true, hop, hn, sectorBytes_one_div]
    simp

/-! ## The read loop and the write threads, round by round -/

section Rounds

variable {retry : IODesc → World σ Blk → Option (Status ℤ × World σ Blk)}

/-- **One round of the read loop**, on servers left to try: the scheduler's pick moves the draw
position to `pos`. If it finds no server the request is retried after a sleep; otherwise the
server has a client and a replica, the replica's read is handled, and the loop ends on its
success or goes on without that server. -/
theorem readLoop_cons_cases {servers : ServerReplicaBlockInfoList} {start : VolumeBlockAddr}
    {fuel : ℕ} {s : ServerID} {ss : List ServerID} {iod : IODesc} {r : Status ℤ}
    (h : readLoop env retry servers start (fuel + 1) (s :: ss) iod w = some (r, w')) :
    ∃ pos, (∃ w₂, sleep env { w with pos := pos } = some w₂ ∧
        retry { iod with startSector := start } w₂ = some (r, w')) ∨
      ∃ serverId, serverId ∈ w.vd.servers ∧ ∃ blkInfo,
        servers.find? (fun b => b.1.serverId == serverId) = some blkInfo ∧ ∃ r₃ w₃,
          handleStorageOpReply env
            (processStorageOp env { w with pos := pos } serverId
              { iod with startSector := blkInfo.1.blockAddr }).2
            (processStorageOp env { w with pos := pos } serverId
              { iod with startSector := blkInfo.1.blockAddr }).1 serverId = some (r₃, w₃) ∧
          ((∃ v, r₃ = .ok v ∧ r = .ok v ∧ w' = w₃) ∨
            ∃ e, r₃ = .error e ∧ readLoop env retry servers start fuel
              ((s :: ss).filter fun i => i ≠ serverId)
              { iod with startSector := blkInfo.1.blockAddr } w₃ = some (r, w')) := by
  simp only [readLoop] at h
  obtain ⟨⟨sel, pos⟩, -, h⟩ := Option.bind_eq_some_iff.mp h
  refine ⟨pos, ?_⟩
  cases sel with
  | error e =>
    obtain ⟨w₂, h₂, h⟩ := Option.bind_eq_some_iff.mp h
    exact .inl ⟨w₂, h₂, h⟩
  | ok serverId =>
    simp only at h
    split_ifs at h with hsrv
    obtain ⟨blkInfo, hfind, h⟩ := Option.bind_eq_some_iff.mp h
    obtain ⟨⟨r₃, w₃⟩, h₃, h⟩ := Option.bind_eq_some_iff.mp h
    refine .inr ⟨serverId, hsrv, blkInfo, hfind, r₃, w₃, h₃, ?_⟩
    cases r₃ with
    | ok v =>
      simp only [Option.some.injEq, Prod.mk.injEq] at h
      exact .inl ⟨v, rfl, h.1.symm, h.2.symm⟩
    | error e => exact .inr ⟨e, rfl, h⟩

/-- **A write thread**: the server has a client, and the reply to its storage op is handled;
then the thread is done, on a success or when another thread already retries, or it retries the
whole write and keeps the retry's world. -/
theorem writeReplica_cases {iod : IODesc} {srvInfo : ServerBlockInfo} {isRetrying flag : Bool}
    (h : writeReplica env retry iod srvInfo isRetrying w = some (flag, w')) :
    srvInfo.serverId ∈ w.vd.servers ∧ ∃ r₂ w₂,
      handleStorageOpReply env
        (processStorageOp env w srvInfo.serverId { iod with startSector := srvInfo.blockAddr }).2
        (processStorageOp env w srvInfo.serverId { iod with startSector := srvInfo.blockAddr }).1
        srvInfo.serverId = some (r₂, w₂) ∧
      ((∃ v, r₂ = .ok v ∧ flag = isRetrying ∧ w' = w₂) ∨
        (∃ e, r₂ = .error e ∧ isRetrying = true ∧ flag = true ∧ w' = w₂) ∨
        ∃ e, r₂ = .error e ∧ isRetrying = false ∧ flag = true ∧
          ∃ r₃, retry iod w₂ = some (r₃, w')) := by
  have hsrv : srvInfo.serverId ∈ w.vd.servers := by
    by_contra hsrv
    simp [writeReplica, hsrv] at h
  simp only [writeReplica, if_pos hsrv] at h
  obtain ⟨⟨r₂, w₂⟩, h₂, h⟩ := Option.bind_eq_some_iff.mp h
  refine ⟨hsrv, r₂, w₂, h₂, ?_⟩
  cases r₂ with
  | ok v =>
    simp only [Option.some.injEq, Prod.mk.injEq] at h
    exact .inl ⟨v, rfl, h.1.symm, h.2.symm⟩
  | error e =>
    cases isRetrying with
    | true =>
      simp only [ite_true, Option.some.injEq, Prod.mk.injEq] at h
      exact .inr (.inl ⟨e, rfl, rfl, h.1.symm, h.2.symm⟩)
    | false =>
      simp only at h
      obtain ⟨⟨r₃, w₃⟩, h₃, h⟩ := Option.map_eq_some_iff.mp h
      simp only [Prod.mk.injEq] at h
      obtain ⟨rfl, rfl⟩ := h
      exact .inr (.inr ⟨e, rfl, rfl, rfl, r₃, h₃⟩)

end Rounds

/-! ## Block allocation -/

/-- `SelectWriteReplicas` always answers with `kNumReplicas` servers. -/
theorem selectWriteReplicas_ok {s : Scheduler} {draws : Draws} {pos pos' : ℕ} {volId : VolumeID}
    {iod : IODesc} {r : Status ServerReplicaList}
    (h : s.selectWriteReplicas draws pos volId iod = some (r, pos')) :
    ∃ servers, r = .ok servers ∧ servers.length = kNumReplicas := by
  unfold Scheduler.selectWriteReplicas at h
  obtain ⟨weights, -, h⟩ := Option.map_eq_some_iff.mp h
  rw [Prod.mk.injEq] at h
  exact ⟨_, h.1.symm, (writeSelect_paddedPick draws pos weights s.schedType volId iod).length_eq⟩

/-- Two worlds with the same servers' blocks, client memory and block map. -/
structure Keeps (w w' : World σ Blk) : Prop where
  store : w'.store = w.store
  mem : w'.mem = w.mem
  blkRes : w'.vd.blkRes = w.vd.blkRes

theorem Keeps.refl (w : World σ Blk) : Keeps w w := ⟨rfl, rfl, rfl⟩

theorem Keeps.trans {w₁ w₂ w₃ : World σ Blk} (h₁ : Keeps w₁ w₂) (h₂ : Keeps w₂ w₃) :
    Keeps w₁ w₃ :=
  ⟨h₂.store.trans h₁.store, h₂.mem.trans h₁.mem, h₂.blkRes.trans h₁.blkRes⟩

/-- What `getBlock` does when it returns: a `get` on the server's cache, which exists, and the
cache it leaves put back. -/
theorem getBlock_some {serverId : ServerID} {x : ServerBlockInfo}
    (h : getBlock alloc env w serverId = some (x, w')) :
    ∃ cache c' ctrl', w.vd.blkCaches serverId = some cache ∧
      cache.getFrom (fun ctrl => alloc ctrl serverId) (env.cpu w.tick) env.reserveFuel w.ctrl =
        some (x, c', ctrl') ∧
      w' = { w with ctrl := ctrl', tick := w.tick + 1,
                    vd := { w.vd with
                      blkCaches := Function.update w.vd.blkCaches serverId (some c') } } := by
  unfold getBlock at h
  obtain ⟨c?, hc?, h⟩ := Option.bind_eq_some_iff.mp h
  obtain ⟨cache, rfl, h⟩ := Option.bind_eq_some_iff.mp h
  obtain ⟨⟨x', c', ctrl'⟩, hget, h⟩ := Option.map_eq_some_iff.mp h
  rw [Prod.mk.injEq] at h
  obtain ⟨rfl, rfl⟩ := h
  have hc : w.vd.blkCaches serverId = some cache := by
    unfold arrayAt? at hc?
    split_ifs at hc?
    exact Option.some.inj hc?
  exact ⟨cache, c', ctrl', hc, hget, rfl⟩

theorem getBlock_keeps {serverId : ServerID} {x : ServerBlockInfo}
    (h : getBlock alloc env w serverId = some (x, w')) : Keeps w w' := by
  obtain ⟨-, -, -, -, -, rfl⟩ := getBlock_some alloc env h
  exact ⟨rfl, rfl, rfl⟩

theorem getBlocksFrom_keeps :
    ∀ {servers : List ServerID} {w w' : World σ Blk} {xs : List ServerBlockInfo},
      getBlocksFrom alloc env servers w = some (xs, w') → Keeps w w' ∧ xs.length = servers.length
  | [], w, w', xs, h => by
    simp only [getBlocksFrom, Option.some.injEq, Prod.mk.injEq] at h
    obtain ⟨rfl, rfl⟩ := h
    exact ⟨Keeps.refl w, rfl⟩
  | s :: ss, w, w', xs, h => by
    simp only [getBlocksFrom] at h
    obtain ⟨r, hr, h⟩ := Option.bind_eq_some_iff.mp h
    obtain ⟨r', hr', h⟩ := Option.map_eq_some_iff.mp h
    rw [Prod.mk.injEq] at h
    obtain ⟨rfl, rfl⟩ := h
    have k₁ := getBlock_keeps alloc env hr
    have k₂ := getBlocksFrom_keeps hr'
    exact ⟨k₁.trans k₂.1, by simp [k₂.2]⟩

/-- What `GetBlocks` does when it returns: after the scheduler's draws, a block from the cache of
each of `kNumReplicas` servers, in order, each marked `setDirty`. -/
theorem getBlocks_some {iod : IODesc} {setDirty : Bool} {r : Status ServerReplicaBlockInfoList}
    (h : getBlocks alloc env w iod setDirty = some (r, w')) :
    ∃ servers pos xs, servers.length = kNumReplicas ∧
      getBlocksFrom alloc env servers { w with pos := pos } = some (xs, w') ∧
      r = .ok (xs.map fun b => (b, setDirty)) := by
  unfold getBlocks at h
  split_ifs at h
  · unfold getBlocksWithAffinity at h
    obtain ⟨⟨xs, w₁⟩, h₁, h⟩ := Option.map_eq_some_iff.mp h
    rw [Prod.mk.injEq] at h
    obtain ⟨rfl, rfl⟩ := h
    exact ⟨_, w.pos, xs, List.length_replicate, h₁, rfl⟩
  · obtain ⟨p, hp, h⟩ := Option.bind_eq_some_iff.mp h
    obtain ⟨servers, hok, hlen⟩ := selectWriteReplicas_ok hp
    simp only [hok, hlen, le_refl, if_true] at h
    obtain ⟨⟨xs, w₁⟩, h₁, h⟩ := Option.map_eq_some_iff.mp h
    rw [Prod.mk.injEq] at h
    obtain ⟨rfl, rfl⟩ := h
    -- `SelectWriteReplicas` picked `kNumReplicas` servers: nothing is padded
    have hxs := (getBlocksFrom_keeps alloc env h₁).2
    refine ⟨servers, p.2, xs, hlen, h₁, ?_⟩
    simp [padReplicas, hxs, hlen]

/-- `GetBlocks` always succeeds when it returns: `kNumReplicas` entries marked `setDirty`, and
the servers, the memory and the block map untouched. -/
theorem getBlocks_ok {iod : IODesc} {setDirty : Bool} {r : Status ServerReplicaBlockInfoList}
    (h : getBlocks alloc env w iod setDirty = some (r, w')) :
    ∃ blks, r = .ok blks ∧ blks.length = kNumReplicas ∧ (∀ b ∈ blks, b.2 = setDirty) ∧
      Keeps w w' := by
  obtain ⟨servers, pos, xs, hlen, h₁, rfl⟩ := getBlocks_some alloc env h
  -- the scheduler's draws move `pos` only, which `Keeps` does not look at
  have k := getBlocksFrom_keeps alloc env h₁
  refine ⟨_, rfl, by simp [k.2, hlen], fun b hb => ?_, ⟨k.1.store, k.1.mem, k.1.blkRes⟩⟩
  obtain ⟨x, -, rfl⟩ := List.mem_map.mp hb
  rfl

/-! ## Invariants of a request -/

section Invariant

/-- `f` keeps `P`: every world it returns from a world where `P` holds has `P`. -/
def Preserves {α : Type} (P : World σ Blk → Prop) (f : World σ Blk → Option (α × World σ Blk)) :
    Prop :=
  ∀ w r w', f w = some (r, w') → P w → P w'

/-- What a property of the world needs so that every request keeps it: worlds that differ in
quiet parts only agree on it, a storage op keeps it, and so does installing the replica list
`GetBlocks` has just taken. -/
structure RequestInvariant (P : World σ Blk → Prop) : Prop where
  quiet : ∀ {w w' : World σ Blk}, Quiet w w' → P w → P w'
  storageOp : ∀ {w : World σ Blk} serverId iod, P w → P (processStorageOp env w serverId iod).2
  install : ∀ {w w₁ : World σ Blk} {iod : IODesc} {setDirty : Bool}
    {blks : ServerReplicaBlockInfoList} {s : VolumeBlockAddr} {res : BlockResolver}, P w →
    getBlocks alloc env w iod setDirty = some (.ok blks, w₁) →
    w₁.vd.blkRes.addMapping s blks = some (.ok (), res) →
    P { w₁ with vd := { w₁.vd with blkRes := res } }

variable {alloc env} {P : World σ Blk → Prop} (hP : RequestInvariant alloc env P)
  {retry : IODesc → World σ Blk → Option (Status ℤ × World σ Blk)}
include hP

/-- A storage op and the handling of its reply keep the invariant. -/
theorem RequestInvariant.exchange {w w' : World σ Blk} {serverId : ServerID} {iod : IODesc}
    {r : Status ℤ} (hw : P w)
    (h : handleStorageOpReply env (processStorageOp env w serverId iod).2
      (processStorageOp env w serverId iod).1 serverId = some (r, w')) : P w' :=
  hP.quiet (handleStorageOpReply_quiet env h).1 (hP.storageOp serverId iod hw)

/-- **The read loop** keeps the invariant, if its retry does. -/
theorem RequestInvariant.readLoop (hretry : ∀ iod, Preserves P (retry iod))
    (servers : ServerReplicaBlockInfoList) (start : VolumeBlockAddr) :
    ∀ fuel ids iod, Preserves P (readLoop env retry servers start fuel ids iod)
  | 0, _, _ => fun _ _ _ h => by simp [VirtualDisk.readLoop] at h
  | fuel + 1, [], iod => by
    intro w r w' h hw
    simp only [VirtualDisk.readLoop] at h
    obtain ⟨w₁, h₁, h⟩ := Option.bind_eq_some_iff.mp h
    exact RequestInvariant.readLoop hretry servers start fuel _ iod w₁ r w' h
      (hP.quiet (sleep_quiet env h₁).1 hw)
  | fuel + 1, s :: ss, iod => by
    intro w r w' h hw
    obtain ⟨pos, hround⟩ := readLoop_cons_cases env h
    have hw₁ : P { w with pos := pos } :=
      hP.quiet (show Quiet w { w with pos := pos } from ⟨rfl, rfl, rfl, rfl, rfl⟩) hw
    rcases hround with ⟨w₂, h₂, h⟩ | ⟨serverId, -, blkInfo, -, r₃, w₃, h₃, hnext⟩
    · exact hretry _ w₂ r w' h (hP.quiet (sleep_quiet env h₂).1 hw₁)
    · have hw₃ := hP.exchange hw₁ h₃
      rcases hnext with ⟨-, -, -, rfl⟩ | ⟨-, -, h⟩
      · exact hw₃
      · exact RequestInvariant.readLoop hretry servers start fuel _ _ w₃ r w' h hw₃

/-- A replica's write thread keeps the invariant, if the retry does. -/
theorem RequestInvariant.writeReplica (hretry : ∀ iod, Preserves P (retry iod)) (iod : IODesc)
    (srvInfo : ServerBlockInfo) (isRetrying : Bool) :
    Preserves P (writeReplica env retry iod srvInfo isRetrying) := by
  intro w r w' h hw
  obtain ⟨-, r₂, w₂, h₂, hdone⟩ := writeReplica_cases env h
  have hw₂ := hP.exchange hw h₂
  rcases hdone with ⟨-, -, -, rfl⟩ | ⟨-, -, -, -, rfl⟩ | ⟨-, -, -, -, r₃, h₃⟩
  · exact hw₂
  · exact hw₂
  · exact hretry iod w₂ r₃ w' h₃ hw₂

/-- `ProcessWriteOp` keeps the invariant, if the retry does, by the loop rule over its
threads. -/
theorem RequestInvariant.processWriteOp (hretry : ∀ iod, Preserves P (retry iod))
    (servers : ServerReplicaBlockInfoList) (iod : IODesc) :
    Preserves P (processWriteOp env retry servers iod) := by
  intro w r w' h hw
  unfold VirtualDisk.processWriteOp at h
  obtain ⟨acc, hfold, h⟩ := Option.map_eq_some_iff.mp h
  rw [Prod.mk.injEq] at h
  rw [← h.2]
  refine foldlM_range_invariant (fun _ acc => P acc.2) _ hw (fun i _ x y hx hy => ?_) hfold
  obtain ⟨rep, -, hy⟩ := Option.bind_eq_some_iff.mp hy
  exact hP.writeReplica hretry iod rep.1 x.1 x.2 y.1 y.2 hy hx

/-- The blocks `GetBlocks` takes, installed by `AddMapping`: whatever either returns, the
invariant holds after. -/
theorem RequestInvariant.getBlocks_addMapping {w w₁ : World σ Blk} {iod : IODesc}
    {setDirty : Bool} {r₁ : Status ServerReplicaBlockInfoList} (hw : P w)
    (h₁ : getBlocks alloc env w iod setDirty = some (r₁, w₁)) :
    ∃ blks, r₁ = .ok blks ∧ ∀ {s ret res}, w₁.vd.blkRes.addMapping s blks = some (ret, res) →
      ret = .ok () ∧ P { w₁ with vd := { w₁.vd with blkRes := res } } := by
  obtain ⟨blks, rfl, -, -, -⟩ := getBlocks_ok alloc env h₁
  refine ⟨blks, rfl, fun ha => ?_⟩
  obtain ⟨-, rfl, -⟩ := BlockResolver.addMapping_some ha
  exact ⟨rfl, hP.install hw h₁ ha⟩

/-- The allocation loop keeps the invariant: each sector's blocks are installed. -/
theorem RequestInvariant.allocateSectors (iod : IODesc) :
    ∀ ss, Preserves P (VirtualDisk.allocateSectors alloc env iod ss)
  | [] => fun w r w' h hw => by
    simp only [VirtualDisk.allocateSectors, Option.some.injEq, Prod.mk.injEq] at h
    rw [← h.2]
    exact hw
  | s :: ss => by
    intro w r w' h hw
    simp only [VirtualDisk.allocateSectors] at h
    obtain ⟨⟨r₁, w₁⟩, h₁, h⟩ := Option.bind_eq_some_iff.mp h
    obtain ⟨blks, rfl, hins⟩ := hP.getBlocks_addMapping hw h₁
    obtain ⟨⟨ret, res⟩, ha, h⟩ := Option.bind_eq_some_iff.mp h
    obtain ⟨rfl, hw₂⟩ := hins ha
    exact RequestInvariant.allocateSectors iod ss _ r w' h hw₂

/-- **Every request keeps the invariant**, by induction on the fuel of its retries. -/
theorem RequestInvariant.processRequest :
    ∀ fuel iod, Preserves P (VirtualDisk.processRequest alloc env fuel iod)
  | 0, _ => fun _ _ _ h => by simp [VirtualDisk.processRequest] at h
  | fuel + 1, iod => by
    intro w r w' h hw
    have hretry := RequestInvariant.processRequest fuel
    cases hop : iod.op
    case kRead =>
      simp only [VirtualDisk.processRequest, hop] at h
      obtain ⟨res, -, h⟩ := Option.bind_eq_some_iff.mp h
      cases res with
      | error e =>
        simp only [Option.some.injEq, Prod.mk.injEq] at h
        rw [← h.2]
        exact hw
      | ok servers => exact hP.readLoop hretry servers _ fuel _ iod w r w' h hw
    case kWrite =>
      simp only [VirtualDisk.processRequest, hop] at h
      obtain ⟨⟨r₁, w₁⟩, h₁, h⟩ := Option.bind_eq_some_iff.mp h
      obtain ⟨blks, rfl, hins⟩ := hP.getBlocks_addMapping hw h₁
      obtain ⟨⟨ret, res⟩, ha, h⟩ := Option.bind_eq_some_iff.mp h
      obtain ⟨rfl, hw₂⟩ := hins ha
      exact hP.processWriteOp hretry blks iod _ r w' h hw₂
    case kAllocate =>
      simp only [VirtualDisk.processRequest, hop] at h
      exact hP.allocateSectors iod _ w r w' h hw
    all_goals
      simp only [VirtualDisk.processRequest, hop, Option.some.injEq, Prod.mk.injEq] at h
      rw [← h.2]
      exact hw

end Invariant

end Sandook.VirtualDisk
