import Sandook.VirtualDisk.Write

/-!
# Reading a sector back (`ProcessReadOp`, and `Allocate` over a written sector)

A one-sector read resolves the sector's mapping once and tries its replicas until one answers
with a success; when the scheduler finds no server it sleeps and starts the request over. None
of that changes the servers' blocks, the block map, the caches or the controller, and a success
copies one replica's block into the client's buffer. With what a write request guarantees
(`processRequest_write_spec`) this gives read-your-writes for a write followed by a read of its
sector.

`Allocate` does not keep it. The `kAllocate` case of `ProcessRequest` takes fresh blocks and
installs them for every sector it is given, whether or not the sector is mapped already
(`AddMapping` discards the old blocks). A sector written and then allocated reads back as a
fresh block. `VirtualDiskLocal`, the other implementation of `ProcessRequest`, does nothing on
`kAllocate`.

Results:
* `processRequest_read_spec`: what a one-sector read request guarantees, by induction on the
  fuel, the retry being a request with less.
* `processRequest_read_after_write`: a one-sector read of a sector just written returns the
  written block.
* `allocate_after_write_reads_fresh`: `Write`, `Allocate` and `Read` of sector `0`, through
  `VirtualDiskBase`, read back the fresh block instead of the written one.
-/

namespace Sandook.VirtualDisk

open Sandook.DataPlane Sandook.Lib

variable {σ Blk : Type} (alloc : Endpoint σ) (env : Env)

/-! ## One storage op of a read -/

/-- A read's storage op leaves the servers' blocks, and a success carries the server's blocks
from the op's `start_sector`. -/
theorem processStorageOp_read {w : World σ Blk} {serverId : ServerID} {iod : IODesc}
    (hop : iod.op = .kRead) :
    (processStorageOp env w serverId iod).2 = { w with tick := w.tick + 1 } ∧
      ∀ msg, (processStorageOp env w serverId iod).1 = some msg → isSuccess msg.code = true →
        msg.iod = iod ∧ msg.payload = (List.range (sectorBytes iod.numSectors / kDeviceAlignment)).map
          fun j => w.store serverId (iod.startSector + j) := by
  unfold processStorageOp
  split
  · exact ⟨rfl, fun msg h => by cases h⟩
  · split_ifs with hs
    · split
      · rename_i hw
        rw [hop] at hw
        cases hw
      · exact ⟨rfl, fun msg h _ => by cases h; exact ⟨rfl, rfl⟩⟩
    · exact ⟨rfl, fun msg h hs' => by cases h; exact absurd hs' hs⟩

/-- A read's success copies the reply's payload into the buffer it echoes. -/
theorem handleStorageOpReply_read_ok {w w' : World σ Blk} {msg : StorageOpReply Blk}
    {serverId : ServerID} {v : ℤ} (hop : msg.iod.op = .kRead)
    (h : handleStorageOpReply env w (some msg) serverId = some (.ok v, w')) :
    w'.mem = if 0 < sectorBytes msg.iod.numSectors ∧ msg.iod.addr ≠ 0 then
      scatter w.mem msg.iod.addr kDeviceAlignment msg.payload else w.mem := by
  simp only [handleStorageOpReply] at h
  obtain ⟨w₁, h₁, h⟩ := Option.bind_eq_some_iff.mp h
  have hm₁ : w₁.mem = w.mem := by
    split_ifs at h₁
    · exact (signalCongested_quiet env h₁).2
    · cases h₁
      rfl
  simp only [hop] at h
  by_cases hs : isSuccess msg.code = true
  · rw [if_pos hs, Option.some.injEq, Prod.mk.injEq] at h
    rw [← h.2]
    split_ifs <;> simp only [hm₁]
  · -- a rejection or failure is an error, never a success
    rw [if_neg hs] at h
    split_ifs at h
    · obtain ⟨_, _, h⟩ := Option.map_eq_some_iff.mp h
      cases h
    · cases h

/-- **One read attempt**: a read op's storage op and the handling of its reply change nothing a
read's guarantee speaks of, and a success into a non-null buffer leaves there the server's block
at the op's `start_sector`. -/
theorem readAttempt_spec {w w' : World σ Blk} {serverId : ServerID} {iod : IODesc} {r : Status ℤ}
    (hop : iod.op = .kRead) (hn : iod.numSectors = 1)
    (h : handleStorageOpReply env (processStorageOp env w serverId iod).2
      (processStorageOp env w serverId iod).1 serverId = some (r, w')) :
    Quiet w w' ∧
      ∀ v, r = .ok v → iod.addr ≠ 0 → w'.mem iod.addr = w.store serverId iod.startSector := by
  obtain ⟨hp, hpayload⟩ := @processStorageOp_read σ Blk env w serverId iod hop
  have q₂ : Quiet w (processStorageOp env w serverId iod).2 := by
    rw [hp]
    exact ⟨rfl, rfl, rfl, rfl, rfl⟩
  refine ⟨q₂.trans (handleStorageOpReply_quiet env h).1, fun v hv ha => ?_⟩
  subst hv
  -- the reply is the server's success, which carries its one block
  obtain ⟨msg, hmsg, hs⟩ := isSuccess_of_handleStorageOpReply env h
  obtain ⟨hecho, hpl⟩ := hpayload msg hmsg hs
  rw [hmsg] at h
  have hm := handleStorageOpReply_read_ok env (hecho ▸ hop) h
  have hlen : 0 < sectorBytes msg.iod.numSectors ∧ msg.iod.addr ≠ 0 := by
    rw [hecho, hn]
    exact ⟨by decide, ha⟩
  rw [hm, if_pos hlen, hpl, hecho, hp, hn, sectorBytes_one_div]
  simp

/-! ## Read requests -/

/-- What a one-sector read request guarantees: it changes none of the controller, the servers'
blocks, the block map and the caches, and a success into a non-null buffer leaves there the
block of a replica of the sector. -/
structure ReadSpec (iod : IODesc) (w : World σ Blk) (r : Status ℤ) (w' : World σ Blk) :
    Prop where
  quiet : Quiet w w'
  fills : ∀ v, r = .ok v → iod.addr ≠ 0 →
    ∃ rep ∈ w.vd.blkRes.blkMap iod.startSector,
      w'.mem iod.addr = w.store rep.1.serverId rep.1.blockAddr

/-- A read's guarantee from a world reached quietly is one from the world before. -/
theorem ReadSpec.of_quiet {iod : IODesc} {w₀ w w' : World σ Blk} {r : Status ℤ}
    (hq : Quiet w₀ w) (h : ReadSpec iod w r w') : ReadSpec iod w₀ r w' := by
  refine ⟨hq.trans h.quiet, fun v hv ha => ?_⟩
  rw [← hq.store, ← hq.blkRes]
  exact h.fills v hv ha

/-- A failure changes nothing the guarantee speaks of. -/
theorem ReadSpec.of_error {iod : IODesc} {w : World σ Blk} {e : ℕ} : ReadSpec iod w (.error e) w :=
  ⟨Quiet.refl w, fun _ hv => by cases hv⟩

section Loop

variable {retry : IODesc → World σ Blk → Option (Status ℤ × World σ Blk)} {iod₀ : IODesc}

/-- The loops of `ProcessReadOp` on the mapping `servers` of `iod₀`'s sector. The descriptor they
carry is `iod₀` but for its `start_sector`, which each attempt resets to the sector's. -/
theorem readLoop_spec (hretry : ∀ w r w', retry iod₀ w = some (r, w') → ReadSpec iod₀ w r w')
    (hop : iod₀.op = .kRead) (hn : iod₀.numSectors = 1) (servers : ServerReplicaBlockInfoList) :
    ∀ (fuel : ℕ) (ids : List ServerID) (iod : IODesc) (w : World σ Blk) (r : Status ℤ)
      (w' : World σ Blk), { iod with startSector := iod₀.startSector } = iod₀ →
      w.vd.blkRes.blkMap iod₀.startSector = servers →
      readLoop env retry servers iod₀.startSector fuel ids iod w = some (r, w') →
      ReadSpec iod₀ w r w'
  | 0, _, _, _, _, _, _, _, h => by simp [readLoop] at h
  | fuel + 1, [], iod, w, r, w', hiod, hmap, h => by
    simp only [readLoop] at h
    obtain ⟨w₁, h₁, h⟩ := Option.bind_eq_some_iff.mp h
    have q₁ := (sleep_quiet env h₁).1
    exact (readLoop_spec hretry hop hn servers fuel _ iod w₁ r w' hiod
      (by rw [q₁.blkRes, hmap]) h).of_quiet q₁
  | fuel + 1, s :: ss, iod, w, r, w', hiod, hmap, h => by
    have hop' : iod.op = .kRead := (congrArg IODesc.op hiod).trans hop
    have hn' : iod.numSectors = 1 := (congrArg IODesc.numSectors hiod).trans hn
    have ha' : iod.addr = iod₀.addr := by rw [← hiod]
    obtain ⟨pos, hround⟩ := readLoop_cons_cases env h
    -- drawing the server moves only the draw position
    have q₁ : Quiet w { w with pos := pos } := ⟨rfl, rfl, rfl, rfl, rfl⟩
    rcases hround with ⟨w₂, h₂, h⟩ | ⟨serverId, -, blkInfo, hfind, r₃, w₃, h₃, hnext⟩
    · rw [hiod] at h
      exact (hretry w₂ r w' h).of_quiet (q₁.trans (sleep_quiet env h₂).1)
    · set iod₂ : IODesc := { iod with startSector := blkInfo.1.blockAddr }
      obtain ⟨q₃, hfill⟩ := readAttempt_spec env (show iod₂.op = .kRead from hop')
        (show iod₂.numSectors = 1 from hn') h₃
      rcases hnext with ⟨v, rfl, rfl, rfl⟩ | ⟨e, -, h⟩
      · refine ⟨q₁.trans q₃, fun _ _ ha => ⟨blkInfo, hmap ▸ List.mem_of_find?_eq_some hfind, ?_⟩⟩
        have hsid : blkInfo.1.serverId = serverId := by simpa using List.find?_some hfind
        rw [hsid, ← ha']
        exact hfill v rfl (ha' ▸ ha)
      · exact (readLoop_spec hretry hop hn servers fuel _ iod₂ w₃ r w' hiod
          (by rw [(q₁.trans q₃).blkRes, hmap]) h).of_quiet (q₁.trans q₃)

end Loop

/-- **What a one-sector read request guarantees**, by induction on the fuel: an unmapped sector
is an error that changes nothing, and a mapped one is `ProcessReadOp` on its mapping, whose retry
is a request with less fuel. -/
theorem processRequest_read_spec :
    ∀ (fuel : ℕ) {iod : IODesc} {w w' : World σ Blk} {r : Status ℤ}, iod.op = .kRead →
      iod.numSectors = 1 → processRequest alloc env fuel iod w = some (r, w') →
        ReadSpec iod w r w'
  | 0, _, _, _, _, _, _, h => by simp [processRequest] at h
  | fuel + 1, iod, w, w', r, hop, hn, h => by
    simp only [processRequest, hop] at h
    obtain ⟨ret, hres, h⟩ := Option.bind_eq_some_iff.mp h
    obtain ⟨-, hcases⟩ := BlockResolver.resolveBlock_some hres
    rcases hcases with ⟨rfl, -⟩ | ⟨rfl, -⟩
    · exact readLoop_spec env (fun w r w' hw => processRequest_read_spec fuel hop hn hw) hop hn
        _ fuel _ iod w r w' rfl rfl h
    · cases h
      exact ReadSpec.of_error

/-- A read request that succeeds found its sector mapped. -/
theorem processRequest_read_mapped {fuel : ℕ} {iod : IODesc} {w w' : World σ Blk} {v : ℤ}
    (hop : iod.op = .kRead) (h : processRequest alloc env fuel iod w = some (.ok v, w')) :
    iod.startSector < w.vd.blkRes.nsectors ∧ Mapped (w.vd.blkRes.blkMap iod.startSector) := by
  cases fuel with
  | zero => simp [processRequest] at h
  | succ fuel =>
    simp only [processRequest, hop] at h
    obtain ⟨ret, hres, h⟩ := Option.bind_eq_some_iff.mp h
    obtain ⟨hlt, hcases⟩ := BlockResolver.resolveBlock_some hres
    rcases hcases with ⟨-, hm⟩ | ⟨rfl, -⟩
    · exact ⟨hlt, hm⟩
    · simp at h

/-- **A read of a sector just written returns the written block.** The write leaves every
replica of the sector's mapping holding the client's block, and a read that succeeds copies one
of them. -/
theorem processRequest_read_after_write {fuel fuel' sector a b : ℕ} {w w₁ w₂ : World σ Blk}
    {r : Status ℤ} {v : ℤ} (hb : b ≠ 0)
    (hw : processRequest alloc env fuel ⟨.kWrite, 1, sector, a⟩ w = some (r, w₁))
    (hr : processRequest alloc env fuel' ⟨.kRead, 1, sector, b⟩ w₁ = some (.ok v, w₂)) :
    w₂.mem b = w.mem a := by
  have hdur := (processRequest_write_spec alloc env fuel rfl rfl hw).durable
  obtain ⟨rep, hrep, hmem⟩ := (processRequest_read_spec alloc env fuel' rfl rfl hr).fills v rfl hb
  exact hmem.trans (hdur rep hrep)

/-! ## `Allocate` over a written sector -/

/-- A volume with affinity to server `1`, which its scheduler knows in `kMix` mode, and whose
cache for server `1` holds its blocks `0` to `3` on core `0`. -/
def cachedVolume : VirtualDiskRemote where
  sched := ⟨.kWeightedReadWrite, ⟨[1], fun _ => .kMix, fun _ => 1, fun _ => 1,
    { CongestionControl.init with servers := [1] }⟩⟩
  servers := [1]
  affinity := 1
  volId := 1
  blkRes := BlockResolver.init 4
  blkCaches := fun s =>
    if s = 1 then
      some ⟨kPerCoreCachedBlocks, fun c => if c = 0 then [⟨1, 0⟩, ⟨1, 1⟩, ⟨1, 2⟩, ⟨1, 3⟩] else [], []⟩
    else none

/-- The client of `cachedVolume`, with every server's blocks holding `0` and the client's memory
holding `5`. -/
def cachedWorld : World Unit ℕ := ⟨⟨(), fun _ _ => 0, fun _ => 5, 0, 0⟩, cachedVolume⟩

/-- `Write(0, buf)` of the client's block `5` at address `64`, then `Read(0, buf)` into address
`128`, returns `4096` and the block `5`; with `Allocate(0, 1)` in between, the read returns `4096`
and the fresh block `0`. Every server applies every op. -/
theorem allocate_after_write_reads_fresh :
    ((write (processRequest (fun (_ : Unit) _ => none) successEnv 2) 0 4096 64 cachedWorld).bind
        fun r => read (processRequest (fun (_ : Unit) _ => none) successEnv 2) 0 4096 128 r.2).map
        (fun r => (r.1, r.2.mem 128)) = some (.ok 4096, 5) ∧
      ((write (processRequest (fun (_ : Unit) _ => none) successEnv 2) 0 4096 64 cachedWorld).bind
        fun r => (allocate (processRequest (fun (_ : Unit) _ => none) successEnv 2) 0 1 r.2).bind
          fun r => read (processRequest (fun (_ : Unit) _ => none) successEnv 2) 0 4096 128 r.2).map
        (fun r => (r.1, r.2.mem 128)) = some (.ok 4096, 0) := by
  decide +kernel

/-- `Write(0, buf)` from address `64`, then a read of sector `0` into address `128`. -/
theorem processRequest_read_after_write_cached :
    ∃ r w₁ v w₂, processRequest (fun (_ : Unit) _ => none) successEnv 2 ⟨.kWrite, 1, 0, 64⟩
          cachedWorld = some (r, w₁) ∧
      processRequest (fun (_ : Unit) _ => none) successEnv 2 ⟨.kRead, 1, 0, 128⟩ w₁ =
        some (.ok v, w₂) ∧
      w₂.mem 128 = cachedWorld.mem 64 := by
  have h : ((processRequest (fun (_ : Unit) _ => none) successEnv 2 ⟨.kWrite, 1, 0, 64⟩
      cachedWorld).bind fun x =>
        (processRequest (fun (_ : Unit) _ => none) successEnv 2 ⟨.kRead, 1, 0, 128⟩ x.2).map
          Prod.fst) = some (.ok 4096) := by
    decide +kernel
  obtain ⟨⟨r, w₁⟩, hw, h⟩ := Option.bind_eq_some_iff.mp h
  obtain ⟨⟨res, w₂⟩, hr, rfl⟩ := Option.map_eq_some_iff.mp h
  exact ⟨r, w₁, 4096, w₂, hw, hr,
    processRequest_read_after_write (fun (_ : Unit) _ => none) successEnv (by decide) hw hr⟩

end Sandook.VirtualDisk
