import Sandook.VirtualDisk.Remote

/-!
# The block-device front end (`blk_dev/request_dispatcher.{h,cc}`)

Model of `RequestDispatcher`: it takes ublk requests, counted in Linux sectors of `2^9` bytes,
turns each into a `Read` or `Write` of the virtual disk, counted in Sandook sectors of `2^12`
bytes, and completes it to ublk with a result: `-EINVAL` if the disk's `Status` is an error,
else the request's length in bytes. Its constructor first allocates every sector of the disk
(`AllocateBlocks`).

* The virtual disk is any `VirtualDiskBase`: its `ProcessRequest` is a parameter, as in
  `VirtualDisk.Base`. The last section takes `VirtualDiskRemote`'s.
* `SubmitRequest` spawns a thread and returns `0` at once; `submitRequest` is what that thread
  pushes to the completion queue.
* A ublk op other than a read or a write leaves `io_ret` default-constructed, which holds the
  value `0`: a success.

Results:
* `unmapped_read_acknowledged`: on a remote disk, the read of a sector with no mapping fails in
  `ProcessRequest` with `ENOENT`, yet `Read` returns `ok ENOENT` and ublk gets all `4096` bytes.
-/

namespace Sandook.BlkDev

open Sandook.VirtualDisk

/-- The ublk ops the dispatcher tells apart (`ublksrv_get_op`). -/
inductive UblkOp where
  | read
  | write
  /-- Flush, discard, write-same, write-zeroes. -/
  | other
  deriving DecidableEq, Repr

/-- The fields of `ublksrv_io_desc` the dispatcher reads. -/
structure UblkIODesc where
  op : UblkOp
  nrSectors : ℕ
  startSector : ℕ
  addr : ℕ
  deriving DecidableEq, Repr

section Dispatcher

variable {S : Type} (processRequest : IODesc → S → Option (Status ℤ × S))

/-! ## `SubmitRequest` -/

/-- The switch of `SubmitRequest`'s thread: the request in Sandook sectors, and the disk's
`Status` for it. `nsectors << kSectorShift` is a `uint32_t` shift. -/
def dispatch (iod : UblkIODesc) (s : S) : Option (Status ℤ × S) :=
  let nsectors := iod.nrSectors / kNumLinuxSectorsPerSandookSector
  let sector := iod.startSector / kNumLinuxSectorsPerSandookSector
  match iod.op with
  | .read => read processRequest sector (sectorBytes nsectors) iod.addr s
  | .write => write processRequest sector (sectorBytes nsectors) iod.addr s
  | .other => some (.ok 0, s)

/-- The `res` the request is completed with: `-EINVAL` for an error, else
`static_cast<int>(nr_sectors) << kLinuxSectorShift`. -/
def completionRes (iod : UblkIODesc) : Status ℤ → ℤ
  | .error _ => -(EINVAL : ℤ)
  | .ok _ => toInt32 (iod.nrSectors * 2 ^ kLinuxSectorShift)

/-- `SubmitRequest(q, data)`: the completion the spawned thread pushes. -/
def submitRequest (iod : UblkIODesc) (s : S) : Option (ℤ × S) :=
  (dispatch processRequest iod s).map fun (r, s) => (completionRes iod r, s)

/-! ## The allocation of the whole disk -/

/-- `kBatchSize` of `AllocateBlocks`. -/
def kBatchSize : ℕ := 4096

/-- `kPayloadSizeSectors = kPayloadSizeBytes >> kSectorShift`, with
`kPayloadSizeBytes = 1 << kSectorShift`. -/
def kPayloadSizeSectors : ℕ := 2 ^ kSectorShift / 2 ^ kSectorShift

/-- The loop of `AllocateBlocks(vdisk)` from `lba`, `rem` sectors left: an `Allocate` for each
batch of at most `kBatchSize` sectors; a failed one throws (`none`). -/
def allocateLoop (lba rem : ℕ) (s : S) : Option S :=
  if rem = 0 then some s
  else
    (allocate processRequest lba (min kBatchSize rem) s).bind fun
      | (.error _, _) => none
      | (.ok (), s) => allocateLoop (lba + min kBatchSize rem) (rem - min kBatchSize rem) s
termination_by rem
decreasing_by
  have : 0 < kBatchSize := by decide
  omega

/-- `AllocateBlocks(vdisk)`, run by the constructor: every sector of the disk. -/
def allocateBlocks (numSectors : ℕ) (s : S) : Option S :=
  allocateLoop processRequest 0 (numSectors / kPayloadSizeSectors) s

end Dispatcher

/-! ## On a remote disk -/

section Remote

variable {σ Blk : Type} (alloc : Endpoint σ) (env : Env)

/-- A read of a sector with no mapping fails in `ProcessRequest` with `ENOENT`, and changes
nothing. -/
theorem processRequest_read_unmapped (fuel : ℕ) (iod : IODesc) (w : World σ Blk)
    (hop : iod.op = .kRead) (hs : iod.startSector < w.vd.blkRes.nsectors)
    (hm : ¬ Mapped (w.vd.blkRes.blkMap iod.startSector)) :
    processRequest alloc env (fuel + 1) iod w = some (.error ENOENT, w) := by
  simp only [processRequest, hop, BlockResolver.resolveBlock_eq _ hs, if_neg hm,
    Option.bind_some]

/-- **A failed read reaches ublk as a success.** On a remote disk whose sector `sector` has no
mapping, its one-sector read fails in `ProcessRequest` with `ENOENT`; `Read` returns the success
`ok ENOENT`, and a ublk read of the eight Linux sectors it spans completes with `4096` bytes. -/
theorem unmapped_read_acknowledged (fuel : ℕ) (w : World σ Blk) (sector addr : ℕ)
    (hsector : sector < 2 ^ 64) (hs : sector < w.vd.blkRes.nsectors)
    (hm : ¬ Mapped (w.vd.blkRes.blkMap sector)) :
    processRequest alloc env (fuel + 1) ⟨.kRead, 1, sector, addr⟩ w = some (.error ENOENT, w) ∧
      read (processRequest alloc env (fuel + 1)) sector kDeviceAlignment addr w =
        some (.ok ENOENT, w) ∧
      submitRequest (processRequest alloc env (fuel + 1))
          ⟨.read, kNumLinuxSectorsPerSandookSector, kNumLinuxSectorsPerSandookSector * sector,
            addr⟩ w =
        some (4096, w) := by
  have hfail := processRequest_read_unmapped alloc env fuel ⟨.kRead, 1, sector, addr⟩ w rfl hs hm
  -- the read is one sub-request, the one that fails
  have hn : (bufferDesc .kRead sector kDeviceAlignment addr).numSectors = 1 := by
    show kDeviceAlignment / kDeviceAlignment % 2 ^ 32 = 1
    decide
  have hsub : subRequest (bufferDesc .kRead sector kDeviceAlignment addr) 0 =
      ⟨.kRead, 1, sector, addr % 2 ^ 64⟩ := by
    simp only [subRequest, bufferDesc, Nat.add_zero, Nat.mul_zero, Nat.mod_eq_of_lt hsector]
  have hrun : runSectors (processRequest alloc env (fuel + 1))
      (bufferDesc .kRead sector kDeviceAlignment addr)
      (List.range (bufferDesc .kRead sector kDeviceAlignment addr).numSectors) w =
        some ([.error ENOENT], w) := by
    rw [hn, List.range_one, runSectors, hsub,
      processRequest_read_unmapped alloc env fuel ⟨.kRead, 1, sector, addr % 2 ^ 64⟩ w rfl hs hm]
    rfl
  have hcodes : ∀ e, .error e ∈ [(.error ENOENT : Status ℤ)] → 0 < e := by
    intro e he
    rw [List.mem_singleton, Except.error.injEq] at he
    rw [he]
    decide
  have hread := (submitBuffer_of_error _ hrun hcodes ⟨ENOENT, List.mem_singleton_self _⟩).1
  refine ⟨hfail, hread, ?_⟩
  -- ublk's eight Linux sectors are the one Sandook sector of `4096` bytes
  have hsector : kNumLinuxSectorsPerSandookSector * sector / kNumLinuxSectorsPerSandookSector =
      sector := Nat.mul_div_cancel_left sector (by decide)
  have hbytes : sectorBytes (kNumLinuxSectorsPerSandookSector / kNumLinuxSectorsPerSandookSector) =
      kDeviceAlignment := by decide
  have hres : toInt32 ((kNumLinuxSectorsPerSandookSector : ℤ) * 2 ^ kLinuxSectorShift) = 4096 := by
    decide
  simp only [submitRequest, dispatch, hsector, hbytes]
  rw [VirtualDisk.read, hread, Option.map_some]
  simp only [completionRes, hres]

/-- A volume of one sector that nothing has been written to. -/
def freshVolume : VirtualDiskRemote where
  sched := ⟨.kWeightedReadWrite, DataPlane.ServerStatsManager.init fun _ => .kMix⟩
  servers := []
  affinity := kInvalidServerID
  volId := 1
  blkRes := BlockResolver.init 1
  blkCaches := fun _ => none

theorem unmapped_read_acknowledged_fresh :
    0 < 2 ^ 64 ∧ 0 < freshVolume.blkRes.nsectors ∧ ¬ Mapped (freshVolume.blkRes.blkMap 0) ∧
      submitRequest (processRequest (fun (_ : Unit) _ => none)
          ⟨fun _ _ => 0, fun _ => .empty, fun _ => 0, fun _ => 0, fun _ => none, 0⟩ 1)
          ⟨.read, 8, 0, 0⟩ (⟨⟨(), fun _ _ => (0 : ℕ), fun _ => 0, 0, 0⟩, freshVolume⟩ : World Unit ℕ) =
        some (4096, ⟨⟨(), fun _ _ => 0, fun _ => 0, 0, 0⟩, freshVolume⟩) :=
  ⟨by decide, by decide, by decide,
    (unmapped_read_acknowledged _ _ 0 ⟨⟨(), fun _ _ => (0 : ℕ), fun _ => 0, 0, 0⟩, freshVolume⟩
      0 0 (by decide) (by decide) (by decide)).2.2⟩

end Remote

end Sandook.BlkDev
