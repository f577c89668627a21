import Sandook.VirtualDisk.Base

/-!
# The memory disk server (`disk_server/mem_server.cc`)

Model of `MemServer`: a disk server whose device is a byte buffer `buf_` of `kCapacityBytes`
bytes, registered with the controller as `kCapacityBytes / kBlockSizeBytes` sectors, and the
copies of `HandleReadOp` and `HandleWriteOp` to which `HandleStorageOp` dispatches.

* `buf_` is its bytes and its size; `buf_.resize(kCapacityBytes)` value-initialises them to `0`.
* `off = start_lba * kBlockSizeBytes` is a `uint64_t` product, modulo `2^64`.
* The build defines `NDEBUG`: the handlers' `assert`s check nothing. `OpChecks` is what they
  would check in a build with assertions. `buf.subspan(off, n)` reaching past the buffer is
  undefined behaviour, `none`.
* `len` is `num_sectors << kSectorShift` on the `uint32_t` field (`sectorBytes`), returned as an
  `int`; `assert(len == payload.size())` checks nothing either, and the copy takes the payload's
  size. The hooks that time the ops for the server's statistics, and the logs, are left out.

Results:
* `handleReadOp_eq`, `handleWriteOp_eq`: an op that stays inside the buffer copies its bytes.
* `memServer_in_range`: every request inside the registered sectors copies inside `buf_`, but
  the checks hold only for the requests that end before the buffer's last byte, so they fail on
  the last block. It holds of every server a run reaches: storage ops keep the buffer's size
  (`size_handleStorageOp`).
* `blockAt_handleWriteOp`, `handleReadOp_blockAt`: read by blocks of `kBlockSizeBytes`, the buffer
  is the block store the virtual disk's model writes and reads, one block a sector.
-/

namespace Sandook.DiskServer

open Sandook.VirtualDisk

/-- `kBlockSizeBytes` of `mem_server.cc`. -/
def kBlockSizeBytes : ℕ := 4096

/-- `kCapacityBytes = 1L << 33` (8 GB). -/
def kCapacityBytes : ℕ := 2 ^ 33

/-- The `n_sectors` the server registers: `kCapacityBytes / kBlockSizeBytes`. -/
def kNumSectors : ℕ := kCapacityBytes / kBlockSizeBytes

/-- The state of `MemServer`: the bytes of `buf_` and `buf_.size()`. -/
structure MemServer where
  buf : ℕ → UInt8
  size : ℕ

namespace MemServer

/-- `MemServer(ctrl)`: `buf_.resize(kCapacityBytes)`. -/
def create : MemServer := ⟨fun _ => 0, kCapacityBytes⟩

/-- `off` of both handlers: `start_lba * kBlockSizeBytes` as a `uint64_t`. -/
def blockOffset (startLba : ℕ) : ℕ := startLba * kBlockSizeBytes % 2 ^ 64

/-- The `assert`s of `HandleReadOp` and `HandleWriteOp` for a copy of `len` bytes:
`off >= 0 && off < buf_.size()` and `off + len < buf_.size()`. -/
def OpChecks (s : MemServer) (startLba len : ℕ) : Prop :=
  blockOffset startLba < s.size ∧ blockOffset startLba + len < s.size

instance (s : MemServer) (startLba len : ℕ) : Decidable (s.OpChecks startLba len) :=
  inferInstanceAs (Decidable (_ ∧ _))

/-- `HandleReadOp(dst, start_lba)` for a `dst` of `len` bytes: the bytes `[off, off + len)`. -/
def handleReadOp (s : MemServer) (len startLba : ℕ) : Option (List UInt8) :=
  let off := blockOffset startLba
  if off + len ≤ s.size then some ((List.range len).map fun i => s.buf (off + i)) else none

/-- `std::memcpy(buf + off, src, |src|)` on the bytes of a buffer. -/
def copyIn (buf : ℕ → UInt8) (off : ℕ) (src : List UInt8) : ℕ → UInt8 := fun j =>
  if off ≤ j ∧ j < off + src.length then src.getD (j - off) 0 else buf j

/-- `HandleWriteOp(src, start_lba)`: `src` copied over `[off, off + |src|)`. -/
def handleWriteOp (s : MemServer) (src : List UInt8) (startLba : ℕ) : Option MemServer :=
  let off := blockOffset startLba
  if off + src.length ≤ s.size then some { s with buf := copyIn s.buf off src } else none

/-- `HandleStorageOp(msg, req_payload, resp_payload)`: a read fills a response payload of
`respSize` bytes, a write copies the request payload; both return `len`. -/
def handleStorageOp (s : MemServer) (iod : IODesc) (reqPayload : List UInt8) (respSize : ℕ) :
    Option (Status ℤ × MemServer × List UInt8) :=
  let len := sectorBytes iod.numSectors
  match iod.op with
  | .kRead =>
    (s.handleReadOp respSize iod.startSector).map fun bytes => (.ok (toInt32 len), s, bytes)
  | .kWrite =>
    (s.handleWriteOp reqPayload iod.startSector).map fun s' => (.ok (toInt32 len), s', [])
  | _ => some (.error EINVAL, s, [])

/-! ## The copies -/

theorem blockOffset_eq {startLba : ℕ} (h : startLba * kBlockSizeBytes < 2 ^ 64) :
    blockOffset startLba = startLba * kBlockSizeBytes :=
  Nat.mod_eq_of_lt h

theorem handleReadOp_eq {s : MemServer} {len startLba : ℕ}
    (h : blockOffset startLba + len ≤ s.size) :
    s.handleReadOp len startLba =
      some ((List.range len).map fun i => s.buf (blockOffset startLba + i)) :=
  if_pos h

theorem handleWriteOp_eq {s : MemServer} {src : List UInt8} {startLba : ℕ}
    (h : blockOffset startLba + src.length ≤ s.size) :
    s.handleWriteOp src startLba = some { s with buf := copyIn s.buf (blockOffset startLba) src } :=
  if_pos h

/-- A write keeps the buffer's size. -/
theorem size_handleWriteOp {s s' : MemServer} {src : List UInt8} {startLba : ℕ}
    (h : s.handleWriteOp src startLba = some s') : s'.size = s.size := by
  unfold handleWriteOp at h
  dsimp only at h
  split_ifs at h
  cases h
  rfl

/-- A storage op keeps the buffer's size: every server a run of them reaches from `create`
has `kCapacityBytes` bytes. -/
theorem size_handleStorageOp {s s' : MemServer} {iod : IODesc} {reqPayload : List UInt8}
    {respSize : ℕ} {r : Status ℤ} {bytes : List UInt8}
    (h : s.handleStorageOp iod reqPayload respSize = some (r, s', bytes)) : s'.size = s.size := by
  unfold handleStorageOp at h
  split at h
  · obtain ⟨_, -, h⟩ := Option.map_eq_some_iff.mp h
    cases h
    rfl
  · obtain ⟨s₁, hw, h⟩ := Option.map_eq_some_iff.mp h
    cases h
    exact size_handleWriteOp hw
  · cases h
    rfl

/-- **The memory server on the requests inside its registered sectors**: whenever
`start_lba * kBlockSizeBytes + len ≤ kCapacityBytes`, a read of `len` bytes and a write of `len`
bytes copy inside `buf_`, and the handlers' checks hold exactly when the copy ends before the
buffer's last byte. -/
theorem memServer_in_range (s : MemServer) (hsize : s.size = kCapacityBytes) (startLba len : ℕ)
    (hin : startLba * kBlockSizeBytes + len ≤ kCapacityBytes) :
    (∃ bytes, s.handleReadOp len startLba = some bytes ∧ bytes.length = len) ∧
      (∀ src : List UInt8, src.length = len → ∃ s', s.handleWriteOp src startLba = some s') ∧
      (s.OpChecks startLba len ↔ startLba * kBlockSizeBytes + len < kCapacityBytes) := by
  have hoff : blockOffset startLba = startLba * kBlockSizeBytes :=
    blockOffset_eq (by simp only [kCapacityBytes] at hin; omega)
  have hfit : blockOffset startLba + len ≤ s.size := by rw [hoff, hsize]; exact hin
  refine ⟨⟨_, handleReadOp_eq hfit, by simp⟩, fun src hsrc => ⟨_, handleWriteOp_eq (hsrc ▸ hfit)⟩,
    ?_⟩
  -- the second check implies the first: a copy that ends before the end starts before it
  unfold OpChecks
  rw [hoff, hsize]
  omega

/-- The last block of the device is inside the registered sectors, and fails the checks. -/
theorem memServer_in_range_last_block :
    (kNumSectors - 1) * kBlockSizeBytes + kBlockSizeBytes ≤ kCapacityBytes ∧
      ¬create.OpChecks (kNumSectors - 1) kBlockSizeBytes := by
  refine ⟨by decide, fun h => ?_⟩
  have := ((memServer_in_range create rfl (kNumSectors - 1) kBlockSizeBytes (by decide)).2.2).mp h
  exact absurd this (by decide)

/-! ## The buffer as a block store -/

/-- Block `b` of the buffer: its `kBlockSizeBytes` bytes from `b * kBlockSizeBytes`. -/
def blockAt (s : MemServer) (b : ℕ) : List UInt8 :=
  (List.range kBlockSizeBytes).map fun i => s.buf (b * kBlockSizeBytes + i)

/-- A registered sector's block lies inside the buffer, at `b * kBlockSizeBytes`. -/
theorem blockOffset_of_lt {b : ℕ} (hb : b < kNumSectors) :
    blockOffset b = b * kBlockSizeBytes ∧ b * kBlockSizeBytes + kBlockSizeBytes ≤ kCapacityBytes := by
  have hin : b * kBlockSizeBytes + kBlockSizeBytes ≤ kCapacityBytes := by
    simp only [kNumSectors, kCapacityBytes, kBlockSizeBytes] at hb ⊢
    omega
  exact ⟨blockOffset_eq (by simp only [kCapacityBytes] at hin; omega), hin⟩

/-- A read of one block of a registered sector returns the block. -/
theorem handleReadOp_blockAt {s : MemServer} (hsize : s.size = kCapacityBytes) {b : ℕ}
    (hb : b < kNumSectors) : s.handleReadOp kBlockSizeBytes b = some (s.blockAt b) := by
  obtain ⟨hoff, hin⟩ := blockOffset_of_lt hb
  rw [handleReadOp_eq (by rw [hoff, hsize]; exact hin), hoff]
  rfl

/-- **A write of one block of a registered sector** sets that block and leaves every other. -/
theorem blockAt_handleWriteOp {s s' : MemServer} (hsize : s.size = kCapacityBytes)
    {src : List UInt8} (hsrc : src.length = kBlockSizeBytes) {b : ℕ} (hb : b < kNumSectors)
    (h : s.handleWriteOp src b = some s') (c : ℕ) :
    s'.blockAt c = if c = b then src else s.blockAt c := by
  obtain ⟨hoff, hin⟩ := blockOffset_of_lt hb
  rw [handleWriteOp_eq (by rw [hoff, hsize, hsrc]; exact hin), Option.some.injEq] at h
  subst h
  unfold blockAt
  split_ifs with hcb
  · -- the written block reads back `src`, byte by byte
    subst hcb
    refine List.ext_getElem (by simp [hsrc]) fun i hi _ => ?_
    have hi' : i < src.length := by
      rw [List.length_map, List.length_range] at hi
      omega
    simp only [List.getElem_map, List.getElem_range, copyIn, hoff]
    rw [if_pos (by omega), Nat.add_sub_cancel_left, List.getD_eq_getElem _ _ hi']
  · -- another block lies wholly before or after the written one
    refine List.map_congr_left fun i hi => ?_
    have hi' : i < kBlockSizeBytes := List.mem_range.mp hi
    simp only [copyIn, hoff, hsrc]
    rw [if_neg]
    rintro ⟨h₁, h₂⟩
    rcases Nat.lt_or_gt_of_ne hcb with hlt | hgt
    · have : (c + 1) * kBlockSizeBytes ≤ b * kBlockSizeBytes := Nat.mul_le_mul_right _ hlt
      rw [Nat.succ_mul] at this
      omega
    · have : (b + 1) * kBlockSizeBytes ≤ c * kBlockSizeBytes := Nat.mul_le_mul_right _ hgt
      rw [Nat.succ_mul] at this
      omega

end MemServer

end Sandook.DiskServer
