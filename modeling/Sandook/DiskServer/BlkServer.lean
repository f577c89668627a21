import Sandook.Base.FullIO
import Sandook.DiskServer.DiskConnHandler

/-!
# The block-device disk server (`disk_server/blk_server.cc`)

Model of `BlkServer`: a disk server whose device is a Linux block device opened as `fd_`, and its
`HandleStorageOp` with `Seek`, `HandleRead`, `HandleWrite`, `HandleFlush` and `HandleDiscard`,
on the `ReadFull` and `WriteFull` of `Base.FullIO`.

The device and the kernel:
* The device is its bytes, its size (`BLKGETSIZE64`, below `2^63` as an `off_t` is) and the file
  offset of `fd_` (`BlkDevice`).
* `lseek(fd_, static_cast<off_t>(offset), SEEK_SET)` moves the offset, and fails with `EINVAL`
  when the cast is negative or the offset is past the end, as a block device's `llseek` does.
* `read` and `write` move at most what they are handed and what the device has left, and at
  least one byte unless nothing is left. How many, and whether the call fails, is the kernel's:
  an oracle `Kernel` of the offset and the count returns an `errno`, or a hint `c`, and the call
  moves `min (c + 1) (min count left)` bytes; every such behaviour is one oracle. A `read` at the
  end returns `0`; a `write` there fails with `ENOSPC`.
* `fdatasync` and `fallocate` return what the kernel returns, the argument `ret`. A successful
  `fallocate` with `FALLOC_FL_ZERO_RANGE` zeroes its range; with `FALLOC_FL_KEEP_SIZE` alone it
  leaves the bytes as they are.
* `MakeError(ret)` of the `-1` these two return is the error `-1`, not an `errno`: the status of
  `HandleStorageOp` is `Except ℤ ℤ`.
* The hooks that time the ops, and the logs, are left out. The requests are handled one after
  the other here; `System.BlkHandlers` takes up handlers that run at once.

Results:
* `handleStorageOp_refines`: with a kernel that does not fail, a read or a write that the memory
  server handles is handled by the block server with the same status, the same bytes, and the
  same device bytes after, whatever the file offset and however the kernel splits the calls.
* `run_refines`: so is every run of such requests.
* `handleStorageOp_read`: under any kernel, a read leaves the device's bytes as they are, and one
  that succeeds lies inside the device and returns its bytes; past the end, where the memory
  server's copy is undefined, it fails.
* `handleStorageOp_write`: under any kernel, a write writes a prefix of its payload at its
  offset, all of it when it succeeds; a failed write can leave a part of it on the device.
-/

namespace Sandook.DiskServer

open Sandook.VirtualDisk Sandook.Messages

/-- Linux `ENOSPC`. -/
def ENOSPC : ℕ := 28

/-- `FALLOC_FL_KEEP_SIZE`. -/
def kFallocKeepSize : ℕ := 1

/-- `FALLOC_FL_ZERO_RANGE`. -/
def kFallocZeroRange : ℕ := 16

/-- The block device behind `fd_`: its bytes, its size in bytes, and the file offset. -/
structure BlkDevice where
  data : ℕ → UInt8
  size : ℕ
  pos : ℕ
  size_lt : size < 2 ^ 63

/-- The kernel's answer to one `read` or `write` at an offset, handed a count: an `errno`, or a
hint `c`, the call moving `c + 1` bytes when it can. -/
abbrev Kernel := ℕ → ℕ → Except ℕ ℕ

/-- A kernel under which no `read` or `write` fails. -/
def Kernel.NoErrors (k : Kernel) : Prop := ∀ p count e, k p count ≠ .error e

namespace BlkDevice

/-- What is left to read: the bytes from the file offset to the end. -/
def rest (d : BlkDevice) : List UInt8 := bytesAt d.data d.pos (d.size - d.pos)

/-- How many bytes a call handed `count` moves when the kernel's hint is `c`. -/
def moved (d : BlkDevice) (c count : ℕ) : ℕ := min (c + 1) (min count (d.size - d.pos))

/-- The device with `bs` written at the file offset, which moves past them. -/
def put (d : BlkDevice) (bs : List UInt8) : BlkDevice :=
  { d with data := MemServer.copyIn d.data d.pos bs, pos := d.pos + bs.length }

/-- The file offset is at the end: a `write` has no room. -/
def Full (d : BlkDevice) : Prop := d.size ≤ d.pos

/-- `lseek(fd_, static_cast<off_t>(offset), SEEK_SET)`. -/
def seek (d : BlkDevice) (offset : ℕ) : Status BlkDevice :=
  if offset < 2 ^ 63 ∧ offset ≤ d.size then .ok { d with pos := offset } else .error EINVAL

/-- `read(fd_, buf, count)`: the bytes read, or the `errno` of a `-1`. -/
def read (k : Kernel) (d : BlkDevice) (count : ℕ) : Status (List UInt8 × BlkDevice) :=
  match k d.pos count with
  | .error e => .error e
  | .ok c => .ok (bytesAt d.data d.pos (d.moved c count), { d with pos := d.pos + d.moved c count })

/-- `write(fd_, buf, count)` of the bytes `src`: how many it wrote, or the `errno` of a `-1`. -/
def write (k : Kernel) (d : BlkDevice) (src : List UInt8) : Status (ℕ × BlkDevice) :=
  match k d.pos src.length with
  | .error e => .error e
  | .ok c =>
    if d.size ≤ d.pos then .error ENOSPC
    else .ok (d.moved c src.length, d.put (src.take (d.moved c src.length)))

/-- The bytes of `[off, off + len)` set to `0`. -/
def zeroRange (d : BlkDevice) (off len : ℕ) : BlkDevice :=
  { d with data := fun j => if off ≤ j ∧ j < off + len then 0 else d.data j }

/-- A successful `fallocate(fd_, mode, offset, len)`. -/
def fallocate (d : BlkDevice) (mode off len : ℕ) : BlkDevice :=
  if mode &&& kFallocZeroRange ≠ 0 then d.zeroRange off len else d

/-- The device as the memory server's buffer: its bytes and its size. -/
def toMem (d : BlkDevice) : MemServer := ⟨d.data, d.size⟩

end BlkDevice

/-! ## The handlers -/

namespace BlkServer

/-- `offset` of `HandleStorageOp`: `start_sector << kSectorShift` as a `uint64_t`. -/
def sectorOffset (startSector : ℕ) : ℕ := startSector * 2 ^ kSectorShift % 2 ^ 64

/-- `HandleRead(offset, len, resp_payload)` for a `resp_payload` of `respSize` bytes: the status,
the bytes stored at the start of `resp_payload`, and the device after. -/
def handleRead (k : Kernel) (d : BlkDevice) (offset len respSize : ℕ) :
    Status ℤ × List UInt8 × BlkDevice :=
  match d.seek offset with
  | .error e => (.error e, [], d)
  | .ok d₁ =>
    match readFull (BlkDevice.read k) respSize d₁ with
    | (.error e, out, d₂) => (.error e, out, d₂)
    | (.ok (), out, d₂) => (.ok (toInt32 len), out, d₂)

/-- `HandleWrite(offset, len, req_payload)`. -/
def handleWrite (k : Kernel) (d : BlkDevice) (offset len : ℕ) (reqPayload : List UInt8) :
    Status ℤ × BlkDevice :=
  match d.seek offset with
  | .error e => (.error e, d)
  | .ok d₁ =>
    match writeFull (BlkDevice.write k) reqPayload d₁ with
    | (.error e, d₂) => (.error e, d₂)
    | (.ok (), d₂) => (.ok (toInt32 len), d₂)

/-- `HandleFlush()`, `fdatasync(fd_)` having returned `ret`. -/
def handleFlush (ret : ℤ) : Except ℤ Unit := if ret ≠ 0 then .error ret else .ok ()

/-- `HandleDiscard(offset, len, mode)`, `fallocate` having returned `ret`. -/
def handleDiscard (d : BlkDevice) (offset len mode : ℕ) (ret : ℤ) : Except ℤ Unit × BlkDevice :=
  match d.seek offset with
  | .error e => (.error e, d)
  | .ok d₁ => if ret ≠ 0 then (.error ret, d₁) else (.ok (), d₁.fallocate mode offset len)

/-- `BlkServer::HandleStorageOp(msg, req_payload, resp_payload)`: the status, the device after,
and the bytes stored in `resp_payload`. `ret` is what `fdatasync` or `fallocate` returns. -/
def handleStorageOp (k : Kernel) (ret : ℤ) (d : BlkDevice) (iod : IODesc)
    (reqPayload : List UInt8) (respSize : ℕ) : Except ℤ ℤ × BlkDevice × List UInt8 :=
  let len := sectorBytes iod.numSectors
  let offset := sectorOffset iod.startSector
  match iod.op with
  | .kRead =>
    let r := handleRead k d offset len respSize
    (r.1.mapError Int.ofNat, r.2.2, r.2.1)
  | .kWrite =>
    let r := handleWrite k d offset len reqPayload
    (r.1.mapError Int.ofNat, r.2, [])
  | .kFlush => ((handleFlush ret).map fun _ => 0, d, [])
  | .kWriteZeroes =>
    let r := handleDiscard d offset len (kFallocKeepSize ||| kFallocZeroRange) ret
    (r.1.map fun _ => 0, r.2, [])
  | .kDiscard =>
    let r := handleDiscard d offset len kFallocKeepSize ret
    (r.1.map fun _ => 0, r.2, [])
  | _ => (.error EINVAL, d, [])

/-- A request to a disk server: its `IODesc`, its request payload, and the size of its response
payload. -/
abbrev Request := IODesc × List UInt8 × ℕ

/-- The block server handling requests one after the other: each one's status and response
bytes, and the device after. -/
def run (k : Kernel) (ret : ℤ) : BlkDevice → List Request → List (Except ℤ ℤ × List UInt8) × BlkDevice
  | d, [] => ([], d)
  | d, (iod, req, resp) :: rs =>
    let r := handleStorageOp k ret d iod req resp
    let rest := run k ret r.2.1 rs
    ((r.1, r.2.2) :: rest.1, rest.2)

end BlkServer

/-- The memory server handling requests one after the other; `none` if one of them is
undefined. -/
def MemServer.run : MemServer → List BlkServer.Request →
    Option (List (Status ℤ × List UInt8) × MemServer)
  | s, [] => some ([], s)
  | s, (iod, req, resp) :: rs => do
    let (r, s₁, bytes) ← s.handleStorageOp iod req resp
    let (outs, s₂) ← run s₁ rs
    pure ((r, bytes) :: outs, s₂)

/-! ## Bytes and copies -/

theorem bytesAt_add (mem : ℕ → UInt8) (off a b : ℕ) :
    bytesAt mem off (a + b) = bytesAt mem off a ++ bytesAt mem (off + a) b := by
  simp only [bytesAt, List.range_add, List.map_append, List.map_map]
  congr 1
  refine List.map_congr_left fun i _ => ?_
  simp only [Function.comp_apply, Nat.add_assoc]

theorem take_bytesAt {mem : ℕ → UInt8} {off n m : ℕ} (h : m ≤ n) :
    (bytesAt mem off n).take m = bytesAt mem off m := by
  obtain ⟨j, rfl⟩ := Nat.exists_eq_add_of_le h
  rw [bytesAt_add, List.take_left' (length_bytesAt _ _ _)]

/-- A copy elsewhere leaves the bytes of `[o, o + n)`. -/
theorem bytesAt_copyIn_of_disjoint {buf : ℕ → UInt8} {off o n : ℕ} {src : List UInt8}
    (h : o + n ≤ off ∨ off + src.length ≤ o) :
    bytesAt (MemServer.copyIn buf off src) o n = bytesAt buf o n := by
  refine List.map_congr_left fun i hi => ?_
  have hi' : i < n := List.mem_range.mp hi
  simp only [MemServer.copyIn]
  rw [if_neg (by omega)]

/-- Two different sectors' bytes do not overlap. -/
theorem sectors_apart {s₁ s₂ : ℕ} (hs : s₁ ≠ s₂) :
    s₂ * kBlockSizeBytes + kBlockSizeBytes ≤ s₁ * kBlockSizeBytes ∨
      s₁ * kBlockSizeBytes + kBlockSizeBytes ≤ s₂ * kBlockSizeBytes := by
  rcases Nat.lt_or_gt_of_ne hs with hlt | hgt
  · have := Nat.mul_le_mul_right kBlockSizeBytes hlt
    rw [Nat.succ_mul] at this
    exact .inr this
  · have := Nat.mul_le_mul_right kBlockSizeBytes hgt
    rw [Nat.succ_mul] at this
    exact .inl this

namespace MemServer

@[simp] theorem copyIn_nil (buf : ℕ → UInt8) (off : ℕ) : copyIn buf off [] = buf := by
  funext j
  simp only [copyIn, List.length_nil, Nat.add_zero]
  rw [if_neg (by omega)]

/-- Copying `a` and then `b` right after it is copying `a ++ b`. -/
theorem copyIn_append (buf : ℕ → UInt8) (off : ℕ) (a b : List UInt8) :
    copyIn (copyIn buf off a) (off + a.length) b = copyIn buf off (a ++ b) := by
  funext j
  simp only [copyIn, List.length_append]
  by_cases hb : off + a.length ≤ j ∧ j < off + a.length + b.length
  · -- `j` is in the copy of `b`
    rw [if_pos hb, if_pos (by omega), List.getD_append_right _ _ _ _ (by omega)]
    congr 1
    omega
  · rw [if_neg hb]
    by_cases ha : off ≤ j ∧ j < off + a.length
    · rw [if_pos ha, if_pos (by omega), List.getD_append _ _ _ _ (by omega)]
    · rw [if_neg ha, if_neg (by omega)]

theorem eq_of_handleReadOp_eq_some {s : MemServer} {len startLba : ℕ} {bytes : List UInt8}
    (h : s.handleReadOp len startLba = some bytes) :
    blockOffset startLba + len ≤ s.size ∧ bytes = bytesAt s.buf (blockOffset startLba) len := by
  unfold handleReadOp at h
  dsimp only at h
  split_ifs at h with hin
  cases h
  exact ⟨hin, rfl⟩

theorem eq_of_handleWriteOp_eq_some {s s' : MemServer} {src : List UInt8} {startLba : ℕ}
    (h : s.handleWriteOp src startLba = some s') :
    blockOffset startLba + src.length ≤ s.size ∧
      s' = { s with buf := copyIn s.buf (blockOffset startLba) src } := by
  unfold handleWriteOp at h
  dsimp only at h
  split_ifs at h with hin
  cases h
  exact ⟨hin, rfl⟩

end MemServer

/-! ## The device's calls -/

namespace BlkDevice

variable {k : Kernel} {d d' : BlkDevice}

theorem moved_le (d : BlkDevice) (c count : ℕ) :
    d.moved c count ≤ count ∧ d.moved c count ≤ d.size - d.pos := by
  unfold moved
  omega

theorem moved_pos {c count : ℕ} (hc : 0 < count) (hpos : d.pos < d.size) : 0 < d.moved c count := by
  unfold moved
  omega

@[simp] theorem rest_seek (d : BlkDevice) (offset : ℕ) :
    ({ d with pos := offset } : BlkDevice).rest = bytesAt d.data offset (d.size - offset) := rfl

@[simp] theorem toMem_pos (d : BlkDevice) (offset : ℕ) :
    ({ d with pos := offset } : BlkDevice).toMem = d.toMem := rfl

/-- What is left is the `m` bytes at the offset, then what is left after them. -/
theorem rest_eq_append {m : ℕ} (hm : m ≤ d.size - d.pos) :
    d.rest = bytesAt d.data d.pos m ++ ({ d with pos := d.pos + m } : BlkDevice).rest := by
  unfold rest
  dsimp only
  rw [← bytesAt_add]
  congr 1
  omega

theorem seek_eq_ok {offset : ℕ} (h : offset ≤ d.size) : d.seek offset = .ok { d with pos := offset } :=
  if_pos ⟨lt_of_le_of_lt h d.size_lt, h⟩

theorem eq_of_seek_eq_ok {offset : ℕ} {d₁ : BlkDevice} (h : d.seek offset = .ok d₁) :
    offset ≤ d.size ∧ d₁ = { d with pos := offset } := by
  unfold seek at h
  split_ifs at h with hin
  cases h
  exact ⟨hin.2, rfl⟩

theorem eq_of_read_eq_ok {count : ℕ} {bs : List UInt8} (h : d.read k count = .ok (bs, d')) :
    ∃ c, bs = bytesAt d.data d.pos (d.moved c count) ∧
      d' = { d with pos := d.pos + d.moved c count } := by
  unfold read at h
  split at h
  · cases h
  · rename_i c _
    cases h
    exact ⟨c, rfl, rfl⟩

theorem read_ne_error (hk : k.NoErrors) (d : BlkDevice) (count e : ℕ) : d.read k count ≠ .error e := by
  unfold read
  split
  · rename_i e' he
    exact absurd he (hk _ _ _)
  · exact nofun

/-- `read` hands out the bytes from the offset to the end. -/
theorem readsStream (k : Kernel) : ReadsStream (read k) rest where
  split := by
    intro d count bs d' h
    obtain ⟨c, rfl, rfl⟩ := eq_of_read_eq_ok h
    exact rest_eq_append (moved_le _ _ _).2
  le := by
    intro d count bs d' h
    obtain ⟨c, rfl, -⟩ := eq_of_read_eq_ok h
    simpa using (moved_le _ _ _).1
  progress := by
    intro d count d' hc h
    obtain ⟨c, hbs, -⟩ := eq_of_read_eq_ok h
    have hm : d.moved c count = 0 := by simpa using congrArg List.length hbs.symm
    -- a call that moves nothing, handed something, is at the end
    have hend : d.size ≤ d.pos := by
      by_contra hlt
      exact absurd hm (Nat.pos_iff_ne_zero.mp (moved_pos hc (by omega)))
    rw [rest, Nat.sub_eq_zero_of_le hend]
    rfl

theorem eq_of_write_eq_ok {src : List UInt8} {ret : ℕ} (h : d.write k src = .ok (ret, d')) :
    d.pos < d.size ∧ (∃ c, ret = d.moved c src.length) ∧ d' = d.put (src.take ret) := by
  unfold write at h
  split at h
  · cases h
  · rename_i c _
    split_ifs at h with hfull
    cases h
    exact ⟨by omega, ⟨c, rfl⟩, rfl⟩

theorem write_eq_error {src : List UInt8} {e : ℕ} (h : d.write k src = .error e) :
    k d.pos src.length = .error e ∨ d.Full := by
  unfold write at h
  split at h
  · rename_i e' he
    cases h
    exact .inl he
  · split_ifs at h with hfull
    exact .inr hfull

@[simp] theorem put_nil (d : BlkDevice) : d.put [] = d := by
  simp [put]

theorem put_append (d : BlkDevice) (a b : List UInt8) : (d.put a).put b = d.put (a ++ b) := by
  simp only [put, List.length_append, MemServer.copyIn_append, Nat.add_assoc]

@[simp] theorem toMem_put (d : BlkDevice) (bs : List UInt8) :
    (d.put bs).toMem = ⟨MemServer.copyIn d.data d.pos bs, d.size⟩ := rfl

/-- `write` writes a prefix of what it is handed at the offset, at least one byte of a nonempty
buffer unless the offset is at the end. -/
theorem writesInto (k : Kernel) : WritesInto (write k) put Full where
  le := by
    intro d bs ret d' h
    obtain ⟨-, ⟨c, rfl⟩, -⟩ := eq_of_write_eq_ok h
    exact (moved_le _ _ _).1
  put_eq h := (eq_of_write_eq_ok h).2.2
  progress := by
    intro d bs d' hbs h
    obtain ⟨hpos, ⟨c, hc⟩, -⟩ := eq_of_write_eq_ok h
    have := moved_pos (c := c) (List.length_pos_iff.mpr hbs) hpos
    omega
  put_nil := put_nil
  put_append := put_append

/-- With a kernel that does not fail, `WriteFull` of a buffer that fits before the end writes all
of it at the offset. -/
theorem writeFull_of_noErrors (hk : k.NoErrors) {buf : List UInt8}
    (h : d.pos + buf.length ≤ d.size) : writeFull (write k) buf d = (.ok (), d.put buf) := by
  obtain ⟨m, hm, hput, hspec⟩ := writeFull_spec (writesInto k) buf d
  -- a stalled or failed `write` after `m < |buf|` bytes is at an offset inside the device
  have hinside : ∀ {m}, m < buf.length → ¬Full (d.put (buf.take m)) := by
    intro m hm hfull
    simp only [Full, put, List.length_take] at hfull
    omega
  generalize writeFull (write k) buf d = r at hput hspec
  obtain ⟨st, d₂⟩ := r
  dsimp only at hput hspec
  subst hput
  cases hspec with
  | ok => rw [List.take_length]
  | stall hlt hfull => exact absurd hfull (hinside hlt)
  | fail hlt hwr =>
    rcases write_eq_error hwr with he | hfull
    · exact absurd he (hk _ _ _)
    · exact absurd hfull (hinside hlt)

/-- `ReadFull` on the device leaves its bytes and its size. -/
theorem toMem_readFull (k : Kernel) (size : ℕ) (d : BlkDevice) :
    (readFull (read k) size d).2.2.toMem = d.toMem :=
  readFullLoop_preserves (P := fun d' : BlkDevice => d'.toMem = d.toMem)
    (fun h hf => by obtain ⟨c, -, rfl⟩ := eq_of_read_eq_ok h; exact hf) size 0 [] d rfl

/-- `WriteFull` on the device does not take the offset past the end. -/
theorem pos_le_writeFull (k : Kernel) (buf : List UInt8) {d : BlkDevice} (hd : d.pos ≤ d.size) :
    (writeFull (write k) buf d).2.pos ≤ (writeFull (write k) buf d).2.size :=
  writeFullLoop_preserves (P := fun d' : BlkDevice => d'.pos ≤ d'.size)
    (fun {f bs _ _} h _ => by
      obtain ⟨hpos, ⟨c, rfl⟩, rfl⟩ := eq_of_write_eq_ok h
      have := (moved_le f c bs.length).2
      simp only [put, List.length_take]
      omega) buf 0 d hd

/-- `ReadFull` on the device does not take the offset past the end. -/
theorem pos_le_readFull (k : Kernel) (size : ℕ) {d : BlkDevice} (hd : d.pos ≤ d.size) :
    (readFull (read k) size d).2.2.pos ≤ (readFull (read k) size d).2.2.size :=
  readFullLoop_preserves (P := fun d' : BlkDevice => d'.pos ≤ d'.size)
    (fun {f count _ _} h _ => by
      obtain ⟨c, -, rfl⟩ := eq_of_read_eq_ok h
      have := (moved_le f c count).2
      dsimp only
      omega) size 0 [] d hd

theorem size_writeFull (k : Kernel) (buf : List UInt8) (d : BlkDevice) :
    (writeFull (write k) buf d).2.size = d.size := by
  obtain ⟨m, -, hput, -⟩ := writeFull_spec (writesInto k) buf d
  rw [hput]
  rfl

end BlkDevice

/-! ## Reads and writes -/

namespace BlkServer

open BlkDevice

variable {k : Kernel} {d : BlkDevice} {offset len respSize : ℕ}

theorem map_eq_ok {st : Status Unit} {v w : ℤ} :
    st.map (fun _ => w) = .ok v ↔ st = .ok () ∧ v = w := by
  cases st <;> simp [Except.map, eq_comm]

/-- After a successful seek, `HandleRead` is `ReadFull` with its status mapped to `len`. -/
theorem handleRead_of_seek {d₁ : BlkDevice} (h : d.seek offset = .ok d₁) :
    handleRead k d offset len respSize =
      ((readFull (read k) respSize d₁).1.map fun _ => toInt32 len,
        (readFull (read k) respSize d₁).2.1, (readFull (read k) respSize d₁).2.2) := by
  unfold handleRead
  rw [h]
  dsimp only
  split <;> rename_i heq <;> rw [heq] <;> rfl

/-- After a successful seek, `HandleWrite` is `WriteFull` with its status mapped to `len`. -/
theorem handleWrite_of_seek {d₁ : BlkDevice} {payload : List UInt8} (h : d.seek offset = .ok d₁) :
    handleWrite k d offset len payload =
      ((writeFull (write k) payload d₁).1.map fun _ => toInt32 len,
        (writeFull (write k) payload d₁).2) := by
  unfold handleWrite
  rw [h]
  dsimp only
  split <;> rename_i heq <;> rw [heq] <;> rfl

/-- `HandleRead` leaves the device's bytes and size as they are. -/
theorem toMem_handleRead (k : Kernel) (d : BlkDevice) (offset len respSize : ℕ) :
    (handleRead k d offset len respSize).2.2.toMem = d.toMem := by
  cases hseek : d.seek offset with
  | error e => simp [handleRead, hseek]
  | ok d₁ =>
    rw [handleRead_of_seek hseek, (eq_of_seek_eq_ok hseek).2]
    exact toMem_readFull k respSize _

/-- A successful `HandleRead` lies inside the device and returns its bytes. -/
theorem eq_of_handleRead_eq_ok {v : ℤ} (h : (handleRead k d offset len respSize).1 = .ok v) :
    v = toInt32 len ∧ offset + respSize ≤ d.size ∧
      (handleRead k d offset len respSize).2.1 = bytesAt d.data offset respSize := by
  cases hseek : d.seek offset with
  | error e => simp [handleRead, hseek] at h
  | ok d₁ =>
    obtain ⟨hoff, rfl⟩ := eq_of_seek_eq_ok hseek
    rw [handleRead_of_seek hseek] at h ⊢
    have hspec := (readFull_spec (readsStream k) respSize { d with pos := offset }).1
    generalize readFull (read k) respSize { d with pos := offset } = r at h hspec
    obtain ⟨st, out, d₂⟩ := r
    obtain ⟨rfl, hv⟩ := map_eq_ok.mp h
    -- only a `ReadFull` that stored `respSize` bytes succeeds
    cases hspec with
    | ok hs =>
      rw [rest_seek, length_bytesAt] at hs
      exact ⟨hv, by omega, by rw [rest_seek, take_bytesAt hs]⟩

/-- With a kernel that does not fail, a read inside the device returns its bytes. -/
theorem handleRead_of_noErrors (hk : k.NoErrors) (h : offset + respSize ≤ d.size) :
    (handleRead k d offset len respSize).1 = .ok (toInt32 len) ∧
      (handleRead k d offset len respSize).2.1 = bytesAt d.data offset respSize := by
  have hseek := seek_eq_ok (d := d) (by omega : offset ≤ d.size)
  obtain ⟨hok, hout⟩ := readFull_eq_ok (readsStream k) (read_ne_error hk)
    (by rw [rest_seek, length_bytesAt]; omega : respSize ≤ ({ d with pos := offset } : BlkDevice).rest.length)
  rw [handleRead_of_seek hseek, hok, hout, rest_seek, take_bytesAt (by omega)]
  exact ⟨rfl, rfl⟩

/-- **A write writes a prefix of its payload at its offset**, under any kernel: all of it, inside
the device, when it succeeds. -/
theorem handleWrite_prefix (k : Kernel) (d : BlkDevice) (offset len : ℕ) (payload : List UInt8) :
    ∃ m ≤ payload.length,
      (handleWrite k d offset len payload).2.toMem =
        ⟨MemServer.copyIn d.data offset (payload.take m), d.size⟩ ∧
      ∀ v, (handleWrite k d offset len payload).1 = .ok v →
        v = toInt32 len ∧ m = payload.length ∧ offset + m ≤ d.size := by
  cases hseek : d.seek offset with
  | error e => exact ⟨0, Nat.zero_le _, by simp [handleWrite, hseek, toMem], by simp [handleWrite, hseek]⟩
  | ok d₁ =>
    obtain ⟨hoff, rfl⟩ := eq_of_seek_eq_ok hseek
    rw [handleWrite_of_seek hseek]
    have hpos := pos_le_writeFull k payload (d := { d with pos := offset }) hoff
    obtain ⟨m, hm, hput, hspec⟩ := writeFull_spec (writesInto k) payload { d with pos := offset }
    refine ⟨m, hm, by rw [hput, toMem_put], fun v h => ?_⟩
    rw [hput] at hpos
    simp only [put, List.length_take] at hpos
    generalize writeFull (write k) payload { d with pos := offset } = r at h hspec
    obtain ⟨st, d₂⟩ := r
    obtain ⟨rfl, hv⟩ := map_eq_ok.mp h
    -- only the `WriteFull` that wrote all of the payload succeeds
    cases hspec with
    | ok => exact ⟨hv, rfl, by omega⟩

/-- With a kernel that does not fail, a write inside the device copies all of its payload. -/
theorem handleWrite_of_noErrors (hk : k.NoErrors) {payload : List UInt8}
    (h : offset + payload.length ≤ d.size) :
    (handleWrite k d offset len payload).1 = .ok (toInt32 len) ∧
      (handleWrite k d offset len payload).2.toMem =
        ⟨MemServer.copyIn d.data offset payload, d.size⟩ := by
  have hseek := seek_eq_ok (d := d) (by omega : offset ≤ d.size)
  rw [handleWrite_of_seek hseek, writeFull_of_noErrors hk h]
  exact ⟨rfl, rfl⟩

/-! ## The device's size and offset -/

theorem size_pos_handleRead (k : Kernel) (d : BlkDevice) (offset len respSize : ℕ)
    (hd : d.pos ≤ d.size) :
    (handleRead k d offset len respSize).2.2.size = d.size ∧
      (handleRead k d offset len respSize).2.2.pos ≤ d.size := by
  have hsize : (handleRead k d offset len respSize).2.2.size = d.size :=
    congrArg MemServer.size (toMem_handleRead k d offset len respSize)
  refine ⟨hsize, ?_⟩
  cases hseek : d.seek offset with
  | error e => simpa [handleRead, hseek] using hd
  | ok d₁ =>
    obtain ⟨hoff, rfl⟩ := eq_of_seek_eq_ok hseek
    have := pos_le_readFull k respSize (d := { d with pos := offset }) hoff
    rw [handleRead_of_seek hseek] at hsize ⊢
    dsimp only at hsize ⊢
    omega

theorem size_pos_handleWrite (k : Kernel) (d : BlkDevice) (offset len : ℕ)
    (payload : List UInt8) (hd : d.pos ≤ d.size) :
    (handleWrite k d offset len payload).2.size = d.size ∧
      (handleWrite k d offset len payload).2.pos ≤ d.size := by
  cases hseek : d.seek offset with
  | error e => simpa [handleWrite, hseek] using hd
  | ok d₁ =>
    obtain ⟨hoff, rfl⟩ := eq_of_seek_eq_ok hseek
    have hpos := pos_le_writeFull k payload (d := { d with pos := offset }) hoff
    have hsize := size_writeFull k payload { d with pos := offset }
    rw [handleWrite_of_seek hseek]
    dsimp only at hsize hpos ⊢
    exact ⟨hsize, by omega⟩

theorem size_pos_handleDiscard (d : BlkDevice) (offset len mode : ℕ) (ret : ℤ)
    (hd : d.pos ≤ d.size) :
    (handleDiscard d offset len mode ret).2.size = d.size ∧
      (handleDiscard d offset len mode ret).2.pos ≤ d.size := by
  cases hseek : d.seek offset with
  | error e => simpa [handleDiscard, hseek] using hd
  | ok d₁ =>
    obtain ⟨hoff, rfl⟩ := eq_of_seek_eq_ok hseek
    simp only [handleDiscard, hseek]
    split_ifs
    · exact ⟨rfl, hoff⟩
    · unfold fallocate
      split_ifs
      · exact ⟨rfl, hoff⟩
      · exact ⟨rfl, hoff⟩

/-- Every op keeps the device's size, and the file offset inside the device. -/
theorem size_pos_handleStorageOp (k : Kernel) (ret : ℤ) {d : BlkDevice} (iod : IODesc)
    (reqPayload : List UInt8) (respSize : ℕ) (hd : d.pos ≤ d.size) :
    (handleStorageOp k ret d iod reqPayload respSize).2.1.size = d.size ∧
      (handleStorageOp k ret d iod reqPayload respSize).2.1.pos ≤ d.size := by
  unfold handleStorageOp
  split
  · exact size_pos_handleRead k d _ _ respSize hd
  · exact size_pos_handleWrite k d _ _ reqPayload hd
  · exact ⟨rfl, hd⟩
  · exact size_pos_handleDiscard d _ _ _ ret hd
  · exact size_pos_handleDiscard d _ _ _ ret hd
  · exact ⟨rfl, hd⟩

/-! ## The block server refines the memory server -/

theorem sectorOffset_eq_blockOffset (startSector : ℕ) :
    sectorOffset startSector = MemServer.blockOffset startSector := rfl

/-- **The block server refines the memory server**: with a kernel that does not fail, a read or
a write that the memory server handles is handled by the block server with the same status, the
same response bytes and the same device bytes after, whatever the file offset. -/
theorem handleStorageOp_refines {k : Kernel} (hk : k.NoErrors) (ret : ℤ) (d : BlkDevice)
    {iod : IODesc} {reqPayload : List UInt8} {respSize : ℕ} {r : Status ℤ} {s' : MemServer}
    {bytes : List UInt8} (hop : iod.op = .kRead ∨ iod.op = .kWrite)
    (h : d.toMem.handleStorageOp iod reqPayload respSize = some (r, s', bytes)) :
    ∃ d', handleStorageOp k ret d iod reqPayload respSize = (r.mapError Int.ofNat, d', bytes) ∧
      d'.toMem = s' := by
  rcases hop with hop | hop
  · simp only [MemServer.handleStorageOp, hop, Option.map_eq_some_iff] at h
    obtain ⟨out, hread, heq⟩ := h
    obtain ⟨hin, rfl⟩ := MemServer.eq_of_handleReadOp_eq_some hread
    simp only [Prod.mk.injEq] at heq
    obtain ⟨rfl, rfl, rfl⟩ := heq
    obtain ⟨hok, hout⟩ := @handleRead_of_noErrors k d _ (sectorBytes iod.numSectors) _ hk hin
    refine ⟨_, ?_, toMem_handleRead k d (MemServer.blockOffset iod.startSector)
      (sectorBytes iod.numSectors) respSize⟩
    simp only [handleStorageOp, hop, sectorOffset_eq_blockOffset, hok, hout]
    rfl
  · simp only [MemServer.handleStorageOp, hop, Option.map_eq_some_iff] at h
    obtain ⟨s₁, hwrite, heq⟩ := h
    obtain ⟨hin, rfl⟩ := MemServer.eq_of_handleWriteOp_eq_some hwrite
    simp only [Prod.mk.injEq] at heq
    obtain ⟨rfl, rfl, rfl⟩ := heq
    obtain ⟨hok, hmem⟩ := @handleWrite_of_noErrors k d _ (sectorBytes iod.numSectors) hk _ hin
    refine ⟨_, ?_, hmem⟩
    simp only [handleStorageOp, hop, sectorOffset_eq_blockOffset, hok]

/-- With a kernel that does not fail, a write op inside the device copies its payload. -/
theorem toMem_handleStorageOp_write {k : Kernel} (hk : k.NoErrors) (ret : ℤ) {d : BlkDevice}
    {iod : IODesc} {reqPayload : List UInt8} (respSize : ℕ) (hw : iod.op = .kWrite)
    (h : sectorOffset iod.startSector + reqPayload.length ≤ d.size) :
    (handleStorageOp k ret d iod reqPayload respSize).2.1.toMem =
      ⟨MemServer.copyIn d.data (sectorOffset iod.startSector) reqPayload, d.size⟩ := by
  simp only [handleStorageOp, hw]
  exact (handleWrite_of_noErrors hk h).2

theorem mapError_eq_ok {st : Status ℤ} {v : ℤ} : st.mapError Int.ofNat = .ok v ↔ st = .ok v := by
  cases st <;> simp [Except.mapError]

/-- **A read under any kernel** leaves the device's bytes as they are; one that succeeds returns
`len`, lies inside the device, and returns its bytes. So a read past the end fails. -/
theorem handleStorageOp_read (k : Kernel) (ret : ℤ) (d : BlkDevice)
    (numSectors startSector addr : ℕ) (reqPayload : List UInt8) (respSize : ℕ) :
    let r := handleStorageOp k ret d ⟨.kRead, numSectors, startSector, addr⟩ reqPayload respSize
    r.2.1.toMem = d.toMem ∧
      ∀ v, r.1 = .ok v → v = toInt32 (sectorBytes numSectors) ∧
        sectorOffset startSector + respSize ≤ d.size ∧
        r.2.2 = bytesAt d.data (sectorOffset startSector) respSize := by
  refine ⟨toMem_handleRead k d _ _ respSize, fun v h => ?_⟩
  exact eq_of_handleRead_eq_ok (mapError_eq_ok.mp h)

/-- **A write under any kernel** writes a prefix of its payload at its offset, and returns no
bytes; one that succeeds returns `len` and has written all of the payload, inside the device.
A write that fails can have written a part of it. -/
theorem handleStorageOp_write (k : Kernel) (ret : ℤ) (d : BlkDevice)
    (numSectors startSector addr : ℕ) (reqPayload : List UInt8) (respSize : ℕ) :
    let r := handleStorageOp k ret d ⟨.kWrite, numSectors, startSector, addr⟩ reqPayload respSize
    r.2.2 = [] ∧ ∃ m ≤ reqPayload.length,
      r.2.1.toMem = ⟨MemServer.copyIn d.data (sectorOffset startSector) (reqPayload.take m), d.size⟩ ∧
      ∀ v, r.1 = .ok v → v = toInt32 (sectorBytes numSectors) ∧ m = reqPayload.length ∧
        sectorOffset startSector + m ≤ d.size := by
  obtain ⟨m, hm, hmem, hok⟩ :=
    handleWrite_prefix k d (sectorOffset startSector) (sectorBytes numSectors) reqPayload
  exact ⟨rfl, m, hm, hmem, fun v h => hok v (mapError_eq_ok.mp h)⟩

/-! ## Runs -/

theorem MemServer.run_cons_eq_some {s s' : MemServer} {iod : IODesc} {req : List UInt8}
    {resp : ℕ} {rs : List Request} {outs : List (Status ℤ × List UInt8)} :
    MemServer.run s ((iod, req, resp) :: rs) = some (outs, s') ↔
      ∃ r s₁ bytes outs', s.handleStorageOp iod req resp = some (r, s₁, bytes) ∧
        MemServer.run s₁ rs = some (outs', s') ∧ outs = (r, bytes) :: outs' := by
  simp only [MemServer.run, Option.bind_eq_bind, Option.bind_eq_some_iff]
  constructor
  · rintro ⟨⟨r, s₁, bytes⟩, h₁, ⟨outs', s₂⟩, h₂, h₃⟩
    simp only [pure, Option.some.injEq, Prod.mk.injEq] at h₃
    obtain ⟨rfl, rfl⟩ := h₃
    exact ⟨r, s₁, bytes, outs', h₁, h₂, rfl⟩
  · rintro ⟨r, s₁, bytes, outs', h₁, h₂, rfl⟩
    exact ⟨(r, s₁, bytes), h₁, (outs', s'), h₂, rfl⟩

/-- **Every run of reads and writes** that the memory server handles is handled by the block
server, under a kernel that does not fail, with the same statuses and bytes, and the same
device bytes after. -/
theorem run_refines {k : Kernel} (hk : k.NoErrors) (ret : ℤ) {reqs : List Request}
    (hops : ∀ q ∈ reqs, q.1.op = .kRead ∨ q.1.op = .kWrite) (d : BlkDevice)
    {outs : List (Status ℤ × List UInt8)} {s' : MemServer}
    (h : MemServer.run d.toMem reqs = some (outs, s')) :
    (run k ret d reqs).1 = outs.map (fun o => (o.1.mapError Int.ofNat, o.2)) ∧
      (run k ret d reqs).2.toMem = s' := by
  induction reqs generalizing d outs with
  | nil =>
    simp only [MemServer.run, Option.some.injEq, Prod.mk.injEq] at h
    obtain ⟨rfl, rfl⟩ := h
    exact ⟨rfl, rfl⟩
  | cons q rs ih =>
    obtain ⟨iod, req, resp⟩ := q
    obtain ⟨r, s₁, bytes, outs', h₁, h₂, rfl⟩ := MemServer.run_cons_eq_some.mp h
    -- one step refines, and the run goes on from a device that is the memory server's
    obtain ⟨d₁, hstep, hd₁⟩ := handleStorageOp_refines hk ret d (hops _ (.head _)) h₁
    rw [← hd₁] at h₂
    obtain ⟨ih₁, ih₂⟩ := ih (fun q hq => hops q (.tail _ hq)) d₁ h₂
    simp only [run, hstep, List.map_cons, ih₁, ih₂, and_self]

end BlkServer

end Sandook.DiskServer
