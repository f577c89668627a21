import Sandook.Messages.Registration
import Sandook.VirtualDisk.Base

/-!
# Storage ops on the wire (`base/msg.h`, `virtual_disk/virtual_disk_remote.cc`,
`disk_server/disk_conn_handler.cc`)

Model of the encoders of the storage op request and its reply: `CreateStorageOpMsg` with the
data copy of `VirtualDiskRemote::ProcessStorageOp`, and `CreateStorageOpReplyMsg` with the
reply payload copy of `DiskConnHandler::HandleStorageOp`. The decoders they feed,
`DiskConnHandler::HandleMsg` and `VirtualDiskRemote::HandleStorageOpReply`, are those of
`Messages.Decoders`.

* An `IODesc` on the wire is its 40 bytes (`RawIODesc`): `op_flags`, `num_sectors`,
  `start_sector`, `addr` and the two callback words, each of its C type's width. `msg->iod = iod`
  copies all of them, and the server's reply echoes the 40 bytes it received.
* `make_unique_for_overwrite` leaves the bytes of a buffer as they were: `bytesAt junk 0 n` are
  those bytes, and an encoder lays its writes over them in the source's order. The padding after
  `affinity` and after `res` is never written.
* A write's data is the `num_sectors << kSectorShift` bytes at `iod.addr` of the client's memory
  (`mem`), the shift on the `unsigned` field (`sectorBytes`); every other op sends no data.
  `GetMsgSize` gives the whole buffer, so the message sent is all of it.

Results:
* `handleMsg_processStorageOpMsg`: for every descriptor, request id, affinity and prior content
  of the buffer, the disk server decodes the fields and the data the client encoded, or the
  rejection of a write without affinity by a server in read mode.
* `handleStorageOpReply_storageOpReply_read`, `_write`, `_reject`: the client decodes a reply
  that echoes its descriptor into the result the server sent, and a read's data into its buffer
  unless the buffer is null.
-/

namespace Sandook.Messages

open Sandook.Lib Sandook.VirtualDisk

/-! ## Layouts -/

/-- `sizeof(IODesc)`. -/
def kIODescSize : ℕ := 40

/-- `sizeof(StorageOpMsg)`: `IODesc iod`, `uint64_t req_id`, `ServerID affinity`, padding. -/
def kStorageOpMsgSize : ℕ := 56

/-- An `IODesc` as a message carries it. -/
structure RawIODesc where
  opFlags : UInt32
  numSectors : UInt32
  startSector : UInt64
  addr : UInt64
  callbackArgs : UInt64
  callback : UInt64
  deriving DecidableEq, Repr

namespace RawIODesc

/-- The 40 bytes of the struct, its fields at offsets 0, 4, 8, 16, 24 and 32. -/
def bytes (iod : RawIODesc) : List UInt8 :=
  toBytesLE 4 iod.opFlags.toNat ++ toBytesLE 4 iod.numSectors.toNat ++
    toBytesLE 8 iod.startSector.toNat ++ toBytesLE 8 iod.addr.toNat ++
    toBytesLE 8 iod.callbackArgs.toNat ++ toBytesLE 8 iod.callback.toNat

@[simp] theorem length_bytes (iod : RawIODesc) : iod.bytes.length = kIODescSize := by
  simp [bytes, kIODescSize]

theorem bytes_opFlags (iod : RawIODesc) :
    (iod.bytes.drop 0).take 4 = toBytesLE 4 iod.opFlags.toNat := by
  simp [bytes]

theorem bytes_numSectors (iod : RawIODesc) :
    (iod.bytes.drop 4).take 4 = toBytesLE 4 iod.numSectors.toNat := by
  simp [bytes]

theorem bytes_startSector (iod : RawIODesc) :
    (iod.bytes.drop 8).take 8 = toBytesLE 8 iod.startSector.toNat := by
  simp [bytes, List.drop_append, List.drop_eq_nil_of_le]

theorem bytes_addr (iod : RawIODesc) :
    (iod.bytes.drop 16).take 8 = toBytesLE 8 iod.addr.toNat := by
  simp [bytes, List.drop_append, List.drop_eq_nil_of_le]

end RawIODesc

/-- The `n` bytes of `mem` from `off`: what a `memcpy` from `mem + off` reads. -/
def bytesAt (mem : ℕ → UInt8) (off n : ℕ) : List UInt8 := (List.range n).map fun i => mem (off + i)

@[simp] theorem length_bytesAt (mem : ℕ → UInt8) (off n : ℕ) : (bytesAt mem off n).length = n := by
  simp [bytesAt]

/-- A field read of the bytes of `n` returns `n`. -/
theorem loadField_toBytesLE {p : List UInt8} {off w n : ℕ} (h : load p off w = .ok (toBytesLE w n))
    (hn : n < 256 ^ w) : loadField p off w = .ok n := by
  rw [loadField, h]
  exact congrArg Except.ok ((ofBytesLE_toBytesLE w n).trans (Nat.mod_eq_of_lt hn))

/-! ## The request -/

/-- The writes of `CreateStorageOpMsg(iod, req_id, affinity, payload_size)`, in its order: the
header's `len`, `type` and `payload_size`, then `iod`, `req_id` and `affinity`. -/
def storageOpWrites (iod : RawIODesc) (reqId : UInt64) (affinity : ServerID) (payloadSize : ℕ) :
    List (ℕ × List UInt8) :=
  [(0, toBytesLE 8 (kStorageOpMsgSize + payloadSize)), (12, toBytesLE 4 MsgType.kStorageOp.value),
    (8, toBytesLE 4 payloadSize), (kMsgHeaderSize, iod.bytes),
    (kMsgHeaderSize + 40, toBytesLE 8 reqId.toNat), (kMsgHeaderSize + 48, toBytesLE 4 affinity)]

/-- `CreateStorageOpMsg`, over the `sizeof(MsgHeader) + sizeof(StorageOpMsg) + payload_size`
bytes the allocation left. -/
def createStorageOpMsg (junk : ℕ → UInt8) (iod : RawIODesc) (reqId : UInt64) (affinity : ServerID)
    (payloadSize : ℕ) : List UInt8 :=
  writeAll (bytesAt junk 0 (kMsgHeaderSize + kStorageOpMsgSize + payloadSize))
    (storageOpWrites iod reqId affinity payloadSize)

/-- The message `VirtualDiskRemote::ProcessStorageOp` sends: a write carries the
`num_sectors << kSectorShift` bytes at `iod.addr` after the struct; every other op goes as a
read, with no data. -/
def processStorageOpMsg (junk mem : ℕ → UInt8) (iod : RawIODesc) (reqId : UInt64)
    (affinity : ServerID) : List UInt8 :=
  match opOfFlags iod.opFlags.toNat with
  | some .kWrite =>
    let payloadLen := sectorBytes iod.numSectors.toNat
    writeAt (createStorageOpMsg junk iod reqId affinity payloadLen)
      (kMsgHeaderSize + kStorageOpMsgSize) (bytesAt mem iod.addr.toNat payloadLen)
  | _ => createStorageOpMsg junk iod reqId affinity 0

/-- The data a message for `iod` carries. -/
def RawIODesc.payload (iod : RawIODesc) (mem : ℕ → UInt8) : List UInt8 :=
  if opOfFlags iod.opFlags.toNat = some .kWrite then
    bytesAt mem iod.addr.toNat (sectorBytes iod.numSectors.toNat)
  else []

section Request

variable {junk mem : ℕ → UInt8} {iod : RawIODesc} {reqId : UInt64} {affinity : ServerID}
  {payloadSize : ℕ}

theorem storageOpWrites_le : ∀ w ∈ storageOpWrites iod reqId affinity payloadSize,
    w.1 + w.2.length ≤ (bytesAt junk 0 (kMsgHeaderSize + kStorageOpMsgSize + payloadSize)).length := by
  simp only [storageOpWrites, List.forall_mem_cons, List.not_mem_nil, IsEmpty.forall_iff,
    implies_true, and_true, length_toBytesLE, RawIODesc.length_bytes, length_bytesAt]
  simp only [kMsgHeaderSize, kStorageOpMsgSize, kIODescSize]
  omega

theorem length_createStorageOpMsg :
    (createStorageOpMsg junk iod reqId affinity payloadSize).length =
      kMsgHeaderSize + kStorageOpMsgSize + payloadSize :=
  (length_writeAll storageOpWrites_le).trans (length_bytesAt _ _ _)

theorem load_createStorageOpMsg_len :
    load (createStorageOpMsg junk iod reqId affinity payloadSize) 0 8 =
      .ok (toBytesLE 8 (kStorageOpMsgSize + payloadSize)) := by
  refine (load_writeAll_of_within [] [_, _, _, _, _] storageOpWrites_le le_rfl (by simp) ?_).trans ?_
  · simp [kMsgHeaderSize]
  · simp

theorem load_createStorageOpMsg_type :
    load (createStorageOpMsg junk iod reqId affinity payloadSize) 12 4 =
      .ok (toBytesLE 4 MsgType.kStorageOp.value) := by
  refine (load_writeAll_of_within [_] [_, _, _, _] storageOpWrites_le le_rfl (by simp) ?_).trans ?_
  · simp [kMsgHeaderSize]
  · simp

theorem load_createStorageOpMsg_payloadSize :
    load (createStorageOpMsg junk iod reqId affinity payloadSize) 8 4 =
      .ok (toBytesLE 4 payloadSize) := by
  refine (load_writeAll_of_within [_, _] [_, _, _] storageOpWrites_le le_rfl (by simp) ?_).trans ?_
  · simp [kMsgHeaderSize]
  · simp

/-- A read inside `msg->iod` returns the descriptor's bytes it covers. -/
theorem load_createStorageOpMsg_iod {off width : ℕ} (h : off + width ≤ kIODescSize) :
    load (createStorageOpMsg junk iod reqId affinity payloadSize) (kMsgHeaderSize + off) width =
      .ok ((iod.bytes.drop off).take width) := by
  refine (load_writeAll_of_within [_, _, _] [_, _] storageOpWrites_le (by omega)
    (by simp only [RawIODesc.length_bytes]; omega) ?_).trans ?_
  · simp [kMsgHeaderSize, kIODescSize] at h ⊢
    omega
  · simp

theorem load_createStorageOpMsg_reqId :
    load (createStorageOpMsg junk iod reqId affinity payloadSize) (kMsgHeaderSize + 40) 8 =
      .ok (toBytesLE 8 reqId.toNat) := by
  refine (load_writeAll_of_within [_, _, _, _] [_] storageOpWrites_le le_rfl (by simp) ?_).trans ?_
  · simp [kMsgHeaderSize]
  · simp

theorem load_createStorageOpMsg_affinity :
    load (createStorageOpMsg junk iod reqId affinity payloadSize) (kMsgHeaderSize + 48) 4 =
      .ok (toBytesLE 4 affinity) := by
  refine (load_writeAll_of_within [_, _, _, _, _] [] storageOpWrites_le le_rfl (by simp)
    (by simp)).trans ?_
  simp

/-- Both branches of `ProcessStorageOp` send the struct followed by the op's data. -/
theorem processStorageOpMsg_eq :
    processStorageOpMsg junk mem iod reqId affinity =
      writeAt (createStorageOpMsg junk iod reqId affinity (iod.payload mem).length)
        (kMsgHeaderSize + kStorageOpMsgSize) (iod.payload mem) := by
  unfold processStorageOpMsg RawIODesc.payload
  split
  · next h => rw [if_pos h, length_bytesAt]
  · next h => rw [if_neg h, List.length_nil, writeAt_nil]

theorem payload_of_write (hop : opOfFlags iod.opFlags.toNat = some .kWrite) :
    iod.payload mem = bytesAt mem iod.addr.toNat (sectorBytes iod.numSectors.toNat) :=
  if_pos hop

/-- The data fits the `uint32_t` `payload_size`. -/
theorem length_payload_lt : (iod.payload mem).length < 2 ^ 32 := by
  unfold RawIODesc.payload sectorBytes
  split
  · rw [length_bytesAt]
    exact Nat.mod_lt _ (by norm_num)
  · simp

theorem length_processStorageOpMsg :
    (processStorageOpMsg junk mem iod reqId affinity).length =
      kMsgHeaderSize + kStorageOpMsgSize + (iod.payload mem).length := by
  rw [processStorageOpMsg_eq, length_writeAt (by rw [length_createStorageOpMsg]),
    length_createStorageOpMsg]

/-- The reads of the header and of the struct end before the data. -/
theorem load_processStorageOpMsg_of_le {off width : ℕ}
    (h : off + width ≤ kMsgHeaderSize + kStorageOpMsgSize) :
    load (processStorageOpMsg junk mem iod reqId affinity) off width =
      load (createStorageOpMsg junk iod reqId affinity (iod.payload mem).length) off width := by
  rw [processStorageOpMsg_eq]
  exact load_writeAt_of_le (by rw [length_createStorageOpMsg]) h

theorem load_processStorageOpMsg_payload :
    load (processStorageOpMsg junk mem iod reqId affinity) (kMsgHeaderSize + kStorageOpMsgSize)
      (iod.payload mem).length = .ok (iod.payload mem) := by
  rw [processStorageOpMsg_eq]
  exact load_writeAt_self (by rw [length_createStorageOpMsg])

/-- A field of the descriptor reads back from the message. -/
theorem loadField_processStorageOpMsg_iod {off w n : ℕ} (hw : off + w ≤ kIODescSize)
    (hn : (iod.bytes.drop off).take w = toBytesLE w n) (hlt : n < 256 ^ w) :
    loadField (processStorageOpMsg junk mem iod reqId affinity) (kMsgHeaderSize + off) w = .ok n := by
  refine loadField_toBytesLE ((load_processStorageOpMsg_of_le ?_).trans ?_) hlt
  · simp only [kIODescSize, kMsgHeaderSize, kStorageOpMsgSize] at hw ⊢
    omega
  · rw [load_createStorageOpMsg_iod hw, hn]

/-- The server's copy of `msg->iod` is the client's descriptor. -/
theorem load_processStorageOpMsg_iod :
    load (processStorageOpMsg junk mem iod reqId affinity) kMsgHeaderSize kIODescSize =
      .ok iod.bytes := by
  rw [load_processStorageOpMsg_of_le (by decide), ← Nat.add_zero kMsgHeaderSize,
    load_createStorageOpMsg_iod le_rfl, List.drop_zero, ← iod.length_bytes, List.take_length]

/-- **The disk server decodes what the client encoded.** For every descriptor, request id and
affinity, and every prior content of the buffer, `DiskConnHandler::HandleMsg` hands the server
the op's fields and data, unless the op is a write without affinity and the server is in read
mode, which it rejects. -/
theorem handleMsg_processStorageOpMsg (allowingWrites : Bool) (haff : affinity < 2 ^ 32) :
    handleMsg allowingWrites (processStorageOpMsg junk mem iod reqId affinity) =
      .ok (if affinity = kInvalidServerID ∧ opOfFlags iod.opFlags.toNat = some .kWrite ∧
          allowingWrites = false then .reject iod.opFlags.toNat reqId.toNat .kRejectModeMismatch
        else .storageOp iod.opFlags.toNat iod.numSectors.toNat iod.startSector.toNat
          iod.addr.toNat reqId.toNat affinity (iod.payload mem)) := by
  set p := processStorageOpMsg junk mem iod reqId affinity
  have hlen : p.length = kMsgHeaderSize + kStorageOpMsgSize + (iod.payload mem).length :=
    length_processStorageOpMsg
  have hpay : (iod.payload mem).length < 2 ^ 32 := length_payload_lt
  -- the header
  have htype : loadField p 12 4 = .ok MsgType.kStorageOp.value :=
    loadField_toBytesLE ((load_processStorageOpMsg_of_le (by decide)).trans
      load_createStorageOpMsg_type) (by decide)
  have hmsgLen : loadField p 0 8 = .ok (kStorageOpMsgSize + (iod.payload mem).length) :=
    loadField_toBytesLE ((load_processStorageOpMsg_of_le (by decide)).trans
      load_createStorageOpMsg_len) (by simp only [kStorageOpMsgSize]; omega)
  have hpsize : loadField p 8 4 = .ok (iod.payload mem).length :=
    loadField_toBytesLE ((load_processStorageOpMsg_of_le (by decide)).trans
      load_createStorageOpMsg_payloadSize) (by simpa using hpay)
  -- the struct
  have hopFlags : loadField p (kMsgHeaderSize + 0) 4 = .ok iod.opFlags.toNat :=
    loadField_processStorageOpMsg_iod (by decide) iod.bytes_opFlags
      (by simpa using iod.opFlags.toNat_lt)
  have hnum : loadField p (kMsgHeaderSize + 4) 4 = .ok iod.numSectors.toNat :=
    loadField_processStorageOpMsg_iod (by decide) iod.bytes_numSectors
      (by simpa using iod.numSectors.toNat_lt)
  have hstart : loadField p (kMsgHeaderSize + 8) 8 = .ok iod.startSector.toNat :=
    loadField_processStorageOpMsg_iod (by decide) iod.bytes_startSector
      (by simpa using iod.startSector.toNat_lt)
  have haddr : loadField p (kMsgHeaderSize + 16) 8 = .ok iod.addr.toNat :=
    loadField_processStorageOpMsg_iod (by decide) iod.bytes_addr
      (by simpa using iod.addr.toNat_lt)
  have hreq : loadField p (kMsgHeaderSize + 40) 8 = .ok reqId.toNat :=
    loadField_toBytesLE ((load_processStorageOpMsg_of_le (by decide)).trans
      load_createStorageOpMsg_reqId) (by simpa using reqId.toNat_lt)
  have haffinity : loadField p (kMsgHeaderSize + 48) 4 = .ok affinity :=
    loadField_toBytesLE ((load_processStorageOpMsg_of_le (by decide)).trans
      load_createStorageOpMsg_affinity) (by simpa using haff)
  -- `payload.first(header->len)` and `payload.last(header->payload_size)`
  have hmsg : load p kMsgHeaderSize (kStorageOpMsgSize + (iod.payload mem).length) = .ok _ :=
    load_of_le (by omega)
  have hdata : lastRange p (iod.payload mem).length = .ok (iod.payload mem) := by
    rw [lastRange, if_pos (by omega), hlen, Nat.add_sub_cancel]
    exact load_processStorageOpMsg_payload
  rw [Nat.add_zero] at hopFlags
  simp only [handleMsg, htype, MsgType.ofValue_value, handleStorageOp, hmsgLen, hmsg, hopFlags,
    haffinity, hreq, hpsize, hdata, hnum, hstart, haddr, bind, Except.bind, pure, Except.pure]
  split_ifs <;> rfl

end Request

/-! ## The reply -/

/-- The value of a `StorageOpReplyCode` enumerator. -/
def replyCodeValue : StorageOpReplyCode → ℕ
  | .kSuccess => 0 | .kFailure => 1 | .kRejectModeMismatch => 2 | .kRejectDeviceBusy => 3
  | .kSuccessCongested => 4

@[simp] theorem replyCodeOfValue_value (c : StorageOpReplyCode) :
    replyCodeOfValue (replyCodeValue c) = some c := by
  cases c <;> rfl

/-- The writes of `CreateStorageOpReplyMsg(iod, req_id, payload_size, res, code)`, in its order:
the header's `len`, `type` and a `payload_size` of `0`, then `iod`, `req_id`, `code` and
`res`. -/
def storageOpReplyWrites (iod : List UInt8) (reqId payloadSize : ℕ) (res : ℤ)
    (code : StorageOpReplyCode) : List (ℕ × List UInt8) :=
  [(0, toBytesLE 8 (kStorageOpReplyMsgSize + payloadSize)),
    (12, toBytesLE 4 MsgType.kStorageOpReply.value), (8, toBytesLE 4 0), (kMsgHeaderSize, iod),
    (kMsgHeaderSize + 40, toBytesLE 8 reqId), (kMsgHeaderSize + 48, toBytesLE 4 (replyCodeValue code)),
    (kMsgHeaderSize + 52, int32Bytes res)]

/-- `CreateStorageOpReplyMsg`, over the bytes the allocation left; `iod` is the 40 bytes of the
request's descriptor. -/
def createStorageOpReplyMsg (junk : ℕ → UInt8) (iod : List UInt8) (reqId payloadSize : ℕ)
    (res : ℤ) (code : StorageOpReplyCode) : List UInt8 :=
  writeAll (bytesAt junk 0 (kMsgHeaderSize + kStorageOpReplyMsgSize + payloadSize))
    (storageOpReplyWrites iod reqId payloadSize res code)

/-- A reply as `DiskConnHandler::HandleStorageOp` sends it: the struct, then the reply payload
copied after it. -/
def storageOpReply (junk : ℕ → UInt8) (iod : List UInt8) (reqId : ℕ) (payload : List UInt8)
    (res : ℤ) (code : StorageOpReplyCode) : List UInt8 :=
  writeAt (createStorageOpReplyMsg junk iod reqId payload.length res code)
    (kMsgHeaderSize + kStorageOpReplyMsgSize) payload

section Reply

variable {junk : ℕ → UInt8} {iod : List UInt8} {reqId payloadSize : ℕ} {payload : List UInt8}
  {res : ℤ} {code : StorageOpReplyCode}

theorem storageOpReplyWrites_le (reqId payloadSize : ℕ) (res : ℤ) (code : StorageOpReplyCode)
    (hiod : iod.length = kIODescSize) :
    ∀ w ∈ storageOpReplyWrites iod reqId payloadSize res code, w.1 + w.2.length ≤
      (bytesAt junk 0 (kMsgHeaderSize + kStorageOpReplyMsgSize + payloadSize)).length := by
  simp only [storageOpReplyWrites, List.forall_mem_cons, List.not_mem_nil, IsEmpty.forall_iff,
    implies_true, and_true, length_toBytesLE, length_int32Bytes, length_bytesAt, hiod]
  simp only [kMsgHeaderSize, kStorageOpReplyMsgSize, kIODescSize]
  omega

theorem length_createStorageOpReplyMsg (hiod : iod.length = kIODescSize) :
    (createStorageOpReplyMsg junk iod reqId payloadSize res code).length =
      kMsgHeaderSize + kStorageOpReplyMsgSize + payloadSize :=
  (length_writeAll (storageOpReplyWrites_le reqId payloadSize res code hiod)).trans
    (length_bytesAt _ _ _)

theorem load_createStorageOpReplyMsg_iod (hiod : iod.length = kIODescSize) {off width : ℕ}
    (h : off + width ≤ kIODescSize) :
    load (createStorageOpReplyMsg junk iod reqId payloadSize res code) (kMsgHeaderSize + off)
      width = .ok ((iod.drop off).take width) := by
  refine (load_writeAll_of_within [_, _, _] [_, _, _]
    (storageOpReplyWrites_le reqId payloadSize res code hiod) (by omega) (by rw [hiod]; omega)
    ?_).trans ?_
  · simp [kMsgHeaderSize, kIODescSize] at h ⊢
    omega
  · simp

theorem load_createStorageOpReplyMsg_code (hiod : iod.length = kIODescSize) :
    load (createStorageOpReplyMsg junk iod reqId payloadSize res code) (kMsgHeaderSize + 48) 4 =
      .ok (toBytesLE 4 (replyCodeValue code)) := by
  refine (load_writeAll_of_within [_, _, _, _, _] [_]
    (storageOpReplyWrites_le reqId payloadSize res code hiod) le_rfl (by simp) ?_).trans ?_
  · simp [kMsgHeaderSize]
  · simp

theorem load_createStorageOpReplyMsg_res (hiod : iod.length = kIODescSize) :
    load (createStorageOpReplyMsg junk iod reqId payloadSize res code) (kMsgHeaderSize + 52) 4 =
      .ok (int32Bytes res) := by
  refine (load_writeAll_of_within [_, _, _, _, _, _] []
    (storageOpReplyWrites_le reqId payloadSize res code hiod) le_rfl (by simp) (by simp)).trans ?_
  simp

/-- A reply with no payload is the struct alone, as `RejectStorageOp` sends it. -/
theorem storageOpReply_nil :
    storageOpReply junk iod reqId [] res code = createStorageOpReplyMsg junk iod reqId 0 res code :=
  writeAt_nil _ _

theorem length_storageOpReply (hiod : iod.length = kIODescSize) :
    (storageOpReply junk iod reqId payload res code).length =
      kMsgHeaderSize + kStorageOpReplyMsgSize + payload.length := by
  rw [storageOpReply, length_writeAt (by rw [length_createStorageOpReplyMsg hiod]),
    length_createStorageOpReplyMsg hiod]

/-- The reads of the header and of the struct end before the payload. -/
theorem load_storageOpReply_of_le (hiod : iod.length = kIODescSize) {off width : ℕ}
    (h : off + width ≤ kMsgHeaderSize + kStorageOpReplyMsgSize) :
    load (storageOpReply junk iod reqId payload res code) off width =
      load (createStorageOpReplyMsg junk iod reqId payload.length res code) off width :=
  load_writeAt_of_le (by rw [length_createStorageOpReplyMsg hiod]) h

theorem load_storageOpReply_payload (hiod : iod.length = kIODescSize) :
    load (storageOpReply junk iod reqId payload res code)
      (kMsgHeaderSize + kStorageOpReplyMsgSize) payload.length = .ok payload :=
  load_writeAt_self (by rw [length_createStorageOpReplyMsg hiod])

theorem loadField_storageOpReply_iod (hiod : iod.length = kIODescSize) {off w n : ℕ}
    (hw : off + w ≤ kIODescSize) (hn : (iod.drop off).take w = toBytesLE w n) (hlt : n < 256 ^ w) :
    loadField (storageOpReply junk iod reqId payload res code) (kMsgHeaderSize + off) w = .ok n := by
  refine loadField_toBytesLE ((load_storageOpReply_of_le hiod ?_).trans ?_) hlt
  · simp only [kIODescSize, kMsgHeaderSize, kStorageOpReplyMsgSize] at hw ⊢
    omega
  · rw [load_createStorageOpReplyMsg_iod hiod hw, hn]

end Reply

section ReplyRoundTrip

variable {junk : ℕ → UInt8} {iod : RawIODesc} {reqId : ℕ} {payload : List UInt8} {res : ℤ}
  {code : StorageOpReplyCode}

/-- Every field `HandleStorageOpReply` reads returns what the server wrote: the echoed
descriptor's `op_flags`, `num_sectors` and `addr`, the code and the result. -/
theorem storageOpReply_fields (junk : ℕ → UInt8) (iod : RawIODesc) (reqId : ℕ)
    (payload : List UInt8) (res : ℤ) (code : StorageOpReplyCode) :
    let r := storageOpReply junk iod.bytes reqId payload res code
    kStorageOpReplyMsgSize ≤ r.length ∧
      loadField r kMsgHeaderSize 4 = .ok iod.opFlags.toNat ∧
      loadField r (kMsgHeaderSize + 4) 4 = .ok iod.numSectors.toNat ∧
      loadField r (kMsgHeaderSize + 16) 8 = .ok iod.addr.toNat ∧
      loadField r (kMsgHeaderSize + 48) 4 = .ok (replyCodeValue code) ∧
      loadField r (kMsgHeaderSize + 52) 4 = .ok (ofBytesLE (int32Bytes res)) := by
  have hiod := iod.length_bytes
  have hopFlags : loadField (storageOpReply junk iod.bytes reqId payload res code)
      (kMsgHeaderSize + 0) 4 = .ok iod.opFlags.toNat :=
    loadField_storageOpReply_iod hiod (by decide) iod.bytes_opFlags
      (by simpa using iod.opFlags.toNat_lt)
  refine ⟨?_, hopFlags,
    loadField_storageOpReply_iod hiod (by decide) iod.bytes_numSectors
      (by simpa using iod.numSectors.toNat_lt),
    loadField_storageOpReply_iod hiod (by decide) iod.bytes_addr
      (by simpa using iod.addr.toNat_lt), ?_, ?_⟩
  · rw [length_storageOpReply hiod]
    omega
  · exact loadField_toBytesLE ((load_storageOpReply_of_le hiod (by decide)).trans
      (load_createStorageOpReplyMsg_code hiod)) (by cases code <;> decide)
  · rw [loadField, load_storageOpReply_of_le hiod (by decide),
      load_createStorageOpReplyMsg_res hiod]
    rfl

/-- **A successful read's reply** gives the client the server's result, and the payload in its
buffer unless the buffer is null. -/
theorem handleStorageOpReply_storageOpReply_read (hop : opOfFlags iod.opFlags.toNat = some .kRead)
    (hcode : code = .kSuccess ∨ code = .kSuccessCongested)
    (hlen : payload.length = sectorBytes iod.numSectors.toNat)
    (hres : -2 ^ 31 ≤ res ∧ res < 2 ^ 31) :
    handleStorageOpReply (storageOpReply junk iod.bytes reqId payload res code) =
      .ok (.result (.ok res) (if iod.addr.toNat ≠ 0 then payload else [])) := by
  obtain ⟨hlen', hopFlags, hnum, haddr, hcodeF, hresF⟩ :=
    storageOpReply_fields junk iod reqId payload res code
  have hlenEq : iod.numSectors.toNat * kDeviceAlignment % 2 ^ 32 = payload.length := hlen.symm
  unfold handleStorageOpReply
  rw [if_neg (by omega)]
  simp only [hopFlags, hop, hcodeF, hnum, haddr, hresF, signed32_int32Bytes hres, hlenEq, bind,
    Except.bind]
  rcases hcode with rfl | rfl <;> simp only [replyCodeOfValue_value]
  -- both success codes copy alike: the payload into a buffer that is not null, else nothing
  all_goals
    by_cases hc : 0 < payload.length ∧ iod.addr.toNat ≠ 0
    · simp only [hc, and_self, if_true, ne_eq, not_false_eq_true,
        load_storageOpReply_payload iod.length_bytes]
      rfl
    · have hnil : (if iod.addr.toNat ≠ 0 then payload else []) = [] := by
        split_ifs with hz
        · exact List.eq_nil_of_length_eq_zero (by omega)
        · rfl
      simp only [hc, if_false, hnil]
      rfl

/-- **A successful write's reply** gives the client the server's result. -/
theorem handleStorageOpReply_storageOpReply_write
    (hop : opOfFlags iod.opFlags.toNat = some .kWrite)
    (hcode : code = .kSuccess ∨ code = .kSuccessCongested) (hres : -2 ^ 31 ≤ res ∧ res < 2 ^ 31) :
    handleStorageOpReply (storageOpReply junk iod.bytes reqId payload res code) =
      .ok (.result (.ok res) []) := by
  obtain ⟨hlen', hopFlags, -, -, hcodeF, hresF⟩ :=
    storageOpReply_fields junk iod reqId payload res code
  unfold handleStorageOpReply
  rw [if_neg (by omega)]
  rcases hcode with rfl | rfl <;>
  · simp only [hopFlags, hop, hcodeF, replyCodeOfValue_value, hresF, signed32_int32Bytes hres,
      bind, Except.bind]
    rfl

/-- **A write rejected for the server's mode** fails at the client with `EROFS`. -/
theorem handleStorageOpReply_storageOpReply_reject
    (hop : opOfFlags iod.opFlags.toNat = some .kWrite) :
    handleStorageOpReply (storageOpReply junk iod.bytes reqId payload res .kRejectModeMismatch) =
      .ok (.result (.error EROFS) []) := by
  obtain ⟨hlen', hopFlags, -, -, hcodeF, -⟩ :=
    storageOpReply_fields junk iod reqId payload res .kRejectModeMismatch
  unfold handleStorageOpReply
  rw [if_neg (by omega)]
  simp only [hopFlags, hop, hcodeF, replyCodeOfValue_value, bind, Except.bind]
  rfl

end ReplyRoundTrip

end Sandook.Messages
