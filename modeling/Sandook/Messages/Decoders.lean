import Sandook.Base.Types
import Sandook.Lib.Bytes

/-!
# The bytes the message decoders read (`base/msg.h`, `disk_server/disk_conn_handler.cc`,
`virtual_disk/virtual_disk_remote.cc`)

A message is a `MsgHeader` (`size_t len`, `uint32_t payload_size`, `MsgType type`: 16 bytes)
followed by the message struct and, for a write, its data. The decoders cast the received bytes
to these structs and read their fields; here every such read is a `load` of its byte range, so a
decoder returns the first range it reads past the end of the payload instead of a result
(`Decode`). Layouts are those of x86-64: `IODesc` is 40 bytes, `StorageOpMsg` and
`StorageOpReplyMsg` 56, `ServerBlockInfo` 16, `ServerStats` 120.

* `DiskConnHandler::HandleMsg` reads the header's type and dispatches to `HandleStorageOp` and
  `HandleDiscardBlocks`, which take `payload.first(header->len)`, copy
  `payload.last(header->payload_size)`, and read `num_blocks` block addresses. The storage
  server's handling of the decoded request is not modelled: the decoder returns what it hands
  over (`DiskRequest`).
* `VirtualDiskRemote::HandleAllocateBlocksReply`, `HandleStorageOpReply` and
  `HandleGetServerStatsReply` check the payload against the size of the reply struct, then read
  the struct at offset `sizeof(MsgHeader)`. The congestion signal and the scheduler's
  `SetServerStats` are not modelled; `HandleStorageOpReply`'s copy into the caller's buffer is
  the range it reads.
* `std::span::subspan`, `first` and `last` past the span's end are counted as reads of the range
  they ask for.

Results:
* `handleMsg_nil`: `DiskConnHandler::HandleMsg` reads the header of an empty payload.
-/

namespace Sandook.Messages

open Sandook.Lib

/-- A decoder's run over a payload: its result, or the first range `(offset, width)` it reads
that passes the end of the payload. -/
abbrev Decode (α : Type) := Except (ℕ × ℕ) α

/-! ## Layouts -/

/-- `sizeof(MsgHeader)`. -/
def kMsgHeaderSize : ℕ := 16

/-- `sizeof(StorageOpReplyMsg)`: `IODesc iod`, `uint64_t req_id`, `code`, `int res`. -/
def kStorageOpReplyMsgSize : ℕ := 56

/-- `sizeof(ServerBlockInfo)`: `ServerID server_id`, padding, `ServerBlockAddr block_addr`. -/
def kServerBlockInfoSize : ℕ := 16

/-- `sizeof(AllocateBlocksReplyMsg)`: `kAllocationBatch` block infos. -/
def kAllocateBlocksReplyMsgSize : ℕ := kAllocationBatch * kServerBlockInfoSize

/-- `sizeof(ServerStats)`. -/
def kServerStatsSize : ℕ := 120

/-- `sizeof(GetServerStatsReplyMsg)`: `VolumeID vol_id`, `int num_servers`, then
`kNumMaxServers` records. -/
def kGetServerStatsReplyMsgSize : ℕ := 8 + kNumMaxServers * kServerStatsSize

/-- `kDiscardBatch`. -/
def kDiscardBatch : ℕ := 2048

/-- The offset of `DiscardBlocksMsg::num_blocks`, after `kDiscardBatch` block addresses. -/
def kNumBlocksOffset : ℕ := kDiscardBatch * 8

/-- `MsgType`, with the values of its enumerators. -/
inductive MsgType where
  | kStorageOp | kStorageOpReply | kAllocateBlocks | kAllocateBlocksReply | kDiscardBlocks
  | kRegisterServer | kRegisterServerReply | kRegisterVolume | kRegisterVolumeReply
  | kUpdateServerStats | kUpdateServerStatsReply | kCommitServerMode | kGetServerStats
  | kGetServerStatsReply | kGetControllerTime | kGetControllerTimeReply
  deriving DecidableEq, Repr

/-- The enumerator of `MsgType` with value `v`, if there is one. -/
def MsgType.ofValue : ℕ → Option MsgType
  | 0 => some .kStorageOp | 1 => some .kStorageOpReply | 2 => some .kAllocateBlocks
  | 3 => some .kAllocateBlocksReply | 4 => some .kDiscardBlocks | 5 => some .kRegisterServer
  | 6 => some .kRegisterServerReply | 7 => some .kRegisterVolume
  | 8 => some .kRegisterVolumeReply | 9 => some .kUpdateServerStats
  | 10 => some .kUpdateServerStatsReply | 11 => some .kCommitServerMode
  | 12 => some .kGetServerStats | 13 => some .kGetServerStatsReply
  | 14 => some .kGetControllerTime | 15 => some .kGetControllerTimeReply
  | _ => none

/-- The value of a `MsgType` enumerator, as an encoder stores it. -/
def MsgType.value : MsgType → ℕ
  | .kStorageOp => 0 | .kStorageOpReply => 1 | .kAllocateBlocks => 2
  | .kAllocateBlocksReply => 3 | .kDiscardBlocks => 4 | .kRegisterServer => 5
  | .kRegisterServerReply => 6 | .kRegisterVolume => 7 | .kRegisterVolumeReply => 8
  | .kUpdateServerStats => 9 | .kUpdateServerStatsReply => 10 | .kCommitServerMode => 11
  | .kGetServerStats => 12 | .kGetServerStatsReply => 13 | .kGetControllerTime => 14
  | .kGetControllerTimeReply => 15

@[simp] theorem MsgType.ofValue_value (t : MsgType) : MsgType.ofValue t.value = some t := by
  cases t <;> rfl

/-- `IODesc::get_op`: the enumerator of `OpType` with value `op_flags & kOpMask`, if any. -/
def opOfFlags (opFlags : ℕ) : Option OpType :=
  match opFlags % 256 with
  | 0 => some .kRead | 1 => some .kWrite | 2 => some .kFlush | 3 => some .kDiscard
  | 4 => some .kWriteSame | 5 => some .kWriteZeroes | 6 => some .kAllocate
  | _ => none

/-- The `StorageOpReplyCode` enumerator with value `v`, if any. -/
def replyCodeOfValue : ℕ → Option StorageOpReplyCode
  | 0 => some .kSuccess | 1 => some .kFailure | 2 => some .kRejectModeMismatch
  | 3 => some .kRejectDeviceBusy | 4 => some .kSuccessCongested
  | _ => none

/-- An `int` field's value, from its four bytes. -/
def signed32 (v : ℕ) : ℤ := if v < 2 ^ 31 then v else (v : ℤ) - 2 ^ 32

/-- The unsigned field of `width` bytes at `off`. -/
def loadField (p : List UInt8) (off width : ℕ) : Decode ℕ :=
  (load p off width).map ofBytesLE

/-- `span.last(k)` of the message that starts after the header: the last `k` bytes of `p`, a
range that must lie within the message. -/
def lastRange (p : List UInt8) (k : ℕ) : Decode (List UInt8) :=
  if kMsgHeaderSize + k ≤ p.length then load p (p.length - k) k
  else .error (kMsgHeaderSize, k)

/-! ## `DiskConnHandler::HandleMsg` -/

/-- What `DiskConnHandler` hands to the storage server: a storage op's fields and data, its
rejection, the blocks to discard, or nothing (the empty reply). -/
inductive DiskRequest where
  | storageOp (opFlags numSectors startSector addr reqId affinity : ℕ) (data : List UInt8)
  | reject (opFlags reqId : ℕ) (code : StorageOpReplyCode)
  | discard (blocks : List ℕ)
  | empty
  deriving DecidableEq, Repr

/-- `HandleStorageOp`: the message is `payload.first(header->len)`; an op without affinity is a
write the server refuses in read mode (`RejectStorageOp`); otherwise the data is
`payload.last(header->payload_size)` and the op's fields go to the server. -/
def handleStorageOp (allowingWrites : Bool) (p : List UInt8) : Decode DiskRequest := do
  let len ← loadField p 0 8
  let _ ← load p kMsgHeaderSize len
  let opFlags ← loadField p kMsgHeaderSize 4
  let affinity ← loadField p (kMsgHeaderSize + 48) 4
  if affinity = kInvalidServerID ∧ opOfFlags opFlags = some .kWrite ∧ allowingWrites = false then
    let reqId ← loadField p (kMsgHeaderSize + 40) 8
    return .reject opFlags reqId .kRejectModeMismatch
  else
    let payloadSize ← loadField p 8 4
    let data ← lastRange p payloadSize
    let numSectors ← loadField p (kMsgHeaderSize + 4) 4
    let startSector ← loadField p (kMsgHeaderSize + 8) 8
    let addr ← loadField p (kMsgHeaderSize + 16) 8
    let reqId ← loadField p (kMsgHeaderSize + 40) 8
    return .storageOp opFlags numSectors startSector addr reqId affinity data

/-- `HandleDiscardBlocks`: the message is `payload.first(header->len)`, and the blocks are
`msg->blocks[0, num_blocks)`. -/
def handleDiscardBlocks (p : List UInt8) : Decode DiskRequest := do
  let len ← loadField p 0 8
  let _ ← load p kMsgHeaderSize len
  let numBlocks ← loadField p (kMsgHeaderSize + kNumBlocksOffset) 8
  let blocks ← load p kMsgHeaderSize (8 * numBlocks)
  return .discard ((List.range numBlocks).map fun i => ofBytesLE ((blocks.drop (8 * i)).take 8))

/-- `DiskConnHandler::HandleMsg`: the header's type selects the handler; any other type gets the
empty reply. -/
def handleMsg (allowingWrites : Bool) (p : List UInt8) : Decode DiskRequest := do
  let type ← loadField p 12 4
  match MsgType.ofValue type with
  | some .kStorageOp => handleStorageOp allowingWrites p
  | some .kDiscardBlocks => handleDiscardBlocks p
  | _ => return .empty

/-- **`DiskConnHandler::HandleMsg` reads past an empty payload**: its first read, the header's
type, is of bytes `[12, 16)`. -/
theorem handleMsg_nil (allowingWrites : Bool) : handleMsg allowingWrites [] = .error (12, 4) := rfl

/-! ## The client's reply decoders -/

/-- `HandleAllocateBlocksReply`: `EINVAL` if the payload is shorter than the reply struct;
otherwise the `kAllocationBatch` block infos of the struct after the header. -/
def handleAllocateBlocksReply (p : List UInt8) : Decode (Status (List ServerBlockInfo)) :=
  if p.length < kAllocateBlocksReplyMsgSize then return .error EINVAL
  else do
    let raw ← load p kMsgHeaderSize kAllocateBlocksReplyMsgSize
    return .ok ((List.range kAllocationBatch).map fun i =>
      let rec_ := (raw.drop (kServerBlockInfoSize * i)).take kServerBlockInfoSize
      ⟨ofBytesLE (rec_.take 4), ofBytesLE ((rec_.drop 8).take 8)⟩)

/-- What `HandleStorageOpReply` returns, with the bytes it copies into the caller's buffer. -/
inductive ReplyOutcome where
  | result (r : Status ℤ) (copied : List UInt8)
  /-- The `throw` of an unknown reply code or op. -/
  | thrown
  deriving DecidableEq, Repr

/-- `HandleStorageOpReply`: `EINVAL` if the payload is shorter than the reply struct; otherwise
the struct after the header is read, and a successful read copies `num_sectors << kSectorShift`
bytes of data from after the struct. -/
def handleStorageOpReply (p : List UInt8) : Decode ReplyOutcome :=
  if p.length < kStorageOpReplyMsgSize then return .result (.error EINVAL) []
  else do
    let opFlags ← loadField p kMsgHeaderSize 4
    let code ← loadField p (kMsgHeaderSize + 48) 4
    match opOfFlags opFlags, replyCodeOfValue code with
    | some .kRead, some .kSuccess | some .kRead, some .kSuccessCongested =>
      let numSectors ← loadField p (kMsgHeaderSize + 4) 4
      let addr ← loadField p (kMsgHeaderSize + 16) 8
      let len := numSectors * kDeviceAlignment % 2 ^ 32
      let copied ← if 0 < len ∧ addr ≠ 0 then
          load p (kMsgHeaderSize + kStorageOpReplyMsgSize) len
        else pure []
      let res ← loadField p (kMsgHeaderSize + 52) 4
      return .result (.ok (signed32 res)) copied
    | some .kRead, some .kRejectDeviceBusy => return .result (.error EBUSY) []
    | some .kRead, some .kFailure => return .result (.error EINVAL) []
    | some .kWrite, some .kSuccess | some .kWrite, some .kSuccessCongested =>
      let res ← loadField p (kMsgHeaderSize + 52) 4
      return .result (.ok (signed32 res)) []
    | some .kWrite, some .kRejectDeviceBusy => return .result (.error EBUSY) []
    | some .kWrite, some .kRejectModeMismatch => return .result (.error EROFS) []
    | some .kWrite, some .kFailure => return .result (.error EINVAL) []
    | _, _ => return .thrown

/-- `HandleGetServerStatsReply`: `EINVAL` if the payload is shorter than the reply struct;
otherwise the first `num_servers` records (`servers.cbegin() + num_servers`: a negative count
asks for a range before the records). -/
def handleGetServerStatsReply (p : List UInt8) : Decode (Status (List (List UInt8))) :=
  if p.length < kGetServerStatsReplyMsgSize then return .error EINVAL
  else do
    let numServers ← loadField p (kMsgHeaderSize + 4) 4
    let n := signed32 numServers
    if n < 0 then .error (kMsgHeaderSize + 8, 0)
    else
      let raw ← load p (kMsgHeaderSize + 8) (kServerStatsSize * n.toNat)
      return .ok ((List.range n.toNat).map fun i =>
        (raw.drop (kServerStatsSize * i)).take kServerStatsSize)

end Sandook.Messages
