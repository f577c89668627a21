import Sandook.Messages.StorageOp
import Sandook.DiskServer.MemServer

/-!
# The disk server's connection handler, and one storage op from client to device and back
(`disk_server/disk_conn_handler.cc`, `disk_server/storage_server.cc`,
`disk_server/mem_server.cc`, `virtual_disk/virtual_disk_remote.cc`)

Model of `DiskConnHandler::HandleMsg` on a `MemServer`, from a request's bytes to the reply's:
the decoding of `Messages.Decoders`, `RejectStorageOp`, `StorageServer::GetMsgResponseSize`,
`MemServer::HandleStorageOp`, and the reply of `Messages.StorageOp`. `exchange` is one op from
`VirtualDiskRemote::ProcessStorageOp` to `HandleStorageOpReply`, over a transport that delivers
the bytes as sent.

* `IsAllowingWrites()` and `IsCongested()` are the disk monitor's answers when the message is
  handled (`allowingWrites`, `congested`). The hooks that time each op, the counters of
  `HandleRejection` and the logs are left out.
* A failed op (`MakeError(ret)`) and a discard (`StorageServer::HandleDiscardBlocks`, which the
  memory server does not override, returns `ENOTSUP`) get `HandleMsg`'s `value_or`: the empty
  `RPCReturnBuffer`, `[]`.
* `none` is the memory server's undefined behaviour, a copy past `buf_`.

Results:
* `exchange_write`: a write inside the device, sent with an affinity or to a server that takes
  writes, stores its data at `start_lba * kBlockSizeBytes` and returns
  `num_sectors << kSectorShift` to the client.
* `exchange_read`: a read inside the device returns the bytes at its offset, in every mode of
  the server, and leaves the server as it was.
* `exchange_reject`: a write without affinity to a server in read mode fails with `EROFS` and
  leaves the server as it was.
* `exchange_unsupported`: every other op fails at the client with `EINVAL`; the server's own
  error code does not reach it.
* `exchange_read_after_write`: a read of the sectors a write has just stored returns the written
  data into a buffer that is not null.
-/

namespace Sandook.DiskServer

open Sandook.Lib Sandook.Messages Sandook.VirtualDisk

/-- `StorageServer::GetMsgResponseSize`: a read's `num_sectors << kSectorShift`, `0` for every
other op. -/
def getMsgResponseSize (opFlags numSectors : ℕ) : ℕ :=
  if opOfFlags opFlags = some .kRead then sectorBytes numSectors else 0

/-- `MemServer::HandleStorageOp` on the fields `DiskConnHandler` read: `IODesc::get_op` names the
op, and an `op_flags` naming no enumerator takes the `default` branch. -/
def MemServer.handleStorageOpMsg (s : MemServer) (opFlags numSectors startSector addr : ℕ)
    (reqPayload : List UInt8) (respSize : ℕ) : Option (Status ℤ × MemServer × List UInt8) :=
  match opOfFlags opFlags with
  | some op => s.handleStorageOp ⟨op, numSectors, startSector, addr⟩ reqPayload respSize
  | none => some (.error EINVAL, s, [])

namespace DiskConnHandler

/-- The code of a handled op: `kSuccessCongested` when `IsCongested()`. -/
def replyStatus (congested : Bool) : StorageOpReplyCode :=
  if congested then .kSuccessCongested else .kSuccess

/-- The end of `HandleStorageOp` once the server has run the op: its result and the reply
payload go into `CreateStorageOpReplyMsg`; a failed op gets the empty reply. -/
def storageOpReplyOf (junk : ℕ → UInt8) (iod : List UInt8) (reqId respSize : ℕ)
    (congested : Bool) : Status ℤ × MemServer × List UInt8 → List UInt8 × MemServer
  | (.ok res, s', respPayload) =>
    (writeAt (createStorageOpReplyMsg junk iod reqId respSize res (replyStatus congested))
      (kMsgHeaderSize + kStorageOpReplyMsgSize) respPayload, s')
  | (.error _, s', _) => ([], s')

/-- `DiskConnHandler::HandleMsg` on a memory server: the reply and the server after the message.
`RejectStorageOp` echoes the op with no payload and `ret = 0`; an accepted op is run with the
request's data and a reply payload of `GetMsgResponseSize` bytes. `junk` are the bytes the
reply's allocation leaves. -/
def handleMsg (allowingWrites congested : Bool) (junk : ℕ → UInt8) (s : MemServer)
    (p : List UInt8) : Decode (Option (List UInt8 × MemServer)) := do
  match ← Messages.handleMsg allowingWrites p with
  | .reject _ reqId code =>
    let iod ← load p kMsgHeaderSize kIODescSize
    return some (createStorageOpReplyMsg junk iod reqId 0 0 code, s)
  | .storageOp opFlags numSectors startSector addr reqId _ data =>
    let iod ← load p kMsgHeaderSize kIODescSize
    let respSize := getMsgResponseSize opFlags numSectors
    return (s.handleStorageOpMsg opFlags numSectors startSector addr data respSize).map
      (storageOpReplyOf junk iod reqId respSize congested)
  | _ => return some ([], s)

end DiskConnHandler

/-- One storage op from a client to a memory server and back: the message `ProcessStorageOp`
sends for `iod` (`junkReq` its buffer's prior bytes, `mem` the client's memory), the server's
`HandleMsg`, and `HandleStorageOpReply` on the reply it returns. -/
def exchange (allowingWrites congested : Bool) (junkReq junkReply mem : ℕ → UInt8) (s : MemServer)
    (iod : RawIODesc) (reqId : UInt64) (affinity : ServerID) :
    Decode (Option (Decode ReplyOutcome × MemServer)) :=
  (DiskConnHandler.handleMsg allowingWrites congested junkReply s
    (processStorageOpMsg junkReq mem iod reqId affinity)).map
    (Option.map fun r => (handleStorageOpReply r.1, r.2))

/-- An `int` holds values in `[-2^31, 2^31)`. -/
theorem toInt32_bounds (v : ℤ) : -2 ^ 31 ≤ toInt32 v ∧ toInt32 v < 2 ^ 31 := by
  have h1 := Int.le_bmod (x := v) (m := 2 ^ 32) (by norm_num)
  have h2 := Int.bmod_lt (x := v) (m := 2 ^ 32) (by norm_num)
  unfold toInt32
  constructor <;> omega

/-- A copy into the device reads back from where it went. -/
theorem bytesAt_copyIn (buf : ℕ → UInt8) (off : ℕ) (src : List UInt8) :
    bytesAt (MemServer.copyIn buf off src) off src.length = src := by
  refine List.ext_getElem (by simp) fun i hi _ => ?_
  simp only [length_bytesAt] at hi
  simp [bytesAt, MemServer.copyIn, hi]

/-! ## The server -/

section Server

variable {s : MemServer} {opFlags numSectors startSector addr respSize : ℕ} {data : List UInt8}

theorem handleStorageOpMsg_write (hop : opOfFlags opFlags = some .kWrite)
    (hin : MemServer.blockOffset startSector + data.length ≤ s.size) :
    s.handleStorageOpMsg opFlags numSectors startSector addr data respSize =
      some (.ok (toInt32 (sectorBytes numSectors)),
        { s with buf := MemServer.copyIn s.buf (MemServer.blockOffset startSector) data }, []) := by
  simp only [MemServer.handleStorageOpMsg, hop, MemServer.handleStorageOp,
    MemServer.handleWriteOp_eq hin, Option.map_some]

theorem handleStorageOpMsg_read (hop : opOfFlags opFlags = some .kRead)
    (hin : MemServer.blockOffset startSector + respSize ≤ s.size) :
    s.handleStorageOpMsg opFlags numSectors startSector addr data respSize =
      some (.ok (toInt32 (sectorBytes numSectors)), s,
        bytesAt s.buf (MemServer.blockOffset startSector) respSize) := by
  simp only [MemServer.handleStorageOpMsg, hop, MemServer.handleStorageOp,
    MemServer.handleReadOp_eq hin, Option.map_some]
  rfl

theorem handleStorageOpMsg_unsupported (hr : opOfFlags opFlags ≠ some .kRead)
    (hw : opOfFlags opFlags ≠ some .kWrite) :
    s.handleStorageOpMsg opFlags numSectors startSector addr data respSize =
      some (.error EINVAL, s, []) := by
  unfold MemServer.handleStorageOpMsg
  split
  · next op hop =>
    -- `get_op` names an op the memory server's `switch` sends to `default`
    unfold MemServer.handleStorageOp
    split
    · next h => exact absurd (hop.trans (congrArg some h)) hr
    · next h => exact absurd (hop.trans (congrArg some h)) hw
    · rfl
  · rfl

theorem replyStatus_success (congested : Bool) :
    DiskConnHandler.replyStatus congested = .kSuccess ∨
      DiskConnHandler.replyStatus congested = .kSuccessCongested := by
  cases congested
  · exact .inl rfl
  · exact .inr rfl

theorem storageOpReplyOf_ok {junk : ℕ → UInt8} {iod : List UInt8} {reqId : ℕ} {congested : Bool}
    {res : ℤ} {s' : MemServer} {payload : List UInt8} (h : payload.length = respSize) :
    DiskConnHandler.storageOpReplyOf junk iod reqId respSize congested (.ok res, s', payload) =
      (storageOpReply junk iod reqId payload res (DiskConnHandler.replyStatus congested), s') := by
  subst h
  rfl

end Server

/-! ## The client's message at the server -/

section Handler

variable {allowingWrites congested : Bool} {junk junkReq mem : ℕ → UInt8} {s : MemServer}
  {iod : RawIODesc} {reqId : UInt64} {affinity : ServerID}

/-- An op the server admits is run on the client's fields and data, and its reply echoes the
client's descriptor. -/
theorem handleMsg_admitted (haff : affinity < 2 ^ 32)
    (hadm : ¬(affinity = kInvalidServerID ∧ opOfFlags iod.opFlags.toNat = some .kWrite ∧
      allowingWrites = false)) :
    DiskConnHandler.handleMsg allowingWrites congested junk s
        (processStorageOpMsg junkReq mem iod reqId affinity) =
      .ok ((s.handleStorageOpMsg iod.opFlags.toNat iod.numSectors.toNat iod.startSector.toNat
        iod.addr.toNat (iod.payload mem) (getMsgResponseSize iod.opFlags.toNat iod.numSectors.toNat)).map
        (DiskConnHandler.storageOpReplyOf junk iod.bytes reqId.toNat
          (getMsgResponseSize iod.opFlags.toNat iod.numSectors.toNat) congested)) := by
  simp only [DiskConnHandler.handleMsg, handleMsg_processStorageOpMsg allowingWrites haff,
    if_neg hadm, load_processStorageOpMsg_iod, bind, Except.bind, pure, Except.pure]

/-- A rejected op is answered with the client's descriptor and no payload, and the server is
left as it was. -/
theorem handleMsg_rejected (haff : affinity < 2 ^ 32)
    (hrej : affinity = kInvalidServerID ∧ opOfFlags iod.opFlags.toNat = some .kWrite ∧
      allowingWrites = false) :
    DiskConnHandler.handleMsg allowingWrites congested junk s
        (processStorageOpMsg junkReq mem iod reqId affinity) =
      .ok (some (createStorageOpReplyMsg junk iod.bytes reqId.toNat 0 0 .kRejectModeMismatch, s)) := by
  simp only [DiskConnHandler.handleMsg, handleMsg_processStorageOpMsg allowingWrites haff,
    if_pos hrej, load_processStorageOpMsg_iod, bind, Except.bind, pure, Except.pure]

end Handler

/-! ## One op, end to end -/

section Exchange

variable {allowingWrites congested : Bool} {junkReq junkReply mem : ℕ → UInt8} {s : MemServer}
  {iod : RawIODesc} {reqId : UInt64} {affinity : ServerID}

/-- **A write reaches the device.** A write inside the device, sent with an affinity or to a
server that takes writes, stores the client's data at its offset, and the client is told
`num_sectors << kSectorShift`. -/
theorem exchange_write (hop : opOfFlags iod.opFlags.toNat = some .kWrite)
    (hadm : affinity ≠ kInvalidServerID ∨ allowingWrites = true) (haff : affinity < 2 ^ 32)
    (hin : MemServer.blockOffset iod.startSector.toNat + sectorBytes iod.numSectors.toNat ≤ s.size) :
    exchange allowingWrites congested junkReq junkReply mem s iod reqId affinity =
      .ok (some (.ok (.result (.ok (toInt32 (sectorBytes iod.numSectors.toNat))) []),
        { s with
          buf := MemServer.copyIn s.buf (MemServer.blockOffset iod.startSector.toNat)
            (iod.payload mem) })) := by
  have hnrej : ¬(affinity = kInvalidServerID ∧ opOfFlags iod.opFlags.toNat = some .kWrite ∧
      allowingWrites = false) := by
    rintro ⟨h0, -, hro⟩
    rcases hadm with h | h
    · exact h h0
    · simp [h] at hro
  have hlen : (iod.payload mem).length = sectorBytes iod.numSectors.toNat := by
    rw [payload_of_write hop, length_bytesAt]
  have hresp : getMsgResponseSize iod.opFlags.toNat iod.numSectors.toNat = 0 := by
    simp [getMsgResponseSize, hop]
  unfold exchange
  rw [handleMsg_admitted haff hnrej, hresp, handleStorageOpMsg_write hop (by rw [hlen]; exact hin),
    Option.map_some, storageOpReplyOf_ok List.length_nil]
  show Except.ok (some (handleStorageOpReply _, _)) = _
  rw [handleStorageOpReply_storageOpReply_write hop (replyStatus_success congested)
    (toInt32_bounds _)]

/-- **A read returns the device's bytes**, in every mode of the server, into a buffer that is not
null, and leaves the server as it was. -/
theorem exchange_read (hop : opOfFlags iod.opFlags.toNat = some .kRead) (haff : affinity < 2 ^ 32)
    (hin : MemServer.blockOffset iod.startSector.toNat + sectorBytes iod.numSectors.toNat ≤ s.size) :
    exchange allowingWrites congested junkReq junkReply mem s iod reqId affinity =
      .ok (some (.ok (.result (.ok (toInt32 (sectorBytes iod.numSectors.toNat)))
        (if iod.addr.toNat ≠ 0 then
          bytesAt s.buf (MemServer.blockOffset iod.startSector.toNat) (sectorBytes iod.numSectors.toNat)
        else [])), s)) := by
  have hnrej : ¬(affinity = kInvalidServerID ∧ opOfFlags iod.opFlags.toNat = some .kWrite ∧
      allowingWrites = false) := by
    rintro ⟨-, hw, -⟩
    rw [hop] at hw
    cases hw
  have hresp : getMsgResponseSize iod.opFlags.toNat iod.numSectors.toNat =
      sectorBytes iod.numSectors.toNat := by
    simp [getMsgResponseSize, hop]
  unfold exchange
  rw [handleMsg_admitted haff hnrej, hresp, handleStorageOpMsg_read hop hin, Option.map_some,
    storageOpReplyOf_ok (length_bytesAt _ _ _)]
  show Except.ok (some (handleStorageOpReply _, _)) = _
  rw [handleStorageOpReply_storageOpReply_read hop (replyStatus_success congested)
    (length_bytesAt _ _ _) (toInt32_bounds _)]

/-- **A write without affinity to a server in read mode** fails with `EROFS` and leaves the
server as it was. -/
theorem exchange_reject (hop : opOfFlags iod.opFlags.toNat = some .kWrite)
    (haff : affinity = kInvalidServerID) :
    exchange false congested junkReq junkReply mem s iod reqId affinity =
      .ok (some (.ok (.result (.error EROFS) []), s)) := by
  unfold exchange
  rw [handleMsg_rejected (by rw [haff]; decide) ⟨haff, hop, rfl⟩]
  show Except.ok (some (handleStorageOpReply _, _)) = _
  rw [← storageOpReply_nil, handleStorageOpReply_storageOpReply_reject hop]

theorem exchange_reject_readMode :
    exchange false false (fun _ => 0) (fun _ => 0) (fun _ => 0) MemServer.create
        ⟨1, 1, 0, 64, 0, 0⟩ 0 kInvalidServerID =
      .ok (some (.ok (.result (.error EROFS) []), MemServer.create)) :=
  exchange_reject (by decide) rfl

/-- **Every other op fails with `EINVAL`**: the memory server refuses it, the reply is empty,
and the client reads the empty reply as too short. -/
theorem exchange_unsupported (hr : opOfFlags iod.opFlags.toNat ≠ some .kRead)
    (hw : opOfFlags iod.opFlags.toNat ≠ some .kWrite) (haff : affinity < 2 ^ 32) :
    exchange allowingWrites congested junkReq junkReply mem s iod reqId affinity =
      .ok (some (.ok (.result (.error EINVAL) []), s)) := by
  unfold exchange
  rw [handleMsg_admitted haff (fun h => hw h.2.1), handleStorageOpMsg_unsupported hr hw]
  rfl

theorem exchange_unsupported_flush :
    exchange true false (fun _ => 0) (fun _ => 0) (fun _ => 0) MemServer.create
        ⟨2, 0, 0, 0, 0, 0⟩ 0 1 =
      .ok (some (.ok (.result (.error EINVAL) []), MemServer.create)) :=
  exchange_unsupported (by decide) (by decide) (by decide)

/-- **Read after write, end to end.** A write inside the device that the server admits returns
the new server, and a read of the same sectors from it, by any client in any mode, returns the
written data into a buffer that is not null. -/
theorem exchange_read_after_write {iod' : RawIODesc} {reqId' : UInt64} {affinity' : ServerID}
    {allowingWrites' congested' : Bool} {junkReq' junkReply' mem' : ℕ → UInt8}
    (hw : opOfFlags iod.opFlags.toNat = some .kWrite)
    (hadm : affinity ≠ kInvalidServerID ∨ allowingWrites = true) (haff : affinity < 2 ^ 32)
    (hin : MemServer.blockOffset iod.startSector.toNat + sectorBytes iod.numSectors.toNat ≤ s.size)
    (hr : opOfFlags iod'.opFlags.toNat = some .kRead) (haff' : affinity' < 2 ^ 32)
    (hsame : iod'.numSectors = iod.numSectors ∧ iod'.startSector = iod.startSector)
    (haddr : iod'.addr.toNat ≠ 0) :
    ∃ s', exchange allowingWrites congested junkReq junkReply mem s iod reqId affinity =
        .ok (some (.ok (.result (.ok (toInt32 (sectorBytes iod.numSectors.toNat))) []), s')) ∧
      exchange allowingWrites' congested' junkReq' junkReply' mem' s' iod' reqId' affinity' =
        .ok (some (.ok (.result (.ok (toInt32 (sectorBytes iod.numSectors.toNat)))
          (iod.payload mem)), s')) := by
  obtain ⟨hnum, hstart⟩ := hsame
  have hlen : (iod.payload mem).length = sectorBytes iod.numSectors.toNat := by
    rw [payload_of_write hw, length_bytesAt]
  refine ⟨_, exchange_write hw hadm haff hin, ?_⟩
  rw [exchange_read hr haff' (by rw [hnum, hstart]; exact hin), if_pos haddr, hnum, hstart,
    ← hlen]
  dsimp only
  rw [bytesAt_copyIn]

theorem exchange_read_after_write_first_block :
    ∃ s', exchange true false (fun _ => 0) (fun _ => 0) (fun _ => 7) MemServer.create
          ⟨1, 1, 0, 64, 0, 0⟩ 0 1 =
        .ok (some (.ok (.result (.ok (toInt32 (sectorBytes 1))) []), s')) ∧
      exchange false true (fun _ => 0) (fun _ => 0) (fun _ => 0) s' ⟨0, 1, 0, 128, 0, 0⟩ 0
          kInvalidServerID =
        .ok (some (.ok (.result (.ok (toInt32 (sectorBytes 1)))
          ((⟨1, 1, 0, 64, 0, 0⟩ : RawIODesc).payload fun _ => 7)), s')) :=
  exchange_read_after_write (by decide) (.inl (by decide)) (by decide) (by decide) (by decide)
    (by decide) ⟨rfl, rfl⟩ (by decide)

end Exchange

end Sandook.DiskServer
