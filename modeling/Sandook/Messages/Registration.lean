import Sandook.Messages.Decoders

/-!
# Registration messages (`base/msg.h`, `controller/controller_conn_handler.cc`)

Model of `CreateRegisterServerMsg` and `CreateRegisterVolumeMsg`, which a storage server and a
client send to the controller, and of `ControllerConnHandler::HandleMsg` with its handlers
`HandleRegisterServer` and `HandleRegisterVolume`, up to the fields these hand to
`Controller::RegisterServer` and `RegisterVolume`.

* `make_unique_for_overwrite` leaves the bytes of the buffer as they were: an encoder takes
  those bytes (`buffer`) and lays its writes over them in the source's order (`writeAll`). Only
  `msg->name` is cleared first; `strncpy(msg->ip, ip.c_str(), ip.size())` copies the bytes of
  `ip` and no terminator.
* `RegisterServerMsg` is `char ip[16]`, `int port`, `char name[20]`, four bytes of padding and
  `uint64_t nsectors`, 48 bytes; `RegisterVolumeMsg` is `ip`, `port`, padding and `nsectors`,
  32 bytes.
* The handlers read `msg->ip` and `msg->name` as C strings (`cString`), which end at the first
  NUL wherever it lies in the payload; the name then keeps its alphanumeric bytes
  (`std::isalnum` in the C locale) and drops spaces.
* The controller's other handlers are not modelled (`ControllerRequest.unmodelled`); a short
  payload, a size mismatch and an unknown type get the empty reply.

Results:
* `handleMsg_createRegisterServerMsg`: over every prior content of the buffer, the controller
  decodes the port, the name and the sector count that the server encoded, and as the address
  the encoded `ip` followed by the bytes after it in the message up to the first NUL.
* `registerServer_roundTrip_iff`: an address shorter than its field decodes to itself exactly
  when the uninitialised byte after it is NUL.
* `handleMsg_createRegisterVolumeMsg`: the same reading of a volume's address, where no byte of
  the message is cleared, so the read may run past the payload.
-/

namespace Sandook.Messages

open Sandook.Lib

/-! ## Layouts and fields -/

/-- `kIPAddrStrLen`. -/
def kIPAddrStrLen : ℕ := 16

/-- `kNameStrLen`. -/
def kNameStrLen : ℕ := 20

/-- `sizeof(RegisterServerMsg)`. -/
def kRegisterServerMsgSize : ℕ := 48

/-- `sizeof(RegisterVolumeMsg)`. -/
def kRegisterVolumeMsgSize : ℕ := 32

/-- The four bytes of an `int` field that holds `v`. -/
def int32Bytes (v : ℤ) : List UInt8 := toBytesLE 4 (v % 2 ^ 32).toNat

@[simp] theorem length_int32Bytes (v : ℤ) : (int32Bytes v).length = 4 := length_toBytesLE 4 _

/-- An `int` reads back from its bytes. -/
theorem signed32_int32Bytes {v : ℤ} (h : -2 ^ 31 ≤ v ∧ v < 2 ^ 31) :
    signed32 (ofBytesLE (int32Bytes v)) = v := by
  have hlt : (v % 2 ^ 32).toNat < 256 ^ 4 := by omega
  rw [int32Bytes, ofBytesLE_toBytesLE, Nat.mod_eq_of_lt hlt, signed32]
  split_ifs <;> omega

/-- A `uint64_t` reads back from its bytes. -/
theorem ofNat_ofBytesLE_toNat (n : UInt64) : UInt64.ofNat (ofBytesLE (toBytesLE 8 n.toNat)) = n := by
  have hlt : n.toNat < 256 ^ 8 := n.toNat_lt
  rw [ofBytesLE_toBytesLE, Nat.mod_eq_of_lt hlt, UInt64.ofNat_toNat]

/-- `std::isalnum` in the C locale. -/
def isAlnum (c : UInt8) : Bool :=
  decide (48 ≤ c ∧ c ≤ 57 ∨ 65 ≤ c ∧ c ≤ 90 ∨ 97 ≤ c ∧ c ≤ 122)

theorem ne_zero_of_isAlnum {c : UInt8} (h : isAlnum c) : c ≠ 0 := by
  rintro rfl
  revert h
  decide

/-! ## The encoders -/

/-- The writes of `CreateRegisterServerMsg`, in its order: the header's `len`, `type` and
`payload_size`, then `port`, `nsectors`, the `memset` of `name`, and the two `strncpy`s. -/
def registerServerWrites (ip : List UInt8) (port : ℤ) (name : List UInt8) (nsectors : UInt64) :
    List (ℕ × List UInt8) :=
  [(0, toBytesLE 8 kRegisterServerMsgSize), (12, toBytesLE 4 MsgType.kRegisterServer.value),
    (8, toBytesLE 4 0), (kMsgHeaderSize + 16, int32Bytes port),
    (kMsgHeaderSize + 40, toBytesLE 8 nsectors.toNat),
    (kMsgHeaderSize + 20, List.replicate kNameStrLen 0),
    (kMsgHeaderSize, strncpyBytes ip.length ip),
    (kMsgHeaderSize + 20, strncpyBytes name.length name)]

/-- `CreateRegisterServerMsg(ip, port, name, nsectors)`, over the bytes `buffer` that the
allocation left. -/
def createRegisterServerMsg (buffer ip : List UInt8) (port : ℤ) (name : List UInt8)
    (nsectors : UInt64) : List UInt8 :=
  writeAll buffer (registerServerWrites ip port name nsectors)

/-- The writes of `CreateRegisterVolumeMsg`: the header, `port`, `nsectors` and the `strncpy` of
`ip`. -/
def registerVolumeWrites (ip : List UInt8) (port : ℤ) (nsectors : UInt64) :
    List (ℕ × List UInt8) :=
  [(0, toBytesLE 8 kRegisterVolumeMsgSize), (12, toBytesLE 4 MsgType.kRegisterVolume.value),
    (8, toBytesLE 4 0), (kMsgHeaderSize + 16, int32Bytes port),
    (kMsgHeaderSize + 24, toBytesLE 8 nsectors.toNat),
    (kMsgHeaderSize, strncpyBytes ip.length ip)]

/-- `CreateRegisterVolumeMsg(ip, port, nsectors)`, over the bytes `buffer` that the allocation
left. -/
def createRegisterVolumeMsg (buffer ip : List UInt8) (port : ℤ) (nsectors : UInt64) :
    List UInt8 :=
  writeAll buffer (registerVolumeWrites ip port nsectors)

/-! ## `ControllerConnHandler` -/

/-- What `ControllerConnHandler` hands to the controller: the fields of a registration, a
message for a handler not modelled here, or nothing (the empty reply). -/
inductive ControllerRequest where
  | registerServer (ip : List UInt8) (port : ℤ) (name : List UInt8) (nsectors : UInt64)
  | registerVolume (ip : List UInt8) (port : ℤ) (nsectors : UInt64)
  | unmodelled (type : MsgType)
  | empty
  deriving DecidableEq, Repr

namespace ControllerConnHandler

/-- `HandleRegisterServer`: a payload of another size is refused (`EINVAL`, the empty reply);
otherwise `msg->name` keeps its alphanumeric bytes and no space, and `msg->ip`, `msg->port`
and `msg->nsectors` go to the controller as they are. -/
def handleRegisterServer (p : List UInt8) : Decode ControllerRequest :=
  if p.length ≠ kRegisterServerMsgSize then return .empty
  else do
    let name ← cString p 20
    let name := (name.filter isAlnum).filter (· != 32)
    let ip ← cString p 0
    let port ← loadField p 16 4
    let nsectors ← loadField p 40 8
    return .registerServer ip (signed32 port) name (UInt64.ofNat nsectors)

/-- `HandleRegisterVolume`: a payload of another size is refused; otherwise `msg->ip`,
`msg->port` and `msg->nsectors` go to the controller. -/
def handleRegisterVolume (p : List UInt8) : Decode ControllerRequest :=
  if p.length ≠ kRegisterVolumeMsgSize then return .empty
  else do
    let ip ← cString p 0
    let port ← loadField p 16 4
    let nsectors ← loadField p 24 8
    return .registerVolume ip (signed32 port) (UInt64.ofNat nsectors)

/-- `ControllerConnHandler::HandleMsg`: a payload shorter than the header gets the empty reply;
otherwise the header's type selects the handler, given the bytes after the header. -/
def handleMsg (p : List UInt8) : Decode ControllerRequest :=
  if p.length < kMsgHeaderSize then return .empty
  else do
    let type ← loadField p 12 4
    let msg := p.drop kMsgHeaderSize
    match MsgType.ofValue type with
    | some .kRegisterServer => handleRegisterServer msg
    | some .kRegisterVolume => handleRegisterVolume msg
    | some .kAllocateBlocks => return .unmodelled .kAllocateBlocks
    | some .kUpdateServerStats => return .unmodelled .kUpdateServerStats
    | some .kGetServerStats => return .unmodelled .kGetServerStats
    | some .kCommitServerMode => return .unmodelled .kCommitServerMode
    | some .kGetControllerTime => return .unmodelled .kGetControllerTime
    | _ => return .empty

end ControllerConnHandler

/-! ## The fields of an encoded server registration -/

section RegisterServer

variable {buffer ip name : List UInt8} {port : ℤ} {nsectors : UInt64}

theorem registerServerWrites_le (hbuf : buffer.length = kMsgHeaderSize + kRegisterServerMsgSize)
    (hip : ip.length ≤ kIPAddrStrLen) (hname : name.length ≤ kNameStrLen) :
    ∀ w ∈ registerServerWrites ip port name nsectors, w.1 + w.2.length ≤ buffer.length := by
  simp only [registerServerWrites, List.forall_mem_cons, List.not_mem_nil, IsEmpty.forall_iff,
    implies_true, and_true, length_toBytesLE, length_int32Bytes, List.length_replicate,
    length_strncpyBytes, hbuf]
  simp only [kMsgHeaderSize, kRegisterServerMsgSize, kIPAddrStrLen, kNameStrLen] at hip hname ⊢
  omega

theorem length_createRegisterServerMsg
    (hbuf : buffer.length = kMsgHeaderSize + kRegisterServerMsgSize)
    (hip : ip.length ≤ kIPAddrStrLen) (hname : name.length ≤ kNameStrLen) :
    (createRegisterServerMsg buffer ip port name nsectors).length =
      kMsgHeaderSize + kRegisterServerMsgSize :=
  (length_writeAll (registerServerWrites_le hbuf hip hname)).trans hbuf

/-- The address reads back from its field. -/
theorem load_createRegisterServerMsg_ip
    (hbuf : buffer.length = kMsgHeaderSize + kRegisterServerMsgSize)
    (hip : ip.length ≤ kIPAddrStrLen) (hname : name.length ≤ kNameStrLen) (hz : (0 : UInt8) ∉ ip) :
    load (createRegisterServerMsg buffer ip port name nsectors) kMsgHeaderSize ip.length =
      .ok ip := by
  refine (load_writeAll_of_within [_, _, _, _, _, _] [_] (registerServerWrites_le hbuf hip hname)
    le_rfl (by simp) ?_).trans ?_
  · simp only [List.mem_singleton, forall_eq, kMsgHeaderSize, kIPAddrStrLen] at hip ⊢
    omega
  · rw [Nat.sub_self, List.drop_zero, strncpyBytes_of_length hz rfl, List.take_length]

/-- The header names the message a server registration. -/
theorem load_createRegisterServerMsg_type
    (hbuf : buffer.length = kMsgHeaderSize + kRegisterServerMsgSize)
    (hip : ip.length ≤ kIPAddrStrLen) (hname : name.length ≤ kNameStrLen) :
    load (createRegisterServerMsg buffer ip port name nsectors) 12 4 =
      .ok (toBytesLE 4 MsgType.kRegisterServer.value) :=
  (load_writeAll_of_within [_] [_, _, _, _, _, _] (registerServerWrites_le hbuf hip hname)
    le_rfl (by simp) (by simp [kMsgHeaderSize])).trans rfl

/-- The port reads back from its field. -/
theorem load_createRegisterServerMsg_port
    (hbuf : buffer.length = kMsgHeaderSize + kRegisterServerMsgSize)
    (hip : ip.length ≤ kIPAddrStrLen) (hname : name.length ≤ kNameStrLen) :
    load (createRegisterServerMsg buffer ip port name nsectors) (kMsgHeaderSize + 16) 4 =
      .ok (int32Bytes port) := by
  refine (load_writeAll_of_within [_, _, _] [_, _, _, _] (registerServerWrites_le hbuf hip hname)
    le_rfl (by simp) ?_).trans ?_
  · simp only [List.forall_mem_cons, List.not_mem_nil, IsEmpty.forall_iff, implies_true,
      and_true, length_toBytesLE, List.length_replicate, length_strncpyBytes]
    simp only [kMsgHeaderSize, kIPAddrStrLen, kNameStrLen] at hip hname ⊢
    omega
  · rw [Nat.sub_self, List.drop_zero, List.take_of_length_le (length_int32Bytes port).le]

/-- The sector count reads back from its field. -/
theorem load_createRegisterServerMsg_nsectors
    (hbuf : buffer.length = kMsgHeaderSize + kRegisterServerMsgSize)
    (hip : ip.length ≤ kIPAddrStrLen) (hname : name.length ≤ kNameStrLen) :
    load (createRegisterServerMsg buffer ip port name nsectors) (kMsgHeaderSize + 40) 8 =
      .ok (toBytesLE 8 nsectors.toNat) := by
  refine (load_writeAll_of_within [_, _, _, _] [_, _, _] (registerServerWrites_le hbuf hip hname)
    le_rfl (by simp) ?_).trans ?_
  · simp only [List.forall_mem_cons, List.not_mem_nil, IsEmpty.forall_iff, implies_true,
      and_true, List.length_replicate, length_strncpyBytes]
    simp only [kMsgHeaderSize, kIPAddrStrLen, kNameStrLen] at hip hname ⊢
    omega
  · rw [Nat.sub_self, List.drop_zero, List.take_of_length_le (length_toBytesLE 8 nsectors.toNat).le]

/-- The name reads back from its field. -/
theorem load_createRegisterServerMsg_name
    (hbuf : buffer.length = kMsgHeaderSize + kRegisterServerMsgSize)
    (hip : ip.length ≤ kIPAddrStrLen) (hname : name.length ≤ kNameStrLen) (hz : (0 : UInt8) ∉ name) :
    load (createRegisterServerMsg buffer ip port name nsectors) (kMsgHeaderSize + 20) name.length =
      .ok name := by
  refine (load_writeAll_of_within [_, _, _, _, _, _, _] [] (registerServerWrites_le hbuf hip hname)
    le_rfl (by simp) (by simp)).trans ?_
  rw [Nat.sub_self, List.drop_zero, strncpyBytes_of_length hz rfl, List.take_length]

/-- A name shorter than its field is followed by a NUL of the `memset`. -/
theorem load_createRegisterServerMsg_name_end
    (hbuf : buffer.length = kMsgHeaderSize + kRegisterServerMsgSize)
    (hip : ip.length ≤ kIPAddrStrLen) (hname : name.length < kNameStrLen) :
    load (createRegisterServerMsg buffer ip port name nsectors)
      (kMsgHeaderSize + (20 + name.length)) 1 = .ok [0] := by
  refine (load_writeAll_of_within [_, _, _, _, _] [_, _] (registerServerWrites_le hbuf hip hname.le)
    (by omega) ?_ ?_).trans ?_
  · simp only [List.length_replicate, kNameStrLen] at hname ⊢
    omega
  · simp only [List.forall_mem_cons, List.not_mem_nil, IsEmpty.forall_iff, implies_true,
      and_true, length_strncpyBytes]
    simp only [kMsgHeaderSize, kIPAddrStrLen] at hip ⊢
    omega
  · have hone : min 1 (kNameStrLen - (kMsgHeaderSize + (20 + name.length) - (kMsgHeaderSize + 20))) = 1 := by
      simp only [kMsgHeaderSize, kNameStrLen] at hname ⊢
      omega
    rw [List.drop_replicate, List.take_replicate, hone]
    rfl

/-- The byte after an address shorter than its field is the one the allocation left there. -/
theorem load_createRegisterServerMsg_ip_end
    (hbuf : buffer.length = kMsgHeaderSize + kRegisterServerMsgSize)
    (hip : ip.length < kIPAddrStrLen) (hname : name.length ≤ kNameStrLen) :
    load (createRegisterServerMsg buffer ip port name nsectors) (kMsgHeaderSize + ip.length) 1 =
      load buffer (kMsgHeaderSize + ip.length) 1 := by
  refine load_writeAll_of_disjoint (registerServerWrites_le hbuf hip.le hname) ?_
  simp only [registerServerWrites, List.forall_mem_cons, List.not_mem_nil, IsEmpty.forall_iff,
    implies_true, and_true, length_toBytesLE, length_int32Bytes, List.length_replicate,
    length_strncpyBytes]
  simp only [kMsgHeaderSize, kIPAddrStrLen, kNameStrLen] at hip hname ⊢
  omega

/-- **A server registration decodes to what was encoded, but for the address**: over every
prior content of the buffer, the controller receives the server's port, name and sector count,
and as its address `ip` followed by the bytes after it in the message, up to the first NUL. -/
theorem handleMsg_createRegisterServerMsg
    (hbuf : buffer.length = kMsgHeaderSize + kRegisterServerMsgSize)
    (hip : ip.length ≤ kIPAddrStrLen) (hzip : (0 : UInt8) ∉ ip)
    (hname : name.length < kNameStrLen) (halnum : ∀ c ∈ name, isAlnum c)
    (hport : -2 ^ 31 ≤ port ∧ port < 2 ^ 31) :
    ControllerConnHandler.handleMsg (createRegisterServerMsg buffer ip port name nsectors) =
      .ok (.registerServer
        (ip ++ ((createRegisterServerMsg buffer ip port name nsectors).drop
          (kMsgHeaderSize + ip.length)).takeWhile (· ≠ 0))
        port name nsectors) := by
  set m := createRegisterServerMsg buffer ip port name nsectors
  have hlen : m.length = kMsgHeaderSize + kRegisterServerMsgSize :=
    length_createRegisterServerMsg hbuf hip hname.le
  have hzname : (0 : UInt8) ∉ name := fun h => ne_zero_of_isAlnum (halnum 0 h) rfl
  have hnul : load m (kMsgHeaderSize + (20 + name.length)) 1 = .ok [0] :=
    load_createRegisterServerMsg_name_end hbuf hip hname
  -- the handler's reads of `msg->name`, `msg->ip`, `msg->port` and `msg->nsectors`
  have hname' : cString (m.drop kMsgHeaderSize) 20 = .ok name :=
    cString_of_load_nul (load_drop (load_createRegisterServerMsg_name hbuf hip hname.le hzname))
      hzname (load_drop hnul)
  have hip' : cString (m.drop kMsgHeaderSize) 0 =
      .ok (ip ++ (m.drop (kMsgHeaderSize + ip.length)).takeWhile (· ≠ 0)) := by
    have hmem : (0 : UInt8) ∈ m.drop (kMsgHeaderSize + ip.length) :=
      mem_drop_of_load hnul (by simp only [kIPAddrStrLen] at hip; omega)
    have hload : load m (kMsgHeaderSize + 0) ip.length = .ok ip :=
      load_createRegisterServerMsg_ip hbuf hip hname.le hzip
    rw [cString_of_load (load_drop hload) hzip, Nat.zero_add, List.drop_drop, if_pos hmem]
  have hport' : loadField (m.drop kMsgHeaderSize) 16 4 = .ok (ofBytesLE (int32Bytes port)) := by
    rw [loadField, load_drop (load_createRegisterServerMsg_port hbuf hip hname.le)]
    rfl
  have hns' : loadField (m.drop kMsgHeaderSize) 40 8 =
      .ok (ofBytesLE (toBytesLE 8 nsectors.toNat)) := by
    rw [loadField, load_drop (load_createRegisterServerMsg_nsectors hbuf hip hname.le)]
    rfl
  have htype : loadField m 12 4 = .ok MsgType.kRegisterServer.value := by
    rw [loadField, load_createRegisterServerMsg_type hbuf hip hname.le]
    rfl
  have hfilter : (name.filter isAlnum).filter (· != 32) = name := by
    rw [List.filter_eq_self.mpr halnum, List.filter_eq_self]
    intro c hc
    have hne : c ≠ 32 := by
      rintro rfl
      exact absurd (halnum 32 hc) (by decide)
    simpa using hne
  unfold ControllerConnHandler.handleMsg ControllerConnHandler.handleRegisterServer
  rw [if_neg (by rw [hlen]; decide), htype]
  simp only [bind, Except.bind, MsgType.ofValue_value]
  rw [if_neg (by rw [List.length_drop, hlen]; decide), hname', hip', hport', hns']
  simp only [pure, Except.pure, hfilter, signed32_int32Bytes hport, ofNat_ofBytesLE_toNat]

/-- **A server's address decodes to itself exactly when the byte after it is NUL.** For an
address shorter than its field, `strncpy` leaves that byte as the allocation left it. -/
theorem registerServer_roundTrip_iff
    (hbuf : buffer.length = kMsgHeaderSize + kRegisterServerMsgSize)
    (hip : ip.length < kIPAddrStrLen) (hzip : (0 : UInt8) ∉ ip)
    (hname : name.length < kNameStrLen) (halnum : ∀ c ∈ name, isAlnum c)
    (hport : -2 ^ 31 ≤ port ∧ port < 2 ^ 31) :
    ControllerConnHandler.handleMsg (createRegisterServerMsg buffer ip port name nsectors) =
        .ok (.registerServer ip port name nsectors) ↔
      load buffer (kMsgHeaderSize + ip.length) 1 = .ok [0] := by
  obtain ⟨b, hb⟩ := exists_load_one (p := buffer) (o := kMsgHeaderSize + ip.length)
    (by simp only [hbuf, kMsgHeaderSize, kRegisterServerMsgSize, kIPAddrStrLen] at hip ⊢; omega)
  have hb' : load (createRegisterServerMsg buffer ip port name nsectors)
      (kMsgHeaderSize + ip.length) 1 = .ok [b] :=
    (load_createRegisterServerMsg_ip_end hbuf hip hname.le).trans hb
  obtain ⟨rest, hrest⟩ := drop_eq_cons_of_load hb'
  rw [handleMsg_createRegisterServerMsg hbuf hip.le hzip hname halnum hport, hrest, hb]
  simp

/-- A server at `10.0.0.1:5000` named `ssd0`, over a buffer that held `A`s: the controller
records its address as `10.0.0.1` followed by the leftover bytes. -/
theorem registerServer_roundTrip_fails :
    ControllerConnHandler.handleMsg (createRegisterServerMsg (List.replicate 64 65)
        [49, 48, 46, 48, 46, 48, 46, 49] 5000 [115, 115, 100, 48] 1) ≠
      .ok (.registerServer [49, 48, 46, 48, 46, 48, 46, 49] 5000 [115, 115, 100, 48] 1) := fun h =>
  absurd ((registerServer_roundTrip_iff (by decide) (by decide) (by decide) (by decide)
    (by simp [isAlnum]) (by decide)).mp h) (by decide)

end RegisterServer

/-! ## The fields of an encoded volume registration -/

section RegisterVolume

variable {buffer ip : List UInt8} {port : ℤ} {nsectors : UInt64}

theorem registerVolumeWrites_le (hbuf : buffer.length = kMsgHeaderSize + kRegisterVolumeMsgSize)
    (hip : ip.length ≤ kIPAddrStrLen) :
    ∀ w ∈ registerVolumeWrites ip port nsectors, w.1 + w.2.length ≤ buffer.length := by
  simp only [registerVolumeWrites, List.forall_mem_cons, List.not_mem_nil, IsEmpty.forall_iff,
    implies_true, and_true, length_toBytesLE, length_int32Bytes, length_strncpyBytes, hbuf]
  simp only [kMsgHeaderSize, kRegisterVolumeMsgSize, kIPAddrStrLen] at hip ⊢
  omega

theorem load_createRegisterVolumeMsg_type
    (hbuf : buffer.length = kMsgHeaderSize + kRegisterVolumeMsgSize)
    (hip : ip.length ≤ kIPAddrStrLen) :
    load (createRegisterVolumeMsg buffer ip port nsectors) 12 4 =
      .ok (toBytesLE 4 MsgType.kRegisterVolume.value) :=
  (load_writeAll_of_within [_] [_, _, _, _] (registerVolumeWrites_le hbuf hip) le_rfl (by simp)
    (by simp [kMsgHeaderSize])).trans rfl

theorem load_createRegisterVolumeMsg_ip
    (hbuf : buffer.length = kMsgHeaderSize + kRegisterVolumeMsgSize)
    (hip : ip.length ≤ kIPAddrStrLen) (hz : (0 : UInt8) ∉ ip) :
    load (createRegisterVolumeMsg buffer ip port nsectors) kMsgHeaderSize ip.length = .ok ip := by
  refine (load_writeAll_of_within [_, _, _, _, _] [] (registerVolumeWrites_le hbuf hip) le_rfl
    (by simp) (by simp)).trans ?_
  rw [Nat.sub_self, List.drop_zero, strncpyBytes_of_length hz rfl, List.take_length]

theorem load_createRegisterVolumeMsg_port
    (hbuf : buffer.length = kMsgHeaderSize + kRegisterVolumeMsgSize)
    (hip : ip.length ≤ kIPAddrStrLen) :
    load (createRegisterVolumeMsg buffer ip port nsectors) (kMsgHeaderSize + 16) 4 =
      .ok (int32Bytes port) := by
  refine (load_writeAll_of_within [_, _, _] [_, _] (registerVolumeWrites_le hbuf hip) le_rfl
    (by simp) ?_).trans ?_
  · simp only [List.forall_mem_cons, List.not_mem_nil, IsEmpty.forall_iff, implies_true,
      and_true, length_toBytesLE, length_strncpyBytes]
    simp only [kMsgHeaderSize, kIPAddrStrLen] at hip ⊢
    omega
  · rw [Nat.sub_self, List.drop_zero, List.take_of_length_le (length_int32Bytes port).le]

theorem load_createRegisterVolumeMsg_nsectors
    (hbuf : buffer.length = kMsgHeaderSize + kRegisterVolumeMsgSize)
    (hip : ip.length ≤ kIPAddrStrLen) :
    load (createRegisterVolumeMsg buffer ip port nsectors) (kMsgHeaderSize + 24) 8 =
      .ok (toBytesLE 8 nsectors.toNat) := by
  refine (load_writeAll_of_within [_, _, _, _] [_] (registerVolumeWrites_le hbuf hip) le_rfl
    (by simp) ?_).trans ?_
  · simp only [List.forall_mem_cons, List.not_mem_nil, IsEmpty.forall_iff, implies_true,
      and_true, length_strncpyBytes]
    simp only [kMsgHeaderSize, kIPAddrStrLen] at hip ⊢
    omega
  · rw [Nat.sub_self, List.drop_zero, List.take_of_length_le (length_toBytesLE 8 nsectors.toNat).le]

/-- **A volume registration decodes to what was encoded, but for the address**, which is `ip`
followed by the bytes after it up to the first NUL; with no NUL after it in the message, the
read of the address runs past the payload. -/
theorem handleMsg_createRegisterVolumeMsg
    (hbuf : buffer.length = kMsgHeaderSize + kRegisterVolumeMsgSize)
    (hip : ip.length ≤ kIPAddrStrLen) (hzip : (0 : UInt8) ∉ ip)
    (hport : -2 ^ 31 ≤ port ∧ port < 2 ^ 31) :
    ControllerConnHandler.handleMsg (createRegisterVolumeMsg buffer ip port nsectors) =
      let rest := (createRegisterVolumeMsg buffer ip port nsectors).drop (kMsgHeaderSize + ip.length)
      if (0 : UInt8) ∈ rest then .ok (.registerVolume (ip ++ rest.takeWhile (· ≠ 0)) port nsectors)
      else .error (0, kRegisterVolumeMsgSize + 1) := by
  set m := createRegisterVolumeMsg buffer ip port nsectors
  have hlen : m.length = kMsgHeaderSize + kRegisterVolumeMsgSize :=
    (length_writeAll (registerVolumeWrites_le hbuf hip)).trans hbuf
  have hip' : cString (m.drop kMsgHeaderSize) 0 =
      if (0 : UInt8) ∈ m.drop (kMsgHeaderSize + ip.length) then
        .ok (ip ++ (m.drop (kMsgHeaderSize + ip.length)).takeWhile (· ≠ 0))
      else .error (0, kRegisterVolumeMsgSize + 1) := by
    have hload : load m (kMsgHeaderSize + 0) ip.length = .ok ip :=
      load_createRegisterVolumeMsg_ip hbuf hip hzip
    rw [cString_of_load (load_drop hload) hzip, Nat.zero_add, List.drop_drop, List.length_drop,
      hlen]
    rfl
  have hport' : loadField (m.drop kMsgHeaderSize) 16 4 = .ok (ofBytesLE (int32Bytes port)) := by
    rw [loadField, load_drop (load_createRegisterVolumeMsg_port hbuf hip)]
    rfl
  have hns' : loadField (m.drop kMsgHeaderSize) 24 8 =
      .ok (ofBytesLE (toBytesLE 8 nsectors.toNat)) := by
    rw [loadField, load_drop (load_createRegisterVolumeMsg_nsectors hbuf hip)]
    rfl
  have htype : loadField m 12 4 = .ok MsgType.kRegisterVolume.value := by
    rw [loadField, load_createRegisterVolumeMsg_type hbuf hip]
    rfl
  unfold ControllerConnHandler.handleMsg ControllerConnHandler.handleRegisterVolume
  rw [if_neg (by rw [hlen]; decide), htype]
  simp only [bind, Except.bind, MsgType.ofValue_value]
  rw [if_neg (by rw [List.length_drop, hlen]; decide), hip']
  split_ifs
  · simp only [hport', hns', pure, Except.pure, signed32_int32Bytes hport, ofNat_ofBytesLE_toNat]
  · rfl

/-- In a zeroed buffer the address ends where `ip` does, and the registration decodes as sent. -/
theorem handleMsg_createRegisterVolumeMsg_zeroed :
    ControllerConnHandler.handleMsg (createRegisterVolumeMsg
        (List.replicate (kMsgHeaderSize + kRegisterVolumeMsgSize) 0)
        [49, 48, 46, 48, 46, 48, 46, 49] 5000 8) =
      .ok (.registerVolume [49, 48, 46, 48, 46, 48, 46, 49] 5000 8) :=
  (handleMsg_createRegisterVolumeMsg (by simp) (by decide) (by decide) (by decide)).trans rfl

end RegisterVolume

end Sandook.Messages
