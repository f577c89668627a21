import Sandook.Messages.Decoders
import Sandook.VirtualDisk.OnServers

/-!
# The garbage collector of a remote volume (`virtual_disk/virtual_disk_remote.cc`,
`virtual_disk/block_resolver.h`, `base/msg.h`)

Model of `VirtualDiskRemote::RunGarbageCollector`: it takes the discard list
(`BlockResolver::GetAndResetDiscardedBlocks`), groups the replica entries' block addresses by
server, and sends each server its addresses in `DiscardBlocks` messages of at most
`kDiscardBatch`, adding each message's count to `num_gc_blocks`.

* `server_blks` is an `unordered_map`: the order in which it is iterated is an oracle `order`,
  which visits each of its keys once. Each key's vector holds the addresses of that server's
  entries in list order (`emplace_back`).
* `GetRPCClientForServer` asserts that the server has a client, which `NDEBUG` compiles out;
  `servers_[server_id]` then makes a null client, which the first `Call` dereferences: `none`.
  Every key of `server_blks` has a block, so a server without a client is always dereferenced.
* `DiscardBlocksMsg::blocks` is a `std::array` of which the collector copies in the first
  `num_blocks` entries; the message keeps those (`DiscardBlocksMsg.blocks`). Its bytes
  (`createDiscardBlocksMsgBytes`) take the whole array, whose other entries are whatever the
  uninitialised local array held, over a buffer of any prior content. `Call`'s reply is ignored
  and not modelled; neither is `total_blocks_gc`, which is only logged.
* `num_gc_blocks` (`n_disk_blocks_gc_`, a `uint64_t` of `VirtualDiskBase`) is passed beside the
  volume.
* The batch loop runs on fuel, the number of addresses: each round sends at least one.

Results:
* `discardLoop_spec`: the batches of one server's addresses are, in order, those addresses, each
  batch of `1` to `kDiscardBatch`.
* `gcServers_spec`: visiting each server once, the loop sends every server its own addresses.
* `runGarbageCollector_spec`: for every discard list whose entries are on servers the volume has
  a client for, one run empties the list, and the addresses each server is sent, in order, are
  those of its entries in the list, in messages of `1` to `kDiscardBatch`; and `num_gc_blocks`
  grows by the number of entries.
* `runGarbageCollector_eq_none`: on a list with an entry on a server without a client the run
  is undefined, whatever the order.
* `reachable_runGarbageCollector`: the volumes of a running cluster are never in that case
  (`reachable_onServers`): for each of them the run does all of the above, and `num_gc_blocks`
  grows by `kNumReplicas` per list.
* `handleMsg_createDiscardBlocksMsgBytes`, `runGarbageCollector_decodes`: the storage server's
  `DiskConnHandler::HandleMsg` decodes each message of a run to the addresses it carries, over any
  prior content of the buffer and of the array past `num_blocks`.
-/

namespace Sandook.VirtualDisk

open Sandook.Lib Sandook.Messages

/-- `DiscardBlocksMsg`: the block addresses `CreateDiscardBlocksMsg` copies in, and
`num_blocks`. -/
structure DiscardBlocksMsg where
  blocks : List ServerBlockAddr
  numBlocks : ℕ
  deriving DecidableEq, Repr

/-- `CreateDiscardBlocksMsg(blocks, num_blocks)`. -/
def createDiscardBlocksMsg (blocks : List ServerBlockAddr) (numBlocks : ℕ) : DiscardBlocksMsg :=
  ⟨blocks, numBlocks⟩

/-- `GetAndResetDiscardedBlocks()`: `ENOENT` on an empty list; otherwise the list, which the
resolver no longer holds. -/
def BlockResolver.getAndResetDiscardedBlocks (r : BlockResolver) :
    Status (List ServerReplicaBlockInfoList) × BlockResolver :=
  if r.discardList = [] then (.error ENOENT, r) else (.ok r.discardList, { r with discardList := [] })

/-- `server_blks[server_id]`: the block addresses of the server's replica entries, in list
order. -/
def serverBlks (discarded : List ServerReplicaBlockInfoList) (serverId : ServerID) :
    List ServerBlockAddr :=
  (discarded.flatten.filter fun e => e.1.serverId = serverId).map fun e => e.1.blockAddr

/-- The keys of `server_blks`: the servers of the replica entries. -/
def serverKeys (discarded : List ServerReplicaBlockInfoList) : List ServerID :=
  (discarded.flatten.map fun e => e.1.serverId).dedup

/-- The batch loop for one server: while addresses remain, send the next
`min(num_blocks_remaining, kDiscardBatch)` of them and add their number to `num_gc_blocks`. -/
def discardLoop : ℕ → List ServerBlockAddr → UInt64 → Option (List DiscardBlocksMsg × UInt64)
  | 0, blks, numGcBlocks => if 0 < blks.length then none else some ([], numGcBlocks)
  | fuel + 1, blks, numGcBlocks =>
    if 0 < blks.length then
      let n := min blks.length kDiscardBatch
      let discardMsg := createDiscardBlocksMsg (blks.take n) n
      (discardLoop fuel (blks.drop n) (numGcBlocks + n.toUInt64)).map fun r =>
        (discardMsg :: r.1, r.2)
    else some ([], numGcBlocks)

/-- The loop over `server_blks` in the order `order`: each server's batches, sent through its
client. -/
def gcServers (vd : VirtualDiskRemote) (discarded : List ServerReplicaBlockInfoList) :
    List ServerID → UInt64 → Option (UInt64 × List (ServerID × DiscardBlocksMsg))
  | [], numGcBlocks => some (numGcBlocks, [])
  | serverId :: rest, numGcBlocks =>
    if serverId ∈ vd.servers then
      let blks := serverBlks discarded serverId
      (discardLoop blks.length blks numGcBlocks).bind fun r =>
        (gcServers vd discarded rest r.2).map fun q => (q.1, r.1.map (serverId, ·) ++ q.2)
    else none

/-- `RunGarbageCollector()`: the volume after it, `num_gc_blocks`, and the messages sent, each
with the server it went to. -/
def runGarbageCollector (vd : VirtualDiskRemote) (numGcBlocks : UInt64) (order : List ServerID) :
    Option (VirtualDiskRemote × UInt64 × List (ServerID × DiscardBlocksMsg)) :=
  match vd.blkRes.getAndResetDiscardedBlocks with
  | (.error _, _) => some (vd, numGcBlocks, [])
  | (.ok discarded, blkRes) =>
    let vd := { vd with blkRes := blkRes }
    if discarded = [] then some (vd, numGcBlocks, [])
    else (gcServers vd discarded order numGcBlocks).map fun r => (vd, r.1, r.2)

/-! ## The bytes of a message -/

/-- `sizeof(DiscardBlocksMsg)`: `kDiscardBatch` block addresses, then `size_t num_blocks`. -/
def kDiscardBlocksMsgSize : ℕ := kNumBlocksOffset + 8

/-- The bytes of an array of `ServerBlockAddr`, eight a `uint64_t`. -/
def addrBytes (blocks : List ServerBlockAddr) : List UInt8 := blocks.flatMap (toBytesLE 8)

@[simp] theorem length_addrBytes (blocks : List ServerBlockAddr) :
    (addrBytes blocks).length = 8 * blocks.length := by
  induction blocks with
  | nil => rfl
  | cons b bs ih =>
    rw [addrBytes, List.flatMap_cons, List.length_append, length_toBytesLE, ← addrBytes, ih,
      List.length_cons]
    ring

/-- The writes of `CreateDiscardBlocksMsg`, in its order: the header's `len`, `type` and
`payload_size`, the array `blocks`, and `num_blocks`. -/
def discardBlocksWrites (blocks : List ServerBlockAddr) (numBlocks : ℕ) :
    List (ℕ × List UInt8) :=
  [(0, toBytesLE 8 kDiscardBlocksMsgSize), (12, toBytesLE 4 MsgType.kDiscardBlocks.value),
    (8, toBytesLE 4 0), (kMsgHeaderSize, addrBytes blocks),
    (kMsgHeaderSize + kNumBlocksOffset, toBytesLE 8 numBlocks)]

/-- `CreateDiscardBlocksMsg(blocks, num_blocks)` as the bytes it lays over `buffer`, which
`make_unique_for_overwrite` leaves as they were; `blocks` is the whole array, passed by value. -/
def createDiscardBlocksMsgBytes (buffer : List UInt8) (blocks : List ServerBlockAddr)
    (numBlocks : ℕ) : List UInt8 :=
  writeAll buffer (discardBlocksWrites blocks numBlocks)

section Bytes

variable {buffer : List UInt8} {blocks : List ServerBlockAddr} {numBlocks : ℕ}

theorem discardBlocksWrites_le (hbuf : buffer.length = kMsgHeaderSize + kDiscardBlocksMsgSize)
    (hblocks : blocks.length = kDiscardBatch) :
    ∀ w ∈ discardBlocksWrites blocks numBlocks, w.1 + w.2.length ≤ buffer.length := by
  simp only [discardBlocksWrites, List.forall_mem_cons, List.not_mem_nil, IsEmpty.forall_iff,
    implies_true, and_true, length_toBytesLE, length_addrBytes, hblocks, hbuf]
  simp only [kMsgHeaderSize, kDiscardBlocksMsgSize, kNumBlocksOffset, kDiscardBatch]
  omega

/-- The header's `len` reads back from its field. -/
theorem load_createDiscardBlocksMsgBytes_len
    (hbuf : buffer.length = kMsgHeaderSize + kDiscardBlocksMsgSize)
    (hblocks : blocks.length = kDiscardBatch) :
    load (createDiscardBlocksMsgBytes buffer blocks numBlocks) 0 8 =
      .ok (toBytesLE 8 kDiscardBlocksMsgSize) := by
  refine (load_writeAll_of_within [] [_, _, _, _] (discardBlocksWrites_le hbuf hblocks) le_rfl
    (by simp) ?_).trans ?_
  · simp [kMsgHeaderSize, kNumBlocksOffset, kDiscardBatch]
  · rw [Nat.sub_self, List.drop_zero, List.take_of_length_le (length_toBytesLE 8 _).le]

/-- The header names the message a discard. -/
theorem load_createDiscardBlocksMsgBytes_type
    (hbuf : buffer.length = kMsgHeaderSize + kDiscardBlocksMsgSize)
    (hblocks : blocks.length = kDiscardBatch) :
    load (createDiscardBlocksMsgBytes buffer blocks numBlocks) 12 4 =
      .ok (toBytesLE 4 MsgType.kDiscardBlocks.value) :=
  (load_writeAll_of_within [_] [_, _, _] (discardBlocksWrites_le hbuf hblocks) le_rfl
    (by simp) (by simp [kMsgHeaderSize])).trans rfl

/-- `num_blocks` reads back from its field. -/
theorem load_createDiscardBlocksMsgBytes_numBlocks
    (hbuf : buffer.length = kMsgHeaderSize + kDiscardBlocksMsgSize)
    (hblocks : blocks.length = kDiscardBatch) :
    load (createDiscardBlocksMsgBytes buffer blocks numBlocks) (kMsgHeaderSize + kNumBlocksOffset)
      8 = .ok (toBytesLE 8 numBlocks) := by
  refine (load_writeAll_of_within [_, _, _, _] [] (discardBlocksWrites_le hbuf hblocks) le_rfl
    (by simp) (by simp)).trans ?_
  rw [Nat.sub_self, List.drop_zero, List.take_of_length_le (length_toBytesLE 8 _).le]

/-- The first `num_blocks` addresses read back from the array. -/
theorem load_createDiscardBlocksMsgBytes_blocks
    (hbuf : buffer.length = kMsgHeaderSize + kDiscardBlocksMsgSize)
    (hblocks : blocks.length = kDiscardBatch) (hnum : numBlocks ≤ kDiscardBatch) :
    load (createDiscardBlocksMsgBytes buffer blocks numBlocks) kMsgHeaderSize (8 * numBlocks) =
      .ok ((addrBytes blocks).take (8 * numBlocks)) := by
  refine (load_writeAll_of_within [_, _, _] [_] (discardBlocksWrites_le hbuf hblocks) le_rfl
    ?_ ?_).trans ?_
  · rw [length_addrBytes, hblocks]
    omega
  · simp only [List.mem_singleton, forall_eq, length_toBytesLE, kMsgHeaderSize, kNumBlocksOffset,
      kDiscardBatch]
    simp only [kDiscardBatch] at hnum
    omega
  · rw [Nat.sub_self, List.drop_zero]

/-- What the storage server reads from the array: its first `numBlocks` addresses, as
`uint64_t`. -/
theorem decodeAddrs_addrBytes (hnum : numBlocks ≤ blocks.length) :
    (List.range numBlocks).map (fun i =>
        ofBytesLE ((((addrBytes blocks).take (8 * numBlocks)).drop (8 * i)).take 8)) =
      (blocks.take numBlocks).map (· % 2 ^ 64) := by
  refine List.ext_getElem (by simp [hnum]) fun i h₁ _ => ?_
  have hi : i < numBlocks := by simpa using h₁
  -- field `i` lies inside the `8 * numBlocks` bytes read
  have hfield : (((addrBytes blocks).take (8 * numBlocks)).drop (8 * i)).take 8 =
      ((addrBytes blocks).drop (8 * i)).take 8 := by
    rw [List.drop_take, List.take_take, Nat.min_eq_left (by omega)]
  simp only [List.getElem_map, List.getElem_range, List.getElem_take]
  rw [hfield, addrBytes, field_flatMap_of_length (length_toBytesLE 8) blocks (by omega),
    ofBytesLE_toBytesLE]
  norm_num

/-- **A discard message decodes to the addresses it carries**: over every prior content of the
buffer and every content of the array past `num_blocks`, the storage server's `HandleMsg` hands
over the first `num_blocks` addresses, as `uint64_t`. -/
theorem handleMsg_createDiscardBlocksMsgBytes (allowingWrites : Bool)
    (hbuf : buffer.length = kMsgHeaderSize + kDiscardBlocksMsgSize)
    (hblocks : blocks.length = kDiscardBatch) (hnum : numBlocks ≤ kDiscardBatch) :
    handleMsg allowingWrites (createDiscardBlocksMsgBytes buffer blocks numBlocks) =
      .ok (.discard ((blocks.take numBlocks).map (· % 2 ^ 64))) := by
  set p := createDiscardBlocksMsgBytes buffer blocks numBlocks
  have hlen : p.length = kMsgHeaderSize + kDiscardBlocksMsgSize :=
    (length_writeAll (discardBlocksWrites_le hbuf hblocks)).trans hbuf
  have htype : loadField p 12 4 = .ok MsgType.kDiscardBlocks.value := by
    rw [loadField, load_createDiscardBlocksMsgBytes_type hbuf hblocks]
    rfl
  have hlenField : loadField p 0 8 = .ok kDiscardBlocksMsgSize := by
    rw [loadField, load_createDiscardBlocksMsgBytes_len hbuf hblocks]
    rfl
  have hnumField : loadField p (kMsgHeaderSize + kNumBlocksOffset) 8 = .ok numBlocks := by
    have hlt : numBlocks < 256 ^ 8 := by
      simp only [kDiscardBatch] at hnum
      omega
    rw [loadField, load_createDiscardBlocksMsgBytes_numBlocks hbuf hblocks, Except.map,
      ofBytesLE_toBytesLE, Nat.mod_eq_of_lt hlt]
  have hmsg : load p kMsgHeaderSize kDiscardBlocksMsgSize =
      .ok ((p.drop kMsgHeaderSize).take kDiscardBlocksMsgSize) :=
    load_of_le hlen.ge
  unfold handleMsg handleDiscardBlocks
  rw [htype]
  simp only [bind, Except.bind, MsgType.ofValue_value]
  rw [hlenField]
  dsimp only
  rw [hmsg]
  dsimp only
  rw [hnumField]
  dsimp only
  rw [load_createDiscardBlocksMsgBytes_blocks hbuf hblocks hnum]
  simp only [pure, Except.pure, decodeAddrs_addrBytes (hblocks ▸ hnum)]

end Bytes

/-! ## One server's batches -/

/-- What a message carries: its first `num_blocks` addresses. -/
def DiscardBlocksMsg.sent (m : DiscardBlocksMsg) : List ServerBlockAddr := m.blocks.take m.numBlocks

/-- A message as the collector builds it: `1` to `kDiscardBatch` addresses, each copied in. -/
def DiscardBlocksMsg.Filled (m : DiscardBlocksMsg) : Prop :=
  1 ≤ m.numBlocks ∧ m.numBlocks ≤ kDiscardBatch ∧ m.blocks.length = m.numBlocks

/-- **The batches of one server**: with fuel for one round per address, the loop sends the
addresses in order, in filled messages of `1` to `kDiscardBatch`, and counts them all. -/
theorem discardLoop_spec :
    ∀ (fuel : ℕ) (blks : List ServerBlockAddr) (numGcBlocks : UInt64), blks.length ≤ fuel →
      ∃ msgs, discardLoop fuel blks numGcBlocks = some (msgs, numGcBlocks + blks.length.toUInt64) ∧
        (msgs.map DiscardBlocksMsg.sent).flatten = blks ∧ ∀ m ∈ msgs, m.Filled
  | 0, blks, numGcBlocks, hfuel => by
    obtain rfl : blks = [] := List.eq_nil_of_length_eq_zero (Nat.le_zero.mp hfuel)
    exact ⟨[], by simp [discardLoop], rfl, by simp⟩
  | fuel + 1, [], numGcBlocks, _ => ⟨[], by simp [discardLoop], rfl, by simp⟩
  | fuel + 1, b :: bs, numGcBlocks, hfuel => by
    -- one round sends the first `n` addresses, the rest go to the rounds after
    have hpos : 0 < (b :: bs).length := Nat.succ_pos _
    set n := min (b :: bs).length kDiscardBatch with hn
    have hn₁ : 1 ≤ n := by
      rw [hn]
      exact Nat.le_min.mpr ⟨hpos, by decide⟩
    have hle : n ≤ (b :: bs).length := Nat.min_le_left _ _
    have hrest : ((b :: bs).drop n).length ≤ fuel := by
      rw [List.length_drop]
      simp only [List.length_cons] at hfuel ⊢
      omega
    obtain ⟨msgs, hloop, hsent, hsizes⟩ :=
      discardLoop_spec fuel ((b :: bs).drop n) (numGcBlocks + n.toUInt64) hrest
    refine ⟨createDiscardBlocksMsg ((b :: bs).take n) n :: msgs, ?_, ?_, ?_⟩
    · rw [discardLoop, if_pos hpos]
      dsimp only
      rw [hloop, Option.map_some, List.length_drop, UInt64.add_assoc]
      rw [Nat.toUInt64_eq, Nat.toUInt64_eq, Nat.toUInt64_eq, ← UInt64.ofNat_add,
        Nat.add_sub_cancel' hle]
    · rw [List.map_cons, List.flatten_cons, hsent]
      simp only [DiscardBlocksMsg.sent, createDiscardBlocksMsg, List.take_take, Nat.min_self,
        List.take_append_drop]
    · rintro m (_ | ⟨_, hm⟩)
      · exact ⟨hn₁, Nat.min_le_right _ _, List.length_take_of_le hle⟩
      · exact hsizes m hm

/-! ## The servers' batches -/

/-- The addresses the messages carry to server `serverId`, in the order they were sent. -/
def sentTo (msgs : List (ServerID × DiscardBlocksMsg)) (serverId : ServerID) :
    List ServerBlockAddr :=
  ((msgs.filter fun m => m.1 = serverId).map fun m => m.2.sent).flatten

@[simp] theorem sentTo_nil (serverId : ServerID) : sentTo [] serverId = [] := rfl

@[simp] theorem sentTo_append (ms ms' : List (ServerID × DiscardBlocksMsg)) (serverId : ServerID) :
    sentTo (ms ++ ms') serverId = sentTo ms serverId ++ sentTo ms' serverId := by
  simp [sentTo]

/-- The batches of one server reach that server only. -/
theorem sentTo_map_pair (ms : List DiscardBlocksMsg) (s serverId : ServerID) :
    sentTo (ms.map (s, ·)) serverId = if s = serverId then (ms.map DiscardBlocksMsg.sent).flatten
      else [] := by
  by_cases h : s = serverId
  · subst h
    simp [sentTo, List.filter_map, Function.comp_def]
  · simp [sentTo, h]

theorem mem_serverKeys {discarded : List ServerReplicaBlockInfoList} {serverId : ServerID} :
    serverId ∈ serverKeys discarded ↔ ∃ l ∈ discarded, ∃ e ∈ l, e.1.serverId = serverId := by
  simp [serverKeys]

theorem serverBlks_eq_nil {discarded : List ServerReplicaBlockInfoList} {serverId : ServerID}
    (h : serverId ∉ serverKeys discarded) : serverBlks discarded serverId = [] := by
  simp only [mem_serverKeys, not_exists, not_and] at h
  simp only [serverBlks, List.map_eq_nil_iff, List.filter_eq_nil_iff, List.mem_flatten,
    decide_eq_true_eq]
  rintro e ⟨l, hl, he⟩
  exact h l hl e he

theorem length_serverBlks (discarded : List ServerReplicaBlockInfoList) (serverId : ServerID) :
    (serverBlks discarded serverId).length =
      (discarded.flatten.map fun e => e.1.serverId).count serverId := by
  rw [serverBlks, List.length_map, List.count, List.countP_map, List.countP_eq_length_filter]
  rfl

/-- Grouping by server loses no entry: the servers' lists together are as long as the discard
list's entries. -/
theorem sum_length_serverBlks (discarded : List ServerReplicaBlockInfoList) :
    ((serverKeys discarded).map fun s => (serverBlks discarded s).length).sum =
      discarded.flatten.length := by
  simp only [serverKeys, length_serverBlks]
  rw [List.sum_map_count_dedup_eq_length, List.length_map]

/-- **The loop over the servers**: visiting servers with a client, each once, it sends each of
them its addresses, in order and in messages of `1` to `kDiscardBatch`, and counts them all. -/
theorem gcServers_spec (vd : VirtualDiskRemote) (discarded : List ServerReplicaBlockInfoList) :
    ∀ (order : List ServerID), (∀ s ∈ order, s ∈ vd.servers) → order.Nodup → ∀ numGcBlocks,
      ∃ msgs, gcServers vd discarded order numGcBlocks = some (numGcBlocks +
          ((order.map fun s => (serverBlks discarded s).length).sum).toUInt64, msgs) ∧
        (∀ serverId, sentTo msgs serverId =
          if serverId ∈ order then serverBlks discarded serverId else []) ∧
        ∀ m ∈ msgs, m.2.Filled
  | [], _, _, numGcBlocks => ⟨[], by simp [gcServers], by simp, by simp⟩
  | s :: rest, hservers, hnodup, numGcBlocks => by
    obtain ⟨hs, hrest⟩ := List.nodup_cons.mp hnodup
    obtain ⟨batch, hloop, hsent, hsizes⟩ :=
      discardLoop_spec (serverBlks discarded s).length (serverBlks discarded s) numGcBlocks le_rfl
    obtain ⟨msgs, hgc, hsentTo, hsizes'⟩ := gcServers_spec vd discarded rest
      (fun s' hs' => hservers s' (List.mem_cons_of_mem s hs')) hrest
      (numGcBlocks + (serverBlks discarded s).length.toUInt64)
    refine ⟨batch.map (s, ·) ++ msgs, ?_, ?_, ?_⟩
    · rw [gcServers, if_pos (hservers s List.mem_cons_self)]
      dsimp only
      rw [hloop, Option.bind_some, hgc, Option.map_some, List.map_cons, List.sum_cons,
        UInt64.add_assoc, Nat.toUInt64_eq, Nat.toUInt64_eq, Nat.toUInt64_eq, ← UInt64.ofNat_add]
    · intro serverId
      rw [sentTo_append, sentTo_map_pair, hsentTo]
      -- `s` is visited once: its addresses come from its own batches only
      by_cases h : s = serverId
      · subst h
        simp [hsent, hs]
      · simp [h, Ne.symm h]
    · rintro m hm
      rcases List.mem_append.mp hm with hm | hm
      · obtain ⟨b, hb, rfl⟩ := List.mem_map.mp hm
        exact hsizes b hb
      · exact hsizes' m hm

/-- On an iteration order that reaches a server without a client, the loop dereferences its null
client. -/
theorem gcServers_eq_none (vd : VirtualDiskRemote) (discarded : List ServerReplicaBlockInfoList)
    {serverId : ServerID} (hno : serverId ∉ vd.servers) :
    ∀ (order : List ServerID), serverId ∈ order → ∀ numGcBlocks,
      gcServers vd discarded order numGcBlocks = none
  | s :: rest, hmem, numGcBlocks => by
    rw [gcServers]
    by_cases hs : s ∈ vd.servers
    · -- a server with a client comes first, so the one without is further on
      have hrest : serverId ∈ rest := by
        rcases List.mem_cons.mp hmem with rfl | h
        · exact absurd hs hno
        · exact h
      rw [if_pos hs]
      dsimp only
      cases discardLoop (serverBlks discarded s).length (serverBlks discarded s) numGcBlocks with
      | none => rfl
      | some r => simp [gcServers_eq_none vd discarded hno rest hrest]
    · rw [if_neg hs]

/-! ## One run -/

/-- Lists of `kNumReplicas` entries have `kNumReplicas` entries each. -/
theorem length_flatten_of_replicas {discarded : List ServerReplicaBlockInfoList}
    (h : ∀ l ∈ discarded, l.length = kNumReplicas) :
    discarded.flatten.length = kNumReplicas * discarded.length := by
  rw [List.length_flatten, List.map_congr_left h, List.map_const', List.sum_replicate,
    smul_eq_mul, Nat.mul_comm]

/-- The spec of `RunGarbageCollector`: on a discard list whose entries are all on servers the
volume has a client for, and for any order of `server_blks` that visits each of its servers
once, the run empties the list, sends every server the addresses of its entries in filled
messages, and adds the number of entries to `num_gc_blocks`. -/
theorem runGarbageCollector_spec (vd : VirtualDiskRemote) (numGcBlocks : UInt64)
    (order : List ServerID)
    (hservers : ∀ l ∈ vd.blkRes.discardList, ∀ e ∈ l, e.1.serverId ∈ vd.servers)
    (horder : order.Perm (serverKeys vd.blkRes.discardList)) :
    ∃ msgs, runGarbageCollector vd numGcBlocks order =
        some ({ vd with blkRes := { vd.blkRes with discardList := [] } },
          numGcBlocks + vd.blkRes.discardList.flatten.length.toUInt64, msgs) ∧
      (∀ serverId, sentTo msgs serverId = serverBlks vd.blkRes.discardList serverId) ∧
      ∀ m ∈ msgs, m.2.Filled := by
  by_cases hnil : vd.blkRes.discardList = []
  · -- an empty list: `GetAndResetDiscardedBlocks` answers `ENOENT` and the run stops
    refine ⟨[], ?_, ?_, by simp⟩
    · have hvd : { vd with blkRes := { vd.blkRes with discardList := [] } } = vd := by
        rw [← hnil]
      simp [runGarbageCollector, BlockResolver.getAndResetDiscardedBlocks, hnil, hvd]
    · simp [hnil, serverBlks]
  · have hnodup : order.Nodup := horder.nodup_iff.mpr (List.nodup_dedup _)
    have hclients : ∀ s ∈ order, s ∈ vd.servers := by
      intro s hs
      obtain ⟨l, hl, e, he, rfl⟩ := mem_serverKeys.mp (horder.subset hs)
      exact hservers l hl e he
    have htotal : (order.map fun s => (serverBlks vd.blkRes.discardList s).length).sum =
        vd.blkRes.discardList.flatten.length := by
      rw [(horder.map _).sum_eq, sum_length_serverBlks]
    obtain ⟨msgs, hgc, hsent, hfilled⟩ :=
      gcServers_spec { vd with blkRes := { vd.blkRes with discardList := [] } }
        vd.blkRes.discardList order hclients hnodup numGcBlocks
    refine ⟨msgs, ?_, ?_, hfilled⟩
    · simp only [runGarbageCollector, BlockResolver.getAndResetDiscardedBlocks, if_neg hnil]
      rw [hgc, htotal, Option.map_some]
    · intro serverId
      rw [hsent serverId]
      split_ifs with hs
      · rfl
      · -- a server outside the order has no entry
        exact (serverBlks_eq_nil fun h => hs (horder.symm.subset h)).symm

/-- A volume of four sectors with clients for `servers` whose resolver holds `discardList`. -/
def gcVolume (servers : List ServerID) (discardList : List ServerReplicaBlockInfoList) :
    VirtualDiskRemote where
  sched := ⟨.kWeightedReadWrite, DataPlane.ServerStatsManager.init fun _ => .kMix⟩
  servers := servers
  affinity := 1
  volId := 1
  blkRes := { BlockResolver.init 4 with discardList := discardList }
  blkCaches := fun _ => none

/-- Two overwritten mappings on servers `1` and `2`, the second with both replicas on server `1`. -/
def sharedServerVolume : VirtualDiskRemote :=
  gcVolume [1, 2] [[(⟨1, 10⟩, true), (⟨2, 20⟩, true)], [(⟨1, 11⟩, true), (⟨1, 12⟩, true)]]

/-- A run on a discard list with an entry on a server without a client dereferences the null
client `GetRPCClientForServer` makes for it, whatever order `server_blks` is visited in. -/
theorem runGarbageCollector_eq_none (vd : VirtualDiskRemote) (numGcBlocks : UInt64)
    (order : List ServerID) {l : ServerReplicaBlockInfoList} {e : ServerReplicaBlockInfo}
    (hl : l ∈ vd.blkRes.discardList) (he : e ∈ l) (hno : e.1.serverId ∉ vd.servers)
    (horder : order.Perm (serverKeys vd.blkRes.discardList)) :
    runGarbageCollector vd numGcBlocks order = none := by
  have hnil : vd.blkRes.discardList ≠ [] := List.ne_nil_of_mem hl
  have hmem : e.1.serverId ∈ order :=
    horder.symm.subset (mem_serverKeys.mpr ⟨l, hl, e, he, rfl⟩)
  simp only [runGarbageCollector, BlockResolver.getAndResetDiscardedBlocks, if_neg hnil]
  rw [gcServers_eq_none { vd with blkRes := { vd.blkRes with discardList := [] } }
    vd.blkRes.discardList hno order hmem]
  rfl

/-! ## Volumes of a running cluster -/

/-- **Garbage collection in a running cluster.** For every volume of every cluster the
controller's runs reach, every `num_gc_blocks` and every order of `server_blks` that visits each
of its servers once, one run of the collector empties the discard list and changes nothing else
of the volume; each server is sent, in order, the addresses of its entries in the list; every
message holds `1` to `kDiscardBatch` addresses; and `num_gc_blocks` grows by the number of
entries, which is `kNumReplicas` per list. -/
theorem reachable_runGarbageCollector {Blk : Type} {env : Env} {cl : Cluster Blk}
    (hr : Reachable controllerEndpoint env cl) {vd : VirtualDiskRemote} (hvd : vd ∈ cl.vols)
    (numGcBlocks : UInt64) (order : List ServerID)
    (horder : order.Perm (serverKeys vd.blkRes.discardList)) :
    ∃ numGcBlocks' msgs, runGarbageCollector vd numGcBlocks order =
        some ({ vd with blkRes := { vd.blkRes with discardList := [] } }, numGcBlocks', msgs) ∧
      (∀ serverId, sentTo msgs serverId = serverBlks vd.blkRes.discardList serverId) ∧
      (∀ m ∈ msgs, 1 ≤ m.2.numBlocks ∧ m.2.numBlocks ≤ kDiscardBatch) ∧
      numGcBlocks' = numGcBlocks + vd.blkRes.discardList.flatten.length.toUInt64 ∧
      vd.blkRes.discardList.flatten.length = kNumReplicas * vd.blkRes.discardList.length := by
  -- every entry of the list is on a server the volume has a client for
  have hon := reachable_onServers serverBlocks_controllerEndpoint hr vd hvd
  obtain ⟨msgs, hrun, hsent, hfilled⟩ := runGarbageCollector_spec vd numGcBlocks order
    (fun l hl e he => (hon.discard l hl).2 e he) horder
  exact ⟨_, msgs, hrun, hsent, fun m hm => ⟨(hfilled m hm).1, (hfilled m hm).2.1⟩, rfl,
    length_flatten_of_replicas fun l hl => (hon.discard l hl).1⟩

set_option maxRecDepth 20000 in
/-- A server registers, a volume with affinity to it is created, and it writes sector `0` twice:
the first write's list, both replicas on server `1`, is discarded. -/
theorem reachable_runGarbageCollector_two_writes :
    ∃ cl : Cluster ℕ, Reachable controllerEndpoint successEnv cl ∧ ∃ vd ∈ cl.vols,
      vd.blkRes.discardList.length = 1 ∧
      ∃ numGcBlocks' msgs, runGarbageCollector vd 0 [1] =
          some ({ vd with blkRes := { vd.blkRes with discardList := [] } }, numGcBlocks', msgs) ∧
        (∀ serverId, sentTo msgs serverId = serverBlks vd.blkRes.discardList serverId) ∧
        (∀ m ∈ msgs, 1 ≤ m.2.numBlocks ∧ m.2.numBlocks ≤ kDiscardBatch) ∧
        numGcBlocks' = 0 + vd.blkRes.discardList.flatten.length.toUInt64 ∧
        vd.blkRes.discardList.flatten.length = kNumReplicas * vd.blkRes.discardList.length := by
  have h₀ : Reachable controllerEndpoint successEnv _ :=
    Reachable.init .kNoOp 0 (fun _ _ => (0 : ℕ)) (fun _ => 0) 0 0
  have h₁ := h₀.step (@Step.registerServer ℕ controllerEndpoint successEnv _ 1 _ _ rfl)
  have h₂ := h₁.step (@Step.createVolume ℕ controllerEndpoint successEnv _
    ⟨.kWeightedReadWrite, DataPlane.ServerStatsManager.init fun _ => .kMix⟩ 1 1 1 0 0 _ _ rfl)
  have h₃ := h₂.step
    (@Step.request ℕ controllerEndpoint successEnv _ 0 2 _ ⟨.kWrite, 1, 0, 0⟩ _ _ rfl rfl)
  have h₄ := h₃.step
    (@Step.request ℕ controllerEndpoint successEnv _ 0 2 _ ⟨.kWrite, 1, 0, 0⟩ _ _ rfl rfl)
  exact ⟨_, h₄, _, List.mem_singleton_self _, rfl,
    reachable_runGarbageCollector h₄ (List.mem_singleton_self _) 0 [1] (by decide)⟩

/-! ## What the servers decode -/

/-- A filled message decodes to the addresses it carries, whatever the array holds after them. -/
theorem DiscardBlocksMsg.Filled.handleMsg_eq {m : DiscardBlocksMsg} (hm : m.Filled)
    (allowingWrites : Bool) {buffer : List UInt8} {rest : List ServerBlockAddr}
    (hbuf : buffer.length = kMsgHeaderSize + kDiscardBlocksMsgSize)
    (hrest : m.numBlocks + rest.length = kDiscardBatch) :
    handleMsg allowingWrites (createDiscardBlocksMsgBytes buffer (m.blocks ++ rest) m.numBlocks) =
      .ok (.discard (m.sent.map (· % 2 ^ 64))) := by
  obtain ⟨-, hnum, hlen⟩ := hm
  have harr : (m.blocks ++ rest).length = kDiscardBatch := by
    rw [List.length_append, hlen, hrest]
  rw [handleMsg_createDiscardBlocksMsgBytes allowingWrites hbuf harr hnum,
    List.take_append_of_le_length hlen.ge, DiscardBlocksMsg.sent]

/-- **The servers decode their entries**: on a discard list whose entries are all on servers the
volume has a client for, each message of a run decodes at its server, over any prior content of
its buffer and whatever the array holds past `num_blocks`, to the addresses it carries; and what
each server is sent, in order, is the addresses of its entries in the list. -/
theorem runGarbageCollector_decodes (vd : VirtualDiskRemote) (numGcBlocks : UInt64)
    (order : List ServerID)
    (hservers : ∀ l ∈ vd.blkRes.discardList, ∀ e ∈ l, e.1.serverId ∈ vd.servers)
    (horder : order.Perm (serverKeys vd.blkRes.discardList)) :
    ∃ vd' numGcBlocks' msgs, runGarbageCollector vd numGcBlocks order =
        some (vd', numGcBlocks', msgs) ∧
      (∀ serverId, sentTo msgs serverId = serverBlks vd.blkRes.discardList serverId) ∧
      ∀ m ∈ msgs, ∀ (allowingWrites : Bool) (buffer : List UInt8) (rest : List ServerBlockAddr),
        buffer.length = kMsgHeaderSize + kDiscardBlocksMsgSize →
        m.2.numBlocks + rest.length = kDiscardBatch →
        handleMsg allowingWrites
            (createDiscardBlocksMsgBytes buffer (m.2.blocks ++ rest) m.2.numBlocks) =
          .ok (.discard (m.2.sent.map (· % 2 ^ 64))) := by
  obtain ⟨msgs, hrun, hsent, hfilled⟩ := runGarbageCollector_spec vd numGcBlocks order hservers horder
  refine ⟨_, _, msgs, hrun, hsent, ?_⟩
  intro m hm allowingWrites buffer rest hbuf hrest
  exact (hfilled m hm).handleMsg_eq allowingWrites hbuf hrest

theorem runGarbageCollector_decodes_shared_server :
    ∃ vd' numGcBlocks' msgs, runGarbageCollector sharedServerVolume 0 [2, 1] =
        some (vd', numGcBlocks', msgs) ∧
      (∀ serverId, sentTo msgs serverId =
        serverBlks sharedServerVolume.blkRes.discardList serverId) ∧
      ∀ m ∈ msgs, ∀ (allowingWrites : Bool) (buffer : List UInt8) (rest : List ServerBlockAddr),
        buffer.length = kMsgHeaderSize + kDiscardBlocksMsgSize →
        m.2.numBlocks + rest.length = kDiscardBatch →
        handleMsg allowingWrites
            (createDiscardBlocksMsgBytes buffer (m.2.blocks ++ rest) m.2.numBlocks) =
          .ok (.discard (m.2.sent.map (· % 2 ^ 64))) :=
  runGarbageCollector_decodes sharedServerVolume 0 [2, 1] (by decide) (by decide)

end Sandook.VirtualDisk
