import Sandook.Base.Types

/-!
# The block resolver (`virtual_disk/block_resolver.h`)

Model of `BlockResolver`: the map from a volume's sectors to the replica blocks that hold
them, and the list of replaced mappings queued for the garbage collector.

* `blk_map_` is an array of `nsectors` atomic shared pointers to replica lists; the model keeps
  the lists. Every entry starts as `{{kInvalidServerID}, false}` followed by a value-initialised
  entry. A list is *mapped* when its front entry's server is not `kInvalidServerID`.
* The build defines `NDEBUG`: `assert(blk_addr < nsectors_)` checks nothing, and an access past
  the array is undefined behaviour, `none`.
* The discard list's mutex only orders `AddMapping` and `GetAndResetDiscardedBlocks`; the latter
  is called by the garbage collector alone, which the build disables, and is left out.

Results:
* `addMapping_eq`, `resolveBlock_eq`: `AddMapping` and `ResolveBlock` on a sector of the volume.
* `addMapping_some`: `AddMapping` returns only on a sector of the volume, and then succeeds; the
  replaced list is appended to the discard list iff it was mapped and its front entry dirty.
-/

namespace Sandook.VirtualDisk

/-- The entry every sector's list starts as: the invalid server, not dirty. -/
def unmappedEntry : ServerReplicaBlockInfo := (⟨kInvalidServerID, 0⟩, false)

/-- `front()` of a replica list (the arrays always have `kNumReplicas` entries). -/
def front (l : ServerReplicaBlockInfoList) : ServerReplicaBlockInfo := l.headD unmappedEntry

/-- A replica list that `ResolveBlock` returns: its front server is a real one. -/
def Mapped (l : ServerReplicaBlockInfoList) : Prop := (front l).1.serverId ≠ kInvalidServerID

instance (l : ServerReplicaBlockInfoList) : Decidable (Mapped l) :=
  inferInstanceAs (Decidable (_ ≠ _))

/-- The state of `BlockResolver`. -/
structure BlockResolver where
  nsectors : ℕ
  blkMap : ℕ → ServerReplicaBlockInfoList
  discardList : List ServerReplicaBlockInfoList

namespace BlockResolver

/-- `BlockResolver(nsectors)`: every sector unmapped, nothing discarded. -/
def init (nsectors : ℕ) : BlockResolver :=
  ⟨nsectors, fun _ => List.replicate kNumReplicas unmappedEntry, []⟩

/-- `DiscardExistingBlocks(blk_addr)`: the sector's list is queued if its front entry is dirty
and on a real server. -/
def discardExistingBlocks (r : BlockResolver) (blkAddr : VolumeBlockAddr) : BlockResolver :=
  let blocks := r.blkMap blkAddr
  if (front blocks).2 = true ∧ (front blocks).1.serverId ≠ kInvalidServerID then
    { r with discardList := r.discardList ++ [blocks] }
  else r

/-- `AddMapping(blk_addr, srv_blk)`. -/
def addMapping (r : BlockResolver) (blkAddr : VolumeBlockAddr)
    (srvBlk : ServerReplicaBlockInfoList) : Option (Status Unit × BlockResolver) :=
  if blkAddr < r.nsectors then
    let r := r.discardExistingBlocks blkAddr
    some (.ok (), { r with blkMap := Function.update r.blkMap blkAddr srvBlk })
  else none

/-- `ResolveBlock(blk_addr)`: `ENOENT` for a sector that is not mapped. -/
def resolveBlock (r : BlockResolver) (blkAddr : VolumeBlockAddr) :
    Option (Status ServerReplicaBlockInfoList) :=
  if blkAddr < r.nsectors then
    let blocks := r.blkMap blkAddr
    if (front blocks).1.serverId = kInvalidServerID then some (.error ENOENT)
    else some (.ok blocks)
  else none

/-! ## `AddMapping` and `ResolveBlock` -/

/-- The lists `DiscardExistingBlocks` queues for sector `blkAddr`: the sector's list, if it is
mapped and its front entry dirty. -/
def discarded (r : BlockResolver) (blkAddr : VolumeBlockAddr) : List ServerReplicaBlockInfoList :=
  if (front (r.blkMap blkAddr)).2 = true ∧ Mapped (r.blkMap blkAddr) then [r.blkMap blkAddr]
  else []

theorem discardExistingBlocks_eq (r : BlockResolver) (blkAddr : VolumeBlockAddr) :
    r.discardExistingBlocks blkAddr =
      { r with discardList := r.discardList ++ r.discarded blkAddr } := by
  have hm : Mapped (r.blkMap blkAddr) ↔ (front (r.blkMap blkAddr)).1.serverId ≠ kInvalidServerID :=
    Iff.rfl
  unfold discardExistingBlocks discarded
  by_cases hd : (front (r.blkMap blkAddr)).2 = true ∧ Mapped (r.blkMap blkAddr)
  · simp only [← hm, hd, and_self, if_true]
  · simp only [← hm, if_neg hd, List.append_nil]

/-- A list `DiscardExistingBlocks` queues is the sector's list, which is mapped. -/
theorem mem_discarded {r : BlockResolver} {blkAddr : VolumeBlockAddr}
    {l : ServerReplicaBlockInfoList} (h : l ∈ r.discarded blkAddr) :
    l = r.blkMap blkAddr ∧ Mapped (r.blkMap blkAddr) := by
  unfold discarded at h
  split_ifs at h with hd
  · exact ⟨List.mem_singleton.mp h, hd.2⟩
  · cases h

theorem addMapping_eq (r : BlockResolver) {blkAddr : VolumeBlockAddr}
    (srvBlk : ServerReplicaBlockInfoList) (h : blkAddr < r.nsectors) :
    r.addMapping blkAddr srvBlk =
      some (.ok (), ⟨r.nsectors, Function.update r.blkMap blkAddr srvBlk,
        r.discardList ++ r.discarded blkAddr⟩) := by
  rw [addMapping, if_pos h, discardExistingBlocks_eq]

/-- `AddMapping` returns only on a sector of the volume, and then succeeds. -/
theorem addMapping_some {r r' : BlockResolver} {blkAddr : VolumeBlockAddr}
    {srvBlk : ServerReplicaBlockInfoList} {ret : Status Unit}
    (h : r.addMapping blkAddr srvBlk = some (ret, r')) :
    blkAddr < r.nsectors ∧ ret = .ok () ∧
      r' = ⟨r.nsectors, Function.update r.blkMap blkAddr srvBlk,
        r.discardList ++ r.discarded blkAddr⟩ := by
  by_cases hlt : blkAddr < r.nsectors
  · rw [addMapping_eq r srvBlk hlt, Option.some.injEq, Prod.mk.injEq] at h
    exact ⟨hlt, h.1.symm, h.2.symm⟩
  · simp [addMapping, hlt] at h

/-- `ResolveBlock` on a sector of the volume: its list if mapped, `ENOENT` otherwise. -/
theorem resolveBlock_eq (r : BlockResolver) {blkAddr : VolumeBlockAddr}
    (h : blkAddr < r.nsectors) :
    r.resolveBlock blkAddr =
      some (if Mapped (r.blkMap blkAddr) then .ok (r.blkMap blkAddr) else .error ENOENT) := by
  unfold resolveBlock Mapped
  simp only [if_pos h]
  split_ifs <;> simp_all

/-- What `ResolveBlock` returns: a mapped list of a sector of the volume, or `ENOENT`. -/
theorem resolveBlock_some {r : BlockResolver} {blkAddr : VolumeBlockAddr}
    {ret : Status ServerReplicaBlockInfoList} (h : r.resolveBlock blkAddr = some ret) :
    blkAddr < r.nsectors ∧
      (ret = .ok (r.blkMap blkAddr) ∧ Mapped (r.blkMap blkAddr) ∨
        ret = .error ENOENT ∧ ¬ Mapped (r.blkMap blkAddr)) := by
  by_cases hlt : blkAddr < r.nsectors
  · rw [resolveBlock_eq r hlt, Option.some.injEq] at h
    subst h
    refine ⟨hlt, ?_⟩
    split_ifs with hm
    · exact .inl ⟨rfl, hm⟩
    · exact .inr ⟨rfl, hm⟩
  · simp [resolveBlock, hlt] at h

/-- No sector of a new resolver is mapped. -/
theorem not_mapped_init (nsectors i : ℕ) : ¬ Mapped ((init nsectors).blkMap i) := by
  simp [Mapped, init, front, unmappedEntry, kNumReplicas]

end BlockResolver

end Sandook.VirtualDisk
