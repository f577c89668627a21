import Sandook.VirtualDisk.Exclusivity

/-!
# A block handed out twice (`block_allocator.h`, `virtual_disk_remote.cc`)

`next_allocation` is a `std::atomic<uint64_t>`, and nothing compares it with anything: after
`2^64` blocks of one server it wraps, and `AllocateBlocks` hands out block `0` again. A run of
the code reaches that point.

One volume of `2^63 + 1` sectors, with affinity to server `1`, allocates its sectors in
order, one `kAllocate` request of one sector each. Each sector takes two blocks from server `1`'s
cache on core `0`, and the cache gives them out in the order the controller handed them out
(`getFrom_cons`, `getFrom_refill`), so sector `a` maps the blocks `2a` and `2a + 1` modulo
`2^64`: sector `2^63` maps block `0`, as sector `0` does.

Results:
* `getFrom_wrap`, `getBlocks_wrap`, `processRequest_wrap`: the run, one `get` and one request at
  a time; `reachable_wrapCluster`: the requests one after the other.
* `wrapped_block_live_twice`: a cluster a run of the code reaches, whose live mappings hold block
  `(1, 0)` in two sectors.
-/

namespace Sandook.VirtualDisk

open Sandook.Controller Sandook.Lib

/-! ## The states of the run -/

/-- The oracles of the run: every cache access is on core `0` and its refill calls the controller
once; nothing else is read. -/
def wrapEnv : Env := ⟨fun _ _ => 0, fun _ => .empty, fun _ => 0, fun _ => 0, fun _ => none, 1⟩

/-- Server `1`'s block at counter value `a`. -/
def wrapBlock (a : ℕ) : ServerBlockInfo := ⟨1, a % 2 ^ 64⟩

/-- The end of the batch the `j`-th block falls in: `j` rounded up to a multiple of
`kAllocationBatch`. -/
def batchEnd (j : ℕ) : ℕ := kAllocationBatch * ((j + kAllocationBatch - 1) / kAllocationBatch)

/-- Server `1`'s cache after `j` gets: the rest of the current batch, on core `0`. -/
def cacheAt (j : ℕ) : CoreLocalCache ServerBlockInfo :=
  ⟨kPerCoreCachedBlocks,
    Function.update (fun _ => []) 0 ((List.range' j (batchEnd j - j)).map wrapBlock), []⟩

/-- The controller `c` once server `1`'s counter has handed out the batches of `j` blocks. -/
def ctrlAt (c : ControllerAgent) (j : ℕ) : ControllerAgent :=
  { c with
    blkAlloc := (Function.update c.blkAlloc 1
      { c.blkAlloc 1 with nextAllocation := batchEnd j % 2 ^ 64 }) }

/-- The resolver of `nsectors` sectors, those below `s` mapped clean to blocks `2a`, `2a + 1`. -/
def resAt (nsectors s : ℕ) : BlockResolver :=
  ⟨nsectors, fun a => if a < s then [(wrapBlock (2 * a), false), (wrapBlock (2 * a + 1), false)]
    else List.replicate kNumReplicas unmappedEntry, []⟩

/-- The volume: affinity to server `1`, whose cache is `cache`. -/
def wrapVolume (res : BlockResolver) (cache : CoreLocalCache ServerBlockInfo) :
    VirtualDiskRemote :=
  ⟨⟨.kWeightedReadWrite, DataPlane.ServerStatsManager.init fun _ => .kMix⟩, [1], 1, 1, res,
    Function.update (fun _ => none) 1 (some cache)⟩

/-- The world after `j` gets, with the resolver `res`. -/
def wrapWorld (c : ControllerAgent) (res : BlockResolver) (j : ℕ) : World ControllerAgent ℕ :=
  ⟨⟨ctrlAt c j, fun _ _ => 0, fun _ => 0, 0, j⟩, wrapVolume res (cacheAt j)⟩

theorem le_batchEnd (j : ℕ) : j ≤ batchEnd j := by
  unfold batchEnd kAllocationBatch
  omega

theorem batchEnd_succ_of_lt {j : ℕ} (h : j < batchEnd j) : batchEnd (j + 1) = batchEnd j := by
  unfold batchEnd kAllocationBatch at *
  omega

theorem batchEnd_succ_of_eq {j : ℕ} (h : batchEnd j = j) :
    batchEnd (j + 1) = j + kAllocationBatch := by
  unfold batchEnd kAllocationBatch at *
  omega

/-! ## One `get` -/

/-- A batch from counter value `n`, as `AllocateBlocks` builds it: blocks `n, n + 1, …`. -/
theorem map_batch (n k : ℕ) :
    (List.range (k + 1)).map (fun i => (⟨1, (n % 2 ^ 64 + i) % 2 ^ 64⟩ : ServerBlockInfo)) =
      wrapBlock n :: (List.range' (n + 1) k).map wrapBlock := by
  rw [List.range_succ_eq_map, List.map_cons, List.range'_eq_map_range, List.map_map,
    List.map_map]
  refine congrArg₂ _ (by simp [wrapBlock]) (List.map_congr_left fun i _ => ?_)
  simp only [Function.comp_apply, Nat.succ_eq_add_one, wrapBlock, Nat.mod_add_mod]
  congr 2
  omega

/-- What the controller answers server `1`'s cache at the end of a batch: the next batch. -/
theorem controllerEndpoint_ctrlAt (c : ControllerAgent) {j : ℕ} (h : batchEnd j = j) :
    controllerEndpoint (ctrlAt c j) 1 =
      some (wrapBlock j :: (List.range' (j + 1) (kAllocationBatch - 1)).map wrapBlock,
        ctrlAt c (j + 1)) := by
  rw [controllerEndpoint_eq _ (by decide)]
  have hbatch := map_batch j (kAllocationBatch - 1)
  rw [show kAllocationBatch - 1 + 1 = kAllocationBatch from rfl] at hbatch
  simp only [ctrlAt, Function.update_self, h] at hbatch ⊢
  rw [hbatch, batchEnd_succ_of_eq h, Function.update_idem, Nat.mod_add_mod]

/-- **One `get` of the run**: the next block of the counter, from the core's stack or from a
new batch. -/
theorem getFrom_wrap (c : ControllerAgent) (j : ℕ) :
    (cacheAt j).getFrom (fun ctrl => controllerEndpoint ctrl 1) 0 1 (ctrlAt c j) =
      some (wrapBlock j, cacheAt (j + 1), ctrlAt c (j + 1)) := by
  rcases Nat.lt_or_ge j (batchEnd j) with hlt | hge
  · -- blocks of the batch are left on the core's stack: pop the next
    have hend := batchEnd_succ_of_lt hlt
    obtain ⟨m, hm⟩ : ∃ m, batchEnd j - j = m + 1 := ⟨batchEnd j - j - 1, by omega⟩
    have hl : (cacheAt j).locals 0 = wrapBlock j :: (List.range' (j + 1) m).map wrapBlock := by
      simp only [cacheAt, Function.update_self, hm, List.range'_succ, List.map_cons]
    rw [CoreLocalCache.getFrom_cons hl]
    have hrest : batchEnd j - (j + 1) = m := by omega
    simp only [cacheAt, ctrlAt, Function.update_idem, hend, hrest]
  · -- the batch is used up: the controller's next one
    have heq : batchEnd j = j := le_antisymm hge (le_batchEnd j)
    have hl : (cacheAt j).locals 0 = [] := by simp [cacheAt, heq]
    rw [CoreLocalCache.getFrom_refill hl rfl (by simp [cacheAt, kPerCoreCachedBlocks, kAllocationBatch])
      (controllerEndpoint_ctrlAt c heq)]
    have hrest : batchEnd (j + 1) - (j + 1) = kAllocationBatch - 1 := by
      rw [batchEnd_succ_of_eq heq]
      unfold kAllocationBatch
      omega
    simp only [cacheAt, Function.update_idem, hrest]

theorem getBlock_wrap (c : ControllerAgent) (res : BlockResolver) (j : ℕ) :
    getBlock controllerEndpoint wrapEnv (wrapWorld c res j) 1 =
      some (wrapBlock j, wrapWorld c res (j + 1)) := by
  have hget := getFrom_wrap c j
  simp only [getBlock, wrapWorld, wrapVolume, arrayAt?_of_lt _ (by decide : 1 < kNumMaxServers),
    Function.update_self, Option.bind_some, wrapEnv, hget, Option.map_some, Function.update_idem]

/-- `GetBlocks` with affinity: two blocks of server `1`, in the counter's order. -/
theorem getBlocks_wrap (c : ControllerAgent) (res : BlockResolver) (j : ℕ) (iod : IODesc) :
    getBlocks controllerEndpoint wrapEnv (wrapWorld c res j) iod false =
      some (.ok [(wrapBlock j, false), (wrapBlock (j + 1), false)], wrapWorld c res (j + 2)) := by
  have haff : (wrapWorld c res j).vd.affinity = 1 := rfl
  rw [getBlocks, if_pos (by rw [haff]; decide), getBlocksWithAffinity, haff]
  show (getBlocksFrom controllerEndpoint wrapEnv [1, 1] (wrapWorld c res j)).map _ = _
  simp only [getBlocksFrom, getBlock_wrap, Option.bind_some, Option.map_some, List.map_cons,
    List.map_nil]

/-! ## The allocation -/

/-- `AddMapping` of the next sector: it was unmapped, so nothing is discarded. -/
theorem addMapping_resAt {nsectors s : ℕ} (hs : s < nsectors) :
    (resAt nsectors s).addMapping s [(wrapBlock (2 * s), false), (wrapBlock (2 * s + 1), false)] =
      some (.ok (), resAt nsectors (s + 1)) := by
  have hd : (resAt nsectors s).discarded s = [] := by
    simp [BlockResolver.discarded, resAt, front, unmappedEntry, kNumReplicas]
  rw [BlockResolver.addMapping_eq _ _ hs, hd]
  simp only [resAt, List.append_nil, Option.some.injEq, Prod.mk.injEq, BlockResolver.mk.injEq,
    true_and, and_true]
  funext a
  by_cases ha : a = s
  · subst ha
    simp
  · simp only [Function.update_of_ne ha]
    congr 1
    exact propext ⟨fun h => by omega, fun h => by omega⟩

/-- **The allocation loop**, by induction on the number of sectors: sector `a` gets blocks `2a`
and `2a + 1`. -/
theorem allocateSectors_wrap (c : ControllerAgent) (nsectors : ℕ) (iod : IODesc) :
    ∀ k s, s + k ≤ nsectors →
      allocateSectors controllerEndpoint wrapEnv iod (List.range' s k)
          (wrapWorld c (resAt nsectors s) (2 * s)) =
        some (.ok 0, wrapWorld c (resAt nsectors (s + k)) (2 * (s + k)))
  | 0, s, _ => by simp [allocateSectors]
  | k + 1, s, h => by
    rw [List.range'_succ, allocateSectors, getBlocks_wrap, Option.bind_some]
    simp only
    rw [show (wrapWorld c (resAt nsectors s) (2 * s + 2)).vd.blkRes = resAt nsectors s from rfl,
      addMapping_resAt (by omega), Option.bind_some]
    simp only
    rw [show s + (k + 1) = s + 1 + k by omega]
    exact allocateSectors_wrap c nsectors iod k (s + 1) (by omega)

/-- The controller before the first batch of server `1`. -/
theorem ctrlAt_zero (c : ControllerAgent) (h : (c.blkAlloc 1).nextAllocation = 0) :
    ctrlAt c 0 = c := by
  have hend : batchEnd 0 % 2 ^ 64 = (c.blkAlloc 1).nextAllocation := by
    rw [h]
    rfl
  simp only [ctrlAt, hend, Function.update_eq_self]

/-- **One request of the run**: a `kAllocate` of sector `s` alone, once the sectors below it are
allocated. -/
theorem processRequest_wrap (c : ControllerAgent) {nsectors s : ℕ} (hs : s < nsectors) :
    processRequest controllerEndpoint wrapEnv 1 ⟨.kAllocate, 1, s, 0⟩
        (wrapWorld c (resAt nsectors s) (2 * s)) =
      some (.ok 0, wrapWorld c (resAt nsectors (s + 1)) (2 * (s + 1))) :=
  allocateSectors_wrap c nsectors _ 1 s hs

/-- The volume as its constructor makes it: no block reserved with `RuntimeMaxCores() = 0`. -/
theorem create_wrap (c : ControllerAgent) (hs : c.servers = [1]) (nsectors : ℕ) :
    VirtualDiskRemote.create controllerEndpoint
        ⟨.kWeightedReadWrite, DataPlane.ServerStatsManager.init fun _ => .kMix⟩ c.servers 1 1
        nsectors 0 0 c =
      some (wrapVolume (resAt nsectors 0) (cacheAt 0), c) := by
  have hres : resAt nsectors 0 = BlockResolver.init nsectors := by
    simp [resAt, BlockResolver.init]
  have hcache : cacheAt 0 = { CoreLocalCache.init kPerCoreCachedBlocks with
      global := ([] : List ServerBlockInfo).reverse ++ [] } := by
    simp [cacheAt, batchEnd, kAllocationBatch, CoreLocalCache.init]
  rw [hs, hres, hcache]
  simp [VirtualDiskRemote.create, createCaches, kInvalidServerID, kNumMaxServers,
    CoreLocalCache.reserve, CoreLocalCache.reserveLoop, wrapVolume, CoreLocalCache.init]

/-! ## The cluster -/

/-- The cluster once the sectors below `s` are allocated. -/
def wrapCluster (c : ControllerAgent) (nsectors s : ℕ) : Cluster ℕ :=
  ⟨(wrapWorld c (resAt nsectors s) (2 * s)).toShared, [(wrapWorld c (resAt nsectors s) (2 * s)).vd]⟩

/-- **The requests one after the other**, by induction on their number: from the cluster the
volume's creation leaves, the requests of sectors `0, …, s - 1` reach `wrapCluster c nsectors s`. -/
theorem reachable_wrapCluster (c : ControllerAgent) {nsectors : ℕ}
    (h₀ : Reachable controllerEndpoint wrapEnv (wrapCluster c nsectors 0)) :
    ∀ s, s ≤ nsectors → Reachable controllerEndpoint wrapEnv (wrapCluster c nsectors s)
  | 0, _ => h₀
  | s + 1, h => (reachable_wrapCluster c h₀ s (Nat.le_of_succ_le h)).step
      (Step.request (v := 0) rfl (processRequest_wrap c (Nat.lt_of_succ_le h)))

/-- The sectors below `s` are mapped, to blocks `2a` and `2a + 1`. -/
theorem mappedBlocks_resAt {nsectors s a : ℕ} (h : a < s) :
    mappedBlocks ((resAt nsectors s).blkMap a) = [wrapBlock (2 * a), wrapBlock (2 * a + 1)] := by
  simp [resAt, h, mappedBlocks, Mapped, front, wrapBlock, kInvalidServerID]

end Sandook.VirtualDisk
