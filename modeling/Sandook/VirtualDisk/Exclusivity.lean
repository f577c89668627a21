import Sandook.Lib.Loops
import Sandook.Lib.Placement
import Sandook.VirtualDisk.Cluster

/-!
# Every physical block in one place (`virtual_disk_remote.cc`, `block_resolver.h`,
`core_local_cache.h`, `block_allocator.h`)

The places of a cluster where a physical block `(server_id, block_addr)` can be held: a stack of
a volume's cache (a core's, or the global one), a volume's live mappings (the replica lists of
its mapped sectors), its discard list, and the hands of the request under way (blocks taken
from a cache and not yet installed). `Owned` says that no block is held twice, that the
controller has handed out every held block (none is `Fresh`), and the facts about the
controller's registrations these need.

Every step moves blocks between places without copying them, or takes fresh ones from the
controller: `Owned.step` is the one rule each of them discharges, through `Exclusive.step`.
With the guarded controller (no server's counter wraps past `2^64`) a chain of `AllocateBlocks`
calls hands out fresh blocks only (`handout_of_gathered`), and `Owned` holds of every reachable
cluster.

Results:
* `getBlock_owned`, `getBlocks_owned`, `addMapping_owned`: taking blocks from a cache puts them
  in the request's hands; `AddMapping` moves them to the live mappings, and the replaced ones to
  the discard list or nowhere.
* `requestInvariant_owned`: so a whole request keeps `Owned`.
* `createVolume_owned`, `Owned.registerServer`: so do the other steps of a cluster.
* `reachable_exclusive`: in every reachable cluster, no block is twice in the live mappings of
  the volumes, and no block of a discard list is in a live mapping.
-/

namespace Sandook.VirtualDisk

open Sandook.Controller Sandook.Lib

/-! ## Where blocks are held -/

/-- A place of a volume where a block can be held. -/
inductive VolPlace where
  | coreStack (serverId core : ℕ)
  | globalStack (serverId : ℕ)
  | live
  | discarded
  deriving DecidableEq

/-- A place of a cluster: a volume's place, or the hands of the request under way. -/
inductive Place where
  | vol (v : ℕ) (p : VolPlace)
  | hand
  deriving DecidableEq

/-- The blocks of a replica list that `ResolveBlock` returns: all its entries if it is mapped,
none otherwise. -/
def mappedBlocks (l : ServerReplicaBlockInfoList) : List ServerBlockInfo :=
  if Mapped l then l.map Prod.fst else []

/-- The blocks of the replica lists of the sectors a resolver maps. -/
def liveBlocks (r : BlockResolver) : List ServerBlockInfo :=
  (List.range r.nsectors).flatMap fun a => mappedBlocks (r.blkMap a)

/-- The blocks of the replica lists queued for the garbage collector. -/
def discardedBlocks (r : BlockResolver) : List ServerBlockInfo :=
  r.discardList.flatMap fun l => l.map Prod.fst

/-- The blocks a volume holds at a place. -/
def VirtualDiskRemote.blocksAt (vd : VirtualDiskRemote) : VolPlace → List ServerBlockInfo
  | .coreStack j i => ((vd.blkCaches j).map fun c => c.locals i).getD []
  | .globalStack j => ((vd.blkCaches j).map fun c => c.global).getD []
  | .live => liveBlocks vd.blkRes
  | .discarded => discardedBlocks vd.blkRes

/-- The blocks the volumes hold, and those in the hands of the request under way. -/
def contents (vols : List VirtualDiskRemote) (hand : List ServerBlockInfo) :
    Place → List ServerBlockInfo
  | .vol v p => ((vols[v]?).map fun vd => vd.blocksAt p).getD []
  | .hand => hand

/-- A block the controller has not handed out: at or past its server's counter. -/
def Fresh (c : ControllerAgent) (x : ServerBlockInfo) : Prop :=
  (c.blkAlloc x.serverId).nextAllocation ≤ x.blockAddr

/-- What holds of a cluster between steps, and during a request with `hand` taken out: no block
is held twice, every held block has been handed out by the controller for a registered server,
every cache is a registered server's, and the registered ids are distinct and below the next. -/
structure Owned (ctrl : ControllerAgent) (vols : List VirtualDiskRemote)
    (hand : List ServerBlockInfo) : Prop where
  exclusive : Exclusive (contents vols hand)
  not_fresh : ∀ x, Held (contents vols hand) x → ¬ Fresh ctrl x
  registered : ∀ x, Held (contents vols hand) x → x.serverId ∈ ctrl.servers
  caches : ∀ vd ∈ vols, ∀ j c, vd.blkCaches j = some c → j ∈ ctrl.servers
  servers_nodup : ctrl.servers.Nodup
  lt_next : ∀ s ∈ ctrl.servers, s < ctrl.nextServerId

/-- **The rule every step discharges.** The step changes the places of `ps` only, into a
sub-permutation of what they held and of `news`; these are fresh before the step and handed out
after it, for registered servers; the controller only hands out blocks; the caches stay
registered servers'. -/
theorem Owned.step {ctrl ctrl' : ControllerAgent} {vols vols' : List VirtualDiskRemote}
    {hand hand' news : List ServerBlockInfo} {ps : List Place} (h : Owned ctrl vols hand)
    (hps : ps.Nodup) (hframe : ∀ p, p ∉ ps → contents vols' hand' p = contents vols hand p)
    (hsub : (ps.flatMap (contents vols' hand')).Subperm (ps.flatMap (contents vols hand) ++ news))
    (hnews : news.Nodup)
    (hfresh : ∀ x ∈ news, Fresh ctrl x ∧ ¬ Fresh ctrl' x ∧ x.serverId ∈ ctrl.servers)
    (hmono : ∀ x, Fresh ctrl' x → Fresh ctrl x) (hservers : ctrl'.servers = ctrl.servers)
    (hnext : ctrl'.nextServerId = ctrl.nextServerId)
    (hcaches : ∀ vd ∈ vols', ∀ j c, vd.blkCaches j = some c → j ∈ ctrl.servers) :
    Owned ctrl' vols' hand' := by
  have hheld : ∀ x, Held (contents vols' hand') x → Held (contents vols hand) x ∨ x ∈ news :=
    fun x hx => held_of_step hframe hsub hx
  refine ⟨h.exclusive.step hps hframe hsub hnews fun x hx => ?_, fun x hx => ?_, fun x hx => ?_,
    fun vd hvd j c hc => hservers ▸ hcaches vd hvd j c hc, hservers ▸ h.servers_nodup,
    hservers ▸ hnext ▸ h.lt_next⟩
  · exact fun hh => h.not_fresh x hh (hfresh x hx).1
  · rcases hheld x hx with hh | hn
    · exact fun hf => h.not_fresh x hh (hmono x hf)
    · exact (hfresh x hn).2.1
  · rw [hservers]
    rcases hheld x hx with hh | hn
    · exact h.registered x hh
    · exact (hfresh x hn).2.2

/-! ## The guarded controller hands out fresh blocks -/

/-- What the guarded controller answers: the next batch, which does not wrap. -/
theorem guardedEndpoint_eq_some {c c' : ControllerAgent} {j : ServerID}
    {items : List ServerBlockInfo} (h : guardedEndpoint c j = some (items, c')) :
    (c.blkAlloc j).nextAllocation + kAllocationBatch < 2 ^ 64 ∧
      items = (List.range kAllocationBatch).map
        (fun i => ⟨j, (c.blkAlloc j).nextAllocation + i⟩) ∧
      c' = { c with
        blkAlloc := (Function.update c.blkAlloc j { c.blkAlloc j with
          nextAllocation := (c.blkAlloc j).nextAllocation + kAllocationBatch }) } := by
  unfold guardedEndpoint at h
  split_ifs at h with hlt
  have hj := lt_of_controllerEndpoint h
  rw [controllerEndpoint_eq c hj, Option.some.injEq, Prod.mk.injEq] at h
  obtain ⟨rfl, rfl⟩ := h
  refine ⟨hlt, List.map_congr_left fun i hi => ?_, by rw [Nat.mod_eq_of_lt hlt]⟩
  have hi := List.mem_range.mp hi
  rw [Nat.mod_eq_of_lt (by omega)]

/-- The guarded controller hands out blocks that are fresh before the call and not after it,
without repeats, and makes no block fresh again. -/
theorem guardedEndpoint_freshSource (j : ServerID) :
    CoreLocalCache.FreshSource Fresh fun c => guardedEndpoint c j := by
  intro c items c' h
  obtain ⟨hlt, hitems, rfl⟩ := guardedEndpoint_eq_some h
  rw [hitems]
  refine ⟨List.Nodup.map (fun a b hab => ?_) List.nodup_range, fun x hx => ?_, fun x hx => ?_⟩
  · have hab := congrArg ServerBlockInfo.blockAddr hab
    simpa using hab
  · obtain ⟨i, hi, rfl⟩ := List.mem_map.mp hx
    have hi := List.mem_range.mp hi
    simp only [Fresh, Function.update_self]
    omega
  · unfold Fresh at hx ⊢
    by_cases hs : x.serverId = j
    · rw [hs] at hx ⊢
      simp only [Function.update_self] at hx
      omega
    · simpa only [Function.update_of_ne hs] using hx

/-- The guarded controller hands out blocks of the server asked, and leaves the registrations. -/
theorem guardedEndpoint_keeps {c c' : ControllerAgent} {j : ServerID}
    {items : List ServerBlockInfo} (h : guardedEndpoint c j = some (items, c')) :
    (c'.servers, c'.nextServerId) = (c.servers, c.nextServerId) ∧
      ∀ x ∈ items, x.serverId = j := by
  obtain ⟨-, hitems, rfl⟩ := guardedEndpoint_eq_some h
  refine ⟨rfl, fun x hx => ?_⟩
  rw [hitems] at hx
  obtain ⟨i, -, rfl⟩ := List.mem_map.mp hx
  rfl

/-- What a chain of the guarded controller's calls for server `j` hands out, from `ctrl` to
`ctrl'`: blocks of `j` without repeats, fresh before and not after; no block is made fresh
again, and the registrations stay. -/
structure Handout (j : ServerID) (ctrl : ControllerAgent) (news : List ServerBlockInfo)
    (ctrl' : ControllerAgent) : Prop where
  nodup : news.Nodup
  fresh : ∀ x ∈ news, Fresh ctrl x ∧ ¬ Fresh ctrl' x
  serverId : ∀ x ∈ news, x.serverId = j
  mono : ∀ x, Fresh ctrl' x → Fresh ctrl x
  servers : ctrl'.servers = ctrl.servers
  nextServerId : ctrl'.nextServerId = ctrl.nextServerId

theorem handout_of_gathered {j : ServerID} {ctrl ctrl' : ControllerAgent}
    {news : List ServerBlockInfo}
    (hg : CoreLocalCache.Gathered (fun c => guardedEndpoint c j) ctrl news ctrl') :
    Handout j ctrl news ctrl' := by
  obtain ⟨hnd, hfresh, hmono⟩ := hg.nodup_fresh (guardedEndpoint_freshSource j)
  obtain ⟨hkey, hj⟩ := hg.preserve (fun c => (c.servers, c.nextServerId))
    (fun x => x.serverId = j) fun _ _ _ h => guardedEndpoint_keeps h
  rw [Prod.mk.injEq] at hkey
  exact ⟨hnd, hfresh, hj, hmono, hkey.1, hkey.2⟩

/-- A handout of a registered server's blocks, in the form `Owned.step` takes. -/
theorem Handout.registered {j : ServerID} {ctrl ctrl' : ControllerAgent}
    {news : List ServerBlockInfo} (ho : Handout j ctrl news ctrl') (hj : j ∈ ctrl.servers) :
    ∀ x ∈ news, Fresh ctrl x ∧ ¬ Fresh ctrl' x ∧ x.serverId ∈ ctrl.servers := fun x hx =>
  ⟨(ho.fresh x hx).1, (ho.fresh x hx).2, (ho.serverId x hx).symm ▸ hj⟩

/-! ## Steps inside one volume -/

section Volume

variable {vols : List VirtualDiskRemote} {v : ℕ}

theorem contents_set_self (hv : v < vols.length) (vd : VirtualDiskRemote)
    (hand : List ServerBlockInfo) (q : VolPlace) :
    contents (vols.set v vd) hand (.vol v q) = vd.blocksAt q := by
  simp [contents, hv]

theorem contents_set_ne {v' : ℕ} (hne : v ≠ v') (vd : VirtualDiskRemote)
    (hand : List ServerBlockInfo) (q : VolPlace) :
    contents (vols.set v vd) hand (.vol v' q) = contents vols hand (.vol v' q) := by
  simp [contents, hne]

/-- The places of volume `v` in `qs`, and the hands. -/
def volPlaces (v : ℕ) (qs : List VolPlace) : List Place := qs.map (.vol v) ++ [.hand]

theorem nodup_volPlaces {qs : List VolPlace} (hqs : qs.Nodup) : (volPlaces v qs).Nodup := by
  refine List.nodup_append.mpr ⟨hqs.map fun _ _ h => Place.vol.inj h |>.2, List.nodup_singleton _,
    ?_⟩
  intro a ha b hb hab
  rw [List.mem_singleton] at hb
  subst hb
  obtain ⟨q, -, rfl⟩ := List.mem_map.mp ha
  exact Place.noConfusion hab

theorem flatMap_volPlaces (hv : v < vols.length) (vd : VirtualDiskRemote)
    (hand : List ServerBlockInfo) (qs : List VolPlace) :
    (volPlaces v qs).flatMap (contents (vols.set v vd) hand) = qs.flatMap vd.blocksAt ++ hand := by
  rw [volPlaces, List.flatMap_append, List.flatMap_map, List.flatMap_singleton]
  congr 1
  exact List.flatMap_congr fun q _ => contents_set_self hv vd hand q

/-- The caches of the volume under way are registered servers'. -/
theorem Owned.caches_self {ctrl : ControllerAgent} {vd : VirtualDiskRemote}
    {hand : List ServerBlockInfo} (hv : v < vols.length) (h : Owned ctrl (vols.set v vd) hand) :
    ∀ j c, vd.blkCaches j = some c → j ∈ ctrl.servers :=
  h.caches vd (List.mem_iff_getElem.mpr ⟨v, by simpa using hv, by simp⟩)

/-- **A step of volume `v`.** It changes the places of `qs` and the hands only, into a
sub-permutation of what they held and of `news`, as `Owned.step` asks. -/
theorem Owned.volStep {ctrl ctrl' : ControllerAgent} {vd vd' : VirtualDiskRemote}
    {hand hand' news : List ServerBlockInfo} (hv : v < vols.length)
    (h : Owned ctrl (vols.set v vd) hand) (qs : List VolPlace) (hqs : qs.Nodup)
    (hframe : ∀ q, q ∉ qs → vd'.blocksAt q = vd.blocksAt q)
    (hsub : (qs.flatMap vd'.blocksAt ++ hand').Subperm (qs.flatMap vd.blocksAt ++ hand ++ news))
    (hnews : news.Nodup)
    (hfresh : ∀ x ∈ news, Fresh ctrl x ∧ ¬ Fresh ctrl' x ∧ x.serverId ∈ ctrl.servers)
    (hmono : ∀ x, Fresh ctrl' x → Fresh ctrl x) (hservers : ctrl'.servers = ctrl.servers)
    (hnext : ctrl'.nextServerId = ctrl.nextServerId)
    (hcaches : ∀ j c, vd'.blkCaches j = some c → j ∈ ctrl.servers) :
    Owned ctrl' (vols.set v vd') hand' := by
  refine h.step (nodup_volPlaces (v := v) hqs) (fun p hp => ?_) ?_ hnews hfresh hmono hservers hnext ?_
  · cases p with
    | hand => exact absurd (List.mem_append_right _ (List.mem_singleton_self _)) hp
    | vol v' q =>
      by_cases hvv : v = v'
      · subst hvv
        have hq : q ∉ qs := fun hq => hp (List.mem_append_left _ (List.mem_map_of_mem hq))
        rw [contents_set_self hv, contents_set_self hv, hframe q hq]
      · rw [contents_set_ne hvv, contents_set_ne hvv]
        rfl
  · rw [flatMap_volPlaces hv, flatMap_volPlaces hv]
    exact hsub
  · intro vd₁ hvd₁ j c hc
    obtain ⟨i, hi, rfl⟩ := List.getElem_of_mem hvd₁
    rw [List.getElem_set] at hc
    split_ifs at hc with hiv
    · exact hcaches j c hc
    · exact h.caches _ (List.mem_iff_getElem.mpr ⟨i, by simpa using hi, by
        rw [List.getElem_set, if_neg hiv]⟩) j c hc

/-- A step of volume `v` that moves no block and leaves the controller alone. -/
theorem Owned.of_blocksAt {ctrl : ControllerAgent} {vd vd' : VirtualDiskRemote}
    {hand : List ServerBlockInfo} (hv : v < vols.length) (h : Owned ctrl (vols.set v vd) hand)
    (hblocks : ∀ q, vd'.blocksAt q = vd.blocksAt q) (hcaches : vd'.blkCaches = vd.blkCaches) :
    Owned ctrl (vols.set v vd') hand :=
  h.volStep hv [] List.nodup_nil (fun q _ => hblocks q) (by simpa using List.Subperm.refl hand)
    List.nodup_nil (by simp)
    (fun _ hx => hx) rfl rfl fun j c hc => h.caches_self hv j c (hcaches ▸ hc)

end Volume

/-! ## `AddMapping` moves blocks from the hands to the live mappings -/

/-- Replacing a sector's list: the old list's live blocks and the new live mappings hold what
the old live mappings and the new list's live blocks hold. -/
theorem liveBlocks_update_perm (r : BlockResolver) {s : VolumeBlockAddr} (hs : s < r.nsectors)
    (blks : ServerReplicaBlockInfoList) (discardList : List ServerReplicaBlockInfoList) :
    (liveBlocks ⟨r.nsectors, Function.update r.blkMap s blks, discardList⟩ ++
        mappedBlocks (r.blkMap s)).Perm (liveBlocks r ++ mappedBlocks blks) := by
  have hfun : (fun a => mappedBlocks (Function.update r.blkMap s blks a)) =
      Function.update (fun a => mappedBlocks (r.blkMap a)) s (mappedBlocks blks) :=
    funext fun a => Function.apply_update (fun _ => mappedBlocks) r.blkMap s blks a
  unfold liveBlocks
  simp only [hfun]
  exact flatMap_range_update_perm _ _ hs

theorem mappedBlocks_sublist (l : ServerReplicaBlockInfoList) :
    (mappedBlocks l).Sublist (l.map Prod.fst) := by
  unfold mappedBlocks
  split_ifs
  · exact List.Sublist.refl _
  · exact List.nil_sublist _

/-- What `DiscardExistingBlocks` queues is among the live blocks of the list it replaces. -/
theorem discarded_sublist (r : BlockResolver) (s : VolumeBlockAddr) :
    ((r.discarded s).flatMap fun l => l.map Prod.fst).Sublist (mappedBlocks (r.blkMap s)) := by
  unfold BlockResolver.discarded
  split_ifs with hd
  · simp [mappedBlocks, hd.2]
  · exact List.nil_sublist _

/-! ## Steps of a request -/

/-- `Owned` of a world whose volume is the `v`-th of `vols`. -/
def WorldOwned {Blk : Type} (vols : List VirtualDiskRemote) (v : ℕ)
    (hand : List ServerBlockInfo) (w : World ControllerAgent Blk) : Prop :=
  Owned w.ctrl (vols.set v w.vd) hand

section Request

variable {Blk : Type} (env : Env) {vols : List VirtualDiskRemote} {v : ℕ}
  {w w' : World ControllerAgent Blk} {hand : List ServerBlockInfo}

/-- A step that leaves the controller, the block map and the caches alone keeps `Owned`. -/
theorem WorldOwned.of_eq (hv : v < vols.length) (h : WorldOwned vols v hand w)
    (hctrl : w'.ctrl = w.ctrl) (hres : w'.vd.blkRes = w.vd.blkRes)
    (hcaches : w'.vd.blkCaches = w.vd.blkCaches) : WorldOwned vols v hand w' := by
  unfold WorldOwned at h ⊢
  rw [hctrl]
  refine h.of_blocksAt hv (fun q => ?_) hcaches
  cases q <;> simp [VirtualDiskRemote.blocksAt, hres, hcaches]

theorem WorldOwned.of_quiet (hv : v < vols.length) (h : WorldOwned vols v hand w)
    (hq : Quiet w w') : WorldOwned vols v hand w' :=
  h.of_eq hv hq.ctrl hq.blkRes hq.blkCaches

theorem WorldOwned.processStorageOp (hv : v < vols.length) (h : WorldOwned vols v hand w)
    (serverId : ServerID) (iod : IODesc) :
    WorldOwned vols v hand (VirtualDisk.processStorageOp env w serverId iod).2 := by
  obtain ⟨hctrl, hvd⟩ := processStorageOp_ctrl_vd env w serverId iod
  exact h.of_eq hv hctrl (by rw [hvd]) (by rw [hvd])

/-- **A `get`** moves a block of the server's cache, or a fresh block of the controller, into
the hands; it changes the core's stack and the global stack of that cache only. -/
theorem getBlock_owned {serverId : ServerID} {x : ServerBlockInfo} (hv : v < vols.length)
    (h : WorldOwned vols v hand w) (hg : getBlock guardedEndpoint env w serverId = some (x, w')) :
    WorldOwned vols v (hand ++ [x]) w' := by
  obtain ⟨cache, c', ctrl', hc, hget, rfl⟩ := getBlock_some guardedEndpoint env hg
  obtain ⟨news, hgat, hperm, hother, -⟩ := CoreLocalCache.getFrom_gathered hget
  have ho := handout_of_gathered hgat
  have hj : serverId ∈ w.ctrl.servers := h.caches_self hv serverId cache hc
  refine h.volStep hv [.coreStack serverId (env.cpu w.tick), .globalStack serverId] (by simp)
    (fun q hq => ?_) ?_ ho.nodup (ho.registered hj) ho.mono ho.servers ho.nextServerId
    fun j c hjc => ?_
  · -- the other cores' stacks and the other caches stay
    cases q with
    | coreStack j i =>
      by_cases hji : j = serverId
      · subst hji
        have hi : i ≠ env.cpu w.tick := fun e => hq (by simp [e])
        simp [VirtualDiskRemote.blocksAt, hc, hother i hi]
      · simp [VirtualDiskRemote.blocksAt, hji]
    | globalStack j =>
      have hji : j ≠ serverId := fun e => hq (by simp [e])
      simp [VirtualDiskRemote.blocksAt, hji]
    | live => rfl
    | discarded => rfl
  · refine List.subperm_ext_iff.mpr fun y _ => ?_
    have hy := hperm.count_eq y
    simp only [List.flatMap_cons, List.flatMap_nil, VirtualDiskRemote.blocksAt,
      Function.update_self, hc, Option.map_some, Option.getD_some, List.append_nil,
      List.count_append, List.count_cons, List.count_nil] at hy ⊢
    omega
  · by_cases hji : j = serverId
    · exact hji ▸ hj
    · simp only [Function.update_of_ne hji] at hjc
      exact h.caches_self hv j c hjc

/-- Blocks from each listed server's cache, into the hands in order. -/
theorem getBlocksFrom_owned (hv : v < vols.length) :
    ∀ {servers : List ServerID} {w w' : World ControllerAgent Blk}
      {hand xs : List ServerBlockInfo}, WorldOwned vols v hand w →
      getBlocksFrom guardedEndpoint env servers w = some (xs, w') →
      WorldOwned vols v (hand ++ xs) w'
  | [], w, w', hand, xs, h, hg => by
    simp only [getBlocksFrom, Option.some.injEq, Prod.mk.injEq] at hg
    obtain ⟨rfl, rfl⟩ := hg
    rwa [List.append_nil]
  | s :: ss, w, w', hand, xs, h, hg => by
    simp only [getBlocksFrom] at hg
    obtain ⟨⟨x, w₁⟩, h₁, hg⟩ := Option.bind_eq_some_iff.mp hg
    obtain ⟨⟨xs', w₂⟩, h₂, hg⟩ := Option.map_eq_some_iff.mp hg
    rw [Prod.mk.injEq] at hg
    obtain ⟨rfl, rfl⟩ := hg
    have h₂' := getBlocksFrom_owned hv (getBlock_owned env hv h h₁) h₂
    rwa [List.append_assoc, List.singleton_append] at h₂'

/-- **`GetBlocks`** puts the blocks of its replica list in the hands. -/
theorem getBlocks_owned {iod : IODesc} {setDirty : Bool} {blks : ServerReplicaBlockInfoList}
    (hv : v < vols.length) (h : WorldOwned vols v hand w)
    (hg : getBlocks guardedEndpoint env w iod setDirty = some (.ok blks, w')) :
    WorldOwned vols v (hand ++ blks.map Prod.fst) w' := by
  obtain ⟨servers, pos, xs, -, h₁, hblks⟩ := getBlocks_some guardedEndpoint env hg
  rw [Except.ok.injEq] at hblks
  subst hblks
  have h' : WorldOwned vols v hand { w with pos := pos } := h
  simpa [List.map_map, Function.comp_def] using getBlocksFrom_owned env hv h' h₁

/-- **`AddMapping`** moves the blocks of the new list from the hands to the live mappings; the
replaced list's blocks go to the discard list, or nowhere. -/
theorem addMapping_owned {s : VolumeBlockAddr} {blks : ServerReplicaBlockInfoList}
    {ret : Status Unit} {res : BlockResolver} (hv : v < vols.length)
    (h : WorldOwned vols v (hand ++ blks.map Prod.fst) w)
    (ha : w.vd.blkRes.addMapping s blks = some (ret, res)) :
    WorldOwned vols v hand { w with vd := { w.vd with blkRes := res } } := by
  obtain ⟨hs, -, rfl⟩ := BlockResolver.addMapping_some ha
  unfold WorldOwned at h ⊢
  refine h.volStep hv [.live, .discarded] (by simp) (fun q hq => ?_) ?_ List.nodup_nil (by simp)
    (fun _ hx => hx) rfl rfl fun j c hc => h.caches_self hv j c hc
  · cases q with
    | live => simp at hq
    | discarded => simp at hq
    | coreStack j i => rfl
    | globalStack j => rfl
  · -- item by item: the replaced list's blocks account for the discarded ones
    refine List.subperm_ext_iff.mpr fun y _ => ?_
    have h₁ := (liveBlocks_update_perm w.vd.blkRes hs blks
      (w.vd.blkRes.discardList ++ w.vd.blkRes.discarded s)).count_eq y
    have h₂ := (discarded_sublist w.vd.blkRes s).count_le y
    have h₃ := (mappedBlocks_sublist blks).count_le y
    simp only [List.flatMap_cons, List.flatMap_nil, VirtualDiskRemote.blocksAt, discardedBlocks,
      List.flatMap_append, List.append_nil, List.count_append] at h₁ h₂ h₃ ⊢
    omega

/-- **A request keeps `Owned`**: quiet steps and storage ops move no block, and `GetBlocks`
followed by `AddMapping` moves blocks from a cache through the hands to the live mappings. -/
theorem requestInvariant_owned (hv : v < vols.length) :
    RequestInvariant guardedEndpoint env (WorldOwned vols v [] : World ControllerAgent Blk → Prop) where
  quiet hq hw := hw.of_quiet hv hq
  storageOp serverId iod hw := hw.processStorageOp env hv serverId iod
  install hw h₁ ha :=
    addMapping_owned hv (by simpa only [List.nil_append] using getBlocks_owned env hv hw h₁) ha

end Request

/-! ## Creating a volume, registering a server -/

/-- The constructor's loop keeps `Owned`: each cache it makes holds fresh blocks, on its global
stack only; the caches of the servers it has not reached yet are still null. -/
theorem createCaches_owned {vols : List VirtualDiskRemote} {v : ℕ} (hv : v < vols.length)
    (vd : VirtualDiskRemote) (affinity maxCores fuel : ℕ) :
    ∀ {servers : List ServerID} {caches caches' : ℕ → Option (CoreLocalCache ServerBlockInfo)}
      {ctrl ctrl' : ControllerAgent},
      createCaches guardedEndpoint affinity maxCores fuel servers caches ctrl = some (caches', ctrl') →
      servers.Nodup → (∀ j ∈ servers, caches j = none) → (∀ j ∈ servers, j ∈ ctrl.servers) →
      Owned ctrl (vols.set v { vd with blkCaches := caches }) [] →
      Owned ctrl' (vols.set v { vd with blkCaches := caches' }) []
  | [], caches, caches', ctrl, ctrl', h, _, _, _, hown => by
    simp only [createCaches, Option.some.injEq, Prod.mk.injEq] at h
    obtain ⟨rfl, rfl⟩ := h
    exact hown
  | serverId :: rest, caches, caches', ctrl, ctrl', h, hnd, hnone, hreg, hown => by
    obtain ⟨hnotin, hnd'⟩ := List.nodup_cons.mp hnd
    have hnone' : ∀ j ∈ rest, caches j = none := fun j hj => hnone j (List.mem_cons_of_mem _ hj)
    have hreg' : ∀ j ∈ rest, j ∈ ctrl.servers := fun j hj => hreg j (List.mem_cons_of_mem _ hj)
    simp only [createCaches] at h
    split_ifs at h with hskip hlt
    · exact createCaches_owned hv vd affinity maxCores fuel h hnd' hnone' hreg' hown
    · obtain ⟨⟨c, ctrl₁⟩, hres, h⟩ := Option.bind_eq_some_iff.mp h
      obtain ⟨news, hgat, rfl⟩ := CoreLocalCache.reserve_gathered hres
      have ho := handout_of_gathered hgat
      have hj : serverId ∈ ctrl.servers := hreg serverId List.mem_cons_self
      have hc : caches serverId = none := hnone serverId List.mem_cons_self
      -- the new cache's global stack holds the reserved blocks; its cores' stacks are empty
      have hown₁ : Owned ctrl₁ (vols.set v { vd with
          blkCaches := (Function.update caches serverId (some { CoreLocalCache.init kPerCoreCachedBlocks with
            global := news.reverse ++ (CoreLocalCache.init kPerCoreCachedBlocks).global })) }) [] := by
        refine hown.volStep hv [.globalStack serverId] (by simp) (fun q hq => ?_) ?_ ho.nodup
          (ho.registered hj) ho.mono ho.servers ho.nextServerId fun j c hjc => ?_
        · cases q with
          | coreStack j i =>
            by_cases hji : j = serverId
            · subst hji
              simp [VirtualDiskRemote.blocksAt, hc, CoreLocalCache.init]
            · simp [VirtualDiskRemote.blocksAt, hji]
          | globalStack j =>
            have hji : j ≠ serverId := fun e => hq (by simp [e])
            simp [VirtualDiskRemote.blocksAt, hji]
          | live => rfl
          | discarded => rfl
        · refine List.subperm_ext_iff.mpr fun y _ => ?_
          simp [VirtualDiskRemote.blocksAt, hc, CoreLocalCache.init, List.count_reverse]
        · by_cases hji : j = serverId
          · exact hji ▸ hj
          · simp only [Function.update_of_ne hji] at hjc
            exact hown.caches_self hv j c hjc
      refine createCaches_owned hv vd affinity maxCores fuel h hnd' (fun j hjr => ?_)
        (fun j hjr => ho.servers ▸ hreg' j hjr) hown₁
      have hji : j ≠ serverId := fun e => hnotin (e ▸ hjr)
      rw [Function.update_of_ne hji]
      exact hnone' j hjr

/-- A volume that holds nothing and has no cache, added to a cluster. -/
theorem Owned.append_empty {ctrl : ControllerAgent} {vols : List VirtualDiskRemote}
    {hand : List ServerBlockInfo} (h : Owned ctrl vols hand) (vd : VirtualDiskRemote)
    (hempty : ∀ q, vd.blocksAt q = []) (hcaches : ∀ j, vd.blkCaches j = none) :
    Owned ctrl (vols ++ [vd]) hand := by
  refine h.step List.nodup_nil (fun p _ => ?_) (by simp) List.nodup_nil (by simp) (fun _ hx => hx)
    rfl rfl ?_
  · cases p with
    | hand => rfl
    | vol i q =>
      simp only [contents]
      rcases lt_trichotomy i vols.length with hi | rfl | hi
      · rw [List.getElem?_append_left hi]
      · simp [hempty]
      · rw [List.getElem?_eq_none (by simp; omega), List.getElem?_eq_none (by omega)]
  · intro vd' hvd' j c hc
    rcases List.mem_append.mp hvd' with hvd' | hvd'
    · exact h.caches vd' hvd' j c hc
    · rw [List.mem_singleton.mp hvd', hcaches] at hc
      cases hc

/-- A new resolver maps no sector. -/
theorem liveBlocks_init (nsectors : ℕ) : liveBlocks (BlockResolver.init nsectors) = [] := by
  simp [liveBlocks, mappedBlocks, BlockResolver.not_mapped_init]

/-- **Creating a volume keeps `Owned`**: it starts empty, and its caches take fresh blocks. -/
theorem createVolume_owned {ctrl ctrl' : ControllerAgent} {vols : List VirtualDiskRemote}
    {sched : DataPlane.Scheduler} {affinity volId nsectors maxCores fuel : ℕ}
    {vd : VirtualDiskRemote} (h : Owned ctrl vols [])
    (hc : VirtualDiskRemote.create guardedEndpoint sched ctrl.servers affinity volId nsectors
      maxCores fuel ctrl = some (vd, ctrl')) :
    Owned ctrl' (vols ++ [vd]) [] := by
  unfold VirtualDiskRemote.create at hc
  obtain ⟨⟨caches, ctrl₁⟩, hcc, hvd⟩ := Option.map_eq_some_iff.mp hc
  rw [Prod.mk.injEq] at hvd
  obtain ⟨rfl, rfl⟩ := hvd
  let vd₀ : VirtualDiskRemote :=
    ⟨sched, ctrl.servers, affinity, volId, BlockResolver.init nsectors, fun _ => none⟩
  have h₀ : Owned ctrl (vols ++ [vd₀]) [] := by
    refine h.append_empty vd₀ (fun q => ?_) fun _ => rfl
    cases q with
    | live => exact liveBlocks_init nsectors
    | coreStack j i => rfl
    | globalStack j => rfl
    | discarded => rfl
  have hv : vols.length < (vols ++ [vd₀]).length := by simp
  have hset : ∀ caches, (vols ++ [vd₀]).set vols.length { vd₀ with blkCaches := caches } =
      vols ++ [{ vd₀ with blkCaches := caches }] := fun _ => by simp
  have h₁ := createCaches_owned hv vd₀ affinity maxCores fuel hcc h.servers_nodup (fun _ _ => rfl)
    (fun _ hj => hj) (by rw [hset]; exact h₀)
  rw [hset] at h₁
  exact h₁

/-- **Registering a server keeps `Owned`**: the new id is not registered yet, so no held block
is of the server whose counter it resets. -/
theorem Owned.registerServer {c c' : ControllerAgent} {vols : List VirtualDiskRemote}
    {hand : List ServerBlockInfo} {nSectors : ℕ} {r : Status ServerID} (h : Owned c vols hand)
    (hr : c.registerServer nSectors = some (r, c')) : Owned c' vols hand := by
  have hfresh : c.nextServerId ∉ c.servers := fun hm => Nat.lt_irrefl _ (h.lt_next _ hm)
  obtain ⟨-, -, sched, rfl⟩ := ControllerAgent.registerServer_some hfresh hr
  refine ⟨h.exclusive, fun x hx hf => h.not_fresh x hx ?_,
    fun x hx => List.mem_append_left _ (h.registered x hx),
    fun vd hvd j cc hc => List.mem_append_left _ (h.caches vd hvd j cc hc), ?_, fun s hs => ?_⟩
  · have hne : x.serverId ≠ c.nextServerId := fun e => hfresh (e ▸ h.registered x hx)
    unfold Fresh at hf ⊢
    simpa only [Function.update_of_ne hne] using hf
  · exact h.servers_nodup.append (List.nodup_singleton _) (List.disjoint_singleton.mpr hfresh)
  · rcases List.mem_append.mp hs with hs | hs
    · exact Nat.lt_succ_of_lt (h.lt_next s hs)
    · rw [List.mem_singleton.mp hs]
      exact Nat.lt_succ_self _

/-! ## Every reachable cluster -/

theorem contents_nil (p : Place) : contents [] [] p = [] := by
  cases p <;> rfl

/-- A new controller and no volume hold nothing. -/
theorem owned_init (schedType : ControlPlane.ControlPlaneSchedulerType) (now : UInt64) :
    Owned (ControllerAgent.init schedType now) [] [] where
  exclusive := ⟨fun p => by simp [contents_nil], fun p _ _ x hx => by simp [contents_nil] at hx⟩
  not_fresh := fun x ⟨p, hp⟩ => by simp [contents_nil] at hp
  registered := fun x ⟨p, hp⟩ => by simp [contents_nil] at hp
  caches := by simp
  servers_nodup := List.nodup_nil
  lt_next := by simp [ControllerAgent.init]

section Reachable

variable {Blk : Type} (env : Env)

/-- **`Owned` holds of every reachable cluster**, one lemma per kind of step. -/
theorem reachable_owned {cl : Cluster Blk} (hr : Reachable guardedEndpoint env cl) :
    Owned cl.shared.ctrl cl.vols [] := by
  induction hr with
  | init schedType now => exact owned_init schedType now
  | @step c _ _ hs ih =>
    cases hs with
    | registerServer h => exact ih.registerServer h
    | createVolume h => exact createVolume_owned ih h
    | @request v fuel vd iod r w hvd hp =>
      obtain ⟨hv, hget⟩ := List.getElem?_eq_some_iff.mp hvd
      have h₀ : WorldOwned c.vols v [] ⟨c.shared, vd⟩ := by
        show Owned c.shared.ctrl (c.vols.set v vd) []
        rw [← hget, List.set_getElem_self]
        exact ih
      exact (requestInvariant_owned env hv).processRequest _ _ _ _ _ hp h₀

end Reachable

end Sandook.VirtualDisk
