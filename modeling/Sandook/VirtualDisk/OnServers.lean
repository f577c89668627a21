import Sandook.VirtualDisk.Cluster

/-!
# Every block a volume holds is on one of its servers (`virtual_disk_remote.cc`,
`block_resolver.h`)

A volume talks to the servers it has an RPC client for, the keys of `servers_`: it makes a cache
for each of them (`blk_caches_`), fills it with `AllocateBlocks(server_id)`, and takes every block
it installs from those caches. The controller answers `AllocateBlocks(server_id)` with blocks of
that server (`ServerBlocks`), so every block a volume holds is on a server it has a client for:
in its caches, in the replica lists of its mapped sectors, and in its discard list, whose lists
all have `kNumReplicas` entries (`OnServers`).

Results:
* `getBlock_onServers`, `getBlocks_onServers`: a block a cache hands out is on the cache's
  server.
* `requestInvariant_onServers`: so every request keeps `OnServers`.
* `create_onServers`, `reachable_onServers`: a new volume has it, and every volume of every
  cluster the controller's runs reach has it.
-/

namespace Sandook.VirtualDisk

open Sandook.Controller Sandook.Lib

/-! ## The invariant -/

/-- An endpoint that answers `AllocateBlocks(server_id)` with blocks of that server. -/
def ServerBlocks {σ : Type} (alloc : Endpoint σ) : Prop :=
  ∀ c serverId blocks c', alloc c serverId = some (blocks, c') →
    ∀ b ∈ blocks, b.serverId = serverId

/-- The controller's batch for a server is of that server's blocks. -/
theorem serverBlocks_controllerEndpoint : ServerBlocks controllerEndpoint := by
  intro c serverId blocks c' h b hb
  rw [controllerEndpoint_eq c (lt_of_controllerEndpoint h), Option.some.injEq,
    Prod.mk.injEq] at h
  rw [← h.1] at hb
  obtain ⟨i, -, rfl⟩ := List.mem_map.mp hb
  rfl

/-- A replica list of `kNumReplicas` entries, each on one of `servers`. -/
def ReplicasOn (servers : List ServerID) (l : ServerReplicaBlockInfoList) : Prop :=
  l.length = kNumReplicas ∧ ∀ e ∈ l, e.1.serverId ∈ servers

/-- Every block the volume holds is on a server it has a client for: a cache is that of such a
server and holds that server's blocks, and every mapped list and every list of the discard list
has `kNumReplicas` entries on such servers. -/
structure VirtualDiskRemote.OnServers (vd : VirtualDiskRemote) : Prop where
  caches : ∀ j c, vd.blkCaches j = some c → j ∈ vd.servers ∧ ∀ b, c.Mem b → b.serverId = j
  mapped : ∀ i, Mapped (vd.blkRes.blkMap i) → ReplicasOn vd.servers (vd.blkRes.blkMap i)
  discard : ∀ l ∈ vd.blkRes.discardList, ReplicasOn vd.servers l

/-- `OnServers` reads the servers, the resolver and the caches only. -/
theorem VirtualDiskRemote.OnServers.of_eq {vd vd' : VirtualDiskRemote} (h : vd.OnServers)
    (hs : vd'.servers = vd.servers) (hr : vd'.blkRes = vd.blkRes)
    (hc : vd'.blkCaches = vd.blkCaches) : vd'.OnServers := by
  obtain ⟨hcaches, hmapped, hdiscard⟩ := h
  exact ⟨by rwa [hs, hc], by rwa [hs, hr], by rwa [hs, hr]⟩

/-! ## Taking and installing blocks -/

section Request

variable {σ Blk : Type} {alloc : Endpoint σ} (halloc : ServerBlocks alloc) (env : Env)
  {w w' : World σ Blk}
include halloc

/-- **A `get`** hands out a block of the cache's server, which has a client, and leaves the
cache with that server's blocks only. -/
theorem getBlock_onServers {serverId : ServerID} {x : ServerBlockInfo} (hw : w.vd.OnServers)
    (h : getBlock alloc env w serverId = some (x, w')) :
    w'.vd.OnServers ∧ x.serverId ∈ w.vd.servers ∧ w'.vd.servers = w.vd.servers := by
  obtain ⟨cache, c', ctrl', hc, hget, rfl⟩ := getBlock_some alloc env h
  obtain ⟨hj, hcache⟩ := hw.caches serverId cache hc
  obtain ⟨news, hgat, hmem⟩ := CoreLocalCache.getFrom_mem hget
  -- every `AllocateBlocks` call of the `get` hands out blocks of the server
  have hnews := (hgat.preserve (fun _ => ()) (fun b => b.serverId = serverId)
    fun s items s' hs => ⟨rfl, halloc s serverId items s' hs⟩).2
  have hon : ∀ y, y = x ∨ c'.Mem y → y.serverId = serverId := fun y hy =>
    (hmem y hy).elim (hcache y) (hnews y)
  refine ⟨⟨fun j c hjc => ?_, hw.mapped, hw.discard⟩, (hon x (.inl rfl)) ▸ hj, rfl⟩
  by_cases hji : j = serverId
  · subst hji
    simp only [Function.update_self, Option.some.injEq] at hjc
    subst hjc
    exact ⟨hj, fun b hb => hon b (.inr hb)⟩
  · simp only [Function.update_of_ne hji] at hjc
    exact hw.caches j c hjc

/-- Blocks from each listed server's cache are on servers with a client. -/
theorem getBlocksFrom_onServers :
    ∀ {servers : List ServerID} {w w' : World σ Blk} {xs : List ServerBlockInfo},
      w.vd.OnServers → getBlocksFrom alloc env servers w = some (xs, w') →
      w'.vd.OnServers ∧ (∀ x ∈ xs, x.serverId ∈ w.vd.servers) ∧ w'.vd.servers = w.vd.servers
  | [], w, w', xs, hw, h => by
    simp only [getBlocksFrom, Option.some.injEq, Prod.mk.injEq] at h
    obtain ⟨rfl, rfl⟩ := h
    exact ⟨hw, fun _ hx => absurd hx List.not_mem_nil, rfl⟩
  | s :: ss, w, w', xs, hw, h => by
    simp only [getBlocksFrom] at h
    obtain ⟨⟨x, w₁⟩, h₁, h⟩ := Option.bind_eq_some_iff.mp h
    obtain ⟨⟨xs', w₂⟩, h₂, h⟩ := Option.map_eq_some_iff.mp h
    rw [Prod.mk.injEq] at h
    obtain ⟨rfl, rfl⟩ := h
    obtain ⟨hw₁, hx, hs₁⟩ := getBlock_onServers halloc env hw h₁
    obtain ⟨hw₂, hxs, hs₂⟩ := getBlocksFrom_onServers hw₁ h₂
    refine ⟨hw₂, fun y hy => ?_, hs₂.trans hs₁⟩
    rcases List.mem_cons.mp hy with rfl | hy
    · exact hx
    · exact hs₁ ▸ hxs y hy

/-- **`GetBlocks`** returns `kNumReplicas` entries on servers with a client. -/
theorem getBlocks_onServers {iod : IODesc} {setDirty : Bool} {blks : ServerReplicaBlockInfoList}
    (hw : w.vd.OnServers) (h : getBlocks alloc env w iod setDirty = some (.ok blks, w')) :
    w'.vd.OnServers ∧ ReplicasOn w.vd.servers blks ∧ w'.vd.servers = w.vd.servers := by
  obtain ⟨servers, pos, xs, hlen, h₁, hblks⟩ := getBlocks_some alloc env h
  obtain ⟨hw', hxs, hs⟩ := getBlocksFrom_onServers halloc env (w := { w with pos := pos }) hw h₁
  rw [Except.ok.injEq] at hblks
  subst hblks
  refine ⟨hw', ⟨?_, fun e he => ?_⟩, hs⟩
  · rw [List.length_map, (getBlocksFrom_keeps alloc env h₁).2, hlen]
  · obtain ⟨x, hx, rfl⟩ := List.mem_map.mp he
    exact hxs x hx

omit halloc in
/-- **`AddMapping`** of a list on servers with a client keeps `OnServers`: the list it replaces
goes to the discard list only if it was mapped. -/
theorem addMapping_onServers {vd : VirtualDiskRemote} {s : VolumeBlockAddr}
    {blks : ServerReplicaBlockInfoList} {ret : Status Unit} {res : BlockResolver}
    (hvd : vd.OnServers) (hblks : ReplicasOn vd.servers blks)
    (ha : vd.blkRes.addMapping s blks = some (ret, res)) :
    { vd with blkRes := res }.OnServers := by
  obtain ⟨-, -, rfl⟩ := BlockResolver.addMapping_some ha
  refine ⟨hvd.caches, fun i hi => ?_, fun l hl => ?_⟩
  · by_cases his : i = s
    · subst his
      simpa using hblks
    · simp only [Function.update_of_ne his] at hi ⊢
      exact hvd.mapped i hi
  · rcases List.mem_append.mp hl with hl | hl
    · exact hvd.discard l hl
    · obtain ⟨rfl, hm⟩ := BlockResolver.mem_discarded hl
      exact hvd.mapped s hm

/-- **Every request keeps `OnServers`**: quiet steps and storage ops leave the volume's servers,
resolver and caches alone, and a request installs only lists `GetBlocks` has taken. -/
theorem requestInvariant_onServers :
    RequestInvariant alloc env (fun w : World σ Blk => w.vd.OnServers) where
  quiet hq hw := hw.of_eq hq.servers hq.blkRes hq.blkCaches
  storageOp serverId iod hw := by
    rw [(processStorageOp_ctrl_vd env _ serverId iod).2]
    exact hw
  install hw h₁ ha := by
    obtain ⟨hw₁, hblks, hs⟩ := getBlocks_onServers halloc env hw h₁
    exact addMapping_onServers hw₁ (hs ▸ hblks) ha

end Request

/-! ## Volumes of a cluster -/

section Create

variable {σ : Type} {alloc : Endpoint σ} (halloc : ServerBlocks alloc)
include halloc

/-- The constructor's loop makes caches for listed servers only, each filled by
`AllocateBlocks` of its server. -/
theorem createCaches_onServers (affinity maxCores fuel : ℕ) (servers₀ : List ServerID) :
    ∀ {servers : List ServerID} {caches caches' : ℕ → Option (CoreLocalCache ServerBlockInfo)}
      {ctrl ctrl' : σ},
      createCaches alloc affinity maxCores fuel servers caches ctrl = some (caches', ctrl') →
      servers ⊆ servers₀ →
      (∀ j c, caches j = some c → j ∈ servers₀ ∧ ∀ b, c.Mem b → b.serverId = j) →
      ∀ j c, caches' j = some c → j ∈ servers₀ ∧ ∀ b, c.Mem b → b.serverId = j
  | [], caches, caches', ctrl, ctrl', h, _, hcaches => by
    simp only [createCaches, Option.some.injEq, Prod.mk.injEq] at h
    obtain ⟨rfl, rfl⟩ := h
    exact hcaches
  | serverId :: rest, caches, caches', ctrl, ctrl', h, hsub, hcaches => by
    have hsub' : rest ⊆ servers₀ := fun j hj => hsub (List.mem_cons_of_mem _ hj)
    simp only [createCaches] at h
    split_ifs at h with hskip hlt
    · exact createCaches_onServers affinity maxCores fuel servers₀ h hsub' hcaches
    · obtain ⟨⟨c, ctrl₁⟩, hres, h⟩ := Option.bind_eq_some_iff.mp h
      obtain ⟨news, hgat, rfl⟩ := CoreLocalCache.reserve_gathered hres
      have hnews := (hgat.preserve (fun _ => ()) (fun b => b.serverId = serverId)
        fun s items s' hs => ⟨rfl, halloc s serverId items s' hs⟩).2
      refine createCaches_onServers affinity maxCores fuel servers₀ h hsub' fun j c hjc => ?_
      by_cases hji : j = serverId
      · -- the new cache holds the reserved blocks, on its global stack
        subst hji
        simp only [Function.update_self, Option.some.injEq] at hjc
        subst hjc
        refine ⟨hsub List.mem_cons_self, fun b hb => ?_⟩
        rcases hb with hb | ⟨i, hb⟩
        · simp only [CoreLocalCache.init, List.append_nil, List.mem_reverse] at hb
          exact hnews b hb
        · simp [CoreLocalCache.init] at hb
      · rw [Function.update_of_ne hji] at hjc
        exact hcaches j c hjc

/-- **A new volume has `OnServers`**: its caches are of its servers, and it maps nothing. -/
theorem create_onServers {sched : DataPlane.Scheduler} {servers : List ServerID}
    {affinity volId nsectors maxCores fuel : ℕ} {ctrl ctrl' : σ} {vd : VirtualDiskRemote}
    (h : VirtualDiskRemote.create alloc sched servers affinity volId nsectors maxCores fuel ctrl =
      some (vd, ctrl')) :
    vd.OnServers := by
  unfold VirtualDiskRemote.create at h
  obtain ⟨⟨caches, ctrl₁⟩, hcc, hvd⟩ := Option.map_eq_some_iff.mp h
  rw [Prod.mk.injEq] at hvd
  obtain ⟨rfl, -⟩ := hvd
  refine ⟨createCaches_onServers halloc affinity maxCores fuel servers hcc (fun _ hj => hj)
    (fun _ _ hc => by cases hc), fun i hi => absurd hi (BlockResolver.not_mapped_init nsectors i),
    fun l hl => absurd hl List.not_mem_nil⟩

end Create

variable {Blk : Type} {env : Env}

/-- **Every volume of a reachable cluster has `OnServers`**, one lemma per kind of step. -/
theorem reachable_onServers {alloc : Endpoint ControllerAgent} (halloc : ServerBlocks alloc)
    {cl : Cluster Blk} (hr : Reachable alloc env cl) : ∀ vd ∈ cl.vols, vd.OnServers := by
  induction hr with
  | init => exact fun _ hvd => absurd hvd List.not_mem_nil
  | step _ hs ih =>
    cases hs with
    | registerServer _ => exact ih
    | createVolume hc =>
      intro vd hvd
      rcases List.mem_append.mp hvd with hvd | hvd
      · exact ih vd hvd
      · exact List.mem_singleton.mp hvd ▸ create_onServers halloc hc
    | request hvd hp =>
      intro vd' hvd'
      rcases List.mem_or_eq_of_mem_set hvd' with hvd' | rfl
      · exact ih vd' hvd'
      · exact (requestInvariant_onServers halloc env).processRequest _ _ _ _ _ hp
          (ih _ (List.mem_of_getElem? hvd))

end Sandook.VirtualDisk
