import Sandook.Lib.Loops
import Sandook.VirtualDisk.Remote

/-!
# A write is acknowledged only once every replica holds it (`ProcessWriteOp`)

`ProcessWriteOp` returns the number of bytes whatever its threads saw, and the retry a failed
thread issues has its result thrown away. A one-sector write that returns is nevertheless
durable on every replica of the sector's final mapping:

* every storage op of the request, its retries' included, writes the one block at `iod.addr`,
  which no step of a write changes (`StoresOnly`);
* the last mapping the request installs is that of a request all of whose threads succeeded:
  a failure in it would have issued a retry, which installs a mapping of its own, since
  `GetBlocks` and `AddMapping` never fail when they return.

The thread loop is followed with `Progress`: before any retry, the first `i` replicas of the
installed mapping hold the block; after one, the sector's mapping, whatever it is, does
(`Durable`).

Results:
* `processRequest_write_spec`: what a one-sector write request guarantees, by induction on the
  fuel, the retry being a request with less.
* `processRequest_write_durable`: a one-sector write that returns succeeds with `4096`, and every
  replica of the sector's mapping holds the written block.

Writes of more than one sector never reach `ProcessRequest`: `ProcessShardedRequests` cuts every
request into one-sector requests, and a retry repeats its own request.
-/

namespace Sandook.VirtualDisk

open Sandook.Lib

variable {σ Blk : Type} (alloc : Endpoint σ) (env : Env)

/-! ## Block-wise invariants of a write -/

/-- The servers' blocks of `w'` differ from those of `w` only where they hold `d`. -/
def StoresOnly (d : Blk) (w w' : World σ Blk) : Prop :=
  ∀ s a, w'.store s a = w.store s a ∨ w'.store s a = d

/-- Every replica of `sector` holds `d`. -/
def Durable (d : Blk) (sector : VolumeBlockAddr) (w : World σ Blk) : Prop :=
  ∀ rep ∈ w.vd.blkRes.blkMap sector, w.store rep.1.serverId rep.1.blockAddr = d

variable {d : Blk} {w₁ w₂ w₃ : World σ Blk}

theorem StoresOnly.of_store_eq (h : w₂.store = w₁.store) : StoresOnly d w₁ w₂ :=
  fun s a => .inl (by rw [h])

theorem StoresOnly.trans (h₁ : StoresOnly d w₁ w₂) (h₂ : StoresOnly d w₂ w₃) :
    StoresOnly d w₁ w₃ := by
  intro s a
  rcases h₂ s a with h | h
  · rw [h]
    exact h₁ s a
  · exact .inr h

/-- A block that holds `d` still does. -/
theorem StoresOnly.holds (h : StoresOnly d w₁ w₂) {s : ServerID} {a : ServerBlockAddr}
    (ha : w₁.store s a = d) : w₂.store s a = d := by
  rcases h s a with h | h
  · rw [h, ha]
  · exact h

theorem Durable.of_storesOnly {sector : VolumeBlockAddr} (h : Durable d sector w₁)
    (hs : StoresOnly d w₁ w₂) (hb : w₂.vd.blkRes = w₁.vd.blkRes) : Durable d sector w₂ := by
  intro rep hrep
  rw [hb] at hrep
  exact hs.holds (h rep hrep)

/-- A one-sector write's storage op: the client's memory and the volume are untouched, and the
servers' blocks change only to the block at `iod.addr`. -/
theorem processStorageOp_write_storesOnly (w : World σ Blk) (serverId : ServerID) {iod : IODesc}
    (hn : iod.numSectors = 1) :
    let p := processStorageOp env w serverId iod
    StoresOnly (w.mem iod.addr) w p.2 ∧ p.2.mem = w.mem ∧ p.2.vd = w.vd := by
  obtain ⟨store, hp, hstore, -⟩ := processStorageOp_eq env w serverId iod
  refine ⟨?_, by rw [hp], by rw [hp]⟩
  rcases hstore with hs | ⟨-, -, hs⟩
  · exact StoresOnly.of_store_eq (by rw [hp, hs])
  · intro s a
    rw [hp, hs, hn, sectorBytes_one_div]
    simp only [List.range_one, List.map_cons, List.map_nil, Nat.mul_zero, Nat.add_zero,
      scatter_singleton]
    by_cases hsa : s = serverId
    · subst hsa
      by_cases ha : a = iod.startSector
      · subst ha
        exact .inr (by simp)
      · exact .inl (by simp [ha])
    · exact .inl (by simp [hsa])

/-- **One write attempt**: a one-sector write's storage op and the handling of its reply leave the
client's memory and the block map, store nothing but the written block, and a success stores it
at the op's server and `start_sector`. -/
theorem writeAttempt_spec {w w' : World σ Blk} {serverId : ServerID} {iod : IODesc} {r : Status ℤ}
    (hop : iod.op = .kWrite) (hn : iod.numSectors = 1)
    (h : handleStorageOpReply env (processStorageOp env w serverId iod).2
      (processStorageOp env w serverId iod).1 serverId = some (r, w')) :
    w'.mem = w.mem ∧ StoresOnly (w.mem iod.addr) w w' ∧ w'.vd.blkRes = w.vd.blkRes ∧
      ∀ v, r = .ok v → w'.store serverId iod.startSector = w.mem iod.addr := by
  obtain ⟨hs₁, hm₁, hv₁⟩ := processStorageOp_write_storesOnly env w serverId hn
  obtain ⟨q₂, hm₂⟩ := handleStorageOpReply_quiet env h
  -- the reply echoes a write, so the memory stays
  have hmem : w'.mem = w.mem := by
    rcases hm₂ with hm₂ | ⟨msg, hmsg, hread, -⟩
    · exact hm₂.trans hm₁
    · obtain ⟨-, -, -, hecho⟩ := processStorageOp_eq env w serverId iod
      rw [hecho msg hmsg, hop] at hread
      cases hread
  refine ⟨hmem, hs₁.trans (StoresOnly.of_store_eq q₂.store), by rw [q₂.blkRes, hv₁], ?_⟩
  rintro v rfl
  obtain ⟨msg, hmsg, hsucc⟩ := isSuccess_of_handleStorageOpReply env h
  rw [q₂.store]
  exact processStorageOp_write_one env hop hn hmsg hsucc

/-- What a one-sector write request guarantees: it succeeds, leaves the client's memory alone,
writes only the client's block, and leaves every replica of its sector holding it. -/
structure WriteSpec (iod : IODesc) (w : World σ Blk) (r : Status ℤ) (w' : World σ Blk) :
    Prop where
  ok : r = .ok (sectorResult 1)
  mem : w'.mem = w.mem
  storesOnly : StoresOnly (w.mem iod.addr) w w'
  durable : Durable (w.mem iod.addr) iod.startSector w'

/-! ## The replica threads -/

section Threads

variable {retry : IODesc → World σ Blk → Option (Status ℤ × World σ Blk)} {iod : IODesc}

/-- The threads' progress from `w₀`, where the sector is mapped to `M`: the memory untouched,
the servers' blocks changed only to the client's, and either a retry has run and the sector is
durable, or none has, the sector is still mapped to `M` and its first `i` replicas hold the
block. -/
def Progress (iod : IODesc) (w₀ : World σ Blk) (M : ServerReplicaBlockInfoList) (i : ℕ)
    (acc : Bool × World σ Blk) : Prop :=
  acc.2.mem = w₀.mem ∧ StoresOnly (w₀.mem iod.addr) w₀ acc.2 ∧
    (acc.1 = true ∧ Durable (w₀.mem iod.addr) iod.startSector acc.2 ∨
      acc.1 = false ∧ acc.2.vd.blkRes.blkMap iod.startSector = M ∧
        ∀ j < i, ∀ rep, M[j]? = some rep →
          acc.2.store rep.1.serverId rep.1.blockAddr = w₀.mem iod.addr)

/-- One thread carries the progress from replica `i` to `i + 1`: a success stores replica `i`;
the first failure retries, and the retry leaves the sector durable; a later failure changes
nothing that matters. -/
theorem writeReplica_progress
    (hretry : ∀ w r w', retry iod w = some (r, w') → WriteSpec iod w r w')
    (hop : iod.op = .kWrite) (hn : iod.numSectors = 1) {w₀ : World σ Blk}
    {M : ServerReplicaBlockInfoList} {i : ℕ} {rep : ServerReplicaBlockInfo}
    (hM : M[i]? = some rep) {acc acc' : Bool × World σ Blk} (hp : Progress iod w₀ M i acc)
    (h : writeReplica env retry iod rep.1 acc.1 acc.2 = some acc') :
    Progress iod w₀ M (i + 1) acc' := by
  obtain ⟨flag, w⟩ := acc
  obtain ⟨flag', w'⟩ := acc'
  obtain ⟨hmem, hstores, hcase⟩ := hp
  obtain ⟨-, r, w₂, hh, hdone⟩ := writeReplica_cases env h
  set iod' := { iod with startSector := rep.1.blockAddr }
  obtain ⟨hm₂, hs₁₂, hb₂, hstored⟩ := writeAttempt_spec env (show iod'.op = .kWrite from hop) hn hh
  have hmem₂ : w₂.mem = w₀.mem := by rw [hm₂, hmem]
  have hd : w.mem iod'.addr = w₀.mem iod.addr := by rw [hmem]
  rw [hd] at hs₁₂
  have hs₂ : StoresOnly (w₀.mem iod.addr) w₀ w₂ := hstores.trans hs₁₂
  -- a thread that finds the sector durable leaves it so
  have hkeep : Durable (w₀.mem iod.addr) iod.startSector w →
      Durable (w₀.mem iod.addr) iod.startSector w₂ := fun hdur =>
    hdur.of_storesOnly hs₁₂ hb₂
  rcases hdone with ⟨v, rfl, rfl, rfl⟩ | ⟨e, -, rfl, rfl, rfl⟩ | ⟨e, -, rfl, rfl, r₃, h₃⟩
  · -- a success stores replica `i`
    refine ⟨hmem₂, hs₂, ?_⟩
    rcases hcase with ⟨rfl, hdur⟩ | ⟨rfl, hmap, hprev⟩
    · exact .inl ⟨rfl, hkeep hdur⟩
    · refine .inr ⟨rfl, by rw [hb₂, hmap], fun j hj rep' hrep' => ?_⟩
      rcases Nat.lt_succ_iff_lt_or_eq.mp hj with hj | rfl
      · exact hs₁₂.holds (hprev j hj rep' hrep')
      · rw [hM, Option.some.injEq] at hrep'
        subst hrep'
        exact (hstored v rfl).trans hd
  · -- a later failure: a retry has already left the sector durable
    have hdur : Durable (w₀.mem iod.addr) iod.startSector w := by
      rcases hcase with ⟨-, hdur⟩ | ⟨hf, -⟩
      · exact hdur
      · cases hf
    exact ⟨hmem₂, hs₂, .inl ⟨rfl, hkeep hdur⟩⟩
  · -- the first failure: the retry's guarantee is the sector's
    have spec := hretry w₂ r₃ w' h₃
    have hd₂ : w₂.mem iod.addr = w₀.mem iod.addr := congrFun hmem₂ iod.addr
    exact ⟨spec.mem.trans hmem₂, hs₂.trans (hd₂ ▸ spec.storesOnly),
      .inl ⟨rfl, hd₂ ▸ spec.durable⟩⟩

/-- `ProcessWriteOp` on the mapping `M` it has just installed: whatever its threads and their
retry see, the request's guarantee holds. -/
theorem processWriteOp_spec
    (hretry : ∀ w r w', retry iod w = some (r, w') → WriteSpec iod w r w')
    (hop : iod.op = .kWrite) (hn : iod.numSectors = 1) {M : ServerReplicaBlockInfoList}
    (hlen : M.length = kNumReplicas) {w₀ w' : World σ Blk} {r : Status ℤ}
    (hM : w₀.vd.blkRes.blkMap iod.startSector = M)
    (h : processWriteOp env retry M iod w₀ = some (r, w')) : WriteSpec iod w₀ r w' := by
  unfold processWriteOp at h
  obtain ⟨acc, hfold, h⟩ := Option.map_eq_some_iff.mp h
  rw [Prod.mk.injEq] at h
  obtain ⟨rfl, rfl⟩ := h
  have h0 : Progress iod w₀ M 0 (false, w₀) :=
    ⟨rfl, StoresOnly.of_store_eq rfl, .inr ⟨rfl, hM, fun j hj => absurd hj (Nat.not_lt_zero j)⟩⟩
  have hstep : ∀ i < kNumReplicas, ∀ x y, Progress iod w₀ M i x →
      (M[i]?.bind fun srvInfo => writeReplica env retry iod srvInfo.1 x.1 x.2) = some y →
      Progress iod w₀ M (i + 1) y := by
    intro i _ x y hx hy
    obtain ⟨rep, hrep, hy⟩ := Option.bind_eq_some_iff.mp hy
    exact writeReplica_progress env hretry hop hn hrep hx hy
  obtain ⟨hmem, hstores, hcase⟩ := foldlM_range_invariant _ _ h0 hstep hfold
  refine ⟨by rw [hn], hmem, hstores, ?_⟩
  rcases hcase with ⟨-, hdur⟩ | ⟨-, hmap, hall⟩
  · exact hdur
  · intro rep hrep
    rw [hmap] at hrep
    obtain ⟨j, hj, hget⟩ := List.getElem_of_mem hrep
    exact hall j (hlen ▸ hj) rep (by rw [List.getElem?_eq_getElem hj, hget])

end Threads

/-! ## Write requests -/

/-- **What a one-sector write request guarantees**, by induction on the fuel: `GetBlocks` and
`AddMapping` succeed and install `kNumReplicas` fresh entries, and `ProcessWriteOp` does the
rest, its retry being a request with less fuel. -/
theorem processRequest_write_spec :
    ∀ (fuel : ℕ) {iod : IODesc} {w w' : World σ Blk} {r : Status ℤ}, iod.op = .kWrite →
      iod.numSectors = 1 → processRequest alloc env fuel iod w = some (r, w') →
        WriteSpec iod w r w'
  | 0, _, _, _, _, _, _, h => by simp [processRequest] at h
  | fuel + 1, iod, w, w', r, hop, hn, h => by
    simp only [processRequest, hop] at h
    obtain ⟨⟨r₁, w₁⟩, hg, h⟩ := Option.bind_eq_some_iff.mp h
    obtain ⟨blks, rfl, hlen, -, k₁⟩ := getBlocks_ok alloc env hg
    obtain ⟨⟨ret, blkRes⟩, ha, h⟩ := Option.bind_eq_some_iff.mp h
    obtain ⟨-, rfl, hres⟩ := BlockResolver.addMapping_some ha
    simp only at h
    have hM : ({ w₁ with vd := { w₁.vd with blkRes := blkRes } } : World σ Blk).vd.blkRes.blkMap
        iod.startSector = blks := by
      simp [hres]
    have spec := processWriteOp_spec env
      (fun w r w' hw => processRequest_write_spec fuel hop hn hw) hop hn hlen hM h
    have hd : w₁.mem iod.addr = w.mem iod.addr := congrFun k₁.mem iod.addr
    refine ⟨spec.ok, spec.mem.trans k₁.mem, ?_, hd ▸ spec.durable⟩
    exact (StoresOnly.of_store_eq k₁.store).trans (hd ▸ spec.storesOnly)

/-- **A write is acknowledged only when every replica holds it.** Whatever the disk servers do
with each storage op and whatever the oracles draw, a one-sector write request that returns has
succeeded, with `4096` bytes, and every replica of the sector's final mapping holds the block
the client wrote. One sector is all `ProcessRequest` is ever given: `ProcessShardedRequests`
sets `num_sectors = 1` on each sub-request, and a retry passes its own `iod` on. -/
theorem processRequest_write_durable (fuel : ℕ) (iod : IODesc) (w w' : World σ Blk)
    (r : Status ℤ) (hop : iod.op = .kWrite) (hn : iod.numSectors = 1)
    (h : processRequest alloc env fuel iod w = some (r, w')) :
    r = .ok (sectorResult 1) ∧
      ∀ rep ∈ w'.vd.blkRes.blkMap iod.startSector,
        w'.store rep.1.serverId rep.1.blockAddr = w.mem iod.addr := by
  have spec := processRequest_write_spec alloc env fuel hop hn h
  exact ⟨spec.ok, spec.durable⟩

/-- A volume of four sectors with affinity to server `1`, whose cache for it holds two blocks. -/
def affinityVolume : VirtualDiskRemote where
  sched := ⟨.kWeightedReadWrite, DataPlane.ServerStatsManager.init fun _ => .kMix⟩
  servers := [1]
  affinity := 1
  volId := 1
  blkRes := BlockResolver.init 4
  blkCaches := fun s =>
    if s = 1 then some ⟨kPerCoreCachedBlocks, fun _ => [], [⟨1, 0⟩, ⟨1, 1⟩]⟩ else none

theorem processRequest_write_durable_affinity :
    ∃ r w', processRequest (fun (_ : Unit) _ => none) successEnv 1 ⟨.kWrite, 1, 0, 64⟩
        ⟨⟨(), fun _ _ => (0 : ℕ), fun _ => 5, 0, 0⟩, affinityVolume⟩ = some (r, w') ∧
      r = .ok (sectorResult 1) ∧
      ∀ rep ∈ w'.vd.blkRes.blkMap 0, w'.store rep.1.serverId rep.1.blockAddr = 5 := by
  obtain ⟨r, w', h⟩ : ∃ r w', processRequest (fun (_ : Unit) _ => none) successEnv 1
      ⟨.kWrite, 1, 0, 64⟩ ⟨⟨(), fun _ _ => (0 : ℕ), fun _ => 5, 0, 0⟩, affinityVolume⟩ =
        some (r, w') := ⟨_, _, rfl⟩
  exact ⟨r, w', h, processRequest_write_durable _ _ 1 _ _ _ r rfl rfl h⟩

end Sandook.VirtualDisk
