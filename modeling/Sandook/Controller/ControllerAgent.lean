import Sandook.ControlPlane.Scheduler

/-!
# The controller: server registration and block allocation (`controller/`)

Model of `BlockAllocator` (`block_allocator.h`) and of the parts of `ControllerAgent`
(`controller_agent.cc`) that register servers and hand out their blocks.

* `ServerAllocation::allocation_map` is resized to the server's `nsectors` and never read or
  written again: its size, `capacity`, is all the model keeps of it.
* `next_allocation` is a `std::atomic<uint64_t>`: `fetch_add` and `start_idx + i` wrap modulo
  `2^64`. Concurrent calls are ordered, each one atomic.
* The build defines `NDEBUG`: the `assert`s on the id check nothing; `.at` past the arrays
  ends the call (`none`).

A run (`Run`) is any sequence of `RegisterServer` and `AllocateBlocks` calls, from any number
of volumes, each `AllocateBlocks` for an id that `RegisterServer` has returned; it records the
blocks handed out for each server, in order.

Results:
* `allocateBlocks_eq`: `AllocateBlocks` always succeeds and hands out the next `kAllocationBatch`
  values of the server's counter, whatever its capacity.
* `allocateBlocks_past_capacity`: a server registered with one sector is handed out block
  addresses `1 … 2047` by the first `AllocateBlocks`, with no error.
* `Run.inv`: every run keeps `RunInv`, by one lemma per call.
* `run_allocations`: over a run, a server is handed out the block addresses `0, 1, 2, …` modulo
  `2^64`, a batch per call, never an error; no block twice before the counter wraps.
-/

namespace Sandook.Controller

open Sandook.ControlPlane

/-- `block_allocator::ServerAllocation`. -/
structure ServerAllocation where
  /-- `allocation_map.size()`, the sectors the server registered with. -/
  capacity : ℕ
  nextAllocation : ℕ
  deriving DecidableEq, Repr

/-- `BlockAllocator`: `srv_allocs_`, one allocation per server id. -/
abbrev BlockAllocator := ℕ → ServerAllocation

namespace BlockAllocator

/-- The value-initialised allocations: empty maps, counters at `0`. -/
def init : BlockAllocator := fun _ => ⟨0, 0⟩

/-- `AddServer(server_id, nsectors)`: the map resized to `nsectors`, the counter reset. -/
def addServer (b : BlockAllocator) (serverId : ServerID) (nsectors : ℕ) :
    Option BlockAllocator :=
  arraySet? b serverId ⟨nsectors, 0⟩

/-- `AllocateBlocks(server_id, n)`: `fetch_add(n)` on the counter, and the blocks
`start_idx + i` for `i < n`. -/
def allocateBlocks (b : BlockAllocator) (serverId : ServerID) (n : ℕ) :
    Option (Status (List ServerBlockInfo) × BlockAllocator) :=
  (arrayAt? b serverId).map fun server =>
    let startIdx := server.nextAllocation
    let allocs := (List.range n).map fun i => ⟨serverId, (startIdx + i) % 2 ^ 64⟩
    (.ok allocs, Function.update b serverId
      { server with nextAllocation := (startIdx + n) % 2 ^ 64 })

end BlockAllocator

/-- The state of `ControllerAgent` that registration and allocation use. -/
structure ControllerAgent where
  nextServerId : ServerID
  /-- The keys of `servers_`. -/
  servers : List ServerID
  blkAlloc : BlockAllocator
  sched : Scheduler

namespace ControllerAgent

/-- A controller whose scheduler is of type `schedType`, constructed at time `now`. -/
def init (schedType : ControlPlaneSchedulerType) (now : UInt64) : ControllerAgent :=
  ⟨kInvalidServerID + 1, [], BlockAllocator.init, Scheduler.init schedType now⟩

/-- `RegisterServer(ip, port, name, n_sectors)`: the next id, registered with the block
allocator, the scheduler and `servers_`. -/
def registerServer (c : ControllerAgent) (nSectors : ℕ) :
    Option (Status ServerID × ControllerAgent) :=
  let serverId := c.nextServerId
  let c := { c with nextServerId := serverId + 1 }
  (c.blkAlloc.addServer serverId nSectors).bind fun blkAlloc =>
    (c.sched.addServer serverId).map fun sched =>
      if serverId ∈ c.servers then (.error EINVAL, { c with blkAlloc := blkAlloc, sched := sched })
      else (.ok serverId, { c with blkAlloc := blkAlloc, sched := sched,
                                   servers := c.servers ++ [serverId] })

/-- `AllocateBlocks(server_id)`: a batch of `kAllocationBatch` blocks. -/
def allocateBlocks (c : ControllerAgent) (serverId : ServerID) :
    Option (Status (List ServerBlockInfo) × ControllerAgent) :=
  (c.blkAlloc.allocateBlocks serverId kAllocationBatch).map fun r =>
    (r.1, { c with blkAlloc := r.2 })

/-! ## The stats handlers -/

/-- `UpdateServerStats(server_id, stats)`: the scheduler's, which keeps the stored mode and
weights (`is_override = false`) and counts the report's load. -/
def updateServerStats (c : ControllerAgent) (serverId : ServerID) (stats : ServerStats) :
    Option ControllerAgent :=
  (c.sched.updateServerStats serverId stats false true).map fun sched => { c with sched }

/-- `CommitServerMode(server_id, mode)`. -/
def commitServerMode (c : ControllerAgent) (serverId : ServerID) (mode : ServerMode) :
    Option ControllerAgent :=
  (c.sched.commitServerMode serverId mode).map fun sched => { c with sched }

/-- `GetServerStats()`: the records of the registered servers. -/
def getServerStats (c : ControllerAgent) : Option ServerStatsList :=
  c.sched.statsMgr.getServerStatsList

/-- `GetDataPlaneServerStats(server_id)`. -/
def getDataPlaneServerStats (c : ControllerAgent) (serverId : ServerID) :
    Option DataPlaneServerStats :=
  c.sched.statsMgr.getDataPlaneServerStats serverId

/-! ## What `AllocateBlocks` hands out -/

/-- **`AllocateBlocks` hands out the next batch of the counter** of any server id below
`kNumMaxServers`, with no check against the server's capacity. -/
theorem allocateBlocks_eq (c : ControllerAgent) {serverId : ServerID}
    (h : serverId < kNumMaxServers) :
    let start := (c.blkAlloc serverId).nextAllocation
    let server' :=
      { c.blkAlloc serverId with nextAllocation := (start + kAllocationBatch) % 2 ^ 64 }
    c.allocateBlocks serverId =
      some (.ok ((List.range kAllocationBatch).map fun i => ⟨serverId, (start + i) % 2 ^ 64⟩),
        { c with blkAlloc := Function.update c.blkAlloc serverId server' }) := by
  simp [allocateBlocks, BlockAllocator.allocateBlocks, arrayAt?_of_lt _ h]

/-- `RegisterServer` on a fresh controller: server `1`, with the counter at `0` and the
registered capacity. -/
theorem registerServer_init (schedType : ControlPlaneSchedulerType) (now : UInt64)
    (nSectors : ℕ) :
    ∃ c, (init schedType now).registerServer nSectors = some (.ok 1, c) ∧
      c.blkAlloc 1 = ⟨nSectors, 0⟩ := by
  refine ⟨_, rfl, ?_⟩
  rfl

/-- **Blocks past the capacity.** A server registered with one sector is handed out, by the first
`AllocateBlocks`, a successful batch that holds block address `1`: the controller never compares
the counter with the capacity. -/
theorem allocateBlocks_past_capacity :
    ∃ c blocks c', (init .kNoOp 0).registerServer 1 = some (.ok 1, c) ∧
      c.allocateBlocks 1 = some (.ok blocks, c') ∧
      (c.blkAlloc 1).capacity = 1 ∧ (⟨1, 1⟩ : ServerBlockInfo) ∈ blocks := by
  obtain ⟨c, hreg, hblk⟩ := registerServer_init .kNoOp 0 1
  refine ⟨c, _, _, hreg, allocateBlocks_eq c (by decide), by rw [hblk], ?_⟩
  rw [hblk]
  exact List.mem_map.mpr ⟨1, List.mem_range.mpr (by decide), rfl⟩

/-! ## Runs -/

/-- `RegisterServer` with a fresh next id: the id, registered with capacity `nSectors` and its
counter at `0`. -/
theorem registerServer_some {c c' : ControllerAgent} {nSectors : ℕ} {r : Status ServerID}
    (hfresh : c.nextServerId ∉ c.servers) (h : c.registerServer nSectors = some (r, c')) :
    c.nextServerId < kNumMaxServers ∧ r = .ok c.nextServerId ∧
      ∃ sched, c' = ⟨c.nextServerId + 1, c.servers ++ [c.nextServerId],
        Function.update c.blkAlloc c.nextServerId ⟨nSectors, 0⟩, sched⟩ := by
  by_cases hlt : c.nextServerId < kNumMaxServers
  · simp only [registerServer, BlockAllocator.addServer, arraySet?, if_pos hlt,
      Option.bind_some] at h
    obtain ⟨sched, -, hs⟩ := Option.map_eq_some_iff.mp h
    rw [if_neg hfresh, Prod.mk.injEq] at hs
    exact ⟨hlt, hs.1.symm, sched, hs.2.symm⟩
  · simp [registerServer, BlockAllocator.addServer, arraySet?, hlt] at h

/-- `RegisterServer` hands out the next id, if it hands out one, and registers that id with the
scheduler's stats manager in either case. -/
theorem registerServer_statsMgr {c c' : ControllerAgent} {nSectors : ℕ} {r : Status ServerID}
    (h : c.registerServer nSectors = some (r, c')) :
    c'.nextServerId = c.nextServerId + 1 ∧
      (∀ serverId, r = .ok serverId → serverId = c.nextServerId) ∧
      c.sched.statsMgr.addServer c.nextServerId = some c'.sched.statsMgr := by
  unfold registerServer at h
  obtain ⟨blkAlloc, -, h⟩ := Option.bind_eq_some_iff.mp h
  obtain ⟨sched, hs, h⟩ := Option.map_eq_some_iff.mp h
  unfold Scheduler.addServer at hs
  obtain ⟨statsMgr, hm, rfl⟩ := Option.map_eq_some_iff.mp hs
  split at h
  · cases h
    exact ⟨rfl, fun _ h => (nomatch h), hm⟩
  · cases h
    exact ⟨rfl, fun _ h => (Except.ok.inj h).symm, hm⟩

/-- `CommitServerMode` hands out no id; it is the stats manager's commit. -/
theorem commitServerMode_eq {c c' : ControllerAgent} {serverId : ServerID} {mode : ServerMode}
    (h : c.commitServerMode serverId mode = some c') :
    c'.nextServerId = c.nextServerId ∧
      c.sched.statsMgr.commitServerMode serverId mode = some c'.sched.statsMgr := by
  unfold commitServerMode Scheduler.commitServerMode at h
  obtain ⟨sched, hs, rfl⟩ := Option.map_eq_some_iff.mp h
  obtain ⟨statsMgr, hm, rfl⟩ := Option.map_eq_some_iff.mp hs
  exact ⟨rfl, hm⟩

/-- `CommitServerMode` of a server with a record returns. -/
theorem commitServerMode_isSome {c : ControllerAgent} {serverId : ServerID} {mode : ServerMode}
    (hrec : (c.sched.statsMgr.getServerStats serverId).isSome) :
    (c.commitServerMode serverId mode).isSome := by
  obtain ⟨old, hold⟩ := Option.isSome_iff_exists.mp hrec
  have hlt := ServerStatsManager.lt_of_getServerStats hold
  simp [commitServerMode, Scheduler.commitServerMode, ServerStatsManager.commitServerMode, hold,
    arraySet?_of_lt _ _ hlt]

/-- The blocks a run has handed out for each server: `AllocateBlocks`'s batch is appended to its
server's list. -/
def logAllocation (h : ServerID → List ServerBlockInfo) (serverId : ServerID) :
    Status (List ServerBlockInfo) → ServerID → List ServerBlockInfo
  | .ok blocks => Function.update h serverId (h serverId ++ blocks)
  | .error _ => h

/-- The controllers a run of `RegisterServer` and `AllocateBlocks` calls reaches, with the blocks
handed out for each server so far. `AllocateBlocks` is called for registered ids only. -/
inductive Run : ControllerAgent → (ServerID → List ServerBlockInfo) → Prop where
  | init (schedType : ControlPlaneSchedulerType) (now : UInt64) :
      Run (init schedType now) fun _ => []
  | registerServer {c c' : ControllerAgent} {h : ServerID → List ServerBlockInfo} {nSectors : ℕ}
      {r : Status ServerID} :
      Run c h → c.registerServer nSectors = some (r, c') → Run c' h
  | allocateBlocks {c c' : ControllerAgent} {h : ServerID → List ServerBlockInfo}
      {serverId : ServerID} {r : Status (List ServerBlockInfo)} :
      Run c h → serverId ∈ c.servers → c.allocateBlocks serverId = some (r, c') →
        Run c' (logAllocation h serverId r)

/-- The blocks `0, 1, …, n - 1` of a server. -/
def firstBlocks (serverId : ServerID) (n : ℕ) : List ServerBlockInfo :=
  (List.range n).map fun a => ⟨serverId, a % 2 ^ 64⟩

/-- What every run keeps. Registered ids are below the next id and within the arrays; each
server has been handed out its first blocks, a whole number of batches, and its counter is their
number; an id not registered has been handed out nothing. -/
structure RunInv (c : ControllerAgent) (h : ServerID → List ServerBlockInfo) : Prop where
  lt_next : ∀ s ∈ c.servers, s < c.nextServerId
  lt_max : ∀ s ∈ c.servers, s < kNumMaxServers
  handed : ∀ s, h s = firstBlocks s (h s).length
  batches : ∀ s, kAllocationBatch ∣ (h s).length
  counter : ∀ s ∈ c.servers, (c.blkAlloc s).nextAllocation = (h s).length % 2 ^ 64
  unregistered : ∀ s ∉ c.servers, h s = []

theorem runInv_init (schedType : ControlPlaneSchedulerType) (now : UInt64) :
    RunInv (init schedType now) fun _ => [] where
  lt_next := by simp [init]
  lt_max := by simp [init]
  handed := fun _ => rfl
  batches := fun _ => Nat.dvd_zero _
  counter := by simp [init]
  unregistered := fun _ _ => rfl

/-- `RegisterServer` keeps the invariant: the new id has been handed out nothing, and its
counter starts at `0`. -/
theorem RunInv.registerServer {c c' : ControllerAgent} {h : ServerID → List ServerBlockInfo}
    {nSectors : ℕ} {r : Status ServerID} (hi : RunInv c h)
    (hr : c.registerServer nSectors = some (r, c')) : RunInv c' h := by
  have hfresh : c.nextServerId ∉ c.servers := fun hm => Nat.lt_irrefl _ (hi.lt_next _ hm)
  obtain ⟨hlt, -, sched, rfl⟩ := registerServer_some hfresh hr
  have hnew : h c.nextServerId = [] := hi.unregistered _ hfresh
  refine ⟨?_, ?_, hi.handed, hi.batches, ?_, ?_⟩
  · intro s hs
    rcases List.mem_append.mp hs with hs | hs
    · exact Nat.lt_succ_of_lt (hi.lt_next s hs)
    · rw [List.mem_singleton.mp hs]
      exact Nat.lt_succ_self _
  · intro s hs
    rcases List.mem_append.mp hs with hs | hs
    · exact hi.lt_max s hs
    · rw [List.mem_singleton.mp hs]
      exact hlt
  · intro s hs
    by_cases he : s = c.nextServerId
    · subst he
      simp [hnew]
    · simp only [Function.update_of_ne he]
      exact hi.counter s ((List.mem_append.mp hs).resolve_right (by simpa using he))
  · intro s hs
    exact hi.unregistered s fun hm => hs (List.mem_append_left _ hm)

/-- The next batch of a server whose first `n` blocks are out is its blocks `n, …, n + 2047`. -/
theorem firstBlocks_add_batch (s n : ℕ) :
    firstBlocks s n ++
        (List.range kAllocationBatch).map (fun i => (⟨s, (n % 2 ^ 64 + i) % 2 ^ 64⟩ : ServerBlockInfo)) =
      firstBlocks s (n + kAllocationBatch) := by
  simp only [firstBlocks, List.range_add, List.map_append, List.map_map, Nat.mod_add_mod]
  rfl

/-- `AllocateBlocks` on a registered server keeps the invariant: its batch is the next of its
first blocks. -/
theorem RunInv.allocateBlocks {c c' : ControllerAgent} {h : ServerID → List ServerBlockInfo}
    {serverId : ServerID} {r : Status (List ServerBlockInfo)} (hi : RunInv c h)
    (hs : serverId ∈ c.servers) (hr : c.allocateBlocks serverId = some (r, c')) :
    RunInv c' (logAllocation h serverId r) := by
  rw [allocateBlocks_eq c (hi.lt_max serverId hs), Option.some.injEq, Prod.mk.injEq] at hr
  obtain ⟨rfl, rfl⟩ := hr
  have hcount := hi.counter serverId hs
  have hnext : h serverId ++ (List.range kAllocationBatch).map
      (fun i => (⟨serverId, ((c.blkAlloc serverId).nextAllocation + i) % 2 ^ 64⟩ : ServerBlockInfo)) =
        firstBlocks serverId ((h serverId).length + kAllocationBatch) := by
    rw [hcount, ← firstBlocks_add_batch, ← hi.handed]
  have hlen : (firstBlocks serverId ((h serverId).length + kAllocationBatch)).length =
      (h serverId).length + kAllocationBatch := by
    simp [firstBlocks]
  refine ⟨hi.lt_next, hi.lt_max, ?_, ?_, ?_, ?_⟩
  · intro s
    by_cases he : s = serverId
    · subst he
      simp only [logAllocation, Function.update_self, hnext, hlen]
    · simp only [logAllocation, Function.update_of_ne he]
      exact hi.handed s
  · intro s
    by_cases he : s = serverId
    · subst he
      simp only [logAllocation, Function.update_self, hnext, hlen]
      exact Nat.dvd_add (hi.batches s) (Nat.dvd_refl _)
    · simp only [logAllocation, Function.update_of_ne he]
      exact hi.batches s
  · intro s hs'
    by_cases he : s = serverId
    · subst he
      simp only [logAllocation, Function.update_self]
      rw [hnext, hlen, hcount, Nat.mod_add_mod]
    · simp only [logAllocation, Function.update_of_ne he]
      exact hi.counter s hs'
  · intro s hs'
    have he : s ≠ serverId := fun he => hs' (he ▸ hs)
    simp only [logAllocation, Function.update_of_ne he]
    exact hi.unregistered s hs'

/-- Every run keeps `RunInv`. -/
theorem Run.inv {c : ControllerAgent} {h : ServerID → List ServerBlockInfo} (hrun : Run c h) :
    RunInv c h := by
  induction hrun with
  | init schedType now => exact runInv_init schedType now
  | registerServer _ hr ih => exact ih.registerServer hr
  | allocateBlocks _ hs hr ih => exact ih.allocateBlocks hs hr

/-- No block comes twice among a server's first `n ≤ 2^64` blocks. -/
theorem nodup_firstBlocks (s : ServerID) {n : ℕ} (hn : n ≤ 2 ^ 64) : (firstBlocks s n).Nodup := by
  refine List.Nodup.map_on (fun a ha b hb hab => ?_) List.nodup_range
  rw [List.mem_range] at ha hb
  have hab : a % 2 ^ 64 = b % 2 ^ 64 := congrArg ServerBlockInfo.blockAddr hab
  rwa [Nat.mod_eq_of_lt (by omega), Nat.mod_eq_of_lt (by omega)] at hab

/-- **What a server is handed out.** Over any run, the blocks handed out for a server are, in
order, its block addresses `0, 1, 2, …` modulo `2^64`, a whole number of `kAllocationBatch`
batches, whatever capacity it registered with; none comes twice while at most `2^64` have been
handed out; and the next `AllocateBlocks` for a registered server succeeds. -/
theorem run_allocations {c : ControllerAgent} {h : ServerID → List ServerBlockInfo}
    (hrun : Run c h) (s : ServerID) :
    h s = firstBlocks s (h s).length ∧ kAllocationBatch ∣ (h s).length ∧
      ((h s).length ≤ 2 ^ 64 → (h s).Nodup) ∧
      (s ∈ c.servers → ∃ blocks c', c.allocateBlocks s = some (.ok blocks, c')) := by
  have hi := hrun.inv
  refine ⟨hi.handed s, hi.batches s, fun hn => ?_, fun hs => ⟨_, _, allocateBlocks_eq c (hi.lt_max s hs)⟩⟩
  rw [hi.handed s]
  exact nodup_firstBlocks s (by simpa [firstBlocks] using hn)

end ControllerAgent

end Sandook.Controller
