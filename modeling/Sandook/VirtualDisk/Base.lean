import Sandook.Base.Types
import Sandook.Lib.Loops

/-!
# The request path every virtual disk shares (`virtual_disk/virtual_disk_base.{h,cc}`)

Model of `VirtualDiskBase`: a request of `n` sectors is cut into `n` one-sector sub-requests,
each handed to the disk's own `ProcessRequest`, and their results are gathered into one
`IOResult` for the request's callback, which wakes the caller of `Read`, `Write` or `Allocate`.

* `ProcessRequest` is virtual: here it is a parameter `processRequest` over the disk's state
  `S`, which `VirtualDiskRemote` instantiates.
* The `nthreads` threads of `ProcessShardedRequests` run one after the other in `tid` order.
  The gathered result does not depend on that order but through `err_code`, whose last writer
  wins; whether it ends nonzero does not, when every error code is positive.
* A request runs from submission to completion before the next one: the per-core work queue,
  its worker thread, the spawned request thread and the park/wake pair only carry it there.
* `std::atomic_int res` wraps modulo `2^32` (`toInt32`).

Results:
* `flatMap_threadOffsets`: the threads' sectors are the request's, each once and in order.
* `processShardedRequests_eq`: `ProcessShardedRequests` is the run of the sub-requests for
  sectors `0, …, n - 1`, summarised by `shardResult`.
* `shardResult_of_error`, `shardResult_of_ok`: a failed sub-request makes the result `kFailed`
  with its (positive) code; otherwise it is `kOk` with the sum of the sub-requests' results.
* `submitBuffer_of_error`, `submitBuffer_of_ok`: what `Read` and `Write` return. `IOCallback`
  stores `res` whatever the status, so a failed request returns a success: its error code.
-/

namespace Sandook.VirtualDisk

open Sandook.Lib

/-! ## Sizes -/

/-- `num_sectors << kSectorShift` on the `uint32_t` field: the request's length in bytes. -/
def sectorBytes (numSectors : ℕ) : ℕ := numSectors * kDeviceAlignment % 2 ^ 32

/-- A value stored in an `int`: modulo `2^32`, in `[-2^31, 2^31)`. -/
def toInt32 (v : ℤ) : ℤ := Int.bmod v (2 ^ 32)

/-- `static_cast<int>(num_sectors) << kSectorShift`: what a write returns, and what a
`MemServer` reports, for `numSectors` sectors. -/
def sectorResult (numSectors : ℕ) : ℤ := toInt32 (numSectors * kDeviceAlignment)

/-! ## Results (`base/io_callback.h`) -/

/-- `IOStatus`. -/
inductive IOStatus where
  | kOk | kFailed
  deriving DecidableEq, Repr

/-- `IOResult`: a status, and an `int` that is a byte count or an error code. -/
structure IOResult where
  status : IOStatus
  res : ℤ
  deriving DecidableEq, Repr

/-! ## Sharding -/

/-- `kMaxPerRequestConcurrency`. -/
def kMaxPerRequestConcurrency : ℕ := 4

/-- `kMaxPerWriteRequestConcurrency`: a write's sectors go one after the other. -/
def kMaxPerWriteRequestConcurrency : ℕ := 1

/-- `max_concurrency`. -/
def maxConcurrency (op : OpType) : ℕ :=
  if op = .kWrite then kMaxPerWriteRequestConcurrency else kMaxPerRequestConcurrency

/-- `nthreads`. -/
def nthreads (iod : IODesc) : ℕ := min iod.numSectors (maxConcurrency iod.op)

/-- `sectors_per_thread`. -/
def sectorsPerThread (iod : IODesc) : ℕ :=
  if nthreads iod = iod.numSectors then 1 else iod.numSectors / nthreads iod

/-- `remaining`: the sectors the last thread takes on top of its share. -/
def remaining (iod : IODesc) : ℕ := iod.numSectors - sectorsPerThread iod * nthreads iod

/-- `cur_thread_nsectors` of thread `tid`. -/
def curThreadNsectors (iod : IODesc) (tid : ℕ) : ℕ :=
  sectorsPerThread iod + if tid = nthreads iod - 1 then remaining iod else 0

/-- The sector offsets thread `tid` handles, in order. -/
def threadOffsets (iod : IODesc) (tid : ℕ) : List ℕ :=
  List.range' (tid * sectorsPerThread iod) (curThreadNsectors iod tid)

/-- `iod_cur`, the sub-request for the sector at `offset`: one sector, and its block of the
buffer; both sums are `uint64_t` and wrap. -/
def subRequest (iod : IODesc) (offset : ℕ) : IODesc :=
  { iod with numSectors := 1, startSector := (iod.startSector + offset) % 2 ^ 64,
             addr := (iod.addr + kDeviceAlignment * offset) % 2 ^ 64 }

theorem sectorsPerThread_mul_le (iod : IODesc) :
    sectorsPerThread iod * nthreads iod ≤ iod.numSectors := by
  unfold sectorsPerThread
  split_ifs with h
  · rw [Nat.one_mul, h]
  · exact Nat.div_mul_le_self _ _

/-- The `BUG_ON` of `ProcessShardedRequests` never fires. -/
theorem shares_add_up (iod : IODesc) :
    sectorsPerThread iod * nthreads iod + remaining iod = iod.numSectors := by
  have := sectorsPerThread_mul_le iod
  unfold remaining
  omega

/-- A request with no threads has no sectors. -/
theorem numSectors_eq_zero_of_nthreads (iod : IODesc) (h : nthreads iod = 0) :
    iod.numSectors = 0 := by
  have hc : 0 < maxConcurrency iod.op := by
    unfold maxConcurrency
    split_ifs <;> decide
  unfold nthreads at h
  omega

/-- **The sharding covers the request.** The threads' offsets, thread after thread, are
`0, …, num_sectors - 1`: every sector gets exactly one sub-request. -/
theorem flatMap_threadOffsets (iod : IODesc) :
    (List.range (nthreads iod)).flatMap (threadOffsets iod) = List.range iod.numSectors := by
  have hsum := shares_add_up iod
  cases ht : nthreads iod with
  | zero => simp [numSectors_eq_zero_of_nthreads iod ht]
  | succ m =>
    -- every thread but the last takes exactly its share
    have hfirst : ∀ tid ∈ List.range m,
        threadOffsets iod tid = List.range' (tid * sectorsPerThread iod) (sectorsPerThread iod) := by
      intro tid htid
      have hne : tid ≠ nthreads iod - 1 := by
        rw [List.mem_range] at htid
        omega
      simp only [threadOffsets, curThreadNsectors, if_neg hne, Nat.add_zero]
    have hlast : threadOffsets iod m =
        List.range' (m * sectorsPerThread iod) (sectorsPerThread iod + remaining iod) := by
      simp only [threadOffsets, curThreadNsectors, ht, Nat.add_sub_cancel, if_true]
    rw [List.range_succ, List.flatMap_append, List.flatMap_congr hfirst,
      flatMap_range_range', List.flatMap_singleton, hlast, List.range_eq_range',
      List.range_eq_range']
    have h := @List.range'_append 0 (m * sectorsPerThread iod)
      (sectorsPerThread iod + remaining iod) 1
    rw [Nat.zero_add, Nat.one_mul] at h
    rw [h, ← hsum, ht, Nat.mul_comm (sectorsPerThread iod) (m + 1), Nat.succ_mul,
      Nat.add_assoc]

theorem mem_threadOffsets {iod : IODesc} {tid k : ℕ} :
    k ∈ threadOffsets iod tid ↔
      tid * sectorsPerThread iod ≤ k ∧ k < tid * sectorsPerThread iod + curThreadNsectors iod tid := by
  rw [threadOffsets, List.mem_range'_1]

/-- Every thread's last offset is within the request: the `uint32_t` offsets never pass
`num_sectors`. -/
theorem threadEnd_le (iod : IODesc) {tid : ℕ} (htid : tid < nthreads iod) :
    tid * sectorsPerThread iod + curThreadNsectors iod tid ≤ iod.numSectors := by
  have hsum := shares_add_up iod
  unfold curThreadNsectors
  split_ifs with hlast
  · -- the last thread ends where the remainder does
    have hsucc : tid + 1 = nthreads iod := by omega
    calc tid * sectorsPerThread iod + (sectorsPerThread iod + remaining iod)
        = (tid + 1) * sectorsPerThread iod + remaining iod := by rw [Nat.succ_mul]; omega
      _ ≤ iod.numSectors := by rw [hsucc, Nat.mul_comm]; exact hsum.le
  · have hle : (tid + 1) * sectorsPerThread iod ≤ nthreads iod * sectorsPerThread iod :=
      Nat.mul_le_mul_right _ htid
    rw [Nat.succ_mul, Nat.mul_comm (nthreads iod)] at hle
    omega

/-- Two threads never share an offset. -/
theorem eq_of_mem_threadOffsets {iod : IODesc} {tid tid' k : ℕ} (ht : tid < nthreads iod)
    (ht' : tid' < nthreads iod) (hk : k ∈ threadOffsets iod tid) (hk' : k ∈ threadOffsets iod tid') :
    tid = tid' := by
  -- a thread before the last ends where the next one starts
  have hbefore : ∀ {a b}, a < b → b < nthreads iod → k ∈ threadOffsets iod a →
      k ∈ threadOffsets iod b → False := by
    intro a b hab hb ha hb'
    rw [mem_threadOffsets] at ha hb'
    have hna : a ≠ nthreads iod - 1 := by omega
    have hend : (a + 1) * sectorsPerThread iod ≤ b * sectorsPerThread iod :=
      Nat.mul_le_mul_right _ hab
    simp only [curThreadNsectors, if_neg hna, Nat.add_zero, Nat.succ_mul] at ha hend
    omega
  rcases Nat.lt_trichotomy tid tid' with h | h | h
  · exact (hbefore h ht' hk hk').elim
  · exact h
  · exact (hbefore h ht hk' hk).elim

/-! ## `ProcessShardedRequests` -/

section Sharded

variable {S : Type} (processRequest : IODesc → S → Option (Status ℤ × S))

/-- The counters the threads of `ProcessShardedRequests` share, and the disk's state. -/
structure ShardState (S : Type) where
  errCode : ℕ
  res : ℤ
  state : S

/-- One iteration of a thread's loop: the sub-request's error goes to `err_code`
(`exchange`), its result is added to `res` (`fetch_add`). -/
def processSector (iod : IODesc) (acc : ShardState S) (offset : ℕ) :
    Option (ShardState S) :=
  (processRequest (subRequest iod offset) acc.state).map fun
    | (.error e, s) => { acc with errCode := e, state := s }
    | (.ok v, s) => { acc with res := toInt32 (acc.res + v), state := s }

/-- Thread `tid`: the sectors `tid * sectors_per_thread + i`, `i < cur_thread_nsectors`. -/
def processThread (iod : IODesc) (acc : ShardState S) (tid : ℕ) : Option (ShardState S) :=
  (List.range (curThreadNsectors iod tid)).foldlM
    (fun acc i => processSector processRequest iod acc (tid * sectorsPerThread iod + i)) acc

/-- `ProcessShardedRequests(iod)`: the threads, joined; `kFailed` with `err_code` if it is
set, else `kOk` with `res`. -/
def processShardedRequests (iod : IODesc) (s : S) : Option (IOResult × S) :=
  if sectorsPerThread iod * nthreads iod + remaining iod ≠ iod.numSectors then none
  else
    ((List.range (nthreads iod)).foldlM (processThread processRequest iod) ⟨0, 0, s⟩).map
      fun acc =>
        if acc.errCode ≠ 0 then (⟨.kFailed, acc.errCode⟩, acc.state)
        else (⟨.kOk, acc.res⟩, acc.state)

/-! ## The run of the sub-requests -/

/-- The sub-requests for the sectors at `offsets`, one after the other: their results, in
order, and the disk's state after them. -/
def runSectors (iod : IODesc) : List ℕ → S → Option (List (Status ℤ) × S)
  | [], s => some ([], s)
  | o :: os, s =>
    (processRequest (subRequest iod o) s).bind fun (r, s) =>
      (runSectors iod os s).map fun (rs, s) => (r :: rs, s)

/-- The code of the last error among `rs`, or `e` if there is none. -/
def lastErrCode : ℕ → List (Status ℤ) → ℕ
  | e, [] => e
  | _, .error e :: rs => lastErrCode e rs
  | e, .ok _ :: rs => lastErrCode e rs

/-- The sum of the successful results among `rs`. -/
def okSum : List (Status ℤ) → ℤ
  | [] => 0
  | .error _ :: rs => okSum rs
  | .ok v :: rs => v + okSum rs

/-- What a request whose sub-requests returned `rs` reports. -/
def shardResult (rs : List (Status ℤ)) : IOResult :=
  if lastErrCode 0 rs ≠ 0 then ⟨.kFailed, lastErrCode 0 rs⟩ else ⟨.kOk, toInt32 (okSum rs)⟩

theorem processThread_eq (iod : IODesc) (acc : ShardState S) (tid : ℕ) :
    processThread processRequest iod acc tid =
      (threadOffsets iod tid).foldlM (processSector processRequest iod) acc := by
  rw [processThread, threadOffsets, List.range'_eq_map_range, List.foldlM_map]

/-- A thread's loop keeps the counters as the summary of the results so far: `err_code` the last
error, `res` the sum of the results modulo `2^32`. -/
theorem foldlM_processSector (iod : IODesc) :
    ∀ (offsets : List ℕ) (acc : ShardState S), toInt32 acc.res = acc.res →
      offsets.foldlM (processSector processRequest iod) acc =
        (runSectors processRequest iod offsets acc.state).map fun (rs, s) =>
          ⟨lastErrCode acc.errCode rs, toInt32 (acc.res + okSum rs), s⟩
  | [], ⟨errCode, res, s⟩, hres => by
    simp only [List.foldlM_nil, runSectors, Option.map_some, lastErrCode, okSum, Int.add_zero]
    rw [hres]
    rfl
  | o :: os, acc, hres => by
    rw [List.foldlM_cons, runSectors, processSector]
    cases hp : processRequest (subRequest iod o) acc.state with
    | none => rfl
    | some p =>
      obtain ⟨r, s⟩ := p
      cases r with
      | error e =>
        have ih := foldlM_processSector iod os { acc with errCode := e, state := s } hres
        simp only [Option.map_some, Option.bind_eq_bind, Option.bind_some, ih, Option.map_map]
        rfl
      | ok v =>
        have hres' : toInt32 (toInt32 (acc.res + v)) = toInt32 (acc.res + v) := Int.bmod_bmod
        have ih := foldlM_processSector iod os
          { acc with res := toInt32 (acc.res + v), state := s } hres'
        simp only [Option.map_some, Option.bind_eq_bind, Option.bind_some, ih, Option.map_map]
        congr 1
        funext q
        simp only [Function.comp, lastErrCode, okSum, toInt32, Int.bmod_add_bmod, Int.add_assoc]

/-- **`ProcessShardedRequests` is the run of its sub-requests.** The threads' loops amount to
the sub-requests for sectors `0, …, num_sectors - 1` in order, and the result they report is the
summary `shardResult` of what those returned. -/
theorem processShardedRequests_eq (iod : IODesc) (s : S) :
    processShardedRequests processRequest iod s =
      (runSectors processRequest iod (List.range iod.numSectors) s).map fun (rs, s') =>
        (shardResult rs, s') := by
  have hloops : (List.range (nthreads iod)).foldlM (processThread processRequest iod) ⟨0, 0, s⟩ =
      (List.range iod.numSectors).foldlM (processSector processRequest iod) ⟨0, 0, s⟩ := by
    rw [← flatMap_threadOffsets, foldlM_flatMap]
    congr 1
    funext acc tid
    exact processThread_eq processRequest iod acc tid
  have hzero : toInt32 (0 : ℤ) = 0 := by decide
  rw [processShardedRequests, if_neg (by rw [shares_add_up]; exact absurd rfl), hloops,
    foldlM_processSector processRequest iod _ _ hzero, Option.map_map]
  congr 1
  funext q
  simp only [Function.comp, Int.zero_add, shardResult]
  split_ifs <;> rfl

/-! ## What the summary says -/

/-- The last error's code is the starting code or one of the errors'. -/
theorem lastErrCode_eq_or_mem :
    ∀ (e : ℕ) (rs : List (Status ℤ)), lastErrCode e rs = e ∨ .error (lastErrCode e rs) ∈ rs
  | _, [] => .inl rfl
  | _, .error e :: rs => by
    rcases lastErrCode_eq_or_mem e rs with h | h
    · rw [lastErrCode, h]
      exact .inr List.mem_cons_self
    · exact .inr (List.mem_cons_of_mem _ h)
  | e, .ok _ :: rs => by
    rcases lastErrCode_eq_or_mem e rs with h | h
    · exact .inl h
    · exact .inr (List.mem_cons_of_mem _ h)

/-- Once an error has been seen, the last error's code is one of the errors'. -/
theorem lastErrCode_mem :
    ∀ (e : ℕ) (rs : List (Status ℤ)), (∃ e', .error e' ∈ rs) → .error (lastErrCode e rs) ∈ rs
  | _, [], ⟨_, h⟩ => absurd h List.not_mem_nil
  | _, .error e :: rs, _ => by
    rcases lastErrCode_eq_or_mem e rs with h | h
    · rw [lastErrCode, h]
      exact List.mem_cons_self
    · exact List.mem_cons_of_mem _ h
  | e, .ok _ :: rs, ⟨e', he'⟩ => by
    have he' : .error e' ∈ rs := by simpa using he'
    exact List.mem_cons_of_mem _ (lastErrCode_mem e rs ⟨e', he'⟩)

/-- A request one of whose sub-requests failed, every error code being positive, reports
`kFailed` with the last failure's code. -/
theorem shardResult_of_error {rs : List (Status ℤ)} (hcodes : ∀ e, .error e ∈ rs → 0 < e)
    (he : ∃ e, .error e ∈ rs) :
    shardResult rs = ⟨.kFailed, lastErrCode 0 rs⟩ ∧ 0 < lastErrCode 0 rs := by
  have hpos : 0 < lastErrCode 0 rs := hcodes _ (lastErrCode_mem 0 rs he)
  rw [shardResult, if_pos (Nat.pos_iff_ne_zero.mp hpos)]
  exact ⟨rfl, hpos⟩

/-- A request all of whose sub-requests succeeded reports `kOk` with the sum of their
results, modulo `2^32`. -/
theorem shardResult_of_ok {rs : List (Status ℤ)} (h : ∀ e, .error e ∉ rs) :
    shardResult rs = ⟨.kOk, toInt32 (okSum rs)⟩ := by
  have hzero : lastErrCode 0 rs = 0 := by
    rcases lastErrCode_eq_or_mem 0 rs with hz | hm
    · exact hz
    · exact absurd hm (h _)
  rw [shardResult, hzero, if_neg (not_not.mpr rfl)]

/-! ## `Read`, `Write` and `Allocate` -/

/-- What `IOCallback` leaves in the caller's `res`: `io_result.res`, whatever the status; the
switch on the status only logs. -/
def ioCallback (ioResult : IOResult) : ℤ := ioResult.res

/-- The request `Read` and `Write` build for the buffer of `bufSize` bytes at `addr`:
`static_cast<uint32_t>(buf.size() >> kSectorShift)` sectors from `sector`. -/
def bufferDesc (op : OpType) (sector bufSize addr : ℕ) : IODesc :=
  ⟨op, bufSize / kDeviceAlignment % 2 ^ 32, sector, addr⟩

/-- `Read` and `Write`, which differ only in the op: the request is submitted and waited for,
and what the callback stored in `res` is returned, as a success. -/
def submitBuffer (op : OpType) (sector bufSize addr : ℕ) (s : S) : Option (Status ℤ × S) :=
  (processShardedRequests processRequest (bufferDesc op sector bufSize addr) s).map
    fun (r, s) => (.ok (ioCallback r), s)

/-- `Read(sector, buf)`. -/
def read (sector bufSize addr : ℕ) (s : S) : Option (Status ℤ × S) :=
  submitBuffer processRequest .kRead sector bufSize addr s

/-- `Write(sector, buf)`. -/
def write (sector bufSize addr : ℕ) (s : S) : Option (Status ℤ × S) :=
  submitBuffer processRequest .kWrite sector bufSize addr s

/-- `Allocate(sector, n_sectors)`: the request is submitted and waited for; the callback's
result is not looked at. -/
def allocate (sector nSectors : ℕ) (s : S) : Option (Status Unit × S) :=
  (processShardedRequests processRequest ⟨.kAllocate, nSectors, sector, 0⟩ s).map
    fun (_, s) => (.ok (), s)

/-- **A failed read or write is returned as a success.** When one of the sub-requests fails
(every error code being positive), `ProcessShardedRequests` reports `kFailed`, but `Read` and
`Write` return the success `ok c`, `c > 0` the last failure's code, in the slot of the byte
count. -/
theorem submitBuffer_of_error {op : OpType} {sector bufSize addr : ℕ} {s s' : S}
    {rs : List (Status ℤ)}
    (h : runSectors processRequest (bufferDesc op sector bufSize addr)
      (List.range (bufferDesc op sector bufSize addr).numSectors) s = some (rs, s'))
    (hcodes : ∀ e, .error e ∈ rs → 0 < e) (he : ∃ e, .error e ∈ rs) :
    submitBuffer processRequest op sector bufSize addr s = some (.ok (lastErrCode 0 rs), s') ∧
      0 < lastErrCode 0 rs := by
  obtain ⟨hres, hpos⟩ := shardResult_of_error hcodes he
  refine ⟨?_, hpos⟩
  rw [submitBuffer, processShardedRequests_eq, h]
  simp only [Option.map_some, hres, ioCallback]

/-- A read or write all of whose sub-requests succeed returns the sum of their results, modulo
`2^32`. -/
theorem submitBuffer_of_ok {op : OpType} {sector bufSize addr : ℕ} {s s' : S}
    {rs : List (Status ℤ)}
    (h : runSectors processRequest (bufferDesc op sector bufSize addr)
      (List.range (bufferDesc op sector bufSize addr).numSectors) s = some (rs, s'))
    (hok : ∀ e, .error e ∉ rs) :
    submitBuffer processRequest op sector bufSize addr s =
      some (.ok (toInt32 (okSum rs)), s') := by
  rw [submitBuffer, processShardedRequests_eq, h]
  simp only [Option.map_some, shardResult_of_ok hok, ioCallback]

end Sharded

/-! ## The partition of a request -/

/-- **Request sharding covers every sector exactly once.** For every request and op: the
threads' offsets, thread after thread, are `0, …, num_sectors - 1`; each offset belongs to exactly
one thread; no thread's range passes `num_sectors`, so no `uint32_t` offset wraps; the
sub-request for offset `k` is one sector at `start_sector + k` with its block of the buffer at
`addr + 4096 k`, both sums modulo `2^64`; `num_sectors / nthreads` is only computed with `nthreads > 0`; the `BUG_ON`
never fires; and `ProcessShardedRequests` is the run of those sub-requests in order. -/
theorem shardedRequests_partition (iod : IODesc) :
    (List.range (nthreads iod)).flatMap (threadOffsets iod) = List.range iod.numSectors ∧
    (∀ k < iod.numSectors, ∃! tid, tid < nthreads iod ∧ k ∈ threadOffsets iod tid) ∧
    (∀ tid < nthreads iod,
      tid * sectorsPerThread iod + curThreadNsectors iod tid ≤ iod.numSectors) ∧
    (∀ k, (subRequest iod k).op = iod.op ∧ (subRequest iod k).numSectors = 1 ∧
      (subRequest iod k).startSector = (iod.startSector + k) % 2 ^ 64 ∧
      (subRequest iod k).addr = (iod.addr + 4096 * k) % 2 ^ 64) ∧
    (nthreads iod ≠ iod.numSectors → 0 < nthreads iod) ∧
    sectorsPerThread iod * nthreads iod + remaining iod = iod.numSectors ∧
    ∀ {S : Type} (processRequest : IODesc → S → Option (Status ℤ × S)) (s : S),
      processShardedRequests processRequest iod s =
        (runSectors processRequest iod (List.range iod.numSectors) s).map fun (rs, s') =>
          (shardResult rs, s') := by
  refine ⟨flatMap_threadOffsets iod, ?_, fun tid htid => threadEnd_le iod htid,
    fun k => ⟨rfl, rfl, rfl, rfl⟩, ?_, shares_add_up iod,
    fun processRequest s => processShardedRequests_eq processRequest iod s⟩
  · intro k hk
    have hmem : k ∈ (List.range (nthreads iod)).flatMap (threadOffsets iod) := by
      rw [flatMap_threadOffsets]
      exact List.mem_range.mpr hk
    obtain ⟨tid, htid, hk⟩ := List.mem_flatMap.mp hmem
    rw [List.mem_range] at htid
    exact ⟨tid, ⟨htid, hk⟩, fun tid' ⟨ht', hk'⟩ => eq_of_mem_threadOffsets ht' htid hk' hk⟩
  · intro hne
    by_contra hz
    exact hne (by rw [numSectors_eq_zero_of_nthreads iod (by omega)]; omega)

end Sandook.VirtualDisk
