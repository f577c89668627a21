import Sandook.DiskServer.BlkServer

/-!
# The block server's handlers, run at once

`RPCServer::ReceiveWorker` (`rpc/rpc.cc`) spawns a thread for every message it reads, and the
thread runs `DiskConnHandler::HandleMsg`, which calls `BlkServer::HandleStorageOp`: the storage
ops of the disk server run at once, on the one `fd_` of `BlkServer`, whose file offset they share.

* A handler is where its thread is in `HandleStorageOp` (`Handler`): before the `Seek` of
  `HandleRead`, `HandleWrite` or `HandleDiscard`, in the loop of `ReadFull` or `WriteFull`,
  before `fallocate`, or returned with its status and the bytes it stored in `resp_payload`.
* Each `lseek`, `read`, `write` and `fallocate` on `fd_` is one step on the device
  (`Handler.step`); the test that ends a loop is a step that leaves the device as it is. The
  `Seek` of a discard or a write of zeroes moves the shared offset like any other, and other
  handlers may write its range before its `fallocate`, which takes its offset as an argument.
* A flush and an unsupported op are one step: `fdatasync` takes no offset from `fd_`.
* The handlers take their steps in the order of a schedule, a list of handler indices
  (`Sys.run`): every interleaving of their calls on `fd_` is one schedule.

Results:
* `Handler.run_alone`: a handler that runs alone computes `HandleStorageOp`, device and all.
* `run_serial`: the handlers run one after the other compute the sequential server's run of
  their requests; with a kernel that does not fail, that is the memory server's run
  (`run_serial_refines`).
* `schedule_inv`: under every schedule, the device keeps its size and its file offset stays
  inside it, and a read that returned success has filled its `resp_payload` and returned `len`.
* `race_two_writes`: when both seeks of two writes come before their first `write`, both writes
  succeed, and their payloads land one after the other at the second one's offset. For writes of
  different data to different sectors, neither order of the two requests ends so
  (`race_not_serial`): `HandleStorageOp` is not atomic.
-/

namespace Sandook.System

open Sandook.VirtualDisk Sandook.DiskServer Sandook.DiskServer.BlkServer

/-- Where a handler thread of `BlkServer::HandleStorageOp` is. -/
inductive Handler where
  /-- Before `Seek(offset)` in `HandleRead(offset, len, resp_payload)`. -/
  | seekRead (offset len respSize : ℕ)
  /-- In the loop of `ReadFull`, `n` bytes stored in `acc`. -/
  | reading (len respSize n : ℕ) (acc : List UInt8)
  /-- Before `Seek(offset)` in `HandleWrite(offset, len, req_payload)`. -/
  | seekWrite (offset len : ℕ) (payload : List UInt8)
  /-- In the loop of `WriteFull`, `n` bytes of `payload` written. -/
  | writing (len : ℕ) (payload : List UInt8) (n : ℕ)
  /-- Before `Seek(offset)` in `HandleDiscard(offset, len, mode)`. -/
  | seekDiscard (offset len mode : ℕ)
  /-- Before `fallocate(fd_, mode, offset, len)` in `HandleDiscard`. -/
  | fallocating (offset len mode : ℕ)
  /-- A flush or an unsupported op, not begun. -/
  | atomic (iod : IODesc) (reqPayload : List UInt8) (respSize : ℕ)
  /-- Returned: the status, and the bytes stored in `resp_payload`. -/
  | done (r : Except ℤ ℤ) (bytes : List UInt8)

namespace Handler

/-- The thread of the request `q`, as `HandleStorageOp` dispatches it. -/
def start (q : Request) : Handler :=
  match q.1.op with
  | .kRead => .seekRead (sectorOffset q.1.startSector) (sectorBytes q.1.numSectors) q.2.2
  | .kWrite => .seekWrite (sectorOffset q.1.startSector) (sectorBytes q.1.numSectors) q.2.1
  | .kWriteZeroes => .seekDiscard (sectorOffset q.1.startSector) (sectorBytes q.1.numSectors)
      (kFallocKeepSize ||| kFallocZeroRange)
  | .kDiscard => .seekDiscard (sectorOffset q.1.startSector) (sectorBytes q.1.numSectors)
      kFallocKeepSize
  | _ => .atomic q.1 q.2.1 q.2.2

/-- The return of `HandleRead` or `HandleWrite` once its loop has ended with `st`. -/
def finish (len : ℕ) (st : Status Unit) (bytes : List UInt8) : Handler :=
  .done ((st.map fun _ => toInt32 len).mapError Int.ofNat) bytes

/-- One step of a handler on the device: one call on `fd_`, or the test that ends a loop. -/
def step (k : Kernel) (ret : ℤ) (d : BlkDevice) : Handler → Handler × BlkDevice
  | .seekRead offset len respSize =>
    match d.seek offset with
    | .error e => (.done (.error (Int.ofNat e)) [], d)
    | .ok d₁ => (.reading len respSize 0 [], d₁)
  | .reading len size n acc =>
    if n < size then
      match d.read k (size - n) with
      | .error e => (.done (.error (Int.ofNat e)) acc, d)
      | .ok (bs, d') =>
        if bs = [] then (finish len (fullResult n size) acc, d')
        else (.reading len size (n + bs.length) (acc ++ bs), d')
    else (finish len (fullResult n size) acc, d)
  | .seekWrite offset len payload =>
    match d.seek offset with
    | .error e => (.done (.error (Int.ofNat e)) [], d)
    | .ok d₁ => (.writing len payload 0, d₁)
  | .writing len payload n =>
    if n < payload.length then
      match d.write k (payload.drop n) with
      | .error e => (.done (.error (Int.ofNat e)) [], d)
      | .ok (r, d') =>
        if r = 0 then (finish len (fullResult n payload.length) [], d')
        else (.writing len payload (n + r), d')
    else (finish len (fullResult n payload.length) [], d)
  | .seekDiscard offset len mode =>
    match d.seek offset with
    | .error e => (.done (.error (Int.ofNat e)) [], d)
    | .ok d₁ => (.fallocating offset len mode, d₁)
  | .fallocating offset len mode =>
    if ret ≠ 0 then (.done (.error ret) [], d) else (.done (.ok 0) [], d.fallocate mode offset len)
  | .atomic iod reqPayload respSize =>
    let r := handleStorageOp k ret d iod reqPayload respSize
    (.done r.1 r.2.2, r.2.1)
  | .done r bytes => (.done r bytes, d)

/-- A step of a handler alone on the device. -/
def stepAlone (k : Kernel) (ret : ℤ) (p : Handler × BlkDevice) : Handler × BlkDevice :=
  p.1.step k ret p.2

@[simp] theorem finish_ok (len : ℕ) (bytes : List UInt8) :
    finish len (.ok ()) bytes = .done (.ok (toInt32 len)) bytes := rfl

@[simp] theorem finish_error (len e : ℕ) (bytes : List UInt8) :
    finish len (.error e) bytes = .done (.error (Int.ofNat e)) bytes := rfl

/-! ## A handler alone -/

section Alone

variable (k : Kernel) (ret : ℤ)

/-- The loop of `ReadFull`, step by step: from `n` bytes stored in `acc`, the handler ends where
`readFullLoop` does. -/
theorem reading_alone (len size n : ℕ) (acc : List UInt8) (f : BlkDevice) :
    ∃ j, (stepAlone k ret)^[j] (.reading len size n acc, f) =
      (finish len (readFullLoop (BlkDevice.read k) size n acc f).1
        (readFullLoop (BlkDevice.read k) size n acc f).2.1,
        (readFullLoop (BlkDevice.read k) size n acc f).2.2) := by
  fun_induction readFullLoop (BlkDevice.read k) size n acc f with
  | case1 n acc f hlt e he => exact ⟨1, by simp [stepAlone, step, hlt, he]⟩
  | case2 n acc f hlt f' hrd => exact ⟨1, by simp [stepAlone, step, hlt, hrd]⟩
  | case3 n acc f hlt bs f' hrd hbs ih =>
    obtain ⟨j, hj⟩ := ih
    refine ⟨j + 1, ?_⟩
    rw [Function.iterate_succ_apply, ← hj]
    simp [stepAlone, step, hlt, hrd, hbs]
  | case4 n acc f hge => exact ⟨1, by simp [stepAlone, step, hge]⟩

/-- The loop of `WriteFull`, step by step. -/
theorem writing_alone (len : ℕ) (payload : List UInt8) (n : ℕ) (f : BlkDevice) :
    ∃ j, (stepAlone k ret)^[j] (.writing len payload n, f) =
      (finish len (writeFullLoop (BlkDevice.write k) payload n f).1 [],
        (writeFullLoop (BlkDevice.write k) payload n f).2) := by
  fun_induction writeFullLoop (BlkDevice.write k) payload n f with
  | case1 n f hlt e he => exact ⟨1, by simp [stepAlone, step, hlt, he]⟩
  | case2 n f hlt f' hwr => exact ⟨1, by simp [stepAlone, step, hlt, hwr]⟩
  | case3 n f hlt r f' hwr hr ih =>
    obtain ⟨j, hj⟩ := ih
    refine ⟨j + 1, ?_⟩
    rw [Function.iterate_succ_apply, ← hj]
    simp [stepAlone, step, hlt, hwr, hr]
  | case4 n f hge => exact ⟨1, by simp [stepAlone, step, hge]⟩

/-- A discard or a write of zeroes alone: its seek, then its `fallocate`. -/
theorem discarding_alone (offset len mode : ℕ) (d : BlkDevice) :
    ∃ j, (stepAlone k ret)^[j] (.seekDiscard offset len mode, d) =
      (.done ((handleDiscard d offset len mode ret).1.map fun _ => 0) [],
        (handleDiscard d offset len mode ret).2) := by
  cases hseek : d.seek offset with
  | error e => exact ⟨1, by simp [stepAlone, step, hseek, handleDiscard, Except.map]⟩
  | ok d₁ =>
    refine ⟨2, ?_⟩
    by_cases hret : ret = 0 <;> simp [stepAlone, step, hseek, handleDiscard, hret, Except.map]

/-- **A handler run alone computes `HandleStorageOp`**: from its start, it returns the status and
the response bytes of `HandleStorageOp` on the device, and leaves the device as it does. -/
theorem run_alone (q : Request) (d : BlkDevice) :
    ∃ j, (stepAlone k ret)^[j] (start q, d) =
      (.done (handleStorageOp k ret d q.1 q.2.1 q.2.2).1 (handleStorageOp k ret d q.1 q.2.1 q.2.2).2.2,
        (handleStorageOp k ret d q.1 q.2.1 q.2.2).2.1) := by
  obtain ⟨iod, req, resp⟩ := q
  cases hop : iod.op
  case kRead =>
    -- the seek, then the loop of `ReadFull` from no bytes
    simp only [start, handleStorageOp, hop]
    cases hseek : d.seek (sectorOffset iod.startSector) with
    | error e => exact ⟨1, by simp [stepAlone, step, hseek, handleRead, Except.mapError]⟩
    | ok d₁ =>
      obtain ⟨j, hj⟩ := reading_alone k ret (sectorBytes iod.numSectors) resp 0 [] d₁
      refine ⟨j + 1, ?_⟩
      rw [Function.iterate_succ_apply, handleRead_of_seek hseek]
      simpa [stepAlone, step, hseek, finish, readFull] using hj
  case kWrite =>
    simp only [start, handleStorageOp, hop]
    cases hseek : d.seek (sectorOffset iod.startSector) with
    | error e => exact ⟨1, by simp [stepAlone, step, hseek, handleWrite, Except.mapError]⟩
    | ok d₁ =>
      obtain ⟨j, hj⟩ := writing_alone k ret (sectorBytes iod.numSectors) req 0 d₁
      refine ⟨j + 1, ?_⟩
      rw [Function.iterate_succ_apply, handleWrite_of_seek hseek]
      simpa [stepAlone, step, hseek, finish, writeFull] using hj
  case kWriteZeroes =>
    simp only [start, handleStorageOp, hop]
    exact discarding_alone k ret _ _ _ d
  case kDiscard =>
    simp only [start, handleStorageOp, hop]
    exact discarding_alone k ret _ _ _ d
  all_goals
    -- a flush or an unsupported op is one step
    exact ⟨1, by simp only [start, hop]; rfl⟩

end Alone

/-! ## What a handler has done -/

/-- The states a handler of the request `q` passes through, with what it has done so far. -/
inductive Serves : Request → Handler → Prop
  /-- Not begun. -/
  | init (q : Request) : Serves q (start q)
  /-- A read's loop stores what it read, no more than `resp_payload` holds. -/
  | reading {iod : IODesc} {req acc : List UInt8} {resp n : ℕ} (hop : iod.op = .kRead)
      (hacc : acc.length = n) (hn : n ≤ resp) :
      Serves (iod, req, resp) (.reading (sectorBytes iod.numSectors) resp n acc)
  /-- A write's loop has written no more than its payload. -/
  | writing {iod : IODesc} {req : List UInt8} {resp n : ℕ} (hop : iod.op = .kWrite)
      (hn : n ≤ req.length) : Serves (iod, req, resp) (.writing (sectorBytes iod.numSectors) req n)
  /-- A discard or a write of zeroes is past its seek. -/
  | fallocating {iod : IODesc} {req : List UInt8} {resp offset len mode : ℕ}
      (hr : iod.op ≠ .kRead) (hw : iod.op ≠ .kWrite) :
      Serves (iod, req, resp) (.fallocating offset len mode)
  /-- A read returned `len`, having filled `resp_payload`. -/
  | read {iod : IODesc} {req bytes : List UInt8} {resp : ℕ} (hop : iod.op = .kRead)
      (hlen : bytes.length = resp) :
      Serves (iod, req, resp) (.done (.ok (toInt32 (sectorBytes iod.numSectors))) bytes)
  /-- A write returned `len`. -/
  | wrote {iod : IODesc} {req : List UInt8} {resp : ℕ} (hop : iod.op = .kWrite) :
      Serves (iod, req, resp) (.done (.ok (toInt32 (sectorBytes iod.numSectors))) [])
  /-- A handler failed. -/
  | failed {q : Request} {e : ℤ} {bytes : List UInt8} : Serves q (.done (.error e) bytes)
  /-- Any other op returned. -/
  | other {iod : IODesc} {req : List UInt8} {resp : ℕ} {r : Except ℤ ℤ} {bytes : List UInt8}
      (hr : iod.op ≠ .kRead) (hw : iod.op ≠ .kWrite) : Serves (iod, req, resp) (.done r bytes)

section Step

variable {k : Kernel} {ret : ℤ} {d : BlkDevice}

/-- A request that is neither a read nor a write starts at a discard's seek, or is one step. -/
theorem start_other {iod : IODesc} {req : List UInt8} {resp : ℕ} (hr : iod.op ≠ .kRead)
    (hw : iod.op ≠ .kWrite) :
    (∃ offset len mode, start (iod, req, resp) = .seekDiscard offset len mode) ∨
      start (iod, req, resp) = .atomic iod req resp := by
  cases hop : iod.op
  case kRead => exact absurd hop hr
  case kWrite => exact absurd hop hw
  case kWriteZeroes | kDiscard =>
    left
    simp only [start, hop]
    exact ⟨_, _, _, rfl⟩
  all_goals exact .inr (by simp only [start, hop])

theorem Serves.finish_read {iod : IODesc} {req acc : List UInt8} {resp n : ℕ}
    (hop : iod.op = .kRead) (hacc : acc.length = n) (hn : n ≤ resp) :
    Serves (iod, req, resp) (finish (sectorBytes iod.numSectors) (fullResult n resp) acc) := by
  by_cases hlt : n < resp
  · rw [fullResult_of_lt hlt]
    exact .failed
  · obtain rfl : n = resp := by omega
    rw [fullResult_self]
    exact .read hop hacc

theorem Serves.finish_write {iod : IODesc} {req : List UInt8} {resp n : ℕ}
    (hop : iod.op = .kWrite) (hn : n ≤ req.length) :
    Serves (iod, req, resp) (finish (sectorBytes iod.numSectors) (fullResult n req.length) []) := by
  by_cases hlt : n < req.length
  · rw [fullResult_of_lt hlt]
    exact .failed
  · obtain rfl : n = req.length := by omega
    rw [fullResult_self]
    exact .wrote hop

/-- A step keeps what a handler has done consistent with its request. -/
theorem Serves.step {q : Request} {h : Handler} (hs : Serves q h) : Serves q (h.step k ret d).1 := by
  cases hs with
  | init q =>
    obtain ⟨iod, req, resp⟩ := q
    by_cases hr : iod.op = .kRead
    · have hstart : start (iod, req, resp) =
          .seekRead (sectorOffset iod.startSector) (sectorBytes iod.numSectors) resp := by
        simp [start, hr]
      rw [hstart]
      cases hseek : d.seek (sectorOffset iod.startSector) with
      | error e => simpa [Handler.step, hseek] using Serves.failed
      | ok d₁ => simpa [Handler.step, hseek] using @Serves.reading iod req [] resp 0 hr rfl (Nat.zero_le resp)
    by_cases hw : iod.op = .kWrite
    · have hstart : start (iod, req, resp) =
          .seekWrite (sectorOffset iod.startSector) (sectorBytes iod.numSectors) req := by
        simp [start, hw]
      rw [hstart]
      cases hseek : d.seek (sectorOffset iod.startSector) with
      | error e => simpa [Handler.step, hseek] using Serves.failed
      | ok d₁ => simpa [Handler.step, hseek] using @Serves.writing iod req resp 0 hw (Nat.zero_le _)
    · -- a discard's seek, or an op of one step
      rcases @start_other iod req resp hr hw with ⟨offset, len, mode, hstart⟩ | hstart
      · rw [hstart]
        simp only [Handler.step]
        split
        · exact .failed
        · exact .fallocating hr hw
      · rw [hstart]
        exact .other hr hw
  | reading hop hacc hn =>
    rename_i iod req acc resp n
    simp only [Handler.step]
    split_ifs with hlt
    · split
      · exact .failed
      · rename_i bs d' hrd
        split_ifs with hbs
        · exact .finish_read hop hacc hn
        · -- the bytes read fit in what is left of `resp_payload`
          have hle := (BlkDevice.readsStream k).le hrd
          exact .reading hop (by simp [hacc]) (by omega)
    · exact .finish_read hop hacc hn
  | writing hop hn =>
    rename_i iod req resp n
    simp only [Handler.step]
    split_ifs with hlt
    · split
      · exact .failed
      · rename_i r d' hwr
        split_ifs with hr
        · exact .finish_write hop hn
        · have hle := (BlkDevice.writesInto k).le hwr
          simp only [List.length_drop] at hle
          exact .writing hop (by omega)
    · exact .finish_write hop hn
  | fallocating hr hw =>
    simp only [Handler.step]
    split_ifs
    · exact .other hr hw
    · exact .other hr hw
  | read hop hlen => exact .read hop hlen
  | wrote hop => exact .wrote hop
  | failed => exact .failed
  | other hr hw => exact .other hr hw

/-- A step keeps the device's size, and the file offset inside it. -/
theorem size_pos_step (h : Handler) (hd : d.pos ≤ d.size) :
    (h.step k ret d).2.size = d.size ∧ (h.step k ret d).2.pos ≤ d.size := by
  cases h with
  | seekRead offset len respSize =>
    simp only [Handler.step]
    split
    · exact ⟨rfl, hd⟩
    · rename_i d₁ hseek
      obtain ⟨hoff, rfl⟩ := BlkDevice.eq_of_seek_eq_ok hseek
      exact ⟨rfl, hoff⟩
  | seekWrite offset len payload =>
    simp only [Handler.step]
    split
    · exact ⟨rfl, hd⟩
    · rename_i d₁ hseek
      obtain ⟨hoff, rfl⟩ := BlkDevice.eq_of_seek_eq_ok hseek
      exact ⟨rfl, hoff⟩
  | reading len size n acc =>
    simp only [Handler.step]
    split_ifs
    · split
      · exact ⟨rfl, hd⟩
      · rename_i bs d' hrd
        obtain ⟨c, -, rfl⟩ := BlkDevice.eq_of_read_eq_ok hrd
        have := (BlkDevice.moved_le d c (size - n)).2
        split_ifs <;> exact ⟨rfl, by dsimp only; omega⟩
    · exact ⟨rfl, hd⟩
  | writing len payload n =>
    simp only [Handler.step]
    split_ifs
    · split
      · exact ⟨rfl, hd⟩
      · rename_i r d' hwr
        obtain ⟨hpos, ⟨c, rfl⟩, rfl⟩ := BlkDevice.eq_of_write_eq_ok hwr
        have := (BlkDevice.moved_le d c (payload.drop n).length).2
        split_ifs <;> exact ⟨rfl, by simp only [BlkDevice.put, List.length_take]; omega⟩
    · exact ⟨rfl, hd⟩
  | seekDiscard offset len mode =>
    simp only [Handler.step]
    split
    · exact ⟨rfl, hd⟩
    · rename_i d₁ hseek
      obtain ⟨hoff, rfl⟩ := BlkDevice.eq_of_seek_eq_ok hseek
      exact ⟨rfl, hoff⟩
  | fallocating offset len mode =>
    simp only [Handler.step]
    split_ifs
    · exact ⟨rfl, hd⟩
    · unfold BlkDevice.fallocate
      split_ifs <;> exact ⟨rfl, hd⟩
  | atomic iod reqPayload respSize => exact size_pos_handleStorageOp k ret iod reqPayload respSize hd
  | done r bytes => exact ⟨rfl, hd⟩

end Step

end Handler

/-- The device, and the handler threads. -/
structure Sys where
  dev : BlkDevice
  handlers : List Handler

namespace Sys

/-- Handler `i` takes one step. -/
def step (k : Kernel) (ret : ℤ) (s : Sys) (i : ℕ) : Sys :=
  match s.handlers[i]? with
  | some h => ⟨(h.step k ret s.dev).2, s.handlers.set i (h.step k ret s.dev).1⟩
  | none => s

/-- The handlers take their steps in the order of the schedule. -/
def run (k : Kernel) (ret : ℤ) (s : Sys) (sched : List ℕ) : Sys := sched.foldl (step k ret) s

/-- The schedule that runs handler `i` for `j₀` steps, then handler `i + 1` for `j₁` steps, and
so on: the handlers one after the other. -/
def serial : ℕ → List ℕ → List ℕ
  | _, [] => []
  | i, j :: js => List.replicate j i ++ serial (i + 1) js

section Runs

variable {k : Kernel} {ret : ℤ}

@[simp] theorem run_nil (s : Sys) : run k ret s [] = s := rfl

theorem run_append (s : Sys) (a b : List ℕ) : run k ret s (a ++ b) = run k ret (run k ret s a) b :=
  List.foldl_append

theorem run_cons (s : Sys) (i : ℕ) (sched : List ℕ) :
    run k ret s (i :: sched) = run k ret (step k ret s i) sched := rfl

/-- Handler `i` run for `j` steps, and no other: the others stay where they are. -/
theorem run_replicate {s : Sys} {i : ℕ} {h : Handler} (hi : s.handlers[i]? = some h) (j : ℕ) :
    run k ret s (List.replicate j i) =
      ⟨((Handler.stepAlone k ret)^[j] (h, s.dev)).2,
        s.handlers.set i ((Handler.stepAlone k ret)^[j] (h, s.dev)).1⟩ := by
  induction j generalizing s h with
  | zero =>
    obtain ⟨hlt, rfl⟩ := List.getElem?_eq_some_iff.mp hi
    simp [List.set_getElem_self]
  | succ j ih =>
    have hlt : i < s.handlers.length := (List.getElem?_eq_some_iff.mp hi).1
    -- one step of handler `i`, then `j` more from where it is
    have hstep : step k ret s i = ⟨(h.step k ret s.dev).2, s.handlers.set i (h.step k ret s.dev).1⟩ := by
      simp [step, hi]
    rw [List.replicate_succ, run_cons, hstep, ih (List.getElem?_set_self hlt),
      Function.iterate_succ_apply, List.set_set]
    rfl

/-- The handlers from `pre.length` on, started from `qs` and run one after the other. -/
theorem run_serial_from (pre : List Handler) (qs : List Request) (d : BlkDevice) :
    ∃ js : List ℕ, js.length = qs.length ∧
      run k ret ⟨d, pre ++ qs.map Handler.start⟩ (serial pre.length js) =
        ⟨(BlkServer.run k ret d qs).2,
          pre ++ (BlkServer.run k ret d qs).1.map fun o => .done o.1 o.2⟩ := by
  induction qs generalizing pre d with
  | nil => exact ⟨[], rfl, by simp [serial, BlkServer.run]⟩
  | cons q qs ih =>
    obtain ⟨j, hj⟩ := Handler.run_alone k ret q d
    obtain ⟨js, hlen, hjs⟩ := ih (pre ++ [.done (handleStorageOp k ret d q.1 q.2.1 q.2.2).1
      (handleStorageOp k ret d q.1 q.2.1 q.2.2).2.2]) (handleStorageOp k ret d q.1 q.2.1 q.2.2).2.1
    refine ⟨j :: js, by simp [hlen], ?_⟩
    have hrun := @run_replicate k ret ⟨d, pre ++ (q :: qs).map Handler.start⟩ pre.length
      (Handler.start q) (by simp) j
    rw [hj] at hrun
    rw [serial, run_append, hrun]
    simp only [List.length_append, List.length_singleton] at hjs
    obtain ⟨iod, req, resp⟩ := q
    simp only [List.map_cons, List.set_append_right _ _ (Nat.le_refl _), Nat.sub_self,
      List.set_cons_zero, BlkServer.run] at hjs ⊢
    rw [← List.singleton_append, ← List.append_assoc, hjs]
    simp

/-- **The handlers run one after the other compute the sequential server's run**: for requests
`qs`, the schedule that runs each handler to its return in turn ends with the device of
`BlkServer.run` and, in each handler, the status and bytes it returns for that request. -/
theorem run_serial (k : Kernel) (ret : ℤ) (qs : List Request) (d : BlkDevice) :
    ∃ js : List ℕ, js.length = qs.length ∧
      run k ret ⟨d, qs.map Handler.start⟩ (serial 0 js) =
        ⟨(BlkServer.run k ret d qs).2, (BlkServer.run k ret d qs).1.map fun o => .done o.1 o.2⟩ :=
  run_serial_from [] qs d

/-- **The handlers run one after the other refine the memory server**: with a kernel that does
not fail, when the memory server handles a run of reads and writes, the schedule that runs the
block server's handlers of those requests in turn returns the same statuses and bytes, and ends
with the same device bytes. -/
theorem run_serial_refines {k : Kernel} (hk : k.NoErrors) (ret : ℤ) {qs : List Request}
    (hops : ∀ q ∈ qs, q.1.op = .kRead ∨ q.1.op = .kWrite) (d : BlkDevice)
    {outs : List (Status ℤ × List UInt8)} {s' : MemServer}
    (h : MemServer.run d.toMem qs = some (outs, s')) :
    ∃ js : List ℕ, js.length = qs.length ∧
      (run k ret ⟨d, qs.map Handler.start⟩ (serial 0 js)).handlers =
        outs.map (fun o => .done (o.1.mapError Int.ofNat) o.2) ∧
      (run k ret ⟨d, qs.map Handler.start⟩ (serial 0 js)).dev.toMem = s' := by
  obtain ⟨js, hlen, hrun⟩ := run_serial k ret qs d
  obtain ⟨hout, hmem⟩ := BlkServer.run_refines hk ret hops d h
  refine ⟨js, hlen, ?_, ?_⟩
  · rw [hrun, hout, List.map_map]
    rfl
  · rw [hrun]
    exact hmem

/-- Two sectors of zeroes, the file offset left inside the first. -/
def zeroDevice : BlkDevice := ⟨fun _ => 0, 8192, 5, by decide⟩

/-- The handlers of a write of a sector and a read of it back, run in turn under a kernel that
moves one byte a call. -/
theorem run_serial_refines_write_then_read :
    ∃ outs s', MemServer.run zeroDevice.toMem
        [(⟨.kWrite, 1, 1, 0⟩, List.replicate 4096 7, 0), (⟨.kRead, 1, 1, 0⟩, [], 4096)] =
          some (outs, s') ∧
      ∃ js : List ℕ, js.length = 2 ∧
        (run (fun _ _ => .ok 0) 0 ⟨zeroDevice,
          [(⟨.kWrite, 1, 1, 0⟩, List.replicate 4096 7, 0), (⟨.kRead, 1, 1, 0⟩, [], 4096)].map
            Handler.start⟩ (serial 0 js)).handlers =
          outs.map (fun o => .done (o.1.mapError Int.ofNat) o.2) ∧
        (run (fun _ _ => .ok 0) 0 ⟨zeroDevice,
          [(⟨.kWrite, 1, 1, 0⟩, List.replicate 4096 7, 0), (⟨.kRead, 1, 1, 0⟩, [], 4096)].map
            Handler.start⟩ (serial 0 js)).dev.toMem = s' := by
  obtain ⟨⟨outs, s'⟩, h⟩ := Option.isSome_iff_exists.mp
    (by decide +kernel : (MemServer.run zeroDevice.toMem
      [(⟨.kWrite, 1, 1, 0⟩, List.replicate 4096 7, 0), (⟨.kRead, 1, 1, 0⟩, [], 4096)]).isSome)
  exact ⟨outs, s', h, run_serial_refines (fun _ _ _ h => by cases h) 0 (by decide) zeroDevice h⟩

end Runs

/-! ## Every schedule -/

/-- Every handler is where a handler of its request can be, and the device keeps its size with
the file offset inside it. -/
structure Inv (qs : List Request) (size : ℕ) (s : Sys) : Prop where
  size_eq : s.dev.size = size
  pos_le : s.dev.pos ≤ s.dev.size
  length_eq : s.handlers.length = qs.length
  serves : ∀ (i : ℕ) q h, qs[i]? = some q → s.handlers[i]? = some h → Handler.Serves q h

section Inv

variable {k : Kernel} {ret : ℤ} {qs : List Request} {size : ℕ}

theorem Inv.init {d : BlkDevice} (hd : d.pos ≤ d.size) : Inv qs d.size ⟨d, qs.map Handler.start⟩ where
  size_eq := rfl
  pos_le := hd
  length_eq := List.length_map _
  serves i q h hq hh := by
    rw [List.getElem?_map, hq, Option.map_some, Option.some.injEq] at hh
    exact hh ▸ .init q

/-- Any handler's step keeps the invariant. -/
theorem Inv.step {s : Sys} (hs : Inv qs size s) (i : ℕ) : Inv qs size (Sys.step k ret s i) := by
  unfold Sys.step
  split
  · rename_i h hi
    obtain ⟨hsize, hpos⟩ := @Handler.size_pos_step k ret s.dev h hs.pos_le
    refine ⟨hsize.trans hs.size_eq, hsize ▸ hpos, by simp [hs.length_eq], ?_⟩
    intro j q h' hq hh
    by_cases hji : j = i
    · -- the handler that stepped: it went on from where it was
      subst hji
      have hlt : j < s.handlers.length := (List.getElem?_eq_some_iff.mp hi).1
      rw [List.getElem?_set_self hlt, Option.some.injEq] at hh
      exact hh ▸ (hs.serves j q h hq hi).step
    · rw [List.getElem?_set_ne (Ne.symm hji)] at hh
      exact hs.serves j q h' hq hh
  · exact hs

theorem Inv.run {s : Sys} (hs : Inv qs size s) (sched : List ℕ) :
    Inv qs size (Sys.run k ret s sched) := by
  induction sched generalizing s with
  | nil => exact hs
  | cons i sched ih => exact ih (hs.step i)

/-- **What holds under every schedule**: from a device whose offset is inside it, however the
handlers of `qs` interleave, the device keeps its size and its offset stays inside it, and every
handler is where a handler of its request can be: a read that returned success returned `len`
and filled its `resp_payload`. -/
theorem schedule_inv {d : BlkDevice} (hd : d.pos ≤ d.size) (k : Kernel) (ret : ℤ)
    (qs : List Request) (sched : List ℕ) :
    Inv qs d.size (run k ret ⟨d, qs.map Handler.start⟩ sched) :=
  (Inv.init hd).run sched

/-- The invariant after a write's seek and a read's, from the device of two sectors of zeroes. -/
theorem schedule_inv_seeks :
    zeroDevice.pos ≤ zeroDevice.size ∧
      Inv [(⟨.kWrite, 1, 1, 0⟩, [7], 0), (⟨.kRead, 1, 0, 0⟩, [], 4096)] zeroDevice.size
        (run (fun _ _ => .ok 0) 0 ⟨zeroDevice,
          [(⟨.kWrite, 1, 1, 0⟩, [7], 0), (⟨.kRead, 1, 0, 0⟩, [], 4096)].map Handler.start⟩
          [0, 1]) :=
  ⟨by decide, schedule_inv (by decide) _ 0 _ [0, 1]⟩

end Inv

/-! ## The race on the file offset -/

section Race

variable {k : Kernel} {ret : ℤ}

/-- **Two writes whose seeks come first**: both succeed, and their payloads land one after the
other at the offset of the second seek. -/
theorem race_two_writes (hk : k.NoErrors) (d : BlkDevice) {q₁ q₂ : Request}
    (hw₁ : q₁.1.op = .kWrite) (hw₂ : q₂.1.op = .kWrite)
    (h₁ : sectorOffset q₁.1.startSector ≤ d.size)
    (h₂ : sectorOffset q₂.1.startSector + q₁.2.1.length + q₂.2.1.length ≤ d.size) :
    ∃ j₁ j₂, run k ret ⟨d, [Handler.start q₁, Handler.start q₂]⟩
        (0 :: 1 :: (List.replicate j₁ 0 ++ List.replicate j₂ 1)) =
      ⟨({ d with pos := sectorOffset q₂.1.startSector } : BlkDevice).put (q₁.2.1 ++ q₂.2.1),
        [.done (.ok (toInt32 (sectorBytes q₁.1.numSectors))) [],
          .done (.ok (toInt32 (sectorBytes q₂.1.numSectors))) []]⟩ := by
  obtain ⟨⟨op₁, n₁, s₁, a₁⟩, p₁, r₁⟩ := q₁
  obtain ⟨⟨op₂, n₂, s₂, a₂⟩, p₂, r₂⟩ := q₂
  dsimp only at hw₁ hw₂ h₁ h₂ ⊢
  subst hw₁ hw₂
  -- both seeks: the offset is the second one's
  have hseek₁ := BlkDevice.seek_eq_ok (d := d) h₁
  have hseek₂ : ({ d with pos := sectorOffset s₁ } : BlkDevice).seek (sectorOffset s₂) =
      .ok { d with pos := sectorOffset s₂ } :=
    BlkDevice.seek_eq_ok (by dsimp only; omega)
  set d₂ : BlkDevice := { d with pos := sectorOffset s₂ } with hd₂
  have hseeks : run k ret ⟨d, [Handler.start (⟨.kWrite, n₁, s₁, a₁⟩, p₁, r₁),
      Handler.start (⟨.kWrite, n₂, s₂, a₂⟩, p₂, r₂)]⟩ [0, 1] =
      ⟨d₂, [.writing (sectorBytes n₁) p₁ 0, .writing (sectorBytes n₂) p₂ 0]⟩ := by
    simp [run, step, Handler.start, Handler.step, hseek₁, hseek₂, d₂]
  -- the first write runs alone from the second seek's offset
  obtain ⟨j₁, hj₁⟩ := Handler.writing_alone k ret (sectorBytes n₁) p₁ 0 d₂
  have hw₁ : writeFullLoop (BlkDevice.write k) p₁ 0 d₂ = (.ok (), d₂.put p₁) :=
    BlkDevice.writeFull_of_noErrors hk (by simp only [d₂]; omega)
  simp only [hw₁, Handler.finish_ok] at hj₁
  have hrun₁ := @run_replicate k ret
    ⟨d₂, [.writing (sectorBytes n₁) p₁ 0, .writing (sectorBytes n₂) p₂ 0]⟩ 0 _ rfl j₁
  rw [hj₁] at hrun₁
  -- then the second, from where the first left the offset
  obtain ⟨j₂, hj₂⟩ := Handler.writing_alone k ret (sectorBytes n₂) p₂ 0 (d₂.put p₁)
  have hw₂ : writeFullLoop (BlkDevice.write k) p₂ 0 (d₂.put p₁) = (.ok (), (d₂.put p₁).put p₂) :=
    BlkDevice.writeFull_of_noErrors hk (by simp only [BlkDevice.put, d₂]; omega)
  simp only [hw₂, Handler.finish_ok] at hj₂
  have hrun₂ := @run_replicate k ret
    ⟨d₂.put p₁, [.done (.ok (toInt32 (sectorBytes n₁))) [], .writing (sectorBytes n₂) p₂ 0]⟩ 1 _
    rfl j₂
  rw [hj₂] at hrun₂
  refine ⟨j₁, j₂, ?_⟩
  rw [show 0 :: 1 :: (List.replicate j₁ 0 ++ List.replicate j₂ 1) =
      [0, 1] ++ List.replicate j₁ 0 ++ List.replicate j₂ 1 from rfl, run_append, run_append,
    hseeks, hrun₁]
  simp only [List.set_cons_zero] at hrun₂ ⊢
  rw [hrun₂, BlkDevice.put_append]
  rfl

/-- **`HandleStorageOp` is not atomic**: for two whole-sector writes of different data to
different sectors, with a kernel that does not fail, there is a schedule under which both
handlers return success, and the device ends with bytes that neither order of the two requests
leaves: the first write's payload is in the second write's sector. -/
theorem race_not_serial (hk : k.NoErrors) (d : BlkDevice) {q₁ q₂ : Request}
    (hw₁ : q₁.1.op = .kWrite) (hw₂ : q₂.1.op = .kWrite)
    (hlen₁ : q₁.2.1.length = kBlockSizeBytes) (hlen₂ : q₂.2.1.length = kBlockSizeBytes)
    (hs : q₁.1.startSector ≠ q₂.1.startSector) (hp : q₁.2.1 ≠ q₂.2.1)
    (h₁ : (q₁.1.startSector + 1) * kBlockSizeBytes ≤ d.size)
    (h₂ : (q₂.1.startSector + 2) * kBlockSizeBytes ≤ d.size) :
    ∃ sched, (run k ret ⟨d, [Handler.start q₁, Handler.start q₂]⟩ sched).handlers =
        [.done (.ok (toInt32 (sectorBytes q₁.1.numSectors))) [],
          .done (.ok (toInt32 (sectorBytes q₂.1.numSectors))) []] ∧
      (run k ret ⟨d, [Handler.start q₁, Handler.start q₂]⟩ sched).dev.toMem ≠
        (BlkServer.run k ret d [q₁, q₂]).2.toMem ∧
      (run k ret ⟨d, [Handler.start q₁, Handler.start q₂]⟩ sched).dev.toMem ≠
        (BlkServer.run k ret d [q₂, q₁]).2.toMem := by
  obtain ⟨⟨op₁, n₁, s₁, a₁⟩, p₁, r₁⟩ := q₁
  obtain ⟨⟨op₂, n₂, s₂, a₂⟩, p₂, r₂⟩ := q₂
  dsimp only at hw₁ hw₂ hlen₁ hlen₂ hs hp h₁ h₂ ⊢
  subst hw₁ hw₂
  have hlt := d.size_lt
  -- the sectors lie inside the device, so their offsets are their first bytes
  have ho₁ : sectorOffset s₁ = s₁ * kBlockSizeBytes :=
    MemServer.blockOffset_eq (by simp only [kBlockSizeBytes] at h₁ ⊢; omega)
  have ho₂ : sectorOffset s₂ = s₂ * kBlockSizeBytes :=
    MemServer.blockOffset_eq (by simp only [kBlockSizeBytes] at h₂ ⊢; omega)
  have hdisj : sectorOffset s₂ + kBlockSizeBytes ≤ sectorOffset s₁ ∨
      sectorOffset s₁ + kBlockSizeBytes ≤ sectorOffset s₂ := by
    rw [ho₁, ho₂]
    exact sectors_apart hs
  have hin₁ : sectorOffset s₁ + p₁.length ≤ d.size := by
    rw [ho₁, hlen₁, ← Nat.succ_mul]; exact h₁
  have hin₂ : sectorOffset s₂ + p₂.length ≤ d.size := by
    rw [ho₂, hlen₂]; simp only [kBlockSizeBytes] at h₂ ⊢; omega
  have hboth : sectorOffset s₂ + p₁.length + p₂.length ≤ d.size := by
    rw [ho₂, hlen₁, hlen₂]; simp only [kBlockSizeBytes] at h₂ ⊢; omega
  obtain ⟨j₁, j₂, hrace⟩ := @race_two_writes k ret hk d (⟨.kWrite, n₁, s₁, a₁⟩, p₁, r₁)
    (⟨.kWrite, n₂, s₂, a₂⟩, p₂, r₂) rfl rfl (Nat.le_trans (Nat.le_add_right _ _) hin₁) hboth
  refine ⟨_, by rw [hrace], ?_⟩
  rw [hrace]
  -- after the race, the second sector holds the first payload
  have hraced : Messages.bytesAt (MemServer.copyIn d.data (sectorOffset s₂) (p₁ ++ p₂))
      (sectorOffset s₂) kBlockSizeBytes = p₁ := by
    have hle : p₁.length ≤ (p₁ ++ p₂).length := by simp
    rw [← hlen₁, ← take_bytesAt hle, bytesAt_copyIn, List.take_left' rfl]
  -- in either order, it holds the second payload
  have hserial : ∀ M : MemServer, Messages.bytesAt M.buf (sectorOffset s₂) kBlockSizeBytes = p₂ →
      (BlkDevice.put { d with pos := sectorOffset s₂ } (p₁ ++ p₂)).toMem ≠ M := by
    intro M hM heq
    rw [← heq, BlkDevice.toMem_put] at hM
    exact hp (hraced.symm.trans hM)
  refine ⟨hserial _ ?_, hserial _ ?_⟩
  · -- the first request, then the second: the second payload is written last
    have hrun₁ : (handleStorageOp k ret d ⟨.kWrite, n₁, s₁, a₁⟩ p₁ r₁).2.1.toMem =
        ⟨MemServer.copyIn d.data (sectorOffset s₁) p₁, d.size⟩ :=
      toMem_handleStorageOp_write hk ret r₁ rfl hin₁
    have hsz : (handleStorageOp k ret d ⟨.kWrite, n₁, s₁, a₁⟩ p₁ r₁).2.1.size = d.size :=
      congrArg MemServer.size hrun₁
    simp only [BlkServer.run]
    rw [toMem_handleStorageOp_write hk ret r₂ rfl (by rw [hsz]; exact hin₂), ← hlen₂]
    exact bytesAt_copyIn _ _ _
  · -- the second request, then the first: the first payload lands in another sector
    have hrun₂ : (handleStorageOp k ret d ⟨.kWrite, n₂, s₂, a₂⟩ p₂ r₂).2.1.toMem =
        ⟨MemServer.copyIn d.data (sectorOffset s₂) p₂, d.size⟩ :=
      toMem_handleStorageOp_write hk ret r₂ rfl hin₂
    have hsz : (handleStorageOp k ret d ⟨.kWrite, n₂, s₂, a₂⟩ p₂ r₂).2.1.size = d.size :=
      congrArg MemServer.size hrun₂
    have hdata : (handleStorageOp k ret d ⟨.kWrite, n₂, s₂, a₂⟩ p₂ r₂).2.1.data =
        MemServer.copyIn d.data (sectorOffset s₂) p₂ :=
      congrArg MemServer.buf hrun₂
    simp only [BlkServer.run]
    rw [toMem_handleStorageOp_write hk ret r₁ rfl (by rw [hsz]; exact hin₁)]
    dsimp only
    rw [bytesAt_copyIn_of_disjoint (by rw [hlen₁]; exact hdisj), hdata, ← hlen₂]
    exact bytesAt_copyIn _ _ _

/-- Two writes of one sector each on the device of two sectors of zeroes: the second sector's
seek comes between the first's seek and its write. -/
theorem race_not_serial_zeroDevice :
    ∃ sched, (run (fun _ _ => .ok 0) 0 ⟨zeroDevice,
        [Handler.start (⟨.kWrite, 1, 1, 0⟩, List.replicate 4096 1, 0),
          Handler.start (⟨.kWrite, 1, 0, 0⟩, List.replicate 4096 2, 0)]⟩ sched).handlers =
        [.done (.ok (toInt32 (sectorBytes 1))) [], .done (.ok (toInt32 (sectorBytes 1))) []] ∧
      (run (fun _ _ => .ok 0) 0 ⟨zeroDevice,
        [Handler.start (⟨.kWrite, 1, 1, 0⟩, List.replicate 4096 1, 0),
          Handler.start (⟨.kWrite, 1, 0, 0⟩, List.replicate 4096 2, 0)]⟩ sched).dev.toMem ≠
        (BlkServer.run (fun _ _ => .ok 0) 0 zeroDevice
          [(⟨.kWrite, 1, 1, 0⟩, List.replicate 4096 1, 0),
            (⟨.kWrite, 1, 0, 0⟩, List.replicate 4096 2, 0)]).2.toMem ∧
      (run (fun _ _ => .ok 0) 0 ⟨zeroDevice,
        [Handler.start (⟨.kWrite, 1, 1, 0⟩, List.replicate 4096 1, 0),
          Handler.start (⟨.kWrite, 1, 0, 0⟩, List.replicate 4096 2, 0)]⟩ sched).dev.toMem ≠
        (BlkServer.run (fun _ _ => .ok 0) 0 zeroDevice
          [(⟨.kWrite, 1, 0, 0⟩, List.replicate 4096 2, 0),
            (⟨.kWrite, 1, 1, 0⟩, List.replicate 4096 1, 0)]).2.toMem :=
  race_not_serial (fun _ _ _ h => by cases h) zeroDevice rfl rfl (List.length_replicate ..)
    (List.length_replicate ..) (by decide) (by decide) (by decide) (by decide)

end Race

end Sys

end Sandook.System
