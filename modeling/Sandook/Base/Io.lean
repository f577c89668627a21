import Sandook.Base.Types
import Sandook.Lib.Transfer

/-!
# Vectored full transfers (`base/io.cc`)

Model of `SumIOV`, `PullIOV`, `DoFull`, `WritevFull` and `ReadvFull`.

* An `iovec` is a base address and a `size_t` length (`IOVec`). The bytes a vector covers are
  the addresses of its buffers, buffer after buffer (`iovBytes`).
* `VectorIO::Readv` and `Writev` are oracles: the `k`-th call of one `DoFull`, counted from `0`,
  returns a `Status<size_t>` that may depend on the vector it is handed.
* The `while (true)` loop of `DoFull` runs on fuel; `none` is running out of it. Besides its
  `Status<void>`, `DoFull` returns the calls it made, each with the vector it handed and what
  the call returned.
* The copy of the vector into `vstack` or `vheap` leaves it as it is, and which of the two holds
  it is not modelled; `PullIOV` edits the copy in place, and the model returns the edited copy.
* `assert(n == 0)` at the end of `PullIOV` is compiled out (`NDEBUG`).

Results:
* `iovBytes_pullIOV`: `PullIOV(iov, n)` covers the bytes of `iov` after the first `n`, for `n`
  up to its length; it is empty exactly when `n` is at least that length (`pullIOV_eq_nil_iff`).
* `toNat_sumIOV`: `SumIOV` is the length modulo `2^64`.
* `doFull_transfer`: on a vector shorter than `2^64` bytes, with calls that each move a nonempty
  part of what they are handed and fuel for one iteration per byte, `DoFull` returns, and its
  calls, seen as bytes, are a `Sandook.Lib.Transfer` of the vector's bytes.
* `doFull_moves_each_byte_once`: so successive calls are handed consecutive suffixes of the
  bytes, success comes once all bytes are moved, and an error is that of the first call that
  fails, after which no call is made.
* `doFull_sumIOV_wraps`: on a vector of `2^64 + 1` bytes `SumIOV` is `1`, and `DoFull` reports
  success after one call that moved one byte.
-/

namespace Sandook

open Sandook.Lib

/-- `struct iovec`: a buffer's base address and its length in bytes. -/
structure IOVec where
  iovBase : ℕ
  iovLen : UInt64
  deriving DecidableEq, Repr

/-- The addresses a vector covers, buffer after buffer. -/
def iovBytes (iov : List IOVec) : List ℕ :=
  iov.flatMap fun e => List.range' e.iovBase e.iovLen.toNat

/-- The length of a vector in bytes, with no wrapping. -/
def ioTotal (iov : List IOVec) : ℕ := (iov.map fun e => e.iovLen.toNat).sum

/-- `SumIOV(iov)`: the lengths added up in `size_t`. -/
def sumIOV (iov : List IOVec) : UInt64 :=
  iov.foldl (fun len e => len + e.iovLen) 0

/-- `PullIOV(iov, n)`: the vector past its first `n` bytes, the buffer that holds byte `n`
advanced to it. -/
def pullIOV : List IOVec → UInt64 → List IOVec
  | [], _ => []
  | e :: es, n =>
    if n < e.iovLen then ⟨e.iovBase + n.toNat, e.iovLen - n⟩ :: es
    else pullIOV es (n - e.iovLen)

/-- `VectorIO`: what the `k`-th call of a `DoFull` to `Readv` or `Writev` returns. -/
structure VectorIO where
  readv : ℕ → List IOVec → Status UInt64
  writev : ℕ → List IOVec → Status UInt64

/-- A call `DoFull` made: the vector it handed and what the call returned. -/
abbrev IOCall := List IOVec × Status UInt64

/-- A call seen as bytes: the bytes it was handed and how many it moved. -/
def IOCall.view (c : IOCall) : List ℕ × Except ℕ ℕ := (iovBytes c.1, c.2.map UInt64.toNat)

/-- The `while (true)` loop of `DoFull`, from call `k`, after the call handed `s` moved `ret`
bytes. -/
def doFullLoop (func : ℕ → List IOVec → Status UInt64) :
    ℕ → ℕ → List IOVec → UInt64 → Option (Status Unit × List IOCall)
  | 0, _, _, _ => none
  | fuel + 1, k, s, ret =>
    let s := pullIOV s ret
    if s = [] then some (.ok (), [])
    else
      match func k s with
      | .error e => some (.error e, [(s, .error e)])
      | .ok r => (doFullLoop func fuel (k + 1) s r).map fun p => (p.1, (s, .ok r) :: p.2)

/-- `DoFull<func>(io, iov)`: one call on the whole vector, then the loop unless it moved all. -/
def doFull (func : ℕ → List IOVec → Status UInt64) (iov : List IOVec) (fuel : ℕ) :
    Option (Status Unit × List IOCall) :=
  match func 0 iov with
  | .error e => some (.error e, [(iov, .error e)])
  | .ok r =>
    if r = sumIOV iov then some (.ok (), [(iov, .ok r)])
    else (doFullLoop func fuel 1 iov r).map fun p => (p.1, (iov, .ok r) :: p.2)

/-- `WritevFull(io, iov)`. -/
def writevFull (io : VectorIO) (iov : List IOVec) (fuel : ℕ) :
    Option (Status Unit × List IOCall) :=
  doFull io.writev iov fuel

/-- `ReadvFull(io, iov)`. -/
def readvFull (io : VectorIO) (iov : List IOVec) (fuel : ℕ) :
    Option (Status Unit × List IOCall) :=
  doFull io.readv iov fuel

/-- Every successful call moves at least one byte and at most the bytes it is handed. -/
def MovesPart (func : ℕ → List IOVec → Status UInt64) : Prop :=
  ∀ k s r, func k s = .ok r → 0 < r.toNat ∧ r.toNat ≤ ioTotal s

/-! ## `SumIOV` and `PullIOV` -/

@[simp] theorem iovBytes_nil : iovBytes [] = [] := rfl

@[simp] theorem iovBytes_cons (e : IOVec) (es : List IOVec) :
    iovBytes (e :: es) = List.range' e.iovBase e.iovLen.toNat ++ iovBytes es := rfl

@[simp] theorem ioTotal_nil : ioTotal [] = 0 := rfl

@[simp] theorem ioTotal_cons (e : IOVec) (es : List IOVec) :
    ioTotal (e :: es) = e.iovLen.toNat + ioTotal es := by
  simp [ioTotal]

@[simp] theorem length_iovBytes (iov : List IOVec) : (iovBytes iov).length = ioTotal iov := by
  induction iov with
  | nil => rfl
  | cons e es ih => simp [ih]

theorem toNat_foldl_add (acc : UInt64) (iov : List IOVec) :
    (iov.foldl (fun len e => len + e.iovLen) acc).toNat = (acc.toNat + ioTotal iov) % 2 ^ 64 := by
  induction iov generalizing acc with
  | nil => simp [Nat.mod_eq_of_lt (UInt64.toNat_lt acc)]
  | cons e es ih =>
    rw [List.foldl_cons, ih, UInt64.toNat_add, Nat.mod_add_mod, ioTotal_cons, Nat.add_assoc]

theorem toNat_sumIOV (iov : List IOVec) : (sumIOV iov).toNat = ioTotal iov % 2 ^ 64 := by
  rw [sumIOV, toNat_foldl_add, UInt64.toNat_zero, Nat.zero_add]

theorem iovBytes_pullIOV :
    ∀ (s : List IOVec) (n : UInt64), n.toNat ≤ ioTotal s →
      iovBytes (pullIOV s n) = (iovBytes s).drop n.toNat
  | [], n, h => by
    have hn : n.toNat = 0 := by simpa using h
    simp [pullIOV, hn]
  | e :: es, n, h => by
    by_cases hlt : n < e.iovLen
    · -- the pull ends inside `e`, which is advanced by `n`
      have hlt' : n.toNat < e.iovLen.toNat := UInt64.lt_iff_toNat_lt.mp hlt
      rw [pullIOV, if_pos hlt, iovBytes_cons, iovBytes_cons,
        List.drop_append_of_le_length (by simpa using hlt'.le), List.drop_range',
        UInt64.toNat_sub_of_le _ _ (UInt64.le_iff_toNat_le.mpr hlt'.le), Nat.mul_one]
    · -- the pull skips all of `e`
      have hle : e.iovLen ≤ n := UInt64.not_lt.mp hlt
      have hsub : (n - e.iovLen).toNat = n.toNat - e.iovLen.toNat :=
        UInt64.toNat_sub_of_le _ _ hle
      have hle' : e.iovLen.toNat ≤ n.toNat := UInt64.le_iff_toNat_le.mp hle
      have hnil : (List.range' e.iovBase e.iovLen.toNat).drop n.toNat = [] :=
        List.drop_eq_nil_of_le (by simpa using hle')
      rw [pullIOV, if_neg hlt, iovBytes_pullIOV es _ (by simp at h; omega), hsub, iovBytes_cons,
        List.drop_append, hnil, List.nil_append, List.length_range']

theorem pullIOV_eq_nil_iff :
    ∀ (s : List IOVec) (n : UInt64), pullIOV s n = [] ↔ ioTotal s ≤ n.toNat
  | [], n => by simp [pullIOV]
  | e :: es, n => by
    by_cases hlt : n < e.iovLen
    · have hlt' : n.toNat < e.iovLen.toNat := UInt64.lt_iff_toNat_lt.mp hlt
      simp only [pullIOV, if_pos hlt, reduceCtorEq, false_iff, ioTotal_cons]
      omega
    · have hle : e.iovLen ≤ n := UInt64.not_lt.mp hlt
      have hsub : (n - e.iovLen).toNat = n.toNat - e.iovLen.toNat :=
        UInt64.toNat_sub_of_le _ _ hle
      have hle' : e.iovLen.toNat ≤ n.toNat := UInt64.le_iff_toNat_le.mp hle
      rw [pullIOV, if_neg hlt, pullIOV_eq_nil_iff es, hsub, ioTotal_cons]
      omega

/-- A pull that ends on a buffer boundary skips the zero-length buffers after it. -/
example : pullIOV [⟨0, 2⟩, ⟨8, 0⟩, ⟨16, 3⟩] 2 = [⟨16, 3⟩] := by decide

/-! ## `DoFull` transfers the vector's bytes -/

section DoFull

variable {func : ℕ → List IOVec → Status UInt64}

theorem doFullLoop_done {fuel k : ℕ} {s : List IOVec} {ret : UInt64} (h : pullIOV s ret = []) :
    doFullLoop func (fuel + 1) k s ret = some (.ok (), []) := by
  simp [doFullLoop, h]

/-- What is left of the vector after a pull, as bytes. -/
theorem iovBytes_pullIOV_of_lt {s : List IOVec} {ret : UInt64} (hret : ret.toNat < ioTotal s) :
    pullIOV s ret ≠ [] ∧ iovBytes (pullIOV s ret) = (iovBytes s).drop ret.toNat ∧
      ioTotal (pullIOV s ret) = ioTotal s - ret.toNat := by
  have hbytes := iovBytes_pullIOV s ret hret.le
  refine ⟨by rw [Ne, pullIOV_eq_nil_iff]; omega, hbytes, ?_⟩
  rw [← length_iovBytes, hbytes, List.length_drop, length_iovBytes]

/-- A call that moves all it is handed ends a transfer. -/
theorem transfer_of_moved_all {s : List IOVec} {r : UInt64} (h : r.toNat = ioTotal s) :
    Transfer (iovBytes s) ([(s, .ok r)].map IOCall.view) (.ok ()) := by
  have hdone := @Transfer.done ℕ ℕ (iovBytes s)
  rwa [length_iovBytes, ← h] at hdone

/-- **The loop transfers what is left.** The induction is on the fuel; each iteration that
calls moves at least one byte, so fuel beyond the bytes left is enough. -/
theorem doFullLoop_transfer (hfunc : MovesPart func) :
    ∀ (fuel k : ℕ) (s : List IOVec) (ret : UInt64), ret.toNat < ioTotal s →
      ioTotal s - ret.toNat < fuel →
      ∃ res calls, doFullLoop func fuel k s ret = some (res, calls) ∧
        Transfer ((iovBytes s).drop ret.toNat) (calls.map IOCall.view) res
  | 0, _, _, _, _, hfuel => absurd hfuel (Nat.not_lt_zero _)
  | fuel + 1, k, s, ret, hret, hfuel => by
    obtain ⟨hne, hbytes, htot⟩ := iovBytes_pullIOV_of_lt hret
    rw [← hbytes]
    simp only [doFullLoop, if_neg hne]
    cases hcall : func k (pullIOV s ret) with
    | error e => exact ⟨_, _, rfl, .fail _ e⟩
    | ok r =>
      dsimp only
      obtain ⟨hpos, hle⟩ := hfunc k _ r hcall
      rcases Nat.lt_or_eq_of_le hle with hlt | heq
      · -- a part: the loop goes on with what is left
        obtain ⟨res, calls, hloop, htr⟩ :=
          doFullLoop_transfer hfunc fuel (k + 1) (pullIOV s ret) r hlt (by omega)
        refine ⟨res, (pullIOV s ret, .ok r) :: calls, by rw [hloop]; rfl, ?_⟩
        exact .part hpos (by rwa [length_iovBytes]) htr
      · -- the rest: the next pull is empty
        obtain ⟨fuel', rfl⟩ : ∃ f, fuel = f + 1 := ⟨fuel - 1, by omega⟩
        have hdone := @doFullLoop_done func fuel' (k + 1) (pullIOV s ret) r
          ((pullIOV_eq_nil_iff (pullIOV s ret) r).mpr heq.ge)
        exact ⟨.ok (), [(pullIOV s ret, .ok r)], by rw [hdone]; rfl, transfer_of_moved_all heq⟩

/-- **`DoFull` refines `Transfer`**: on a vector shorter than `2^64` bytes, with calls that each
move a nonempty part of what they are handed, and fuel for as many iterations as bytes, `DoFull`
returns, and its calls, seen as bytes, transfer the vector's bytes. -/
theorem doFull_transfer (hfunc : MovesPart func) {iov : List IOVec} (htotal : ioTotal iov < 2 ^ 64)
    {fuel : ℕ} (hfuel : ioTotal iov ≤ fuel) :
    ∃ res calls, doFull func iov fuel = some (res, calls) ∧
      Transfer (iovBytes iov) (calls.map IOCall.view) res := by
  have hsum : (sumIOV iov).toNat = ioTotal iov := by rw [toNat_sumIOV, Nat.mod_eq_of_lt htotal]
  unfold doFull
  cases hcall : func 0 iov with
  | error e => exact ⟨_, _, rfl, .fail _ e⟩
  | ok r =>
    dsimp only
    obtain ⟨hpos, hle⟩ := hfunc 0 iov r hcall
    by_cases hr : r = sumIOV iov
    · -- the first call moved all
      rw [if_pos hr]
      exact ⟨_, _, rfl, transfer_of_moved_all (by rw [hr, hsum])⟩
    · rw [if_neg hr]
      have hlt : r.toNat < ioTotal iov :=
        lt_of_le_of_ne hle fun h => hr (UInt64.toNat_inj.mp (h.trans hsum.symm))
      obtain ⟨res, calls, hloop, htr⟩ := doFullLoop_transfer hfunc fuel 1 iov r hlt (by omega)
      exact ⟨res, (iov, .ok r) :: calls, by rw [hloop]; rfl,
        .part hpos (by rwa [length_iovBytes]) htr⟩

/-- **`DoFull` moves every byte once**: on a vector shorter than `2^64` bytes, with calls that
each move a nonempty part of what they are handed, `DoFull` returns; seen as bytes, each call is
handed the vector's bytes past those the calls before it moved, success means all of them were
moved, and an error is that of the last call, every call before which succeeded. -/
theorem doFull_moves_each_byte_once (hfunc : MovesPart func) {iov : List IOVec}
    (htotal : ioTotal iov < 2 ^ 64) {fuel : ℕ} (hfuel : ioTotal iov ≤ fuel) :
    ∃ res calls, doFull func iov fuel = some (res, calls) ∧
      (∀ i (hi : i < calls.length), iovBytes calls[i].1 =
        (iovBytes iov).drop (moved ((calls.take i).map IOCall.view)).length) ∧
      (res = .ok () → moved (calls.map IOCall.view) = iovBytes iov) ∧
      ∀ e, res = .error e ↔ ∃ pre v, calls.map IOCall.view = pre ++ [(v, .error e)] ∧
        ∀ c ∈ pre, ∃ r, c.2 = .ok r := by
  obtain ⟨res, calls, hrun, htr⟩ := doFull_transfer hfunc htotal hfuel
  refine ⟨res, calls, hrun, fun i hi => ?_, ?_, htr.error_iff⟩
  · have hhanded := htr.handed_eq_drop i (by simpa using hi)
    rwa [List.getElem_map, ← List.map_take] at hhanded
  · rintro rfl
    exact htr.moved_eq

end DoFull

/-! ## A length past `size_t` -/

/-- A vector of `2^64 + 1` bytes. -/
def wrapIOV : List IOVec := [⟨0, 18446744073709551615⟩, ⟨18446744073709551615, 2⟩]

/-- A device that moves one byte a call, and fails on an empty vector. -/
def oneByteDev (_ : ℕ) (s : List IOVec) : Status UInt64 :=
  if ioTotal s = 0 then .error EINVAL else .ok 1

theorem movesPart_oneByteDev : MovesPart oneByteDev := by
  intro k s r h
  unfold oneByteDev at h
  split at h
  · cases h
  · cases h
    exact ⟨by decide, by rw [UInt64.toNat_one]; omega⟩

/-- **`SumIOV` wraps**: on a vector of `2^64 + 1` bytes it is `1`, so a device that moves one
byte a call makes `DoFull` report success after the first call. -/
theorem doFull_sumIOV_wraps :
    MovesPart oneByteDev ∧ ioTotal wrapIOV = 2 ^ 64 + 1 ∧ sumIOV wrapIOV = 1 ∧
      ∀ fuel, doFull oneByteDev wrapIOV fuel = some (.ok (), [(wrapIOV, .ok 1)]) := by
  have htotal : ioTotal wrapIOV = 2 ^ 64 + 1 := by decide
  have hsum : sumIOV wrapIOV = 1 := by decide
  refine ⟨movesPart_oneByteDev, htotal, hsum, fun fuel => ?_⟩
  simp [doFull, oneByteDev, htotal, hsum]

/-- A vector of five bytes over three buffers, one of them empty, moved a byte a call. -/
theorem doFull_moves_each_byte_once_five :
    ∃ res calls, doFull oneByteDev [⟨0, 2⟩, ⟨8, 0⟩, ⟨16, 3⟩] 5 = some (res, calls) ∧
      (∀ i (hi : i < calls.length), iovBytes calls[i].1 =
        (iovBytes [⟨0, 2⟩, ⟨8, 0⟩, ⟨16, 3⟩]).drop
          (moved ((calls.take i).map IOCall.view)).length) ∧
      (res = .ok () → moved (calls.map IOCall.view) = iovBytes [⟨0, 2⟩, ⟨8, 0⟩, ⟨16, 3⟩]) ∧
      ∀ e, res = .error e ↔ ∃ pre v, calls.map IOCall.view = pre ++ [(v, .error e)] ∧
        ∀ c ∈ pre, ∃ r, c.2 = .ok r :=
  doFull_moves_each_byte_once movesPart_oneByteDev (by decide) (by decide)

end Sandook
