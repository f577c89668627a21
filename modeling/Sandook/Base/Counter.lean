import Mathlib.Algebra.BigOperators.Group.Finset.Piecewise
import Mathlib.Algebra.Order.BigOperators.Group.Finset
import Mathlib.Tactic.Linarith
import Mathlib.Tactic.Ring
import Sandook.Lib.Loops

/-!
# Per-core counters (`base/counter.{h,cc}`)

`ThreadSafeCounter` keeps one `int64_t` count per core (`cnts_`) and a correction `delta_`.
`inc_local` and `dec_local` change the count of the core the caller runs on, `get_sum` adds up
the counts of all cores and `delta_`, and `get_sum_and_reset` returns that sum and takes it
off `delta_`. The disk monitor and `VirtualDiskRemote` keep their statistics in such counters.

* `int64_t` arithmetic is exact on `ℤ` within `[-2^63, 2^63)`; signed overflow is undefined
  behaviour, `none` (`int64`).
* The core `p.get_cpu()` is an argument of `inc_local` and `dec_local`; `get_sum` reads the
  cores `0, …, ncpu - 1` (`ncpu` is `kMaxNumCores`), so the counts are a function `ℕ → ℤ`.
* The calls here run one after the other; `CounterInterleaving` lets the loop of `get_sum`
  interleave with the calls of the other cores.

Results:
* `getSum_eq`, `getSumAndReset_eq`: when they return, `get_sum` returns the counts and
  `delta_` added up, and `get_sum_and_reset` leaves `delta_` at minus the counts.
* `step_refines`, `run_refines`: a run of calls on the cores `0, …, ncpu - 1` that returns
  answers as one integer register (`Register`) does: `inc_local` and `dec_local` add and
  subtract, `get_sum` reads, and `get_sum_and_reset` reads and zeroes, whatever the core.
* `step_of_fits`, `run_of_fits`: a run returns when the counts, `delta_` and the deltas still to
  come leave room below `2^63` (`Fits`); `counter_refines_register` puts the two together, and
  `Fits.init` gives the room from the constructor for deltas below `2^62` in all.
-/

namespace Sandook

/-- An `int64_t` result: exact within `[-2^63, 2^63)`; signed overflow is undefined
behaviour. -/
def int64 (v : ℤ) : Option ℤ :=
  if -2 ^ 63 ≤ v ∧ v < 2 ^ 63 then some v else none

theorem eq_of_int64 {v w : ℤ} (h : int64 v = some w) : w = v := by
  unfold int64 at h
  split at h
  · exact (Option.some.inj h).symm
  · cases h

theorem int64_of_abs_lt {v : ℤ} (h : |v| < 2 ^ 63) : int64 v = some v := by
  obtain ⟨hlo, hhi⟩ := abs_lt.mp h
  exact if_pos ⟨hlo.le, hhi⟩

/-- `ThreadSafeCounter`: `cnts_[i].c` of core `i`, and `delta_`. -/
structure ThreadSafeCounter where
  cnts : ℕ → ℤ
  delta : ℤ

namespace ThreadSafeCounter

open Finset Sandook.Lib

/-- The constructor: every count and `delta_` at `0`. -/
def init : ThreadSafeCounter := ⟨fun _ => 0, 0⟩

/-- `cnts_[cpu].c` set to the value `v` its update computed, if `v` is an `int64_t`. -/
def storeLocal (c : ThreadSafeCounter) (cpu : ℕ) (v : ℤ) : Option ThreadSafeCounter :=
  (int64 v).map fun v => { c with cnts := Function.update c.cnts cpu v }

/-- `inc_local(delta)` on core `cpu`: `cnts_[cpu].c += delta`. -/
def incLocal (c : ThreadSafeCounter) (cpu : ℕ) (delta : ℤ) : Option ThreadSafeCounter :=
  c.storeLocal cpu (c.cnts cpu + delta)

/-- `dec_local(delta)` on core `cpu`: `cnts_[cpu].c -= delta`. -/
def decLocal (c : ThreadSafeCounter) (cpu : ℕ) (delta : ℤ) : Option ThreadSafeCounter :=
  c.storeLocal cpu (c.cnts cpu - delta)

/-- One iteration of the loop of `get_sum`: `sum += cnt.c` for core `i`. -/
def addCount (c : ThreadSafeCounter) (sum : ℤ) (i : ℕ) : Option ℤ :=
  int64 (sum + c.cnts i)

/-- The loop of `get_sum` over the cores `0, …, ncpu - 1`, from `sum = 0`. -/
def getSumLoop (ncpu : ℕ) (c : ThreadSafeCounter) : Option ℤ :=
  (List.range ncpu).foldlM c.addCount 0

/-- `return sum + delta_;` at the end of `get_sum`. -/
def addDelta (c : ThreadSafeCounter) (sum : ℤ) : Option ℤ :=
  int64 (sum + c.delta)

/-- `get_sum()`. -/
def getSum (ncpu : ℕ) (c : ThreadSafeCounter) : Option ℤ :=
  (c.getSumLoop ncpu).bind c.addDelta

/-- `delta_ += -sum;` of `get_sum_and_reset`: the negation, then the addition. -/
def takeSum (c : ThreadSafeCounter) (sum : ℤ) : Option ThreadSafeCounter :=
  (int64 (-sum)).bind fun neg =>
    (int64 (c.delta + neg)).map fun delta => { c with delta := delta }

/-- `get_sum_and_reset()`: the sum of `get_sum`, taken off `delta_` and returned. -/
def getSumAndReset (ncpu : ℕ) (c : ThreadSafeCounter) : Option (ℤ × ThreadSafeCounter) :=
  (c.getSum ncpu).bind fun sum => (c.takeSum sum).map fun c' => (sum, c')

/-! ## Runs of calls -/

/-- A call on the counter; `inc_local` and `dec_local` name the core they run on. -/
inductive Call where
  | incLocal (cpu : ℕ) (delta : ℤ)
  | decLocal (cpu : ℕ) (delta : ℤ)
  | getSum
  | getSumAndReset
  deriving DecidableEq, Repr

/-- The call runs on one of the cores `0, …, ncpu - 1`, as `p.get_cpu()` does. -/
def Call.OnCores (ncpu : ℕ) : Call → Prop
  | .incLocal cpu _ | .decLocal cpu _ => cpu < ncpu
  | .getSum | .getSumAndReset => True

instance (ncpu : ℕ) : DecidablePred (Call.OnCores ncpu)
  | .incLocal cpu _ => inferInstanceAs (Decidable (cpu < ncpu))
  | .decLocal cpu _ => inferInstanceAs (Decidable (cpu < ncpu))
  | .getSum => inferInstanceAs (Decidable True)
  | .getSumAndReset => inferInstanceAs (Decidable True)

/-- One call: what it returns, and the counter after it. -/
def step (ncpu : ℕ) (c : ThreadSafeCounter) : Call → Option (Option ℤ × ThreadSafeCounter)
  | .incLocal cpu delta => (c.incLocal cpu delta).map fun c' => (none, c')
  | .decLocal cpu delta => (c.decLocal cpu delta).map fun c' => (none, c')
  | .getSum => (c.getSum ncpu).map fun sum => (some sum, c)
  | .getSumAndReset => (c.getSumAndReset ncpu).map fun r => (some r.1, r.2)

/-- The calls one after the other: what each returned, and the counter after the last. -/
def run (ncpu : ℕ) :
    ThreadSafeCounter → List Call → Option (List (Option ℤ) × ThreadSafeCounter)
  | c, [] => some ([], c)
  | c, call :: calls =>
    (c.step ncpu call).bind fun r => (run ncpu r.2 calls).map fun q => (r.1 :: q.1, q.2)

/-! ## What the counter is for -/

/-- One integer register: `inc_local` and `dec_local` add and subtract, `get_sum` reads, and
`get_sum_and_reset` reads and zeroes, whatever the core. -/
def Register.step (a : ℤ) : Call → Option ℤ × ℤ
  | .incLocal _ delta => (none, a + delta)
  | .decLocal _ delta => (none, a - delta)
  | .getSum => (some a, a)
  | .getSumAndReset => (some a, 0)

/-- The register through the calls: what each read, and the register after the last. -/
def Register.run (a : ℤ) : List Call → List (Option ℤ) × ℤ
  | [] => ([], a)
  | call :: calls =>
    ((Register.step a call).1 :: (Register.run (Register.step a call).2 calls).1,
      (Register.run (Register.step a call).2 calls).2)

/-- What the counter holds: the counts of the cores `0, …, ncpu - 1` and `delta_`. -/
def value (ncpu : ℕ) (c : ThreadSafeCounter) : ℤ :=
  ∑ i ∈ range ncpu, c.cnts i + c.delta

/-! ## The calls, when they return -/

/-- The sum over the cores after one core's count is replaced. -/
theorem sum_update {n cpu : ℕ} (f : ℕ → ℤ) (h : cpu < n) (v : ℤ) :
    ∑ i ∈ range n, Function.update f cpu v i = ∑ i ∈ range n, f i - f cpu + v := by
  rw [sum_update_of_mem (mem_range.mpr h), sum_eq_add_sum_sdiff_singleton_of_mem (mem_range.mpr h)]
  ring

section Returns

variable {ncpu cpu : ℕ} {c c' : ThreadSafeCounter} {v sum : ℤ}

theorem storeLocal_eq (h : c.storeLocal cpu v = some c') :
    c' = { c with cnts := Function.update c.cnts cpu v } := by
  obtain ⟨w, hw, rfl⟩ := Option.map_eq_some_iff.mp h
  rw [eq_of_int64 hw]

theorem value_storeLocal (hcpu : cpu < ncpu) (h : c.storeLocal cpu v = some c') :
    value ncpu c' = value ncpu c - c.cnts cpu + v := by
  rw [storeLocal_eq h, value, value, sum_update c.cnts hcpu]
  ring

/-- The loop of `get_sum`, when it returns, has added up the counts of the cores. -/
theorem getSumLoop_eq (h : c.getSumLoop ncpu = some sum) : sum = ∑ i ∈ range ncpu, c.cnts i :=
  foldlM_range_invariant (fun k s => s = ∑ i ∈ range k, c.cnts i) c.addCount (by simp)
    (fun i _ x y hx hy => by rw [eq_of_int64 hy, hx, sum_range_succ]) h

theorem getSum_eq (h : c.getSum ncpu = some sum) : sum = value ncpu c := by
  obtain ⟨s, hs, h⟩ := Option.bind_eq_some_iff.mp h
  rw [eq_of_int64 h, getSumLoop_eq hs, value]

theorem takeSum_eq (h : c.takeSum sum = some c') : c' = { c with delta := c.delta - sum } := by
  obtain ⟨neg, hneg, h⟩ := Option.bind_eq_some_iff.mp h
  obtain ⟨d, hd, rfl⟩ := Option.map_eq_some_iff.mp h
  rw [eq_of_int64 hd, eq_of_int64 hneg, sub_eq_add_neg]

theorem getSumAndReset_eq (h : c.getSumAndReset ncpu = some (sum, c')) :
    sum = value ncpu c ∧ c' = { c with delta := -∑ i ∈ range ncpu, c.cnts i } := by
  obtain ⟨s, hs, h⟩ := Option.bind_eq_some_iff.mp h
  obtain ⟨d, hd, h⟩ := Option.map_eq_some_iff.mp h
  obtain ⟨rfl, rfl⟩ := Prod.mk.inj h
  refine ⟨getSum_eq hs, ?_⟩
  rw [takeSum_eq hd, getSum_eq hs, value, sub_add_cancel_right]

end Returns

/-! ## Refinement of the register -/

section Refinement

variable {ncpu : ℕ} {call : Call} {c c' : ThreadSafeCounter} {out : Option ℤ}

/-- One call that returns is one step of the register on the value. -/
theorem step_refines (hcall : call.OnCores ncpu) (h : c.step ncpu call = some (out, c')) :
    (out, value ncpu c') = Register.step (value ncpu c) call := by
  cases call with
  | incLocal cpu delta | decLocal cpu delta =>
    -- the store moves the value by the change of the core's count
    obtain ⟨d, hd, h⟩ := Option.map_eq_some_iff.mp h
    obtain ⟨rfl, rfl⟩ := Prod.mk.inj h
    rw [Register.step, value_storeLocal hcall hd]
    congr 1
    ring
  | getSum =>
    obtain ⟨s, hs, h⟩ := Option.map_eq_some_iff.mp h
    obtain ⟨rfl, rfl⟩ := Prod.mk.inj h
    rw [Register.step, getSum_eq hs]
  | getSumAndReset =>
    obtain ⟨r, hr, h⟩ := Option.map_eq_some_iff.mp h
    obtain ⟨rfl, rfl⟩ := Prod.mk.inj h
    obtain ⟨hsum, hc'⟩ := getSumAndReset_eq hr
    rw [Register.step, hsum, hc']
    congr 1
    exact add_neg_cancel _

/-- A run of calls on the cores `0, …, ncpu - 1` that returns answers as the register on the
value: each call returns what the register reads, and the counter ends on the register's
value. -/
theorem run_refines {calls : List Call} {outs : List (Option ℤ)}
    (hcalls : ∀ call ∈ calls, call.OnCores ncpu) (h : run ncpu c calls = some (outs, c')) :
    (outs, value ncpu c') = Register.run (value ncpu c) calls := by
  induction calls generalizing c outs with
  | nil =>
    obtain ⟨rfl, rfl⟩ := Prod.mk.inj (Option.some.inj h)
    rfl
  | cons call calls ih =>
    obtain ⟨r, hr, h⟩ := Option.bind_eq_some_iff.mp h
    obtain ⟨q, hq, h⟩ := Option.map_eq_some_iff.mp h
    obtain ⟨rfl, rfl⟩ := Prod.mk.inj h
    have hstep := step_refines (hcalls call List.mem_cons_self) hr
    have hrest := ih (fun x hx => hcalls x (List.mem_cons_of_mem call hx)) hq
    rw [Register.run, ← hstep]
    dsimp only
    rw [← hrest]

end Refinement

/-! ## Room for the arithmetic -/

/-- How far a call may move a count: its delta, in absolute value. -/
def Call.size : Call → ℤ
  | .incLocal _ delta | .decLocal _ delta => |delta|
  | .getSum | .getSumAndReset => 0

/-- How far the calls may move the counts, in all. -/
def budget (calls : List Call) : ℤ := (calls.map Call.size).sum

/-- Room below `2^63` for calls that may move the counts by `rest` in all: the counts in
absolute value and `rest` stay within `B`, so does `delta_`, and `2 * B` is below `2^63`. -/
structure Fits (ncpu : ℕ) (c : ThreadSafeCounter) (rest B : ℤ) : Prop where
  counts : ∑ i ∈ range ncpu, |c.cnts i| + rest ≤ B
  delta : |c.delta| ≤ B
  room : 2 * B < 2 ^ 63

theorem budget_nonneg (calls : List Call) : 0 ≤ budget calls := by
  refine List.sum_nonneg fun x hx => ?_
  obtain ⟨call, -, rfl⟩ := List.mem_map.mp hx
  cases call <;> simp [Call.size]

@[simp]
theorem budget_cons (call : Call) (calls : List Call) :
    budget (call :: calls) = call.size + budget calls := by
  simp [budget]

/-- The absolute values after one core's count is replaced. -/
theorem abs_update (f : ℕ → ℤ) (cpu : ℕ) (v : ℤ) :
    (fun i => |Function.update f cpu v i|) = Function.update (fun i => |f i|) cpu |v| :=
  funext fun i => Function.apply_update (fun _ => abs) f cpu v i

theorem init_fits {ncpu : ℕ} {rest : ℤ} (h0 : 0 ≤ rest) (h : 2 * rest < 2 ^ 63) :
    init.Fits ncpu rest rest :=
  ⟨by simp [init], by simpa [init] using h0, h⟩

section Room

variable {ncpu cpu : ℕ} {c : ThreadSafeCounter} {rest B : ℤ}

theorem Fits.lt (hf : c.Fits ncpu rest B) : B < 2 ^ 63 := by
  linarith [hf.delta, hf.room, abs_nonneg c.delta]

theorem Fits.abs_cnts_le (hf : c.Fits ncpu rest B) (hcpu : cpu < ncpu) :
    |c.cnts cpu| + rest ≤ B := by
  have h := single_le_sum (f := fun i => |c.cnts i|) (fun i _ => abs_nonneg _)
    (mem_range.mpr hcpu)
  linarith [hf.counts]

/-- Every partial sum of `get_sum`'s loop stays within the room. -/
theorem Fits.abs_sum_le (hf : c.Fits ncpu rest B) (hrest : 0 ≤ rest) {k : ℕ} (hk : k ≤ ncpu) :
    |∑ i ∈ range k, c.cnts i| ≤ B := by
  have h₁ := abs_sum_le_sum_abs c.cnts (range k)
  have h₂ := sum_le_sum_of_subset_of_nonneg (f := fun i => |c.cnts i|)
    (range_subset_range.mpr hk) (fun i _ _ => abs_nonneg _)
  linarith [hf.counts]

theorem Fits.abs_value_lt (hf : c.Fits ncpu rest B) (hrest : 0 ≤ rest) :
    |value ncpu c| < 2 ^ 63 := by
  have h₁ := abs_add_le (∑ i ∈ range ncpu, c.cnts i) c.delta
  have h₂ := hf.abs_sum_le hrest le_rfl
  rw [value]
  linarith [hf.delta, hf.room]

theorem Fits.getSumLoop_some (hf : c.Fits ncpu rest B) (hrest : 0 ≤ rest) :
    c.getSumLoop ncpu = some (∑ i ∈ range ncpu, c.cnts i) := by
  -- the loop's sum after core `i` is the sum of the counts `0, …, i`
  obtain ⟨s, hs, rfl⟩ := foldlM_range_total (fun k s => s = ∑ i ∈ range k, c.cnts i)
    c.addCount (n := ncpu) (b := 0) (by simp) fun i hi x hx => by
      subst hx
      refine ⟨_, int64_of_abs_lt ?_, (sum_range_succ c.cnts i).symm⟩
      rw [← sum_range_succ]
      exact (hf.abs_sum_le hrest hi).trans_lt hf.lt
  exact hs

theorem Fits.getSum_some (hf : c.Fits ncpu rest B) (hrest : 0 ≤ rest) :
    c.getSum ncpu = some (value ncpu c) := by
  rw [getSum, hf.getSumLoop_some hrest]
  exact int64_of_abs_lt (hf.abs_value_lt hrest)

theorem Fits.takeSum_some (hf : c.Fits ncpu rest B) (hrest : 0 ≤ rest) :
    c.takeSum (value ncpu c) = some { c with delta := -∑ i ∈ range ncpu, c.cnts i } := by
  have hneg : |-value ncpu c| < 2 ^ 63 := by
    rw [abs_neg]
    exact hf.abs_value_lt hrest
  have hdelta : c.delta + -value ncpu c = -∑ i ∈ range ncpu, c.cnts i := by
    rw [value]
    ring
  have hsum : |-∑ i ∈ range ncpu, c.cnts i| < 2 ^ 63 := by
    rw [abs_neg]
    exact (hf.abs_sum_le hrest le_rfl).trans_lt hf.lt
  rw [takeSum, int64_of_abs_lt hneg, Option.bind_some, hdelta, int64_of_abs_lt hsum]
  rfl

/-- A store of a value within the count and the call's delta keeps the room for the calls
after it. -/
theorem Fits.storeLocal_some {d v : ℤ} (hf : c.Fits ncpu (|d| + rest) B) (hrest : 0 ≤ rest)
    (hcpu : cpu < ncpu) (hv : |v| ≤ |c.cnts cpu| + |d|) :
    ∃ c', c.storeLocal cpu v = some c' ∧ c'.Fits ncpu rest B := by
  have hcnt := hf.abs_cnts_le hcpu
  have hv' : int64 v = some v := int64_of_abs_lt (by linarith [hf.lt, abs_nonneg d])
  refine ⟨{ c with cnts := Function.update c.cnts cpu v },
    by rw [storeLocal, hv', Option.map_some], ?_, hf.delta, hf.room⟩
  -- the counts move by `|v| - |c.cnts cpu| ≤ |d|`, which the calls' room gave up
  show ∑ i ∈ range ncpu, |Function.update c.cnts cpu v i| + rest ≤ B
  rw [abs_update, sum_update _ hcpu]
  linarith [hf.counts]

theorem Fits.reset (hf : c.Fits ncpu rest B) (hrest : 0 ≤ rest) :
    ({ c with delta := -∑ i ∈ range ncpu, c.cnts i } : ThreadSafeCounter).Fits ncpu rest B :=
  ⟨hf.counts, by rw [abs_neg]; exact hf.abs_sum_le hrest le_rfl, hf.room⟩

end Room

section Returns

variable {ncpu : ℕ} {call : Call} {calls : List Call} {c : ThreadSafeCounter} {rest B : ℤ}

/-- A call on a core `0, …, ncpu - 1` with room for its delta and `rest` returns, and leaves
room for `rest`. -/
theorem step_of_fits (hcall : call.OnCores ncpu) (hrest : 0 ≤ rest)
    (hf : c.Fits ncpu (call.size + rest) B) :
    ∃ out c', c.step ncpu call = some (out, c') ∧ c'.Fits ncpu rest B := by
  cases call with
  | incLocal cpu delta =>
    obtain ⟨c', hc', hf'⟩ := hf.storeLocal_some hrest hcall (abs_add_le _ _)
    exact ⟨none, c', by rw [step, incLocal, hc', Option.map_some], hf'⟩
  | decLocal cpu delta =>
    obtain ⟨c', hc', hf'⟩ := hf.storeLocal_some hrest hcall (abs_sub _ _)
    exact ⟨none, c', by rw [step, decLocal, hc', Option.map_some], hf'⟩
  | getSum =>
    have hf₀ : c.Fits ncpu rest B := by simpa only [Call.size, zero_add] using hf
    exact ⟨_, c, by rw [step, hf₀.getSum_some hrest, Option.map_some], hf₀⟩
  | getSumAndReset =>
    have hf₀ : c.Fits ncpu rest B := by simpa only [Call.size, zero_add] using hf
    refine ⟨some (value ncpu c), _, ?_, hf₀.reset hrest⟩
    rw [step, getSumAndReset, hf₀.getSum_some hrest, Option.bind_some,
      hf₀.takeSum_some hrest]
    rfl

/-- A run of calls on the cores `0, …, ncpu - 1` from a counter with room for their deltas
returns. -/
theorem run_of_fits (hcalls : ∀ call ∈ calls, call.OnCores ncpu)
    (hf : c.Fits ncpu (budget calls) B) : ∃ outs c', run ncpu c calls = some (outs, c') := by
  induction calls generalizing c with
  | nil => exact ⟨[], c, rfl⟩
  | cons call calls ih =>
    rw [budget_cons] at hf
    obtain ⟨out, c₁, h₁, hf₁⟩ :=
      step_of_fits (hcalls call List.mem_cons_self) (budget_nonneg calls) hf
    obtain ⟨outs, c', h⟩ := ih (fun x hx => hcalls x (List.mem_cons_of_mem call hx)) hf₁
    exact ⟨out :: outs, c', by rw [run, h₁, Option.bind_some, h, Option.map_some]⟩

/-- A run of calls on the cores `0, …, ncpu - 1` from a counter with room for their deltas
returns, and answers as the register on the value. -/
theorem counter_refines_register (hcalls : ∀ call ∈ calls, call.OnCores ncpu)
    (hf : c.Fits ncpu (budget calls) B) :
    ∃ outs c', run ncpu c calls = some (outs, c') ∧
      (outs, value ncpu c') = Register.run (value ncpu c) calls := by
  obtain ⟨outs, c', h⟩ := run_of_fits hcalls hf
  exact ⟨outs, c', h, run_refines hcalls h⟩

theorem counter_refines_register_two_cores :
    ∃ outs c', run 2 init [.incLocal 0 3, .incLocal 1 2, .getSumAndReset, .decLocal 1 1, .getSum] =
        some (outs, c') ∧
      (outs, value 2 c') = Register.run (value 2 init)
        [.incLocal 0 3, .incLocal 1 2, .getSumAndReset, .decLocal 1 1, .getSum] :=
  counter_refines_register (by decide) (init_fits (by decide) (by decide))

example : (run 2 init [.incLocal 0 3, .incLocal 1 2, .getSumAndReset, .decLocal 1 1, .getSum]).map
    Prod.fst = some [none, none, some 5, none, some (-1)] := by
  decide

end Returns

end ThreadSafeCounter

end Sandook
