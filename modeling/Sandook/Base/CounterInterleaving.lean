import Sandook.Base.Counter

/-!
# `get_sum` interleaved with the other cores (`base/counter.cc`)

The loop of `get_sum` reads the counts of the cores one after the other, with no lock, while the
other cores go on calling `inc_local` and `dec_local`. Here the monitor thread's `get_sum` and
`get_sum_and_reset` are cut at each load of a count, and the calls of the cores may come between
any two of its steps.

* `inc_local` and `dec_local` are one step each: they run with preemption off on their core, and
  the monitor's load of an aligned `int64_t` count sees the count before or after them.
* One thread calls `get_sum` and `get_sum_and_reset` (the loop of the disk monitor); their last
  lines, `return sum + delta_` and `delta_ += -sum`, are one step, since no other thread writes
  `delta_`.
* A step that is not enabled (a load outside the loop) and one with undefined behaviour are both
  `none`.

Results:
* `Shared.step_conserves`, `Shared.run_conserves`: no update is lost or counted twice; along
  every run, the value of the counter and the sums `get_sum_and_reset` returned add up to the
  value at the start and the deltas of the calls of the cores.
* `Shared.getSum_between`: when the cores only add during a `get_sum`, the sum it returns lies
  between the value when it started and the value when it returned, though it need not be a
  value the counter held.
* `Shared.run_monitorAlone`: with nothing between its steps, the monitor's call is the
  `get_sum` or `get_sum_and_reset` of `Counter`.
-/

namespace Sandook

namespace ThreadSafeCounter

open Finset

/-- Where the monitor thread is: outside `get_sum`, or in its loop with the cores
`0, …, k - 1` read into `sum`. -/
inductive Monitor where
  | idle
  | loop (k : ℕ) (sum : ℤ)
  deriving DecidableEq, Repr

/-- The counter and the monitor thread. -/
structure Shared where
  counter : ThreadSafeCounter
  monitor : Monitor

/-- A step of one thread. -/
inductive Event where
  /-- `inc_local(delta)` on core `cpu`. -/
  | incLocal (cpu : ℕ) (delta : ℤ)
  /-- `dec_local(delta)` on core `cpu`. -/
  | decLocal (cpu : ℕ) (delta : ℤ)
  /-- The monitor enters `get_sum`: `int64_t sum = 0;`. -/
  | enter
  /-- The monitor's `sum += cnt.c` for the next core. -/
  | load
  /-- The monitor's `return sum + delta_;`, and with `reset` the `delta_ += -sum;` of
  `get_sum_and_reset`. -/
  | leave (reset : Bool)
  deriving DecidableEq, Repr

/-- The event's core, for `inc_local` and `dec_local`, is one of `0, …, ncpu - 1`. -/
def Event.OnCores (ncpu : ℕ) : Event → Prop
  | .incLocal cpu _ | .decLocal cpu _ => cpu < ncpu
  | .enter | .load | .leave _ => True

/-- One step: what it returns (`leave` returns the sum), and the state after it. -/
def Shared.step (ncpu : ℕ) (s : Shared) : Event → Option (Option ℤ × Shared)
  | .incLocal cpu delta =>
    (s.counter.incLocal cpu delta).map fun c => (none, { s with counter := c })
  | .decLocal cpu delta =>
    (s.counter.decLocal cpu delta).map fun c => (none, { s with counter := c })
  | .enter =>
    match s.monitor with
    | .idle => some (none, { s with monitor := .loop 0 0 })
    | .loop _ _ => none
  | .load =>
    match s.monitor with
    | .loop k sum =>
      if k < ncpu then
        (s.counter.addCount sum k).map fun sum => (none, { s with monitor := .loop (k + 1) sum })
      else none
    | .idle => none
  | .leave reset =>
    match s.monitor with
    | .loop k sum =>
      if k = ncpu then
        (s.counter.addDelta sum).bind fun out =>
          if reset then (s.counter.takeSum out).map fun c => (some out, ⟨c, .idle⟩)
          else some (some out, { s with monitor := .idle })
      else none
    | .idle => none

/-- The steps one after the other: what each returned, and the state after the last. -/
def Shared.run (ncpu : ℕ) : Shared → List Event → Option (List (Option ℤ) × Shared)
  | s, [] => some ([], s)
  | s, e :: es =>
    (s.step ncpu e).bind fun r => (Shared.run ncpu r.2 es).map fun q => (r.1 :: q.1, q.2)

/-! ## What a step can do -/

section Steps

variable {ncpu : ℕ} {s s' : Shared} {out : Option ℤ}

/-- A call of a core, `inc_local` or `dec_local` (a step `r.map ...`), changes the counter as
the call does, leaves the monitor where it was and returns nothing. -/
theorem Shared.step_call {r : Option ThreadSafeCounter}
    (h : r.map (fun c => (none, { s with counter := c })) = some (out, s')) :
    r = some s'.counter ∧ s'.monitor = s.monitor ∧ out = none := by
  obtain ⟨c, hc, h⟩ := Option.map_eq_some_iff.mp h
  obtain ⟨rfl, rfl⟩ := Prod.mk.inj h
  exact ⟨hc, rfl, rfl⟩

theorem Shared.step_enter (h : s.step ncpu .enter = some (out, s')) :
    s.monitor = .idle ∧ out = none ∧ s' = { s with monitor := .loop 0 0 } := by
  cases hm : s.monitor <;> simp only [Shared.step, hm, reduceCtorEq, Option.some.injEq] at h
  obtain ⟨rfl, rfl⟩ := Prod.mk.inj h
  exact ⟨rfl, rfl, rfl⟩

theorem Shared.step_load (h : s.step ncpu .load = some (out, s')) :
    ∃ k sum sum', s.monitor = .loop k sum ∧ k < ncpu ∧ s.counter.addCount sum k = some sum' ∧
      out = none ∧ s' = { s with monitor := .loop (k + 1) sum' } := by
  cases hm : s.monitor with
  | idle => simp [Shared.step, hm] at h
  | loop k sum =>
    simp only [Shared.step, hm] at h
    split_ifs at h with hk
    obtain ⟨sum', hsum', h⟩ := Option.map_eq_some_iff.mp h
    obtain ⟨rfl, rfl⟩ := Prod.mk.inj h
    exact ⟨k, sum, sum', rfl, hk, hsum', rfl, rfl⟩

/-- `leave` ends the loop after the last core: it returns `sum + delta_`, and with `reset`
takes that off `delta_`, without `reset` changes nothing. -/
theorem Shared.step_leave {reset : Bool} (h : s.step ncpu (.leave reset) = some (out, s')) :
    ∃ sum o, s.monitor = .loop ncpu sum ∧ s.counter.addDelta sum = some o ∧ out = some o ∧
      s'.monitor = .idle ∧ (reset = true → s.counter.takeSum o = some s'.counter) ∧
      (reset = false → s'.counter = s.counter) := by
  cases hm : s.monitor with
  | idle => simp [Shared.step, hm] at h
  | loop k sum =>
    by_cases hk : k = ncpu
    · subst hk
      simp only [Shared.step, hm] at h
      obtain ⟨o, ho, h⟩ := Option.bind_eq_some_iff.mp h
      refine ⟨sum, o, rfl, ho, ?_⟩
      cases reset with
      | false =>
        simp only [Bool.false_eq_true, ↓reduceIte, Option.some.injEq] at h
        obtain ⟨rfl, rfl⟩ := Prod.mk.inj h
        exact ⟨rfl, rfl, nofun, fun _ => rfl⟩
      | true =>
        simp only [↓reduceIte] at h
        obtain ⟨c, hc, h⟩ := Option.map_eq_some_iff.mp h
        obtain ⟨rfl, rfl⟩ := Prod.mk.inj h
        exact ⟨rfl, rfl, fun _ => hc, nofun⟩
    · simp [Shared.step, hm, hk] at h

theorem Shared.run_cons_some {e : Event} {events : List Event} {outs : List (Option ℤ)}
    (h : s.run ncpu (e :: events) = some (outs, s')) :
    ∃ out s₁ outs', s.step ncpu e = some (out, s₁) ∧ s₁.run ncpu events = some (outs', s') ∧
      outs = out :: outs' := by
  obtain ⟨r, hr, h⟩ := Option.bind_eq_some_iff.mp h
  obtain ⟨q, hq, h⟩ := Option.map_eq_some_iff.mp h
  obtain ⟨rfl, rfl⟩ := Prod.mk.inj h
  exact ⟨r.1, r.2, q.1, hr, hq, rfl⟩

end Steps

/-! ## No update lost or counted twice -/

/-- What an event adds to the counter: the delta of `inc_local`, minus that of `dec_local`. -/
def Event.added : Event → ℤ
  | .incLocal _ delta => delta
  | .decLocal _ delta => -delta
  | .enter | .load | .leave _ => 0

/-- What an event took out of the counter: the sum `get_sum_and_reset` returned. -/
def Event.taken : Event → Option ℤ → ℤ
  | .leave true, some out => out
  | _, _ => 0

/-- The sums the events of a run took out, in all. -/
def taken (events : List Event) (outs : List (Option ℤ)) : ℤ :=
  ((events.zip outs).map fun p => p.1.taken p.2).sum

section Conserves

variable {ncpu : ℕ} {s s' : Shared} {e : Event} {out : Option ℤ}

theorem Shared.step_conserves (he : e.OnCores ncpu) (h : s.step ncpu e = some (out, s')) :
    value ncpu s'.counter + e.taken out = value ncpu s.counter + e.added := by
  cases e with
  | incLocal cpu delta | decLocal cpu delta =>
    obtain ⟨hc, -, rfl⟩ := Shared.step_call h
    simp only [Event.taken, Event.added, value_storeLocal he hc]
    ring
  | enter =>
    obtain ⟨-, rfl, rfl⟩ := Shared.step_enter h
    rfl
  | load =>
    obtain ⟨-, -, -, -, -, -, rfl, rfl⟩ := Shared.step_load h
    rfl
  | leave reset =>
    obtain ⟨sum, o, -, -, rfl, -, htake, hsame⟩ := Shared.step_leave h
    cases reset with
    | false =>
      -- `get_sum` changes nothing and takes nothing
      simp [hsame rfl, Event.taken, Event.added]
    | true =>
      -- `get_sum_and_reset` takes what it returns off `delta_`
      rw [takeSum_eq (htake rfl), Event.taken, Event.added, value, value]
      ring

/-- Along every run, the value of the counter and what `get_sum_and_reset` took out add up to
the value at the start and what the cores added: no update is lost or counted twice. -/
theorem Shared.run_conserves {events : List Event} {outs : List (Option ℤ)}
    (hev : ∀ e ∈ events, e.OnCores ncpu) (h : s.run ncpu events = some (outs, s')) :
    value ncpu s'.counter + taken events outs =
      value ncpu s.counter + (events.map Event.added).sum := by
  induction events generalizing s outs with
  | nil =>
    obtain ⟨rfl, rfl⟩ := Prod.mk.inj (Option.some.inj h)
    simp [taken]
  | cons e events ih =>
    obtain ⟨out, s₁, outs', hstep, hrun, rfl⟩ := Shared.run_cons_some h
    have h₁ := Shared.step_conserves (hev e List.mem_cons_self) hstep
    have h₂ := ih (fun x hx => hev x (List.mem_cons_of_mem e hx)) hrun
    simp only [taken, List.zip_cons_cons, List.map_cons, List.sum_cons] at h₂ ⊢
    linarith

/-- A `get_sum_and_reset` with both cores adding between its loads, then a `dec_local`. -/
theorem Shared.run_conserves_reset :
    ∃ outs s', Shared.run 2 ⟨init, .idle⟩ [.enter, .load, .incLocal 0 5, .incLocal 1 3, .load,
          .leave true, .decLocal 0 2] = some (outs, s') ∧
      value 2 s'.counter + taken [.enter, .load, .incLocal 0 5, .incLocal 1 3, .load,
          .leave true, .decLocal 0 2] outs =
        value 2 init + ([Event.enter, .load, .incLocal 0 5, .incLocal 1 3, .load, .leave true,
          .decLocal 0 2].map Event.added).sum := by
  obtain ⟨⟨outs, s'⟩, h⟩ : ∃ r, Shared.run 2 ⟨init, .idle⟩ [.enter, .load, .incLocal 0 5,
      .incLocal 1 3, .load, .leave true, .decLocal 0 2] = some r := ⟨_, rfl⟩
  exact ⟨outs, s', h, Shared.run_conserves (by simp [Event.OnCores]) h⟩

end Conserves

/-! ## What `get_sum` returns while the cores add -/

/-- A step that `Shared.getSum_between` lets come between the monitor's: its own load, or an
`inc_local` of a non-negative delta on one of the cores `0, …, ncpu - 1`. -/
def Event.LoadOrAdd (ncpu : ℕ) : Event → Prop
  | .load => True
  | .incLocal cpu delta => cpu < ncpu ∧ 0 ≤ delta
  | .decLocal _ _ | .enter | .leave _ => False

/-- While the monitor is in the loop of a `get_sum` started on the counter `c₀` and the cores
have only added since: no count has gone down, `delta_` is as it was, and the loop's sum lies
between the sums of the counts it read, as they were on `c₀` and as they are now. -/
structure Between (c₀ : ThreadSafeCounter) (s : Shared) : Prop where
  mono : ∀ i, c₀.cnts i ≤ s.counter.cnts i
  delta : s.counter.delta = c₀.delta
  loop : ∃ k sum, s.monitor = .loop k sum ∧
    ∑ i ∈ range k, c₀.cnts i ≤ sum ∧ sum ≤ ∑ i ∈ range k, s.counter.cnts i

section Between

variable {ncpu : ℕ} {c₀ : ThreadSafeCounter} {s s' : Shared} {e : Event} {out : Option ℤ}

/-- The monitor entering `get_sum` starts the loop with nothing read. -/
theorem Between.enter (h : s.step ncpu .enter = some (out, s')) : Between s.counter s' := by
  obtain ⟨-, -, rfl⟩ := Shared.step_enter h
  exact ⟨fun _ => le_rfl, rfl, 0, 0, rfl, by simp, by simp⟩

theorem Between.step (hb : Between c₀ s) (he : e.LoadOrAdd ncpu)
    (h : s.step ncpu e = some (out, s')) : Between c₀ s' := by
  obtain ⟨k, sum, hm, hlo, hhi⟩ := hb.loop
  cases e with
  | load =>
    -- the load adds the count of core `k` as it is now, at least what it was on `c₀`
    obtain ⟨k', sum', sum'', hm', -, hsum, -, rfl⟩ := Shared.step_load h
    obtain ⟨rfl, rfl⟩ : k = k' ∧ sum = sum' := by simpa [hm] using hm'
    refine ⟨hb.mono, hb.delta, k + 1, sum'', rfl, ?_, ?_⟩
    · rw [eq_of_int64 hsum, sum_range_succ]
      linarith [hb.mono k]
    · rw [eq_of_int64 hsum, sum_range_succ]
      linarith
  | incLocal cpu delta =>
    -- the counts only go up, so the sums of those read do too
    obtain ⟨hc, hmon, -⟩ := Shared.step_call h
    have hup : ∀ i, s.counter.cnts i ≤ s'.counter.cnts i := by
      intro i
      rw [storeLocal_eq hc]
      dsimp only
      rw [Function.update_apply]
      split_ifs with hi
      · subst hi
        linarith [he.2]
      · exact le_rfl
    refine ⟨fun i => (hb.mono i).trans (hup i), ?_, k, sum, hmon.trans hm, hlo, ?_⟩
    · rw [storeLocal_eq hc, ← hb.delta]
    · exact hhi.trans (sum_le_sum fun i _ => hup i)
  | decLocal => exact he.elim
  | enter => exact he.elim
  | leave => exact he.elim

theorem Between.run {events : List Event} {outs : List (Option ℤ)} (hb : Between c₀ s)
    (hev : ∀ e ∈ events, e.LoadOrAdd ncpu) (h : s.run ncpu events = some (outs, s')) :
    Between c₀ s' := by
  induction events generalizing s outs with
  | nil =>
    obtain ⟨rfl, rfl⟩ := Prod.mk.inj (Option.some.inj h)
    exact hb
  | cons e events ih =>
    obtain ⟨out, s₁, outs', hstep, hrun, -⟩ := Shared.run_cons_some h
    exact ih (hb.step (hev e List.mem_cons_self) hstep)
      (fun x hx => hev x (List.mem_cons_of_mem e hx)) hrun

/-- A `get_sum` or `get_sum_and_reset` during which the cores only add returns a sum between
the value of the counter when it started and the value when it returned. -/
theorem Shared.getSum_between {s₁ s₂ : Shared} {events : List Event}
    {outs : List (Option ℤ)} {reset : Bool} (hev : ∀ e ∈ events, e.LoadOrAdd ncpu)
    (h : s.run ncpu (.enter :: events) = some (outs, s₁))
    (hleave : s₁.step ncpu (.leave reset) = some (out, s₂)) :
    ∃ o, out = some o ∧ value ncpu s.counter ≤ o ∧ o ≤ value ncpu s₁.counter := by
  obtain ⟨_, s₀, _, henter, hrun, -⟩ := Shared.run_cons_some h
  have hb := (Between.enter henter).run hev hrun
  obtain ⟨sum, o, hm, ho, rfl, -⟩ := Shared.step_leave hleave
  obtain ⟨k, sum', hm', hlo, hhi⟩ := hb.loop
  obtain ⟨rfl, rfl⟩ : ncpu = k ∧ sum = sum' := by simpa [hm] using hm'
  refine ⟨o, rfl, ?_, ?_⟩
  · rw [eq_of_int64 ho, value, ← hb.delta]
    linarith
  · rw [eq_of_int64 ho, value]
    linarith

theorem Shared.getSum_between_adds :
    ∃ outs s₁ out s₂, Shared.run 2 ⟨init, .idle⟩
          [.enter, .load, .incLocal 0 5, .incLocal 1 3, .load] = some (outs, s₁) ∧
      s₁.step 2 (.leave false) = some (out, s₂) ∧
      ∃ o, out = some o ∧ value 2 init ≤ o ∧ o ≤ value 2 s₁.counter := by
  obtain ⟨⟨outs, s₁⟩, h⟩ : ∃ r, Shared.run 2 ⟨init, .idle⟩
      [.enter, .load, .incLocal 0 5, .incLocal 1 3, .load] = some r := ⟨_, rfl⟩
  obtain ⟨⟨out, s₂⟩, hleave⟩ : ∃ r, s₁.step 2 (.leave false) = some r := by
    obtain ⟨rfl, rfl⟩ := Prod.mk.inj (Option.some.inj h)
    exact ⟨_, rfl⟩
  exact ⟨outs, s₁, out, s₂, h, hleave,
    Shared.getSum_between (by simp [Event.LoadOrAdd]) h hleave⟩

/-- The sum need not be a value the counter held: the monitor reads core `0` at `0`, core `0`
adds `5` and core `1` adds `3`, and the monitor reads core `1` at `3`. The counter held `0`, `5`
and `8`, and `get_sum` returns `3`. -/
example : (Shared.run 2 ⟨init, .idle⟩
    [.enter, .load, .incLocal 0 5, .incLocal 1 3, .load, .leave false]).map Prod.fst =
      some [none, none, none, none, none, some 3] := by
  decide

end Between

/-! ## The monitor alone -/

/-- The monitor's steps for one `get_sum`, or with `reset` one `get_sum_and_reset`: it enters,
loads the count of each core, and leaves. -/
def monitorCall (ncpu : ℕ) (reset : Bool) : List Event :=
  .enter :: (List.replicate ncpu .load ++ [.leave reset])

section Alone

variable {ncpu : ℕ}

/-- The loads of the cores `k, …, k + m - 1`, with nothing between them, are the iterations of
the loop of `get_sum` over those cores. -/
theorem Shared.run_loads (c : ThreadSafeCounter) (rest : List Event) :
    ∀ (m k : ℕ) (sum : ℤ), k + m = ncpu →
      Shared.run ncpu ⟨c, .loop k sum⟩ (List.replicate m .load ++ rest) =
        ((List.range' k m).foldlM c.addCount sum).bind fun sum' =>
          (Shared.run ncpu ⟨c, .loop ncpu sum'⟩ rest).map fun q =>
            (List.replicate m none ++ q.1, q.2)
  | 0, k, sum, hk => by
    subst hk
    simp
  | m + 1, k, sum, hk => by
    have hlt : k < ncpu := by omega
    rw [List.replicate_succ, List.cons_append, Shared.run, List.range'_succ, List.foldlM_cons]
    simp only [Shared.step, hlt, if_true]
    cases hsum : c.addCount sum k with
    | none => simp
    | some sum' =>
      simp only [Option.map_some, Option.bind_some]
      rw [Shared.run_loads c rest m (k + 1) sum' (by omega)]
      simp [Option.map_bind, Function.comp_def, List.replicate_succ]

/-- With nothing between its steps, the monitor's call returns what `get_sum` or
`get_sum_and_reset` of `Counter` returns, and leaves the counter as it does. -/
theorem Shared.run_monitorAlone (c : ThreadSafeCounter) (reset : Bool) :
    Shared.run ncpu ⟨c, .idle⟩ (monitorCall ncpu reset) =
      (c.step ncpu (if reset then .getSumAndReset else .getSum)).map fun r =>
        (List.replicate (ncpu + 1) none ++ [r.1], ⟨r.2, .idle⟩) := by
  rw [monitorCall, Shared.run]
  simp only [Shared.step, Option.bind_some]
  rw [Shared.run_loads c _ ncpu 0 0 (Nat.zero_add ncpu), ← List.range_eq_range']
  change Option.map _ ((c.getSumLoop ncpu).bind _) = _
  cases hloop : c.getSumLoop ncpu with
  | none => cases reset <;> simp [ThreadSafeCounter.step, getSum, getSumAndReset, hloop]
  | some sum =>
    -- past the loop, the monitor's `leave` is the end of `get_sum` and of `get_sum_and_reset`
    cases hd : c.addDelta sum with
    | none =>
      cases reset <;>
        simp [ThreadSafeCounter.step, getSum, getSumAndReset, hloop, hd, Shared.run, Shared.step]
    | some o =>
      cases reset with
      | false =>
        simp [ThreadSafeCounter.step, getSum, hloop, hd, Shared.run, Shared.step,
          List.replicate_succ]
      | true =>
        cases ht : c.takeSum o <;>
          simp [ThreadSafeCounter.step, getSum, getSumAndReset, hloop, hd, ht, Shared.run,
            Shared.step, List.replicate_succ]

end Alone

end ThreadSafeCounter

end Sandook
