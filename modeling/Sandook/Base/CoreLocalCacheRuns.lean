import Sandook.Base.CoreLocalCache
import Sandook.Lib.Placement

/-!
# Runs of the per-core object cache (`base/core_local_cache.h`)

A client calls `get`, `put` and `reserve` on the cores `0, …, ncpu - 1` (`kMaxNumCores` is the
runtime's `NCPU`), one call at a time, and puts back only items it holds: items `get` handed
out that it has not put back since. `new_fn` keeps a log of what it has handed out (`log`) and
hands out only items not in it (`LoggedFresh`). A run (`Reachable`) carries, beside the cache,
what `new_fn` produced during the run, what was put back, what `get` handed out, and what the
client holds.

Results:
* `put_perm`, `put_length_le`: `put` pushes the item and moves items between the core's stack
  and the global stack only, and with a positive capacity it leaves the core's stack within it.
* `getFrom_bound`: `get` returns only when the capacity is positive, and it keeps every core's
  stack within the capacity.
* `RunInv`, `reachable_runInv`: along every run the stacks together with what `get` handed out
  are what `new_fn` produced and what was put back, no item is held twice by the cache and the
  client, and every core's stack is within the capacity.
* `coreLocalCache_conserves`: so an item `get` hands out was produced, before or during the
  call, or put back, and the client does not hold it already.
* `getFrom_twice_after_double_put`: without the restriction on puts, an item put twice is
  handed out twice with no put between, and with a capacity of `0` a put leaves more items on
  the core's stack than the capacity.
-/

namespace Sandook

namespace CoreLocalCache

open Sandook.Lib

variable {T σ : Type}

/-- The items the stacks of the cores `0, …, ncpu - 1` and the global stack hold. -/
def items (ncpu : ℕ) (c : CoreLocalCache T) : List T :=
  c.global ++ (List.range ncpu).flatMap c.locals

/-- Every core's stack holds at most the capacity. -/
def Bounded (c : CoreLocalCache T) : Prop := ∀ i, (c.locals i).length ≤ c.perCoreCapacity

/-- A step on core `cpu` that leaves the other cores' stacks changes the items as it changes
the core's stack and the global stack. -/
theorem items_perm_of_step {c c' : CoreLocalCache T} {cpu ncpu : ℕ} (hcpu : cpu < ncpu)
    (hother : ∀ i, i ≠ cpu → c'.locals i = c.locals i) {L L' : List T}
    (h : (c'.locals cpu ++ c'.global ++ L).Perm (c.locals cpu ++ c.global ++ L')) :
    (items ncpu c' ++ L).Perm (items ncpu c ++ L') := by
  classical
  have hc' : c'.locals = Function.update c.locals cpu (c'.locals cpu) := by
    funext i
    by_cases hi : i = cpu
    · subst hi
      rw [Function.update_self]
    · rw [Function.update_of_ne hi, hother i hi]
  have hupd := flatMap_range_update_perm c.locals (c'.locals cpu) hcpu
  rw [← hc'] at hupd
  rw [List.perm_iff_count] at h hupd ⊢
  intro a
  have h₁ := h a
  have h₂ := hupd a
  simp only [items, List.count_append] at h₁ h₂ ⊢
  omega

/-! ## `put` -/

/-- `put_slow_path`'s loop moves items from the core's stack to the global stack. -/
theorem spill_perm (keep : ℕ) :
    ∀ (l g : List T), ((spill keep l g).1 ++ (spill keep l g).2).Perm (l ++ g)
  | [], g => by simp [spill]
  | x :: xs, g => by
    unfold spill
    split_ifs
    · exact (spill_perm keep xs (x :: g)).trans List.perm_middle
    · exact List.Perm.refl _

/-- `put_slow_path`'s loop stops with at most `keep` items on the core's stack. -/
theorem spill_length_le (keep : ℕ) : ∀ (l g : List T), (spill keep l g).1.length ≤ keep
  | [], g => by simp [spill]
  | x :: xs, g => by
    unfold spill
    split_ifs with h
    · exact spill_length_le keep xs (x :: g)
    · exact Nat.le_of_not_lt h

theorem put_perm (c : CoreLocalCache T) (cpu : ℕ) (item : T) :
    ((c.put cpu item).locals cpu ++ (c.put cpu item).global).Perm
        (item :: (c.locals cpu ++ c.global)) ∧
      (∀ i, i ≠ cpu → (c.put cpu item).locals i = c.locals i) ∧
      (c.put cpu item).perCoreCapacity = c.perCoreCapacity := by
  unfold put
  dsimp only
  split_ifs
  · refine ⟨?_, fun i hi => by simp [hi], rfl⟩
    simpa using spill_perm (max (c.perCoreCapacity / 2) 1) (item :: c.locals cpu) c.global
  · exact ⟨by simp, fun i hi => by simp [hi], rfl⟩

/-- **After a `put`** the core's stack holds at most the capacity, if the capacity is positive. -/
theorem put_length_le (c : CoreLocalCache T) (cpu : ℕ) (item : T) (hcap : 0 < c.perCoreCapacity) :
    ((c.put cpu item).locals cpu).length ≤ c.perCoreCapacity := by
  unfold put
  dsimp only
  split_ifs with h
  · simp only [Function.update_self]
    exact (spill_length_le _ _ _).trans (Nat.max_le.mpr ⟨Nat.div_le_self _ _, hcap⟩)
  · simp only [Function.update_self]
    exact Nat.le_of_not_lt h

/-! ## `get` keeps the stacks within the capacity -/

theorem transfer_length_le {cap : ℕ} :
    ∀ {l g : List T}, l.length ≤ cap → (transfer cap l g).1.length ≤ cap
  | l, [], h => by simpa [transfer] using h
  | l, g :: gs, h => by
    unfold transfer
    split_ifs with hlt
    · exact transfer_length_le (by simp only [List.length_cons]; omega)
    · exact h

theorem Bounded.transferTo {c : CoreLocalCache T} (h : c.Bounded) (cpu : ℕ) :
    (c.transferTo cpu).Bounded := by
  intro i
  by_cases hi : i = cpu
  · subst hi
    simpa [CoreLocalCache.transferTo] using transfer_length_le (g := c.global) (h i)
  · rw [transferTo_locals_of_ne c hi]
    exact h i

/-- A pop from a stack within the capacity: the capacity is positive, and the stacks stay
within it. -/
theorem Bounded.popLocal {c c' : CoreLocalCache T} {cpu : ℕ} {x : T} (h : c.Bounded)
    (hp : c.popLocal cpu = some (x, c')) : 0 < c.perCoreCapacity ∧ c'.Bounded := by
  obtain ⟨hl, -, hother, hcap⟩ := popLocal_some hp
  have hcpu := h cpu
  rw [hl, List.length_cons] at hcpu
  refine ⟨by omega, fun i => ?_⟩
  rw [hcap]
  by_cases hi : i = cpu
  · subst hi
    omega
  · rw [hother i hi]
    exact h i

theorem Bounded.put {c : CoreLocalCache T} (h : c.Bounded) (cpu : ℕ) (item : T)
    (hcap : 0 < c.perCoreCapacity) : (c.put cpu item).Bounded := by
  obtain ⟨-, hother, hc⟩ := put_perm c cpu item
  intro i
  rw [hc]
  by_cases hi : i = cpu
  · subst hi
    exact put_length_le c i item hcap
  · rw [hother i hi]
    exact h i

theorem Bounded.reserve {newFn : σ → Option (List T × σ)} {c c' : CoreLocalCache T} {k fuel : ℕ}
    {s s' : σ} (h : c.Bounded) (hr : c.reserve newFn k fuel s = some (c', s')) : c'.Bounded := by
  obtain ⟨news, -, rfl⟩ := reserve_gathered hr
  exact h

/-- **`get` returns only with a positive capacity**, and keeps the stacks within it. -/
theorem getFrom_bound {newFn : σ → Option (List T × σ)} {c c' : CoreLocalCache T} {cpu fuel : ℕ}
    {s s' : σ} {x : T} (h : c.Bounded) (hg : c.getFrom newFn cpu fuel s = some (x, c', s')) :
    0 < c.perCoreCapacity ∧ c'.Bounded := by
  rcases getFrom_cases hg with ⟨hp, rfl⟩ | ⟨hp, rfl⟩ | ⟨-, d, hres, hp⟩
  · exact h.popLocal hp
  · exact (h.transferTo cpu).popLocal hp
  · -- after the reserve, the pop is from the stacks of a cache of the same capacity
    obtain ⟨news, -, hr1⟩ := reserve_gathered hres
    have hpos := (((h.transferTo cpu).reserve hres).transferTo cpu).popLocal hp
    rw [hr1] at hpos
    exact hpos

/-! ## What the cache holds after a `put` -/

/-- A step on core `cpu` that leaves the other cores' stacks and adds `L` to the core's stack
and the global stack holds what the cache held and `L`. -/
theorem mem_of_step {c c' : CoreLocalCache T} {cpu : ℕ}
    (hother : ∀ i, i ≠ cpu → c'.locals i = c.locals i) {L : List T}
    (h : (c'.locals cpu ++ c'.global).Perm (L ++ (c.locals cpu ++ c.global))) (y : T) :
    c'.Mem y ↔ y ∈ L ∨ c.Mem y := by
  have hy : y ∈ c'.locals cpu ∨ y ∈ c'.global ↔ y ∈ L ∨ y ∈ c.locals cpu ∨ y ∈ c.global := by
    simpa only [List.mem_append] using h.mem_iff (a := y)
  -- the two stacks the step changes, on either side
  have hnew : y ∈ c'.locals cpu ∨ y ∈ c'.global → c'.Mem y := fun hy' =>
    hy'.elim (fun hl => .inr ⟨cpu, hl⟩) .inl
  have hold : y ∈ L ∨ y ∈ c.locals cpu ∨ y ∈ c.global → y ∈ L ∨ c.Mem y := fun hy' =>
    hy'.elim .inl fun h' => .inr (h'.elim (fun hl => .inr ⟨cpu, hl⟩) .inl)
  constructor
  · rintro (hg | ⟨i, hi⟩)
    · exact hold (hy.mp (.inr hg))
    · by_cases hic : i = cpu
      · subst hic
        exact hold (hy.mp (.inl hi))
      · exact .inr (.inr ⟨i, hother i hic ▸ hi⟩)
  · rintro (hL | hg | ⟨i, hi⟩)
    · exact hnew (hy.mpr (.inl hL))
    · exact hnew (hy.mpr (.inr (.inr hg)))
    · by_cases hic : i = cpu
      · subst hic
        exact hnew (hy.mpr (.inr (.inl hi)))
      · exact .inr ⟨i, by rw [hother i hic]; exact hi⟩

theorem put_eq_update (c : CoreLocalCache T) (cpu : ℕ) (item : T) :
    c.put cpu item =
      { c with
        locals := Function.update c.locals cpu ((c.put cpu item).locals cpu)
        global := (c.put cpu item).global } := by
  unfold put
  dsimp only
  split_ifs <;> simp

/-- **`put` of an item the cache does not hold** keeps it `Distinct`: the item joins the two
stacks `put` changes. -/
theorem Distinct.put {c : CoreLocalCache T} (h : c.Distinct) (cpu : ℕ) {item : T}
    (hnew : ¬ c.Mem item) : (c.put cpu item).Distinct := by
  have h₀ := h.pushGlobal (List.nodup_singleton item) fun x hx => by
    rw [List.mem_singleton.mp hx]
    exact hnew
  have hp := (put_perm c cpu item).1
  have hmid : (item :: (c.locals cpu ++ c.global)).Perm (c.locals cpu ++ ([item].reverse ++ c.global)) :=
    List.perm_middle.symm
  rw [put_eq_update]
  exact h₀.update (l := (c.put cpu item).locals cpu) (g := (c.put cpu item).global)
    ((hp.trans hmid).nodup_iff.mpr (h₀.nodup_local_append cpu))
    fun x hx => (hp.trans hmid).subset hx

/-! ## A source that logs what it hands out -/

/-- `new_fn` appends what it hands out to its log, and hands out, without repeats, only items
not in the log. -/
def LoggedFresh (log : σ → List T) (newFn : σ → Option (List T × σ)) : Prop :=
  ∀ s items s', newFn s = some (items, s') →
    log s' = log s ++ items ∧ items.Nodup ∧ ∀ x ∈ items, x ∉ log s

section Logged

variable {log : σ → List T} {newFn : σ → Option (List T × σ)}

theorem LoggedFresh.freshSource (h : LoggedFresh log newFn) :
    FreshSource (fun s x => x ∉ log s) newFn := by
  intro s items s' hr
  obtain ⟨hlog, hnd, hfresh⟩ := h s items s' hr
  refine ⟨hnd, fun x hx => ⟨hfresh x hx, ?_⟩, fun x hx hs => ?_⟩
  · show ¬ x ∉ log s'
    rw [hlog, not_not]
    exact List.mem_append_right _ hx
  · change x ∉ log s' at hx
    rw [hlog] at hx
    exact hx (List.mem_append_left _ hs)

theorem Gathered.log_eq (h : LoggedFresh log newFn) {s s' : σ} {news : List T}
    (hg : Gathered newFn s news s') : log s' = log s ++ news := by
  induction hg with
  | nil s => simp
  | call hr _ ih => rw [ih, (h _ _ _ hr).1, List.append_assoc]

end Logged

/-! ## Runs -/

/-- A state of a run: the cache, the state of `new_fn`, what `new_fn` produced during the run,
what was put back and what `get` handed out, in order, and what the client holds. -/
structure Ledger (T σ : Type) where
  cache : CoreLocalCache T
  src : σ
  produced : List T
  putBack : List T
  handed : List T
  held : List T

/-- The invariant of runs. -/
structure RunInv (ncpu : ℕ) (log : σ → List T) (st : Ledger T σ) : Prop where
  cache : Inv (fun s x => x ∉ log s) st.cache st.src
  bounded : st.cache.Bounded
  held_nodup : st.held.Nodup
  held_log : ∀ x ∈ st.held, x ∈ log st.src
  held_not_mem : ∀ x ∈ st.held, ¬ st.cache.Mem x
  held_cap : st.held = [] ∨ 0 < st.cache.perCoreCapacity
  outside : ∀ i, ncpu ≤ i → st.cache.locals i = []
  held_ledger : (st.held ++ st.putBack).Perm st.handed
  conserve : (items ncpu st.cache ++ st.handed).Perm (st.produced ++ st.putBack)

theorem mem_items_of_mem {c : CoreLocalCache T} {ncpu : ℕ} (hout : ∀ i, ncpu ≤ i → c.locals i = [])
    {x : T} (hx : c.Mem x) : x ∈ items ncpu c := by
  rcases hx with hg | ⟨i, hi⟩
  · exact List.mem_append_left _ hg
  · have hin : i < ncpu := by
      by_contra hle
      rw [hout i (Nat.le_of_not_lt hle)] at hi
      exact List.not_mem_nil hi
    exact List.mem_append_right _ (List.mem_flatMap.mpr ⟨i, List.mem_range.mpr hin, hi⟩)

section Steps

variable {ncpu : ℕ} {log : σ → List T} {newFn : σ → Option (List T × σ)}

theorem runInv_init (cap : ℕ) (s : σ) : RunInv ncpu log (⟨init cap, s, [], [], [], []⟩ : Ledger T σ) where
  cache := ⟨distinct_init cap, fun _ hx => by rcases hx with hx | ⟨_, hx⟩ <;> cases hx⟩
  bounded := fun _ => Nat.zero_le _
  held_nodup := List.nodup_nil
  held_log := fun _ hx => absurd hx List.not_mem_nil
  held_not_mem := fun _ hx => absurd hx List.not_mem_nil
  held_cap := .inl rfl
  outside := fun _ _ => rfl
  held_ledger := List.Perm.refl _
  conserve := by simp [items, init]

/-- **A `get` in a run**: the run keeps its invariant, and the item comes from what was produced,
before or during the call, or put back, and is not one the client holds. -/
theorem RunInv.get (hsrc : LoggedFresh log newFn) {st : Ledger T σ} (h : RunInv ncpu log st)
    {cpu fuel : ℕ} (hcpu : cpu < ncpu) {x : T} {c' : CoreLocalCache T} {s' : σ} {news : List T}
    (hg : st.cache.getFrom newFn cpu fuel st.src = some (x, c', s'))
    (hlog : log s' = log st.src ++ news) :
    RunInv ncpu log ⟨c', s', st.produced ++ news, st.putBack, st.handed ++ [x], x :: st.held⟩ ∧
      x ∉ st.held ∧ (x ∈ st.produced ++ news ∨ x ∈ st.putBack) := by
  obtain ⟨hinv', hxc', hxs', hxsrc, hsub, -⟩ := h.cache.getFrom hsrc.freshSource hg
  obtain ⟨news', hgath, hperm, hother, hcap⟩ := getFrom_gathered hg
  obtain rfl : news' = news := List.append_cancel_left ((hgath.log_eq hsrc).symm.trans hlog)
  obtain ⟨hpos, hbound⟩ := getFrom_bound h.bounded hg
  have hx_log : x ∈ log s' := not_not.mp hxs'
  have hx_held : x ∉ st.held := fun hx =>
    hxsrc.elim (h.held_not_mem x hx) fun hf => hf (h.held_log x hx)
  have hitems : (items ncpu c' ++ [x]).Perm (items ncpu st.cache ++ news') :=
    items_perm_of_step hcpu hother ((List.perm_append_singleton x _).trans hperm)
  have hprov : x ∈ st.produced ++ news' ∨ x ∈ st.putBack := by
    rcases hxsrc with hc | hf
    · -- an item of the cache is one produced or put back
      have hx := h.conserve.subset (List.mem_append_left _ (mem_items_of_mem h.outside hc))
      rcases List.mem_append.mp hx with hx | hx
      · exact .inl (List.mem_append_left _ hx)
      · exact .inr hx
    · -- a fresh item is one the call produced
      rw [hlog] at hx_log
      exact .inl (List.mem_append_right _ ((List.mem_append.mp hx_log).resolve_left hf))
  refine ⟨⟨hinv', hbound, List.nodup_cons.mpr ⟨hx_held, h.held_nodup⟩, ?_, ?_, .inr (hcap ▸ hpos),
    fun i hi => (hother i (by omega)).trans (h.outside i hi), ?_, ?_⟩, hx_held, hprov⟩
  · rintro y (_ | ⟨_, hy⟩)
    · exact hx_log
    · rw [hlog]
      exact List.mem_append_left _ (h.held_log y hy)
  · rintro y (_ | ⟨_, hy⟩) hc'
    · exact hxc' hc'
    · rcases hsub y hc' with hc | ⟨hf, -⟩
      · exact h.held_not_mem y hy hc
      · exact hf (h.held_log y hy)
  · exact (h.held_ledger.cons x).trans (List.perm_append_singleton x _).symm
  · rw [← List.append_assoc]
    exact (perm_exchange hitems h.conserve).trans (perm_append_swap_right _ _ _)

/-- **A `reserve` in a run** keeps the invariant: the items it pushes were produced by the
call. -/
theorem RunInv.reserve (hsrc : LoggedFresh log newFn) {st : Ledger T σ} (h : RunInv ncpu log st)
    {k fuel : ℕ} {c' : CoreLocalCache T} {s' : σ} {news : List T}
    (hr : st.cache.reserve newFn k fuel st.src = some (c', s')) (hlog : log s' = log st.src ++ news) :
    RunInv ncpu log ⟨c', s', st.produced ++ news, st.putBack, st.handed, st.held⟩ := by
  obtain ⟨hinv', hcap, hlocals, hsub, -⟩ := h.cache.reserve hsrc.freshSource hr
  obtain ⟨news', hgath, hc'⟩ := reserve_gathered hr
  obtain rfl : news' = news := List.append_cancel_left ((hgath.log_eq hsrc).symm.trans hlog)
  refine ⟨hinv', h.bounded.reserve hr, h.held_nodup, fun y hy => ?_, fun y hy hc => ?_,
    hcap ▸ h.held_cap, fun i hi => hlocals ▸ h.outside i hi, h.held_ledger, ?_⟩
  · rw [hlog]
    exact List.mem_append_left _ (h.held_log y hy)
  · rcases hsub y hc with hc | ⟨hf, -⟩
    · exact h.held_not_mem y hy hc
    · exact hf (h.held_log y hy)
  · -- the items pushed join the global stack
    have hitems : (items ncpu c' ++ []).Perm (items ncpu st.cache ++ news') := by
      rw [hc', List.append_nil]
      show (news'.reverse ++ st.cache.global ++ _).Perm (items ncpu st.cache ++ news')
      rw [List.append_assoc]
      exact List.perm_append_comm.trans ((List.reverse_perm news').append_left _)
    simpa only [List.append_nil] using
      (perm_exchange hitems h.conserve).trans (perm_append_swap_right _ _ _)

variable [DecidableEq T]

/-- The states a run on the cores `0, …, ncpu - 1` reaches from an empty cache. A `put` returns
an item the client holds. -/
inductive Reachable (ncpu : ℕ) (newFn : σ → Option (List T × σ)) (log : σ → List T) :
    Ledger T σ → Prop
  | init (cap : ℕ) (s : σ) : Reachable ncpu newFn log ⟨init cap, s, [], [], [], []⟩
  | get {st : Ledger T σ} {cpu fuel : ℕ} {x : T} {c' : CoreLocalCache T} {s' : σ} {news : List T} :
      Reachable ncpu newFn log st → cpu < ncpu →
      st.cache.getFrom newFn cpu fuel st.src = some (x, c', s') → log s' = log st.src ++ news →
      Reachable ncpu newFn log ⟨c', s', st.produced ++ news, st.putBack, st.handed ++ [x], x :: st.held⟩
  | put {st : Ledger T σ} {cpu : ℕ} {item : T} :
      Reachable ncpu newFn log st → cpu < ncpu → item ∈ st.held →
      Reachable ncpu newFn log
        ⟨st.cache.put cpu item, st.src, st.produced, st.putBack ++ [item], st.handed, st.held.erase item⟩
  | reserve {st : Ledger T σ} {k fuel : ℕ} {c' : CoreLocalCache T} {s' : σ} {news : List T} :
      Reachable ncpu newFn log st → st.cache.reserve newFn k fuel st.src = some (c', s') →
      log s' = log st.src ++ news →
      Reachable ncpu newFn log ⟨c', s', st.produced ++ news, st.putBack, st.handed, st.held⟩

/-- **A `put` in a run** of an item the client holds keeps the invariant. -/
theorem RunInv.put {st : Ledger T σ} (h : RunInv ncpu log st) {cpu : ℕ} (hcpu : cpu < ncpu)
    {item : T} (hitem : item ∈ st.held) :
    RunInv ncpu log
      ⟨st.cache.put cpu item, st.src, st.produced, st.putBack ++ [item], st.handed, st.held.erase item⟩ := by
  obtain ⟨hp, hother, hcap⟩ := put_perm st.cache cpu item
  have hpos : 0 < st.cache.perCoreCapacity := h.held_cap.resolve_left (List.ne_nil_of_mem hitem)
  have hmem := mem_of_step hother (L := [item]) hp
  have herase : ∀ y, y ∈ st.held.erase item ↔ y ≠ item ∧ y ∈ st.held := fun y =>
    h.held_nodup.mem_erase_iff
  refine ⟨⟨h.cache.distinct.put cpu (h.held_not_mem item hitem), fun y hy => ?_⟩,
    h.bounded.put cpu item hpos, h.held_nodup.erase item,
    fun y hy => h.held_log y ((herase y).mp hy).2, fun y hy hc => ?_, .inr (hcap ▸ hpos),
    fun i hi => (hother i (by omega)).trans (h.outside i hi), ?_, ?_⟩
  · -- the cache holds the item, which the client held, and what it held before
    rcases (hmem y).mp hy with hy | hy
    · rw [List.mem_singleton.mp hy, not_not]
      exact h.held_log item hitem
    · exact h.cache.not_fresh y hy
  · obtain ⟨hne, hy⟩ := (herase y).mp hy
    rcases (hmem y).mp hc with hc | hc
    · exact hne (List.mem_singleton.mp hc)
    · exact h.held_not_mem y hy hc
  · show (st.held.erase item ++ (st.putBack ++ [item])).Perm st.handed
    rw [← List.append_assoc]
    exact (perm_append_swap_right _ _ _).trans (((List.perm_append_singleton item _).append_right _).trans
      (((List.perm_cons_erase hitem).symm.append_right _).trans h.held_ledger))
  · have hitems : (items ncpu (st.cache.put cpu item) ++ []).Perm (items ncpu st.cache ++ [item]) :=
      items_perm_of_step hcpu hother
        (by rw [List.append_nil]; exact hp.trans (List.perm_append_singleton item _).symm)
    simpa only [List.append_nil, List.append_assoc] using perm_exchange hitems h.conserve

theorem reachable_runInv (hsrc : LoggedFresh log newFn) {st : Ledger T σ}
    (h : Reachable ncpu newFn log st) : RunInv ncpu log st := by
  induction h with
  | init cap s => exact runInv_init cap s
  | get _ hcpu hg hlog ih => exact (ih.get hsrc hcpu hg hlog).1
  | put _ hcpu hitem ih => exact ih.put hcpu hitem
  | reserve _ hr hlog ih => exact ih.reserve hsrc hr hlog

/-- **`CoreLocalCache` conserves items**, along every run with a `new_fn` that hands out fresh
items, in which a `put` returns an item the client holds: the stacks and what `get` handed out
are, as a multiset, what `new_fn` produced and what was put back; every core's stack is within
the capacity; what the client holds is what was handed out and not put back, and the cache holds
none of it; and an item a further `get` hands out was produced, before or during the call, or
put back, and is not one the client holds, so no item is handed out twice without a `put`
between. -/
theorem coreLocalCache_conserves (hsrc : LoggedFresh log newFn) {st : Ledger T σ}
    (h : Reachable ncpu newFn log st) :
    (items ncpu st.cache ++ st.handed).Perm (st.produced ++ st.putBack) ∧
      (∀ i, (st.cache.locals i).length ≤ st.cache.perCoreCapacity) ∧
      (st.held ++ st.putBack).Perm st.handed ∧ (∀ x ∈ st.held, ¬ st.cache.Mem x) ∧
      ∀ cpu, cpu < ncpu → ∀ fuel x c' s', st.cache.getFrom newFn cpu fuel st.src = some (x, c', s') →
        x ∉ st.held ∧ ∃ news, log s' = log st.src ++ news ∧
          (x ∈ st.produced ++ news ∨ x ∈ st.putBack) := by
  have hinv := reachable_runInv hsrc h
  refine ⟨hinv.conserve, hinv.bounded, hinv.held_ledger, hinv.held_not_mem,
    fun cpu hcpu fuel x c' s' hg => ?_⟩
  -- the call's `new_fn` calls extend the log by what they hand out
  obtain ⟨news, hgath, -⟩ := getFrom_gathered hg
  have hlog := hgath.log_eq hsrc
  obtain ⟨-, hheld, hprov⟩ := hinv.get hsrc hcpu hg hlog
  exact ⟨hheld, news, hlog, hprov⟩

end Steps

/-! ## Items produced by a counter -/

/-- A `new_fn` that hands out its counter and counts up. -/
def counterNew (n : ℕ) : Option (List ℕ × ℕ) := some ([n], n + 1)

/-- What the counter has handed out: the numbers below it. -/
def counterLog (n : ℕ) : List ℕ := List.range n

theorem loggedFresh_counterNew : LoggedFresh counterLog counterNew := by
  intro n items n' h
  simp only [counterNew, Option.some.injEq, Prod.mk.injEq] at h
  obtain ⟨rfl, rfl⟩ := h
  exact ⟨List.range_succ, List.nodup_singleton n, by simp [counterLog]⟩

/-- A run on one core of capacity `2`: a `get`, which reserves `0` and `1` and hands out `0`,
then a `put` of `0`. -/
theorem coreLocalCache_conserves_get_put :
    ∃ st : Ledger ℕ ℕ, Reachable 1 counterNew counterLog st ∧ st.handed = [0] ∧
      st.putBack = [0] ∧ st.produced = [0, 1] ∧
      ((items 1 st.cache ++ st.handed).Perm (st.produced ++ st.putBack) ∧
      (∀ i, (st.cache.locals i).length ≤ st.cache.perCoreCapacity) ∧
      (st.held ++ st.putBack).Perm st.handed ∧ (∀ x ∈ st.held, ¬ st.cache.Mem x) ∧
      ∀ cpu, cpu < 1 → ∀ fuel x c' s', st.cache.getFrom counterNew cpu fuel st.src = some (x, c', s') →
        x ∉ st.held ∧ ∃ news, counterLog s' = counterLog st.src ++ news ∧
          (x ∈ st.produced ++ news ∨ x ∈ st.putBack)) := by
  have hget : Reachable 1 counterNew counterLog
      ⟨_, 2, [] ++ [0, 1], [], [] ++ [0], [0]⟩ :=
    .get (.init 2 0) Nat.one_pos
      (show (init 2 : CoreLocalCache ℕ).getFrom counterNew 0 2 0 = some (0, _, 2) from rfl) rfl
  have hput := Reachable.put hget Nat.one_pos (List.mem_singleton_self 0)
  exact ⟨_, hput, rfl, rfl, rfl, coreLocalCache_conserves loggedFresh_counterNew hput⟩

/-! ## Puts of items the client does not hold -/

/-- **Without the restriction on puts** the claims fail: with a capacity of `0` a `put` leaves
an item on the core's stack, and an item put twice, with no `get` between, is handed out by the
next two `get`s. -/
theorem getFrom_twice_after_double_put :
    ((init 0 : CoreLocalCache ℕ).put 0 7).perCoreCapacity <
        (((init 0 : CoreLocalCache ℕ).put 0 7).locals 0).length ∧
      ∃ c₁ c₂ : CoreLocalCache ℕ,
        (((init 1 : CoreLocalCache ℕ).put 0 7).put 0 7).getFrom counterNew 0 0 0 = some (7, c₁, 0) ∧
          c₁.getFrom counterNew 0 0 0 = some (7, c₂, 0) :=
  ⟨by decide, _, _, rfl, rfl⟩

end CoreLocalCache

end Sandook
