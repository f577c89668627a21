import Mathlib.Data.List.Basic
import Mathlib.Data.List.Nodup
import Mathlib.Data.List.Perm.Basic
import Sandook.Base.Types

/-!
# The per-core object cache (`base/core_local_cache.h`)

Model of `CoreLocalCache<T>`: a stack per core (`locals_`), a global stack (`global_`), and a
`new_fn` that produces fresh items. Stacks are lists whose head is the top. The core a call
runs on is a parameter `cpu`; `new_fn` changes the state `σ` of whatever it calls (the virtual
disk's calls the controller).

* `get` pops the core's stack; `get_slow_path` refills it from the global stack
  (`transfer`), and if that leaves it empty, `reserve`s `per_core_capacity_` new items and
  tries again. `reserve` calls `new_fn` until it has gathered enough, calling it again after a
  call that hands out nothing. That loop runs on `fuel`, one unit a call, which the caller
  gives: a loop that outlasts it is `none`, a call that never returns, as is `goto again` on a
  capacity of `0`.
* The spin lock and preemption guard only order the calls; each is one atomic step.

Results:
* `Distinct`: no item is held twice across the stacks; `transferTo`, `popLocal` and
  `pushGlobal` keep it.
* `Inv.reserve`, `Inv.getFrom`: with a `new_fn` that only hands out fresh items
  (`FreshSource`), the cache never holds a fresh item, `reserve` adds fresh items only, and an
  item `get` returns was in the cache or was fresh, and is afterwards neither.
* `getFrom_gathered`, `getFrom_mem`: `get` takes its item from the core's stack and the global
  stack, together with the items its `new_fn` calls handed out (`Gathered`), and touches no
  other stack.
* `getFrom_cons`, `getFrom_refill`: from one core, with batches of the cache's capacity, `get`
  returns the items in the order `new_fn` handed them out.
-/

namespace Sandook

/-- The state of `CoreLocalCache<T>`. -/
structure CoreLocalCache (T : Type) where
  perCoreCapacity : ℕ
  locals : ℕ → List T
  global : List T

namespace CoreLocalCache

variable {T σ : Type}

/-- An empty cache. -/
def init (perCoreCapacity : ℕ) : CoreLocalCache T := ⟨perCoreCapacity, fun _ => [], []⟩

/-- The loop of `get_slow_path`: `while (!global_.empty() && local.size() < capacity)` move
the global top onto the local stack. -/
def transfer (cap : ℕ) : List T → List T → List T × List T
  | l, [] => (l, [])
  | l, g :: gs => if l.length < cap then transfer cap (g :: l) gs else (l, g :: gs)

/-- The cache after `transfer` on core `cpu`. -/
def transferTo (c : CoreLocalCache T) (cpu : ℕ) : CoreLocalCache T :=
  let r := transfer c.perCoreCapacity (c.locals cpu) c.global
  { c with locals := Function.update c.locals cpu r.1, global := r.2 }

/-- Pop the top of core `cpu`'s stack. -/
def popLocal (c : CoreLocalCache T) (cpu : ℕ) : Option (T × CoreLocalCache T) :=
  match c.locals cpu with
  | [] => none
  | x :: xs => some (x, { c with locals := Function.update c.locals cpu xs })

/-- The loop of `reserve(global_size)`: `while (items.size() < global_size)` call `new_fn` and
append what it hands out, nothing included. Each call counts down `fuel`. -/
def reserveLoop (newFn : σ → Option (List T × σ)) (globalSize : ℕ) :
    ℕ → List T → σ → Option (List T × σ)
  | 0, items, s => if globalSize ≤ items.length then some (items, s) else none
  | fuel + 1, items, s =>
    if globalSize ≤ items.length then some (items, s)
    else (newFn s).bind fun r => reserveLoop newFn globalSize fuel (items ++ r.1) r.2

/-- `reserve(global_size)`, its loop given `fuel` calls: the gathered items pushed, in order, on
the global stack. -/
def reserve (newFn : σ → Option (List T × σ)) (c : CoreLocalCache T) (globalSize fuel : ℕ)
    (s : σ) : Option (CoreLocalCache T × σ) :=
  (reserveLoop newFn globalSize fuel [] s).map fun r =>
    ({ c with global := r.1.reverse ++ c.global }, r.2)

/-- `get_slow_path()` on core `cpu`, its `reserve` given `fuel` calls. -/
def getSlowPath (newFn : σ → Option (List T × σ)) (c : CoreLocalCache T) (cpu fuel : ℕ) (s : σ) :
    Option (T × CoreLocalCache T × σ) :=
  match (c.transferTo cpu).popLocal cpu with
  | some r => some (r.1, r.2, s)
  | none =>
    ((c.transferTo cpu).reserve newFn c.perCoreCapacity fuel s).bind fun r =>
      ((r.1.transferTo cpu).popLocal cpu).map fun p => (p.1, p.2, r.2)

/-- `get()` on core `cpu`, its `reserve` given `fuel` calls. -/
def getFrom (newFn : σ → Option (List T × σ)) (c : CoreLocalCache T) (cpu fuel : ℕ) (s : σ) :
    Option (T × CoreLocalCache T × σ) :=
  match c.popLocal cpu with
  | some r => some (r.1, r.2, s)
  | none => c.getSlowPath newFn cpu fuel s

/-- The loop of `put_slow_path`: move tops to the global stack while the local stack holds
more than `max(per_core_capacity_ / 2, 1)`. -/
def spill (keep : ℕ) : List T → List T → List T × List T
  | [], g => ([], g)
  | x :: xs, g => if keep < (x :: xs).length then spill keep xs (x :: g) else (x :: xs, g)

/-- `put(item)` on core `cpu`. -/
def put (c : CoreLocalCache T) (cpu : ℕ) (item : T) : CoreLocalCache T :=
  let l := item :: c.locals cpu
  if c.perCoreCapacity < l.length then
    let r := spill (max (c.perCoreCapacity / 2) 1) l c.global
    { c with locals := Function.update c.locals cpu r.1, global := r.2 }
  else { c with locals := Function.update c.locals cpu l }

/-! ## What the cache holds -/

/-- `x` is in one of the stacks. -/
def Mem (c : CoreLocalCache T) (x : T) : Prop := x ∈ c.global ∨ ∃ i, x ∈ c.locals i

/-- No item is held twice: each stack has no repeats and the stacks are disjoint. -/
structure Distinct (c : CoreLocalCache T) : Prop where
  global : c.global.Nodup
  locals : ∀ i, (c.locals i).Nodup
  local_global : ∀ i x, x ∈ c.locals i → x ∉ c.global
  local_local : ∀ i j x, i ≠ j → x ∈ c.locals i → x ∉ c.locals j

theorem distinct_init (perCoreCapacity : ℕ) : (init perCoreCapacity : CoreLocalCache T).Distinct :=
  ⟨List.nodup_nil, fun _ => List.nodup_nil, fun _ _ h => absurd h List.not_mem_nil,
    fun _ _ _ _ h => absurd h List.not_mem_nil⟩

/-- `transfer` moves items between two stacks and loses none. -/
theorem transfer_perm (cap : ℕ) :
    ∀ (l g : List T), List.Perm ((transfer cap l g).1 ++ (transfer cap l g).2) (l ++ g)
  | l, [] => by simp [transfer]
  | l, g :: gs => by
    unfold transfer
    split_ifs
    · refine (transfer_perm cap (g :: l) gs).trans ?_
      simpa using List.perm_middle.symm
    · exact List.Perm.refl _

/-- An item is in the cache after `transfer` iff it was before. -/
theorem mem_transferTo {c : CoreLocalCache T} {cpu : ℕ} {x : T} :
    (c.transferTo cpu).Mem x ↔ c.Mem x := by
  have hp := transfer_perm c.perCoreCapacity (c.locals cpu) c.global
  unfold Mem transferTo
  simp only [Function.update_apply]
  constructor
  · rintro (hg | ⟨i, hi⟩)
    · have : x ∈ c.locals cpu ++ c.global := hp.subset (List.mem_append_right _ hg)
      rcases List.mem_append.mp this with h | h
      · exact .inr ⟨cpu, h⟩
      · exact .inl h
    · split_ifs at hi with hic
      · have : x ∈ c.locals cpu ++ c.global := hp.subset (List.mem_append_left _ hi)
        rcases List.mem_append.mp this with h | h
        · exact .inr ⟨cpu, h⟩
        · exact .inl h
      · exact .inr ⟨i, hi⟩
  · rintro (hg | ⟨i, hi⟩)
    · rcases List.mem_append.mp (hp.symm.subset (List.mem_append_right _ hg)) with h | h
      · exact .inr ⟨cpu, by simpa using h⟩
      · exact .inl h
    · by_cases hic : i = cpu
      · subst hic
        rcases List.mem_append.mp (hp.symm.subset (List.mem_append_left _ hi)) with h | h
        · exact .inr ⟨i, by simpa using h⟩
        · exact .inl h
      · exact .inr ⟨i, by simpa [hic] using hi⟩

/-- `Distinct` as one list without repeats: a core's stack followed by the global stack. -/
theorem Distinct.nodup_local_append {c : CoreLocalCache T} (h : c.Distinct) (cpu : ℕ) :
    (c.locals cpu ++ c.global).Nodup :=
  List.nodup_append.mpr
    ⟨h.locals cpu, h.global, fun _ hx _ hy e => h.local_global cpu _ hx (e ▸ hy)⟩

/-- Replacing core `cpu`'s stack and the global stack by two lists without common or repeated
items, all taken from those two stacks, keeps the cache `Distinct`. -/
theorem Distinct.update {c : CoreLocalCache T} (h : c.Distinct) {cpu : ℕ} {l g : List T}
    (hnd : (l ++ g).Nodup) (hmem : ∀ x ∈ l ++ g, x ∈ c.locals cpu ++ c.global) :
    { c with locals := Function.update c.locals cpu l, global := g }.Distinct := by
  have hmem' : ∀ x, x ∈ l ∨ x ∈ g → x ∈ c.locals cpu ∨ x ∈ c.global := fun x hx =>
    List.mem_append.mp (hmem x (List.mem_append.mpr hx))
  -- an item of the new pair of stacks is in no other core's stack
  have hother : ∀ j x, j ≠ cpu → x ∈ l ∨ x ∈ g → x ∉ c.locals j := by
    intro j x hj hx hy
    rcases hmem' x hx with h' | h'
    · exact h.local_local j cpu x hj hy h'
    · exact h.local_global j x hy h'
  obtain ⟨hl, hg, hlg⟩ := List.nodup_append.mp hnd
  refine ⟨hg, ?_, ?_, ?_⟩
  · intro i
    by_cases hi : i = cpu
    · subst hi; simpa using hl
    · simpa [hi] using h.locals i
  · intro i x hx hxg
    by_cases hi : i = cpu
    · subst hi
      simp only [Function.update_self] at hx
      exact hlg x hx x hxg rfl
    · simp only [Function.update_of_ne hi] at hx
      exact hother i x hi (.inr hxg) hx
  · intro i j x hij hx hy
    by_cases hi : i = cpu
    · subst hi
      simp only [Function.update_self] at hx
      simp only [Function.update_of_ne (Ne.symm hij)] at hy
      exact hother j x (Ne.symm hij) (.inl hx) hy
    · by_cases hj : j = cpu
      · subst hj
        simp only [Function.update_self] at hy
        simp only [Function.update_of_ne hi] at hx
        exact hother i x hi (.inl hy) hx
      · simp only [Function.update_of_ne hi] at hx
        simp only [Function.update_of_ne hj] at hy
        exact h.local_local i j x hij hx hy

theorem Distinct.transferTo {c : CoreLocalCache T} (h : c.Distinct) (cpu : ℕ) :
    (c.transferTo cpu).Distinct :=
  let hp := transfer_perm c.perCoreCapacity (c.locals cpu) c.global
  h.update (hp.nodup_iff.mpr (h.nodup_local_append cpu)) fun _ hx => hp.subset hx

/-- Popping core `cpu`'s stack returns an item of the cache and removes it, and only it. -/
theorem Distinct.popLocal {c c' : CoreLocalCache T} {cpu : ℕ} {x : T} (h : c.Distinct)
    (hp : c.popLocal cpu = some (x, c')) :
    c.Mem x ∧ c'.Distinct ∧ ∀ y, c'.Mem y ↔ c.Mem y ∧ y ≠ x := by
  unfold CoreLocalCache.popLocal at hp
  split at hp
  · cases hp
  · rename_i x' xs hl
    simp only [Option.some.injEq, Prod.mk.injEq] at hp
    obtain ⟨hx', rfl⟩ := hp
    subst hx'
    have hnd := h.nodup_local_append cpu
    rw [hl, List.cons_append] at hnd
    have hx : x' ∉ xs ++ c.global := (List.nodup_cons.mp hnd).1
    have hmem : ∀ y ∈ xs ++ c.global, y ∈ c.locals cpu ++ c.global := by
      intro y hy
      rw [hl, List.cons_append]
      exact List.mem_cons_of_mem _ hy
    have hd := h.update (List.nodup_cons.mp hnd).2 hmem
    refine ⟨.inr ⟨cpu, by rw [hl]; exact List.mem_cons_self⟩, hd, fun y => ?_⟩
    unfold Mem
    simp only [Function.update_apply]
    constructor
    · rintro (hy | ⟨i, hi⟩)
      · exact ⟨.inl hy, fun e => hx (e ▸ List.mem_append_right _ hy)⟩
      · split_ifs at hi with hic
        · subst hic
          exact ⟨.inr ⟨i, by rw [hl]; exact List.mem_cons_of_mem _ hi⟩,
            fun e => hx (e ▸ List.mem_append_left _ hi)⟩
        · refine ⟨.inr ⟨i, hi⟩, fun e => ?_⟩
          subst e
          exact h.local_local i cpu y hic hi (by rw [hl]; exact List.mem_cons_self)
    · rintro ⟨hy | ⟨i, hi⟩, hne⟩
      · exact .inl hy
      · by_cases hic : i = cpu
        · subst hic
          rw [hl] at hi
          exact .inr ⟨i, by simpa [hne] using hi⟩
        · exact .inr ⟨i, by simpa [hic] using hi⟩

/-- Pushing new items, none of them already held, on the global stack keeps the cache
`Distinct`. -/
theorem Distinct.pushGlobal {c : CoreLocalCache T} (h : c.Distinct) {news : List T}
    (hnd : news.Nodup) (hnew : ∀ x ∈ news, ¬ c.Mem x) :
    { c with global := news.reverse ++ c.global }.Distinct := by
  refine ⟨?_, h.locals, ?_, h.local_local⟩
  · refine List.nodup_append.mpr ⟨List.nodup_reverse.mpr hnd, h.global, ?_⟩
    intro x hx y hy e
    subst e
    exact hnew x (List.mem_reverse.mp hx) (.inl hy)
  · intro i x hx hg
    rcases List.mem_append.mp hg with hg | hg
    · exact hnew x (List.mem_reverse.mp hg) (.inr ⟨i, hx⟩)
    · exact h.local_global i x hx hg

/-- **The three ways out of `get`**: a pop from the core's stack; a pop after a transfer from the
global stack; or, when that finds nothing, a pop after a `reserve` and a second transfer. -/
theorem getFrom_cases {newFn : σ → Option (List T × σ)} {c c' : CoreLocalCache T} {cpu fuel : ℕ}
    {s s' : σ} {x : T} (h : c.getFrom newFn cpu fuel s = some (x, c', s')) :
    (c.popLocal cpu = some (x, c') ∧ s' = s) ∨
      ((c.transferTo cpu).popLocal cpu = some (x, c') ∧ s' = s) ∨
      ((c.transferTo cpu).popLocal cpu = none ∧
        ∃ d, (c.transferTo cpu).reserve newFn c.perCoreCapacity fuel s = some (d, s') ∧
          (d.transferTo cpu).popLocal cpu = some (x, c')) := by
  unfold CoreLocalCache.getFrom at h
  split at h
  · rename_i r hr
    simp only [Option.some.injEq, Prod.mk.injEq] at h
    obtain ⟨rfl, rfl, rfl⟩ := h
    exact .inl ⟨hr, rfl⟩
  · unfold CoreLocalCache.getSlowPath at h
    split at h
    · rename_i r hr
      simp only [Option.some.injEq, Prod.mk.injEq] at h
      obtain ⟨rfl, rfl, rfl⟩ := h
      exact .inr (.inl ⟨hr, rfl⟩)
    · rename_i hnone
      obtain ⟨r, hres, h⟩ := Option.bind_eq_some_iff.mp h
      obtain ⟨p, hp, h⟩ := Option.map_eq_some_iff.mp h
      simp only [Prod.mk.injEq] at h
      obtain ⟨rfl, rfl, rfl⟩ := h
      exact .inr (.inr ⟨hnone, r.1, hres, hp⟩)

/-! ## A source of fresh items -/

section Fresh

variable (fresh : σ → T → Prop) (newFn : σ → Option (List T × σ))

/-- `new_fn` hands out only items that are fresh in the state it starts from, without repeats,
and none of them is fresh afterwards; it never makes an item fresh again. -/
def FreshSource : Prop :=
  ∀ s items s', newFn s = some (items, s') →
    items.Nodup ∧ (∀ x ∈ items, fresh s x ∧ ¬ fresh s' x) ∧ ∀ x, fresh s' x → fresh s x

/-- The cache holds no item twice and no fresh item. -/
structure Inv (c : CoreLocalCache T) (s : σ) : Prop where
  distinct : c.Distinct
  not_fresh : ∀ x, c.Mem x → ¬ fresh s x

variable {fresh newFn}

/-- The items a chain of `new_fn` calls hands out, from state `s` to state `s'`. -/
inductive Gathered (newFn : σ → Option (List T × σ)) : σ → List T → σ → Prop where
  | nil (s : σ) : Gathered newFn s [] s
  | call {s s₁ s' : σ} {items rest : List T} :
      newFn s = some (items, s₁) → Gathered newFn s₁ rest s' → Gathered newFn s (items ++ rest) s'

/-- `reserve`'s loop appends what a chain of `new_fn` calls hands out. -/
theorem reserveLoop_gathered {globalSize : ℕ} :
    ∀ (fuel : ℕ) (items : List T) (s : σ) {items' : List T} {s' : σ},
      reserveLoop newFn globalSize fuel items s = some (items', s') →
      ∃ news, items' = items ++ news ∧ Gathered newFn s news s'
  | 0, items, s, items', s', h => by
    unfold reserveLoop at h
    split_ifs at h
    cases h
    exact ⟨[], by simp, .nil s⟩
  | fuel + 1, items, s, items', s', h => by
    unfold reserveLoop at h
    split_ifs at h
    · cases h
      exact ⟨[], by simp, .nil s⟩
    · obtain ⟨r, hr, h⟩ := Option.bind_eq_some_iff.mp h
      obtain ⟨news, rfl, hg⟩ := reserveLoop_gathered fuel _ _ h
      exact ⟨r.1 ++ news, by simp, .call hr hg⟩

/-- What a fresh source's calls hand out: items fresh when they start and no longer fresh when
they end, without repeats. -/
theorem Gathered.nodup_fresh (hsrc : FreshSource fresh newFn) {s s' : σ} {news : List T}
    (hg : Gathered newFn s news s') :
    news.Nodup ∧ (∀ x ∈ news, fresh s x ∧ ¬ fresh s' x) ∧ ∀ x, fresh s' x → fresh s x := by
  induction hg with
  | nil s => exact ⟨List.nodup_nil, by simp, fun _ hx => hx⟩
  | @call s s₁ s' items rest hr _ ih =>
    obtain ⟨hrnd, hrfresh, hrmono⟩ := hsrc s items s₁ hr
    obtain ⟨hnd, hfresh, hmono⟩ := ih
    refine ⟨?_, ?_, fun x hx => hrmono x (hmono x hx)⟩
    · refine List.nodup_append.mpr ⟨hrnd, hnd, ?_⟩
      intro x hx y hy e
      subst e
      exact (hrfresh x hx).2 (hfresh x hy).1
    · intro x hx
      rcases List.mem_append.mp hx with hx | hx
      · exact ⟨(hrfresh x hx).1, fun h' => (hrfresh x hx).2 (hmono x h')⟩
      · exact ⟨hrmono x (hfresh x hx).1, (hfresh x hx).2⟩

/-- What `reserve`'s loop gathers: items fresh when it starts and no longer fresh when it ends,
without repeats. -/
theorem reserveLoop_fresh (hsrc : FreshSource fresh newFn) {globalSize : ℕ}
    (fuel : ℕ) (items : List T) (s : σ) {items' : List T} {s' : σ}
    (h : reserveLoop newFn globalSize fuel items s = some (items', s')) :
    ∃ news, items' = items ++ news ∧ news.Nodup ∧ (∀ x ∈ news, fresh s x ∧ ¬ fresh s' x) ∧
      ∀ x, fresh s' x → fresh s x := by
  obtain ⟨news, rfl, hg⟩ := reserveLoop_gathered fuel items s h
  exact ⟨news, rfl, hg.nodup_fresh hsrc⟩

/-- **`reserve` adds fresh items only**, and the cache stays free of repeats and of fresh
items. -/
theorem Inv.reserve (hsrc : FreshSource fresh newFn) {c c' : CoreLocalCache T} {s s' : σ}
    {globalSize fuel : ℕ} (h : Inv fresh c s) (hr : c.reserve newFn globalSize fuel s = some (c', s')) :
    Inv fresh c' s' ∧ c'.perCoreCapacity = c.perCoreCapacity ∧ c'.locals = c.locals ∧
      (∀ x, c'.Mem x → c.Mem x ∨ (fresh s x ∧ ¬ fresh s' x)) ∧ (∀ x, fresh s' x → fresh s x) := by
  unfold CoreLocalCache.reserve at hr
  obtain ⟨r, hloop, hr⟩ := Option.map_eq_some_iff.mp hr
  cases hr
  obtain ⟨news, hnews, hnd, hfresh, hmono⟩ := reserveLoop_fresh hsrc _ _ _ hloop
  rw [List.nil_append] at hnews
  rw [hnews]
  have hmem : ∀ x, { c with global := news.reverse ++ c.global }.Mem x → c.Mem x ∨ x ∈ news := by
    rintro x (hx | ⟨i, hx⟩)
    · rcases List.mem_append.mp hx with hx | hx
      · exact .inr (List.mem_reverse.mp hx)
      · exact .inl (.inl hx)
    · exact .inl (.inr ⟨i, hx⟩)
  refine ⟨⟨h.distinct.pushGlobal hnd fun x hx hc => h.not_fresh x hc (hfresh x hx).1, ?_⟩,
    rfl, rfl, ?_, hmono⟩
  · intro x hx
    rcases hmem x hx with hc | hn
    · exact fun h' => h.not_fresh x hc (hmono x h')
    · exact (hfresh x hn).2
  · intro x hx
    rcases hmem x hx with hc | hn
    · exact .inl hc
    · exact .inr (hfresh x hn)

theorem Inv.transferTo {c : CoreLocalCache T} {s : σ} (h : Inv fresh c s) (cpu : ℕ) :
    Inv fresh (c.transferTo cpu) s :=
  ⟨h.distinct.transferTo cpu, fun y hy => h.not_fresh y (mem_transferTo.mp hy)⟩

/-- **An item `get` returns** was in the cache or was fresh; it is no longer in the cache nor
fresh, and the cache keeps its invariant and gains fresh items only. -/
theorem Inv.getFrom (hsrc : FreshSource fresh newFn) {c c' : CoreLocalCache T} {s s' : σ}
    {cpu fuel : ℕ} {x : T} (h : Inv fresh c s) (hg : c.getFrom newFn cpu fuel s = some (x, c', s')) :
    Inv fresh c' s' ∧ ¬ c'.Mem x ∧ ¬ fresh s' x ∧ (c.Mem x ∨ fresh s x) ∧
      (∀ y, c'.Mem y → c.Mem y ∨ (fresh s y ∧ ¬ fresh s' y)) ∧ (∀ y, fresh s' y → fresh s y) := by
  -- a pop from a cache that holds only items of `c`
  have hpop : ∀ {d d' : CoreLocalCache T}, Inv fresh d s → d.popLocal cpu = some (x, d') →
      (∀ y, d.Mem y → c.Mem y) →
      Inv fresh d' s ∧ ¬ d'.Mem x ∧ ¬ fresh s x ∧ c.Mem x ∧ (∀ y, d'.Mem y → c.Mem y) := by
    intro d d' hd hp hsub
    obtain ⟨hx, hd', hiff⟩ := hd.distinct.popLocal hp
    refine ⟨⟨hd', fun y hy => hd.not_fresh y ((hiff y).mp hy).1⟩, fun hx' => ((hiff x).mp hx').2 rfl,
      hd.not_fresh x hx, hsub x hx, fun y hy => hsub y ((hiff y).mp hy).1⟩
  rcases getFrom_cases hg with ⟨hp, rfl⟩ | ⟨hp, rfl⟩ | ⟨-, d, hres, hp⟩
  · obtain ⟨hi, hx, hf, hc, hsub⟩ := hpop h hp fun y hy => hy
    exact ⟨hi, hx, hf, .inl hc, fun y hy => .inl (hsub y hy), fun _ hy => hy⟩
  · obtain ⟨hi, hx, hf, hc, hsub⟩ := hpop (h.transferTo cpu) hp fun y hy => mem_transferTo.mp hy
    exact ⟨hi, hx, hf, .inl hc, fun y hy => .inl (hsub y hy), fun _ hy => hy⟩
  · -- after the reserve the cache also holds items that were fresh
    obtain ⟨hi, -, -, hsub, hmono⟩ := (h.transferTo cpu).reserve hsrc hres
    have hi' := hi.transferTo cpu
    obtain ⟨hx, hd', hiff⟩ := hi'.distinct.popLocal hp
    have hsub' : ∀ y, c'.Mem y → c.Mem y ∨ (fresh s y ∧ ¬ fresh s' y) := by
      intro y hy
      rcases hsub y (mem_transferTo.mp ((hiff y).mp hy).1) with hc | hn
      · exact .inl (mem_transferTo.mp hc)
      · exact .inr hn
    refine ⟨⟨hd', fun y hy => hi'.not_fresh y ((hiff y).mp hy).1⟩,
      fun hx' => ((hiff x).mp hx').2 rfl, hi'.not_fresh x hx, ?_, hsub', hmono⟩
    rcases hsub x (mem_transferTo.mp hx) with hc | hn
    · exact .inl (mem_transferTo.mp hc)
    · exact .inr hn.1

end Fresh

/-! ## Where a `get`'s item comes from -/

section Moves

variable {newFn : σ → Option (List T × σ)}

/-- `reserve` pushes what a chain of `new_fn` calls hands out on the global stack. -/
theorem reserve_gathered {c c' : CoreLocalCache T} {globalSize fuel : ℕ} {s s' : σ}
    (h : c.reserve newFn globalSize fuel s = some (c', s')) :
    ∃ news, Gathered newFn s news s' ∧ c' = { c with global := news.reverse ++ c.global } := by
  unfold CoreLocalCache.reserve at h
  obtain ⟨r, hloop, hr⟩ := Option.map_eq_some_iff.mp h
  cases hr
  obtain ⟨news, hnews, hg⟩ := reserveLoop_gathered _ _ _ hloop
  rw [List.nil_append] at hnews
  exact ⟨news, hg, by rw [hnews]⟩

/-- What every `new_fn` call keeps of the state, and says of each item it hands out, holds of a
chain of calls. -/
theorem Gathered.preserve {β : Type} (key : σ → β) (P : T → Prop)
    (hcall : ∀ s items s', newFn s = some (items, s') → key s' = key s ∧ ∀ x ∈ items, P x)
    {s s' : σ} {news : List T} (hg : Gathered newFn s news s') :
    key s' = key s ∧ ∀ x ∈ news, P x := by
  induction hg with
  | nil s => exact ⟨rfl, fun _ hx => absurd hx List.not_mem_nil⟩
  | call hr _ ih =>
    obtain ⟨hkey, hitems⟩ := hcall _ _ _ hr
    refine ⟨ih.1.trans hkey, fun x hx => ?_⟩
    rcases List.mem_append.mp hx with hx | hx
    · exact hitems x hx
    · exact ih.2 x hx

/-- `transfer` on core `cpu` moves items between its stack and the global stack. -/
theorem transferTo_perm (c : CoreLocalCache T) (cpu : ℕ) :
    ((c.transferTo cpu).locals cpu ++ (c.transferTo cpu).global).Perm (c.locals cpu ++ c.global) := by
  simpa [transferTo] using transfer_perm c.perCoreCapacity (c.locals cpu) c.global

theorem transferTo_locals_of_ne (c : CoreLocalCache T) {cpu i : ℕ} (hi : i ≠ cpu) :
    (c.transferTo cpu).locals i = c.locals i := by
  simp [transferTo, hi]

/-- A pop takes the top of core `cpu`'s stack, and touches nothing else. -/
theorem popLocal_some {c c' : CoreLocalCache T} {cpu : ℕ} {x : T}
    (h : c.popLocal cpu = some (x, c')) :
    c.locals cpu = x :: c'.locals cpu ∧ c'.global = c.global ∧
      (∀ i, i ≠ cpu → c'.locals i = c.locals i) ∧ c'.perCoreCapacity = c.perCoreCapacity := by
  unfold CoreLocalCache.popLocal at h
  split at h
  · cases h
  · rename_i x' xs hl
    simp only [Option.some.injEq, Prod.mk.injEq] at h
    obtain ⟨rfl, rfl⟩ := h
    exact ⟨by simp [hl], rfl, fun i hi => by simp [hi], rfl⟩

/-- **Where a `get`'s item comes from.** It and core `cpu`'s and the global stacks afterwards
hold what those two stacks held and what the `new_fn` calls handed out; the other cores' stacks
and the capacity stay. -/
theorem getFrom_gathered {c c' : CoreLocalCache T} {cpu fuel : ℕ} {s s' : σ} {x : T}
    (h : c.getFrom newFn cpu fuel s = some (x, c', s')) :
    ∃ news, Gathered newFn s news s' ∧
      (x :: (c'.locals cpu ++ c'.global)).Perm (c.locals cpu ++ c.global ++ news) ∧
      (∀ i, i ≠ cpu → c'.locals i = c.locals i) ∧ c'.perCoreCapacity = c.perCoreCapacity := by
  -- a pop from a cache `d` whose two stacks are those of `c` up to order
  have hpop : ∀ {d d' : CoreLocalCache T} {news : List T}, d.popLocal cpu = some (x, d') →
      (d.locals cpu ++ d.global).Perm (c.locals cpu ++ c.global ++ news) →
      (∀ i, i ≠ cpu → d.locals i = c.locals i) → d.perCoreCapacity = c.perCoreCapacity →
      (x :: (d'.locals cpu ++ d'.global)).Perm (c.locals cpu ++ c.global ++ news) ∧
        (∀ i, i ≠ cpu → d'.locals i = c.locals i) ∧ d'.perCoreCapacity = c.perCoreCapacity := by
    intro d d' news hp hperm hother hcap
    obtain ⟨hl, hg, hi, hc⟩ := popLocal_some hp
    refine ⟨?_, fun i hne => (hi i hne).trans (hother i hne), hc.trans hcap⟩
    rw [hg, ← List.cons_append, ← hl]
    exact hperm
  have htr := transferTo_perm c cpu
  rcases getFrom_cases h with ⟨hp, rfl⟩ | ⟨hp, rfl⟩ | ⟨hnone, d, hres, hp⟩
  · exact ⟨[], .nil _, hpop hp (by simp) (fun _ _ => rfl) rfl⟩
  · exact ⟨[], .nil _, hpop hp (by simpa using htr) (fun i hi => transferTo_locals_of_ne c hi) rfl⟩
  · obtain ⟨news, hg, hr1⟩ := reserve_gathered hres
    -- the transfer found the global stack empty, so the reserve's items are all there is
    have hempty : (c.transferTo cpu).locals cpu = [] := by
      unfold CoreLocalCache.popLocal at hnone
      split at hnone
      · assumption
      · cases hnone
    have hperm : ((d.transferTo cpu).locals cpu ++ (d.transferTo cpu).global).Perm
        (c.locals cpu ++ c.global ++ news) := by
      refine (transferTo_perm d cpu).trans ?_
      rw [hr1]
      simp only [hempty, List.nil_append]
      have h2 : (c.transferTo cpu).global.Perm (c.locals cpu ++ c.global) := by
        simpa [hempty] using htr
      exact ((List.reverse_perm news).append_right _).trans
        (List.perm_append_comm.trans (h2.append_right _))
    refine ⟨news, hg, hpop hp hperm (fun i hi => ?_) (by rw [hr1]; rfl)⟩
    rw [transferTo_locals_of_ne _ hi, hr1]
    exact transferTo_locals_of_ne c hi

/-- **An item `get` returns or leaves in the cache** was in the cache or came from one of its
`new_fn` calls. -/
theorem getFrom_mem {c c' : CoreLocalCache T} {cpu fuel : ℕ} {s s' : σ} {x : T}
    (h : c.getFrom newFn cpu fuel s = some (x, c', s')) :
    ∃ news, Gathered newFn s news s' ∧ ∀ y, y = x ∨ c'.Mem y → c.Mem y ∨ y ∈ news := by
  obtain ⟨news, hg, hperm, hother, -⟩ := getFrom_gathered h
  -- what the two stacks `get` works on hold afterwards, with the item
  have hmoved : ∀ y, y ∈ x :: (c'.locals cpu ++ c'.global) → c.Mem y ∨ y ∈ news := by
    intro y hy
    rcases List.mem_append.mp (hperm.subset hy) with hy | hy
    · rcases List.mem_append.mp hy with hy | hy
      · exact .inl (.inr ⟨cpu, hy⟩)
      · exact .inl (.inl hy)
    · exact .inr hy
  refine ⟨news, hg, fun y hy => ?_⟩
  rcases hy with rfl | hy | ⟨i, hy⟩
  · exact hmoved y List.mem_cons_self
  · exact hmoved y (List.mem_cons_of_mem _ (List.mem_append_right _ hy))
  · by_cases hi : i = cpu
    · subst hi
      exact hmoved y (List.mem_cons_of_mem _ (List.mem_append_left _ hy))
    · rw [hother i hi] at hy
      exact .inl (.inr ⟨i, hy⟩)

end Moves

/-! ## A cache used from one core -/

section Order

variable {newFn : σ → Option (List T × σ)}

/-- `transfer` moves the whole global stack when the core's stack has room for it. -/
theorem transfer_of_le {cap : ℕ} :
    ∀ {l g : List T}, l.length + g.length ≤ cap → transfer cap l g = (g.reverse ++ l, [])
  | l, [], _ => by simp [transfer]
  | l, x :: xs, h => by
    simp only [List.length_cons] at h
    rw [transfer, if_pos (by omega), transfer_of_le (by simp only [List.length_cons]; omega)]
    simp

/-- `reserve`'s loop stops once it has gathered enough. -/
theorem reserveLoop_of_le {globalSize : ℕ} {items : List T} (h : globalSize ≤ items.length)
    (fuel : ℕ) (s : σ) : reserveLoop newFn globalSize fuel items s = some (items, s) := by
  cases fuel <;> simp [reserveLoop, h]

/-- `get` pops the top of the core's stack when there is one. -/
theorem getFrom_cons {c : CoreLocalCache T} {cpu fuel : ℕ} {x : T} {xs : List T}
    (h : c.locals cpu = x :: xs) (s : σ) :
    c.getFrom newFn cpu fuel s = some (x, { c with locals := Function.update c.locals cpu xs }, s) := by
  simp [getFrom, popLocal, h]

/-- **`get` on an empty cache** reserves one batch of exactly its capacity, moves it to the
core's stack, and pops the first item `new_fn` handed out: the batch comes out in order. -/
theorem getFrom_refill {c : CoreLocalCache T} {cpu fuel : ℕ} {x : T} {xs : List T} {s s' : σ}
    (hl : c.locals cpu = []) (hg : c.global = []) (hcap : c.perCoreCapacity = xs.length + 1)
    (hnew : newFn s = some (x :: xs, s')) :
    c.getFrom newFn cpu (fuel + 1) s =
      some (x, { c with locals := Function.update c.locals cpu xs }, s') := by
  -- the transfer finds nothing to move, and the reserve's one call gathers enough
  have htr : c.transferTo cpu = { c with locals := Function.update c.locals cpu [], global := [] } := by
    simp [transferTo, hl, hg, transfer]
  have hloop : reserveLoop newFn c.perCoreCapacity (fuel + 1) [] s = some (x :: xs, s') := by
    rw [hcap, reserveLoop, if_neg (by simp), hnew, Option.bind_some, List.nil_append]
    exact reserveLoop_of_le (by simp) _ _
  have hmove : transfer c.perCoreCapacity [] (x :: xs).reverse = (x :: xs, []) := by
    rw [transfer_of_le (by simp [hcap]), List.reverse_reverse, List.append_nil]
  have hpop : c.popLocal cpu = none := by simp [popLocal, hl]
  have hpop₁ : (c.transferTo cpu).popLocal cpu = none := by simp [htr, popLocal]
  have hres : (c.transferTo cpu).reserve newFn c.perCoreCapacity (fuel + 1) s =
      some ({ c with locals := Function.update c.locals cpu [], global := (x :: xs).reverse }, s') := by
    simp [reserve, htr, hloop]
  -- the batch moves to the core's stack, first item on top
  have hpop₂ : popLocal (transferTo
      { c with locals := Function.update c.locals cpu [], global := (x :: xs).reverse } cpu) cpu =
        some (x, { c with locals := Function.update c.locals cpu xs }) := by
    simp only [transferTo, Function.update_self, hmove, popLocal, Function.update_idem, hg]
  rw [getFrom, hpop]
  simp only
  rw [getSlowPath, hpop₁]
  simp only
  rw [hres, Option.bind_some, hpop₂, Option.map_some]

end Order

end CoreLocalCache

end Sandook
