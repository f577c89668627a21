import Mathlib
import Sandook.Lib.Placement

/-!
# The slab allocator (`mem/slab.{h,cc}`)

Model of `SlabAllocator` on one core, with `kEnableTransferCache = false`: `allocate`, `free`
and `reallocate`, the per-class lists of the core's cache and of the global pool, and the bump
pointer `cur_` over the region `[start_, end_)`.

* Addresses are natural numbers and `0` is `nullptr`. Sizes are `size_t` values; a size of `2^64`
  or more, which no `size_t` holds, is of a class above `kMaxSlabClassShift` like the largest ones.
* A `FreePtrsList` is its chain of batches. A batch is written in a free slab; its slot `0` links
  the next batch and its slots `1, 2, …` hold free slabs, filled from the bottom and emptied from
  the top, so that a batch is its address and the list of its filled slots. `size_` is kept
  beside the chain, and the structure carries that it counts the chain. The chain is read as
  the stack it implements (`FreePtrsList.stack`).
* `hdrSize` is the `size` field of the `PtrHeader` each slab starts with. A free slab's header is
  overwritten by the batch written there, which the model does not follow: `free` and
  `reallocate` only read the headers of live slabs. `core_id` is written and never read when the
  transfer cache is disabled, and `drain_transferred_cache` does nothing. What `reallocate`
  copies between allocations is not modelled.
* `none` is a `BUG_ON` that fires or undefined behaviour. `get_max_num_cache_entries` shifts the
  `int` `1` by the slab shift, which is undefined for the shifts `32` to `35` that
  `kMaxSlabClassShift` admits.
* The loops that move slabs between two lists run on the size of the list they pop as fuel:
  each round pops one slab.
* A run (`SlabAllocator.Step`) is a client's calls that free and reallocate only its live
  allocations; the state carries those allocations beside the allocator.

Results:
* `SlabAllocator.Inv`: every slab carved from `[start_, cur_)` is free in the lists of its class
  or live, inside the region, aligned, of a class from `5` to `31`, and apart from the others.
  `allocate_spec`, `free_spec` and `reallocate_spec` keep it, and `reachable_inv` holds it along
  every run.
* `SlabAllocator.reachable_safe`: along every run, live allocations are aligned, inside the
  region and pairwise apart; `allocate` of a size of a defined class returns, and `nullptr` only
  when the size is `0` or too large or the class is exhausted; `free` and `reallocate` of a live
  allocation return.
* `SlabAllocator.reachable_allocate_undefined`: `allocate` of a size above `2^31` up to `2^35` is
  undefined in every reachable state.
* `SlabAllocator.getMaxNumCacheEntries_classes`: `get_max_num_cache_entries` is
  `min(kMaxCacheEntries, kMaxCacheSizeBytes / 2^shift)` up to the shift `31` and undefined from
  `32` on, and one `allocate` carves at most `max(1, kMaxCacheSizeBytes / 2^shift)` fresh slabs.
-/

namespace Sandook.Mem

open Sandook.Lib

/-! ## Constants and size classes -/

/-- `kMemAlignment`. -/
def kMemAlignment : ℕ := 16

/-- `sizeof(PtrHeader)`: its `size` and `core_id`, two `uint64_t`. -/
def kPtrHeaderSize : ℕ := 16

/-- `kMaxSlabClassShift` (32 GB). -/
def kMaxSlabClassShift : ℕ := 35

/-- `kMinSlabClassShift` (32 B). -/
def kMinSlabClassShift : ℕ := 5

/-- `kMaxCacheSizeBytes`. -/
def kMaxCacheSizeBytes : ℕ := 32768

/-- `kMaxCacheEntries`. -/
def kMaxCacheEntries : ℕ := 64

/-- `kBatchSize = (kMinObjectSize + sizeof(PtrHeader)) / sizeof(void *)`, the slots of a batch,
with `kMinObjectSize = 1 << kMinSlabClassShift`. -/
def kBatchSize : ℕ := (2 ^ kMinSlabClassShift + kPtrHeaderSize) / 8

/-- `get_slab_shift(data_size)`: the least shift whose power of two holds `data_size`, at least
`kMinSlabClassShift`; `bsr_64` is the index of the highest set bit. -/
def getSlabShift (dataSize : ℕ) : ℕ :=
  if dataSize ≤ 2 ^ kMinSlabClassShift then kMinSlabClassShift
  else Nat.log2 (dataSize - 1) + 1

/-- `get_slab_size(slab_shift)`: a slab's object and its header. -/
def getSlabSize (slabShift : ℕ) : ℕ := 2 ^ slabShift + kPtrHeaderSize

/-- `get_max_num_cache_entries(slab_shift)`:
`std::min(kMaxCacheEntries, kMaxCacheSizeBytes / (1 << slab_shift))`. The `1` is an `int`: the
shift is undefined from `32` on, and the shift by `31` is `INT_MIN`, which the division converts
to `uint64_t`. -/
def getMaxNumCacheEntries (slabShift : ℕ) : Option ℕ :=
  if slabShift < 32 then
    let shifted : ℤ := Int.bmod (2 ^ slabShift) (2 ^ 32)
    some (min kMaxCacheEntries (kMaxCacheSizeBytes / (shifted % 2 ^ 64).toNat))
  else none

/-! ## Free pointer lists -/

/-- The pointers a chain of batches holds: each batch's filled slots, and the batch itself. -/
def batchPtrs (batches : List (ℕ × List ℕ)) : ℕ := (batches.map fun b => b.2.length + 1).sum

/-- `push(ptr)` on a chain: into the head's first free slot, or as a new head linking the old. -/
def pushBatch (batches : List (ℕ × List ℕ)) (ptr : ℕ) : List (ℕ × List ℕ) :=
  match batches with
  | [] => [(ptr, [])]
  | (head, slots) :: rest =>
    if slots.length < kBatchSize - 1 then (head, slots ++ [ptr]) :: rest
    else (ptr, []) :: (head, slots) :: rest

/-- `pop()` on a chain: the head's top filled slot, or the head itself, which unlinks it;
`BUG_ON(!head_)` on an empty chain. -/
def popBatch : List (ℕ × List ℕ) → Option (ℕ × List (ℕ × List ℕ))
  | [] => none
  | (head, []) :: rest => some (head, rest)
  | (head, s :: ss) :: rest =>
    some ((s :: ss).getLast (List.cons_ne_nil s ss), (head, (s :: ss).dropLast) :: rest)

theorem batchPtrs_pushBatch (batches : List (ℕ × List ℕ)) (ptr : ℕ) :
    batchPtrs (pushBatch batches ptr) = batchPtrs batches + 1 := by
  cases batches with
  | nil => rfl
  | cons b rest =>
    obtain ⟨head, slots⟩ := b
    simp only [pushBatch]
    split_ifs <;> simp [batchPtrs] <;> omega

theorem batchPtrs_popBatch {batches rest : List (ℕ × List ℕ)} {ptr : ℕ}
    (h : popBatch batches = some (ptr, rest)) : batchPtrs batches = batchPtrs rest + 1 := by
  match batches, h with
  | (head, []) :: rest, rfl => simp [batchPtrs]; omega
  | (head, s :: ss) :: rest, h =>
    cases h
    simp [batchPtrs]
    omega

/-- The stack a chain implements: each batch's slots from the top, then the batch. -/
def batchStack (batches : List (ℕ × List ℕ)) : List ℕ := batches.flatMap fun b => b.2.reverse ++ [b.1]

/-- `FreePtrsList`: its chain of batches, and `size_`, which counts it. -/
structure FreePtrsList where
  batches : List (ℕ × List ℕ)
  size : ℕ
  size_eq : size = batchPtrs batches

namespace FreePtrsList

/-- The list `FreePtrsList()` starts as. -/
def empty : FreePtrsList := ⟨[], 0, rfl⟩

/-- `push(ptr)`. -/
def push (l : FreePtrsList) (ptr : ℕ) : FreePtrsList :=
  ⟨pushBatch l.batches ptr, l.size + 1, by rw [l.size_eq, batchPtrs_pushBatch]⟩

/-- `pop()`: `size_--`, then the chain's pop. -/
def pop (l : FreePtrsList) : Option (ℕ × FreePtrsList) :=
  match h : popBatch l.batches with
  | none => none
  | some (ptr, batches) =>
    some (ptr, ⟨batches, l.size - 1, by rw [l.size_eq, batchPtrs_popBatch h]; rfl⟩)

/-- The stack the list implements. -/
def stack (l : FreePtrsList) : List ℕ := batchStack l.batches

end FreePtrsList

/-! ## Free pointer lists are stacks -/

theorem batchPtrs_eq_length (batches : List (ℕ × List ℕ)) :
    batchPtrs batches = (batchStack batches).length := by
  induction batches with
  | nil => rfl
  | cons b rest ih =>
    simp only [batchPtrs, batchStack, List.map_cons, List.sum_cons, List.flatMap_cons,
      List.length_append, List.length_reverse, List.length_singleton] at ih ⊢
    rw [ih]

theorem batchStack_pushBatch (batches : List (ℕ × List ℕ)) (ptr : ℕ) :
    batchStack (pushBatch batches ptr) = ptr :: batchStack batches := by
  cases batches with
  | nil => rfl
  | cons b rest =>
    obtain ⟨head, slots⟩ := b
    simp only [pushBatch]
    split_ifs <;> simp [batchStack]

theorem batchStack_popBatch {batches rest : List (ℕ × List ℕ)} {ptr : ℕ}
    (h : popBatch batches = some (ptr, rest)) : batchStack batches = ptr :: batchStack rest := by
  match batches, h with
  | (head, []) :: rest, rfl => simp [batchStack]
  | (head, s :: ss) :: rest, h =>
    cases h
    -- the top slot is the last one filled
    have hsplit := List.dropLast_append_getLast (List.cons_ne_nil s ss)
    simp only [batchStack, List.flatMap_cons]
    conv_lhs => rw [← hsplit]
    simp

theorem popBatch_isSome {batches : List (ℕ × List ℕ)} (h : batches ≠ []) :
    ∃ r, popBatch batches = some r := by
  match batches, h with
  | (head, []) :: rest, _ => exact ⟨_, rfl⟩
  | (head, s :: ss) :: rest, _ => exact ⟨_, rfl⟩

namespace FreePtrsList

@[simp]
theorem stack_empty : empty.stack = [] := rfl

theorem size_eq_length (l : FreePtrsList) : l.size = l.stack.length :=
  l.size_eq.trans (batchPtrs_eq_length _)

@[simp]
theorem stack_push (l : FreePtrsList) (ptr : ℕ) : (l.push ptr).stack = ptr :: l.stack :=
  batchStack_pushBatch l.batches ptr

@[simp]
theorem size_push (l : FreePtrsList) (ptr : ℕ) : (l.push ptr).size = l.size + 1 := rfl

/-- `pop` takes the top of the stack. -/
theorem stack_pop {l l' : FreePtrsList} {ptr : ℕ} (h : l.pop = some (ptr, l')) :
    l.stack = ptr :: l'.stack := by
  unfold pop at h
  split at h
  · cases h
  · rename_i ptr' batches heq
    cases h
    exact batchStack_popBatch heq

/-- A list whose size is positive pops. -/
theorem pop_of_pos {l : FreePtrsList} (h : 0 < l.size) : ∃ ptr l', l.pop = some (ptr, l') := by
  have hne : l.batches ≠ [] := by
    intro hnil
    rw [l.size_eq, hnil] at h
    exact absurd h (Nat.lt_irrefl 0)
  obtain ⟨r, hr⟩ := popBatch_isSome hne
  unfold pop
  split
  · rename_i heq
    rw [hr] at heq
    cases heq
  · exact ⟨_, _, rfl⟩

end FreePtrsList

/-! ## The allocator -/

/-- `SlabAllocator` on its one core: the region, the bump pointer, the global lists
`slab_lists_` and the core's cache lists by slab shift, and the slabs' header sizes. -/
structure SlabAllocator where
  start : ℕ
  end_ : ℕ
  cur : ℕ
  slabLists : ℕ → FreePtrsList
  cacheLists : ℕ → FreePtrsList
  hdrSize : ℕ → ℕ

namespace SlabAllocator

/-- `SlabAllocator(mem)` on the region `[start, end_)`, whose headers hold `garbage`. -/
def init (start end_ : ℕ) (garbage : ℕ → ℕ) : SlabAllocator :=
  ⟨start, end_, start, fun _ => .empty, fun _ => .empty, garbage⟩

/-- The global list and the cache list of one class, replaced. -/
def setLists (a : SlabAllocator) (slabShift : ℕ) (slabList cacheList : FreePtrsList) :
    SlabAllocator :=
  { a with slabLists := Function.update a.slabLists slabShift slabList,
           cacheLists := Function.update a.cacheLists slabShift cacheList }

/-- `while (slab_list.size() && cache_list.size() < max_num_cache_entries)
cache_list.push(slab_list.pop())`. -/
def refillLoop (maxNum : ℕ) :
    ℕ → FreePtrsList → FreePtrsList → Option (FreePtrsList × FreePtrsList)
  | 0, slabList, cacheList => some (slabList, cacheList)
  | fuel + 1, slabList, cacheList =>
    if 0 < slabList.size ∧ cacheList.size < maxNum then
      slabList.pop.bind fun r => refillLoop maxNum fuel r.2 (cacheList.push r.1)
    else some (slabList, cacheList)

/-- `for (i = 0; i < remaining && cur_ + slab_size <= end_; i++)
{ cache_list.push(cur_); cur_ += slab_size; }`. -/
def bumpLoop (slabSize end_ : ℕ) : ℕ → FreePtrsList → ℕ → FreePtrsList × ℕ
  | 0, cacheList, cur => (cacheList, cur)
  | remaining + 1, cacheList, cur =>
    if cur + slabSize ≤ end_ then bumpLoop slabSize end_ remaining (cacheList.push cur) (cur + slabSize)
    else (cacheList, cur)

/-- `while (cache_list.size() > max_num_cache_entries / 2) slab_list.push(cache_list.pop())`,
with `keep` the half. -/
def spillLoop (keep : ℕ) :
    ℕ → FreePtrsList → FreePtrsList → Option (FreePtrsList × FreePtrsList)
  | 0, cacheList, slabList => some (cacheList, slabList)
  | fuel + 1, cacheList, slabList =>
    if keep < cacheList.size then
      cacheList.pop.bind fun r => spillLoop keep fuel r.2 (slabList.push r.1)
    else some (cacheList, slabList)

/-- The slow path of `allocate`: refill the cache list from the global list, bump the break for
what is still missing, then pop; `0` when the cache list stays empty. -/
def slowPath (a : SlabAllocator) (slabShift : ℕ) : Option (ℕ × SlabAllocator) :=
  (getMaxNumCacheEntries slabShift).bind fun m =>
    -- need at least one entry to serve the allocation
    let maxNum := max m 1
    (refillLoop maxNum (a.slabLists slabShift).size (a.slabLists slabShift)
        (a.cacheLists slabShift)).bind fun r =>
      let remaining := maxNum - r.2.size
      let bumped := if remaining ≠ 0 then bumpLoop (getSlabSize slabShift) a.end_ remaining r.2 a.cur
        else (r.2, a.cur)
      let a := { a.setLists slabShift r.1 bumped.1 with cur := bumped.2 }
      if 0 < bumped.1.size then
        bumped.1.pop.map fun p => (p.1, a.setLists slabShift r.1 p.2)
      else some (0, a)

/-- The slab `allocate` takes for a class: the fast path pops the cache list when it holds one,
the slow path refills it first. -/
def takeSlab (a : SlabAllocator) (slabShift : ℕ) : Option (ℕ × SlabAllocator) :=
  if 0 < (a.cacheLists slabShift).size then
    (a.cacheLists slabShift).pop.map fun p => (p.1, a.setLists slabShift (a.slabLists slabShift) p.2)
  else a.slowPath slabShift

/-- `allocate(size)`: the pointer returned, `0` for `nullptr`, and the allocator after it. -/
def allocate (a : SlabAllocator) (size : ℕ) : Option (ℕ × SlabAllocator) :=
  let slabShift := getSlabShift size
  if size = 0 ∨ kMaxSlabClassShift < slabShift then some (0, a)
  else
    (a.takeSlab slabShift).bind fun r =>
      if r.1 = 0 then some (0, r.2)
      else
        let addr := r.1 + kPtrHeaderSize
        if addr % kMemAlignment ≠ 0 then none
        else some (addr, { r.2 with hdrSize := Function.update r.2.hdrSize r.1 size })

/-- `free_to_cache_list(hdr, slab_shift)`: push to the cache list, and move all but half of
`max_num_cache_entries` to the global list when it overflows. -/
def freeToCacheList (a : SlabAllocator) (hdr slabShift : ℕ) : Option SlabAllocator :=
  (getMaxNumCacheEntries slabShift).bind fun maxNum =>
    let cacheList := (a.cacheLists slabShift).push hdr
    if maxNum < cacheList.size then
      (spillLoop (maxNum / 2) cacheList.size cacheList (a.slabLists slabShift)).map fun r =>
        a.setLists slabShift r.2 r.1
    else some (a.setLists slabShift (a.slabLists slabShift) cacheList)

/-- `do_free(hdr, slab_shift)`: with the transfer cache disabled, straight to the cache list. -/
def doFree (a : SlabAllocator) (hdr slabShift : ℕ) : Option SlabAllocator :=
  a.freeToCacheList hdr slabShift

/-- `free(ptr)`. -/
def free (a : SlabAllocator) (ptr : ℕ) : Option SlabAllocator :=
  if ptr = 0 then some a
  else if ptr < a.start ∨ a.cur ≤ ptr then none
  else
    let hdr := ptr - kPtrHeaderSize
    let slabShift := getSlabShift (a.hdrSize hdr)
    if slabShift < kMinSlabClassShift ∨ kMaxSlabClassShift < slabShift then none
    else a.doFree hdr slabShift

/-- `reallocate(ptr, new_size)`: allocate, then free the old slab, of the class its header
gave before the allocation. -/
def reallocate (a : SlabAllocator) (ptr newSize : ℕ) : Option (ℕ × SlabAllocator) :=
  if ptr < a.start ∨ a.cur ≤ ptr then none
  else
    let hdr := ptr - kPtrHeaderSize
    let slabShift := getSlabShift (a.hdrSize hdr)
    (a.allocate newSize).bind fun r =>
      if r.1 = 0 then some (0, r.2)
      else (r.2.doFree hdr slabShift).map fun a => (r.1, a)

end SlabAllocator

/-! ## Size classes -/

theorem kMinSlabClassShift_le_getSlabShift (n : ℕ) : kMinSlabClassShift ≤ getSlabShift n := by
  unfold getSlabShift
  split_ifs with h
  · exact Nat.le_refl _
  · -- past `32` bytes, `data_size - 1` has a bit at `5` or above
    have h32 : 2 ^ 5 ≤ n - 1 := by
      simp only [kMinSlabClassShift, not_le] at h
      omega
    have := (Nat.le_log2 (by omega)).mpr h32
    simp only [kMinSlabClassShift]
    omega

/-- A size fits the object of its class. -/
theorem le_two_pow_getSlabShift (n : ℕ) : n ≤ 2 ^ getSlabShift n := by
  unfold getSlabShift
  split_ifs with h
  · exact h
  · have := Nat.lt_log2_self (n := n - 1)
    omega

/-- A class from `kMinSlabClassShift` on holds exactly the sizes up to its power of two. -/
theorem getSlabShift_le_iff {n k : ℕ} (hk : kMinSlabClassShift ≤ k) :
    getSlabShift n ≤ k ↔ n ≤ 2 ^ k := by
  unfold getSlabShift
  split_ifs with h
  · have : 2 ^ kMinSlabClassShift ≤ 2 ^ k := Nat.pow_le_pow_right (by decide) hk
    exact ⟨fun _ => h.trans this, fun _ => hk⟩
  · have hpos : n - 1 ≠ 0 := by
      simp only [kMinSlabClassShift, not_le] at h
      omega
    rw [Nat.add_one_le_iff, Nat.log2_lt hpos]
    omega

/-- The classes `32` to `kMaxSlabClassShift`, for which `get_max_num_cache_entries` is undefined,
hold the sizes above `2^31` up to `2^35`. -/
theorem getSlabShift_undefined_iff {n : ℕ} :
    ¬(getSlabShift n < 32 ∨ kMaxSlabClassShift < getSlabShift n) ↔ 2 ^ 31 < n ∧ n ≤ 2 ^ 35 := by
  have h31 := getSlabShift_le_iff (n := n) (k := 31) (by decide)
  have h35 := getSlabShift_le_iff (n := n) (k := 35) (by decide)
  simp only [kMaxSlabClassShift]
  omega

theorem getMaxNumCacheEntries_of_lt {slabShift : ℕ} (h : slabShift < 32) :
    ∃ m, getMaxNumCacheEntries slabShift = some m :=
  ⟨_, if_pos h⟩

theorem getMaxNumCacheEntries_of_le {slabShift : ℕ} (h : 32 ≤ slabShift) :
    getMaxNumCacheEntries slabShift = none :=
  if_neg (Nat.not_lt.mpr h)

/-- Where the shift is defined, `get_max_num_cache_entries` is the bound it is meant to be. -/
theorem getMaxNumCacheEntries_eq {slabShift : ℕ} (h : slabShift < 32) :
    getMaxNumCacheEntries slabShift =
      some (min kMaxCacheEntries (kMaxCacheSizeBytes / 2 ^ slabShift)) := by
  rcases Nat.lt_or_ge slabShift 31 with h31 | h31
  · -- below `31` the shifted `int` is the power itself
    have hpow : (2 : ℤ) ^ slabShift < 2 ^ 31 := pow_lt_pow_right₀ (by norm_num) h31
    have hnn : (0 : ℤ) ≤ 2 ^ slabShift := by positivity
    have hbmod : Int.bmod (2 ^ slabShift) (2 ^ 32) = 2 ^ slabShift :=
      Int.bmod_eq_of_le (by omega) (by omega)
    have hemod : (2 : ℤ) ^ slabShift % 2 ^ 64 = 2 ^ slabShift :=
      Int.emod_eq_of_lt hnn (by omega)
    have htoNat : ((2 : ℤ) ^ slabShift).toNat = 2 ^ slabShift := by
      rw [← Nat.cast_ofNat, ← Nat.cast_pow, Int.toNat_natCast]
    rw [getMaxNumCacheEntries, if_pos h]
    simp only [hbmod, hemod, htoNat]
  · -- the shift by `31` is `INT_MIN`, whose `uint64_t` value is above `32768`, as `2^31` is
    obtain rfl : slabShift = 31 := by omega
    decide

theorem getSlabSize_aligned {slabShift : ℕ} (h : kMinSlabClassShift ≤ slabShift) :
    getSlabSize slabShift % kMemAlignment = 0 := by
  have hdvd : 2 ^ 4 ∣ 2 ^ slabShift :=
    Nat.pow_dvd_pow 2 (Nat.le_trans (by decide) h)
  exact Nat.mod_eq_zero_of_dvd (Nat.dvd_add hdvd (Nat.dvd_refl _))

theorem kPtrHeaderSize_lt_getSlabSize (slabShift : ℕ) : kPtrHeaderSize < getSlabSize slabShift := by
  have := Nat.one_le_two_pow (n := slabShift)
  simp only [getSlabSize]
  omega

/-! ## Carved slabs -/

/-- Two slabs, each its address and its slab shift, share no byte. -/
def Apart (x y : ℕ × ℕ) : Prop := x.1 + getSlabSize x.2 ≤ y.1 ∨ y.1 + getSlabSize y.2 ≤ x.1

theorem Apart.symm {x y : ℕ × ℕ} (h : Apart x y) : Apart y x := Or.symm h

theorem not_apart_self (x : ℕ × ℕ) : ¬Apart x x := by
  have := kPtrHeaderSize_lt_getSlabSize x.2
  simp only [Apart, or_self]
  omega

/-- Slabs carved from `[start, cur)`: inside it, aligned, of a class from `kMinSlabClassShift` up
to `31`, and pairwise apart. -/
structure Carved (start cur : ℕ) (L : List (ℕ × ℕ)) : Prop where
  inside : ∀ x ∈ L, start ≤ x.1 ∧ x.1 + getSlabSize x.2 ≤ cur
  aligned : ∀ x ∈ L, x.1 % kMemAlignment = 0
  classes : ∀ x ∈ L, kMinSlabClassShift ≤ x.2 ∧ x.2 < 32
  apart : L.Pairwise Apart

section Carved

variable {start cur : ℕ} {L L' : List (ℕ × ℕ)}

theorem Carved.perm (h : Carved start cur L) (hp : L'.Perm L) : Carved start cur L' :=
  ⟨fun x hx => h.inside x (hp.mem_iff.mp hx), fun x hx => h.aligned x (hp.mem_iff.mp hx),
    fun x hx => h.classes x (hp.mem_iff.mp hx), hp.symm.pairwise h.apart Apart.symm⟩

/-- The slabs `cur, cur + size, …` that the bump pointer carves, `k` of them, of class `s`. -/
def carvedFrom (cur s k : ℕ) : List (ℕ × ℕ) :=
  (List.range k).map fun i => (cur + i * getSlabSize s, s)

/-- **Bumping the break keeps the slabs carved**: the new ones lie between the old break and the
new, one after the other. -/
theorem Carved.bump (h : Carved start cur L) (hle : start ≤ cur) (hcur : cur % kMemAlignment = 0)
    {s : ℕ} (hs : kMinSlabClassShift ≤ s ∧ s < 32) (k : ℕ) :
    Carved start (cur + k * getSlabSize s) (carvedFrom cur s k ++ L) := by
  have hsize := getSlabSize_aligned hs.1
  refine ⟨fun x hx => ?_, fun x hx => ?_, fun x hx => ?_, ?_⟩
  · rcases List.mem_append.mp hx with hx | hx
    · obtain ⟨i, hi, rfl⟩ := List.mem_map.mp hx
      have hik : i + 1 ≤ k := List.mem_range.mp hi
      have := Nat.mul_le_mul_right (getSlabSize s) hik
      simp only [Nat.succ_mul] at this
      exact ⟨by omega, by simp only; omega⟩
    · obtain ⟨h₁, h₂⟩ := h.inside x hx
      exact ⟨h₁, by have := Nat.zero_le (k * getSlabSize s); omega⟩
  · rcases List.mem_append.mp hx with hx | hx
    · obtain ⟨i, -, rfl⟩ := List.mem_map.mp hx
      exact Nat.mod_eq_zero_of_dvd (Nat.dvd_add (Nat.dvd_of_mod_eq_zero hcur)
        (Nat.dvd_mul_left_of_dvd (Nat.dvd_of_mod_eq_zero hsize) i))
    · exact h.aligned x hx
  · rcases List.mem_append.mp hx with hx | hx
    · obtain ⟨i, -, rfl⟩ := List.mem_map.mp hx
      exact hs
    · exact h.classes x hx
  · refine List.pairwise_append.mpr ⟨?_, h.apart, fun x hx y hy => ?_⟩
    · -- consecutive slabs: the `i`-th ends where the `(i + 1)`-th starts
      refine List.pairwise_map.mpr (List.pairwise_lt_range.imp fun {i j} hij => .inl ?_)
      have := Nat.mul_le_mul_right (getSlabSize s) (Nat.succ_le_of_lt hij)
      simp only [Nat.succ_mul] at this
      simp only
      omega
    · -- a new slab starts at or past the old break, where every old one ends
      obtain ⟨i, -, rfl⟩ := List.mem_map.mp hx
      exact .inr (by have := (h.inside y hy).2; simp only; omega)

/-- No slab is at address `0`: a span at `0` is empty. -/
theorem Carved.pos {end_ : ℕ} (h : Carved start cur L)
    (hspan : 0 < start ∨ start = end_) (hcur : cur ≤ end_) {x : ℕ × ℕ} (hx : x ∈ L) : 0 < x.1 := by
  obtain ⟨h₁, h₂⟩ := h.inside x hx
  have := kPtrHeaderSize_lt_getSlabSize x.2
  rcases hspan with hpos | heq
  · omega
  · omega

end Carved

/-! ## The loops -/

namespace SlabAllocator

/-- The refill loop moves slabs from the global list to the cache list; it pops at least one
when it may. -/
theorem refillLoop_spec (maxNum : ℕ) :
    ∀ (fuel : ℕ) (slabList cacheList : FreePtrsList),
      ∃ slabList' cacheList', refillLoop maxNum fuel slabList cacheList =
          some (slabList', cacheList') ∧
        (cacheList'.stack ++ slabList'.stack).Perm (cacheList.stack ++ slabList.stack) ∧
        cacheList.size ≤ cacheList'.size ∧
        (0 < fuel → 0 < slabList.size → cacheList.size < maxNum →
          cacheList.size < cacheList'.size)
  | 0, slabList, cacheList => ⟨_, _, rfl, List.Perm.refl _, Nat.le_refl _, fun h => absurd h (by decide)⟩
  | fuel + 1, slabList, cacheList => by
    simp only [refillLoop]
    split_ifs with hgo
    · obtain ⟨x, slabList₁, hpop⟩ := FreePtrsList.pop_of_pos hgo.1
      obtain ⟨sl, cl, hrun, hperm, hsize, -⟩ := refillLoop_spec maxNum fuel slabList₁ (cacheList.push x)
      refine ⟨sl, cl, by rw [hpop, Option.bind_some, hrun], ?_, ?_, fun _ _ _ => ?_⟩
      · rw [FreePtrsList.stack_pop hpop]
        rw [FreePtrsList.stack_push] at hperm
        exact hperm.trans (List.perm_middle.symm)
      · rw [FreePtrsList.size_push] at hsize
        omega
      · rw [FreePtrsList.size_push] at hsize
        omega
    · exact ⟨_, _, rfl, List.Perm.refl _, Nat.le_refl _, fun _ h₁ h₂ => absurd ⟨h₁, h₂⟩ hgo⟩

/-- The bump loop carves `k` slabs, at most `remaining`, pushing each as it goes; it stops short
only when the next would pass `end_`. -/
theorem bumpLoop_spec (slabSize end_ : ℕ) :
    ∀ (remaining : ℕ) (cacheList : FreePtrsList) (cur : ℕ), ∃ k ≤ remaining,
      (bumpLoop slabSize end_ remaining cacheList cur).2 = cur + k * slabSize ∧
      (bumpLoop slabSize end_ remaining cacheList cur).1.stack =
        ((List.range k).map fun i => cur + i * slabSize).reverse ++ cacheList.stack ∧
      (cur ≤ end_ → cur + k * slabSize ≤ end_) ∧
      (k < remaining → end_ < cur + k * slabSize + slabSize)
  | 0, cacheList, cur => ⟨0, Nat.le_refl _, by simp [bumpLoop]⟩
  | remaining + 1, cacheList, cur => by
    simp only [bumpLoop]
    split_ifs with hfit
    · obtain ⟨k, hk, hcur, hstack, hle, hstop⟩ :=
        bumpLoop_spec slabSize end_ remaining (cacheList.push cur) (cur + slabSize)
      refine ⟨k + 1, by omega, by rw [hcur, Nat.succ_mul]; omega, ?_, fun _ => ?_, fun h => ?_⟩
      · rw [hstack, FreePtrsList.stack_push, List.range_succ_eq_map, List.map_cons,
          List.map_map, List.reverse_cons, List.append_assoc]
        congr 2
        · refine List.map_congr_left fun i _ => ?_
          simp only [Function.comp, Nat.succ_mul]
          omega
        · rw [Nat.zero_mul, Nat.add_zero]
      · have := hle hfit
        rw [Nat.succ_mul]
        omega
      · have := hstop (by omega)
        rw [Nat.succ_mul]
        omega
    · exact ⟨0, Nat.zero_le _, by simp, by simp, fun _ => by omega, fun _ => by omega⟩

/-- The spill loop moves slabs from the cache list to the global list. -/
theorem spillLoop_spec (keep : ℕ) :
    ∀ (fuel : ℕ) (cacheList slabList : FreePtrsList),
      ∃ cacheList' slabList', spillLoop keep fuel cacheList slabList =
          some (cacheList', slabList') ∧
        (cacheList'.stack ++ slabList'.stack).Perm (cacheList.stack ++ slabList.stack)
  | 0, cacheList, slabList => ⟨_, _, rfl, List.Perm.refl _⟩
  | fuel + 1, cacheList, slabList => by
    simp only [spillLoop]
    split_ifs with hgo
    · obtain ⟨x, cacheList₁, hpop⟩ := FreePtrsList.pop_of_pos (Nat.lt_of_le_of_lt (Nat.zero_le _) hgo)
      obtain ⟨cl, sl, hrun, hperm⟩ := spillLoop_spec keep fuel cacheList₁ (slabList.push x)
      refine ⟨cl, sl, by rw [hpop, Option.bind_some, hrun], ?_⟩
      rw [FreePtrsList.stack_pop hpop]
      rw [FreePtrsList.stack_push] at hperm
      exact hperm.trans List.perm_middle
    · exact ⟨_, _, rfl, List.Perm.refl _⟩

end SlabAllocator

/-! ## The allocator's slabs -/

namespace SlabAllocator

/-- The free slabs of class `s`: its cache list's, then its global list's. -/
def freeSlabs (a : SlabAllocator) (s : ℕ) : List (ℕ × ℕ) :=
  ((a.cacheLists s).stack ++ (a.slabLists s).stack).map fun x => (x, s)

/-- The slabs of the live allocations, each a pointer past its header and the size asked for. -/
def liveSlabs (live : List (ℕ × ℕ)) : List (ℕ × ℕ) :=
  live.map fun p => (p.1 - kPtrHeaderSize, getSlabShift p.2)

/-- Every slab carved from the region: the free ones of each class up to `kMaxSlabClassShift`,
and the live ones. -/
def slabs (a : SlabAllocator) (live : List (ℕ × ℕ)) : List (ℕ × ℕ) :=
  (List.range (kMaxSlabClassShift + 1)).flatMap a.freeSlabs ++ liveSlabs live

/-- Replacing the two lists of one class moves slabs in and out of that class only. -/
theorem slabs_of_lists (a a' : SlabAllocator) (live : List (ℕ × ℕ)) {s : ℕ}
    (hs : s ≤ kMaxSlabClassShift) {slabList cacheList : FreePtrsList}
    (hc : a'.cacheLists = Function.update a.cacheLists s cacheList)
    (hl : a'.slabLists = Function.update a.slabLists s slabList) (removed added : List ℕ)
    (h : (cacheList.stack ++ slabList.stack ++ removed).Perm
      (added ++ ((a.cacheLists s).stack ++ (a.slabLists s).stack))) :
    (slabs a' live ++ removed.map fun x => (x, s)).Perm
      ((added.map fun x => (x, s)) ++ slabs a live) := by
  have hfree : a'.freeSlabs = Function.update a.freeSlabs s
      ((cacheList.stack ++ slabList.stack).map fun x => (x, s)) := by
    funext i
    by_cases hi : i = s
    · subst hi
      simp [freeSlabs, hc, hl]
    · simp [freeSlabs, hc, hl, hi]
  have hupd := flatMap_range_update_perm a.freeSlabs
    ((cacheList.stack ++ slabList.stack).map fun x => (x, s))
    (Nat.lt_succ_of_le hs : s < kMaxSlabClassShift + 1)
  rw [← hfree] at hupd
  have hmap := h.map fun x => (x, s)
  rw [List.perm_iff_count] at hupd hmap ⊢
  intro x
  have h₁ := hupd x
  have h₂ := hmap x
  simp only [slabs, freeSlabs, List.count_append, List.map_append, Nat.succ_eq_add_one] at h₁ h₂ ⊢
  omega

theorem mem_slabs_of_live {a : SlabAllocator} {live : List (ℕ × ℕ)} {p : ℕ × ℕ} (hp : p ∈ live) :
    (p.1 - kPtrHeaderSize, getSlabShift p.2) ∈ slabs a live :=
  List.mem_append_right _ (List.mem_map_of_mem hp)

/-- The slab of a live allocation, taken out of the live ones. -/
theorem slabs_perm_erase {a : SlabAllocator} {live : List (ℕ × ℕ)} {p : ℕ × ℕ} (hp : p ∈ live) :
    (slabs a live).Perm ((p.1 - kPtrHeaderSize, getSlabShift p.2) :: slabs a (live.erase p)) := by
  have h := (List.perm_cons_erase hp).map fun p : ℕ × ℕ => (p.1 - kPtrHeaderSize, getSlabShift p.2)
  rw [List.map_cons] at h
  exact (h.append_left _).trans List.perm_middle

/-- The allocator's invariant, `live` being the allocations handed out and not freed, each its
pointer and the size asked for: the region is a span, aligned; the break lies in it, aligned;
every slab carved so far is where the `Carved` says; and each live allocation's header holds its
size. -/
structure Inv (a : SlabAllocator) (live : List (ℕ × ℕ)) : Prop where
  span : 0 < a.start ∨ a.start = a.end_
  start_aligned : a.start % kMemAlignment = 0
  start_le : a.start ≤ a.cur
  cur_le : a.cur ≤ a.end_
  cur_aligned : a.cur % kMemAlignment = 0
  carved : Carved a.start a.cur (slabs a live)
  headers : ∀ p ∈ live, kPtrHeaderSize ≤ p.1 ∧ a.hdrSize (p.1 - kPtrHeaderSize) = p.2 ∧ 0 < p.2

theorem Inv.mem_free {a : SlabAllocator} {live : List (ℕ × ℕ)} {s x : ℕ} (hs : s ≤ kMaxSlabClassShift)
    (hx : x ∈ (a.cacheLists s).stack ∨ x ∈ (a.slabLists s).stack) : (x, s) ∈ slabs a live := by
  refine List.mem_append_left _ (List.mem_flatMap.mpr ⟨s, List.mem_range.mpr (Nat.lt_succ_of_le hs), ?_⟩)
  exact List.mem_map.mpr ⟨x, List.mem_append.mpr hx, rfl⟩

/-- The lists of a class of `32` or more hold nothing: no slab of such a class was ever carved. -/
theorem Inv.lists_empty {a : SlabAllocator} {live : List (ℕ × ℕ)} (hinv : Inv a live) {s : ℕ}
    (h32 : 32 ≤ s) (hs : s ≤ kMaxSlabClassShift) :
    (a.cacheLists s).size = 0 ∧ (a.slabLists s).size = 0 := by
  have hno : ∀ x, x ∉ (a.cacheLists s).stack ∧ x ∉ (a.slabLists s).stack := by
    refine fun x => ⟨fun hx => ?_, fun hx => ?_⟩
    · exact absurd (hinv.carved.classes _ (Inv.mem_free hs (.inl hx))).2 (Nat.not_lt.mpr h32)
    · exact absurd (hinv.carved.classes _ (Inv.mem_free hs (.inr hx))).2 (Nat.not_lt.mpr h32)
  rw [FreePtrsList.size_eq_length, FreePtrsList.size_eq_length, List.length_eq_zero_iff,
    List.length_eq_zero_iff, List.eq_nil_iff_forall_not_mem, List.eq_nil_iff_forall_not_mem]
  exact ⟨fun x => (hno x).1, fun x => (hno x).2⟩

/-- The invariant carries over to an allocator over the same region whose break moved forward,
given its slabs carved and its live allocations' headers. -/
theorem Inv.of_region {a a' : SlabAllocator} {live live' : List (ℕ × ℕ)} (hinv : Inv a live)
    (hst : a'.start = a.start) (hend : a'.end_ = a.end_) (hge : a.cur ≤ a'.cur)
    (hle : a'.cur ≤ a.end_) (hal : a'.cur % kMemAlignment = 0)
    (hcarved : Carved a.start a'.cur (slabs a' live'))
    (hheaders : ∀ p ∈ live', kPtrHeaderSize ≤ p.1 ∧ a'.hdrSize (p.1 - kPtrHeaderSize) = p.2 ∧
      0 < p.2) : Inv a' live' :=
  ⟨hst ▸ hend ▸ hinv.span, hst ▸ hinv.start_aligned, hst ▸ Nat.le_trans hinv.start_le hge,
    hend ▸ hle, hal, hst ▸ hcarved, hheaders⟩

end SlabAllocator

/-! ## Taking a slab -/

namespace SlabAllocator

variable {a : SlabAllocator} {live : List (ℕ × ℕ)} {s : ℕ}

/-- What taking a slab of class `s` leaves: the region, the headers and the break's bounds, and
either a slab `ret` out of the lists, with the slabs still carved, or none, when the lists of
the class were empty and the next slab does not fit. -/
structure Took (a : SlabAllocator) (live : List (ℕ × ℕ)) (s ret : ℕ) (a₁ : SlabAllocator) :
    Prop where
  start : a₁.start = a.start
  end_ : a₁.end_ = a.end_
  hdrSize : a₁.hdrSize = a.hdrSize
  cur_ge : a.cur ≤ a₁.cur
  cur_le : a₁.cur ≤ a.end_
  cur_aligned : a₁.cur % kMemAlignment = 0
  result : (ret = 0 ∧ Carved a.start a₁.cur (slabs a₁ live) ∧ (a.cacheLists s).size = 0 ∧
      (a.slabLists s).size = 0 ∧ a.end_ < a.cur + getSlabSize s) ∨
    (0 < ret ∧ Carved a.start a₁.cur ((ret, s) :: slabs a₁ live))

/-- Popping a free slab of a class takes it out of the slabs the lists hold. -/
theorem carved_of_pop (hs : s ≤ kMaxSlabClassShift) {start cur : ℕ} {a₁ a₂ : SlabAllocator}
    (h : Carved start cur (slabs a₁ live)) {x : ℕ} {cacheList : FreePtrsList}
    (hpop : (a₁.cacheLists s).pop = some (x, cacheList))
    (hc : a₂.cacheLists = Function.update a₁.cacheLists s cacheList)
    (hl : a₂.slabLists = Function.update a₁.slabLists s (a₁.slabLists s)) :
    Carved start cur ((x, s) :: slabs a₂ live) := by
  have hperm := slabs_of_lists a₁ a₂ live hs hc hl [x] []
    (by rw [FreePtrsList.stack_pop hpop, List.nil_append]; exact List.perm_append_singleton _ _)
  rw [List.map_nil, List.nil_append, List.map_singleton] at hperm
  exact h.perm ((List.perm_append_singleton _ _).symm.trans hperm)

/-- The fast path pops the top of the cache list. -/
theorem takeSlab_fast (hinv : Inv a live) (hs : s ≤ kMaxSlabClassShift)
    (hpos : 0 < (a.cacheLists s).size) : ∃ ret a₁, a.takeSlab s = some (ret, a₁) ∧ Took a live s ret a₁ := by
  obtain ⟨x, cacheList, hpop⟩ := FreePtrsList.pop_of_pos hpos
  have hmem : (x, s) ∈ slabs a live :=
    Inv.mem_free hs (.inl (by rw [FreePtrsList.stack_pop hpop]; exact List.mem_cons_self))
  refine ⟨x, a.setLists s (a.slabLists s) cacheList, ?_, rfl, rfl, rfl, Nat.le_refl _, hinv.cur_le,
    hinv.cur_aligned, .inr ⟨hinv.carved.pos hinv.span hinv.cur_le hmem, ?_⟩⟩
  · simp only [takeSlab, if_pos hpos, hpop, Option.map_some]
  · exact carved_of_pop hs hinv.carved hpop rfl (by simp [setLists])

/-- A bump of nothing leaves the list and the break. -/
theorem bumpLoop_guarded (slabSize end_ remaining : ℕ) (cacheList : FreePtrsList) (cur : ℕ) :
    (if remaining ≠ 0 then bumpLoop slabSize end_ remaining cacheList cur else (cacheList, cur)) =
      bumpLoop slabSize end_ remaining cacheList cur := by
  split_ifs with h
  · rfl
  · rw [not_not.mp h]
    rfl

/-- **The slow path** refills the empty cache list from the global list, bumps the break for
what is still missing, and pops; it finds nothing only when the global list was empty too and
the next slab does not fit. -/
theorem slowPath_spec (hinv : Inv a live) (hs : kMinSlabClassShift ≤ s ∧ s < 32)
    (hempty : (a.cacheLists s).size = 0) :
    ∃ ret a₁, a.slowPath s = some (ret, a₁) ∧ Took a live s ret a₁ := by
  have hs35 : s ≤ kMaxSlabClassShift := Nat.le_trans (Nat.le_of_lt hs.2) (by decide)
  obtain ⟨m, hm⟩ := getMaxNumCacheEntries_of_lt hs.2
  obtain ⟨sl, cl, hrefill, hperm, -, hgrow⟩ :=
    refillLoop_spec (max m 1) (a.slabLists s).size (a.slabLists s) (a.cacheLists s)
  obtain ⟨k, -, hcur, hstack, hle, hstop⟩ :=
    bumpLoop_spec (getSlabSize s) a.end_ (max m 1 - cl.size) cl a.cur
  generalize hb : bumpLoop (getSlabSize s) a.end_ (max m 1 - cl.size) cl a.cur = bumped at hcur hstack
  -- after the refill and the bump: the old free slabs of the class, and the `k` new ones
  set a₂ : SlabAllocator := { a.setLists s sl bumped.1 with cur := bumped.2 } with ha₂
  have hcarved₂ : Carved a.start a₂.cur (slabs a₂ live) := by
    have hp := slabs_of_lists a a₂ live hs35 rfl rfl []
      ((List.range k).map fun i => a.cur + i * getSlabSize s) (by
        rw [hstack, List.append_nil, List.append_assoc]
        exact ((List.reverse_perm _).append hperm))
    rw [List.map_nil, List.append_nil, List.map_map] at hp
    rw [show a₂.cur = a.cur + k * getSlabSize s from hcur]
    exact (hinv.carved.bump hinv.start_le hinv.cur_aligned hs k).perm hp
  have hcur₂ : a₂.cur ≤ a.end_ := by
    rw [show a₂.cur = a.cur + k * getSlabSize s from hcur]
    exact hle hinv.cur_le
  have hal₂ : a₂.cur % kMemAlignment = 0 := by
    rw [show a₂.cur = a.cur + k * getSlabSize s from hcur]
    exact Nat.mod_eq_zero_of_dvd (Nat.dvd_add (Nat.dvd_of_mod_eq_zero hinv.cur_aligned)
      (Nat.dvd_mul_left_of_dvd (Nat.dvd_of_mod_eq_zero (getSlabSize_aligned hs.1)) k))
  have hge₂ : a.cur ≤ a₂.cur := by
    rw [show a₂.cur = a.cur + k * getSlabSize s from hcur]
    exact Nat.le_add_right _ _
  have hrun : a.slowPath s = if 0 < bumped.1.size then
      bumped.1.pop.map fun p => (p.1, a₂.setLists s sl p.2) else some (0, a₂) := by
    simp only [slowPath, hm, Option.bind_some, hrefill, bumpLoop_guarded, hb, ha₂]
  by_cases hnz : 0 < bumped.1.size
  · obtain ⟨x, cacheList, hpop⟩ := FreePtrsList.pop_of_pos hnz
    have hmem : (x, s) ∈ slabs a₂ live :=
      Inv.mem_free hs35 (.inl (by
        show x ∈ (Function.update a.cacheLists s bumped.1 s).stack
        rw [Function.update_self, FreePtrsList.stack_pop hpop]
        exact List.mem_cons_self))
    refine ⟨x, a₂.setLists s sl cacheList, by rw [hrun, if_pos hnz, hpop, Option.map_some], rfl, rfl,
      rfl, hge₂, hcur₂, hal₂, .inr ⟨hcarved₂.pos hinv.span hcur₂ hmem, ?_⟩⟩
    have hpop₂ : (a₂.cacheLists s).pop = some (x, cacheList) := by
      show (Function.update a.cacheLists s bumped.1 s).pop = _
      rw [Function.update_self, hpop]
    exact carved_of_pop hs35 hcarved₂ hpop₂ rfl (by simp [setLists, ha₂])
  · -- nothing came out: the refill found no global slab and the bump no room
    have hsize : bumped.1.size = 0 := Nat.eq_zero_of_not_pos hnz
    rw [FreePtrsList.size_eq_length, hstack, List.length_append, List.length_reverse,
      List.length_map, List.length_range, ← FreePtrsList.size_eq_length] at hsize
    have hk : k = 0 := by omega
    have hcl : cl.size = 0 := by omega
    have hslab : (a.slabLists s).size = 0 := by
      by_contra hpos
      have := hgrow (Nat.pos_of_ne_zero hpos) (Nat.pos_of_ne_zero hpos) (by omega)
      omega
    refine ⟨0, a₂, by rw [hrun, if_neg hnz], rfl, rfl, rfl, hge₂, hcur₂, hal₂,
      .inl ⟨rfl, hcarved₂, hempty, hslab, ?_⟩⟩
    have := hstop (by omega)
    rw [hk, Nat.zero_mul, Nat.add_zero] at this
    exact this

/-- Taking a slab of a class up to `31` always returns. -/
theorem takeSlab_spec (hinv : Inv a live) (hs : kMinSlabClassShift ≤ s ∧ s < 32) :
    ∃ ret a₁, a.takeSlab s = some (ret, a₁) ∧ Took a live s ret a₁ := by
  by_cases hpos : 0 < (a.cacheLists s).size
  · exact takeSlab_fast hinv (Nat.le_trans (Nat.le_of_lt hs.2) (by decide)) hpos
  · obtain ⟨ret, a₁, h, htook⟩ := slowPath_spec hinv hs (Nat.eq_zero_of_not_pos hpos)
    exact ⟨ret, a₁, by rw [takeSlab, if_neg hpos, h], htook⟩

/-- A class from `32` to `kMaxSlabClassShift` has empty lists, and the slow path's
`get_max_num_cache_entries` is undefined. -/
theorem takeSlab_undefined (hinv : Inv a live) (h32 : 32 ≤ s) (hs : s ≤ kMaxSlabClassShift) :
    a.takeSlab s = none := by
  have hempty := (hinv.lists_empty h32 hs).1
  rw [takeSlab, if_neg (by omega), slowPath, getMaxNumCacheEntries_of_le h32, Option.bind_none]

end SlabAllocator

/-! ## Allocation -/

namespace SlabAllocator

variable {a : SlabAllocator} {live : List (ℕ × ℕ)}

/-- Taking no slab keeps the invariant. -/
theorem Took.inv {s ret : ℕ} {a₁ : SlabAllocator} (htook : Took a live s ret a₁) (hinv : Inv a live)
    (hcarved : Carved a.start a₁.cur (slabs a₁ live)) : Inv a₁ live :=
  hinv.of_region htook.start htook.end_ htook.cur_ge htook.cur_le htook.cur_aligned hcarved
    (htook.hdrSize ▸ hinv.headers)

/-- Handing out a taken slab with its header set keeps the invariant, the new allocation live. -/
theorem Took.inv_cons {s ret n : ℕ} {a₁ : SlabAllocator} (htook : Took a live s ret a₁)
    (hinv : Inv a live) (hcarved : Carved a.start a₁.cur ((ret, s) :: slabs a₁ live))
    (hs : getSlabShift n = s) (hn : 0 < n) :
    Inv { a₁ with hdrSize := Function.update a₁.hdrSize ret n } ((ret + kPtrHeaderSize, n) :: live) := by
  have hperm : (slabs { a₁ with hdrSize := Function.update a₁.hdrSize ret n }
      ((ret + kPtrHeaderSize, n) :: live)).Perm ((ret, s) :: slabs a₁ live) := by
    simp only [slabs, liveSlabs, List.map_cons, Nat.add_sub_cancel, hs]
    exact List.perm_middle
  obtain ⟨hrest, -⟩ := List.pairwise_cons.mp hcarved.apart
  refine hinv.of_region htook.start htook.end_ htook.cur_ge htook.cur_le htook.cur_aligned
    (hcarved.perm hperm) fun q hq => ?_
  rcases List.mem_cons.mp hq with rfl | hq
  · exact ⟨Nat.le_add_left _ _, by simp, hn⟩
  · obtain ⟨h₁, h₂, h₃⟩ := hinv.headers q hq
    -- the taken slab was free, apart from every live one
    have hapart := hrest _ (List.mem_append_right _ (List.mem_map_of_mem hq))
    have hne : q.1 - kPtrHeaderSize ≠ ret := by
      have := kPtrHeaderSize_lt_getSlabSize s
      have := kPtrHeaderSize_lt_getSlabSize (getSlabShift q.2)
      unfold Apart at hapart
      simp only at hapart
      omega
    refine ⟨h₁, ?_, h₃⟩
    simp only [Function.update_of_ne hne, htook.hdrSize, h₂]

/-- **`allocate` of a size up to `2^31`, or above `2^35`, returns**, keeping the invariant with
the allocation live; it returns `nullptr` only for a size of `0` or above `kMaxSlabClassShift`'s,
or when the class has no free slab and the next one does not fit before `end_`. -/
theorem allocate_spec (hinv : Inv a live) {n : ℕ}
    (hn : getSlabShift n < 32 ∨ kMaxSlabClassShift < getSlabShift n) :
    ∃ p a', a.allocate n = some (p, a') ∧ a'.start = a.start ∧ a'.end_ = a.end_ ∧
      Inv a' (if p = 0 then live else (p, n) :: live) ∧
      (p = 0 → n = 0 ∨ kMaxSlabClassShift < getSlabShift n ∨
        ((a.cacheLists (getSlabShift n)).size = 0 ∧ (a.slabLists (getSlabShift n)).size = 0 ∧
          a.end_ < a.cur + getSlabSize (getSlabShift n))) := by
  by_cases hnull : n = 0 ∨ kMaxSlabClassShift < getSlabShift n
  · refine ⟨0, a, by rw [allocate, if_pos hnull], rfl, rfl, by simpa using hinv, fun _ => ?_⟩
    rcases hnull with h | h
    · exact .inl h
    · exact .inr (.inl h)
  have hs : kMinSlabClassShift ≤ getSlabShift n ∧ getSlabShift n < 32 :=
    ⟨kMinSlabClassShift_le_getSlabShift n, hn.resolve_right fun h => hnull (.inr h)⟩
  have hn0 : 0 < n := Nat.pos_of_ne_zero fun h => hnull (.inl h)
  obtain ⟨ret, a₁, htake, htook⟩ := takeSlab_spec hinv hs
  rcases htook.result with ⟨rfl, hcarved, hc, hl, hend⟩ | ⟨hpos, hcarved⟩
  · refine ⟨0, a₁, ?_, htook.start, htook.end_, by simpa using htook.inv hinv hcarved,
      fun _ => .inr (.inr ⟨hc, hl, hend⟩)⟩
    simp only [allocate, if_neg hnull, htake, Option.bind_some, if_true]
  · have hal : (ret + kPtrHeaderSize) % kMemAlignment = 0 := by
      have := hcarved.aligned _ List.mem_cons_self
      simp only [kPtrHeaderSize, kMemAlignment] at this ⊢
      omega
    refine ⟨ret + kPtrHeaderSize, { a₁ with hdrSize := Function.update a₁.hdrSize ret n }, ?_,
      htook.start, htook.end_, ?_, fun h => absurd h (by simp only [kPtrHeaderSize]; omega)⟩
    · simp only [allocate, if_neg hnull, htake, Option.bind_some, if_neg (Nat.pos_iff_ne_zero.mp hpos),
        hal, ne_eq, not_true_eq_false, if_false]
    · rw [if_neg (by simp only [kPtrHeaderSize]; omega)]
      exact htook.inv_cons hinv hcarved rfl hn0

/-- The first `allocate(100)` in `[4096, 8192)` carves the 28 slabs of 144 bytes that fit into the
cache list and hands out the last one carved, the top of the stack. -/
example : ((SlabAllocator.init 4096 8192 fun _ => 0).allocate 100).map (·.1) =
    some (4096 + 27 * 144 + 16) := by
  decide

/-- **`allocate` of a size above `2^31` up to `2^35` is undefined**: its class, from `32` to
`kMaxSlabClassShift`, has no free slab, and the slow path's `get_max_num_cache_entries` shifts
the `int` `1` by the class. -/
theorem allocate_eq_none (hinv : Inv a live) {n : ℕ} (h₁ : 2 ^ 31 < n) (h₂ : n ≤ 2 ^ 35) :
    a.allocate n = none := by
  have h32 : 32 ≤ getSlabShift n := by
    by_contra h
    exact absurd ((getSlabShift_le_iff (by decide)).mp (Nat.le_of_lt_succ (Nat.lt_of_not_le h))) (by omega)
  have h35 : getSlabShift n ≤ kMaxSlabClassShift := (getSlabShift_le_iff (by decide)).mpr h₂
  have hnull : ¬(n = 0 ∨ kMaxSlabClassShift < getSlabShift n) := by omega
  rw [allocate, if_neg hnull, takeSlab_undefined hinv h32 h35, Option.bind_none]

/-- The break after taking a slab of class `s`: `k` fresh slabs carved, none on the fast path
and at most `max(get_max_num_cache_entries(s), 1)` on the slow one. -/
theorem takeSlab_carves {s ret : ℕ} {a₁ : SlabAllocator} (h : a.takeSlab s = some (ret, a₁)) :
    ∃ k, (k = 0 ∨ ∃ m, getMaxNumCacheEntries s = some m ∧ k ≤ max m 1) ∧
      a₁.cur = a.cur + k * getSlabSize s := by
  unfold takeSlab at h
  split_ifs at h with hpos
  · obtain ⟨p, -, h⟩ := Option.map_eq_some_iff.mp h
    obtain ⟨-, rfl⟩ := Prod.mk.inj h
    exact ⟨0, .inl rfl, by simp [setLists]⟩
  · unfold slowPath at h
    obtain ⟨m, hm, h⟩ := Option.bind_eq_some_iff.mp h
    obtain ⟨⟨sl, cl⟩, -, h⟩ := Option.bind_eq_some_iff.mp h
    obtain ⟨k, hk, hcur, -⟩ := bumpLoop_spec (getSlabSize s) a.end_ (max m 1 - cl.size) cl a.cur
    simp only [bumpLoop_guarded] at h
    refine ⟨k, .inr ⟨m, hm, by omega⟩, ?_⟩
    -- the pop after the bump leaves the break where the bump put it
    split_ifs at h
    · obtain ⟨p, -, h⟩ := Option.map_eq_some_iff.mp h
      obtain ⟨-, rfl⟩ := Prod.mk.inj h
      exact hcur
    · cases h
      exact hcur

/-- What one `allocate` carves from the break: `k` fresh slabs of its class, `k` as
`takeSlab_carves` bounds it. -/
theorem allocate_carves {n p : ℕ} {a' : SlabAllocator} (h : a.allocate n = some (p, a')) :
    ∃ k, (k = 0 ∨ ∃ m, getMaxNumCacheEntries (getSlabShift n) = some m ∧ k ≤ max m 1) ∧
      a'.cur = a.cur + k * getSlabSize (getSlabShift n) := by
  unfold allocate at h
  dsimp only at h
  split_ifs at h with hnull
  · cases h
    exact ⟨0, .inl rfl, by rw [Nat.zero_mul, Nat.add_zero]⟩
  · obtain ⟨⟨ret, a₁⟩, htake, h⟩ := Option.bind_eq_some_iff.mp h
    obtain ⟨k, hk, hcur⟩ := takeSlab_carves htake
    refine ⟨k, hk, ?_⟩
    -- the header written after the take leaves the break
    dsimp only at h
    split_ifs at h
    · cases h
      exact hcur
    · cases h
      exact hcur

/-- **`get_max_num_cache_entries` on the classes**: for the shifts up to `31` it is
`min(kMaxCacheEntries, kMaxCacheSizeBytes / 2^shift)`, from `32` on it is undefined, and one
`allocate` carves at most `max(1, kMaxCacheSizeBytes / 2^shift)` fresh slabs of its class into
the cache list. -/
theorem getMaxNumCacheEntries_classes (slabShift : ℕ) :
    (slabShift < 32 → getMaxNumCacheEntries slabShift =
        some (min kMaxCacheEntries (kMaxCacheSizeBytes / 2 ^ slabShift))) ∧
      (32 ≤ slabShift → getMaxNumCacheEntries slabShift = none) ∧
      ∀ (a a' : SlabAllocator) (n p : ℕ), getSlabShift n = slabShift →
        a.allocate n = some (p, a') →
        ∃ k ≤ max 1 (kMaxCacheSizeBytes / 2 ^ slabShift), a'.cur = a.cur + k * getSlabSize slabShift := by
  refine ⟨getMaxNumCacheEntries_eq, getMaxNumCacheEntries_of_le, fun a a' n p hn h => ?_⟩
  subst hn
  obtain ⟨k, hk, hcur⟩ := allocate_carves h
  refine ⟨k, ?_, hcur⟩
  rcases hk with rfl | ⟨m, hm, hk⟩
  · exact Nat.zero_le _
  · -- only a defined shift reaches the bump, and there `m` is at most the share of the bytes
    have h32 : getSlabShift n < 32 := by
      by_contra h32
      rw [getMaxNumCacheEntries_of_le (Nat.le_of_not_lt h32)] at hm
      cases hm
    rw [getMaxNumCacheEntries_eq h32, Option.some.injEq] at hm
    subst hm
    have := min_le_right kMaxCacheEntries (kMaxCacheSizeBytes / 2 ^ getSlabShift n)
    omega

/-- Whatever `allocate` returns keeps the region and the invariant. -/
theorem allocate_inv (hinv : Inv a live) {n p : ℕ} {a' : SlabAllocator}
    (h : a.allocate n = some (p, a')) :
    a'.start = a.start ∧ a'.end_ = a.end_ ∧ Inv a' (if p = 0 then live else (p, n) :: live) := by
  by_cases hn : getSlabShift n < 32 ∨ kMaxSlabClassShift < getSlabShift n
  · obtain ⟨p', a'', h', hst, hend, hinv', -⟩ := allocate_spec hinv hn
    rw [h] at h'
    cases h'
    exact ⟨hst, hend, hinv'⟩
  · -- a class from `32` to `kMaxSlabClassShift`: nothing returns
    obtain ⟨h₁, h₂⟩ := getSlabShift_undefined_iff.mp hn
    rw [allocate_eq_none hinv h₁ h₂] at h
    cases h

end SlabAllocator

/-! ## Freeing -/

namespace SlabAllocator

variable {a : SlabAllocator} {live : List (ℕ × ℕ)}

/-- `free_to_cache_list` of a class below `32` pushes the slab and, when the cache list overflows,
spills slabs to the global list: the class's two lists then hold the slab and the old ones. -/
theorem freeToCacheList_spec (hdr : ℕ) {s : ℕ} (hs : s < 32) :
    ∃ slabList cacheList, a.freeToCacheList hdr s = some (a.setLists s slabList cacheList) ∧
      (cacheList.stack ++ slabList.stack).Perm
        (hdr :: ((a.cacheLists s).stack ++ (a.slabLists s).stack)) := by
  obtain ⟨m, hm⟩ := getMaxNumCacheEntries_of_lt hs
  have hpush : ((a.cacheLists s).push hdr).stack ++ (a.slabLists s).stack =
      hdr :: ((a.cacheLists s).stack ++ (a.slabLists s).stack) := by
    rw [FreePtrsList.stack_push, List.cons_append]
  by_cases hover : m < ((a.cacheLists s).push hdr).size
  · obtain ⟨cl, sl, hspill, hperm⟩ := spillLoop_spec (m / 2) ((a.cacheLists s).push hdr).size
      ((a.cacheLists s).push hdr) (a.slabLists s)
    refine ⟨sl, cl, ?_, by rw [← hpush]; exact hperm⟩
    simp only [freeToCacheList, hm, Option.bind_some, if_pos hover, hspill, Option.map_some]
  · refine ⟨a.slabLists s, (a.cacheLists s).push hdr, ?_, by rw [← hpush]⟩
    simp only [freeToCacheList, hm, Option.bind_some, if_neg hover]

/-- **`do_free` of a live allocation's slab keeps the invariant**, the allocation no longer live:
the slab moves from the live ones to its class's lists, and the break stays. -/
theorem doFree_spec (hinv : Inv a live) {p : ℕ × ℕ} (hp : p ∈ live) :
    ∃ a', a.doFree (p.1 - kPtrHeaderSize) (getSlabShift p.2) = some a' ∧
      a'.start = a.start ∧ a'.end_ = a.end_ ∧ Inv a' (live.erase p) := by
  have hs := hinv.carved.classes _ (mem_slabs_of_live (a := a) hp)
  obtain ⟨sl, cl, hfree, hperm⟩ := freeToCacheList_spec (a := a) (p.1 - kPtrHeaderSize) hs.2
  refine ⟨a.setLists (getSlabShift p.2) sl cl, hfree, rfl, rfl, ?_⟩
  have hmove := slabs_of_lists a (a.setLists (getSlabShift p.2) sl cl) (live.erase p)
    (by simp only [kMaxSlabClassShift]; omega) rfl rfl [] [p.1 - kPtrHeaderSize]
    (by simpa using hperm)
  simp only [List.map_nil, List.append_nil, List.map_cons, List.singleton_append] at hmove
  exact hinv.of_region rfl rfl (Nat.le_refl _) hinv.cur_le hinv.cur_aligned
    (hinv.carved.perm (hmove.trans (slabs_perm_erase hp).symm))
    fun q hq => hinv.headers q (List.mem_of_mem_erase hq)

/-- A live allocation passes the checks of `free` and `reallocate`: it lies between `start_` and
`cur_`, and its header gives a class from `kMinSlabClassShift` to `kMaxSlabClassShift`. -/
theorem Inv.live_checks (hinv : Inv a live) {p : ℕ × ℕ} (hp : p ∈ live) :
    p.1 ≠ 0 ∧ ¬(p.1 < a.start ∨ a.cur ≤ p.1) ∧ a.hdrSize (p.1 - kPtrHeaderSize) = p.2 ∧
      ¬(getSlabShift p.2 < kMinSlabClassShift ∨ kMaxSlabClassShift < getSlabShift p.2) := by
  obtain ⟨h16, hhdr, -⟩ := hinv.headers p hp
  have hslab := mem_slabs_of_live (a := a) hp
  obtain ⟨hin₁, hin₂⟩ := hinv.carved.inside _ hslab
  have hs := hinv.carved.classes _ hslab
  have hsize := kPtrHeaderSize_lt_getSlabSize (getSlabShift p.2)
  simp only [kPtrHeaderSize, kMaxSlabClassShift] at hin₁ hin₂ hsize h16 ⊢
  exact ⟨by omega, by omega, hhdr, by omega⟩

/-- **`free` of a live allocation returns**, keeping the region and the invariant. -/
theorem free_spec (hinv : Inv a live) {p : ℕ × ℕ} (hp : p ∈ live) :
    ∃ a', a.free p.1 = some a' ∧ a'.start = a.start ∧ a'.end_ = a.end_ ∧
      Inv a' (live.erase p) := by
  obtain ⟨hnz, hbounds, hhdr, hclass⟩ := hinv.live_checks hp
  obtain ⟨a', hfree, hst, hend, hinv'⟩ := doFree_spec hinv hp
  refine ⟨a', ?_, hst, hend, hinv'⟩
  rw [free, if_neg hnz, if_neg hbounds]
  simp only [hhdr, if_neg hclass, hfree]

/-- **`reallocate` of a live allocation to a size of a defined class returns**, keeping the region
and the invariant: on `nullptr` the old allocation stays live, otherwise the new one replaces
it. -/
theorem reallocate_spec (hinv : Inv a live) {p : ℕ × ℕ} (hp : p ∈ live) {m : ℕ}
    (hm : getSlabShift m < 32 ∨ kMaxSlabClassShift < getSlabShift m) :
    ∃ q a', a.reallocate p.1 m = some (q, a') ∧ a'.start = a.start ∧ a'.end_ = a.end_ ∧
      Inv a' (if q = 0 then live else (q, m) :: live.erase p) := by
  obtain ⟨-, hbounds, hhdr, -⟩ := hinv.live_checks hp
  obtain ⟨q, a₁, halloc, hst₁, hend₁, hinv₁, -⟩ := allocate_spec hinv hm
  by_cases hq : q = 0
  · subst hq
    refine ⟨0, a₁, ?_, hst₁, hend₁, by simpa using hinv₁⟩
    rw [reallocate, if_neg hbounds]
    simp only [halloc, Option.bind_some, if_true]
  rw [if_neg hq] at hinv₁
  -- the old slab is freed after the new one is live; the two differ, both being live
  obtain ⟨a', hfree, hst, hend, hinv'⟩ := doFree_spec hinv₁ (List.mem_cons_of_mem _ hp)
  have hne : (q, m) ≠ p := by
    intro heq
    have hlive := (List.pairwise_append.mp hinv₁.carved.apart).2.1
    rw [liveSlabs, List.map_cons, List.pairwise_cons] at hlive
    have happ := hlive.1 _ (List.mem_map_of_mem
      (f := fun p : ℕ × ℕ => (p.1 - kPtrHeaderSize, getSlabShift p.2)) hp)
    rw [← heq] at happ
    exact not_apart_self _ happ
  have hbeq : ¬((q, m) == p) = true := by
    rw [beq_iff_eq]
    exact hne
  rw [List.erase_cons_tail hbeq] at hinv'
  refine ⟨q, a', ?_, hst.trans hst₁, hend.trans hend₁, by rwa [if_neg hq]⟩
  rw [reallocate, if_neg hbounds]
  simp only [hhdr, halloc, Option.bind_some, if_neg hq, hfree, Option.map_some]

/-- Whatever `reallocate` of a live allocation returns keeps the region and the invariant. -/
theorem reallocate_inv (hinv : Inv a live) {p : ℕ × ℕ} (hp : p ∈ live) {m q : ℕ}
    {a' : SlabAllocator} (h : a.reallocate p.1 m = some (q, a')) :
    a'.start = a.start ∧ a'.end_ = a.end_ ∧
      Inv a' (if q = 0 then live else (q, m) :: live.erase p) := by
  by_cases hm : getSlabShift m < 32 ∨ kMaxSlabClassShift < getSlabShift m
  · obtain ⟨q', a'', h', hst, hend, hinv'⟩ := reallocate_spec hinv hp hm
    rw [h] at h'
    cases h'
    exact ⟨hst, hend, hinv'⟩
  · obtain ⟨h₁, h₂⟩ := getSlabShift_undefined_iff.mp hm
    simp [reallocate, allocate_eq_none hinv h₁ h₂] at h

end SlabAllocator

/-! ## Runs -/

namespace SlabAllocator

/-- The calls of a client that frees and reallocates only its live allocations. The state is the
allocator and the allocations handed out and not freed, each its pointer and the size asked
for. -/
inductive Step : SlabAllocator × List (ℕ × ℕ) → SlabAllocator × List (ℕ × ℕ) → Prop where
  /-- `allocate(size)`: a pointer other than `nullptr` becomes live. -/
  | allocate {a a' : SlabAllocator} {live : List (ℕ × ℕ)} {n p : ℕ}
      (h : a.allocate n = some (p, a')) :
      Step (a, live) (a', if p = 0 then live else (p, n) :: live)
  /-- `free(ptr)` of a live allocation. -/
  | free {a a' : SlabAllocator} {live : List (ℕ × ℕ)} {p : ℕ × ℕ} (hp : p ∈ live)
      (h : a.free p.1 = some a') : Step (a, live) (a', live.erase p)
  /-- `reallocate(ptr, new_size)` of a live allocation: a pointer other than `nullptr` replaces
  it. -/
  | reallocate {a a' : SlabAllocator} {live : List (ℕ × ℕ)} {p : ℕ × ℕ} (hp : p ∈ live) {m q : ℕ}
      (h : a.reallocate p.1 m = some (q, a')) :
      Step (a, live) (a', if q = 0 then live else (q, m) :: live.erase p)

/-- The states a run of such calls reaches from `SlabAllocator(mem)` over `[start, end_)`. -/
def Reachable (start end_ : ℕ) (garbage : ℕ → ℕ) (s : SlabAllocator × List (ℕ × ℕ)) : Prop :=
  Relation.ReflTransGen Step (init start end_ garbage, []) s

theorem slabs_init (start end_ : ℕ) (garbage : ℕ → ℕ) : slabs (init start end_ garbage) [] = [] := by
  simp [slabs, freeSlabs, liveSlabs, init, FreePtrsList.stack_empty]

theorem inv_init {start end_ : ℕ} (garbage : ℕ → ℕ) (hspan : 0 < start ∨ start = end_)
    (halign : start % kMemAlignment = 0) (hle : start ≤ end_) : Inv (init start end_ garbage) [] where
  span := hspan
  start_aligned := halign
  start_le := Nat.le_refl _
  cur_le := hle
  cur_aligned := halign
  carved := by
    rw [slabs_init]
    exact ⟨fun _ h => absurd h List.not_mem_nil, fun _ h => absurd h List.not_mem_nil,
      fun _ h => absurd h List.not_mem_nil, .nil⟩
  headers := fun _ h => absurd h List.not_mem_nil

/-- Every step keeps the region and the invariant. -/
theorem Inv.step {s s' : SlabAllocator × List (ℕ × ℕ)} (hinv : Inv s.1 s.2) (hs : Step s s') :
    s'.1.start = s.1.start ∧ s'.1.end_ = s.1.end_ ∧ Inv s'.1 s'.2 := by
  cases hs with
  | allocate h => exact allocate_inv hinv h
  | free hp h =>
    obtain ⟨a', hfree, hst, hend, hinv'⟩ := free_spec hinv hp
    rw [h] at hfree
    cases hfree
    exact ⟨hst, hend, hinv'⟩
  | reallocate hp h => exact reallocate_inv hinv hp h

/-- **Every reachable state satisfies the invariant**, over a region that is a non-null span,
aligned. -/
theorem reachable_inv {start end_ : ℕ} {garbage : ℕ → ℕ} (hspan : 0 < start ∨ start = end_)
    (halign : start % kMemAlignment = 0) (hle : start ≤ end_) {s : SlabAllocator × List (ℕ × ℕ)}
    (hs : Reachable start end_ garbage s) : s.1.start = start ∧ s.1.end_ = end_ ∧ Inv s.1 s.2 := by
  induction hs with
  | refl => exact ⟨rfl, rfl, inv_init garbage hspan halign hle⟩
  | tail _ hst ih =>
    obtain ⟨hst₀, hend₀, hinv⟩ := ih
    obtain ⟨hst₁, hend₁, hinv'⟩ := hinv.step hst
    exact ⟨hst₁.trans hst₀, hend₁.trans hend₀, hinv'⟩

variable {a : SlabAllocator} {live : List (ℕ × ℕ)}

/-- A live allocation is aligned, and its header and its bytes lie in the region. -/
theorem Inv.live_inside (hinv : Inv a live) {p : ℕ × ℕ} (hp : p ∈ live) :
    p.1 % kMemAlignment = 0 ∧ a.start ≤ p.1 - kPtrHeaderSize ∧ p.1 + p.2 ≤ a.end_ := by
  have hslab := mem_slabs_of_live (a := a) hp
  obtain ⟨hin₁, hin₂⟩ := hinv.carved.inside _ hslab
  have hal := hinv.carved.aligned _ hslab
  have h16 := (hinv.headers p hp).1
  have hfit := le_two_pow_getSlabShift p.2
  have hcur := hinv.cur_le
  simp only [getSlabSize, kPtrHeaderSize, kMemAlignment] at hin₁ hin₂ hal h16 ⊢
  omega

/-- No two live allocations, headers included, share a byte. -/
theorem Inv.live_apart (hinv : Inv a live) :
    live.Pairwise fun x y => x.1 + x.2 ≤ y.1 - kPtrHeaderSize ∨ y.1 + y.2 ≤ x.1 - kPtrHeaderSize := by
  have hlive : (liveSlabs live).Pairwise Apart := (List.pairwise_append.mp hinv.carved.apart).2.1
  rw [liveSlabs, List.pairwise_map] at hlive
  refine hlive.imp_of_mem fun {x y} hx hy hxy => ?_
  have hx16 := (hinv.headers x hx).1
  have hy16 := (hinv.headers y hy).1
  have hxn := le_two_pow_getSlabShift x.2
  have hyn := le_two_pow_getSlabShift y.2
  simp only [Apart, getSlabSize, kPtrHeaderSize] at hxy hx16 hy16 ⊢
  omega

/-- **The allocator is safe along every run** of a client that frees and reallocates only its
live allocations, over a region that is a non-null span, aligned, and for sizes of a defined class:
every live allocation is aligned, with its header and its bytes in the region, and no two share a
byte; `allocate` returns, `nullptr` only for a size of `0` or of a class above
`kMaxSlabClassShift`, or when the class has no free slab in the cache list or the global list and
the next slab does not fit before `end_`; and `free` and `reallocate` of a live allocation
return. -/
theorem reachable_safe {start end_ : ℕ} {garbage : ℕ → ℕ} (hspan : 0 < start ∨ start = end_)
    (halign : start % kMemAlignment = 0) (hle : start ≤ end_)
    (hs : Reachable start end_ garbage (a, live)) :
    (∀ p ∈ live, p.1 % kMemAlignment = 0 ∧ start ≤ p.1 - kPtrHeaderSize ∧ p.1 + p.2 ≤ end_) ∧
    live.Pairwise (fun x y => x.1 + x.2 ≤ y.1 - kPtrHeaderSize ∨ y.1 + y.2 ≤ x.1 - kPtrHeaderSize) ∧
    (∀ n, getSlabShift n < 32 ∨ kMaxSlabClassShift < getSlabShift n →
      ∃ p a', a.allocate n = some (p, a') ∧
        (p = 0 → n = 0 ∨ kMaxSlabClassShift < getSlabShift n ∨
          ((a.cacheLists (getSlabShift n)).size = 0 ∧ (a.slabLists (getSlabShift n)).size = 0 ∧
            end_ < a.cur + getSlabSize (getSlabShift n)))) ∧
    (∀ p ∈ live, (∃ a', a.free p.1 = some a') ∧
      ∀ m, getSlabShift m < 32 ∨ kMaxSlabClassShift < getSlabShift m →
        ∃ q a', a.reallocate p.1 m = some (q, a')) := by
  obtain ⟨hst, hend, hinv⟩ := reachable_inv hspan halign hle hs
  dsimp only at hst hend hinv
  subst hst hend
  refine ⟨fun p hp => hinv.live_inside hp, hinv.live_apart, fun n hn => ?_, fun p hp => ⟨?_, ?_⟩⟩
  · obtain ⟨q, a', halloc, -, -, -, hnull⟩ := allocate_spec hinv hn
    exact ⟨q, a', halloc, hnull⟩
  · obtain ⟨a', hfree, -⟩ := free_spec hinv hp
    exact ⟨a', hfree⟩
  · intro m hm
    obtain ⟨q, a', hre, -⟩ := reallocate_spec hinv hp hm
    exact ⟨q, a', hre⟩

/-- After one `allocate(64)` over `[4096, 2^20)`. -/
theorem reachable_safe_one_allocation :
    ∃ p a', (init 4096 1048576 fun _ => 0).allocate 64 = some (p, a') ∧ p ≠ 0 ∧
    (∀ x ∈ [(p, 64)], x.1 % kMemAlignment = 0 ∧ 4096 ≤ x.1 - kPtrHeaderSize ∧
      x.1 + x.2 ≤ 1048576) ∧
    [(p, 64)].Pairwise (fun x y => x.1 + x.2 ≤ y.1 - kPtrHeaderSize ∨
      y.1 + y.2 ≤ x.1 - kPtrHeaderSize) ∧
    (∀ n, getSlabShift n < 32 ∨ kMaxSlabClassShift < getSlabShift n →
      ∃ q a'', a'.allocate n = some (q, a'') ∧
        (q = 0 → n = 0 ∨ kMaxSlabClassShift < getSlabShift n ∨
          ((a'.cacheLists (getSlabShift n)).size = 0 ∧ (a'.slabLists (getSlabShift n)).size = 0 ∧
            1048576 < a'.cur + getSlabSize (getSlabShift n)))) ∧
    (∀ x ∈ [(p, 64)], (∃ a'', a'.free x.1 = some a'') ∧
      ∀ m, getSlabShift m < 32 ∨ kMaxSlabClassShift < getSlabShift m →
        ∃ q a'', a'.reallocate x.1 m = some (q, a'')) := by
  obtain ⟨p, a', h, hp⟩ : ∃ p a', (init 4096 1048576 fun _ => 0).allocate 64 = some (p, a') ∧
      p ≠ 0 := ⟨_, _, rfl, by decide⟩
  have hs : Reachable 4096 1048576 (fun _ => 0) (a', [(p, 64)]) := by
    have := Relation.ReflTransGen.single (@Step.allocate _ _ [] _ _ h)
    rwa [if_neg hp] at this
  exact ⟨p, a', h, hp, reachable_safe (Or.inl (by decide)) (by decide) (by decide) hs⟩

/-- **`allocate` of a size above `2^31` up to `2^35` is undefined in every reachable state**:
such a size is of a class from `32` to `kMaxSlabClassShift`, which never holds a free slab, so
`allocate` takes the slow path and shifts the `int` `1` by the class. -/
theorem reachable_allocate_undefined {start end_ : ℕ} {garbage : ℕ → ℕ}
    (hspan : 0 < start ∨ start = end_) (halign : start % kMemAlignment = 0) (hle : start ≤ end_)
    (hs : Reachable start end_ garbage (a, live)) {n : ℕ} (h₁ : 2 ^ 31 < n) (h₂ : n ≤ 2 ^ 35) :
    a.allocate n = none :=
  allocate_eq_none (reachable_inv hspan halign hle hs).2.2 h₁ h₂

/-- `allocate(1ULL << 32)` on a fresh allocator over `[4096, 8192)`. -/
theorem reachable_allocate_undefined_fresh :
    (init 4096 8192 fun _ => 0).allocate (2 ^ 32) = none :=
  reachable_allocate_undefined (Or.inl (by decide)) (by decide) (by decide) .refl (by decide)
    (by decide)

end SlabAllocator

end Sandook.Mem
