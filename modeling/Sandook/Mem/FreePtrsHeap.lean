import Sandook.Mem.Slab
import Sandook.Lib.Loops

/-!
# Free pointer lists in memory (`mem/slab.cc`)

Model of `FreePtrsList::push`, `pop` and `size` on the memory they write. `Mem.Slab` reads a
free list as its chain of batches; here a batch is the `kBatchSize` words at its address, and
the chain is linked through the words `ptrs[0]`.

* Memory is a map from addresses to the words stored there; `head_->ptrs[i]` is the word at
  `head_ + 8 * i` (`slot`). A pointer pushed is the address of a free block of `kBatchSize`
  words; blocks are apart when they do not overlap (`BlockApart`).
* `0` is `nullptr`. `size_` is a natural number: a pop is made only while `size() > 0`, and a
  list holds fewer than `2^64` pointers to blocks apart in a 64-bit address space, so the
  `uint64_t` never wraps.
* `BUG_ON(!head_)` is `none`.
* The two scans over a batch's slots are `List.find?` over the indices they visit: `1` up to
  `kBatchSize - 1` in `push`, and back down in `pop`. `std::fill` is a loop of stores.
* A run (`Reachable`) starts from an empty list over any memory and pushes non-null pointers to
  blocks apart from those the list holds, and pops while `size() > 0`; beside the list it
  carries the pointers pushed and not yet popped.

Results:
* `Chain`: the memory holds a chain of batches from `head_`, and in each batch the filled slots
  are a prefix of `ptrs[1..kBatchSize-1]`; on such a batch the two scans find the end of the
  prefix (`pushSlot_eq`, `popSlot_eq`).
* `push_holds`, `pop_holds`: `push` and `pop` on memory carry out `pushBatch` and `popBatch` of
  `Mem.Slab` on the chain the memory holds.
* `reachable_inv`: along every run the memory holds a chain whose stack is the pointers pushed
  and not yet popped, last pushed first.
* `freePtrsList_bag`: so `size()` counts those pointers, none is held twice, a pop returns one of
  them (the last pushed) and removes it, and the head batch's filled slots are a prefix.
-/

namespace Sandook.Mem

/-- A chain whose `popBatch` returns is the chain of a list that pops the same. -/
theorem FreePtrsList.pop_of_popBatch {l : FreePtrsList} {ptr : ℕ} {rest : List (ℕ × List ℕ)}
    (h : popBatch l.batches = some (ptr, rest)) :
    ∃ l', l.pop = some (ptr, l') ∧ l'.batches = rest ∧ l'.size = l.size - 1 := by
  unfold FreePtrsList.pop
  split
  · rename_i heq
    rw [h] at heq
    cases heq
  · rename_i ptr' batches heq
    rw [h] at heq
    cases heq
    exact ⟨_, rfl, rfl, rfl⟩

namespace Heap

/-- The address of `ptrs[i]` in the batch at `b`. -/
def slot (b i : ℕ) : ℕ := b + 8 * i

/-- The blocks of `kBatchSize` words at `p` and at `q` do not overlap. -/
def BlockApart (p q : ℕ) : Prop := p + 8 * kBatchSize ≤ q ∨ q + 8 * kBatchSize ≤ p

/-- `std::fill` of `ptrs[lo..hi)` in the batch at `b` with `nullptr`. -/
def fillNull (mem : ℕ → ℕ) (b lo hi : ℕ) : ℕ → ℕ :=
  (List.range' lo (hi - lo)).foldl (fun m i => Function.update m (slot b i) 0) mem

/-- `FreePtrsList`'s fields `head_` and `size_`. -/
structure FreePtrsList where
  head : ℕ
  size : ℕ
  deriving DecidableEq, Repr

namespace FreePtrsList

/-- The scan of `push`: the lowest empty slot from `1` up. -/
def pushSlot (mem : ℕ → ℕ) (head : ℕ) : Option ℕ :=
  (List.range' 1 (kBatchSize - 1)).find? fun i => mem (slot head i) = 0

/-- The scan of `pop`: the highest filled slot from `kBatchSize - 1` down to `1`. -/
def popSlot (mem : ℕ → ℕ) (head : ℕ) : Option ℕ :=
  (List.range' 1 (kBatchSize - 1)).reverse.find? fun i => mem (slot head i) ≠ 0

/-- `push(ptr)`: into the head's lowest empty slot; on an empty list, or when the head is full,
the block at `ptr` becomes the head, with its slots cleared and `ptrs[0]` linking the old head. -/
def push (l : FreePtrsList) (mem : ℕ → ℕ) (ptr : ℕ) : FreePtrsList × (ℕ → ℕ) :=
  if l.head = 0 then (⟨ptr, l.size + 1⟩, fillNull mem ptr 0 kBatchSize)
  else
    match pushSlot mem l.head with
    | some i => (⟨l.head, l.size + 1⟩, Function.update mem (slot l.head i) ptr)
    | none =>
      (⟨ptr, l.size + 1⟩, fillNull (Function.update mem (slot ptr 0) l.head) ptr 1 kBatchSize)

/-- `pop()`: the head's highest filled slot, which is cleared; when none is filled, the head
itself, and `ptrs[0]` becomes the head. -/
def pop (l : FreePtrsList) (mem : ℕ → ℕ) : Option (ℕ × FreePtrsList × (ℕ → ℕ)) :=
  if l.head = 0 then none
  else
    match popSlot mem l.head with
    | some i =>
      some (mem (slot l.head i), ⟨l.head, l.size - 1⟩, Function.update mem (slot l.head i) 0)
    | none => some (l.head, ⟨mem (slot l.head 0), l.size - 1⟩, mem)

end FreePtrsList

/-! ## Words of batches -/

theorem slot_ne_slot {b i j : ℕ} (h : i ≠ j) : slot b i ≠ slot b j := by
  unfold slot
  omega

theorem slot_ne_of_apart {p q i j : ℕ} (h : BlockApart p q) (hi : i < kBatchSize)
    (hj : j < kBatchSize) : slot p i ≠ slot q j := by
  unfold BlockApart at h
  unfold slot
  omega

theorem BlockApart.symm {p q : ℕ} (h : BlockApart p q) : BlockApart q p := Or.symm h

/-- Stores of one value at the words `f i`, `i ∈ l`, in order. -/
theorem foldl_update_apply (f : ℕ → ℕ) (v a : ℕ) :
    ∀ (l : List ℕ) (mem : ℕ → ℕ),
      l.foldl (fun m i => Function.update m (f i) v) mem a = if ∃ i ∈ l, f i = a then v else mem a
  | [], mem => by simp
  | j :: l, mem => by
    rw [List.foldl_cons, foldl_update_apply f v a l, Function.update_apply]
    by_cases hl : ∃ i ∈ l, f i = a
    · simp [hl]
    · by_cases hj : a = f j
      · simp [hj]
      · simp only [hl, hj, if_false, List.mem_cons, exists_eq_or_imp]
        simp [Ne.symm hj]

theorem fillNull_slot {mem : ℕ → ℕ} {b lo hi i : ℕ} (hlo : lo ≤ i) (hhi : i < hi) :
    fillNull mem b lo hi (slot b i) = 0 := by
  rw [fillNull, foldl_update_apply, if_pos ⟨i, List.mem_range'_1.mpr ⟨hlo, by omega⟩, rfl⟩]

theorem fillNull_of_ne {mem : ℕ → ℕ} {b lo hi a : ℕ}
    (h : ∀ i, lo ≤ i → i < hi → slot b i ≠ a) : fillNull mem b lo hi a = mem a := by
  rw [fillNull, foldl_update_apply, if_neg]
  rintro ⟨i, hi, hia⟩
  obtain ⟨hlo, hhi⟩ := List.mem_range'_1.mp hi
  exact h i hlo (by omega) hia

theorem kBatchSize_eq_six : kBatchSize = 6 := rfl

/-- Blocks apart are at different addresses. -/
theorem BlockApart.ne {p q : ℕ} (h : BlockApart p q) : p ≠ q := by
  unfold BlockApart at h
  rw [kBatchSize_eq_six] at h
  omega

/-! ## Batches and chains in memory -/

/-- The batch at `b` holds `slots`, none of them `nullptr`, in `ptrs[1..]`, and `nullptr` in the
slots after them. -/
def BatchAt (mem : ℕ → ℕ) (b : ℕ) (slots : List ℕ) : Prop :=
  slots.length < kBatchSize ∧ (∀ s ∈ slots, s ≠ 0) ∧
    ∀ i, 0 < i → i < kBatchSize → mem (slot b i) = slots.getD (i - 1) 0

/-- The memory holds the chain `batches` from `head`, each batch linking the next in `ptrs[0]`
and the last linking `nullptr`. -/
def Chain (mem : ℕ → ℕ) : ℕ → List (ℕ × List ℕ) → Prop
  | head, [] => head = 0
  | head, (b, slots) :: rest =>
    head = b ∧ b ≠ 0 ∧ BatchAt mem b slots ∧ Chain mem (mem (slot b 0)) rest

/-- The list's fields and the memory hold the abstract list `a` of `Mem.Slab`. -/
def Holds (l : FreePtrsList) (mem : ℕ → ℕ) (a : Mem.FreePtrsList) : Prop :=
  l.size = a.size ∧ Chain mem l.head a.batches

section Batch

variable {mem : ℕ → ℕ} {b : ℕ} {slots : List ℕ}

/-- In a batch, slot `i` is filled exactly when it is within the prefix. -/
theorem BatchAt.filled_iff (h : BatchAt mem b slots) {i : ℕ} (hi0 : 0 < i) (hik : i < kBatchSize) :
    mem (slot b i) ≠ 0 ↔ i ≤ slots.length := by
  rw [h.2.2 i hi0 hik]
  by_cases hlt : i - 1 < slots.length
  · rw [List.getD_eq_getElem _ _ hlt]
    exact ⟨fun _ => by omega, fun _ => h.2.1 _ (List.getElem_mem hlt)⟩
  · rw [List.getD_eq_default _ _ (by omega)]
    simp only [ne_eq, not_true_eq_false, false_iff]
    omega

/-- `push`'s scan finds the slot after the prefix, if the batch is not full. -/
theorem pushSlot_eq (h : BatchAt mem b slots) :
    FreePtrsList.pushSlot mem b =
      if slots.length < kBatchSize - 1 then some (slots.length + 1) else none := by
  refine Sandook.Lib.find?_range'_of_boundary fun i h₁ h₂ => ?_
  rw [decide_eq_true_iff, ← not_le, ← h.filled_iff h₁ (by rw [kBatchSize_eq_six] at h₂ ⊢; omega),
    not_ne_iff]

/-- `pop`'s scan finds the last slot of the prefix, if it is not empty. -/
theorem popSlot_eq (h : BatchAt mem b slots) :
    FreePtrsList.popSlot mem b = if slots.length = 0 then none else some slots.length := by
  have hlen := h.1
  rw [kBatchSize_eq_six] at hlen
  refine Sandook.Lib.find?_reverse_range'_of_boundary (by rw [kBatchSize_eq_six]; omega)
    fun i h₁ h₂ => ?_
  rw [decide_eq_true_iff]
  exact h.filled_iff h₁ (by rw [kBatchSize_eq_six] at h₂ ⊢; omega)

theorem BatchAt.getLast_eq (h : BatchAt mem b slots) (hne : slots ≠ []) :
    mem (slot b slots.length) = slots.getLast hne := by
  have hpos : 0 < slots.length := List.length_pos_iff.mpr hne
  rw [h.2.2 _ hpos h.1, List.getD_eq_getElem _ _ (by omega), List.getLast_eq_getElem]

theorem BatchAt.congr {mem' : ℕ → ℕ} (h : BatchAt mem b slots)
    (hag : ∀ i, 0 < i → i < kBatchSize → mem' (slot b i) = mem (slot b i)) :
    BatchAt mem' b slots :=
  ⟨h.1, h.2.1, fun i hi0 hik => (hag i hi0 hik).trans (h.2.2 i hi0 hik)⟩

/-- Storing `ptr` in the slot after the prefix extends the prefix. -/
theorem BatchAt.push (h : BatchAt mem b slots) (hlen : slots.length < kBatchSize - 1) {ptr : ℕ}
    (hptr : ptr ≠ 0) :
    BatchAt (Function.update mem (slot b (slots.length + 1)) ptr) b (slots ++ [ptr]) := by
  refine ⟨by simp; omega, fun s hs => ?_, fun i hi0 hik => ?_⟩
  · rcases List.mem_append.mp hs with hs | hs
    · exact h.2.1 s hs
    · rw [List.mem_singleton.mp hs]
      exact hptr
  · rw [Function.update_apply]
    by_cases hi : i = slots.length + 1
    · subst hi
      simp
    · rw [if_neg (slot_ne_slot hi), h.2.2 i hi0 hik]
      by_cases hlt : i - 1 < slots.length
      · rw [List.getD_append _ _ _ _ hlt]
      · rw [List.getD_eq_default _ _ (by omega), List.getD_eq_default _ _ (by simp; omega)]

/-- Clearing the last slot of the prefix shortens it. -/
theorem BatchAt.pop (h : BatchAt mem b slots) (hne : slots ≠ []) :
    BatchAt (Function.update mem (slot b slots.length) 0) b slots.dropLast := by
  refine ⟨by simp; have := h.1; omega, fun s hs => h.2.1 s (List.dropLast_subset _ hs),
    fun i hi0 hik => ?_⟩
  rw [Function.update_apply]
  by_cases hi : i = slots.length
  · subst hi
    rw [if_pos rfl, List.getD_eq_default _ _ (by simp)]
  · rw [if_neg (slot_ne_slot hi), h.2.2 i hi0 hik]
    by_cases hlt : i - 1 < slots.length - 1
    · rw [List.getD_eq_getElem _ _ (by omega), List.getD_eq_getElem _ _ (by simpa using hlt),
        List.getElem_dropLast]
    · have hpos : 0 < slots.length := List.length_pos_iff.mpr hne
      rw [List.getD_eq_default _ _ (show slots.length ≤ i - 1 by omega),
        List.getD_eq_default _ _ (show slots.dropLast.length ≤ i - 1 by simp; omega)]

/-- A batch written by `std::fill` from slot `lo ≤ 1` holds nothing. -/
theorem batchAt_fillNull {lo : ℕ} (hlo : lo ≤ 1) : BatchAt (fillNull mem b lo kBatchSize) b [] :=
  ⟨by decide, by simp, fun i hi0 hik => by rw [fillNull_slot (by omega) hik]; rfl⟩

end Batch

theorem Chain.congr {mem mem' : ℕ → ℕ} :
    ∀ {head : ℕ} {batches : List (ℕ × List ℕ)}, Chain mem head batches →
      (∀ x ∈ batches, ∀ i < kBatchSize, mem' (slot x.1 i) = mem (slot x.1 i)) →
      Chain mem' head batches
  | _, [], h, _ => h
  | _, (b, slots) :: rest, ⟨hb, hb0, hbatch, hrest⟩, hag => by
    have hlink : mem' (slot b 0) = mem (slot b 0) :=
      hag (b, slots) List.mem_cons_self 0 (by rw [kBatchSize_eq_six]; omega)
    refine ⟨hb, hb0, hbatch.congr fun i _ hik => hag (b, slots) List.mem_cons_self i hik, ?_⟩
    rw [hlink]
    exact Chain.congr hrest fun x hx => hag x (List.mem_cons_of_mem _ hx)

/-- The batches of a chain are among the pointers of its stack. -/
theorem map_fst_sublist_batchStack :
    ∀ batches : List (ℕ × List ℕ), (batches.map Prod.fst).Sublist (batchStack batches)
  | [] => List.Sublist.slnil
  | (b, slots) :: rest => by
    simp only [List.map_cons, batchStack, List.flatMap_cons, List.append_assoc,
      List.singleton_append]
    exact ((map_fst_sublist_batchStack rest).cons_cons b).trans (List.sublist_append_right _ _)

/-! ## `push` and `pop` carry out the chain's operations -/

@[simp] theorem FreePtrsList.size_push (l : FreePtrsList) (mem : ℕ → ℕ) (ptr : ℕ) :
    (l.push mem ptr).1.size = l.size + 1 := by
  unfold FreePtrsList.push
  split
  · rfl
  · split <;> rfl

/-- Stores into the block at `ptr` leave the words of every block apart from it. -/
theorem fillNull_update_of_apart {mem : ℕ → ℕ} {ptr q v i : ℕ} (hap : BlockApart ptr q)
    (hi : i < kBatchSize) :
    fillNull (Function.update mem (slot ptr 0) v) ptr 1 kBatchSize (slot q i) = mem (slot q i) := by
  rw [fillNull_of_ne fun j _ hj => slot_ne_of_apart hap hj hi,
    Function.update_of_ne (slot_ne_of_apart hap (by rw [kBatchSize_eq_six]; omega) hi).symm]

theorem apart_of_nodes {b : ℕ} {slots : List ℕ} {rest : List (ℕ × List ℕ)}
    (hnodes : (((b, slots) :: rest).map Prod.fst).Pairwise BlockApart) :
    ∀ x ∈ rest, BlockApart b x.1 := by
  intro x hx
  exact (List.pairwise_cons.mp hnodes).1 x.1 (List.mem_map_of_mem hx)

/-- A store into the batch at `b` keeps the chain of batches apart from it. -/
theorem Chain.update_of_apart {mem : ℕ → ℕ} {b j v head : ℕ} {rest : List (ℕ × List ℕ)}
    (h : Chain mem head rest) (hap : ∀ x ∈ rest, BlockApart b x.1) (hj : j < kBatchSize) :
    Chain (Function.update mem (slot b j) v) head rest :=
  h.congr fun x hx _ hi => Function.update_of_ne (slot_ne_of_apart (hap x hx).symm hi hj) _ _

section Steps

variable {l : FreePtrsList} {mem : ℕ → ℕ} {a : Mem.FreePtrsList}

/-- **`push` carries out `pushBatch`** on the chain the memory holds, for a non-null pointer to a
block apart from the chain's batches, which are apart from each other. -/
theorem push_holds (hl : Holds l mem a) {ptr : ℕ} (hptr : ptr ≠ 0)
    (hfresh : ∀ x ∈ a.batches, BlockApart ptr x.1)
    (hnodes : (a.batches.map Prod.fst).Pairwise BlockApart) :
    Holds (l.push mem ptr).1 (l.push mem ptr).2 (a.push ptr) := by
  obtain ⟨hsize, hchain⟩ := hl
  refine ⟨by rw [FreePtrsList.size_push, hsize]; rfl, ?_⟩
  show Chain _ _ (pushBatch a.batches ptr)
  unfold FreePtrsList.push
  cases hb : a.batches with
  | nil =>
    -- the first push: the block at `ptr` becomes the only batch
    rw [hb] at hchain
    have h0 : l.head = 0 := hchain
    rw [if_pos h0]
    exact ⟨rfl, hptr, batchAt_fillNull (Nat.zero_le 1),
      fillNull_slot (Nat.le_refl 0) (by rw [kBatchSize_eq_six]; omega)⟩
  | cons x rest =>
    obtain ⟨b, slots⟩ := x
    rw [hb] at hchain hnodes hfresh
    obtain ⟨hhead, hb0, hbatch, hrest⟩ := hchain
    rw [if_neg (hhead ▸ hb0), hhead, pushSlot_eq hbatch]
    simp only [pushBatch]
    by_cases hlen : slots.length < kBatchSize - 1
    · -- a slot is free: the head's prefix grows
      rw [if_pos hlen, if_pos hlen]
      dsimp only
      refine ⟨rfl, hb0, hbatch.push hlen hptr, ?_⟩
      rw [Function.update_of_ne (slot_ne_slot (by omega))]
      exact hrest.update_of_apart (apart_of_nodes hnodes) (by omega)
    · -- the head is full: the block at `ptr` becomes the head, linking the old one
      rw [if_neg hlen, if_neg hlen]
      dsimp only
      refine ⟨rfl, hptr, batchAt_fillNull (Nat.le_refl 1), ?_⟩
      rw [fillNull_of_ne fun i hi _ => slot_ne_slot (by omega), Function.update_self]
      exact Chain.congr ⟨rfl, hb0, hbatch, hrest⟩ fun x hx i hi =>
        fillNull_update_of_apart (hfresh x hx) hi

/-- **`pop` carries out `popBatch`** on the chain the memory holds, while `size_` is positive. -/
theorem pop_holds (hl : Holds l mem a) (hnodes : (a.batches.map Prod.fst).Pairwise BlockApart)
    (hpos : 0 < l.size) :
    ∃ p l' mem' a', l.pop mem = some (p, l', mem') ∧ a.pop = some (p, a') ∧ Holds l' mem' a' := by
  obtain ⟨hsize, hchain⟩ := hl
  cases hb : a.batches with
  | nil =>
    have hzero : l.size = 0 := by rw [hsize, a.size_eq, hb]; rfl
    exact absurd hpos (by omega)
  | cons x rest =>
    obtain ⟨b, slots⟩ := x
    rw [hb] at hchain hnodes
    obtain ⟨hhead, hb0, hbatch, hrest⟩ := hchain
    unfold FreePtrsList.pop
    rw [if_neg (hhead ▸ hb0), hhead, popSlot_eq hbatch]
    cases slots with
    | nil =>
      -- no slot is filled: the head itself, and `ptrs[0]` becomes the head
      obtain ⟨a', ha', hbatches, hsize'⟩ :=
        Mem.FreePtrsList.pop_of_popBatch (show popBatch a.batches = some (b, rest) by rw [hb]; rfl)
      refine ⟨b, _, mem, a', rfl, ha', by rw [hsize', hsize], ?_⟩
      rw [hbatches]
      exact hrest
    | cons s ss =>
      -- the last filled slot, which is cleared
      obtain ⟨a', ha', hbatches, hsize'⟩ := Mem.FreePtrsList.pop_of_popBatch
        (show popBatch a.batches = some ((s :: ss).getLast (List.cons_ne_nil s ss),
          (b, (s :: ss).dropLast) :: rest) by rw [hb]; rfl)
      rw [if_neg (List.length_cons (a := s) ▸ Nat.succ_ne_zero ss.length)]
      refine ⟨_, _, _, a', rfl, by rw [ha', hbatch.getLast_eq], by rw [hsize', hsize], ?_⟩
      rw [hbatches]
      refine ⟨rfl, hb0, hbatch.pop (List.cons_ne_nil s ss), ?_⟩
      rw [Function.update_of_ne (slot_ne_slot (by simp))]
      exact hrest.update_of_apart (apart_of_nodes hnodes) hbatch.1

end Steps

/-! ## Runs -/

/-- The states a run reaches from an empty list over any memory, with the pointers pushed and not
yet popped, last pushed first. -/
inductive Reachable : FreePtrsList → (ℕ → ℕ) → List ℕ → Prop
  | init (mem : ℕ → ℕ) : Reachable ⟨0, 0⟩ mem []
  | push {l : FreePtrsList} {mem : ℕ → ℕ} {held : List ℕ} {ptr : ℕ} :
      Reachable l mem held → ptr ≠ 0 → (∀ q ∈ held, BlockApart ptr q) →
      Reachable (l.push mem ptr).1 (l.push mem ptr).2 (ptr :: held)
  | pop {l l' : FreePtrsList} {mem mem' : ℕ → ℕ} {held : List ℕ} {ptr : ℕ} :
      Reachable l mem held → 0 < l.size → l.pop mem = some (ptr, l', mem') →
      Reachable l' mem' (held.erase ptr)

/-- The invariant of runs: the memory holds a chain whose stack is the pointers held, and their
blocks are apart. -/
def Inv (l : FreePtrsList) (mem : ℕ → ℕ) (held : List ℕ) : Prop :=
  ∃ a : Mem.FreePtrsList, Holds l mem a ∧ a.stack = held ∧ held.Pairwise BlockApart

/-- The batches of a chain whose stack is held are apart. -/
theorem nodes_apart {held : List ℕ} {a : Mem.FreePtrsList}
    (hstack : a.stack = held) (hapart : held.Pairwise BlockApart) :
    (a.batches.map Prod.fst).Pairwise BlockApart :=
  (hstack ▸ hapart).sublist (map_fst_sublist_batchStack a.batches)

theorem inv_init (mem : ℕ → ℕ) : Inv ⟨0, 0⟩ mem [] :=
  ⟨Mem.FreePtrsList.empty, ⟨rfl, rfl⟩, rfl, List.Pairwise.nil⟩

theorem Inv.push {l : FreePtrsList} {mem : ℕ → ℕ} {held : List ℕ} (h : Inv l mem held) {ptr : ℕ}
    (hptr : ptr ≠ 0) (hfresh : ∀ q ∈ held, BlockApart ptr q) :
    Inv (l.push mem ptr).1 (l.push mem ptr).2 (ptr :: held) := by
  obtain ⟨a, hholds, hstack, hapart⟩ := h
  have hbatch : ∀ x ∈ a.batches, BlockApart ptr x.1 := fun x hx =>
    hfresh x.1 (hstack ▸ (map_fst_sublist_batchStack a.batches).subset (List.mem_map_of_mem hx))
  refine ⟨a.push ptr, push_holds hholds hptr hbatch (nodes_apart hstack hapart), ?_, ?_⟩
  · rw [Mem.FreePtrsList.stack_push, hstack]
  · exact List.pairwise_cons.mpr ⟨hfresh, hapart⟩

theorem Inv.pop {l l' : FreePtrsList} {mem mem' : ℕ → ℕ} {held : List ℕ} {ptr : ℕ}
    (h : Inv l mem held) (hpos : 0 < l.size) (hpop : l.pop mem = some (ptr, l', mem')) :
    Inv l' mem' (held.erase ptr) := by
  obtain ⟨a, hholds, hstack, hapart⟩ := h
  obtain ⟨p, l'', mem'', a', hpop', ha', hholds'⟩ :=
    pop_holds hholds (nodes_apart hstack hapart) hpos
  rw [hpop, Option.some.injEq, Prod.mk.injEq, Prod.mk.injEq] at hpop'
  obtain ⟨rfl, rfl, rfl⟩ := hpop'
  -- the pointer popped is the top of the stack
  have htop : held = ptr :: a'.stack := hstack ▸ Mem.FreePtrsList.stack_pop ha'
  refine ⟨a', hholds', by rw [htop, List.erase_cons_head], ?_⟩
  rw [htop, List.erase_cons_head]
  exact (List.pairwise_cons.mp (htop ▸ hapart)).2

theorem reachable_inv {l : FreePtrsList} {mem : ℕ → ℕ} {held : List ℕ}
    (h : Reachable l mem held) : Inv l mem held := by
  induction h with
  | init mem => exact inv_init mem
  | push _ hptr hfresh ih => exact ih.push hptr hfresh
  | pop _ hpos hpop ih => exact ih.pop hpos hpop

/-- **`FreePtrsList` is a bag of the pointers pushed and not yet popped**, along every run that
pushes non-null pointers to blocks apart from those the list holds and pops while `size() > 0`:
`size()` counts them, none is held twice, a pop returns one of them, the last pushed, which the
run then no longer holds, and the filled slots of the head batch are a prefix of
`ptrs[1..kBatchSize-1]`. -/
theorem freePtrsList_bag {l : FreePtrsList} {mem : ℕ → ℕ} {held : List ℕ}
    (h : Reachable l mem held) :
    l.size = held.length ∧ held.Nodup ∧
      (0 < l.size → ∃ p l' mem', l.pop mem = some (p, l', mem') ∧ held.head? = some p) ∧
      (l.head ≠ 0 → ∃ n < kBatchSize, (∀ i, 0 < i → i ≤ n → mem (slot l.head i) ≠ 0) ∧
        ∀ i, n < i → i < kBatchSize → mem (slot l.head i) = 0) := by
  obtain ⟨a, ⟨hsize, hchain⟩, hstack, hapart⟩ := reachable_inv h
  refine ⟨by rw [hsize, Mem.FreePtrsList.size_eq_length, hstack], ?_, fun hpos => ?_, fun hne => ?_⟩
  · exact hapart.imp BlockApart.ne
  · obtain ⟨p, l', mem', a', hpop, ha', -⟩ :=
      pop_holds ⟨hsize, hchain⟩ (nodes_apart hstack hapart) hpos
    refine ⟨p, l', mem', hpop, ?_⟩
    rw [← hstack, Mem.FreePtrsList.stack_pop ha']
    rfl
  · -- a non-null head is the first batch of the chain
    cases hb : a.batches with
    | nil =>
      rw [hb] at hchain
      exact absurd hchain hne
    | cons x rest =>
      obtain ⟨b, slots⟩ := x
      rw [hb] at hchain
      obtain ⟨hhead, -, hbatch, -⟩ := hchain
      subst hhead
      refine ⟨slots.length, hbatch.1, fun i hi0 hi => ?_, fun i hi hik => ?_⟩
      · exact (hbatch.filled_iff hi0 (by have := hbatch.1; omega)).mpr hi
      · have hfilled := hbatch.filled_iff (by omega) hik
        by_contra hz
        exact absurd (hfilled.mp hz) (by omega)

/-- Two pushes into an empty list: `128` goes into slot `1` of the batch at `64`. -/
def twoPushes : FreePtrsList × (ℕ → ℕ) :=
  ((FreePtrsList.push ⟨0, 0⟩ (fun _ => 0) 64).1.push (FreePtrsList.push ⟨0, 0⟩ (fun _ => 0) 64).2 128)

theorem freePtrsList_bag_two_pushes :
    twoPushes.1.size = [128, 64].length ∧ [128, 64].Nodup ∧
      (0 < twoPushes.1.size →
        ∃ p l' mem', twoPushes.1.pop twoPushes.2 = some (p, l', mem') ∧ [128, 64].head? = some p) ∧
      (twoPushes.1.head ≠ 0 → ∃ n < kBatchSize,
        (∀ i, 0 < i → i ≤ n → twoPushes.2 (slot twoPushes.1.head i) ≠ 0) ∧
        ∀ i, n < i → i < kBatchSize → twoPushes.2 (slot twoPushes.1.head i) = 0) :=
  freePtrsList_bag (.push (.push (.init fun _ => 0) (by decide) (by simp)) (by decide)
    (by simp [BlockApart, kBatchSize_eq_six]))

end Heap

end Sandook.Mem
