import Sandook.Lib.Align
import Sandook.Mem.Slab

/-!
# The malloc hook's aligned allocation (`mem/mem_hook.cc`)

Model of `__new_aligned`, which serves `operator new(size, align_val_t)` on top of `__new`: it
asks `__new` for `size + sizeof(size_t) + align - 1` bytes, rounds the address one word past the
block up to the alignment, and stores the block's address in the word below the rounded address,
where `__delete_aligned` reads it back.

* `__new` is `slab.allocate(size)` once the runtime is initialised (`hookNew`) and the real
  `malloc` before; the results below hold for any allocator `alloc` over a state `σ` that returns
  `0` for `nullptr`.
* `size_t` and `uintptr_t` arithmetic is modulo `2^64`. The alignment is `2^k` with `k < 64`, as
  an `align_val_t` must be a power of two, so `align - 1` does not wrap.
* Memory is a map from addresses to the words stored there; `*header = ptr` stores one word.
  Storing it when `__new` returned `nullptr` writes below address `align`, into no object:
  undefined behaviour, `none`.

Results:
* `newAligned_spec`: when the request does not wrap and `__new` returns a block inside the address
  space, the result is a multiple of the alignment, the word below it holds the block's address,
  which `__delete_aligned` passes to `__delete`, and its `size` bytes lie inside the block.
* `newAligned_hookNew_live`: through the slab allocator, those bytes lie inside the allocation
  the slab hands out.
* `newAligned_request_wraps`: for a size within `sizeof(size_t) + align - 1` of `2^64`, the
  request wraps to fewer bytes than `size`.
* `newAligned_null`: a `nullptr` from `__new` is not passed on; the header store is undefined.
-/

namespace Sandook.Mem

open Sandook.Lib

/-- `sizeof(size_t)`, the word the base pointer is stored in. -/
def kSizeT : ℕ := 8

/-- What `__new_aligned` asks `__new` for: `size += sizeof(size_t)`, then `size + align - 1`,
in `size_t`. -/
def alignedRequest (size align : ℕ) : ℕ := ((size + kSizeT) % 2 ^ 64 + align - 1) % 2 ^ 64

/-- `(ptr_addr + sizeof(size_t) + align - 1) & ~(align - 1)`, in `uintptr_t`. -/
def alignedAddr (ptr align : ℕ) : ℕ :=
  ((ptr + kSizeT + align - 1) % 2 ^ 64) &&& (2 ^ 64 - 1 - (align - 1))

/-- `__new_aligned(size, al)` with `__new` = `alloc`: the aligned address, the allocator's state,
and the memory after the base pointer is stored below the aligned address. -/
def newAligned {σ : Type} (alloc : σ → ℕ → Option (ℕ × σ)) (s : σ) (mem : ℕ → ℕ)
    (size align : ℕ) : Option (ℕ × σ × (ℕ → ℕ)) :=
  (alloc s (alignedRequest size align)).bind fun r =>
    let alignedPtrAddr := alignedAddr r.1 align
    if r.1 = 0 then none
    else some (alignedPtrAddr, r.2, Function.update mem (alignedPtrAddr - kSizeT) r.1)

/-- `__delete_aligned(ptr)`: what it passes to `__delete`, the word below `ptr`. -/
def deleteAlignedBase (mem : ℕ → ℕ) (ptr : ℕ) : ℕ := mem (ptr - kSizeT)

/-- `__new(size)` once the runtime is initialised: `slab.allocate(size)`. -/
def hookNew (a : SlabAllocator) (size : ℕ) : Option (ℕ × SlabAllocator) := a.allocate size

/-! ## The size arithmetic -/

theorem alignedRequest_eq {size k : ℕ} (h : size + kSizeT + 2 ^ k - 1 < 2 ^ 64) :
    alignedRequest size (2 ^ k) = size + kSizeT + 2 ^ k - 1 := by
  have : 1 ≤ 2 ^ k := Nat.one_le_two_pow
  unfold alignedRequest
  rw [Nat.mod_eq_of_lt (by omega), Nat.mod_eq_of_lt (by omega)]

/-- On a block inside the address space, the aligned address is the block's address one word
on, rounded up to the alignment. -/
theorem alignedAddr_eq {ptr k : ℕ} (hk : k < 64) (h : ptr + kSizeT + 2 ^ k - 1 < 2 ^ 64) :
    alignedAddr ptr (2 ^ k) = alignUp (ptr + kSizeT) k := by
  unfold alignedAddr
  rw [Nat.mod_eq_of_lt h, show 2 ^ 64 - 1 - (2 ^ k - 1) = notLowBits 64 k from rfl,
    land_notLowBits (Nat.le_of_lt hk) h]
  rfl

/-- **`__new_aligned` on a request that does not wrap**, when `__new` returns a block inside the
address space: the block's address one word on, rounded up to the alignment, with the block's
address stored in the word below it and nothing else stored. That address is a multiple of the
alignment, its word lies inside the block, and so do the `size` bytes from it. -/
theorem newAligned_spec {σ : Type} (alloc : σ → ℕ → Option (ℕ × σ)) (s : σ) (mem : ℕ → ℕ)
    {size k : ℕ} (hk : k < 64) (h : size + kSizeT + 2 ^ k - 1 < 2 ^ 64) {ptr : ℕ} {s' : σ}
    (halloc : alloc s (size + kSizeT + 2 ^ k - 1) = some (ptr, s')) (hptr : ptr ≠ 0)
    (hfit : ptr + (size + kSizeT + 2 ^ k - 1) < 2 ^ 64) :
    newAligned alloc s mem size (2 ^ k) =
        some (alignUp (ptr + kSizeT) k, s',
          Function.update mem (alignUp (ptr + kSizeT) k - kSizeT) ptr) ∧
      2 ^ k ∣ alignUp (ptr + kSizeT) k ∧ ptr ≤ alignUp (ptr + kSizeT) k - kSizeT ∧
      alignUp (ptr + kSizeT) k + size ≤ ptr + (size + kSizeT + 2 ^ k - 1) := by
  have haddr := alignedAddr_eq hk (show ptr + kSizeT + 2 ^ k - 1 < 2 ^ 64 by omega)
  have hle := le_alignUp (ptr + kSizeT) k
  have hlt := alignUp_lt (ptr + kSizeT) k
  refine ⟨?_, alignUp_dvd _ _, by omega, by omega⟩
  rw [newAligned, alignedRequest_eq h, halloc, Option.bind_some]
  simp only [haddr, if_neg hptr]

/-- **For a size within `sizeof(size_t) + align - 1` of `2^64`, the request wraps**: `__new` is
asked for `size + sizeof(size_t) + align - 1 - 2^64` bytes, fewer than `size`, so no block it
returns holds the `size` bytes from the aligned address. -/
theorem newAligned_request_wraps {size k : ℕ} (hsize : size < 2 ^ 64) (hk : k < 64)
    (hwrap : 2 ^ 64 ≤ size + kSizeT + 2 ^ k - 1) :
    alignedRequest size (2 ^ k) = size + kSizeT + 2 ^ k - 1 - 2 ^ 64 ∧
      alignedRequest size (2 ^ k) < size := by
  have hpow : 2 ^ k ≤ 2 ^ 63 := Nat.pow_le_pow_right (by decide) (by omega)
  have : 1 ≤ 2 ^ k := Nat.one_le_two_pow
  unfold alignedRequest
  simp only [kSizeT] at hwrap ⊢
  constructor <;> omega

/-- The largest size: `operator new(2^64 - 1, align_val_t{16})` asks `__new` for `22` bytes. -/
theorem newAligned_request_wraps_max :
    alignedRequest (2 ^ 64 - 1) 16 = 22 ∧ alignedRequest (2 ^ 64 - 1) 16 < 2 ^ 64 - 1 := by
  have h := @newAligned_request_wraps (2 ^ 64 - 1) 4 (by decide) (by decide) (by decide)
  exact ⟨h.1.trans (by decide), h.2⟩

/-- A `nullptr` from `__new` ends in the undefined store of the header. -/
theorem newAligned_null {σ : Type} (alloc : σ → ℕ → Option (ℕ × σ)) (s : σ) (mem : ℕ → ℕ)
    (size align : ℕ) {s' : σ} (halloc : alloc s (alignedRequest size align) = some (0, s')) :
    newAligned alloc s mem size align = none := by
  rw [newAligned, halloc, Option.bind_some]
  simp

/-! ## Through the slab allocator -/

/-- **Through the slab allocator**, in a state that keeps its invariant over a region whose end
is an address, an aligned allocation whose request does not wrap lies with its header word inside
the allocation the slab hands out, which is live in the state after. -/
theorem newAligned_hookNew_live {a : SlabAllocator} {live : List (ℕ × ℕ)}
    (hinv : SlabAllocator.Inv a live) (hend : a.end_ < 2 ^ 64) (mem : ℕ → ℕ) {size k : ℕ}
    (hk : k < 64) (h : size + kSizeT + 2 ^ k - 1 < 2 ^ 64) {q : ℕ} {a' : SlabAllocator}
    {mem' : ℕ → ℕ} (hnew : newAligned hookNew a mem size (2 ^ k) = some (q, a', mem')) :
    ∃ p, SlabAllocator.Inv a' ((p, size + kSizeT + 2 ^ k - 1) :: live) ∧ 2 ^ k ∣ q ∧
      mem' (q - kSizeT) = p ∧ p ≤ q - kSizeT ∧ q + size ≤ p + (size + kSizeT + 2 ^ k - 1) := by
  rw [newAligned, alignedRequest_eq h] at hnew
  obtain ⟨⟨p, a₁⟩, halloc, hrest⟩ := Option.bind_eq_some_iff.mp hnew
  have hp : p ≠ 0 := by
    intro hp
    simp [hp] at hrest
  -- the slab's allocation is live after the call, and inside the region
  obtain ⟨-, -, hinv₁⟩ := SlabAllocator.allocate_inv hinv halloc
  rw [if_neg hp] at hinv₁
  have hinside := (hinv₁.live_inside List.mem_cons_self).2.2
  have hend₁ : a₁.end_ = a.end_ := (SlabAllocator.allocate_inv hinv halloc).2.1
  obtain ⟨hspec, hdvd, hlo, hhi⟩ := newAligned_spec hookNew a mem hk h halloc hp (by omega)
  rw [newAligned, alignedRequest_eq h, halloc, Option.bind_some] at hspec
  rw [hspec, Option.some.injEq, Prod.mk.injEq, Prod.mk.injEq] at hrest
  obtain ⟨rfl, rfl, rfl⟩ := hrest
  exact ⟨p, hinv₁, hdvd, Function.update_self _ _ _, hlo, hhi⟩

/-- A `64`-aligned allocation of `100` bytes from a fresh slab over `[4096, 2^20)`. -/
theorem newAligned_hookNew_live_fresh :
    ∃ q a' mem', newAligned hookNew (SlabAllocator.init 4096 1048576 fun _ => 0) (fun _ => 0) 100
        (2 ^ 6) = some (q, a', mem') ∧
      ∃ p, SlabAllocator.Inv a' [(p, 100 + kSizeT + 2 ^ 6 - 1)] ∧ 2 ^ 6 ∣ q ∧
        mem' (q - kSizeT) = p ∧ p ≤ q - kSizeT ∧ q + 100 ≤ p + (100 + kSizeT + 2 ^ 6 - 1) := by
  have hs : (newAligned hookNew (SlabAllocator.init 4096 1048576 fun _ => 0) (fun _ => 0) 100
      (2 ^ 6)).isSome := by
    decide +kernel
  obtain ⟨⟨q, a', mem'⟩, h⟩ := Option.isSome_iff_exists.mp hs
  exact ⟨q, a', mem', h, newAligned_hookNew_live
    (SlabAllocator.inv_init _ (Or.inl (by decide)) (by decide) (by decide)) (by decide) _
    (by decide) (by decide) h⟩

end Sandook.Mem
