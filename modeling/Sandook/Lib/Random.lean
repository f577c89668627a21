import Mathlib.Data.List.Basic
import Mathlib.Data.List.Nodup
import Mathlib.Data.List.Perm.Basic
import Mathlib.Data.List.Perm.Subperm
import Mathlib.Order.Basic

/-!
# Random draws and selection sampling

A random engine is a stream of draws: `draws i k` is the `i`-th draw, a value in `[0, k]`; a
caller keeps its position in the stream. Every theorem is stated for every stream, so the
distribution of the engine plays no part.

`selectionSample` is `std::sample` over a forward range, in the one-at-a-time form of the
standard library's loop: each element is kept when a draw over `[0, unsampled - 1]` falls below
the number still to pick. (The library may draw two decisions from one call of the engine; the
decisions it can make are the same.) The sample is an order-preserving sublist of the input of
length `min n |l|`.

`drawWithoutReplacement` picks `n` elements one at a time: each draw is a position among the
elements left, and the element there is removed (`std::advance` and `erase` on a `std::set`). A
stream that ignores its position and draws `h % (k + 1)` is a fixed hash. Its picks are a
sub-permutation of the input, of length `min n |l|`. Every sub-permutation of a list without
duplicates is itself without duplicates.
-/

namespace Sandook.Lib

/-- A stream of random draws: `draws i k ∈ [0, k]`. -/
abbrev Draws := ℕ → (k : ℕ) → Fin (k + 1)

variable {α : Type}

/-- Selection sampling of `n` elements of `l` from stream position `pos`: the sample and the
next position. -/
def selectionSample (draws : Draws) : List α → ℕ → ℕ → List α × ℕ
  | [], _, pos => ([], pos)
  | x :: xs, n, pos =>
    if n = 0 then ([], pos)
    else if (draws pos xs.length).val < n then
      let r := selectionSample draws xs (n - 1) (pos + 1)
      (x :: r.1, r.2)
    else selectionSample draws xs n (pos + 1)

/-- `std::sample(first, last, out, n, g)`: at most `n` elements, `min n |l|` of them. -/
def sample (draws : Draws) (l : List α) (n pos : ℕ) : List α × ℕ :=
  selectionSample draws l (min n l.length) pos

variable (draws : Draws)

/-- The sample keeps the input's order and repeats nothing: it is a sublist. -/
theorem selectionSample_sublist :
    ∀ (l : List α) (n pos : ℕ), (selectionSample draws l n pos).1.Sublist l
  | [], _, _ => List.Sublist.slnil
  | x :: xs, n, pos => by
    unfold selectionSample
    split_ifs
    · exact List.nil_sublist _
    · exact (selectionSample_sublist xs (n - 1) (pos + 1)).cons_cons x
    · exact (selectionSample_sublist xs n (pos + 1)).cons x

/-- **Selection sampling picks exactly `n` elements** when there are at least `n`: once as many
elements remain as are still wanted, every draw keeps its element. -/
theorem length_selectionSample :
    ∀ (l : List α) (n pos : ℕ), n ≤ l.length → (selectionSample draws l n pos).1.length = n
  | [], n, _, h => by simp only [List.length_nil, Nat.le_zero] at h; subst h; rfl
  | x :: xs, n, pos, h => by
    unfold selectionSample
    split_ifs with h0 hd
    · rw [h0]; rfl
    · simp only [List.length_cons] at h ⊢
      rw [length_selectionSample xs (n - 1) (pos + 1) (by omega)]
      omega
    · have hlt := (draws pos xs.length).isLt
      simp only [List.length_cons] at h
      exact length_selectionSample xs n (pos + 1) (by omega)

theorem sample_sublist (l : List α) (n pos : ℕ) : (sample draws l n pos).1.Sublist l :=
  selectionSample_sublist draws l _ pos

theorem length_sample (l : List α) (n pos : ℕ) :
    (sample draws l n pos).1.length = min n l.length :=
  length_selectionSample draws l _ pos (Nat.min_le_right n l.length)

/-! ## Drawing without replacement -/

/-- Pick `n` elements of `l` without replacement from stream position `pos`: the picks in
order and the next position. -/
def drawWithoutReplacement (draws : Draws) : List α → ℕ → ℕ → List α × ℕ
  | _, 0, pos => ([], pos)
  | [], _ + 1, pos => ([], pos)
  | x :: xs, n + 1, pos =>
    let i := draws pos xs.length
    let r := drawWithoutReplacement draws ((x :: xs).eraseIdx i) n (pos + 1)
    ((x :: xs).get i :: r.1, r.2)

/-- The stream of a fixed hash `h`: every draw over `[0, k]` is `h % (k + 1)`. -/
def hashDraws (h : ℕ) : Draws := fun _ k => ⟨h % (k + 1), Nat.mod_lt _ k.succ_pos⟩

/-- The picks are distinct positions of the input: a sub-permutation of it. -/
theorem drawWithoutReplacement_subperm :
    ∀ (l : List α) (n pos : ℕ), (drawWithoutReplacement draws l n pos).1.Subperm l
  | _, 0, _ => List.nil_subperm
  | [], _ + 1, _ => List.nil_subperm
  | x :: xs, n + 1, pos => by
    let i := draws pos xs.length
    have hi : i.val < (x :: xs).length := i.isLt
    have hrest := drawWithoutReplacement_subperm ((x :: xs).eraseIdx i) n (pos + 1)
    have hperm : List.Perm ((x :: xs)[i.val] :: (x :: xs).eraseIdx i) (x :: xs) :=
      List.getElem_cons_eraseIdx_perm hi
    exact ((List.subperm_cons _).mpr hrest).trans hperm.subperm

/-- **Drawing `n` without replacement picks `min n |l|` elements.** -/
theorem length_drawWithoutReplacement :
    ∀ (l : List α) (n pos : ℕ), (drawWithoutReplacement draws l n pos).1.length = min n l.length
  | _, 0, _ => (Nat.zero_min _).symm
  | [], _ + 1, _ => rfl
  | x :: xs, n + 1, pos => by
    let i := draws pos xs.length
    have hi : i.val < (x :: xs).length := i.isLt
    have hrest := length_drawWithoutReplacement ((x :: xs).eraseIdx i) n (pos + 1)
    rw [List.length_eraseIdx_of_lt hi, List.length_cons, Nat.add_sub_cancel] at hrest
    show (drawWithoutReplacement draws ((x :: xs).eraseIdx i) n (pos + 1)).1.length + 1 =
      min (n + 1) (xs.length + 1)
    rw [hrest, Nat.add_min_add_right]

/-- A sub-permutation of a list without duplicates has none. -/
theorem nodup_of_subperm {l₁ l₂ : List α} (h : l₁.Subperm l₂) (hn : l₂.Nodup) : l₁.Nodup := by
  obtain ⟨l, hp, hs⟩ := h
  exact hp.nodup_iff.mp (hn.sublist hs)

end Sandook.Lib
