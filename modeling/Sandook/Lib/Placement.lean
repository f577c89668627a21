import Mathlib.Data.List.Nodup
import Mathlib.Data.List.Perm.Subperm
import Mathlib.Data.List.Range

/-!
# Items held in places

A system that moves items between places (stacks, maps, queues, a caller's hands) without
copying them holds each item in one place at most. `Exclusive c` says so of the contents
`c : P → List α` of the places. A step that changes the places of a list `ps` only, whose new
contents together are a sub-permutation of their old contents and of new items held nowhere,
keeps it (`Exclusive.step`): that is all a step has to show, whatever it does inside.

Results:
* `Exclusive.step`: the rule for one step.
* `held_of_step`: an item held after the step was held before or is new.
* `disjoint_of_nodup_flatMap`: the converse of `Exclusive.nodup_flatMap`, for two places.
* `flatMap_range_update_perm`: a map of keys to lists, one key's list replaced.
* `perm_exchange`: a part of a permutation exchanged for one it is a permutation of.
* `flatMap_range_getElem?`: a list of places, as the places `0, …, length - 1`.
-/

namespace Sandook.Lib

variable {P α : Type}

/-- No item is held twice in one place or in two places. -/
structure Exclusive (c : P → List α) : Prop where
  nodup : ∀ p, (c p).Nodup
  disjoint : ∀ p q, p ≠ q → ∀ x ∈ c p, x ∉ c q

/-- `x` is held in some place. -/
def Held (c : P → List α) (x : α) : Prop := ∃ p, x ∈ c p

/-- The contents of distinct places, one after the other, hold no item twice. -/
theorem Exclusive.nodup_flatMap {c : P → List α} (h : Exclusive c) {ps : List P}
    (hps : ps.Nodup) : (ps.flatMap c).Nodup := by
  refine List.nodup_flatMap.mpr ⟨fun p _ => h.nodup p, hps.imp fun {p q} hpq => ?_⟩
  exact fun x hp hq => h.disjoint p q hpq x hp hq

/-- Distinct places of a list whose contents, one after the other, hold no item twice hold no
common item. -/
theorem disjoint_of_nodup_flatMap {c : P → List α} {ps : List P} (h : (ps.flatMap c).Nodup)
    {p q : P} (hp : p ∈ ps) (hq : q ∈ ps) (hpq : p ≠ q) : ∀ x ∈ c p, x ∉ c q := by
  have : Std.Symm (Function.onFun List.Disjoint c) := ⟨fun _ _ hd _ h₁ h₂ => hd h₂ h₁⟩
  exact fun x hx hx' => (List.nodup_flatMap.mp h).2.forall hp hq hpq hx hx'

section Step

variable {c c' : P → List α} {ps : List P} {new : List α}

/-- What the places of `ps` hold after the step was held in one of them, or is new. -/
theorem mem_of_step (hsub : (ps.flatMap c').Subperm (ps.flatMap c ++ new)) {p : P} (hp : p ∈ ps)
    {x : α} (hx : x ∈ c' p) : (∃ q ∈ ps, x ∈ c q) ∨ x ∈ new := by
  have hx' : x ∈ ps.flatMap c ++ new := hsub.subset (List.mem_flatMap.mpr ⟨p, hp, hx⟩)
  rcases List.mem_append.mp hx' with hx' | hx'
  · exact .inl (List.mem_flatMap.mp hx')
  · exact .inr hx'

/-- An item held after the step was held before, or is new. -/
theorem held_of_step (hframe : ∀ p, p ∉ ps → c' p = c p)
    (hsub : (ps.flatMap c').Subperm (ps.flatMap c ++ new)) {x : α} (hx : Held c' x) :
    Held c x ∨ x ∈ new := by
  obtain ⟨p, hp⟩ := hx
  by_cases hps : p ∈ ps
  · rcases mem_of_step hsub hps hp with ⟨q, -, hq⟩ | hn
    · exact .inl ⟨q, hq⟩
    · exact .inr hn
  · exact .inl ⟨p, hframe p hps ▸ hp⟩

/-- **One step keeps exclusivity.** The step changes the places of `ps` only; what they hold
afterwards is a sub-permutation of what they held and of `new`, items without repeats that no
place held. -/
theorem Exclusive.step (h : Exclusive c) (hps : ps.Nodup) (hframe : ∀ p, p ∉ ps → c' p = c p)
    (hsub : (ps.flatMap c').Subperm (ps.flatMap c ++ new)) (hnew : new.Nodup)
    (hfresh : ∀ x ∈ new, ¬ Held c x) : Exclusive c' := by
  -- the places of `ps`, before with the new items and after, hold nothing twice
  have hbefore : (ps.flatMap c ++ new).Nodup := by
    refine List.nodup_append.mpr ⟨h.nodup_flatMap hps, hnew, ?_⟩
    intro x hx y hy hxy
    subst hxy
    obtain ⟨p, -, hp⟩ := List.mem_flatMap.mp hx
    exact hfresh x hy ⟨p, hp⟩
  have hafter : (ps.flatMap c').Nodup := by
    obtain ⟨l, hperm, hl⟩ := hsub
    exact hperm.nodup_iff.mp (hbefore.sublist hl)
  obtain ⟨hnd', hpw'⟩ := List.nodup_flatMap.mp hafter
  -- an item in a changed place is in no unchanged one
  have hout : ∀ p ∈ ps, ∀ q, q ∉ ps → ∀ x ∈ c' p, x ∉ c' q := by
    intro p hp q hq x hx hxq
    rw [hframe q hq] at hxq
    rcases mem_of_step hsub hp hx with ⟨r, hr, hxr⟩ | hn
    · exact h.disjoint r q (fun e => hq (e ▸ hr)) x hxr hxq
    · exact hfresh x hn ⟨q, hxq⟩
  refine ⟨fun p => ?_, fun p q hpq x hx hxq => ?_⟩
  · by_cases hp : p ∈ ps
    · exact hnd' p hp
    · rw [hframe p hp]
      exact h.nodup p
  · have : Std.Symm (Function.onFun List.Disjoint c') := ⟨fun _ _ hd _ h₁ h₂ => hd h₂ h₁⟩
    by_cases hp : p ∈ ps <;> by_cases hq : q ∈ ps
    · exact hpw'.forall hp hq hpq hx hxq
    · exact hout p hp q hq x hx hxq
    · exact hout q hq p hp x hxq hx
    · rw [hframe p hp] at hx
      rw [hframe q hq] at hxq
      exact h.disjoint p q hpq x hx hxq

end Step

/-- Three lists, the last two swapped. -/
theorem perm_append_swap_right (l₁ l₂ l₃ : List α) :
    (l₁ ++ l₂ ++ l₃).Perm (l₁ ++ l₃ ++ l₂) := by
  rw [List.append_assoc, List.append_assoc]
  exact List.Perm.append_left _ List.perm_append_comm

/-- **Exchanging a part of a permutation**: where `A' ++ X` is a permutation of `A ++ Y`, a
permutation `A ++ H` of `Q` gives one of `A' ++ H ++ X` and `Q ++ Y`. -/
theorem perm_exchange {A A' X Y H Q : List α} (hx : (A' ++ X).Perm (A ++ Y))
    (h : (A ++ H).Perm Q) : (A' ++ H ++ X).Perm (Q ++ Y) :=
  calc List.Perm (A' ++ H ++ X) (A' ++ X ++ H) := perm_append_swap_right _ _ _
    List.Perm _ (A ++ Y ++ H) := hx.append_right H
    List.Perm _ (A ++ H ++ Y) := perm_append_swap_right _ _ _
    List.Perm _ (Q ++ Y) := h.append_right Y

/-- A map from keys `0, …, n - 1` to lists, one key's list replaced: the old list and the new
contents hold what the new list and the old contents hold. -/
theorem flatMap_range_update_perm (f : ℕ → List α) (v : List α) :
    ∀ {n a : ℕ}, a < n →
      ((List.range n).flatMap (Function.update f a v) ++ f a).Perm
        ((List.range n).flatMap f ++ v)
  | 0, _, ha => absurd ha (Nat.not_lt_zero _)
  | n + 1, a, ha => by
    rw [List.range_succ, List.flatMap_append, List.flatMap_append, List.flatMap_singleton,
      List.flatMap_singleton]
    rcases Nat.lt_succ_iff_lt_or_eq.mp ha with ha | rfl
    · -- the replaced key is among the first `n`
      have ih := flatMap_range_update_perm f v ha
      rw [Function.update_of_ne (Nat.ne_of_gt ha)]
      exact (perm_append_swap_right _ _ _).trans
        ((ih.append_right _).trans (perm_append_swap_right _ _ _))
    · -- the replaced key is the last one
      have hkeep : (List.range a).flatMap (Function.update f a v) = (List.range a).flatMap f :=
        List.flatMap_congr fun i hi =>
          Function.update_of_ne (Nat.ne_of_lt (List.mem_range.mp hi)) _ _
      rw [hkeep, Function.update_self]
      exact perm_append_swap_right _ _ _

/-- The contents of a list's entries, one after the other, as those of the indices
`0, …, length - 1`. -/
theorem flatMap_range_getElem? {β : Type} (f : β → List α) :
    ∀ l : List β, (List.range l.length).flatMap (fun i => (l[i]?.map f).getD []) = l.flatMap f
  | [] => rfl
  | b :: l => by
    rw [List.length_cons, List.range_succ_eq_map, List.flatMap_cons, List.flatMap_map,
      List.flatMap_cons]
    simp only [List.getElem?_cons_zero, Option.map_some, Option.getD_some,
      List.getElem?_cons_succ]
    rw [flatMap_range_getElem? f l]

end Sandook.Lib
