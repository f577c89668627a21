import Mathlib.Data.List.Basic

/-!
# Transfers by calls that may move part of what they are handed

A vectored `read` or `write` moves a prefix of the buffers it is handed. To move a whole
sequence `bs`, the caller calls again on what is left until a call moves the rest or fails.
`Transfer bs calls res` says that `calls`, each with what it was handed and what it returned
(how many elements it moved, or an error), is such a run on `bs`, and that it ends in `res`.

Results:
* `Transfer.handed_eq_drop`: each call is handed `bs` less what the calls before it moved, so
  the calls are handed consecutive suffixes of `bs`.
* `Transfer.moved_eq`: a transfer that succeeds moves `bs`, each element once and in order.
* `Transfer.error_iff`: a transfer ends in an error exactly when its last call fails with that
  error, every call before it having succeeded.
-/

namespace Sandook.Lib

variable {α ε : Type}

/-- What the calls moved, in order: of what each successful call was handed, the prefix it
moved. -/
def moved : List (List α × Except ε ℕ) → List α
  | [] => []
  | (bs, .ok r) :: calls => bs.take r ++ moved calls
  | (_, .error _) :: calls => moved calls

/-- A run of calls that transfers `bs`, each call handed what the calls before it left. -/
inductive Transfer : List α → List (List α × Except ε ℕ) → Except ε Unit → Prop
  /-- The call moves all that is left. -/
  | done (bs : List α) : Transfer bs [(bs, .ok bs.length)] (.ok ())
  /-- The call fails, and the transfer with its error. -/
  | fail (bs : List α) (e : ε) : Transfer bs [(bs, .error e)] (.error e)
  /-- The call moves neither nothing nor all; the rest is transferred after. -/
  | part {bs : List α} {r : ℕ} {calls : List (List α × Except ε ℕ)} {res : Except ε Unit} :
      0 < r → r < bs.length → Transfer (bs.drop r) calls res →
        Transfer bs ((bs, .ok r) :: calls) res

namespace Transfer

variable {bs : List α} {calls : List (List α × Except ε ℕ)} {res : Except ε Unit}

theorem moved_eq (h : Transfer bs calls (.ok ())) : moved calls = bs := by
  generalize hres : (Except.ok () : Except ε Unit) = res at h
  induction h with
  | done bs => simp [moved]
  | fail bs e => cases hres
  | @part bs r calls res _ _ _ ih =>
    rw [moved, ih hres, List.take_append_drop]

theorem handed_eq_drop (h : Transfer bs calls res) :
    ∀ i (hi : i < calls.length), calls[i].1 = bs.drop (moved (calls.take i)).length := by
  induction h with
  | done bs =>
    intro i hi
    obtain rfl : i = 0 := by simpa using hi
    simp [moved]
  | fail bs e =>
    intro i hi
    obtain rfl : i = 0 := by simpa using hi
    simp [moved]
  | @part bs r calls res _ hlt _ ih =>
    intro i hi
    cases i with
    | zero => simp [moved]
    | succ j =>
      -- past the first call, what is handed is counted from the `r` elements it moved
      have hr : (bs.take r).length = r := List.length_take_of_le (Nat.le_of_lt hlt)
      have hj : j < calls.length := by simpa using hi
      simp only [List.getElem_cons_succ, List.take_succ_cons, moved, List.length_append, hr]
      rw [ih j hj, List.drop_drop]

/-- The calls of a transfer all succeed but the last, which fails exactly when the transfer
does, with its error. -/
theorem last (h : Transfer bs calls res) :
    ∃ pre v x, calls = pre ++ [(v, x)] ∧ (∀ c ∈ pre, ∃ r, c.2 = .ok r) ∧
      ∀ e, res = .error e ↔ x = .error e := by
  induction h with
  | done bs => exact ⟨[], bs, .ok bs.length, rfl, by simp, by simp⟩
  | fail bs e => exact ⟨[], bs, .error e, rfl, by simp, by simp⟩
  | @part bs r calls res _ _ _ ih =>
    obtain ⟨pre, v, x, rfl, hpre, hx⟩ := ih
    refine ⟨(bs, .ok r) :: pre, v, x, rfl, ?_, hx⟩
    rintro c (_ | ⟨_, hc⟩)
    · exact ⟨r, rfl⟩
    · exact hpre c hc

theorem error_iff (h : Transfer bs calls res) (e : ε) :
    res = .error e ↔
      ∃ pre v, calls = pre ++ [(v, .error e)] ∧ ∀ c ∈ pre, ∃ r, c.2 = .ok r := by
  obtain ⟨pre, v, x, rfl, hpre, hx⟩ := h.last
  constructor
  · intro he
    exact ⟨pre, v, by rw [(hx e).mp he], hpre⟩
  · rintro ⟨pre', v', hcalls, -⟩
    -- both decompositions end in one call, so they name the same last call
    obtain ⟨-, hlast⟩ := List.append_inj' hcalls (by simp)
    simp only [List.cons.injEq, Prod.mk.injEq, and_true] at hlast
    exact (hx e).mpr hlast.2

end Transfer

end Sandook.Lib
