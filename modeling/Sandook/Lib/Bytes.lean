import Mathlib.Data.List.Basic
import Mathlib.Data.List.TakeWhile
import Mathlib.Tactic.Ring

/-!
# Byte buffers: fixed-width fields, copies and C strings

A buffer is a list of bytes. A decoder reads fields at offsets, copies ranges and reads
NUL-terminated strings; an encoder writes fields over a buffer whose other bytes keep whatever
they held. The reads here are checked: a read of a range that passes the end of the buffer
returns that range as an error instead of bytes, so that "a decoder reads only inside its input"
is the statement that it never returns such an error.

* `toBytesLE w n` / `ofBytesLE`: the `w`-byte little-endian field of `n`, and its value.
* `load p off width`: the bytes `[off, off + width)` of `p`.
* `writeAt buf off src`: `memcpy(buf + off, src, |src|)`; `writeAll` several, in order.
* `strncpyBytes n src`: what `strncpy(dst, src, n)` leaves in `dst[0, n)`.
* `cString p off`: `std::string(p + off)`, the bytes up to the first NUL.

Results:
* `ofBytesLE_toBytesLE`: a field reads back its value modulo `256 ^ w`.
* `field_flatMap_of_length`: field `i` of an array of `w`-byte fields lies at byte `w * i`.
* `load_writeAt_self`, `load_writeAt_of_le`, `load_writeAt_of_ge`, `load_writeAll_of_disjoint`:
  a read sees what the last write of its range left, and a read beside writes sees the old
  bytes.
* `load_writeAll_of_within`: a read inside the last write of its range returns the bytes that
  write put there.
* `cString_eq`, `cString_of_load`, `cString_of_load_nul`: a C string reads its bytes up to the
  first NUL, and runs past the end of the buffer when there is none.
-/

namespace Sandook.Lib

/-! ## Little-endian fields -/

/-- The `w` little-endian bytes of `n`; bits above `8 * w` are dropped. -/
def toBytesLE : ℕ → ℕ → List UInt8
  | 0, _ => []
  | w + 1, n => UInt8.ofNat (n % 256) :: toBytesLE w (n / 256)

/-- The natural with the given little-endian bytes. -/
def ofBytesLE : List UInt8 → ℕ
  | [] => 0
  | b :: bs => b.toNat + 256 * ofBytesLE bs

@[simp] theorem length_toBytesLE (w n : ℕ) : (toBytesLE w n).length = w := by
  induction w generalizing n with
  | zero => rfl
  | succ w ih => simp only [toBytesLE, List.length_cons, ih]

theorem ofBytesLE_toBytesLE (w n : ℕ) : ofBytesLE (toBytesLE w n) = n % 256 ^ w := by
  induction w generalizing n with
  | zero => simp [toBytesLE, ofBytesLE, Nat.mod_one]
  | succ w ih =>
    have h : n % 256 % 2 ^ 8 = n % 256 := Nat.mod_eq_of_lt (Nat.mod_lt n (by norm_num))
    rw [toBytesLE, ofBytesLE, ih, UInt8.toNat_ofNat', h, pow_succ', Nat.mod_mul]

section Arrays

variable {α β : Type} {f : β → List α} {w : ℕ}

/-- In an array of `w`-byte fields, the bytes from field `i` on are the fields from `i` on. -/
theorem drop_flatMap_of_length (hf : ∀ x, (f x).length = w) :
    ∀ (l : List β) (i : ℕ), (l.flatMap f).drop (w * i) = (l.drop i).flatMap f
  | [], i => by simp
  | x :: l, 0 => by simp
  | x :: l, i + 1 => by
    rw [List.flatMap_cons, Nat.mul_succ, Nat.add_comm, ← List.drop_drop, List.drop_left' (hf x),
      drop_flatMap_of_length hf l i, List.drop_succ_cons]

/-- **Field `i` of an array of `w`-byte fields** is the `w` bytes at `w * i`. -/
theorem field_flatMap_of_length (hf : ∀ x, (f x).length = w) (l : List β) {i : ℕ}
    (hi : i < l.length) : ((l.flatMap f).drop (w * i)).take w = f l[i] := by
  rw [drop_flatMap_of_length hf, List.drop_eq_getElem_cons hi, List.flatMap_cons,
    List.take_left' (hf _)]

end Arrays

/-! ## Reads and writes -/

variable {α : Type}

/-- A read of the bytes `[off, off + width)` of `p`: the bytes, or the range itself if it passes
the end of `p`. -/
def load (p : List α) (off width : ℕ) : Except (ℕ × ℕ) (List α) :=
  if off + width ≤ p.length then .ok ((p.drop off).take width) else .error (off, width)

theorem load_of_le {p : List α} {off width : ℕ} (h : off + width ≤ p.length) :
    load p off width = .ok ((p.drop off).take width) := if_pos h

theorem load_of_lt {p : List α} {off width : ℕ} (h : p.length < off + width) :
    load p off width = .error (off, width) := if_neg (Nat.not_le.mpr h)

/-- `memcpy(buf + off, src, src.size())` on a buffer that holds the range. -/
def writeAt (buf : List α) (off : ℕ) (src : List α) : List α :=
  buf.take off ++ src ++ buf.drop (off + src.length)

/-- A copy of no bytes changes nothing. -/
@[simp] theorem writeAt_nil (buf : List α) (off : ℕ) : writeAt buf off [] = buf := by
  simp [writeAt]

theorem length_writeAt {buf src : List α} {off : ℕ} (h : off + src.length ≤ buf.length) :
    (writeAt buf off src).length = buf.length := by
  simp only [writeAt, List.length_append, List.length_take, List.length_drop]
  omega

/-- A read of the range just written returns what was written. -/
theorem load_writeAt_self {buf src : List α} {off : ℕ} (h : off + src.length ≤ buf.length) :
    load (writeAt buf off src) off src.length = .ok src := by
  have hoff : (buf.take off).length = off := List.length_take_of_le (by omega)
  rw [load_of_le (by rw [length_writeAt h]; exact h), writeAt, List.append_assoc,
    List.drop_append_of_le_length (by omega), List.drop_of_length_le (by omega), List.nil_append,
    List.take_append_of_le_length le_rfl, List.take_length]

/-- A read that ends before the write starts sees the old bytes. -/
theorem load_writeAt_of_le {buf src : List α} {off off' width : ℕ}
    (h : off + src.length ≤ buf.length) (hle : off' + width ≤ off) :
    load (writeAt buf off src) off' width = load buf off' width := by
  have hlen := length_writeAt h
  have htake : (buf.take off).length = off := List.length_take_of_le (by omega)
  rw [load_of_le (by omega), load_of_le (by omega), writeAt, List.append_assoc,
    List.drop_append_of_le_length (by omega),
    List.take_append_of_le_length (by rw [List.length_drop]; omega), List.drop_take,
    List.take_take, Nat.min_eq_left (by omega)]

/-- A read that starts after the write ends sees the old bytes. -/
theorem load_writeAt_of_ge {buf src : List α} {off off' width : ℕ}
    (h : off + src.length ≤ buf.length) (hge : off + src.length ≤ off') :
    load (writeAt buf off src) off' width = load buf off' width := by
  have hlen := length_writeAt h
  have hoff : (buf.take off ++ src).length = off + src.length := by
    simp only [List.length_append, List.length_take]
    omega
  by_cases hin : off' + width ≤ buf.length
  · rw [load_of_le (by omega), load_of_le hin, writeAt, List.drop_append,
      List.drop_eq_nil_of_le (by omega), List.nil_append, hoff, List.drop_drop]
    congr 3
    omega
  · rw [load_of_lt (by omega), load_of_lt (by omega)]

/-- A read inside the range just written returns the written bytes it covers. -/
theorem load_writeAt_of_within {buf src : List α} {off off' width : ℕ}
    (h : off + src.length ≤ buf.length) (hle : off ≤ off') (hw : off' + width ≤ off + src.length) :
    load (writeAt buf off src) off' width = .ok ((src.drop (off' - off)).take width) := by
  have hlen := length_writeAt h
  have hoff : (buf.take off).length = off := List.length_take_of_le (by omega)
  rw [load_of_le (by omega), writeAt, List.append_assoc, List.drop_append, hoff,
    List.drop_eq_nil_of_le (by omega), List.nil_append, List.drop_append_of_le_length (by omega),
    List.take_append_of_le_length (by rw [List.length_drop]; omega)]

/-- A read of the bytes after `a` is the read of `p` at the shifted offset. -/
theorem load_drop {p x : List α} {a off width : ℕ} (h : load p (a + off) width = .ok x) :
    load (p.drop a) off width = .ok x := by
  unfold load at h ⊢
  split_ifs at h with hin
  rw [if_pos (by rw [List.length_drop]; omega), List.drop_drop]
  exact h

/-- A byte that a read returns is among the bytes from any earlier offset on. -/
theorem mem_drop_of_load {p : List α} {a : α} {off o : ℕ} (h : load p o 1 = .ok [a])
    (hle : off ≤ o) : a ∈ p.drop off := by
  unfold load at h
  split_ifs at h
  have hmem : a ∈ (p.drop o).take 1 := by
    rw [Except.ok.inj h]
    exact List.mem_singleton_self a
  have hdrop : p.drop o = (p.drop off).drop (o - off) := by
    rw [List.drop_drop]
    congr 1
    omega
  rw [hdrop] at hmem
  exact (List.drop_sublist _ _).subset (List.mem_of_mem_take hmem)

/-- A one-byte read inside the buffer returns the byte there. -/
theorem exists_load_one {p : List α} {o : ℕ} (h : o < p.length) : ∃ b, load p o 1 = .ok [b] := by
  obtain ⟨b, rest, hd⟩ : ∃ b rest, p.drop o = b :: rest :=
    List.exists_cons_of_ne_nil (by simp only [ne_eq, List.drop_eq_nil_iff]; omega)
  exact ⟨b, by rw [load_of_le h, hd, List.take_succ_cons, List.take_zero]⟩

/-- The bytes from a one-byte read on start with the byte it returns. -/
theorem drop_eq_cons_of_load {p : List α} {b : α} {o : ℕ} (h : load p o 1 = .ok [b]) :
    ∃ rest, p.drop o = b :: rest := by
  unfold load at h
  split_ifs at h
  have htake := Except.ok.inj h
  cases hd : p.drop o with
  | nil => simp [hd] at htake
  | cons b' rest =>
    rw [hd, List.take_succ_cons, List.take_zero, List.cons.injEq] at htake
    exact ⟨rest, by rw [htake.1]⟩

/-- The writes `(off, src)` of `ws`, one after the other. -/
def writeAll (buf : List α) (ws : List (ℕ × List α)) : List α :=
  ws.foldl (fun buf w => writeAt buf w.1 w.2) buf

theorem writeAll_append (buf : List α) (ws ws' : List (ℕ × List α)) :
    writeAll buf (ws ++ ws') = writeAll (writeAll buf ws) ws' := by
  simp only [writeAll, List.foldl_append]

theorem length_writeAll {buf : List α} {ws : List (ℕ × List α)}
    (h : ∀ w ∈ ws, w.1 + w.2.length ≤ buf.length) : (writeAll buf ws).length = buf.length := by
  induction ws generalizing buf with
  | nil => rfl
  | cons w ws ih =>
    have hw := length_writeAt (h w List.mem_cons_self)
    rw [writeAll, List.foldl_cons]
    refine (ih fun w' hw' => ?_).trans hw
    rw [hw]
    exact h w' (List.mem_cons_of_mem _ hw')

/-- **A read beside every write** sees the old bytes. -/
theorem load_writeAll_of_disjoint {buf : List α} {ws : List (ℕ × List α)} {off width : ℕ}
    (h : ∀ w ∈ ws, w.1 + w.2.length ≤ buf.length)
    (hd : ∀ w ∈ ws, off + width ≤ w.1 ∨ w.1 + w.2.length ≤ off) :
    load (writeAll buf ws) off width = load buf off width := by
  induction ws generalizing buf with
  | nil => rfl
  | cons w ws ih =>
    have hw := h w List.mem_cons_self
    have hlen := length_writeAt hw
    rw [writeAll, List.foldl_cons]
    refine (ih (fun w' hw' => hlen ▸ h w' (List.mem_cons_of_mem _ hw'))
      (fun w' hw' => hd w' (List.mem_cons_of_mem _ hw'))).trans ?_
    rcases hd w List.mem_cons_self with hle | hge
    · exact load_writeAt_of_le hw hle
    · exact load_writeAt_of_ge hw hge

/-- **A read inside the last write of its range** returns the written bytes it covers. -/
theorem load_writeAll_of_within {buf : List α} (ws₁ ws₂ : List (ℕ × List α)) {src : List α}
    {off off' width : ℕ} (h : ∀ w ∈ ws₁ ++ (off, src) :: ws₂, w.1 + w.2.length ≤ buf.length)
    (hle : off ≤ off') (hw : off' + width ≤ off + src.length)
    (hd : ∀ w ∈ ws₂, off' + width ≤ w.1 ∨ w.1 + w.2.length ≤ off') :
    load (writeAll buf (ws₁ ++ (off, src) :: ws₂)) off' width =
      .ok ((src.drop (off' - off)).take width) := by
  have h₁ := length_writeAll fun w hw => h w (List.mem_append_left _ hw)
  have hsrc : off + src.length ≤ (writeAll buf ws₁).length := by
    rw [h₁]
    exact h (off, src) (List.mem_append_right _ List.mem_cons_self)
  have hlen := length_writeAt hsrc
  rw [writeAll_append, writeAll, List.foldl_cons]
  refine (load_writeAll_of_disjoint (fun w hw => ?_) hd).trans
    (load_writeAt_of_within hsrc hle hw)
  rw [hlen, h₁]
  exact h w (List.mem_append_right _ (List.mem_cons_of_mem _ hw))

/-! ## C strings -/

/-- What `strncpy(dst, src.c_str(), n)` leaves in `dst[0, n)`: the bytes of `src` before its
first NUL, at most `n` of them, then NULs up to `n`. -/
def strncpyBytes (n : ℕ) (src : List UInt8) : List UInt8 :=
  let s := (src.takeWhile (· ≠ 0)).take n
  s ++ List.replicate (n - s.length) 0

/-- `std::string(p + off)`: the bytes from `off` up to the first NUL. With no NUL left in `p`,
`strlen` reads the byte past the end: the read of `[off, |p| + 1)` fails. -/
def cString (p : List UInt8) (off : ℕ) : Except (ℕ × ℕ) (List UInt8) :=
  if (0 : UInt8) ∈ p.drop off then .ok ((p.drop off).takeWhile (· ≠ 0))
  else .error (off, p.length + 1 - off)

theorem strncpyBytes_of_length {n : ℕ} {src : List UInt8} (hz : (0 : UInt8) ∉ src)
    (hn : src.length = n) : strncpyBytes n src = src := by
  have hw : src.takeWhile (· ≠ 0) = src := by
    refine List.takeWhile_eq_self_iff.mpr fun x hx => ?_
    simp only [ne_eq, decide_eq_true_eq]
    rintro rfl
    exact hz hx
  unfold strncpyBytes
  rw [hw, List.take_of_length_le hn.le]
  simp only [hn, Nat.sub_self, List.replicate_zero, List.append_nil]

@[simp] theorem length_strncpyBytes (n : ℕ) (src : List UInt8) : (strncpyBytes n src).length = n := by
  simp only [strncpyBytes, List.length_append, List.length_replicate, List.length_take]
  omega

/-- **A C string reads up to its first NUL.** For `s` with no NUL followed by `rest`, the string
at the start of `s` is `s` followed by the bytes of `rest` before its first NUL; with no NUL in
`rest` either, the read runs past the end. -/
theorem cString_eq (pre s rest : List UInt8) (hz : (0 : UInt8) ∉ s) :
    cString (pre ++ s ++ rest) pre.length =
      if (0 : UInt8) ∈ rest then .ok (s ++ rest.takeWhile (· ≠ 0))
      else .error (pre.length, (pre ++ s ++ rest).length + 1 - pre.length) := by
  have hdrop : (pre ++ s ++ rest).drop pre.length = s ++ rest := by
    rw [List.append_assoc, List.drop_left]
  have hmem : (0 : UInt8) ∈ s ++ rest ↔ (0 : UInt8) ∈ rest := by
    simp [hz]
  have hw : (s ++ rest).takeWhile (· ≠ 0) = s ++ rest.takeWhile (· ≠ 0) := by
    refine List.takeWhile_append_of_pos fun x hx => ?_
    simp only [ne_eq, decide_eq_true_eq]
    rintro rfl
    exact hz hx
  unfold cString
  rw [hdrop]
  by_cases h : (0 : UInt8) ∈ rest
  · rw [if_pos (hmem.mpr h), if_pos h, hw]
  · rw [if_neg (fun h' => h (hmem.mp h')), if_neg h]

/-- A C string over a read `s` with no NUL is `s` followed by the bytes after it up to the first
NUL. -/
theorem cString_of_load {p s : List UInt8} {off k : ℕ} (h : load p off k = .ok s)
    (hz : (0 : UInt8) ∉ s) :
    cString p off =
      if (0 : UInt8) ∈ p.drop (off + k) then .ok (s ++ (p.drop (off + k)).takeWhile (· ≠ 0))
      else .error (off, p.length + 1 - off) := by
  unfold load at h
  split_ifs at h with hin
  have hs := (Except.ok.inj h).symm
  have hpre : (p.take off).length = off := List.length_take_of_le (by omega)
  have hp : p.take off ++ s ++ p.drop (off + k) = p := by
    rw [hs, List.append_assoc, ← List.drop_drop, List.take_append_drop, List.take_append_drop]
  calc cString p off = cString (p.take off ++ s ++ p.drop (off + k)) (p.take off).length := by
        rw [hp, hpre]
    _ = _ := by rw [cString_eq _ _ _ hz, hp, hpre]

/-- A C string over a read `s` with no NUL, followed by a NUL, is `s`. -/
theorem cString_of_load_nul {p s : List UInt8} {off k : ℕ} (h : load p off k = .ok s)
    (hz : (0 : UInt8) ∉ s) (hnul : load p (off + k) 1 = .ok [0]) : cString p off = .ok s := by
  obtain ⟨rest, hrest⟩ := drop_eq_cons_of_load hnul
  rw [cString_of_load h hz, hrest, if_pos List.mem_cons_self, List.takeWhile_cons_of_neg
    (by simp), List.append_nil]

end Sandook.Lib
