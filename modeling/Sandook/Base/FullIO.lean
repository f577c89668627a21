import Sandook.Base.Types

/-!
# Full reads and writes on a file descriptor (`base/io.h`)

Model of `ReadFull` and `WriteFull`, which call `read` or `write` on `fd` until the buffer is
done, a call returns `0`, or a call returns `-1`.

* The file is a state of any type `σ`. `read(fd, &buf[n], size - n)` is a function `rd` of the
  state and the count, which returns the bytes read, or the `errno` of a `-1`;
  `write(fd, &buf[n], size - n)` is a function `wr` of the state and the bytes it is handed,
  which returns how many it wrote, or the `errno`. Both return the state after the call.
* `ReadFull` reads into `buf` in place: the model returns the bytes it stored, `buf[0, n)`. On a
  failure the rest of `buf` keeps what it held, and no caller reads it.
* The `ssize_t` counts stay below `size` and do not overflow. A call that returns more than it was
  handed takes `n` past `size`: the loop then ends, and `n != size` fails.
* The loops stop: an iteration that goes on has moved at least one byte, so `size - n` drops.

Results:
* `readFull_spec`: with a `read` that hands out a stream (a prefix of what is left, nonempty
  while anything is), `ReadFull` returns the first `size` bytes of the stream, or fails with
  `EINVAL` when the stream is shorter, or with the `errno` of a failed call after a prefix; and
  the stream left is what it did not read.
* `writeFull_spec`: with a `write` that writes a prefix of what it is handed, at least one byte
  unless the file is full, `WriteFull` writes the whole buffer and succeeds, or writes a prefix of
  it and fails: with `EINVAL` when the file is full, or with the `errno` of a failed call.
-/

namespace Sandook

variable {σ : Type}

/-- The end of both loops: `if (n != size) return MakeError(EINVAL);`. -/
def fullResult (n size : ℕ) : Status Unit := if n ≠ size then .error EINVAL else .ok ()

/-- The loop of `ReadFull(fd, buf)` for a `buf` of `size` bytes, with `n` bytes read into
`buf[0, n) = acc`. -/
def readFullLoop (rd : σ → ℕ → Status (List UInt8 × σ)) (size : ℕ) (n : ℕ) (acc : List UInt8)
    (f : σ) : Status Unit × List UInt8 × σ :=
  if _hn : n < size then
    match rd f (size - n) with
    | .error e => (.error e, acc, f)
    | .ok (bs, f') =>
      -- `if (ret == 0) break;`
      if _hbs : bs = [] then (fullResult n size, acc, f')
      else readFullLoop rd size (n + bs.length) (acc ++ bs) f'
  else (fullResult n size, acc, f)
termination_by size - n
decreasing_by
  have : 0 < bs.length := List.length_pos_iff.mpr _hbs
  omega

/-- `ReadFull(fd, buf)` for a `buf` of `size` bytes: the status, the bytes stored in `buf`, and
the file after. -/
def readFull (rd : σ → ℕ → Status (List UInt8 × σ)) (size : ℕ) (f : σ) :
    Status Unit × List UInt8 × σ :=
  readFullLoop rd size 0 [] f

/-- The loop of `WriteFull(fd, buf)` with `n` bytes of `buf` written. -/
def writeFullLoop (wr : σ → List UInt8 → Status (ℕ × σ)) (buf : List UInt8) (n : ℕ) (f : σ) :
    Status Unit × σ :=
  if _hn : n < buf.length then
    match wr f (buf.drop n) with
    | .error e => (.error e, f)
    | .ok (ret, f') =>
      if _hret : ret = 0 then (fullResult n buf.length, f')
      else writeFullLoop wr buf (n + ret) f'
  else (fullResult n buf.length, f)
termination_by buf.length - n
decreasing_by omega

/-- `WriteFull(fd, buf)`: the status, and the file after. -/
def writeFull (wr : σ → List UInt8 → Status (ℕ × σ)) (buf : List UInt8) (f : σ) :
    Status Unit × σ :=
  writeFullLoop wr buf 0 f

theorem fullResult_self (n : ℕ) : fullResult n n = .ok () := by
  simp [fullResult]

theorem fullResult_of_lt {n size : ℕ} (h : n < size) : fullResult n size = .error EINVAL := by
  simp [fullResult, Nat.ne_of_lt h]

/-! ## Reading a stream -/

/-- `rd` hands out the stream `rest`: a call returns a prefix of what is left, no longer than the
count it is handed, nonempty unless nothing is left, and leaves the rest. -/
structure ReadsStream (rd : σ → ℕ → Status (List UInt8 × σ)) (rest : σ → List UInt8) : Prop where
  split : ∀ {f count bs f'}, rd f count = .ok (bs, f') → rest f = bs ++ rest f'
  le : ∀ {f count bs f'}, rd f count = .ok (bs, f') → bs.length ≤ count
  progress : ∀ {f count f'}, 0 < count → rd f count = .ok ([], f') → rest f = []

/-- What a `ReadFull` of `size` bytes from the stream `s` may end in: the status and the bytes
stored in `buf`. -/
inductive ReadFullSpec (rd : σ → ℕ → Status (List UInt8 × σ)) (s : List UInt8) (size : ℕ) :
    Status Unit × List UInt8 → Prop
  /-- The stream holds `size` bytes, and they are read. -/
  | ok : size ≤ s.length → ReadFullSpec rd s size (.ok (), s.take size)
  /-- The stream runs out first: all of it is read, and `EINVAL`. -/
  | short : s.length < size → ReadFullSpec rd s size (.error EINVAL, s)
  /-- A call fails after `m` bytes, with an `errno` that `read` returns. -/
  | fail {e m : ℕ} : m < size → (∃ f count, rd f count = .error e) →
      ReadFullSpec rd s size (.error e, s.take m)

namespace ReadFullSpec

variable {rd : σ → ℕ → Status (List UInt8 × σ)}

/-- Bytes read before the loop come first in the stream and in `buf`. -/
theorem prepend {s bs : List UInt8} {size : ℕ} {r : Status Unit} {out : List UInt8}
    (hle : bs.length ≤ size) (h : ReadFullSpec rd s (size - bs.length) (r, out)) :
    ReadFullSpec rd (bs ++ s) size (r, bs ++ out) := by
  cases h with
  | ok hs =>
    have hlen : size ≤ (bs ++ s).length := by simp; omega
    have htake : (bs ++ s).take size = bs ++ s.take (size - bs.length) := by
      rw [List.take_append, List.take_of_length_le hle]
    rw [← htake]
    exact .ok hlen
  | short hs => exact .short (by simp; omega)
  | @fail e m hm hcall =>
    have htake : (bs ++ s).take (bs.length + m) = bs ++ s.take m := by
      rw [List.take_append, List.take_of_length_le (by omega), Nat.add_sub_cancel_left]
    rw [← htake]
    exact .fail (by omega) hcall

end ReadFullSpec

section Read

variable {rd : σ → ℕ → Status (List UInt8 × σ)} {rest : σ → List UInt8}

/-- The loop from `n ≤ size` bytes read: what it stores after `acc` meets the spec for the
`size - n` bytes left, and the stream left is what it did not read. -/
theorem readFullLoop_spec (h : ReadsStream rd rest) (size n : ℕ) (acc : List UInt8) (f : σ)
    (hn : n ≤ size) :
    ∃ out, (readFullLoop rd size n acc f).2.1 = acc ++ out ∧
      ReadFullSpec rd (rest f) (size - n) ((readFullLoop rd size n acc f).1, out) ∧
      rest f = out ++ rest (readFullLoop rd size n acc f).2.2 := by
  fun_induction readFullLoop rd size n acc f with
  | case1 n acc f hlt e he =>
    -- the call fails before any byte of this call is read
    refine ⟨[], by simp, ?_, by simp⟩
    have hfail : ReadFullSpec rd (rest f) (size - n) (.error e, (rest f).take 0) :=
      .fail (by omega) ⟨f, _, he⟩
    simpa using hfail
  | case2 n acc f hlt f' hrd =>
    -- `read` returned `0`: the stream is empty and the loop fails with `EINVAL`
    have hempty := h.progress (by omega) hrd
    refine ⟨[], by simp, ?_, by simpa using h.split hrd⟩
    rw [fullResult_of_lt hlt, hempty]
    exact .short (by simp; omega)
  | case3 n acc f hlt bs f' hrd hbs ih =>
    have hle := h.le hrd
    obtain ⟨out, hout, hspec, hrest⟩ := ih (by omega)
    refine ⟨bs ++ out, by rw [hout, List.append_assoc], ?_, ?_⟩
    · rw [h.split hrd]
      exact ReadFullSpec.prepend hle (by rwa [Nat.sub_sub])
    · rw [h.split hrd, hrest, List.append_assoc]
  | case4 n acc f hge =>
    obtain rfl : n = size := by omega
    refine ⟨[], by simp, ?_, by simp⟩
    rw [fullResult_self, Nat.sub_self]
    exact .ok (Nat.zero_le _)

/-- **What `ReadFull` does with a stream**: it stores the first `size` bytes and succeeds, or
stores all of a shorter stream and fails with `EINVAL`, or fails after a prefix with the `errno`
of a failed `read`; and the stream left is what it did not store. -/
theorem readFull_spec (h : ReadsStream rd rest) (size : ℕ) (f : σ) :
    ReadFullSpec rd (rest f) size ((readFull rd size f).1, (readFull rd size f).2.1) ∧
      rest f = (readFull rd size f).2.1 ++ rest (readFull rd size f).2.2 := by
  obtain ⟨out, hout, hspec, hrest⟩ := readFullLoop_spec h size 0 [] f (Nat.zero_le _)
  simp only [List.nil_append] at hout
  unfold readFull
  rw [hout]
  exact ⟨hspec, hrest⟩

/-- With a `read` that never fails, `ReadFull` succeeds exactly when the stream holds `size`
bytes, and then stores them. -/
theorem readFull_eq_ok (h : ReadsStream rd rest) (hrd : ∀ f count e, rd f count ≠ .error e)
    {size : ℕ} {f : σ} (hsize : size ≤ (rest f).length) :
    (readFull rd size f).1 = .ok () ∧ (readFull rd size f).2.1 = (rest f).take size := by
  obtain ⟨hspec, -⟩ := readFull_spec h size f
  generalize readFull rd size f = r at hspec
  obtain ⟨res, out, f'⟩ := r
  cases hspec with
  | ok => exact ⟨rfl, rfl⟩
  | short hs => omega
  | fail _ hcall =>
    obtain ⟨g, count, hg⟩ := hcall
    exact absurd hg (hrd g count _)

/-- A property of the file that every successful `read` keeps holds after `ReadFull`. -/
theorem readFullLoop_preserves {P : σ → Prop}
    (hP : ∀ {f count bs f'}, rd f count = .ok (bs, f') → P f → P f') (size n : ℕ)
    (acc : List UInt8) (f : σ) (hf : P f) : P (readFullLoop rd size n acc f).2.2 := by
  fun_induction readFullLoop rd size n acc f with
  | case1 => exact hf
  | case2 n acc f hlt f' hrd => exact hP hrd hf
  | case3 n acc f hlt bs f' hrd hbs ih => exact ih (hP hrd hf)
  | case4 => exact hf

end Read

/-! ## Writing into a file -/

/-- `wr` writes into `put`: a call writes a prefix of what it is handed, `put f (bs.take ret)`,
and writes at least one byte of a nonempty `bs` unless the file is `full`. Writing `a` then `b`
is writing `a ++ b`. -/
structure WritesInto (wr : σ → List UInt8 → Status (ℕ × σ)) (put : σ → List UInt8 → σ)
    (full : σ → Prop) : Prop where
  le : ∀ {f bs ret f'}, wr f bs = .ok (ret, f') → ret ≤ bs.length
  put_eq : ∀ {f bs ret f'}, wr f bs = .ok (ret, f') → f' = put f (bs.take ret)
  progress : ∀ {f bs f'}, bs ≠ [] → wr f bs = .ok (0, f') → full f
  put_nil : ∀ f, put f [] = f
  put_append : ∀ f a b, put (put f a) b = put f (a ++ b)

/-- What a `WriteFull` of `buf` may end in: the status, how many bytes it wrote, and the file
after. -/
inductive WriteFullSpec (wr : σ → List UInt8 → Status (ℕ × σ)) (full : σ → Prop)
    (buf : List UInt8) : Status Unit → ℕ → σ → Prop
  /-- All of `buf` is written. -/
  | ok (f : σ) : WriteFullSpec wr full buf (.ok ()) buf.length f
  /-- A call wrote nothing after `m` bytes, the file being full: `EINVAL`. -/
  | stall {m : ℕ} {f : σ} : m < buf.length → full f → WriteFullSpec wr full buf (.error EINVAL) m f
  /-- The call on the file `f` fails after `m` bytes, with its `errno`; the file stays `f`. -/
  | fail {e m : ℕ} {f : σ} : m < buf.length → wr f (buf.drop m) = .error e →
      WriteFullSpec wr full buf (.error e) m f

section Write

variable {wr : σ → List UInt8 → Status (ℕ × σ)} {put : σ → List UInt8 → σ} {full : σ → Prop}

/-- The loop from `n` bytes of `buf` written into the file `put f₀ (buf.take n)`: it ends having
written some `m` bytes, into `put f₀ (buf.take m)`, as the spec says. -/
theorem writeFullLoop_spec (h : WritesInto wr put full) (buf : List UInt8) (f₀ : σ) (n : ℕ)
    (f : σ) (hf : f = put f₀ (buf.take n)) (hn : n ≤ buf.length) :
    ∃ m ≤ buf.length, (writeFullLoop wr buf n f).2 = put f₀ (buf.take m) ∧
      WriteFullSpec wr full buf (writeFullLoop wr buf n f).1 m (writeFullLoop wr buf n f).2 := by
  fun_induction writeFullLoop wr buf n f with
  | case1 n f hlt e he => exact ⟨n, hn, hf, .fail hlt he⟩
  | case2 n f hlt f' hwr =>
    -- `write` returned `0`: it wrote nothing, so the file was full, and is
    have hnil : buf.drop n ≠ [] := by simp; omega
    have hf' : f' = f := by rw [h.put_eq hwr, List.take_zero, h.put_nil]
    refine ⟨n, hn, hf'.trans hf, ?_⟩
    rw [fullResult_of_lt hlt, hf']
    exact .stall hlt (h.progress hnil hwr)
  | case3 n f hlt ret f' hwr hret ih =>
    have hle : ret ≤ buf.length - n := by simpa using h.le hwr
    apply ih _ (by omega)
    rw [h.put_eq hwr, hf, h.put_append, ← List.take_add]
  | case4 n f hge =>
    obtain rfl : n = buf.length := by omega
    refine ⟨buf.length, le_rfl, hf, ?_⟩
    rw [fullResult_self]
    exact .ok f

/-- **What `WriteFull` does**: it writes a prefix of `buf`, all of it when it succeeds; it fails
with `EINVAL` only on a full file, and otherwise with the `errno` of a failed `write`. -/
theorem writeFull_spec (h : WritesInto wr put full) (buf : List UInt8) (f : σ) :
    ∃ m ≤ buf.length, (writeFull wr buf f).2 = put f (buf.take m) ∧
      WriteFullSpec wr full buf (writeFull wr buf f).1 m (writeFull wr buf f).2 :=
  writeFullLoop_spec h buf f 0 f (by rw [List.take_zero, h.put_nil]) (Nat.zero_le _)

/-- A property of the file that every successful `write` keeps holds after `WriteFull`. -/
theorem writeFullLoop_preserves {P : σ → Prop}
    (hP : ∀ {f bs ret f'}, wr f bs = .ok (ret, f') → P f → P f') (buf : List UInt8) (n : ℕ)
    (f : σ) (hf : P f) : P (writeFullLoop wr buf n f).2 := by
  fun_induction writeFullLoop wr buf n f with
  | case1 => exact hf
  | case2 n f hlt f' hwr => exact hP hwr hf
  | case3 n f hlt ret f' hwr hret ih => exact ih (hP hwr hf)
  | case4 => exact hf

end Write

end Sandook
