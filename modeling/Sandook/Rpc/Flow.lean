import Mathlib

/-!
# The client's RPC flow (`rpc/rpc.h`, `rpc/rpc.cc`: `detail::RPCFlow`)

Model of one `RPCFlow`: the callers' `Call`, the two worker threads `SendWorker` and
`ReceiveWorker`, and the close that `~RPCFlow` starts, as a transition system whose steps are the
critical sections under `lock_` and the writes and reads on the connection between them. Any
interleaving of the threads is a run of `Step`.

* `WritevFull` puts the batch on the connection one request after the other, and the peer may
  read and answer a request before the rest of the batch is written: each request written is a
  step of its own. A request only partly written cannot be answered and is not on the wire yet.

* The state holds the shared fields (`reqs_`, `close_`, the `unsigned int` counters
  `sent_count_` and `recv_count_` as `UInt32`, `credits_`), the part of the sender's local batch
  not yet written and where the sender is, the requests written to the connection in order, and
  the number of responses read. `called`, the requests passed to `Call` in order, is history kept for the statements.
* A gather round is enabled when the sender's wait loop exits. It moves requests out of `reqs_`
  while `inflight < credits_` (`gather`), adds the batch size to `sent_count_`, and breaks out of
  the loop, shutting the connection for writing, when `close_` is set and `reqs_` is empty.
* The peer answers at most once per request it received: a response can be read only while
  fewer responses than written requests have been read. Wakeups only unpark the sender and are
  not modelled; the receiver's end at `EEOF` is a step that changes nothing.

Results:
* `reachable_inv`: along every run, `sent_count_` and `recv_count_` are the numbers of requests
  gathered and of responses read, modulo `2 ^ 32`; at most `credits_` gathered requests are
  unanswered; every response answers a written request; and the written, gathered and queued
  requests are the called ones in order.
* `inflight_le_credits`: the in-flight count computed modulo `2 ^ 32` is the number of gathered
  requests not yet answered, and never more than `credits_`, whatever the counters' wraps.
* `close_drops_gathered`: a gather round that finds `close_` set and takes the last queued
  requests shuts the connection without writing them.
-/

namespace Sandook.Rpc

/-- `RPCFlow::kNumCredits`. -/
def kNumCredits : UInt32 := 128

/-- Where `SendWorker` is. -/
inductive SenderPc where
  /-- At the top of its loop, its local batch cleared, waiting for an actionable state. -/
  | waiting
  /-- Past a gather round, in `WritevFull` of its batch. -/
  | writing
  /-- Out of its loop: the connection is shut for writing (`SHUT_WR`). -/
  | closed
  /-- `WritevFull` failed and the worker returned. -/
  | failed
  deriving DecidableEq, Repr

/-- One `RPCFlow` with its workers and its connection, over requests of type `α`
(`req_ctx`). -/
structure Flow (α : Type) where
  /-- `reqs_`. -/
  reqs : List α
  /-- `close_`. -/
  close : Bool
  /-- `sent_count_`. -/
  sentCount : UInt32
  /-- `recv_count_`. -/
  recvCount : UInt32
  /-- `credits_`. -/
  credits : UInt32
  /-- `SendWorker`'s local `reqs`, less the requests `WritevFull` has written. -/
  batch : List α
  sender : SenderPc
  /-- The requests written to the connection, in order. -/
  wire : List α
  /-- The responses `ReceiveWorker` has read. -/
  answered : ℕ
  /-- The requests passed to `Call`, in order. -/
  called : List α

variable {α : Type}

/-- The flow as the constructor leaves it. -/
def Flow.init : Flow α :=
  ⟨[], false, 0, 0, kNumCredits, [], .waiting, [], 0, []⟩

/-- `sent_count_ - recv_count_`, as `Call` and both workers compute it. -/
def Flow.inflight (s : Flow α) : UInt32 := s.sentCount - s.recvCount

/-! ## A gather round -/

/-- The gather loop of `SendWorker`: while `reqs_` is not empty and `inflight < credits_`, move
its front to the batch and count it in flight. Returns the queue, the batch and the count. -/
def gather (credits : UInt32) : List α → List α → UInt32 → List α × List α × UInt32
  | [], batch, inflight => ([], batch, inflight)
  | r :: rs, batch, inflight =>
    if inflight < credits then gather credits rs (batch ++ [r]) (inflight + 1)
    else (r :: rs, batch, inflight)

/-- The wait loop's exit test: `reqs_` is not empty and a credit is free, or the flow is closing
with nothing queued. -/
def Flow.actionable (s : Flow α) : Bool :=
  !((s.reqs.isEmpty || s.credits ≤ s.inflight) && !(s.close && s.reqs.isEmpty))

/-- A gather round after the wait loop: gather, `sent_count_ += reqs.size()`, and break out to
`SHUT_WR` when `close_ && reqs_.empty()`. -/
def Flow.sendGather (s : Flow α) : Flow α :=
  let (reqs, batch, _) := gather s.credits s.reqs s.batch s.inflight
  { s with
    reqs := reqs
    batch := batch
    sentCount := s.sentCount + UInt32.ofNat batch.length
    sender := if s.close && reqs.isEmpty then .closed else .writing }

/-! ## Steps and runs -/

/-- The steps of the flow: each critical section under `lock_`, each request `WritevFull` writes
and each read of a response. -/
inductive Step : Flow α → Flow α → Prop where
  /-- `Call`: `reqs_.emplace(...)`. -/
  | call (s : Flow α) (r : α) : Step s { s with reqs := s.reqs ++ [r], called := s.called ++ [r] }
  /-- `~RPCFlow`: `close_ = true`. -/
  | close (s : Flow α) : Step s { s with close := true }
  /-- A gather round, once the wait loop exits. -/
  | gather (s : Flow α) (hpc : s.sender = .waiting) (h : s.actionable = true) :
      Step s s.sendGather
  /-- `WritevFull` puts the batch's next request on the connection. -/
  | writeNext (s : Flow α) (r : α) (rest : List α) (hpc : s.sender = .writing)
      (hb : s.batch = r :: rest) : Step s { s with wire := s.wire ++ [r], batch := rest }
  /-- `WritevFull` returns, the whole batch written; `reqs.clear()`. -/
  | writeDone (s : Flow α) (hpc : s.sender = .writing) (hb : s.batch = []) :
      Step s { s with sender := .waiting }
  /-- `WritevFull` fails, part of the batch written: the sender returns without `SHUT_WR`. -/
  | writeFail (s : Flow α) (hpc : s.sender = .writing) : Step s { s with sender := .failed }
  /-- `ReceiveWorker` reads a response to a written request: `++recv_count_`. -/
  | receive (s : Flow α) (h : s.answered < s.wire.length) :
      Step s { s with recvCount := s.recvCount + 1, answered := s.answered + 1 }

/-- The states some interleaving reaches from a fresh flow. -/
def Reachable (s : Flow α) : Prop := Relation.ReflTransGen Step Flow.init s

/-! ## The gather loop -/

/-- **The gather loop takes as many requests as there are free credits**, from the front of the
queue, and counts them in flight. -/
theorem gather_eq (credits : UInt32) (q : List α) :
    ∀ (batch : List α) (inflight : UInt32), inflight ≤ credits →
      gather credits q batch inflight =
        let k := min q.length (credits.toNat - inflight.toNat)
        (q.drop k, batch ++ q.take k, inflight + UInt32.ofNat k) := by
  induction q with
  | nil =>
    intro batch inflight _
    simp [gather]
  | cons r rs ih =>
    intro batch inflight hle
    rw [UInt32.le_iff_toNat_le] at hle
    have hc := credits.toNat_lt
    by_cases hlt : inflight < credits
    · rw [UInt32.lt_iff_toNat_lt] at hlt
      have hsucc : (inflight + 1).toNat = inflight.toNat + 1 := by
        rw [UInt32.toNat_add, UInt32.toNat_one]
        omega
      have hk : min (rs.length + 1) (credits.toNat - inflight.toNat) =
          min rs.length (credits.toNat - (inflight + 1).toNat) + 1 := by
        rw [hsucc]
        omega
      rw [gather, if_pos (UInt32.lt_iff_toNat_lt.mpr hlt),
        ih _ _ (UInt32.le_iff_toNat_le.mpr (by omega)), List.length_cons, hk]
      generalize min rs.length (credits.toNat - (inflight + 1).toNat) = k
      simp only [List.drop_succ_cons, List.take_succ_cons, List.append_assoc, List.singleton_append,
        Prod.mk.injEq, true_and]
      apply UInt32.toNat_inj.mp
      simp only [UInt32.toNat_add, UInt32.toNat_ofNat', UInt32.toNat_one]
      omega
    · have hzero : credits.toNat - inflight.toNat = 0 := by
        rw [UInt32.lt_iff_toNat_lt] at hlt
        omega
      rw [gather, if_neg hlt, hzero]
      simp

/-- The size of the batch a gather round takes. -/
def Flow.gatherCount (s : Flow α) : ℕ := min s.reqs.length (s.credits.toNat - s.inflight.toNat)

/-- A gather round, when the flow has not overdrawn its credits. -/
theorem sendGather_eq {s : Flow α} (h : s.inflight ≤ s.credits) :
    s.sendGather =
      { s with
        reqs := s.reqs.drop s.gatherCount
        batch := s.batch ++ s.reqs.take s.gatherCount
        sentCount := s.sentCount + UInt32.ofNat (s.batch.length + s.gatherCount)
        sender := if s.close && (s.reqs.drop s.gatherCount).isEmpty then .closed else .writing } := by
  unfold Flow.sendGather
  rw [gather_eq _ _ _ _ h]
  simp only [List.length_append, List.length_take, Flow.gatherCount,
    Nat.min_eq_left (Nat.min_le_left s.reqs.length (s.credits.toNat - s.inflight.toNat))]
  rfl

/-! ## The invariant of every run -/

/-- What every reachable state satisfies: the counters count, modulo `2 ^ 32`, the gathered
requests and the responses read; responses answer written requests; at most `kNumCredits`
gathered requests are unanswered; the waiting sender holds no batch; and the written, gathered
and queued requests are the called ones, in order. -/
structure Inv (s : Flow α) : Prop where
  credits_eq : s.credits = kNumCredits
  sent_eq : s.sentCount.toNat = (s.wire.length + s.batch.length) % 2 ^ 32
  recv_eq : s.recvCount.toNat = s.answered % 2 ^ 32
  answered_le : s.answered ≤ s.wire.length
  window : s.wire.length + s.batch.length ≤ s.answered + kNumCredits.toNat
  batch_nil : s.sender = .waiting → s.batch = []
  fifo : s.wire ++ s.batch ++ s.reqs = s.called

theorem kNumCredits_toNat : kNumCredits.toNat = 128 := rfl

variable {s t : Flow α}

/-- The in-flight count computed modulo `2 ^ 32` is the number of gathered requests not yet
answered. -/
theorem Inv.inflight_toNat (h : Inv s) :
    s.inflight.toNat = s.wire.length + s.batch.length - s.answered := by
  have hle := h.answered_le
  have hwin := h.window
  rw [kNumCredits_toNat] at hwin
  rw [Flow.inflight, UInt32.toNat_sub, h.sent_eq, h.recv_eq]
  omega

theorem Inv.inflight_le (h : Inv s) : s.inflight ≤ s.credits := by
  have hwin := h.window
  rw [UInt32.le_iff_toNat_le, h.inflight_toNat, h.credits_eq]
  omega

theorem inv_init : Inv (Flow.init : Flow α) :=
  ⟨rfl, rfl, rfl, Nat.le_refl _, Nat.zero_le _, fun _ => rfl, rfl⟩

/-- A gather round keeps the invariant: the batch it takes fits the free credits. -/
theorem Inv.sendGather (h : Inv s) (hw : s.sender = .waiting) : Inv s.sendGather := by
  have hb := h.batch_nil hw
  have hk : s.gatherCount ≤ s.reqs.length := Nat.min_le_left _ _
  have hfree : s.gatherCount ≤ s.credits.toNat - s.inflight.toNat := Nat.min_le_right _ _
  have hi := h.inflight_toNat
  have hwin := h.window
  rw [h.credits_eq, kNumCredits_toNat] at hfree
  rw [kNumCredits_toNat] at hwin
  rw [sendGather_eq h.inflight_le]
  constructor
  · exact h.credits_eq
  · simp only [UInt32.toNat_add, UInt32.toNat_ofNat', h.sent_eq, hb, List.length_append,
      List.length_take, List.length_nil]
    omega
  · exact h.recv_eq
  · exact h.answered_le
  · simp only [hb, List.nil_append, List.length_take, kNumCredits_toNat]
    rw [hb] at hi
    omega
  · intro hs
    split at hs <;> cases hs
  · rw [hb, List.nil_append, List.append_assoc, List.take_append_drop]
    simpa [hb] using h.fifo

/-- **Every step keeps the invariant.** -/
theorem Inv.step (h : Inv s) (hst : Step s t) : Inv t := by
  cases hst with
  | call r =>
    refine ⟨h.credits_eq, h.sent_eq, h.recv_eq, h.answered_le, h.window, h.batch_nil, ?_⟩
    simp only [← h.fifo, List.append_assoc]
  | close => exact ⟨h.credits_eq, h.sent_eq, h.recv_eq, h.answered_le, h.window, h.batch_nil, h.fifo⟩
  | gather hpc _ => exact h.sendGather hpc
  | writeNext r rest hpc hb =>
    -- one request moves from the batch to the wire: the sums the invariant counts stay
    have hle := h.answered_le
    have hlen : (s.wire ++ [r]).length + rest.length = s.wire.length + s.batch.length := by
      simp [hb]
      omega
    refine ⟨h.credits_eq, hlen ▸ h.sent_eq, h.recv_eq, ?_, hlen ▸ h.window,
      fun hs => absurd (hpc.symm.trans hs) nofun, ?_⟩
    · simp only [List.length_append, List.length_singleton]
      omega
    · simpa only [hb, List.append_assoc, List.singleton_append] using h.fifo
  | writeDone hpc hb =>
    exact ⟨h.credits_eq, h.sent_eq, h.recv_eq, h.answered_le, h.window, fun _ => hb, h.fifo⟩
  | writeFail hpc =>
    exact ⟨h.credits_eq, h.sent_eq, h.recv_eq, h.answered_le, h.window,
      (fun hs => nomatch hs), h.fifo⟩
  | receive hr =>
    have hwin := h.window
    refine ⟨h.credits_eq, h.sent_eq, ?_, hr, by dsimp only; omega, h.batch_nil, h.fifo⟩
    simp only [UInt32.toNat_add, UInt32.toNat_one, h.recv_eq]
    omega

/-- **Every reachable state satisfies the invariant.** -/
theorem reachable_inv (hs : Reachable s) : Inv s := by
  induction hs with
  | refl => exact inv_init
  | tail _ hst ih => exact ih.step hst

/-- **The flow never exceeds its credit window**: in every reachable state, whatever the wraps of
the two counters, `sent_count_ - recv_count_` is the number of gathered requests not yet
answered, and at most `credits_ = kNumCredits`; and every response read answers a request
written to the connection. -/
theorem inflight_le_credits (hs : Reachable s) :
    s.inflight.toNat = s.wire.length + s.batch.length - s.answered ∧ s.inflight ≤ s.credits ∧
      s.credits = kNumCredits ∧ s.answered ≤ s.wire.length := by
  have h := reachable_inv hs
  exact ⟨h.inflight_toNat, h.inflight_le, h.credits_eq, h.answered_le⟩

/-- A flow that has received one call: its sender may gather it, and both counters are at
`0`. -/
theorem inflight_le_credits_one_call :
    let s : Flow ℕ := { Flow.init with reqs := [7], called := [7] }
    s.inflight.toNat = s.wire.length + s.batch.length - s.answered ∧ s.inflight ≤ s.credits ∧
      s.credits = kNumCredits ∧ s.answered ≤ s.wire.length :=
  inflight_le_credits (.single (Step.call Flow.init 7))

/-! ## Closing -/

/-- Once the sender has shut the connection, no step writes to it again. -/
theorem Step.closed (hst : Step s t) (hc : s.sender = .closed) :
    t.sender = .closed ∧ t.wire = s.wire := by
  cases hst with
  | call r => exact ⟨hc, rfl⟩
  | close => exact ⟨hc, rfl⟩
  | gather hpc _ => exact absurd (hc.symm.trans hpc) nofun
  | writeNext _ _ hpc _ => exact absurd (hc.symm.trans hpc) nofun
  | writeDone hpc _ => exact absurd (hc.symm.trans hpc) nofun
  | writeFail hpc => exact absurd (hc.symm.trans hpc) nofun
  | receive hr => exact ⟨hc, rfl⟩

theorem closed_of_run (hrun : Relation.ReflTransGen Step s t) (hc : s.sender = .closed) :
    t.sender = .closed ∧ t.wire = s.wire := by
  induction hrun with
  | refl => exact ⟨hc, rfl⟩
  | tail _ hst ih =>
    obtain ⟨hc', hwire⟩ := hst.closed ih.1
    exact ⟨hc', hwire.trans ih.2⟩

/-- The calls made so far stay the first calls. -/
theorem Step.called_prefix (hst : Step s t) : s.called <+: t.called := by
  cases hst with
  | call r => exact List.prefix_append _ _
  | gather hpc _ => exact List.prefix_refl _
  | close | writeNext _ _ _ _ | writeDone _ _ | writeFail _ | receive _ => exact List.prefix_refl _

theorem called_prefix_of_run (hrun : Relation.ReflTransGen Step s t) : s.called <+: t.called := by
  induction hrun with
  | refl => exact List.prefix_refl _
  | tail _ hst ih => exact ih.trans hst.called_prefix

/-- **A close that races with pending calls drops them.** When the sender's gather round finds
`close_` set and takes every queued request (they fit the free credits), it breaks out of its
loop and shuts the connection: the batch it took is never written, in any continuation, though
those requests were called after everything on the wire. -/
theorem close_drops_gathered (hs : Reachable s) (hw : s.sender = .waiting) (hc : s.close = true)
    (hne : s.reqs ≠ []) (hfit : s.inflight.toNat + s.reqs.length ≤ s.credits.toNat) :
    Step s s.sendGather ∧ s.sendGather.sender = .closed ∧
      ∀ t, Relation.ReflTransGen Step s.sendGather t → t.wire = s.wire ∧ t.wire ++ s.reqs <+: t.called := by
  have hinv := reachable_inv hs
  have hb := hinv.batch_nil hw
  have hlen : 0 < s.reqs.length := List.length_pos_iff.mpr hne
  have hk : s.gatherCount = s.reqs.length := Nat.min_eq_left (by omega)
  have hg := sendGather_eq hinv.inflight_le
  have hsender : s.sendGather.sender = .closed := by
    rw [hg]
    simp [hk, hc]
  have hact : s.actionable = true := by
    have hlt : ¬ s.credits ≤ s.inflight := by
      rw [UInt32.le_iff_toNat_le]
      omega
    simp [Flow.actionable, List.isEmpty_iff, hne, hlt]
  have hwire : s.sendGather.wire = s.wire := by rw [hg]
  have hcalled : s.sendGather.called = s.called := by rw [hg]
  have hfifo : s.wire ++ s.reqs = s.called := by simpa [hb] using hinv.fifo
  refine ⟨.gather s hw hact, hsender, fun t hrun => ?_⟩
  obtain ⟨-, hfrozen⟩ := closed_of_run hrun hsender
  rw [hfrozen, hwire]
  refine ⟨rfl, ?_⟩
  rw [hfifo, ← hcalled]
  exact called_prefix_of_run hrun

/-- `Call(r)` and then `~RPCFlow`, before the sender runs: its gather round takes `r` and shuts the
connection without writing it. -/
theorem close_drops_gathered_call_close :
    let s : Flow ℕ := { Flow.init with reqs := [7], called := [7], close := true }
    Step s s.sendGather ∧ s.sendGather.sender = .closed ∧
      ∀ t, Relation.ReflTransGen Step s.sendGather t → t.wire = s.wire ∧ t.wire ++ s.reqs <+: t.called :=
  close_drops_gathered (.tail (.single (Step.call Flow.init 7)) (Step.close _)) rfl rfl
    (List.cons_ne_nil _ _) (by decide)

end Sandook.Rpc
