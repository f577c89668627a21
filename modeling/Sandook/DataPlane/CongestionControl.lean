import Sandook.Base.Types
import Mathlib.Tactic.Linarith

/-!
# Client-side congestion control (`scheduler/data_plane/congestion_control.h`)

Model of `CongestionControl`: per server a congestion state, the time of the last congestion
signal, the time of the last multiplicative decrease, and the rate limit by which the data-plane
scheduler scales a server's weights. `SignalCongested` (a rejection or a congested reply),
`SetCongestionState` (the controller's view, applied only over `kInvalid`) and the worker's
`UpdateAllServers` (`UpdateServerRateLimit` for every server, then `kInvalid`) are the steps.

`MicroTime()` is the parameter `now`, read once per step. The lock only orders the steps; each
is one atomic step. `.at` past the arrays ends the call (`none`). Rate limits are exact
rationals. The telemetry streams only record.

Every step acts on each server's part of the state (`ServerView`: its state, the two times and
its rate limit) through one small automaton, `CCOp.onServer`; `view_apply` proves that the
controller is the product of these automata, and the three properties are proved of one of them.

Results:
* `view_apply`: one step, seen from one server.
* `run_rate_mem`, `apply_rate_lt`, `apply_lt_rate`: rate limits stay in `[0.001, 1]`; they fall
  only in an update of a `kCongested` server and rise only in one of a `kUnCongested` or
  `kCongestedUnstable` server.
* `run_decrease_le`: two multiplicative decreases of one server are a congestion window apart.
-/

namespace Sandook.DataPlane

/-- `RateLimit` (`double`). -/
abbrev RateLimit := ℚ

/-- `kBestCongestedRateLimit`. -/
def kBestCongestedRateLimit : RateLimit := 1 / 1000
/-- `kBestUncongestedRateLimit`. -/
def kBestUncongestedRateLimit : RateLimit := 1
/-- `kMultiplicativeDecreaseDelta`. -/
def kMultiplicativeDecreaseDelta : RateLimit := 1 / 2
/-- `kAdditiveIncreaseDelta`. -/
def kAdditiveIncreaseDelta : RateLimit := 1 / 20
/-- `kCongestionControlWindowUs = 50 * kOneMilliSecond`. -/
def kCongestionControlWindowUs : UInt64 := 50000

/-- The state of `CongestionControl`. -/
structure CongestionControl where
  servers : List ServerID
  states : ℕ → ServerCongestionState
  congestedAt : ℕ → UInt64
  congestionRespondedAt : ℕ → UInt64
  ccRateLimits : ℕ → RateLimit

namespace CongestionControl

/-- The constructor: every server `kUnCongested` at the best rate limit, both times `0`. -/
def init : CongestionControl :=
  ⟨[], fun _ => .kUnCongested, fun _ => 0, fun _ => 0, fun _ => kBestUncongestedRateLimit⟩

/-- `AddServer`: `EALREADY` for a registered id (after the telemetry slot's `.at`). -/
def addServer (cc : CongestionControl) (serverId : ServerID) :
    Option (Status Unit × CongestionControl) :=
  if serverId < kNumMaxServers then
    if serverId ∈ cc.servers then some (.error EALREADY, cc)
    else some (.ok (), { cc with servers := cc.servers.insert serverId })
  else none

/-- `GetRateLimit`. -/
def getRateLimit (cc : CongestionControl) (serverId : ServerID) : Option RateLimit :=
  arrayAt? cc.ccRateLimits serverId

/-- `SetCongestionState`: only over `kInvalid`. -/
def setCongestionState (cc : CongestionControl) (serverId : ServerID)
    (state : ServerCongestionState) : Option CongestionControl :=
  (arrayAt? cc.states serverId).bind fun cur =>
    if cur ≠ .kInvalid then some cc
    else (arraySet? cc.states serverId state).map fun states => { cc with states := states }

/-- `UpdateServerRateLimit`: additive increase out of congestion, multiplicative decrease at most
once per `kCongestionControlWindowUs` of congestion signals. -/
def updateServerRateLimit (cc : CongestionControl) (serverId : ServerID) (now : UInt64) :
    Option CongestionControl :=
  if serverId < kNumMaxServers then
    let rate := cc.ccRateLimits serverId
    let increased := min kBestUncongestedRateLimit (rate + kAdditiveIncreaseDelta)
    let increase : CongestionControl :=
      if rate ≠ kBestUncongestedRateLimit then
        { cc with ccRateLimits := Function.update cc.ccRateLimits serverId increased }
      else cc
    some <| match cc.states serverId with
    | .kUnCongested => increase
    | .kCongestedUnstable => increase
    | .kCongested =>
      if rate ≠ kBestCongestedRateLimit then
        let lastReaction := cc.congestionRespondedAt serverId
        let congestedSince := cc.congestedAt serverId
        if congestedSince ≤ lastReaction then cc
        else if congestedSince - lastReaction < kCongestionControlWindowUs then cc
        else
          let decreased := max kBestCongestedRateLimit (rate * kMultiplicativeDecreaseDelta)
          { cc with
            ccRateLimits := Function.update cc.ccRateLimits serverId decreased,
            congestionRespondedAt := Function.update cc.congestionRespondedAt serverId now }
      else cc
    | _ => cc
  else none

/-- `SignalCongested`: the server becomes `kCongested` at `now`; from `kUnCongested` the rate
limit reacts at once. -/
def signalCongested (cc : CongestionControl) (serverId : ServerID) (now : UInt64) :
    Option CongestionControl :=
  if serverId < kNumMaxServers then
    let cc' := { cc with
      states := Function.update cc.states serverId .kCongested,
      congestedAt := Function.update cc.congestedAt serverId now }
    if cc.states serverId = .kUnCongested then cc'.updateServerRateLimit serverId now
    else some cc'
  else none

/-- `UpdateAllServers`: for each registered server, update its rate limit and reset its state
to `kInvalid`. -/
def updateAllServers (cc : CongestionControl) (now : UInt64) : Option CongestionControl :=
  cc.servers.foldlM (fun cc serverId =>
    (cc.updateServerRateLimit serverId now).bind fun cc =>
      (arraySet? cc.states serverId .kInvalid).map fun states => { cc with states := states })
    cc

end CongestionControl

/-! ## One server's part of the state -/

/-- What the controller keeps for one server. -/
structure ServerView where
  state : ServerCongestionState
  congestedAt : UInt64
  respondedAt : UInt64
  rate : RateLimit

namespace CongestionControl

/-- The part of the state that belongs to server `s`. -/
def view (cc : CongestionControl) (s : ServerID) : ServerView :=
  ⟨cc.states s, cc.congestedAt s, cc.congestionRespondedAt s, cc.ccRateLimits s⟩

@[simp] theorem view_state (cc : CongestionControl) (s : ServerID) :
    (cc.view s).state = cc.states s := rfl

@[simp] theorem view_rate (cc : CongestionControl) (s : ServerID) :
    (cc.view s).rate = cc.ccRateLimits s := rfl

/-- The state with server `j`'s part replaced by `v`. -/
def setView (cc : CongestionControl) (j : ServerID) (v : ServerView) : CongestionControl :=
  { cc with
    states := Function.update cc.states j v.state
    congestedAt := Function.update cc.congestedAt j v.congestedAt
    congestionRespondedAt := Function.update cc.congestionRespondedAt j v.respondedAt
    ccRateLimits := Function.update cc.ccRateLimits j v.rate }

@[simp] theorem view_setView (cc : CongestionControl) (j s : ServerID) (v : ServerView) :
    (cc.setView j v).view s = if s = j then v else cc.view s := by
  by_cases h : s = j
  · subst h
    simp [view, setView]
  · simp [view, setView, h]

@[simp] theorem servers_setView (cc : CongestionControl) (j : ServerID) (v : ServerView) :
    (cc.setView j v).servers = cc.servers := rfl

end CongestionControl

namespace ServerView

/-- `UpdateServerRateLimit` on one server's part. -/
def update (v : ServerView) (now : UInt64) : ServerView :=
  let increase : ServerView :=
    if v.rate ≠ kBestUncongestedRateLimit then
      { v with rate := min kBestUncongestedRateLimit (v.rate + kAdditiveIncreaseDelta) }
    else v
  match v.state with
  | .kUnCongested => increase
  | .kCongestedUnstable => increase
  | .kCongested =>
    if v.rate ≠ kBestCongestedRateLimit then
      if v.congestedAt ≤ v.respondedAt then v
      else if v.congestedAt - v.respondedAt < kCongestionControlWindowUs then v
      else { v with rate := max kBestCongestedRateLimit (v.rate * kMultiplicativeDecreaseDelta),
                    respondedAt := now }
    else v
  | _ => v

/-- `SignalCongested` on the signalled server's part. -/
def signal (v : ServerView) (now : UInt64) : ServerView :=
  let v' := { v with state := .kCongested, congestedAt := now }
  if v.state = .kUnCongested then v'.update now else v'

/-- `SetCongestionState` on the server's part. -/
def setState (v : ServerView) (state : ServerCongestionState) : ServerView :=
  if v.state ≠ .kInvalid then v else { v with state := state }

/-- The reset of `UpdateAllServers`. -/
def reset (v : ServerView) : ServerView := { v with state := .kInvalid }

@[simp] theorem reset_reset (v : ServerView) : v.reset.reset = v.reset := rfl

/-- An update of a reset server changes nothing. -/
@[simp] theorem update_reset (v : ServerView) (now : UInt64) : v.reset.update now = v.reset := rfl

/-- The rate limit is in `[kBestCongestedRateLimit, kBestUncongestedRateLimit]`. -/
def InRange (v : ServerView) : Prop :=
  kBestCongestedRateLimit ≤ v.rate ∧ v.rate ≤ kBestUncongestedRateLimit

/-- Both times are clock readings taken no later than `t`. -/
def Clocked (v : ServerView) (t : UInt64) : Prop :=
  v.congestedAt ≤ t ∧ v.respondedAt ≤ t

theorem Clocked.mono {v : ServerView} {t t' : UInt64} (hv : v.Clocked t) (ht : t ≤ t') :
    v.Clocked t' := by
  simp only [Clocked, UInt64.le_iff_toNat_le] at *
  omega

/-- **What an update can do**: nothing; an additive increase out of congestion; or, a window
after the last reaction, a multiplicative decrease that records the time. -/
theorem update_cases (v : ServerView) (now : UInt64) :
    v.update now = v ∨
    ((v.state = .kUnCongested ∨ v.state = .kCongestedUnstable) ∧
      v.update now = { v with rate := min kBestUncongestedRateLimit (v.rate + kAdditiveIncreaseDelta) }) ∨
    (v.state = .kCongested ∧ v.rate ≠ kBestCongestedRateLimit ∧ v.respondedAt < v.congestedAt ∧
      kCongestionControlWindowUs ≤ v.congestedAt - v.respondedAt ∧
      v.update now = { v with
        rate := max kBestCongestedRateLimit (v.rate * kMultiplicativeDecreaseDelta),
        respondedAt := now }) := by
  obtain ⟨state, congestedAt, respondedAt, rate⟩ := v
  cases state <;> dsimp only [update] <;> (try split_ifs) <;> simp_all [UInt64.lt_iff_toNat_lt,
    UInt64.le_iff_toNat_le]

theorem InRange.update {v : ServerView} (hv : v.InRange) (now : UInt64) :
    (v.update now).InRange := by
  obtain ⟨hlo, hhi⟩ := hv
  rcases update_cases v now with h | ⟨-, h⟩ | ⟨-, -, -, -, h⟩ <;> rw [h] <;>
    simp only [InRange, kBestCongestedRateLimit, kBestUncongestedRateLimit, kAdditiveIncreaseDelta,
      kMultiplicativeDecreaseDelta] at hlo hhi ⊢
  · exact ⟨hlo, hhi⟩
  · exact ⟨le_min (by norm_num) (by linarith), min_le_left _ _⟩
  · exact ⟨le_max_left _ _, max_le (by norm_num) (by linarith)⟩

/-- An update lowers the rate limit only by a multiplicative decrease of a `kCongested` server a
window after its last reaction, and that decrease records `now`. -/
theorem update_rate_lt {v : ServerView} (hv : v.InRange) {now : UInt64}
    (h : (v.update now).rate < v.rate) :
    v.state = .kCongested ∧
      v.respondedAt.toNat + kCongestionControlWindowUs.toNat ≤ v.congestedAt.toNat ∧
      (v.update now).respondedAt = now := by
  rcases update_cases v now with hu | ⟨-, hu⟩ | ⟨hst, -, hlt, hw, hu⟩
  · rw [hu] at h
    exact absurd h (lt_irrefl _)
  · rw [hu] at h
    -- an increase does not lower the rate limit
    simp only [min_lt_iff, kAdditiveIncreaseDelta] at h
    rcases h with h | h
    · exact absurd hv.2 (not_le.mpr h)
    · linarith
  · refine ⟨hst, ?_, by rw [hu]⟩
    rw [UInt64.lt_iff_toNat_lt] at hlt
    rw [UInt64.le_iff_toNat_le, UInt64.toNat_sub_of_le _ _ (UInt64.le_of_lt hlt)] at hw
    omega

/-- An update raises the rate limit only by an additive increase of a `kUnCongested` or
`kCongestedUnstable` server. -/
theorem update_lt_rate {v : ServerView} (hv : v.InRange) {now : UInt64}
    (h : v.rate < (v.update now).rate) :
    v.state = .kUnCongested ∨ v.state = .kCongestedUnstable := by
  rcases update_cases v now with hu | ⟨hst, -⟩ | ⟨-, hne, -, -, hu⟩
  · rw [hu] at h
    exact absurd h (lt_irrefl _)
  · exact hst
  · rw [hu] at h
    -- a decrease from above the floor stays below the old rate limit
    have hpos : kBestCongestedRateLimit < v.rate := lt_of_le_of_ne hv.1 (Ne.symm hne)
    simp only [lt_max_iff, kBestCongestedRateLimit, kMultiplicativeDecreaseDelta] at h hpos
    rcases h with h | h
    · linarith
    · linarith

/-- An update keeps the times readings of the clock and moves the reaction time forward. -/
theorem Clocked.update {v : ServerView} {t now : UInt64} (hv : v.Clocked t) (ht : t ≤ now) :
    (v.update now).Clocked now ∧ v.respondedAt ≤ (v.update now).respondedAt := by
  have hv' := hv.mono ht
  rcases update_cases v now with hu | ⟨-, hu⟩ | ⟨-, -, -, -, hu⟩ <;> rw [hu]
  · exact ⟨hv', UInt64.le_refl _⟩
  · exact ⟨hv', UInt64.le_refl _⟩
  · exact ⟨⟨hv'.1, UInt64.le_refl _⟩, hv'.2⟩

/-- What a signal can do: mark the server congested at `now`, and from `kUnCongested` update
it at once. -/
theorem signal_cases (v : ServerView) (now : UInt64) :
    v.signal now = { v with state := .kCongested, congestedAt := now } ∨
      (v.state = .kUnCongested ∧
        v.signal now = ({ v with state := .kCongested, congestedAt := now } : ServerView).update now) := by
  unfold signal
  split_ifs with h
  · exact .inr ⟨h, rfl⟩
  · exact .inl rfl

end ServerView

namespace CongestionControl

/-- One step of `UpdateAllServers`. -/
def updateOne (cc : CongestionControl) (serverId : ServerID) (now : UInt64) :
    Option CongestionControl :=
  (cc.updateServerRateLimit serverId now).bind fun cc =>
    (arraySet? cc.states serverId .kInvalid).map fun states => { cc with states := states }

/-! ## Each step, one server at a time -/

theorem setView_view_self (cc : CongestionControl) (j : ServerID) : cc.setView j (cc.view j) = cc := by
  simp [setView, view]

theorem updateServerRateLimit_eq (cc : CongestionControl) {j : ServerID} (hj : j < kNumMaxServers)
    (now : UInt64) :
    cc.updateServerRateLimit j now = some (cc.setView j ((cc.view j).update now)) := by
  obtain ⟨servers, states, congestedAt, respondedAt, rates⟩ := cc
  rw [updateServerRateLimit, if_pos hj, Option.some.injEq]
  dsimp only [ServerView.update, view, setView]
  cases hst : states j <;> dsimp only <;> (try split_ifs) <;> simp [← hst]

theorem signalCongested_eq (cc : CongestionControl) {j : ServerID} (hj : j < kNumMaxServers)
    (now : UInt64) :
    cc.signalCongested j now = some (cc.setView j ((cc.view j).signal now)) := by
  rw [signalCongested, if_pos hj]
  have hstate : (cc.view j).state = cc.states j := rfl
  unfold ServerView.signal
  rw [hstate]
  by_cases hst : cc.states j = .kUnCongested
  · rw [if_pos hst, if_pos hst, updateServerRateLimit_eq _ hj]
    simp [setView, view]
  · rw [if_neg hst, if_neg hst]
    simp [setView, view]

theorem setCongestionState_eq (cc : CongestionControl) {j : ServerID} (hj : j < kNumMaxServers)
    (state : ServerCongestionState) :
    cc.setCongestionState j state = some (cc.setView j ((cc.view j).setState state)) := by
  simp only [setCongestionState, arrayAt?_of_lt _ hj, arraySet?_of_lt _ _ hj, Option.bind_some]
  unfold ServerView.setState
  have hstate : (cc.view j).state = cc.states j := rfl
  rw [hstate]
  by_cases hst : cc.states j = .kInvalid
  · rw [if_neg (not_not.mpr hst), if_neg (not_not.mpr hst)]
    simp [setView, view]
  · rw [if_pos hst, if_pos hst]
    exact congrArg some (setView_view_self cc j).symm

theorem updateOne_eq (cc : CongestionControl) {j : ServerID} (hj : j < kNumMaxServers)
    (now : UInt64) :
    cc.updateOne j now = some (cc.setView j ((cc.view j).update now).reset) := by
  simp only [updateOne, updateServerRateLimit_eq _ hj, Option.bind_some, arraySet?_of_lt _ _ hj,
    Option.map_some, Option.some.injEq]
  simp [setView, ServerView.reset, Function.update_idem]

/-- `UpdateAllServers` is `updateOne` for every registered server. -/
theorem updateOne_lt {cc cc' : CongestionControl} {j : ServerID} {now : UInt64}
    (h : cc.updateOne j now = some cc') : j < kNumMaxServers := by
  by_contra hj
  simp [updateOne, updateServerRateLimit, hj] at h

theorem foldlM_updateOne (now : UInt64) :
    ∀ (l : List ServerID) {cc cc' : CongestionControl},
      l.foldlM (fun cc j => cc.updateOne j now) cc = some cc' →
        cc'.servers = cc.servers ∧
          ∀ s, cc'.view s = if s ∈ l then ((cc.view s).update now).reset else cc.view s
  | [], cc, cc', h => by
    cases h
    exact ⟨rfl, fun s => by simp⟩
  | j :: rest, cc, cc', h => by
    obtain ⟨c₁, h₁, hrest⟩ := Option.bind_eq_some_iff.mp h
    have h₁ : cc.updateOne j now = some c₁ := h₁
    rw [updateOne_eq cc (updateOne_lt h₁)] at h₁
    cases h₁
    obtain ⟨hservers, hview⟩ := foldlM_updateOne now rest hrest
    refine ⟨hservers, fun s => ?_⟩
    rw [hview s, view_setView]
    -- a server listed twice is updated again from `kInvalid`, which changes nothing
    by_cases hs : s = j
    · subst hs
      rw [if_pos List.mem_cons_self, if_pos rfl]
      split_ifs
      · rw [ServerView.update_reset, ServerView.reset_reset]
      · rfl
    · simp [hs]


theorem setCongestionState_lt {cc cc' : CongestionControl} {j : ServerID}
    {state : ServerCongestionState} (h : cc.setCongestionState j state = some cc') :
    j < kNumMaxServers := by
  by_contra hj
  simp [setCongestionState, arrayAt?, hj] at h

theorem signalCongested_lt {cc cc' : CongestionControl} {j : ServerID} {now : UInt64}
    (h : cc.signalCongested j now = some cc') : j < kNumMaxServers := by
  by_contra hj
  simp [signalCongested, hj] at h

/-- `AddServer` only adds to the registered set. -/
theorem view_addServer {cc cc' : CongestionControl} {j : ServerID} {r : Status Unit}
    (h : cc.addServer j = some (r, cc')) (s : ServerID) : cc'.view s = cc.view s := by
  unfold addServer at h
  split_ifs at h <;> cases h <;> rfl

end CongestionControl

/-! ## Steps and runs -/

/-- The steps of the controller: `SignalCongested`, `SetCongestionState`, the worker's
`UpdateAllServers`, and `AddServer`. -/
inductive CCOp where
  | addServer (serverId : ServerID)
  | signalCongested (serverId : ServerID)
  | setCongestionState (serverId : ServerID) (state : ServerCongestionState)
  | updateAllServers
  deriving DecidableEq, Repr

/-- What a step at clock reading `now` does to server `s`'s part, `registered` telling whether
`s` is a registered server. -/
def CCOp.onServer : CCOp → ServerID → Bool → UInt64 → ServerView → ServerView
  | .addServer _, _, _, _, v => v
  | .signalCongested j, s, _, now, v => if s = j then v.signal now else v
  | .setCongestionState j state, s, _, _, v => if s = j then v.setState state else v
  | .updateAllServers, _, registered, now, v => if registered then (v.update now).reset else v

/-! ## The per-server automaton -/

namespace CCOp

variable {v : ServerView} {s : ServerID} {registered : Bool} {now t : UInt64}

/-- **What a step does to server `s`'s part**: it keeps the rate limit and both times (a step
on another server, a state set, an unregistered server), or it is a signal to `s`, or the
worker's update of a registered `s`, which then resets its state. -/
theorem onServer_cases (op : CCOp) (s : ServerID) (registered : Bool) (now : UInt64)
    (v : ServerView) :
    ((op.onServer s registered now v).rate = v.rate ∧
        (op.onServer s registered now v).congestedAt = v.congestedAt ∧
        (op.onServer s registered now v).respondedAt = v.respondedAt) ∨
      (op = .signalCongested s ∧ op.onServer s registered now v = v.signal now) ∨
      (op = .updateAllServers ∧ registered = true ∧
        op.onServer s registered now v = (v.update now).reset) := by
  cases op with
  | addServer => exact .inl ⟨rfl, rfl, rfl⟩
  | signalCongested j =>
    by_cases hs : s = j
    · subst hs
      exact .inr (.inl ⟨rfl, if_pos rfl⟩)
    · exact .inl (by simp [onServer, hs])
  | setCongestionState j state =>
    dsimp only [onServer, ServerView.setState]
    exact .inl (by split_ifs <;> exact ⟨rfl, rfl, rfl⟩)
  | updateAllServers =>
    cases registered
    · exact .inl ⟨rfl, rfl, rfl⟩
    · exact .inr (.inr ⟨rfl, rfl, rfl⟩)

theorem onServer_inRange (op : CCOp) (hv : v.InRange) :
    (op.onServer s registered now v).InRange := by
  rcases onServer_cases op s registered now v with ⟨hrate, -, -⟩ | ⟨-, h⟩ | ⟨-, -, h⟩
  · unfold ServerView.InRange
    rw [hrate]
    exact hv
  · rw [h]
    rcases ServerView.signal_cases v now with h | ⟨-, h⟩ <;> rw [h]
    · exact hv
    · exact ServerView.InRange.update (v := { v with state := .kCongested, congestedAt := now })
        hv now
  · rw [h]
    exact hv.update now

/-- **Where a rate limit falls**: in the fast path of a signal to a `kUnCongested` server, or in
the worker's update of a registered `kCongested` server. -/
theorem onServer_rate_lt (op : CCOp) (hv : v.InRange)
    (h : (op.onServer s registered now v).rate < v.rate) :
    (op = .signalCongested s ∧ v.state = .kUnCongested) ∨
      (op = .updateAllServers ∧ registered = true ∧ v.state = .kCongested) := by
  rcases onServer_cases op s registered now v with ⟨hrate, -, -⟩ | ⟨rfl, he⟩ | ⟨rfl, rfl, he⟩
  · rw [hrate] at h
    exact absurd h (lt_irrefl _)
  · rw [he] at h
    rcases ServerView.signal_cases v now with hsig | ⟨hst, -⟩
    · rw [hsig] at h
      exact absurd h (lt_irrefl _)
    · exact .inl ⟨rfl, hst⟩
  · rw [he] at h
    exact .inr ⟨rfl, rfl, (ServerView.update_rate_lt hv h).1⟩

/-- **Where a rate limit rises**: only in the worker's update of a registered `kUnCongested` or
`kCongestedUnstable` server. -/
theorem onServer_lt_rate (op : CCOp) (hv : v.InRange)
    (h : v.rate < (op.onServer s registered now v).rate) :
    op = .updateAllServers ∧ registered = true ∧
      (v.state = .kUnCongested ∨ v.state = .kCongestedUnstable) := by
  rcases onServer_cases op s registered now v with ⟨hrate, -, -⟩ | ⟨-, he⟩ | ⟨rfl, rfl, he⟩
  · rw [hrate] at h
    exact absurd h (lt_irrefl _)
  · rw [he] at h
    rcases ServerView.signal_cases v now with hsig | ⟨-, hsig⟩ <;> rw [hsig] at h
    · exact absurd h (lt_irrefl _)
    · -- the fast path updates a server it has just marked `kCongested`
      rcases ServerView.update_lt_rate (v := { v with state := .kCongested, congestedAt := now })
        hv h with hst | hst <;> cases hst
  · rw [he] at h
    exact ⟨rfl, rfl, ServerView.update_lt_rate hv h⟩

/-- A step at `now` from times no later than `t ≤ now` leaves times no later than `now`, and
moves the reaction time forward. -/
theorem onServer_clocked (op : CCOp) (hv : v.Clocked t) (ht : t ≤ now) :
    (op.onServer s registered now v).Clocked now ∧
      v.respondedAt ≤ (op.onServer s registered now v).respondedAt := by
  have hnow := hv.mono ht
  rcases onServer_cases op s registered now v with ⟨-, hc, hr⟩ | ⟨-, h⟩ | ⟨-, -, h⟩
  · unfold ServerView.Clocked
    rw [hc, hr]
    exact ⟨hnow, UInt64.le_refl _⟩
  · rw [h]
    have hmark : ({ v with state := .kCongested, congestedAt := now } : ServerView).Clocked now :=
      ⟨UInt64.le_refl _, hnow.2⟩
    rcases ServerView.signal_cases v now with h | ⟨-, h⟩ <;> rw [h]
    · exact ⟨hmark, UInt64.le_refl _⟩
    · exact hmark.update (UInt64.le_refl _)
  · rw [h]
    exact hv.update ht

/-- **A multiplicative decrease is paced**: it records `now`, and it happens at least a
congestion window after the previous reaction. -/
theorem onServer_decrease (op : CCOp) (hv : v.InRange) (hc : v.congestedAt ≤ now)
    (h : (op.onServer s registered now v).rate < v.rate) :
    (op.onServer s registered now v).respondedAt = now ∧
      v.respondedAt.toNat + kCongestionControlWindowUs.toNat ≤ now.toNat := by
  rcases op.onServer_rate_lt hv h with ⟨rfl, hst⟩ | ⟨rfl, rfl, -⟩
  · -- the fast path: the update sees the signal's own reading as the congestion time
    simp only [onServer, if_true, ServerView.signal, hst] at h ⊢
    obtain ⟨-, hw, hr⟩ :=
      ServerView.update_rate_lt (v := { v with state := .kCongested, congestedAt := now }) hv h
    exact ⟨hr, hw⟩
  · simp only [onServer, if_true] at h ⊢
    obtain ⟨-, hw, hr⟩ := ServerView.update_rate_lt hv h
    rw [UInt64.le_iff_toNat_le] at hc
    exact ⟨hr, by omega⟩

end CCOp

namespace CongestionControl

/-- One step at clock reading `now`. -/
def apply (cc : CongestionControl) : CCOp → UInt64 → Option CongestionControl
  | .addServer j, _ => (cc.addServer j).map Prod.snd
  | .signalCongested j, now => cc.signalCongested j now
  | .setCongestionState j state, _ => cc.setCongestionState j state
  | .updateAllServers, now => cc.updateAllServers now

/-- A run: the steps one after the other, each with its clock reading. -/
def run (cc : CongestionControl) (ops : List (CCOp × UInt64)) : Option CongestionControl :=
  ops.foldlM (fun cc op => cc.apply op.1 op.2) cc

/-- **One step, seen from one server**: the controller is the product of the per-server
automata `CCOp.onServer`. -/
theorem view_apply {cc cc' : CongestionControl} {op : CCOp} {now : UInt64}
    (h : cc.apply op now = some cc') (s : ServerID) :
    cc'.view s = op.onServer s (decide (s ∈ cc.servers)) now (cc.view s) := by
  cases op with
  | addServer j =>
    obtain ⟨⟨r, c⟩, hadd, rfl⟩ := Option.map_eq_some_iff.mp h
    exact view_addServer hadd s
  | signalCongested j =>
    have h : cc.signalCongested j now = some cc' := h
    rw [signalCongested_eq cc (signalCongested_lt h)] at h
    cases h
    by_cases hs : s = j
    · subst hs
      simp [CCOp.onServer]
    · simp [CCOp.onServer, hs]
  | setCongestionState j state =>
    have h : cc.setCongestionState j state = some cc' := h
    rw [setCongestionState_eq cc (setCongestionState_lt h)] at h
    cases h
    by_cases hs : s = j
    · subst hs
      simp [CCOp.onServer]
    · simp [CCOp.onServer, hs]
  | updateAllServers =>
    obtain ⟨-, hview⟩ := foldlM_updateOne now cc.servers h
    simp [CCOp.onServer, hview s]

theorem run_cons (cc : CongestionControl) (op : CCOp) (now : UInt64) (ops : List (CCOp × UInt64)) :
    cc.run ((op, now) :: ops) = (cc.apply op now).bind fun cc => cc.run ops := rfl

/-- The rate limits stay in range along every run. -/
theorem run_inRange :
    ∀ (ops : List (CCOp × UInt64)) {cc cc' : CongestionControl}, (∀ s, (cc.view s).InRange) →
      cc.run ops = some cc' → ∀ s, (cc'.view s).InRange
  | [], _, _, hv, h => by
    cases h
    exact hv
  | (op, now) :: ops, cc, cc', hv, h => by
    rw [run_cons] at h
    obtain ⟨c₁, h₁, hrest⟩ := Option.bind_eq_some_iff.mp h
    refine run_inRange ops (fun s => ?_) hrest
    rw [view_apply h₁ s]
    exact op.onServer_inRange (hv s)

/-- Along a run whose clock readings do not decrease and start at `t` or later, every time
stays a reading no later than the last one, and every reaction time moves forward. -/
theorem run_clocked :
    ∀ (ops : List (CCOp × UInt64)) {cc cc' : CongestionControl} {t : UInt64},
      (∀ s, (cc.view s).Clocked t) → (ops.map Prod.snd).Pairwise (· ≤ ·) →
      (∀ p ∈ ops, t ≤ p.2) → cc.run ops = some cc' →
      ∀ t', t ≤ t' → (∀ p ∈ ops, p.2 ≤ t') →
        ∀ s, (cc'.view s).Clocked t' ∧ (cc.view s).respondedAt ≤ (cc'.view s).respondedAt
  | [], _, _, _, hv, _, _, h, t', ht', _, s => by
    cases h
    exact ⟨(hv s).mono ht', UInt64.le_refl _⟩
  | (op, now) :: ops, cc, cc', t, hv, hsorted, hge, h, t', ht', hle, s => by
    rw [run_cons] at h
    obtain ⟨c₁, h₁, hrest⟩ := Option.bind_eq_some_iff.mp h
    rw [List.map_cons, List.pairwise_cons] at hsorted
    have hnow : t ≤ now := hge (op, now) List.mem_cons_self
    -- after the first step every time is a reading no later than `now`
    have hstep : ∀ s, (c₁.view s).Clocked now ∧ (cc.view s).respondedAt ≤ (c₁.view s).respondedAt :=
      fun s => view_apply h₁ s ▸ op.onServer_clocked (hv s) hnow
    obtain ⟨hclock, hmono⟩ := run_clocked ops (fun s => (hstep s).1) hsorted.2
      (fun p hp => hsorted.1 p.2 (List.mem_map_of_mem hp)) hrest t'
      (hle (op, now) List.mem_cons_self) (fun p hp => hle p (List.mem_cons_of_mem _ hp)) s
    exact ⟨hclock, UInt64.le_trans (hstep s).2 hmono⟩

theorem view_init (s : ServerID) :
    (init.view s).InRange ∧ ∀ t, (init.view s).Clocked t := by
  refine ⟨⟨by norm_num [init, view, kBestCongestedRateLimit, kBestUncongestedRateLimit],
    le_refl _⟩, fun t => ?_⟩
  simp only [ServerView.Clocked, init, view, UInt64.le_iff_toNat_le, UInt64.toNat_zero]
  exact ⟨Nat.zero_le _, Nat.zero_le _⟩

/-- **Rate limits stay in `[0.001, 1]`.** -/
theorem run_rate_mem {ops : List (CCOp × UInt64)} {cc : CongestionControl}
    (h : init.run ops = some cc) (s : ServerID) :
    kBestCongestedRateLimit ≤ cc.ccRateLimits s ∧ cc.ccRateLimits s ≤ kBestUncongestedRateLimit :=
  run_inRange ops (fun s => (view_init s).1) h s

/-- **Rate limits move only in updates**: after any run, a step lowers a server's rate limit only
in a fast-path signal to a `kUnCongested` server or the worker's update of a registered
`kCongested` one, and raises it only in the worker's update of a registered `kUnCongested` or
`kCongestedUnstable` one. -/
theorem apply_rate_lt_iff {ops : List (CCOp × UInt64)} {cc cc' : CongestionControl} {op : CCOp}
    {now : UInt64} (hrun : init.run ops = some cc) (h : cc.apply op now = some cc') (s : ServerID) :
    (cc'.ccRateLimits s < cc.ccRateLimits s →
      (op = .signalCongested s ∧ cc.states s = .kUnCongested) ∨
        (op = .updateAllServers ∧ s ∈ cc.servers ∧ cc.states s = .kCongested)) ∧
    (cc.ccRateLimits s < cc'.ccRateLimits s →
      op = .updateAllServers ∧ s ∈ cc.servers ∧
        (cc.states s = .kUnCongested ∨ cc.states s = .kCongestedUnstable)) := by
  have hv : (cc.view s).InRange := run_inRange ops (fun s => (view_init s).1) hrun s
  have hrate : cc'.ccRateLimits s =
      (op.onServer s (decide (s ∈ cc.servers)) now (cc.view s)).rate := by
    rw [← view_apply h s]
    rfl
  refine ⟨fun hlt => ?_, fun hlt => ?_⟩
  · rw [hrate] at hlt
    simpa using op.onServer_rate_lt hv hlt
  · rw [hrate] at hlt
    simpa using op.onServer_lt_rate hv hlt

/-- **Two multiplicative decreases of one server are a congestion window apart**: in a run whose
clock readings do not decrease, if the steps at `t₁` and then at `t₂` both lower server `s`'s
rate limit, then `t₁ + kCongestionControlWindowUs ≤ t₂`. -/
theorem run_decrease_le {ops₁ ops₂ : List (CCOp × UInt64)} {op₁ op₂ : CCOp} {t₁ t₂ : UInt64}
    {c₁ c₂ c₃ c₄ : CongestionControl} {s : ServerID}
    (hsorted : ((ops₁ ++ (op₁, t₁) :: ops₂ ++ [(op₂, t₂)]).map Prod.snd).Pairwise (· ≤ ·))
    (h₁ : init.run ops₁ = some c₁) (h₂ : c₁.apply op₁ t₁ = some c₂)
    (hd₁ : c₂.ccRateLimits s < c₁.ccRateLimits s) (h₃ : c₂.run ops₂ = some c₃)
    (h₄ : c₃.apply op₂ t₂ = some c₄) (hd₂ : c₄.ccRateLimits s < c₃.ccRateLimits s) :
    t₁.toNat + kCongestionControlWindowUs.toNat ≤ t₂.toNat := by
  rw [List.map_append, List.map_append, List.map_cons, List.pairwise_append, List.pairwise_append,
    List.pairwise_cons] at hsorted
  obtain ⟨⟨hA, ⟨ht₁B, hB⟩, hAt⟩, -, hlast⟩ := hsorted
  have hlast : ∀ a ∈ ops₁.map Prod.snd ++ t₁ :: ops₂.map Prod.snd, a ≤ t₂ := fun a ha =>
    hlast a ha t₂ (by simp)
  have ht₁t₂ : t₁ ≤ t₂ := hlast t₁ (by simp)
  -- before the first decrease every time is a reading no later than `t₁`
  have hclock₁ : ∀ s, (c₁.view s).Clocked t₁ := fun s =>
    (run_clocked ops₁ (fun s => (view_init s).2 0) hA
      (fun p _ => UInt64.le_iff_toNat_le.mpr (Nat.zero_le _)) h₁ t₁
      (UInt64.le_iff_toNat_le.mpr (Nat.zero_le _))
      (fun p hp => hAt p.2 (List.mem_map_of_mem hp) t₁ List.mem_cons_self) s).1
  have hin₁ : ∀ s, (c₁.view s).InRange := run_inRange ops₁ (fun s => (view_init s).1) h₁
  -- the first decrease records `t₁` as the reaction time
  have hd₁' : (op₁.onServer s (decide (s ∈ c₁.servers)) t₁ (c₁.view s)).rate < (c₁.view s).rate := by
    rw [← view_apply h₂ s]
    exact hd₁
  have hreact : (c₂.view s).respondedAt = t₁ := by
    rw [view_apply h₂ s]
    exact (op₁.onServer_decrease (hin₁ s) (hclock₁ s).1 hd₁').1
  have hclock₂ : ∀ s, (c₂.view s).Clocked t₁ := fun s =>
    view_apply h₂ s ▸ (op₁.onServer_clocked (hclock₁ s) (UInt64.le_refl _)).1
  have hin₂ : ∀ s, (c₂.view s).InRange := fun s =>
    view_apply h₂ s ▸ op₁.onServer_inRange (hin₁ s)
  -- between the two, the reaction time only moves forward
  obtain ⟨hclock₃, hmono⟩ := run_clocked ops₂ hclock₂ hB (fun p hp => ht₁B p.2 (List.mem_map_of_mem hp))
    h₃ t₂ ht₁t₂
    (fun p hp => hlast p.2 (List.mem_append_right _ (List.mem_cons_of_mem _ (List.mem_map_of_mem hp)))) s
  have hin₃ : (c₃.view s).InRange := run_inRange ops₂ hin₂ h₃ s
  -- the second decrease comes a window after the reaction time
  have hd₂' : (op₂.onServer s (decide (s ∈ c₃.servers)) t₂ (c₃.view s)).rate < (c₃.view s).rate := by
    rw [← view_apply h₄ s]
    exact hd₂
  have hwindow := (op₂.onServer_decrease hin₃ hclock₃.1 hd₂').2
  rw [hreact, UInt64.le_iff_toNat_le] at hmono
  omega

/-- **Congestion control stays bounded and paced.** Over every run of `AddServer`,
`SignalCongested`, `SetCongestionState` and `UpdateAllServers` from the constructor: every rate
limit stays in `[kBestCongestedRateLimit, kBestUncongestedRateLimit]`; a step lowers a server's
rate limit only in an update of it in state `kCongested` (the fast path of `SignalCongested`
from `kUnCongested`, or the worker's update of a registered `kCongested` server) and raises it
only in the worker's update of a registered `kUnCongested` or `kCongestedUnstable` server; and
when the clock readings do not decrease, two decreases of one server are at least
`kCongestionControlWindowUs` apart. -/
theorem congestionControl_aimd :
    (∀ (ops : List (CCOp × UInt64)) (cc : CongestionControl), init.run ops = some cc →
      ∀ s, kBestCongestedRateLimit ≤ cc.ccRateLimits s ∧
        cc.ccRateLimits s ≤ kBestUncongestedRateLimit) ∧
    (∀ (ops : List (CCOp × UInt64)) (cc cc' : CongestionControl) (op : CCOp) (now : UInt64),
      init.run ops = some cc → cc.apply op now = some cc' → ∀ s,
        (cc'.ccRateLimits s < cc.ccRateLimits s →
          (op = .signalCongested s ∧ cc.states s = .kUnCongested) ∨
            (op = .updateAllServers ∧ s ∈ cc.servers ∧ cc.states s = .kCongested)) ∧
        (cc.ccRateLimits s < cc'.ccRateLimits s →
          op = .updateAllServers ∧ s ∈ cc.servers ∧
            (cc.states s = .kUnCongested ∨ cc.states s = .kCongestedUnstable))) ∧
    (∀ (ops₁ ops₂ : List (CCOp × UInt64)) (op₁ op₂ : CCOp) (t₁ t₂ : UInt64)
      (c₁ c₂ c₃ c₄ : CongestionControl) (s : ServerID),
      ((ops₁ ++ (op₁, t₁) :: ops₂ ++ [(op₂, t₂)]).map Prod.snd).Pairwise (· ≤ ·) →
      init.run ops₁ = some c₁ → c₁.apply op₁ t₁ = some c₂ →
      c₂.ccRateLimits s < c₁.ccRateLimits s → c₂.run ops₂ = some c₃ →
      c₃.apply op₂ t₂ = some c₄ → c₄.ccRateLimits s < c₃.ccRateLimits s →
      t₁.toNat + kCongestionControlWindowUs.toNat ≤ t₂.toNat) :=
  ⟨fun _ _ h s => run_rate_mem h s, fun _ _ _ _ _ hrun h s => apply_rate_lt_iff hrun h s,
    fun _ _ _ _ _ _ _ _ _ _ _ hsorted h₁ h₂ hd₁ h₃ h₄ hd₂ =>
      run_decrease_le hsorted h₁ h₂ hd₁ h₃ h₄ hd₂⟩

/-- A paced run of server `1`: a signal at `60 ms` halves its rate limit at once; the worker's
update at `70 ms` finds no new signal, and its update at `130 ms`, after a second signal at
`120 ms`, halves the rate again, a window later. -/
theorem congestionControl_aimd_paced :
    ∃ c₁ c₂ c₃ c₄ : CongestionControl,
      (([(.addServer 1, 0)] ++ (.signalCongested 1, 60000) ::
          [(.updateAllServers, 70000), (.signalCongested 1, 120000)] ++
          [(.updateAllServers, 130000)] : List (CCOp × UInt64)).map Prod.snd).Pairwise (· ≤ ·) ∧
      init.run [(.addServer 1, 0)] = some c₁ ∧ c₁.apply (.signalCongested 1) 60000 = some c₂ ∧
      c₂.ccRateLimits 1 < c₁.ccRateLimits 1 ∧
      c₂.run [(.updateAllServers, 70000), (.signalCongested 1, 120000)] = some c₃ ∧
      c₃.apply .updateAllServers 130000 = some c₄ ∧ c₄.ccRateLimits 1 < c₃.ccRateLimits 1 ∧
      (60000 : UInt64).toNat + kCongestionControlWindowUs.toNat ≤ (130000 : UInt64).toNat := by
  have hsorted : (([(.addServer 1, 0)] ++ (.signalCongested 1, 60000) ::
      [(.updateAllServers, 70000), (.signalCongested 1, 120000)] ++
      [(.updateAllServers, 130000)] : List (CCOp × UInt64)).map Prod.snd).Pairwise (· ≤ ·) := by
    decide
  -- the four states are those the run computes; each step is shown to succeed first
  have h₁ : (init.run [(.addServer 1, 0)]).isSome := by decide +kernel
  have h₂ : (((init.run [(.addServer 1, 0)]).get h₁).apply (.signalCongested 1) 60000).isSome := by
    decide +revert +kernel
  have h₃ : ((((init.run [(.addServer 1, 0)]).get h₁).apply (.signalCongested 1) 60000).get h₂
      |>.run [(.updateAllServers, 70000), (.signalCongested 1, 120000)]).isSome := by
    decide +revert +kernel
  have h₄ : (((((init.run [(.addServer 1, 0)]).get h₁).apply (.signalCongested 1) 60000).get h₂
      |>.run [(.updateAllServers, 70000), (.signalCongested 1, 120000)]).get h₃
      |>.apply .updateAllServers 130000).isSome := by
    decide +revert +kernel
  have hd₁ : ((((init.run [(.addServer 1, 0)]).get h₁).apply (.signalCongested 1) 60000).get
      h₂).ccRateLimits 1 < ((init.run [(.addServer 1, 0)]).get h₁).ccRateLimits 1 := by
    decide +revert +kernel
  have hd₂ : ((((((init.run [(.addServer 1, 0)]).get h₁).apply (.signalCongested 1) 60000).get h₂
      |>.run [(.updateAllServers, 70000), (.signalCongested 1, 120000)]).get h₃
      |>.apply .updateAllServers 130000).get h₄).ccRateLimits 1 <
      (((((init.run [(.addServer 1, 0)]).get h₁).apply (.signalCongested 1) 60000).get h₂
      |>.run [(.updateAllServers, 70000), (.signalCongested 1, 120000)]).get h₃).ccRateLimits 1 := by
    decide +revert +kernel
  exact ⟨_, _, _, _, hsorted, (Option.some_get h₁).symm, (Option.some_get h₂).symm, hd₁,
    (Option.some_get h₃).symm, (Option.some_get h₄).symm, hd₂,
    congestionControl_aimd.2.2 _ _ _ _ _ _ _ _ _ _ 1 hsorted (Option.some_get h₁).symm
      (Option.some_get h₂).symm hd₁ (Option.some_get h₃).symm (Option.some_get h₄).symm hd₂⟩

end CongestionControl

end Sandook.DataPlane
