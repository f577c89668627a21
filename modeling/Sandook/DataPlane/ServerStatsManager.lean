import Sandook.DataPlane.CongestionControl

/-!
# The client's view of the servers (`scheduler/data_plane/server_stats_manager.h`)

Model of `data_plane::ServerStatsManager`: the registered ids (`servers_`, a `std::set`, kept as
a list without duplicates), the committed mode and the read and write weight of every id as the
controller last sent them (`SetServerStats`), and the congestion controller whose rate limits
scale the weights. The schedulers select from the arrays `GetReadOnlyWeights`,
`GetAllReadWeights` and `GetWriteWeights` return.

* `modes_` has no initialiser: before the first `SetServerStats` its contents are an arbitrary
  `garbage`. Both weight arrays start at the sentinel `kInvalidServerWeight`.
* The build defines `NDEBUG`, so the `assert` of `SetServerStats` checks nothing; a run
  (`Reachable`) passes it registered ids only, as the assertion asks of its caller.
* `.at` past the arrays ends the call (`none`). The statistics logger only reads.

Results:
* `Reachable.wellFormed`: after every run the registered ids are distinct and below
  `kNumMaxServers`, and every other id keeps the sentinel in both weight arrays.
* `rateLimit_eq`, `filterByMode_eq`, `getWriteWeights_eq`: the arrays the schedulers select from,
  in closed form.
-/

namespace Sandook.DataPlane

/-- `kMinReadServers`. -/
def kMinReadServers : ℕ := 1

/-- The state of `data_plane::ServerStatsManager`. -/
structure ServerStatsManager where
  servers : List ServerID
  modes : ServerModes
  readWeights : ServerWeights
  writeWeights : ServerWeights
  cc : CongestionControl

namespace ServerStatsManager

/-- The constructor; `modes_` holds `garbage`. -/
def init (garbage : ServerModes) : ServerStatsManager :=
  ⟨[], garbage, initServerWeights, initServerWeights, CongestionControl.init⟩

/-- `AddServer`: `EALREADY` for a registered id; otherwise the id joins `servers_`, then the
congestion controller. -/
def addServer (m : ServerStatsManager) (serverId : ServerID) :
    Option (Status Unit × ServerStatsManager) :=
  if serverId ∈ m.servers then some (.error EALREADY, m)
  else (m.cc.addServer serverId).map fun r =>
    (r.1, { m with servers := m.servers.insert serverId, cc := r.2 })

/-- `SignalCongested`. -/
def signalCongested (m : ServerStatsManager) (serverId : ServerID) (now : UInt64) :
    Option ServerStatsManager :=
  (m.cc.signalCongested serverId now).map fun cc => { m with cc := cc }

/-- `SetCongestionState`. -/
def setCongestionState (m : ServerStatsManager) (serverId : ServerID)
    (state : ServerCongestionState) : Option ServerStatsManager :=
  (m.cc.setCongestionState serverId state).map fun cc => { m with cc := cc }

/-- The congestion controller's worker thread: one `UpdateAllServers`. -/
def updateAllServers (m : ServerStatsManager) (now : UInt64) : Option ServerStatsManager :=
  (m.cc.updateAllServers now).map fun cc => { m with cc := cc }

/-- One record of `SetServerStats`: its committed mode and weights, then its congestion state. -/
def setOneServerStats (m : ServerStatsManager) (srv : ServerStats) : Option ServerStatsManager :=
  (arraySet? m.modes srv.serverId srv.committedMode).bind fun modes =>
    (arraySet? m.readWeights srv.serverId srv.readWeight).bind fun readWeights =>
      (arraySet? m.writeWeights srv.serverId srv.writeWeight).bind fun writeWeights =>
        let m' := { m with modes := modes, readWeights := readWeights,
                           writeWeights := writeWeights }
        m'.setCongestionState srv.serverId srv.congestionState

/-- `SetServerStats` (its `Status` is always a success). -/
def setServerStats (m : ServerStatsManager) (servers : ServerStatsList) :
    Option ServerStatsManager :=
  servers.foldlM setOneServerStats m

/-- One iteration of the rate-limiting loop:
`weights.at(server_id) *= cc_->GetRateLimit(server_id)`. -/
def rateLimitOne (cc : CongestionControl) (w : ServerWeights) (serverId : ServerID) :
    Option ServerWeights :=
  (cc.getRateLimit serverId).bind fun limit =>
    (arrayAt? w serverId).bind fun cur => arraySet? w serverId (cur * limit)

/-- The loop of `GetRateLimitedReadWeights` and `GetRateLimitedWriteWeights`. -/
def rateLimit (m : ServerStatsManager) (weights : ServerWeights) : Option ServerWeights :=
  m.servers.foldlM (rateLimitOne m.cc) weights

/-- `GetRateLimitedReadWeights`. -/
def getRateLimitedReadWeights (m : ServerStatsManager) : Option ServerWeights :=
  m.rateLimit m.readWeights

/-- `GetRateLimitedWriteWeights`. -/
def getRateLimitedWriteWeights (m : ServerStatsManager) : Option ServerWeights :=
  m.rateLimit m.writeWeights

/-- One iteration of the filtering loop: a registered id whose mode passes `keep` is counted
and its weight copied. -/
def filterOne (modes : ServerModes) (all : ServerWeights) (keep : ServerMode → Bool)
    (acc : ServerWeights × ℕ) (serverId : ServerID) : Option (ServerWeights × ℕ) :=
  (arrayAt? modes serverId).bind fun mode =>
    if keep mode then
      (arrayAt? all serverId).bind fun v =>
        (arraySet? acc.1 serverId v).map fun w => (w, acc.2 + 1)
    else some acc

/-- Step 1 of `GetReadOnlyWeights` and `GetWriteWeights`: the weights of the registered ids
whose mode passes `keep`, in a sentinel-filled array, if there are at least `minFound` of them;
otherwise (step 2) all the weights. -/
def filterByMode (m : ServerStatsManager) (all : ServerWeights) (keep : ServerMode → Bool)
    (minFound : ℕ) : Option ServerWeights :=
  (m.servers.foldlM (filterOne m.modes all keep) (initServerWeights, 0)).map fun acc =>
    if minFound ≤ acc.2 then acc.1 else all

/-- `GetReadOnlyWeights`: the servers in `kRead` mode, if there is one. -/
def getReadOnlyWeights (m : ServerStatsManager) : Option ServerWeights :=
  m.getRateLimitedReadWeights.bind fun all =>
    m.filterByMode all (fun mode => decide (mode = .kRead)) kMinReadServers

/-- `GetAllReadWeights`. -/
def getAllReadWeights (m : ServerStatsManager) : Option ServerWeights :=
  m.getRateLimitedReadWeights

/-- `GetWriteWeights`: the servers not in `kRead` mode, if there are `kNumReplicas` of them. -/
def getWriteWeights (m : ServerStatsManager) : Option ServerWeights :=
  m.getRateLimitedWriteWeights.bind fun all =>
    m.filterByMode all (fun mode => decide (mode ≠ .kRead)) kNumReplicas

/-! ## Runs and their invariant -/

/-- The states a run reaches: the constructor, then any sequence of the public operations and
worker steps; `SetServerStats` is given registered ids only. -/
inductive Reachable : ServerStatsManager → Prop
  | init (garbage : ServerModes) : Reachable (init garbage)
  | addServer {m m' : ServerStatsManager} {serverId : ServerID} {ret : Status Unit} :
      Reachable m → m.addServer serverId = some (ret, m') → Reachable m'
  | setServerStats {m m' : ServerStatsManager} {servers : ServerStatsList} :
      Reachable m → (∀ srv ∈ servers, srv.serverId ∈ m.servers) →
      m.setServerStats servers = some m' → Reachable m'
  | signalCongested {m m' : ServerStatsManager} {serverId : ServerID} {now : UInt64} :
      Reachable m → m.signalCongested serverId now = some m' → Reachable m'
  | setCongestionState {m m' : ServerStatsManager} {serverId : ServerID}
      {state : ServerCongestionState} :
      Reachable m → m.setCongestionState serverId state = some m' → Reachable m'
  | updateAllServers {m m' : ServerStatsManager} {now : UInt64} :
      Reachable m → m.updateAllServers now = some m' → Reachable m'

/-- The invariant of every run: registered ids are a set of valid indices, and only they have
ever had a weight stored. -/
structure WellFormed (m : ServerStatsManager) : Prop where
  nodup : m.servers.Nodup
  lt : ∀ serverId ∈ m.servers, serverId < kNumMaxServers
  readUnregistered : ∀ serverId, serverId ∉ m.servers →
    m.readWeights serverId = kInvalidServerWeight
  writeUnregistered : ∀ serverId, serverId ∉ m.servers →
    m.writeWeights serverId = kInvalidServerWeight

variable {m m' : ServerStatsManager}

theorem wellFormed_init (garbage : ServerModes) : (init garbage).WellFormed :=
  ⟨List.nodup_nil, fun _ h => absurd h List.not_mem_nil, fun _ _ => rfl, fun _ _ => rfl⟩

/-- The invariant does not look at the congestion controller. -/
theorem wellFormed_with_cc (h : m.WellFormed) (cc : CongestionControl) :
    { m with cc := cc }.WellFormed :=
  ⟨h.nodup, h.lt, h.readUnregistered, h.writeUnregistered⟩

theorem addServer_wellFormed {serverId : ServerID} {ret : Status Unit}
    (h : m.WellFormed) (hadd : m.addServer serverId = some (ret, m')) : m'.WellFormed := by
  unfold addServer at hadd
  split at hadd
  · cases hadd
    exact h
  · rename_i hnew
    obtain ⟨r, hcc, hr⟩ := Option.map_eq_some_iff.mp hadd
    cases hr
    have hlt : serverId < kNumMaxServers := by
      unfold CongestionControl.addServer at hcc
      split at hcc
      · assumption
      · cases hcc
    have hins : m.servers.insert serverId = serverId :: m.servers := List.insert_of_not_mem hnew
    refine ⟨?_, ?_, ?_, ?_⟩
    · rw [hins]
      exact List.nodup_cons.mpr ⟨hnew, h.nodup⟩
    · intro i hi
      rw [hins, List.mem_cons] at hi
      rcases hi with rfl | hi
      · exact hlt
      · exact h.lt i hi
    · intro i hi
      exact h.readUnregistered i fun hm => hi (List.mem_insert_of_mem hm)
    · intro i hi
      exact h.writeUnregistered i fun hm => hi (List.mem_insert_of_mem hm)

/-- A record of a registered server stores its weights at a registered index only. -/
theorem setOneServerStats_wellFormed {srv : ServerStats} (h : m.WellFormed)
    (hreg : srv.serverId ∈ m.servers) (hset : m.setOneServerStats srv = some m') :
    m'.WellFormed ∧ m'.servers = m.servers := by
  have hlt := h.lt _ hreg
  unfold setOneServerStats setCongestionState at hset
  simp only [arraySet?_of_lt _ _ hlt, Option.bind_some] at hset
  obtain ⟨cc, -, rfl⟩ := Option.map_eq_some_iff.mp hset
  refine ⟨⟨h.nodup, h.lt, ?_, ?_⟩, rfl⟩
  · intro i hi
    have hne : i ≠ srv.serverId := fun he => hi (he ▸ hreg)
    simp only [Function.update_of_ne hne]
    exact h.readUnregistered i hi
  · intro i hi
    have hne : i ≠ srv.serverId := fun he => hi (he ▸ hreg)
    simp only [Function.update_of_ne hne]
    exact h.writeUnregistered i hi

theorem setServerStats_wellFormed :
    ∀ {m m' : ServerStatsManager} {servers : ServerStatsList}, m.WellFormed →
      (∀ srv ∈ servers, srv.serverId ∈ m.servers) → m.setServerStats servers = some m' →
      m'.WellFormed
  | m, m', [], h, _, hset => by
    cases hset
    exact h
  | m, m', srv :: rest, h, hreg, hset => by
    unfold setServerStats at hset
    rw [List.foldlM_cons] at hset
    obtain ⟨m₁, h₁, hrest⟩ := Option.bind_eq_some_iff.mp hset
    obtain ⟨hwf₁, hservers⟩ := setOneServerStats_wellFormed h (hreg srv List.mem_cons_self) h₁
    refine setServerStats_wellFormed hwf₁ ?_ hrest
    intro s hs
    rw [hservers]
    exact hreg s (List.mem_cons_of_mem _ hs)

/-- **The invariant holds after every run.** -/
theorem Reachable.wellFormed (hr : m.Reachable) : m.WellFormed := by
  induction hr with
  | init garbage => exact wellFormed_init garbage
  | addServer _ hadd ih => exact addServer_wellFormed ih hadd
  | setServerStats _ hreg hset ih => exact setServerStats_wellFormed ih hreg hset
  | signalCongested _ hstep ih =>
    obtain ⟨cc, -, rfl⟩ := Option.map_eq_some_iff.mp hstep
    exact wellFormed_with_cc ih cc
  | setCongestionState _ hstep ih =>
    obtain ⟨cc, -, rfl⟩ := Option.map_eq_some_iff.mp hstep
    exact wellFormed_with_cc ih cc
  | updateAllServers _ hstep ih =>
    obtain ⟨cc, -, rfl⟩ := Option.map_eq_some_iff.mp hstep
    exact wellFormed_with_cc ih cc

/-! ## The weights the schedulers select from -/

/-- The rate-limiting loop over distinct valid ids scales each of them once. -/
theorem foldlM_rateLimitOne (cc : CongestionControl) :
    ∀ (l : List ServerID) (w : ServerWeights), l.Nodup → (∀ i ∈ l, i < kNumMaxServers) →
      l.foldlM (rateLimitOne cc) w =
        some fun i => if i ∈ l then w i * cc.ccRateLimits i else w i
  | [], w, _, _ => by simp
  | j :: rest, w, hnd, hlt => by
    have hj : j < kNumMaxServers := hlt j List.mem_cons_self
    obtain ⟨hjrest, hnd'⟩ := List.nodup_cons.mp hnd
    have hstep : rateLimitOne cc w j = some (Function.update w j (w j * cc.ccRateLimits j)) := by
      simp [rateLimitOne, CongestionControl.getRateLimit, arrayAt?_of_lt _ hj,
        arraySet?_of_lt _ _ hj]
    rw [List.foldlM_cons, Option.bind_eq_bind, hstep, Option.bind_some,
      foldlM_rateLimitOne cc rest _ hnd' fun i hi => hlt i (List.mem_cons_of_mem _ hi)]
    congr 1
    funext i
    by_cases hij : i = j
    · subst hij
      simp [hjrest]
    · simp [hij]

/-- **Rate limiting** scales the weight of every registered id by its rate limit. -/
theorem rateLimit_eq (h : m.WellFormed) (weights : ServerWeights) :
    m.rateLimit weights =
      some fun i => if i ∈ m.servers then weights i * m.cc.ccRateLimits i else weights i :=
  foldlM_rateLimitOne m.cc m.servers weights h.nodup h.lt

/-- One iteration of the filtering loop on a valid id copies its weight and counts it when its
mode passes. -/
theorem filterOne_of_lt (modes : ServerModes) (all : ServerWeights) (keep : ServerMode → Bool)
    {j : ServerID} (hj : j < kNumMaxServers) (w : ServerWeights) (c : ℕ) :
    filterOne modes all keep (w, c) j =
      some (fun i => if i = j ∧ keep (modes j) then all j else w i,
        c + if keep (modes j) then 1 else 0) := by
  by_cases hk : keep (modes j)
  · simp only [filterOne, arrayAt?_of_lt _ hj, hk, if_true, Option.bind_some,
      arraySet?_of_lt _ _ hj, Option.map_some, and_true]
    congr 2
    funext i
    rw [Function.update_apply]
  · simp [filterOne, arrayAt?_of_lt _ hj, hk]

/-- The filtering loop copies the weight of every listed id whose mode passes, and counts them. -/
theorem foldlM_filterOne (modes : ServerModes) (all : ServerWeights) (keep : ServerMode → Bool) :
    ∀ (l : List ServerID) (w : ServerWeights) (c : ℕ), (∀ i ∈ l, i < kNumMaxServers) →
      l.foldlM (filterOne modes all keep) (w, c) =
        some (fun i => if i ∈ l ∧ keep (modes i) then all i else w i,
          c + (l.filter fun i => keep (modes i)).length)
  | [], w, c, _ => by simp
  | j :: rest, w, c, hlt => by
    have hj : j < kNumMaxServers := hlt j List.mem_cons_self
    have hrest : ∀ i ∈ rest, i < kNumMaxServers := fun i hi => hlt i (List.mem_cons_of_mem _ hi)
    rw [List.foldlM_cons, Option.bind_eq_bind, filterOne_of_lt modes all keep hj, Option.bind_some,
      foldlM_filterOne modes all keep rest _ _ hrest]
    congr 2
    · -- the weight of `j` is copied by its own iteration or not at all
      funext i
      by_cases hij : i = j
      · subst hij
        by_cases hk : keep (modes i) <;> simp [hk]
      · simp [hij]
    · by_cases hk : keep (modes j) <;> simp [hk]
      omega

/-- Filtering by mode needs only that the registered ids index the arrays. -/
theorem filterByMode_eq_of_lt (hlt : ∀ i ∈ m.servers, i < kNumMaxServers) (all : ServerWeights)
    (keep : ServerMode → Bool) (minFound : ℕ) :
    m.filterByMode all keep minFound =
      some (if minFound ≤ (m.servers.filter fun i => keep (m.modes i)).length then
        fun i => if i ∈ m.servers ∧ keep (m.modes i) then all i else kInvalidServerWeight
      else all) := by
  unfold filterByMode
  rw [foldlM_filterOne m.modes all keep m.servers _ _ hlt, Option.map_some, Nat.zero_add]
  rfl

/-- **Filtering by mode**: the weights of the registered ids whose mode passes, over the
sentinel, when there are at least `minFound` of them; all the weights otherwise. -/
theorem filterByMode_eq (h : m.WellFormed) (all : ServerWeights) (keep : ServerMode → Bool)
    (minFound : ℕ) :
    m.filterByMode all keep minFound =
      some (if minFound ≤ (m.servers.filter fun i => keep (m.modes i)).length then
        fun i => if i ∈ m.servers ∧ keep (m.modes i) then all i else kInvalidServerWeight
      else all) :=
  filterByMode_eq_of_lt h.lt all keep minFound

/-- The rate-limiting loop returns over ids that index the arrays. -/
theorem foldlM_rateLimitOne_isSome (cc : CongestionControl) :
    ∀ (l : List ServerID) (w : ServerWeights), (∀ i ∈ l, i < kNumMaxServers) →
      (l.foldlM (rateLimitOne cc) w).isSome
  | [], _, _ => rfl
  | j :: rest, w, hlt => by
    have hj : j < kNumMaxServers := hlt j List.mem_cons_self
    have hstep : rateLimitOne cc w j = some (Function.update w j (w j * cc.ccRateLimits j)) := by
      simp [rateLimitOne, CongestionControl.getRateLimit, arrayAt?_of_lt _ hj,
        arraySet?_of_lt _ _ hj]
    rw [List.foldlM_cons, Option.bind_eq_bind, hstep, Option.bind_some]
    exact foldlM_rateLimitOne_isSome cc rest _ fun i hi => hlt i (List.mem_cons_of_mem _ hi)

/-- **The read-only weights**: over the rate-limited read weights `all`, those of the registered
servers in `kRead` mode if there is one, all of them otherwise. -/
theorem getReadOnlyWeights_eq (hlt : ∀ i ∈ m.servers, i < kNumMaxServers) {all : ServerWeights}
    (hall : m.getRateLimitedReadWeights = some all) :
    m.getReadOnlyWeights =
      some (if kMinReadServers ≤ (m.servers.filter fun i => decide (m.modes i = .kRead)).length
        then fun i => if i ∈ m.servers ∧ m.modes i = .kRead then all i else kInvalidServerWeight
        else all) := by
  rw [getReadOnlyWeights, hall, Option.bind_some, filterByMode_eq_of_lt hlt]
  simp only [decide_eq_true_eq]

/-- The registered servers not in `kRead` mode: the write path's candidates. -/
def writeCapable (m : ServerStatsManager) : List ServerID :=
  m.servers.filter fun i => decide (m.modes i ≠ .kRead)

/-- **The write weights**: the rate-limited weights of the registered servers not in `kRead`
mode if there are `kNumReplicas` of them, of all registered servers otherwise; the sentinel
elsewhere. -/
theorem getWriteWeights_eq (h : m.WellFormed) :
    m.getWriteWeights =
      some (if kNumReplicas ≤ m.writeCapable.length then
        fun i => if i ∈ m.servers ∧ m.modes i ≠ .kRead then
          m.writeWeights i * m.cc.ccRateLimits i else kInvalidServerWeight
      else fun i => if i ∈ m.servers then m.writeWeights i * m.cc.ccRateLimits i
        else m.writeWeights i) := by
  unfold getWriteWeights getRateLimitedWriteWeights
  rw [rateLimit_eq h, Option.bind_some, filterByMode_eq h]
  unfold writeCapable
  split_ifs
  · congr 1
    funext i
    by_cases hi : i ∈ m.servers ∧ m.modes i ≠ .kRead
    · simp [hi]
    · simp only [decide_eq_true_eq, hi, if_false]
  · rfl

end ServerStatsManager

end Sandook.DataPlane
