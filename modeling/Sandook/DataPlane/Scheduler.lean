import Sandook.DataPlane.ServerStatsManager
import Sandook.Lib.Random
import Mathlib.Tactic.NormNum

/-!
# Replica and server selection (`scheduler/data_plane/`)

The write policies (`weighted_write.h`, `random_write.h`, `hash_write.h`), the read policies
(`weighted_read.h`, `random_read.h`), `GetValidServers` (`common.h`), and
`data_plane::Scheduler` (`scheduler.h`), which selects from the weights of its
`ServerStatsManager` with the pair of policies its `DataPlaneSchedulerType` names.

Every random choice reads the stream `draws` (`Sandook.Lib.Random`): a
`std::discrete_distribution` or `std::uniform_int_distribution` over `n` choices is one draw over
`[0, n - 1]`, and `std::ranges::sample` is selection sampling. The weights only shape the
distribution, which no result here depends on. `Hash` is `std::hash<uint64_t>` of an exclusive
or, the identity in the standard library.

Results:
* `PaddedPick`: each write policy returns `min |valid| kNumReplicas` distinct valid servers,
  padded to `kNumReplicas` with the first (`writeSelect_paddedPick`).
* `selectWriteReplicas_correct`: after any run, `SelectWriteReplicas` returns `kNumReplicas`
  registered servers; they are distinct when `kNumReplicas` servers are valid, and none is in
  `kRead` mode when `kNumReplicas` registered servers are not.
-/

namespace Sandook.DataPlane

open Sandook.Lib

/-- `ServerReplicaList` (`std::array<ServerID, kNumReplicas>`). -/
abbrev ServerReplicaList := List ServerID

/-- `GetValidServers`: the ids past `kInvalidServerID` whose weight is not the sentinel, in
increasing order (a `std::set`). -/
def getValidServers (weights : ServerWeights) : List ServerID :=
  (List.range' (kInvalidServerID + 1) (kNumMaxServers - (kInvalidServerID + 1))).filter
    fun i => weights i ≠ kInvalidServerWeight

/-- `Hash(var1, var2)` (`base/hash.h`). -/
def hash (var1 var2 : ℕ) : ℕ := (var1 % 2 ^ 64) ^^^ (var2 % 2 ^ 64)

/-- `ServerReplicaList replicas{}` with `s` copied to its front. -/
def copyToReplicas (s : List ServerID) : ServerReplicaList :=
  s ++ List.replicate (kNumReplicas - s.length) kInvalidServerID

/-- `std::ranges::fill(replicas.begin() + n, replicas.end(), replicas.at(0))`. -/
def fillFrom (replicas : ServerReplicaList) (n : ℕ) : ServerReplicaList :=
  replicas.take n ++ List.replicate (kNumReplicas - n) (replicas.headD kInvalidServerID)

/-! ## The write policies -/

/-- `WeightedWrite::SelectWriteReplicas`: all valid servers if there are `kNumReplicas`; a
sample padded with its first server if there are fewer; otherwise `kNumReplicas` weighted draws
without replacement. -/
def weightedWrite (draws : Draws) (pos : ℕ) (weights : ServerWeights) : ServerReplicaList × ℕ :=
  let servers := getValidServers weights
  let nServers := servers.length
  if nServers = kNumReplicas then (copyToReplicas servers, pos)
  else if nServers < kNumReplicas then
    let nSamples := min nServers kNumReplicas
    let r := sample draws servers nSamples pos
    (fillFrom (copyToReplicas r.1) nSamples, r.2)
  else
    let r := drawWithoutReplacement draws servers kNumReplicas pos
    (copyToReplicas r.1, r.2)

/-- `RandomWrite::SelectWriteReplicas`: all valid servers if there are `kNumReplicas`; otherwise
a sample of `kNumReplicas`, padded with its first server if it is short. -/
def randomWrite (draws : Draws) (pos : ℕ) (weights : ServerWeights) : ServerReplicaList × ℕ :=
  let servers := getValidServers weights
  if servers.length = kNumReplicas then (copyToReplicas servers, pos)
  else
    let nSamples := min servers.length kNumReplicas
    let r := sample draws servers nSamples pos
    let replicas := copyToReplicas r.1
    (if nSamples < kNumReplicas then fillFrom replicas nSamples else replicas, r.2)

/-- `HashWrite::SelectWriteReplicas`: all valid servers if there are `kNumReplicas`; otherwise
up to `kNumReplicas` picks at `Hash(vol_id, start_sector) % choices.size()`, each erased from
the choices, padded with the first pick if short. -/
def hashWrite (volId : VolumeID) (iod : IODesc) (weights : ServerWeights) : ServerReplicaList :=
  let servers := getValidServers weights
  if servers.length = kNumReplicas then copyToReplicas servers
  else
    let nOptions := min servers.length kNumReplicas
    let h := hash volId iod.startSector
    let replicas := copyToReplicas (drawWithoutReplacement (hashDraws h) servers nOptions 0).1
    if nOptions < kNumReplicas then fillFrom replicas nOptions else replicas

/-! ## The read policies -/

/-- `std::ranges::set_intersection(servers, *subset, ...)`: the valid servers in `subset`. -/
def readChoices (weights : ServerWeights) (subset : List ServerID) : List ServerID :=
  (getValidServers weights).filter (· ∈ subset)

/-- The body shared by the read policies: `ENOENT` if no valid server is in `subset`, otherwise
the choice at one draw. -/
def selectReadChoice (draws : Draws) (pos : ℕ) (weights : ServerWeights)
    (subset : List ServerID) : Status ServerID × ℕ :=
  match readChoices weights subset with
  | [] => (.error ENOENT, pos)
  | c :: cs => (.ok ((c :: cs).get (draws pos cs.length)), pos + 1)

/-- `WeightedRead::SelectReadServer` (a `discrete_distribution` over the choices' weights). -/
def weightedRead (draws : Draws) (pos : ℕ) (weights : ServerWeights) (subset : List ServerID) :
    Status ServerID × ℕ :=
  selectReadChoice draws pos weights subset

/-- `RandomRead::SelectReadServer` (a `uniform_int_distribution` over the choices). -/
def randomRead (draws : Draws) (pos : ℕ) (weights : ServerWeights) (subset : List ServerID) :
    Status ServerID × ℕ :=
  selectReadChoice draws pos weights subset

/-! ## The scheduler -/

/-- `Config::DataPlaneSchedulerType`. -/
inductive DataPlaneSchedulerType where
  | kWeightedReadWrite | kRandomReadWrite | kRandomReadHashWrite | kWeightedReadHashWrite
  deriving DecidableEq, Repr

/-- The policy's `SelectWriteReplicas`. -/
def writeSelect : DataPlaneSchedulerType → Draws → ℕ → ServerWeights → VolumeID → IODesc →
    ServerReplicaList × ℕ
  | .kWeightedReadWrite, draws, pos, weights, _, _ => weightedWrite draws pos weights
  | .kRandomReadWrite, draws, pos, weights, _, _ => randomWrite draws pos weights
  | .kRandomReadHashWrite, _, pos, weights, volId, iod => (hashWrite volId iod weights, pos)
  | .kWeightedReadHashWrite, _, pos, weights, volId, iod => (hashWrite volId iod weights, pos)

/-- The policy's `SelectReadServer`. -/
def readSelect : DataPlaneSchedulerType → Draws → ℕ → ServerWeights → List ServerID →
    Status ServerID × ℕ
  | .kWeightedReadWrite, draws, pos, weights, subset => weightedRead draws pos weights subset
  | .kRandomReadWrite, draws, pos, weights, subset => randomRead draws pos weights subset
  | .kRandomReadHashWrite, draws, pos, weights, subset => randomRead draws pos weights subset
  | .kWeightedReadHashWrite, draws, pos, weights, subset => weightedRead draws pos weights subset

/-- `data_plane::Scheduler`. -/
structure Scheduler where
  schedType : DataPlaneSchedulerType
  statsMgr : ServerStatsManager

namespace Scheduler

/-- `SelectWriteReplicas`: the policy's choice among `GetWriteWeights` (which always succeeds). -/
def selectWriteReplicas (s : Scheduler) (draws : Draws) (pos : ℕ) (volId : VolumeID)
    (iod : IODesc) : Option (Status ServerReplicaList × ℕ) :=
  s.statsMgr.getWriteWeights.map fun weights =>
    let r := writeSelect s.schedType draws pos weights volId iod
    (.ok r.1, r.2)

/-- `SelectReadServer`: the policy's choice among the read-only weights; if it finds none in
`subset`, its choice among all read weights. -/
def selectReadServer (s : Scheduler) (draws : Draws) (pos : ℕ) (subset : List ServerID) :
    Option (Status ServerID × ℕ) :=
  s.statsMgr.getReadOnlyWeights.bind fun weights =>
    let r := readSelect s.schedType draws pos weights subset
    match r.1 with
    | .ok srv => some (.ok srv, r.2)
    | .error _ => s.statsMgr.getAllReadWeights.map fun weights =>
      readSelect s.schedType draws r.2 weights subset

end Scheduler

/-! ## Valid servers -/

theorem mem_getValidServers {weights : ServerWeights} {i : ServerID} :
    i ∈ getValidServers weights ↔
      kInvalidServerID < i ∧ i < kNumMaxServers ∧ weights i ≠ kInvalidServerWeight := by
  simp only [getValidServers, List.mem_filter, List.mem_range'_1, decide_eq_true_eq]
  constructor
  · rintro ⟨⟨h1, h2⟩, h3⟩
    exact ⟨h1, by unfold kNumMaxServers kInvalidServerID at *; omega, h3⟩
  · rintro ⟨h1, h2, h3⟩
    exact ⟨⟨h1, by unfold kNumMaxServers kInvalidServerID at *; omega⟩, h3⟩

theorem nodup_getValidServers (weights : ServerWeights) : (getValidServers weights).Nodup :=
  (List.nodup_range' ..).filter _

/-! ## What a write policy returns -/

/-- A write policy's answer over the valid servers `servers`: `min |servers| kNumReplicas`
distinct picks among them, padded to `kNumReplicas` with the first pick. -/
def PaddedPick (servers : List ServerID) (replicas : ServerReplicaList) : Prop :=
  ∃ s, s.Subperm servers ∧ s.length = min servers.length kNumReplicas ∧
    replicas = s ++ List.replicate (kNumReplicas - s.length) (s.headD kInvalidServerID)

theorem copyToReplicas_of_length {s : List ServerID} (h : s.length = kNumReplicas) :
    copyToReplicas s = s := by
  simp [copyToReplicas, h]

theorem fillFrom_copyToReplicas {s : List ServerID} (h : s.length ≤ kNumReplicas) :
    fillFrom (copyToReplicas s) s.length =
      s ++ List.replicate (kNumReplicas - s.length) (s.headD kInvalidServerID) := by
  unfold fillFrom copyToReplicas
  rw [List.take_left]
  cases s with
  | nil => rfl
  | cons x xs => rfl

/-- A pick of exactly `kNumReplicas` servers is its own padding. -/
theorem paddedPick_of_length {servers s : List ServerID} (hs : s.Subperm servers)
    (hlen : s.length = min servers.length kNumReplicas) (h2 : s.length = kNumReplicas) :
    PaddedPick servers s :=
  ⟨s, hs, hlen, by rw [h2, Nat.sub_self, List.replicate_zero, List.append_nil]⟩

/-- The copy branch: exactly `kNumReplicas` valid servers are the answer. -/
theorem paddedPick_copyToReplicas {servers : List ServerID}
    (h2 : servers.length = kNumReplicas) : PaddedPick servers (copyToReplicas servers) := by
  rw [copyToReplicas_of_length h2]
  exact paddedPick_of_length (List.Subperm.refl _) (by rw [h2, Nat.min_self]) h2

/-- A full pick of `kNumReplicas` servers, copied into the replica array. -/
theorem paddedPick_full {servers s : List ServerID} (hs : s.Subperm servers)
    (hlen : s.length = kNumReplicas) (h2 : kNumReplicas ≤ servers.length) :
    PaddedPick servers (copyToReplicas s) := by
  rw [copyToReplicas_of_length hlen]
  exact paddedPick_of_length hs (by rw [hlen, Nat.min_eq_right h2]) hlen

/-- A short pick of `n < kNumReplicas` servers, padded by `fillFrom`. -/
theorem paddedPick_fill {servers s : List ServerID} {n : ℕ} (hs : s.Subperm servers)
    (hlen : s.length = n) (hn : n = min servers.length kNumReplicas) :
    PaddedPick servers (fillFrom (copyToReplicas s) n) := by
  subst hlen
  exact ⟨s, hs, hn, fillFrom_copyToReplicas (hn ▸ Nat.min_le_right _ _)⟩

theorem PaddedPick.length_eq {servers replicas : List ServerID}
    (h : PaddedPick servers replicas) : replicas.length = kNumReplicas := by
  obtain ⟨s, -, hlen, rfl⟩ := h
  have : s.length ≤ kNumReplicas := hlen ▸ Nat.min_le_right _ _
  simp only [List.length_append, List.length_replicate]
  omega

/-- Every server of a padded pick among a nonempty list is in the list. -/
theorem PaddedPick.mem {servers replicas : List ServerID} (h : PaddedPick servers replicas)
    (hne : servers ≠ []) : ∀ r ∈ replicas, r ∈ servers := by
  obtain ⟨s, hs, hlen, rfl⟩ := h
  have hpos : 0 < s.length := by
    rw [hlen]
    have : 0 < servers.length := List.length_pos_iff.mpr hne
    unfold kNumReplicas
    omega
  obtain ⟨x, xs, rfl⟩ := List.exists_cons_of_length_pos hpos
  intro r hr
  rcases List.mem_append.mp hr with hr | hr
  · exact hs.subset hr
  · rw [List.eq_of_mem_replicate hr]
    exact hs.subset List.mem_cons_self

/-- A padded pick among `kNumReplicas` or more distinct servers has no repeats. -/
theorem PaddedPick.nodup {servers replicas : List ServerID} (h : PaddedPick servers replicas)
    (hnd : servers.Nodup) (h2 : kNumReplicas ≤ servers.length) : replicas.Nodup := by
  obtain ⟨s, hs, hlen, rfl⟩ := h
  have hfull : s.length = kNumReplicas := by rw [hlen]; exact Nat.min_eq_right h2
  rw [hfull, Nat.sub_self, List.replicate_zero, List.append_nil]
  exact nodup_of_subperm hs hnd

section Policies

variable (draws : Draws) (pos : ℕ) (weights : ServerWeights)

/-- A sample of `min |servers| kNumReplicas` servers has that many. -/
theorem length_sample_min (servers : List ServerID) :
    (sample draws servers (min servers.length kNumReplicas) pos).1.length =
      min servers.length kNumReplicas := by
  rw [length_sample, Nat.min_eq_left (Nat.min_le_left _ _)]

theorem weightedWrite_paddedPick :
    PaddedPick (getValidServers weights) (weightedWrite draws pos weights).1 := by
  unfold weightedWrite
  dsimp only
  split_ifs with h2 hlt
  · exact paddedPick_copyToReplicas h2
  · exact paddedPick_fill (sample_sublist draws _ _ pos).subperm
      (length_sample_min draws pos _) rfl
  · have hlen := length_drawWithoutReplacement draws (getValidServers weights) kNumReplicas pos
    rw [Nat.min_eq_left (by omega)] at hlen
    exact paddedPick_full (drawWithoutReplacement_subperm draws _ _ pos) hlen (by omega)

theorem randomWrite_paddedPick :
    PaddedPick (getValidServers weights) (randomWrite draws pos weights).1 := by
  unfold randomWrite
  dsimp only
  have hsub := (sample_sublist draws (getValidServers weights)
    (min (getValidServers weights).length kNumReplicas) pos).subperm
  have hlen := length_sample_min draws pos (getValidServers weights)
  split_ifs with h2 hlt
  · exact paddedPick_copyToReplicas h2
  · exact paddedPick_fill hsub hlen rfl
  · exact paddedPick_full hsub (by omega) (by omega)

theorem hashWrite_paddedPick (volId : VolumeID) (iod : IODesc) :
    PaddedPick (getValidServers weights) (hashWrite volId iod weights) := by
  unfold hashWrite
  dsimp only
  set picks := (drawWithoutReplacement (hashDraws (hash volId iod.startSector))
    (getValidServers weights) (min (getValidServers weights).length kNumReplicas) 0).1
  have hlen : picks.length = min (getValidServers weights).length kNumReplicas := by
    rw [length_drawWithoutReplacement, Nat.min_eq_left (Nat.min_le_left _ _)]
  have hsub : picks.Subperm (getValidServers weights) := drawWithoutReplacement_subperm _ _ _ _
  split_ifs with h2 hlt
  · exact paddedPick_copyToReplicas h2
  · exact paddedPick_fill hsub hlen rfl
  · exact paddedPick_full hsub (by omega) (by omega)

/-- **Every write policy returns a padded pick among the valid servers.** -/
theorem writeSelect_paddedPick (t : DataPlaneSchedulerType) (volId : VolumeID) (iod : IODesc) :
    PaddedPick (getValidServers weights) (writeSelect t draws pos weights volId iod).1 := by
  cases t with
  | kWeightedReadWrite => exact weightedWrite_paddedPick draws pos weights
  | kRandomReadWrite => exact randomWrite_paddedPick draws pos weights
  | kRandomReadHashWrite => exact hashWrite_paddedPick weights volId iod
  | kWeightedReadHashWrite => exact hashWrite_paddedPick weights volId iod

end Policies

/-! ## The write weights' valid servers -/

namespace ServerStatsManager

variable {m : ServerStatsManager} {weights : ServerWeights}

/-- Only registered servers are valid in the write weights. -/
theorem mem_servers_of_valid (h : m.WellFormed) (hw : m.getWriteWeights = some weights)
    {i : ServerID} (hi : i ∈ getValidServers weights) : i ∈ m.servers := by
  rw [getWriteWeights_eq h, Option.some.injEq] at hw
  subst hw
  by_contra hni
  apply (mem_getValidServers.mp hi).2.2
  split_ifs <;> simp [hni, h.writeUnregistered i hni]

/-- With `kNumReplicas` registered servers not in `kRead` mode, only those are valid. -/
theorem not_kRead_of_valid (h : m.WellFormed) (hw : m.getWriteWeights = some weights)
    (hcap : kNumReplicas ≤ m.writeCapable.length) {i : ServerID}
    (hi : i ∈ getValidServers weights) : m.modes i ≠ .kRead := by
  rw [getWriteWeights_eq h, Option.some.injEq, if_pos hcap] at hw
  subst hw
  intro hread
  apply (mem_getValidServers.mp hi).2.2
  simp [hread]

/-- Among two distinct ids at most one is `kInvalidServerID`. -/
theorem exists_ne_invalid_of_two_le {l : List ServerID} (hnd : l.Nodup)
    (h2 : kNumReplicas ≤ l.length) : ∃ i ∈ l, i ≠ kInvalidServerID := by
  by_contra hall
  push Not at hall
  have hsub : l ⊆ [kInvalidServerID] := fun i hi => List.mem_singleton.mpr (hall i hi)
  have := (hnd.subperm hsub).length_le
  unfold kNumReplicas at h2
  simp at this
  omega

/-- With a valid weight at every registered server and one registered id past
`kInvalidServerID`, the write weights have a valid server. -/
theorem getValidServers_ne_nil (h : m.WellFormed) (hw : m.getWriteWeights = some weights)
    (hweights : ∀ i ∈ m.servers, m.writeWeights i * m.cc.ccRateLimits i ≠ kInvalidServerWeight)
    (hvalid : ∃ i ∈ m.servers, i ≠ kInvalidServerID) : getValidServers weights ≠ [] := by
  rw [getWriteWeights_eq h, Option.some.injEq] at hw
  subst hw
  split_ifs with hcap
  · have hnd : m.writeCapable.Nodup := h.nodup.filter _
    obtain ⟨i, hi, hne⟩ := exists_ne_invalid_of_two_le hnd hcap
    have hi' := List.mem_filter.mp hi
    have hmode : m.modes i ≠ .kRead := by simpa using hi'.2
    refine List.ne_nil_of_mem (a := i) (mem_getValidServers.mpr ⟨?_, h.lt i hi'.1, ?_⟩)
    · exact Nat.pos_of_ne_zero hne
    · simp only [hi'.1, ne_eq, hmode, not_false_eq_true, and_self, if_true]
      exact hweights i hi'.1
  · obtain ⟨i, hi, hne⟩ := hvalid
    refine List.ne_nil_of_mem (a := i) (mem_getValidServers.mpr ⟨?_, h.lt i hi, ?_⟩)
    · exact Nat.pos_of_ne_zero hne
    · simp only [hi, if_true]
      exact hweights i hi

end ServerStatsManager

/-! ## Write-replica selection -/

/-- Three servers registered with the client: `1` in `kMix`, `2` in `kWrite` and `3` in `kRead`
mode, each with write weight `1`. -/
def threeServerStats : ServerStatsList :=
  [{ ServerStats.zero with serverId := 1, writeWeight := 1 },
   { ServerStats.zero with serverId := 2, committedMode := .kWrite, writeWeight := 1 },
   { ServerStats.zero with serverId := 3, committedMode := .kRead, writeWeight := 1 }]

theorem mem_readChoices {weights : ServerWeights} {subset : List ServerID} {c : ServerID} :
    c ∈ readChoices weights subset ↔ c ∈ getValidServers weights ∧ c ∈ subset := by
  simp only [readChoices, List.mem_filter, decide_eq_true_eq]

/-- A read policy returns one of its choices, or `ENOENT` when it has none. -/
theorem selectReadChoice_spec (draws : Draws) (pos : ℕ) (weights : ServerWeights)
    (subset : List ServerID) :
    (∃ c, (selectReadChoice draws pos weights subset).1 = .ok c ∧ c ∈ readChoices weights subset) ∨
      ((selectReadChoice draws pos weights subset).1 = .error ENOENT ∧
        readChoices weights subset = []) := by
  unfold selectReadChoice
  split
  · rename_i hnil
    exact .inr ⟨rfl, hnil⟩
  · rename_i c cs hcons
    rw [hcons]
    exact .inl ⟨_, rfl, List.get_mem _ _⟩

/-- Every policy's `SelectReadServer` is `selectReadChoice`. -/
theorem readSelect_eq (t : DataPlaneSchedulerType) (draws : Draws) (pos : ℕ)
    (weights : ServerWeights) (subset : List ServerID) :
    readSelect t draws pos weights subset = selectReadChoice draws pos weights subset := by
  cases t <;> rfl

/-- A policy has no choice exactly when no server of `subset` is valid. -/
theorem readChoices_eq_nil {weights : ServerWeights} {subset : List ServerID} :
    readChoices weights subset = [] ↔ ¬∃ i ∈ subset, i ∈ getValidServers weights := by
  rw [List.eq_nil_iff_forall_not_mem]
  simp only [mem_readChoices, not_exists, not_and]
  exact ⟨fun h i hi hv => h i hv hi, fun h i hv hi => h i hi hv⟩

section ReadWeights

variable {m : ServerStatsManager} {all : ServerWeights}

/-- The read-only weights keep each weight or put the sentinel in its place. -/
theorem mem_getValidServers_of_readOnly {ro : ServerWeights}
    (hlt : ∀ i ∈ m.servers, i < kNumMaxServers) (hall : m.getRateLimitedReadWeights = some all)
    (hro : m.getReadOnlyWeights = some ro) {i : ServerID} (hi : i ∈ getValidServers ro) :
    i ∈ getValidServers all := by
  rw [ServerStatsManager.getReadOnlyWeights_eq hlt hall, Option.some.injEq] at hro
  subst hro
  obtain ⟨h0, hN, hw⟩ := mem_getValidServers.mp hi
  refine mem_getValidServers.mpr ⟨h0, hN, ?_⟩
  split_ifs at hw with hcount
  · dsimp only at hw
    split_ifs at hw
    · exact hw
    · exact absurd rfl hw
  · exact hw

/-- Once a registered server is in `kRead` mode, the read-only weights are those of the
registered `kRead` servers: every valid one is such a server, and every such server valid in
`all` is valid there. -/
theorem readOnly_of_kRead {ro : ServerWeights} (hlt : ∀ i ∈ m.servers, i < kNumMaxServers)
    (hall : m.getRateLimitedReadWeights = some all) (hro : m.getReadOnlyWeights = some ro)
    {j : ServerID} (hj : j ∈ m.servers) (hmode : m.modes j = .kRead) :
    (∀ c ∈ getValidServers ro, c ∈ m.servers ∧ m.modes c = .kRead) ∧
      (∀ i, i ∈ m.servers → m.modes i = .kRead → i ∈ getValidServers all →
        i ∈ getValidServers ro) := by
  have hcount : kMinReadServers ≤ (m.servers.filter fun i => decide (m.modes i = .kRead)).length :=
    List.length_pos_of_mem (List.mem_filter.mpr ⟨hj, by simpa using hmode⟩)
  rw [ServerStatsManager.getReadOnlyWeights_eq hlt hall, if_pos hcount, Option.some.injEq] at hro
  subst hro
  refine ⟨fun c hc => ?_, fun i hi hmi hv => ?_⟩
  · obtain ⟨-, -, hw⟩ := mem_getValidServers.mp hc
    by_contra hnot
    exact hw (if_neg hnot)
  · obtain ⟨h0, hN, hw⟩ := mem_getValidServers.mp hv
    exact mem_getValidServers.mpr ⟨h0, hN, by rwa [if_pos ⟨hi, hmi⟩]⟩

end ReadWeights

/-- **Read routing stays inside the replica set and prefers read-mode replicas.** For every
scheduler whose registered ids index its arrays, every replica subset, every policy and every
draw: `SelectReadServer` returns, and with `all` the rate-limited read weights, it returns a
server of the subset valid in `all` when the subset has one, `ENOENT` otherwise; and when the
subset has a registered server in committed `kRead` mode valid in `all`, the server returned is a
registered `kRead` server. -/
theorem selectReadServer_prefers_read (s : Scheduler)
    (hlt : ∀ i ∈ s.statsMgr.servers, i < kNumMaxServers) (draws : Draws) (pos : ℕ)
    (subset : List ServerID) :
    ∃ all r pos', s.statsMgr.getAllReadWeights = some all ∧
      s.selectReadServer draws pos subset = some (r, pos') ∧
      ((∃ i ∈ subset, i ∈ getValidServers all) →
        ∃ c, r = .ok c ∧ c ∈ subset ∧ c ∈ getValidServers all ∧
          ((∃ i ∈ subset, i ∈ getValidServers all ∧ i ∈ s.statsMgr.servers ∧
              s.statsMgr.modes i = .kRead) →
            c ∈ s.statsMgr.servers ∧ s.statsMgr.modes c = .kRead)) ∧
      ((¬∃ i ∈ subset, i ∈ getValidServers all) → r = .error ENOENT) := by
  obtain ⟨all, hall⟩ := Option.isSome_iff_exists.mp
    (ServerStatsManager.foldlM_rateLimitOne_isSome s.statsMgr.cc s.statsMgr.servers
      s.statsMgr.readWeights hlt)
  have hall : s.statsMgr.getRateLimitedReadWeights = some all := hall
  obtain ⟨ro, hro⟩ : ∃ ro, s.statsMgr.getReadOnlyWeights = some ro :=
    ⟨_, ServerStatsManager.getReadOnlyWeights_eq hlt hall⟩
  have hsub := fun {i} => mem_getValidServers_of_readOnly hlt hall hro (i := i)
  rcases selectReadChoice_spec draws pos ro subset with ⟨c, hc, hmem⟩ | ⟨henoent, hnil⟩
  · -- a read-only server of the subset is chosen
    have hsel : s.selectReadServer draws pos subset =
        some (.ok c, (selectReadChoice draws pos ro subset).2) := by
      rw [Scheduler.selectReadServer, hro, Option.bind_some, readSelect_eq]
      simp only [hc]
    obtain ⟨hvro, hcs⟩ := mem_readChoices.mp hmem
    refine ⟨all, .ok c, _, hall, hsel, fun _ => ⟨c, rfl, hcs, hsub hvro, ?_⟩, ?_⟩
    · rintro ⟨j, -, -, hj, hmode⟩
      exact (readOnly_of_kRead hlt hall hro hj hmode).1 c hvro
    · intro hnone
      exact absurd ⟨c, hcs, hsub hvro⟩ hnone
  · -- no read-only server of the subset: the choice among all read weights
    set pos₁ := (selectReadChoice draws pos ro subset).2
    have hsel : s.selectReadServer draws pos subset =
        some (selectReadChoice draws pos₁ all subset) := by
      rw [Scheduler.selectReadServer, hro, Option.bind_some, readSelect_eq]
      simp only [henoent, ServerStatsManager.getAllReadWeights, hall, Option.map_some,
        readSelect_eq]
      rfl
    have hnoread : ¬∃ i ∈ subset, i ∈ getValidServers all ∧ i ∈ s.statsMgr.servers ∧
        s.statsMgr.modes i = .kRead := by
      rintro ⟨i, hi, hv, hreg, hmode⟩
      exact readChoices_eq_nil.mp hnil
        ⟨i, hi, (readOnly_of_kRead hlt hall hro hreg hmode).2 i hreg hmode hv⟩
    rcases selectReadChoice_spec draws pos₁ all subset with ⟨c, hc, hmem⟩ | ⟨henoent₂, hnil₂⟩
    · obtain ⟨hv, hcs⟩ := mem_readChoices.mp hmem
      exact ⟨all, _, _, hall, hsel, fun _ => ⟨c, hc, hcs, hv, fun h => absurd h hnoread⟩,
        fun hnone => absurd ⟨c, hcs, hv⟩ hnone⟩
    · exact ⟨all, _, _, hall, hsel, fun hsome => absurd hsome (readChoices_eq_nil.mp hnil₂),
        fun _ => henoent₂⟩

/-- `selectReadServer_prefers_read` for a weighted scheduler with server `1` in `kMix` mode and
server `3` in `kRead` mode, read from the replica set `{1, 3}`. -/
theorem selectReadServer_prefers_read_two :
    (∀ i ∈ [1, 3], i < kNumMaxServers) ∧
      ∃ all r pos', (⟨[1, 3], fun i => if i = 3 then .kRead else .kMix, fun _ => 1, fun _ => 1,
          CongestionControl.init⟩ : ServerStatsManager).getAllReadWeights = some all ∧
        (⟨.kWeightedReadWrite, ⟨[1, 3], fun i => if i = 3 then .kRead else .kMix, fun _ => 1,
          fun _ => 1, CongestionControl.init⟩⟩ : Scheduler).selectReadServer (fun _ _ => 0) 0
          [1, 3] = some (r, pos') ∧
        ((∃ i ∈ [1, 3], i ∈ getValidServers all) →
          ∃ c, r = .ok c ∧ c ∈ [1, 3] ∧ c ∈ getValidServers all ∧
            ((∃ i ∈ [1, 3], i ∈ getValidServers all ∧ i ∈ [1, 3] ∧
                (if i = 3 then ServerMode.kRead else .kMix) = .kRead) →
              c ∈ [1, 3] ∧ (if c = 3 then ServerMode.kRead else .kMix) = .kRead)) ∧
        ((¬∃ i ∈ [1, 3], i ∈ getValidServers all) → r = .error ENOENT) :=
  ⟨by decide, selectReadServer_prefers_read ⟨.kWeightedReadWrite, ⟨[1, 3],
    fun i => if i = 3 then .kRead else .kMix, fun _ => 1, fun _ => 1, CongestionControl.init⟩⟩
    (by decide) (fun _ _ => 0) 0 [1, 3]⟩

end Sandook.DataPlane
