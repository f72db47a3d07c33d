import ExternalIntelligence.Online
import ExternalIntelligence.Reconciliation

namespace ExternalIntelligence
set_option autoImplicit true

theorem bestMatch_mem (h : bestMatch P observation existing = some m) :
    m.candidate ∈ existing.map candidateObservation := by
  induction existing using List.reverseRecOn generalizing m with
  | nil => simp [bestMatch] at h
  | append_singleton existing raw ih =>
    rw [bestMatch, List.foldl_append, List.foldl_cons, List.foldl_nil, ← bestMatch] at h
    rw [List.map_append, List.mem_append]
    cases hm : matchCandidate P observation (candidateObservation raw) with
    | none =>
      rw [hm] at h
      exact .inl (ih h)
    | some m' =>
      have hin : m'.candidate ∈ [raw].map candidateObservation := by
        simp [matchCandidate_candidate hm]
      cases hb : bestMatch P observation existing with
      | none =>
        simp only [hm, hb, Option.some.injEq] at h
        exact .inr (h ▸ hin)
      | some b =>
        simp only [hm, hb] at h
        split at h <;> cases h
        · exact .inr hin
        · exact .inl (ih hb)

/-- A decision has a target exactly when it is not a new cluster. -/
theorem assignCluster_kind : (assignCluster P observation existing).kind = .new ↔
    (assignCluster P observation existing).targetObservationId = none := by
  rw [assignCluster]
  split
  · simp [newDecision]
  · split
    · simp [newDecision]
    · simp only []
      split
      · simp
      · split <;> simp

theorem assignCluster_target
    (h : (assignCluster P observation existing).targetObservationId = some target) :
    ∃ e ∈ existing, (candidateObservation e).observationId = target := by
  rw [assignCluster] at h
  split at h
  · simp [newDecision] at h
  · split at h
    · simp [newDecision] at h
    · rename_i m hb
      obtain ⟨e, he, hc⟩ := List.mem_map.1 (bestMatch_mem hb)
      refine ⟨e, he, ?_⟩
      rw [hc]
      simp only [] at h
      split at h
      · simpa using h
      · split at h <;> simpa using h

/-- The target of a decision is the id of an earlier observation with the same host key. -/
theorem hostDecision_target
    (h : (hostDecision P earlier observation).targetObservationId = some target) :
    ∃ e ∈ earlier, e.observationId = target ∧
      hostApplicabilityKey e = hostApplicabilityKey observation := by
  obtain ⟨e, he, hi⟩ := assignCluster_target h
  obtain ⟨o, ho, rfl⟩ := List.mem_map.1 he
  simp only [List.mem_filter, decide_eq_true_eq] at ho
  exact ⟨o, ho.1, hi, ho.2⟩

/-- The clustering as a labelling of observations with cluster ids. -/
def hostLabeller (P : Platform) : Labeller ObservationState String String where
  target earlier observation := (hostDecision P earlier observation).targetObservationId
  ident := (·.observationId)
  own := clusterIdOf P
  target_mem h := by
    obtain ⟨e, he, hi, _⟩ := hostDecision_target h
    exact ⟨e, he, hi⟩

/-- The observations of a list of events, in order. -/
def recordedObservations (events : List Event) : List ObservationState :=
  (events.filter isObservation).filterMap fun event => (observationState event).toOption

/-- Host fields that the observation reader accepts. -/
def HostFieldsValid (events : List Event) : Prop :=
  ∀ event ∈ events, isObservation event → (observationState event).isOk

instance (events : List Event) : Decidable (HostFieldsValid events) :=
  inferInstanceAs (Decidable (∀ event ∈ events, isObservation event →
    (observationState event).isOk))

/-- The loop variables after the observations placed so far. -/
structure Clustering.Places (P : Platform) (c : Clustering)
    (placed : List (ObservationState × String)) : Prop where
  observations : c.observations = placed.map Prod.fst
  clusters : ∀ id, c.observationClusters.lookup id = (hostLabeller P).lastLabel id placed
  keys : (Dict.keys c.records).Nodup
  records : ∀ id record, c.records.lookup id = some record →
    record.observations = (placed.filter fun p => p.2 = id).map Prod.fst
  absent : ∀ id, c.records.lookup id = none → ∀ p ∈ placed, p.2 ≠ id

theorem lastLabel_concat (P : Platform) (id : String) (placed : List (ObservationState × String))
    (p : ObservationState × String) : (hostLabeller P).lastLabel id (placed ++ [p]) =
      if p.1.observationId = id then some p.2 else (hostLabeller P).lastLabel id placed := by
  simp only [Labeller.lastLabel, List.findRev?_eq_find?_reverse, List.reverse_append,
    List.reverse_cons, List.reverse_nil, List.nil_append, List.cons_append, List.find?_cons]
  by_cases h : p.1.observationId = id
  · simp [h, hostLabeller]
  · simp [h, hostLabeller]

theorem Clustering.Places.clusterFor (h : Clustering.Places P c placed) :
    ∃ duplicates, c.clusterFor P o = .ok ((hostLabeller P).label placed o, duplicates) := by
  have hd : (hostLabeller P).target (placed.map Prod.fst) o =
      (hostDecision P c.observations o).targetObservationId := by
    rw [h.observations]
    rfl
  rw [Clustering.clusterFor, Labeller.label, hd]
  cases ht : (hostDecision P c.observations o).targetObservationId with
  | none =>
    refine ⟨c.duplicateCount, ?_⟩
    split <;> simp_all [hostLabeller]
  | some target =>
    have hk : (hostDecision P c.observations o).kind ≠ .new := by
      intro hk
      rw [hostDecision, assignCluster_kind, ← hostDecision, ht] at hk
      cases hk
    obtain ⟨e, he, hi, _⟩ := hostDecision_target ht
    obtain ⟨p, hp, rfl⟩ := List.mem_map.1 (h.observations ▸ he)
    have hs : ((hostLabeller P).lastLabel target placed).isSome := by
      rw [Labeller.lastLabel, Option.isSome_map, List.findRev?_eq_find?_reverse, List.find?_isSome]
      exact ⟨p, List.mem_reverse.2 hp, decide_eq_true hi⟩
    obtain ⟨label, hl⟩ := Option.isSome_iff_exists.1 hs
    simp only [h.clusters target, hl, Option.getD_some]
    split <;> simp_all

theorem Clustering.Places.place (h : Clustering.Places P c placed) :
    Clustering.Places P (c.place P o t cid duplicates) (placed ++ [(o, cid)]) where
  observations := by simp [Clustering.place, h.observations]
  clusters target := by
    simp only [Clustering.place, Dict.lookup_set, lastLabel_concat, h.clusters]
  keys := Dict.keys_set_nodup h.keys
  records target record hr := by
    simp only [Clustering.place, Dict.lookup_set] at hr
    rw [List.filter_append, List.map_append]
    by_cases he : cid = target
    · subst he
      simp only [if_true, Option.some.injEq] at hr
      subst record
      cases hl : c.records.lookup cid with
      | none =>
        have hn : placed.filter (fun p => p.2 = cid) = [] := by
          simpa using h.absent cid hl
        simp [hn, newRecord]
      | some record => simp [extendRecord, h.records cid record hl]
    · rw [if_neg he] at hr
      simp [he, h.records target record hr]
  absent target ha := by
    simp only [Clustering.place, Dict.lookup_set] at ha
    by_cases he : cid = target
    · simp [he] at ha
    · rw [if_neg he] at ha
      intro p hp
      rcases List.mem_append.1 hp with hp | hp
      · exact h.absent target ha p hp
      · rw [List.mem_singleton.1 hp]
        exact he

/-- Processing the events places the observations as the labelling does. -/
theorem clusterObservations_places (hv : HostFieldsValid events) :
    ∃ c, clusterObservations P events = .ok c ∧
      Clustering.Places P c ((hostLabeller P).labels (recordedObservations events)) := by
  induction events using List.reverseRecOn with
  | nil => exact ⟨{}, rfl, ⟨rfl, fun _ => rfl, List.nodup_nil, by simp, by simp [Labeller.labels,
      recordedObservations]⟩⟩
  | append_singleton events event ih =>
    obtain ⟨c, hc, hp⟩ := ih fun e he => hv e (List.mem_append_left _ he)
    have hrun : clusterObservations P (events ++ [event]) = c.step P event := by
      rw [clusterObservations, List.foldlM_append, ← clusterObservations, hc]
      simp [bind, Except.bind, pure, Except.pure]
      cases c.step P event <;> rfl
    rw [hrun, Clustering.step]
    by_cases ho : isObservation event
    · obtain ⟨o, heo⟩ := Except.exists_ok_of_isOk (hv event (by simp) ho)
      obtain ⟨duplicates, hcl⟩ := hp.clusterFor (o := o)
      have hrec : recordedObservations (events ++ [event]) = recordedObservations events ++ [o] := by
        simp [recordedObservations, ho, heo, Except.toOption]
      rw [if_pos ho, heo, hrec, Labeller.labels_concat]
      simp only [Except.bind, Clustering.add, hcl, Except.map]
      exact ⟨_, rfl, hp.place⟩
    · have hrec : recordedObservations (events ++ [event]) = recordedObservations events := by
        simp [recordedObservations, ho]
      rw [if_neg ho, hrec]
      exact ⟨c, rfl, hp⟩

/-- The observations of a cluster record share one host key. -/
def ClusterRecord.OneHost (record : ClusterRecord) : Prop :=
  ∀ a ∈ record.observations, ∀ b ∈ record.observations,
    hostApplicabilityKey a = hostApplicabilityKey b

instance : DecidablePred ClusterRecord.OneHost := fun record =>
  inferInstanceAs (Decidable (∀ a ∈ record.observations, ∀ b ∈ record.observations,
    hostApplicabilityKey a = hostApplicabilityKey b))

theorem Clustering.Places.oneHost_iff (h : Clustering.Places P c placed) :
    (∀ entry ∈ c.records, entry.2.OneHost) ↔ Labeller.Uniform hostApplicabilityKey placed := by
  constructor
  · intro ho p hp q hq he
    cases hl : c.records.lookup p.2 with
    | none => exact absurd rfl (h.absent p.2 hl p hp)
    | some record =>
      have hobs := h.records p.2 record hl
      have hin {r} (hr : r ∈ placed) (hrl : r.2 = p.2) : r.1 ∈ record.observations := by
        rw [hobs]
        exact List.mem_map.2 ⟨r, List.mem_filter.2 ⟨hr, by simpa using hrl⟩, rfl⟩
      exact ho _ (Dict.mem_of_lookup hl) _ (hin hp rfl) _ (hin hq he.symm)
  · rintro hu ⟨clusterId, record⟩ hm a ha b hb
    rw [h.records clusterId record (Dict.lookup_of_mem h.keys hm)] at ha hb
    obtain ⟨p, hp, rfl⟩ := List.mem_map.1 ha
    obtain ⟨q, hq, rfl⟩ := List.mem_map.1 hb
    simp only [List.mem_filter, decide_eq_true_eq] at hp hq
    exact hu p hp.1 q hq.1 (hp.2.trans hq.2.symm)

/-- Whenever a decision names an earlier observation id, the latest observation with that id has
the host key of the observation decided on. -/
def TargetsOwnHost (P : Platform) (observations : List ObservationState) : Prop :=
  ∀ earlier o later target latest, observations = earlier ++ o :: later →
    (hostDecision P earlier o).targetObservationId = some target →
    earlier.findRev? (fun e => e.observationId = target) = some latest →
    hostApplicabilityKey latest = hostApplicabilityKey o

/-- Observations without a target that hash to one cluster id have one host key. -/
def FoundersKeepHost (P : Platform) (observations : List ObservationState) : Prop :=
  ∀ earlier o later earlier' o' later', observations = earlier ++ o :: later →
    observations = earlier' ++ o' :: later' →
    (hostDecision P earlier o).targetObservationId = none →
    (hostDecision P earlier' o').targetObservationId = none →
    clusterIdOf P o = clusterIdOf P o' → hostApplicabilityKey o = hostApplicabilityKey o'

/-- Clusters keep hosts apart exactly when no target id was taken over by another host and no
two hosts hash to one cluster id. -/
theorem clusterObservations_oneHost_iff (P : Platform) (events : List Event)
    (hv : HostFieldsValid events) :
    (∃ c, clusterObservations P events = .ok c ∧ ∀ entry ∈ c.records, entry.2.OneHost) ↔
      TargetsOwnHost P (recordedObservations events) ∧
        FoundersKeepHost P (recordedObservations events) := by
  obtain ⟨c, hc, hp⟩ := clusterObservations_places (P := P) hv
  have hiff : (∀ entry ∈ c.records, entry.2.OneHost) ↔
      TargetsOwnHost P (recordedObservations events) ∧
        FoundersKeepHost P (recordedObservations events) := by
    rw [hp.oneHost_iff, Labeller.uniform_iff]
    rfl
  rw [← hiff, hc]
  simp

/-- Two observations of one host, and between them one of another host under the first id. -/
def reusedObservationId : List Event :=
  let recorded (eventId host observationId claim : String) : Event :=
    { eventId
      eventType := "observation.recorded"
      occurredAt := "2026-01-01T00:00:00Z"
      actor := "codex"
      machineId := "machine"
      payload := [("observation_id", .str observationId), ("claim", .str claim)] ++
        HostFields.toPayload { sourceHostId := host, sourceHostFamily := "editor" } }
  [recorded "evt_1" "host-a" "obs_1" "reload", recorded "evt_2" "host-b" "obs_1" "save",
    recorded "evt_3" "host-a" "obs_2" "reload"]

theorem reusedObservationId_mixes : HostFieldsValid reusedObservationId ∧
    ∃ c, clusterObservations samplePlatform reusedObservationId = .ok c ∧
      ¬ ∀ entry ∈ c.records, entry.2.OneHost :=
  ⟨by decide +kernel, Except.exists_ok_of_decide (by decide +kernel)⟩

theorem clusterObservations_oneHost_iff_reused :
    (∃ c, clusterObservations samplePlatform reusedObservationId = .ok c ∧
      ∀ entry ∈ c.records, entry.2.OneHost) ↔
        TargetsOwnHost samplePlatform (recordedObservations reusedObservationId) ∧
          FoundersKeepHost samplePlatform (recordedObservations reusedObservationId) :=
  clusterObservations_oneHost_iff samplePlatform reusedObservationId (by decide)

end ExternalIntelligence
