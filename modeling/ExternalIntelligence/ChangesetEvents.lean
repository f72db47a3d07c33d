import ExternalIntelligence.ChangesetApply
import ExternalIntelligence.JournalRuns

namespace ExternalIntelligence
set_option autoImplicit true

/-- The fields that tell which operation of which changeset an event is of. -/
def operationFields : List String :=
  ["changeset_id", "candidate_id", "change_operation", "policy_version", "provider_id",
    "source_hashes"]

/-- A payload built from common fields: its keys are distinct and it names its operation. -/
structure BuiltFrom (common payload : Fields) : Prop where
  distinct : (Dict.keys payload).Nodup
  named : ∀ name ∈ operationFields, payload.lookup name = common.lookup name

theorem BuiltFrom.update (h : BuiltFrom common payload) {more : Fields}
    (hm : ∀ name ∈ operationFields, name ∉ Dict.keys more) :
    BuiltFrom common (Dict.update payload more) := by
  constructor
  · exact Dict.keys_update_nodup h.distinct more
  · intro name hn
    rw [Dict.lookup_update_of_notMem (hm name hn), h.named name hn]

theorem BuiltFrom.set (h : BuiltFrom common payload) (hk : key ∉ operationFields) (value : Value) :
    BuiltFrom common (Dict.set key value payload) := by
  constructor
  · exact Dict.keys_set_nodup h.distinct
  · intro name hn
    have hne : key ≠ name := by
      intro he
      exact hk (he ▸ hn)
    rw [Dict.lookup_set_of_ne hne, h.named name hn]

theorem commonPayload_distinct (P : Platform) (changeset : ChangeSet)
    (operation : ChangeOperation) (existing : Fields) :
    (Dict.keys (commonPayload P changeset operation existing)).Nodup := by
  simp only [commonPayload]
  split
  · simp [Dict.keys]
  · simp [Dict.keys]

theorem builtFrom_common (P : Platform) (changeset : ChangeSet) (operation : ChangeOperation)
    (existing : Fields) : BuiltFrom (commonPayload P changeset operation existing)
      (commonPayload P changeset operation existing) :=
  ⟨commonPayload_distinct P changeset operation existing, fun _ _ => rfl⟩

/-- Common fields written over a body. -/
theorem builtFrom_over (hc : (Dict.keys common).Nodup) (hb : (Dict.keys body).Nodup)
    (hnamed : ∀ name ∈ operationFields, (common.lookup name).isSome) :
    BuiltFrom common (Dict.update body common) := by
  constructor
  · exact Dict.keys_update_nodup hb common
  · intro name hn
    obtain ⟨value, hv⟩ := Option.isSome_iff_exists.1 (hnamed name hn)
    rw [Dict.lookup_update hc, hv]
    rfl

theorem lookup_commonPayload (P : Platform) (changeset : ChangeSet)
    (operation : ChangeOperation) (existing : Fields) :
    let common := commonPayload P changeset operation existing
    common.lookup "changeset_id" = some (.str changeset.changesetId) ∧
    common.lookup "candidate_id" = some (.str changeset.candidateId) ∧
    common.lookup "change_operation" = some (.str operation.operation.text) ∧
    common.lookup "policy_version" = some (.str changeset.policyVersion) ∧
    common.lookup "provider_id" = some (.str changeset.providerId) ∧
    common.lookup "source_hashes" = some (.ofStrings changeset.sourceHashes) := by
  simp [commonPayload]

theorem commonPayload_named (P : Platform) (changeset : ChangeSet) (operation : ChangeOperation)
    (existing : Fields) : ∀ name ∈ operationFields,
      ((commonPayload P changeset operation existing).lookup name).isSome := by
  obtain ⟨h₁, h₂, h₃, h₄, h₅, h₆⟩ := lookup_commonPayload P changeset operation existing
  intro name hn
  simp only [operationFields, List.mem_cons, List.not_mem_nil, or_false] at hn
  rcases hn with rfl | rfl | rfl | rfl | rfl | rfl
  · simp [h₁]
  · simp [h₂]
  · simp [h₃]
  · simp [h₄]
  · simp [h₅]
  · simp [h₆]

theorem merged_distinct (h : merged P payload current target = .ok body) :
    (Dict.keys body).Nodup := by
  unfold merged at h
  obtain ⟨benefitCount, _, h⟩ := Except.bind_eq_ok.1 h
  obtain ⟨contradictionCount, _, h⟩ := Except.bind_eq_ok.1 h
  cases h
  split
  · simp [Dict.keys]
  · simp [Dict.keys]

theorem observationPayload_built (h : observationPayload P changeset operation common = .ok payload)
    (hc : BuiltFrom common common) : BuiltFrom common payload := by
  unfold observationPayload at h
  obtain ⟨sourceRef, _, h⟩ := Except.bind_eq_ok.1 h
  obtain ⟨provenance, _, h⟩ := Except.bind_eq_ok.1 h
  obtain ⟨cwd, _, h⟩ := Except.bind_eq_ok.1 h
  cases h
  apply hc.update
  simp [operationFields, Dict.keys]

theorem evidencePayload_built (h : evidencePayload P operation state common = .ok built)
    (hc : (Dict.keys common).Nodup) (hn : ∀ name ∈ operationFields, (common.lookup name).isSome) :
    BuiltFrom common built.2 ∧ built.1 ∈ permittedEventTypes .attachEvidence := by
  unfold evidencePayload at h
  obtain ⟨body, hb, h⟩ := Except.bind_eq_ok.1 h
  obtain ⟨revision, _, h⟩ := Except.bind_eq_ok.1 h
  cases h
  constructor
  · apply ((builtFrom_over hc (merged_distinct hb) hn).set (by decide) _).update
    simp [operationFields, Dict.keys]
  · simp only
    split
    · decide
    · decide

theorem candidatePayload_built (h : candidatePayload P operation common = .ok payload)
    (hc : (Dict.keys common).Nodup) (hn : ∀ name ∈ operationFields, (common.lookup name).isSome) :
    BuiltFrom common payload := by
  unfold candidatePayload at h
  obtain ⟨body, hb, h⟩ := Except.bind_eq_ok.1 h
  cases h
  have hu : Dict.update body (common ++ reasonFields P operation.payload "CURATOR_NEW_OBSERVATION") =
      Dict.update (Dict.update body common)
        (reasonFields P operation.payload "CURATOR_NEW_OBSERVATION") := by
    rw [Dict.update, List.foldl_append]
    rfl
  rw [hu]
  apply ((builtFrom_over hc (merged_distinct hb) hn).update _).update
  · simp [operationFields, Dict.keys]
  · simp [operationFields, Dict.keys, reasonFields]

theorem updatePayload_built (h : updatePayload P operation state common = .ok payload)
    (hc : (Dict.keys common).Nodup) (hn : ∀ name ∈ operationFields, (common.lookup name).isSome) :
    BuiltFrom common payload := by
  unfold updatePayload at h
  obtain ⟨body, hb, h⟩ := Except.bind_eq_ok.1 h
  obtain ⟨revision, _, h⟩ := Except.bind_eq_ok.1 h
  cases h
  apply ((builtFrom_over hc (merged_distinct hb) hn).set (by decide) _).update
  simp [operationFields, Dict.keys, reasonFields]

theorem retirementPayload_built (hc : BuiltFrom common common) :
    BuiltFrom common (retirementPayload P operation state common reason) := by
  apply hc.update
  simp [operationFields, Dict.keys, reasonFields]

theorem redactionPayload_built (h : redactionPayload P changeset operation common = .ok payload)
    (hc : BuiltFrom common common) : BuiltFrom common payload := by
  unfold redactionPayload at h
  obtain ⟨reference, _, h⟩ := Except.bind_eq_ok.1 h
  obtain ⟨approval, _, h⟩ := Except.bind_eq_ok.1 h
  cases h
  apply hc.update
  simp [operationFields, Dict.keys]

/-- The event of an operation has a type of its kind and names the operation. -/
theorem eventPayload_built (h : eventPayload P changeset operation state = .ok built) :
    built.1 ∈ permittedEventTypes operation.operation ∧
    BuiltFrom (commonPayload P changeset operation (state.getD [])) built.2 := by
  unfold eventPayload at h
  simp only at h
  split at h
  · cases h
  have hself := builtFrom_common P changeset operation (state.getD [])
  have hn := commonPayload_named P changeset operation (state.getD [])
  cases hop : operation.operation with
  | createObservation =>
    rw [hop] at h
    obtain ⟨payload, hp, rfl⟩ := Except.map_eq_ok.1 h
    exact ⟨List.mem_singleton.2 rfl, observationPayload_built hp hself⟩
  | attachEvidence =>
    rw [hop] at h
    have hb := evidencePayload_built h hself.distinct hn
    exact ⟨hb.2, hb.1⟩
  | createCandidate =>
    rw [hop] at h
    obtain ⟨payload, hp, rfl⟩ := Except.map_eq_ok.1 h
    exact ⟨List.mem_singleton.2 rfl, candidatePayload_built hp hself.distinct hn⟩
  | promotePattern =>
    rw [hop] at h
    obtain ⟨payload, hp, rfl⟩ := Except.map_eq_ok.1 h
    exact ⟨List.mem_singleton.2 rfl, updatePayload_built hp hself.distinct hn⟩
  | revisePattern =>
    rw [hop] at h
    obtain ⟨payload, hp, rfl⟩ := Except.map_eq_ok.1 h
    exact ⟨List.mem_singleton.2 rfl, updatePayload_built hp hself.distinct hn⟩
  | deprecatePattern =>
    rw [hop] at h
    cases h
    exact ⟨List.mem_singleton.2 rfl, retirementPayload_built hself⟩
  | tombstonePattern =>
    rw [hop] at h
    cases h
    exact ⟨List.mem_singleton.2 rfl, retirementPayload_built hself⟩
  | redactReference =>
    rw [hop] at h
    obtain ⟨payload, hp, rfl⟩ := Except.map_eq_ok.1 h
    exact ⟨List.mem_singleton.2 rfl, redactionPayload_built hp hself⟩
  | noChange =>
    rw [hop] at h
    cases h
    refine ⟨List.mem_singleton.2 rfl, hself.update ?_⟩
    simp [operationFields, Dict.keys]

end ExternalIntelligence
