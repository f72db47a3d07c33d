import ExternalIntelligence.ChangesetAccepted
import ExternalIntelligence.JournalReading

namespace ExternalIntelligence
set_option autoImplicit true

/-- What the constructor of a changeset has checked. -/
structure WellFormed (P : Platform) (value : ChangeSet) : Prop where
  changesetId : isSafeId value.changesetId = true
  candidateId : isSafeId value.candidateId = true
  operations : value.operations ≠ []
  hashes : value.sourceHashes ≠ []
  hash : ∀ hash ∈ value.sourceHashes, isHash hash = true
  policyVersion : value.policyVersion ≠ ""
  generatedAt : ∃ moment, timestamp P value.generatedAt = .ok moment
  providerId : isSafeLabel value.providerId = true
  hostId : (validateHostLabel (.str value.host.sourceHostId) "source_host_id" true).isOk = true
  hostFamily :
    (validateHostLabel (.str value.host.sourceHostFamily) "source_host_family" true).isOk = true
  host : (validateHostApplicabilityMapping value.host.toPayload false value.host.given).isOk = true

theorem postInit_ok : value.postInit P = .ok () ↔ WellFormed P value := by
  unfold ChangeSet.postInit
  simp only [refuse_bind_ok, Bool.not_eq_false', Bool.or_eq_false_iff,
    List.isEmpty_eq_false_iff, beq_eq_false_iff_ne, List.any_eq_false, Bool.not_eq_true']
  constructor
  · rintro ⟨h1, h2, h3, ⟨h4, h5⟩, h6, h7⟩
    obtain ⟨moment, hm, h7⟩ := Except.bind_eq_ok.1 h7
    simp only [refuse_bind_ok, refuse_ok, Bool.not_eq_false'] at h7
    obtain ⟨h8, h9, h10, h11⟩ := h7
    exact ⟨h1, h2, h3, h4, fun hash hm => by simpa using h5 hash hm, h6, ⟨moment, hm⟩, h8, h9, h10,
      h11⟩
  · intro h
    refine ⟨h.changesetId, h.candidateId, h.operations, ⟨h.hashes, fun hash hm => ?_⟩,
      h.policyVersion, ?_⟩
    · rw [h.hash hash hm]
      decide
    · obtain ⟨moment, hm⟩ := h.generatedAt
      apply Except.bind_eq_ok.2
      refine ⟨moment, hm, ?_⟩
      simp only [refuse_bind_ok, refuse_ok, Bool.not_eq_false']
      exact ⟨h.providerId, h.hostId, h.hostFamily, h.host⟩

theorem WellFormed.at (h : WellFormed P value) (ht : timestamp P time = .ok moment) :
    WellFormed P { value with generatedAt := time } :=
  ⟨h.changesetId, h.candidateId, h.operations, h.hashes, h.hash, h.policyVersion, ⟨moment, ht⟩,
    h.providerId, h.hostId, h.hostFamily, h.host⟩

theorem awareTimestamp_of_timestamp (h : timestamp P time = .ok moment) :
    awareTimestamp P time = true := by
  unfold timestamp at h
  split at h
  · cases h
  · rename_i hne
    split at h
    · cases h
    · rename_i m hm
      split at h
      · rename_i ha
        simp [awareTimestamp, hne, hm, ha]
      · cases h

theorem isSafeId_ne_empty (h : isSafeId s = true) : s ≠ "" := by
  intro he
  rw [he] at h
  exact absurd h (by decide)

theorem isSafeLabel_ne_empty (h : isSafeLabel s = true) : s ≠ "" := by
  intro he
  rw [he] at h
  exact absurd h (by decide)

theorem requireString_str (h : s ≠ "") : requireString name field (.str s) = .ok () := by
  rw [requireString, refuse_ok]
  simp [Value.isStr, Value.strOr, h]

@[simp] theorem operationOfText_text (operation : Operation) :
    operationOfText operation.text = some operation := by
  cases operation <;> decide

theorem validateHostLabel_empty (field : String) :
    (validateHostLabel (.str "") field false).isOk = false := by
  rw [validateHostLabel, if_neg (by simp), if_pos (by decide)]
  rfl

/-- What the host contract has checked where a source pair is required. -/
structure HostChecked (host : HostFields) : Prop where
  pair : host.hasPair = true
  scope : hostScopeValues.contains host.applicabilityScope = true
  hostIds :
    (validateHostList (.ofStrings host.applicableHostIds) "applicable_host_ids").isOk = true
  hostFamilies : (validateHostList (.ofStrings host.applicableHostFamilies)
    "applicable_host_families").isOk = true

theorem hostChecked_of_required
    (h : (validateHostApplicabilityMapping (HostFields.toPayload host) false true).isOk = true) :
    HostChecked host := by
  obtain ⟨result, hresult⟩ := Except.exists_ok_of_isOk h
  have hfields : hasHostField host.toPayload = true ∧ hasAllHostFields host.toPayload = true := by
    constructor <;> rfl
  rw [validateHostApplicabilityMapping, hfields.1, hfields.2] at hresult
  obtain ⟨sourceId, hid, hresult⟩ := Except.bind_eq_ok.1 hresult
  obtain ⟨sourceFamily, hfamily, hresult⟩ := Except.bind_eq_ok.1 hresult
  have hlabel : ∀ name label field, fieldOf host.toPayload name = .str label →
      (validateHostLabel (fieldOf host.toPayload name) field false).isOk = true → label ≠ "" := by
    intro name label field hf hok he
    rw [hf, he, validateHostLabel_empty] at hok
    cases hok
  simp only at hresult
  split at hresult
  · cases hresult
  split at hresult
  · cases hresult
  split at hresult
  · cases hresult
  rename_i hscope
  obtain ⟨ids, hids, hresult⟩ := Except.bind_eq_ok.1 hresult
  obtain ⟨families, hfamilies, _⟩ := Except.bind_eq_ok.1 hresult
  constructor
  · rw [HostFields.hasPair, Bool.and_eq_true, bne_iff_ne, bne_iff_ne]
    constructor
    · apply hlabel "source_host_id" _ "source_host_id" rfl
      rw [show false = !true from rfl, hid]
      rfl
    · apply hlabel "source_host_family" _ "source_host_family" rfl
      rw [show false = !true from rfl, hfamily]
      rfl
  · rw [Bool.not_eq_true, Bool.not_eq_false'] at hscope
    exact hscope
  · exact congrArg Except.isOk hids
  · exact congrArg Except.isOk hfamilies

/-- A host without a source pair has nothing to say. -/
theorem host_of_not_hasPair (h : WellFormed P value) (hp : value.host.hasPair = false) :
    value.host = {} := by
  have hgiven : value.host.given = false := by
    by_contra hg
    have hok := h.host
    rw [Bool.eq_true_of_not_eq_false hg] at hok
    rw [(hostChecked_of_required hok).pair] at hp
    cases hp
  simp only [HostFields.given, Bool.or_eq_false_iff, bne_eq_false_iff_eq, Bool.not_eq_false',
    List.isEmpty_iff] at hgiven
  obtain ⟨⟨⟨⟨h1, h2⟩, h3⟩, h4⟩, h5⟩ := hgiven
  generalize value.host = host at *
  obtain ⟨a, b, c, d, e⟩ := host
  simp only at h1 h2 h3 h4 h5
  rw [h1, h2, h3, h4, h5]

theorem hasPair_given {host : HostFields} (h : host.hasPair = true) : host.given = true := by
  simp only [HostFields.hasPair, Bool.and_eq_true] at h
  simp [HostFields.given, h.1]

theorem lookup_toDict_host (value : ChangeSet) {name : String}
    (h : name ∈ hostApplicabilityFieldNames) : value.toDict.lookup name =
      (if value.host.hasPair then value.host.toPayload else []).lookup name := by
  rw [ChangeSet.toDict]
  simp only [hostApplicabilityFieldNames, List.mem_cons, List.not_mem_nil, or_false] at h
  rcases h with rfl | rfl | rfl | rfl | rfl <;> rfl

theorem hostMapping_congr {a b : List (String × Value)}
    (h : ∀ name ∈ hostApplicabilityFieldNames, a.lookup name = b.lookup name)
    (legacy pair : Bool) : hasHostField a = hasHostField b ∧
      validateHostApplicabilityMapping a legacy pair =
        validateHostApplicabilityMapping b legacy pair := by
  have hany : hasHostField a = hasHostField b := by
    rw [hasHostField, hasHostField, Bool.eq_iff_iff, List.any_eq_true, List.any_eq_true]
    constructor
    · rintro ⟨name, hn, hs⟩
      exact ⟨name, hn, h name hn ▸ hs⟩
    · rintro ⟨name, hn, hs⟩
      exact ⟨name, hn, (h name hn).symm ▸ hs⟩
  have hall : hasAllHostFields a = hasAllHostFields b := by
    rw [hasAllHostFields, hasAllHostFields, Bool.eq_iff_iff, List.all_eq_true, List.all_eq_true]
    constructor
    · intro hs name hn
      exact h name hn ▸ hs name hn
    · intro hs name hn
      exact (h name hn).symm ▸ hs name hn
  have hfield : ∀ name ∈ hostApplicabilityFieldNames, fieldOf a name = fieldOf b name := by
    intro name hn
    rw [fieldOf, fieldOf, h name hn]
  refine ⟨hany, ?_⟩
  rw [validateHostApplicabilityMapping, validateHostApplicabilityMapping, hany, hall,
    hfield "source_host_id" (by decide), hfield "source_host_family" (by decide),
    hfield "applicability_scope" (by decide), hfield "applicable_host_ids" (by decide),
    hfield "applicable_host_families" (by decide)]

theorem validateChangeSetHost_toDict (h : WellFormed P value) :
    validateChangeSetHost value.toDict = .ok () := by
  have hl : ∀ name ∈ hostApplicabilityFieldNames, value.toDict.lookup name =
      (if value.host.hasPair then value.host.toPayload else []).lookup name :=
    fun name hn => lookup_toDict_host value hn
  obtain ⟨hany, hmapping⟩ := hostMapping_congr hl false true
  unfold validateChangeSetHost
  rw [hany, hmapping, hl "applicability_scope" (by decide)]
  by_cases hp : value.host.hasPair = true
  · rw [if_pos hp] at hl ⊢
    have hok := h.host
    rw [hasPair_given hp] at hok
    have hc := hostChecked_of_required hok
    obtain ⟨result, hresult⟩ := Except.exists_ok_of_isOk hok
    have hlabels : ["source_host_id", "source_host_family"].forM (fun field =>
        refuse ((value.toDict.lookup field).any fun label =>
          !(validateHostLabel label field true).isOk) (changeSetSchemaError field)) = .ok () := by
      apply forM_ok
      intro field hf
      rw [refuse_ok]
      simp only [List.mem_cons, List.not_mem_nil, or_false] at hf
      rcases hf with rfl | rfl
      · rw [hl "source_host_id" (by decide)]
        simpa [HostFields.toPayload] using h.hostId
      · rw [hl "source_host_family" (by decide)]
        simpa [HostFields.toPayload] using h.hostFamily
    have hlists : ["applicable_host_ids", "applicable_host_families"].forM (fun field =>
        refuse ((value.toDict.lookup field).any fun labels =>
          !(validateHostList labels field).isOk) (changeSetSchemaError field)) = .ok () := by
      apply forM_ok
      intro field hf
      rw [refuse_ok]
      simp only [List.mem_cons, List.not_mem_nil, or_false] at hf
      rcases hf with rfl | rfl
      · rw [hl "applicable_host_ids" (by decide)]
        simpa [HostFields.toPayload] using hc.hostIds
      · rw [hl "applicable_host_families" (by decide)]
        simpa [HostFields.toPayload] using hc.hostFamilies
    have hscope : (value.host.toPayload.lookup "applicability_scope").any (fun scope =>
        !scope.isStr || !hostScopeValues.contains (scope.strOr "")) = false := by
      simpa [HostFields.toPayload, Value.isStr, Value.strOr] using hc.scope
    rw [hlabels, hlists, hresult, hscope]
    rfl
  · rw [if_neg hp] at hl ⊢
    have hnone : ∀ name ∈ hostApplicabilityFieldNames, value.toDict.lookup name = none := hl
    have hlabels : ["source_host_id", "source_host_family"].forM (fun field =>
        refuse ((value.toDict.lookup field).any fun label =>
          !(validateHostLabel label field true).isOk) (changeSetSchemaError field)) = .ok () := by
      apply forM_ok
      intro field hf
      have hin : ∀ name ∈ ["source_host_id", "source_host_family"],
          name ∈ hostApplicabilityFieldNames := by decide
      rw [hnone field (hin field hf)]
      rfl
    have hlists : ["applicable_host_ids", "applicable_host_families"].forM (fun field =>
        refuse ((value.toDict.lookup field).any fun labels =>
          !(validateHostList labels field).isOk) (changeSetSchemaError field)) = .ok () := by
      apply forM_ok
      intro field hf
      have hin : ∀ name ∈ ["applicable_host_ids", "applicable_host_families"],
          name ∈ hostApplicabilityFieldNames := by decide
      rw [hnone field (hin field hf)]
      rfl
    rw [hlabels, hlists]
    rfl

theorem validateOperationMapping_toDict {operation : ChangeOperation}
    (h : Sound P value operation) :
    validateOperationMapping P (.dict operation.toDict) = .ok () := by
  have hextra : rejectExtra "change-set.operations" operation.toDict
      ["operation", "target_id", "payload"] = .ok () := by
    apply rejectExtra_ok
    intro key hk
    exact hk
  have htarget : (optionalText operation.targetId != .none &&
      (!(optionalText operation.targetId).isStr ||
        (optionalText operation.targetId).strOr "" == "")) = false := by
    have ht := h.target
    cases hid : operation.targetId with
    | none => rfl
    | some target =>
      rw [hid] at ht
      simp only [safeTarget, Bool.and_eq_true] at ht
      have hne := isSafeId_ne_empty ht.1.1.1
      simp [optionalText, Value.isStr, Value.strOr, hne]
  have hpayload : validateOperationPayload P operation.payload = .ok () := by
    rw [validateOperationPayload, h.inspected]
  have hname : (operationOfText ((fieldOf operation.toDict "operation").strOr "")).isNone =
      false := by
    have hf : fieldOf operation.toDict "operation" = .str operation.operation.text := rfl
    rw [hf]
    simp [Value.strOr]
  unfold validateOperationMapping
  have hmapping : requireMapping "change-set.operations" (.dict operation.toDict) =
      .ok operation.toDict := rfl
  have hdata : requireMapping "change-set" (fieldOf operation.toDict "payload") =
      .ok operation.payload := rfl
  have htargetField : fieldOf operation.toDict "target_id" = optionalText operation.targetId := rfl
  rw [hmapping, ok_bind, hextra, ok_bind, hname, htargetField, hdata]
  simp only [htarget, refuse_false, ok_bind, hpayload]
  rfl

theorem fromMapping_operation (operation : ChangeOperation) :
    ChangeOperation.fromMapping (.dict operation.toDict) = .ok operation := by
  have hname : (fieldOf operation.toDict "operation").strOr "" = operation.operation.text := rfl
  have hpayload : fieldOf operation.toDict "payload" = .dict operation.payload := rfl
  have htarget : fieldOf operation.toDict "target_id" = optionalText operation.targetId := rfl
  rw [ChangeOperation.fromMapping]
  simp only [hname, hpayload, htarget, operationOfText_text]
  cases hid : operation.targetId with
  | none =>
    simp only [optionalText]
    rw [← hid]
  | some target =>
    simp only [optionalText]
    rw [← hid]

theorem mapM_fromMapping (operations : List ChangeOperation) :
    (operations.map fun operation => Value.dict operation.toDict).mapM
      ChangeOperation.fromMapping = .ok operations := by
  induction operations with
  | nil => rfl
  | cons operation operations ih =>
    rw [List.map_cons, List.mapM_cons, fromMapping_operation, ih]
    rfl

theorem keys_toDict (value : ChangeSet) : Dict.keys value.toDict =
    changeSetRequired ++ if value.host.hasPair then hostApplicabilityFieldNames else [] := by
  rw [ChangeSet.toDict, Dict.keys, List.map_append]
  split <;> rfl

theorem requireItems_list (h : items ≠ []) :
    requireItems field (.list items) = .ok items := by
  cases items with
  | nil => exact absurd rfl h
  | cons item items => rfl

theorem validateChangeSet_toDict (h : WellFormed P value)
    (hs : ∀ operation ∈ value.operations, Sound P value operation) :
    validateChangeSet P value.toDict = .ok () := by
  have hextra : rejectExtra "change-set" value.toDict
      (changeSetRequired ++ hostApplicabilityFieldNames) = .ok () := by
    apply rejectExtra_ok
    intro key hk
    rw [keys_toDict] at hk
    rcases List.mem_append.1 hk with hk | hk
    · exact List.mem_append_left _ hk
    · split at hk
      · exact List.mem_append_right _ hk
      · cases hk
  have hrequired : changeSetRequired.forM (fun field =>
      refuse (value.toDict.lookup field).isNone (changeSetSchemaError field)) = .ok () := by
    apply forM_ok
    intro field hf
    have hin : field ∈ Dict.keys value.toDict := by
      rw [keys_toDict]
      exact List.mem_append_left _ hf
    rw [refuse_ok, Option.isNone_eq_false_iff]
    exact Dict.lookup_isSome_iff.2 hin
  have hid : requireString "change-set" "changeset_id" (fieldOf value.toDict "changeset_id") =
      .ok () := requireString_str (isSafeId_ne_empty h.changesetId)
  have hcandidate : requireString "change-set" "candidate_id"
      (fieldOf value.toDict "candidate_id") = .ok () :=
    requireString_str (isSafeId_ne_empty h.candidateId)
  have hitems : requireItems "operations" (fieldOf value.toDict "operations") =
      .ok (value.operations.map fun operation => .dict operation.toDict) := by
    apply requireItems_list
    simpa using h.operations
  have hoperations : (value.operations.map fun operation => Value.dict operation.toDict).forM
      (validateOperationMapping P) = .ok () := by
    apply forM_ok
    intro item hi
    obtain ⟨operation, ho, rfl⟩ := List.mem_map.1 hi
    exact validateOperationMapping_toDict (hs operation ho)
  have hhashes : requireItems "source_hashes" (fieldOf value.toDict "source_hashes") =
      .ok (value.sourceHashes.map .str) := by
    apply requireItems_list
    simpa using h.hashes
  have hhash : (value.sourceHashes.map Value.str).forM (requireHash "change-set" "source_hashes") =
      .ok () := by
    apply forM_ok
    intro item hi
    obtain ⟨hash, hm, rfl⟩ := List.mem_map.1 hi
    rw [requireHash, refuse_ok]
    simp [Value.isStr, Value.strOr, h.hash hash hm]
  have hpolicy : requireString "change-set" "policy_version"
      (fieldOf value.toDict "policy_version") = .ok () := requireString_str h.policyVersion
  have htime : (!awareTimestamp P ((fieldOf value.toDict "generated_at").strOr "")) = false := by
    obtain ⟨moment, hm⟩ := h.generatedAt
    have hf : (fieldOf value.toDict "generated_at").strOr "" = value.generatedAt := rfl
    rw [hf, awareTimestamp_of_timestamp hm]
    rfl
  have hprovider : requireString "change-set" "provider_id" (fieldOf value.toDict "provider_id") =
      .ok () := requireString_str (isSafeLabel_ne_empty h.providerId)
  unfold validateChangeSet
  simp only [hextra, hrequired, hid, hcandidate, hitems, hoperations, hhashes, hhash, hpolicy,
    htime, hprovider, ok_bind, refuse_false]
  exact validateChangeSetHost_toDict h

theorem getOr_toDict_host (value : ChangeSet) {name : String}
    (h : name ∈ hostApplicabilityFieldNames) (default : Value) :
    getOr value.toDict name default =
      getOr (if value.host.hasPair then value.host.toPayload else []) name default := by
  rw [getOr, getOr, lookup_toDict_host value h]

/-- A changeset is read back from its mapping. -/
theorem fromMapping_toDict (h : WellFormed P value)
    (hs : ∀ operation ∈ value.operations, Sound P value operation) :
    ChangeSet.fromMapping P value.toDict = .ok value := by
  have hhost : ({
      sourceHostId := (getOr value.toDict "source_host_id" (.str "")).strOr ""
      sourceHostFamily := (getOr value.toDict "source_host_family" (.str "")).strOr ""
      applicabilityScope :=
        (getOr value.toDict "applicability_scope" (.str "universal")).strOr ""
      applicableHostIds := (getOr value.toDict "applicable_host_ids" (.tuple [])).strings
      applicableHostFamilies :=
        (getOr value.toDict "applicable_host_families" (.tuple [])).strings } : HostFields) =
      value.host := by
    simp only [getOr_toDict_host value (show "source_host_id" ∈ _ by decide),
      getOr_toDict_host value (show "source_host_family" ∈ _ by decide),
      getOr_toDict_host value (show "applicability_scope" ∈ _ by decide),
      getOr_toDict_host value (show "applicable_host_ids" ∈ _ by decide),
      getOr_toDict_host value (show "applicable_host_families" ∈ _ by decide)]
    by_cases hp : value.host.hasPair = true
    · simp [hp, HostFields.toPayload, getOr, Value.strOr]
    · rw [Bool.not_eq_true] at hp
      rw [host_of_not_hasPair h hp]
      rfl
  unfold ChangeSet.fromMapping
  rw [validateChangeSet_toDict h hs, ok_bind]
  have hoperations : (fieldOf value.toDict "operations").items?.getD [] =
      value.operations.map fun operation => .dict operation.toDict := rfl
  have hashes : (fieldOf value.toDict "source_hashes").strings = value.sourceHashes :=
    Value.strings_ofStrings value.sourceHashes
  have hid : (getOr value.toDict "changeset_id" (.str "")).strOr "" = value.changesetId := rfl
  have hcandidate : (getOr value.toDict "candidate_id" (.str "")).strOr "" = value.candidateId :=
    rfl
  have hpolicy : (getOr value.toDict "policy_version" (.str "")).strOr "" = value.policyVersion :=
    rfl
  have htime : (getOr value.toDict "generated_at" (.str "")).strOr "" = value.generatedAt := rfl
  have hprovider : (getOr value.toDict "provider_id" (.str "")).strOr "" = value.providerId := rfl
  rw [hoperations, mapM_fromMapping, ok_bind]
  simp only [hhost, hashes, hid, hcandidate, hpolicy, htime, hprovider]
  rw [postInit_ok.2 h]
  rfl

end ExternalIntelligence
