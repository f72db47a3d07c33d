import ExternalIntelligence.InheritanceGate

namespace ExternalIntelligence.InheritanceGate
set_option autoImplicit true

/-- What the output of a provider says when it is read as a yes. -/
structure StatesYes (output : Fields) (decision : GateDecision) : Prop where
  said : output.lookup "decision" = some (.str "YES")
  claimed : output.lookup "candidate_claim" = some (.str decision.candidateClaim)
  refs : (getOr output "evidence_refs" (.tuple [])).strings = decision.evidenceRefs
  scope : output.lookup "applicability_scope" = some (.str decision.applicabilityScope)
  hostIds : (getOr output "applicable_host_ids" (.tuple [])).strings = decision.applicableHostIds
  hostFamilies : (getOr output "applicable_host_families" (.tuple [])).strings =
    decision.applicableHostFamilies

/-- What a yes has to be supported with. -/
structure Supported (decision : GateDecision) : Prop where
  claim : 20 ≤ (Text.chars decision.candidateClaim).length ∧
    (Text.chars decision.candidateClaim).length ≤ 1200
  title : (Text.chars decision.candidateTitle).length ≤ 160
  reason : decision.reasonCode ∈ semanticReasonClasses
  cited : decision.evidenceRefs ≠ []
  hashes : ∀ ref ∈ decision.evidenceRefs, Text.chars "sha256:" <+: Text.chars ref
  benefit : decision.benefit ∈ allowedBenefits
  confidence : withinUnit decision.confidence = true
  hosts : (validateHostApplicabilityMapping decision.hostFields.toPayload false true).isOk = true
  hostIds : decision.applicableHostIds.Nodup ∧ decision.applicableHostIds.length ≤ 16
  hostFamilies : decision.applicableHostFamilies.Nodup ∧
    decision.applicableHostFamilies.length ≤ 16

/-- The texts that a decision states pass the privacy rules. -/
def StatedSafely (P : Platform) (candidate : Fields) (decision : GateDecision) : Prop :=
  (inspectText P (Text.chars decision.candidateTitle ++ ['\n'] ++
    Text.chars decision.candidateClaim ++ ['\n'] ++ Text.chars decision.benefit)
    decision.classification (sourceRef candidate)).reasonCode ∈
      ["CLASSIFIED", "GENERALIZATION_VERIFIED"]

theorem decide_eq_ok {f : GateFields} {decision : GateDecision} (h : f.decide = .ok decision) :
    decision.toGateFields = f := by
  rw [GateFields.decide] at h
  split at h
  · cases h
  · cases h
    rfl

theorem decide_ne_yes {f : GateFields} {decision : GateDecision} (other : String)
    (h : f.decide = .ok decision) (hf : f.decision = other) (hne : other ≠ "YES") :
    decision.decision ≠ "YES" := by
  rw [decide_eq_ok h, hf]
  exact hne

theorem allTexts_eq_ok {items : List String} (h : allTexts value code = .ok items) :
    value.strings = items := by
  rw [allTexts] at h
  split at h
  · cases h
  · split at h
    · cases h
      rfl
    · cases h

theorem longerThan_eq_false : longerThan most text = false ↔ (Text.chars text).length ≤ most := by
  simp only [longerThan, decide_eq_false_iff_not, Nat.not_lt]

theorem repeatedOrMany_eq_false : repeatedOrMany labels = false ↔
    labels.Nodup ∧ labels.length ≤ 16 := by
  simp only [repeatedOrMany, Bool.or_eq_false_iff, decide_eq_false_iff_not, Nat.not_lt,
    Bool.not_eq_false', decide_eq_true_eq, and_comm]

/-- The checks of a decision, for a yes. -/
theorem check_yes {f : GateFields} (h : f.check = .ok ()) (hyes : f.decision = "YES") :
    f.reasonCode ∈ semanticReasonClasses ∧
      (Text.chars f.candidateTitle).length ≤ 160 ∧ (Text.chars f.candidateClaim).length ≤ 1200 ∧
      (∀ ref ∈ f.evidenceRefs, Text.chars "sha256:" <+: Text.chars ref) ∧
      withinUnit f.confidence = true ∧
      (validateHostApplicabilityMapping f.hostFields.toPayload false true).isOk = true ∧
      (f.applicableHostIds.Nodup ∧ f.applicableHostIds.length ≤ 16) ∧
      (f.applicableHostFamilies.Nodup ∧ f.applicableHostFamilies.length ≤ 16) := by
  have hsemantic : f.isSemantic = true := by
    rw [GateFields.isSemantic, hyes]
    rfl
  unfold GateFields.check at h
  simp only [refuse_bind_ok, refuse_ok] at h
  obtain ⟨_, _, _, hreason, _, htexts, hrefs, hconfidence, _, _, _, _, hhosts, hids, _, hfamilies,
    _⟩ := h
  rw [hsemantic, Bool.true_and, Bool.not_eq_false', List.contains_iff_mem] at hreason
  rw [Bool.or_eq_false_iff, longerThan_eq_false, longerThan_eq_false] at htexts
  rw [hyes, beq_self_eq_true, Bool.true_and, Bool.not_eq_false'] at hhosts
  rw [Bool.not_eq_false'] at hconfidence
  refine ⟨hreason, htexts.1, htexts.2, ?_, hconfidence, hhosts, repeatedOrMany_eq_false.1 hids,
    repeatedOrMany_eq_false.1 hfamilies⟩
  intro ref hm
  have hprefix := List.any_eq_false.1 hrefs ref hm
  rw [Bool.not_eq_true', Bool.not_eq_false, List.isPrefixOf_iff_prefix] at hprefix
  exact hprefix

theorem lookup_of_strOr {output : Fields} {missing : Value} {text : String}
    (h : (getOr output name missing).strOr other = text) (hmissing : missing.strOr other ≠ text)
    (hother : other ≠ text) : output.lookup name = some (.str text) := by
  rw [getOr] at h
  cases hl : output.lookup name with
  | none =>
    rw [hl] at h
    exact absurd h hmissing
  | some value =>
    rw [hl] at h
    cases value with
    | str s => exact congrArg _ (congrArg _ h)
    | _ => exact absurd h hother

theorem lookup_of_isStr {output : Fields} {missing : Value}
    (hkey : (Dict.keys output).contains name = true)
    (hstr : (getOr output name missing).isStr = true) :
    output.lookup name = some (.str ((getOr output name missing).strOr "")) := by
  have hsome := Dict.lookup_isSome_iff.2 (List.contains_iff_mem.1 hkey)
  obtain ⟨value, hl⟩ := Option.isSome_iff_exists.1 hsome
  rw [getOr, hl, Option.getD_some] at hstr ⊢
  cases value with
  | str s => rfl
  | _ => cases hstr

/-- A mapping that is read as a yes says it and supports it. -/
theorem fromMapping_yes {output : Fields}
    (h : GateDecision.fromMapping output providerId hostId hostFamily = .ok decision)
    (hyes : decision.decision = "YES") :
    StatesYes output decision ∧ Supported decision ∧ decision.sourceHostId = hostId ∧
      decision.sourceHostFamily = hostFamily := by
  unfold GateDecision.fromMapping at h
  simp only [refuse_bind_ok] at h
  obtain ⟨_, _, h⟩ := h
  obtain ⟨refs, hrefs, h⟩ := Except.bind_eq_ok.1 h
  simp only [refuse_bind_ok] at h
  obtain ⟨_, _, hkeys, h⟩ := h
  obtain ⟨hostIds, hids, h⟩ := Except.bind_eq_ok.1 h
  obtain ⟨hostFamilies, hfamilies, h⟩ := Except.bind_eq_ok.1 h
  simp only [refuse_bind_ok] at h
  obtain ⟨_, _, hscope, h⟩ := h
  obtain ⟨result, hresult, h⟩ := Except.bind_eq_ok.1 h
  rw [refuse_bind_ok] at h
  obtain ⟨hfields, h⟩ := h
  cases h
  have hmade := decide_eq_ok hresult
  have hdecision : (getOr output "decision" .none).strOr "" = "YES" := by
    rw [← hyes, hmade]
  have hsaid : output.lookup "decision" = some (.str "YES") :=
    lookup_of_strOr hdecision (by decide) (by decide)
  have hyes' : (getOr output "decision" .none == .str "YES") = true := by
    rw [getOr, hsaid]
    rfl
  rw [hyes'] at hkeys hids hfamilies hscope hmade
  rw [hyes, beq_self_eq_true, Bool.true_and] at hfields
  simp only [Bool.or_eq_false_iff, Bool.not_eq_false', List.contains_iff_mem] at hfields
  obtain ⟨⟨hlong, hcited⟩, hbenefit⟩ := hfields
  have hclaim : 20 ≤ (Text.chars decision.candidateClaim).length := by
    simpa only [longerThan, decide_eq_true_eq, Nat.lt_iff_add_one_le] using hlong
  have hnonempty : "" ≠ decision.candidateClaim := by
    intro he
    rw [← he] at hclaim
    revert hclaim
    decide
  obtain ⟨hreason, htitle, hshort, hhashes, hconfidence, hhosts, hhostIds, hhostFamilies⟩ :=
    check_yes decision.checked hyes
  refine ⟨?_, ?_, congrArg GateFields.sourceHostId hmade,
    congrArg GateFields.sourceHostFamily hmade⟩
  · constructor
    case said => exact hsaid
    case claimed =>
      have htext := congrArg GateFields.candidateClaim hmade
      exact lookup_of_strOr htext.symm hnonempty hnonempty
    case refs => exact (allTexts_eq_ok hrefs).trans (congrArg GateFields.evidenceRefs hmade).symm
    case scope =>
      have hkey : (Dict.keys output).contains "applicability_scope" = true := by
        simp only [Bool.true_and, Bool.not_eq_false', List.all_cons, Bool.and_eq_true] at hkeys
        exact hkeys.1
      have hscope' := congrArg GateFields.applicabilityScope hmade
      rw [if_pos rfl, Bool.not_eq_false'] at hscope
      rw [hscope']
      exact lookup_of_isStr hkey hscope
    case hostIds =>
      rw [if_pos rfl] at hids
      exact (allTexts_eq_ok hids).trans (congrArg GateFields.applicableHostIds hmade).symm
    case hostFamilies =>
      rw [if_pos rfl] at hfamilies
      exact (allTexts_eq_ok hfamilies).trans
        (congrArg GateFields.applicableHostFamilies hmade).symm
  · exact ⟨⟨hclaim, hshort⟩, htitle, hreason, fun he => by simp [he] at hcited, hhashes, hbenefit,
      hconfidence, hhosts, hhostIds, hhostFamilies⟩

theorem readDecision_yes (h : readDecision candidate result = .ok decision)
    (hyes : decision.decision = "YES") :
    StatesYes (result.output.getD []) decision ∧ Supported decision ∧
      decision.sourceHostId = candidateValue candidate "source_host_id" "" ∧
      decision.sourceHostFamily = candidateValue candidate "source_host_family" "" := by
  obtain ⟨output, hvalid, h⟩ := Except.bind_eq_ok.1 h
  unfold validateOutput at hvalid
  simp only [refuse_bind_ok] at hvalid
  obtain ⟨_, _, _, _, hvalid⟩ := hvalid
  cases hvalid
  exact fromMapping_yes h hyes

theorem processingResult_unsettled
    (h : processingResult providerId result candidate = .ok decision) :
    decision.decision ≠ "YES" := by
  rw [processingResult] at h
  rw [decide_eq_ok h]
  dsimp only
  split <;> decide

/-- The gate says yes only for a candidate that has a claim and passes the privacy rules, and only
on the word of a provider that was asked, succeeded and gave the claim, its evidence and its scope,
in texts that pass the privacy rules in their turn. -/
theorem decideInheritance_yes {P : Platform} {candidate : Fields} {provider : GateProvider}
    {decision : GateDecision} (h : decideInheritance P candidate provider = .ok decision)
    (hyes : decision.decision = "YES") :
    Consulted P candidate ∧ (∃ result, provider.consult candidate = some (.ok result) ∧
      result.status = .success ∧ StatesYes (result.output.getD []) decision) ∧
    Supported decision ∧ StatedSafely P candidate decision ∧
    decision.sourceHostId = candidateValue candidate "source_host_id" "" ∧
    decision.sourceHostFamily = candidateValue candidate "source_host_family" "" := by
  unfold decideInheritance at h
  split at h
  · exact absurd hyes (decide_ne_yes "NO" h rfl (by decide))
  · rename_i hprivacy
    rw [Bool.not_eq_true', Bool.not_eq_false] at hprivacy
    split at h
    · exact absurd hyes (decide_ne_yes "NO" h rfl (by decide))
    · rename_i hclaim
      unfold providerDecision at h
      split at h
      · exact absurd hyes (decide_ne_yes "FAILED" h rfl (by decide))
      · split at h
        · exact absurd hyes (decide_ne_yes "FAILED" h rfl (by decide))
        · cases h
      · rename_i result hresult
        split at h
        · exact absurd hyes (processingResult_unsettled h)
        · rename_i hsuccess
          split at h
          · split at h
            · exact absurd hyes (decide_ne_yes "FAILED" h rfl (by decide))
            · cases h
          · rename_i read hread
            dsimp only at h
            split at h
            · exact absurd hyes (decide_ne_yes "NO" h rfl (by decide))
            · rename_i hstated
              cases h
              obtain ⟨hstates, hsupported, hhost, hfamily⟩ := readDecision_yes hread hyes
              have hsafe : StatedSafely P candidate decision := by
                unfold StatedSafely
                simpa only [hyes, true_and, Bool.not_eq_true', Bool.not_eq_false,
                  List.contains_iff_mem] using hstated
              exact ⟨⟨hprivacy, hclaim⟩, ⟨result, hresult, not_not.1 hsuccess, hstates⟩, hsupported,
                hsafe, hhost, hfamily⟩

/-- An answer that supports a yes for every host. -/
def sampleOutput : Fields :=
  [("decision", .str "YES"), ("candidate_title", .str "Rule"),
    ("candidate_claim", .str "Check the lock before a write"),
    ("evidence_refs", .list [.str "sha256:0123"]), ("benefit", .str "avoided_failure"),
    ("applicability_scope", .str "universal"), ("applicable_host_ids", .list []),
    ("applicable_host_families", .list [])]

theorem decideInheritance_yes_sample :
    ∃ decision, decideInheritance samplePlatform sampleCandidate (.mapping sampleOutput) =
      .ok decision ∧ decision.decision = "YES" ∧
      (Consulted samplePlatform sampleCandidate ∧
        (∃ result, (GateProvider.mapping sampleOutput).consult sampleCandidate =
          some (.ok result) ∧ result.status = .success ∧
            StatesYes (result.output.getD []) decision) ∧
        Supported decision ∧ StatedSafely samplePlatform sampleCandidate decision ∧
        decision.sourceHostId = candidateValue sampleCandidate "source_host_id" "" ∧
        decision.sourceHostFamily = candidateValue sampleCandidate "source_host_family" "") := by
  have hdecides : (decideInheritance samplePlatform sampleCandidate
      (.mapping sampleOutput)).toOption.map (fun decision => decision.decision) = some "YES" := by
    decide +kernel
  cases h : decideInheritance samplePlatform sampleCandidate (.mapping sampleOutput) with
  | error raised =>
    rw [h] at hdecides
    cases hdecides
  | ok decision =>
    rw [h] at hdecides
    have hyes : decision.decision = "YES" := Option.some.inj hdecides
    exact ⟨decision, rfl, hyes, decideInheritance_yes h hyes⟩

end ExternalIntelligence.InheritanceGate
