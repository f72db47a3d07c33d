import ExternalIntelligence.ChangesetMapping

namespace ExternalIntelligence
set_option autoImplicit true

def gateReasonClasses : List String :=
  ["project_specific", "one_off_fact", "no_evidence", "no_future_benefit",
    "duplicate_without_new_evidence", "secret_or_confidential", "transient_state",
    "already_encoded"]

def allowedBenefits : List String :=
  ["avoided_failure", "reduced_rework", "faster_completion", "quality_improvement",
    "discovered_structure", ""]

def semanticReasonClasses : List String :=
  gateReasonClasses ++ ["evidence_verified", "evidence_repeated", "novel_structure"]

/-- `[A-Z0-9_.:-]` one to 80 times. -/
def safeProcessingReason (reason : String) : Bool :=
  let chars := Text.chars reason
  !chars.isEmpty && chars.length ≤ 80 &&
    chars.all fun c => ('A' ≤ c && c ≤ 'Z') || Text.isDigit c || (Text.chars "_.:-").contains c

/-- Whether the text of a float is that of one from 0 to 1. -/
def unitFloatText (text : String) : Bool :=
  let chars := Text.chars text
  text == "1.0" || text == "-0.0" || (Text.chars "0.").isPrefixOf chars ||
    (!(Text.chars "-").isPrefixOf chars && Text.contains (Text.chars "e-") chars)

def withinUnit : Value → Bool
  | .int i => 0 ≤ i && i ≤ 1
  | .float text => unitFloatText text
  | _ => false

def isNumber : Value → Bool
  | .int _ | .float _ => true
  | _ => false

/-- What a decision of the gate is made from. -/
structure GateFields where
  decision : String
  reasonCode : String
  candidateTitle : String := ""
  candidateClaim : String := ""
  evidenceRefs : List String := []
  benefit : String := ""
  classification : String := "private-reusable"
  confidence : Value := .float "0.0"
  providerId : Value := .str ""
  processingState : String := "complete"
  retryAfterSeconds : Option Int := none
  nextEligibleAt : Option Moment := none
  sourceHostId : String := ""
  sourceHostFamily : String := ""
  applicabilityScope : String := "universal"
  applicableHostIds : List String := []
  applicableHostFamilies : List String := []

def longerThan (most : Nat) (text : String) : Bool :=
  most < (Text.chars text).length

def repeatedOrMany (labels : List String) : Bool :=
  16 < labels.length || !decide labels.Nodup

def unsafeLabel (label : String) : Bool :=
  !safeLabelShape 159 (Text.chars label)

namespace GateFields

def isSemantic (f : GateFields) : Bool :=
  ["YES", "NO"].contains f.decision

/-- The applicability of a decision as it is validated. -/
def hostFields (f : GateFields) : HostFields where
  sourceHostId := f.sourceHostId
  sourceHostFamily := f.sourceHostFamily
  applicabilityScope := f.applicabilityScope
  applicableHostIds := f.applicableHostIds
  applicableHostFamilies := f.applicableHostFamilies

def check (f : GateFields) : Except Raised Unit := do
  refuse (!(["YES", "NO", "DEFERRED", "FAILED"].contains f.decision))
    (valueError "GATE_DECISION_INVALID")
  refuse (!f.providerId.isStr) (valueError "GATE_FIELD_INVALID")
  refuse (f.reasonCode == "" || longerThan 80 f.reasonCode) (valueError "GATE_REASON_INVALID")
  refuse (f.isSemantic && !semanticReasonClasses.contains f.reasonCode)
    (valueError "GATE_REASON_CLASS_INVALID")
  refuse (!f.isSemantic && !safeProcessingReason f.reasonCode) (valueError "GATE_REASON_INVALID")
  refuse (longerThan 160 f.candidateTitle || longerThan 1200 f.candidateClaim)
    (valueError "GATE_CANDIDATE_TOO_LARGE")
  refuse (f.evidenceRefs.any fun item => !(Text.chars "sha256:").isPrefixOf (Text.chars item))
    (valueError "GATE_EVIDENCE_REF_INVALID")
  refuse (!withinUnit f.confidence) (valueError "GATE_CONFIDENCE_INVALID")
  refuse (f.retryAfterSeconds.any (· < 0)) (valueError "GATE_RETRY_AFTER_INVALID")
  refuse (f.nextEligibleAt.any fun moment => !moment.aware) (valueError "GATE_TIMEZONE_REQUIRED")
  refuse (!(validateHostLabel (.str f.sourceHostId) "source_host_id" true).isOk)
    (valueError "GATE_HOST_LABEL_INVALID")
  refuse (!(validateHostLabel (.str f.sourceHostFamily) "source_host_family" true).isOk)
    (valueError "GATE_HOST_LABEL_INVALID")
  refuse (f.decision == "YES" &&
    !(validateHostApplicabilityMapping f.hostFields.toPayload false true).isOk)
    (valueError "GATE_APPLICABILITY_INVALID")
  refuse (repeatedOrMany f.applicableHostIds) (valueError "GATE_HOST_LIST_INVALID")
  refuse (f.applicableHostIds.any unsafeLabel) (valueError "GATE_HOST_LABEL_INVALID")
  refuse (repeatedOrMany f.applicableHostFamilies) (valueError "GATE_HOST_LIST_INVALID")
  refuse (f.applicableHostFamilies.any unsafeLabel) (valueError "GATE_HOST_LABEL_INVALID")

end GateFields

structure InheritanceGate.GateDecision extends GateFields where
  checked : toGateFields.check = .ok ()

def GateFields.decide (f : GateFields) : Except Raised InheritanceGate.GateDecision :=
  match h : f.check with
  | .error raised => .error raised
  | .ok () => .ok ⟨f, h⟩

/-- The texts of a list or a tuple that has no other items. -/
def allTexts (value : Value) (code : String) : Except Raised (List String) :=
  match value.items? with
  | none => .error (valueError code)
  | some items => if items.all Value.isStr then .ok value.strings else .error (valueError code)

def InheritanceGate.GateDecision.fromMapping (value : Fields)
    (providerId sourceHostId sourceHostFamily : String) :
    Except Raised InheritanceGate.GateDecision := do
  let decision := getOr value "decision" .none
  refuse (!hashable decision) ⟨"TypeError", "unhashable type"⟩
  refuse (!([.str "YES", .str "NO"].contains decision)) (valueError "GATE_DECISION_INVALID")
  let yes := decision == .str "YES"
  let refs ← allTexts (getOr value "evidence_refs" (.tuple [])) "GATE_EVIDENCE_REFS_INVALID"
  refuse (["reason_code", "candidate_title", "candidate_claim", "benefit",
    "classification"].any fun name => (value.lookup name).any fun field => !field.isStr)
    (valueError "GATE_FIELD_INVALID")
  let confidence := getOr value "confidence" (.int 0)
  refuse (!isNumber confidence) (valueError "GATE_CONFIDENCE_INVALID")
  refuse (yes && !(["applicability_scope", "applicable_host_ids",
    "applicable_host_families"].all (Dict.keys value).contains))
    (valueError "GATE_YES_APPLICABILITY_REQUIRED")
  let hostIds ← allTexts (if yes then getOr value "applicable_host_ids" (.tuple [])
    else .tuple []) "GATE_HOST_LIST_INVALID"
  let hostFamilies ← allTexts (if yes then getOr value "applicable_host_families" (.tuple [])
    else .tuple []) "GATE_HOST_LIST_INVALID"
  refuse (!decide hostIds.Nodup || !decide hostFamilies.Nodup)
    (valueError "GATE_HOST_LIST_INVALID")
  refuse ((value.lookup "provider_id").any fun field => !field.isStr)
    (valueError "GATE_PROVIDER_ID_INVALID")
  let scope := if yes then getOr value "applicability_scope" (.str "universal")
    else .str "universal"
  refuse (!scope.isStr) (valueError "GATE_APPLICABILITY_SCOPE_INVALID")
  let text (name default : String) : String := (getOr value name (.str default)).strOr default
  let result ← GateFields.decide
    { decision := decision.strOr ""
      reasonCode := text "reason_code" (if yes then "evidence_verified" else "no_evidence")
      candidateTitle := text "candidate_title" ""
      candidateClaim := text "candidate_claim" ""
      evidenceRefs := refs
      benefit := text "benefit" ""
      classification := text "classification" "private-reusable"
      confidence
      providerId := .str (orElse providerId (text "provider_id" ""))
      sourceHostId
      sourceHostFamily
      applicabilityScope := scope.strOr ""
      applicableHostIds := hostIds
      applicableHostFamilies := hostFamilies }
  refuse (result.decision == "YES" && (!longerThan 19 result.candidateClaim ||
    result.evidenceRefs.isEmpty || !allowedBenefits.contains result.benefit))
    (valueError "GATE_YES_FIELDS_INVALID")
  pure result

/-- A text of the candidate, or a default when it has no text there. -/
def candidateValue (candidate : Fields) (field default : String) : String :=
  (getOr candidate field (.str default)).strOr default

def candidateInput (candidate : Fields) : Fields :=
  candidate.filter fun field =>
    !(["raw", "transcript", "response", "tool_output"].contains field.1)

inductive ProviderStatus where
  | success
  | deferred
  | failed
  | disabled
deriving DecidableEq, Repr

/-- What a provider answers the gate with. -/
structure ProviderAnswer where
  providerId : String
  status : ProviderStatus := .success
  output : Option Fields := none
  errorCode : Option String := none
  retryAfterSeconds : Option Int := none
  nextEligibleAt : Option Moment := none
  named : providerId ≠ "" ∧ (Text.chars providerId).length ≤ 100
  retried : retryAfterSeconds.any (· < 0) = false
  zoned : nextEligibleAt.any (fun moment => !moment.aware) = false

/-- An exception, which is caught only if its class is derived from Exception. -/
structure Thrown where
  name : String
  isException : Bool
deriving DecidableEq

/-- What generate gives back. -/
inductive Returned where
  | answer (result : ProviderAnswer)
  | value (value : Value)

inductive GateProvider where
  | none
  | answer (result : ProviderAnswer)
  | mapping (output : Fields)
  /-- An object with its provider_id, if it has one, and what its generate gives or raises for the
  input that it is called with. -/
  | object (providerId : Option Value) (generate : Fields → Except Thrown Returned)

namespace GateProvider

/-- The provider_id attribute. -/
def idOr (provider : GateProvider) (default : String) : Value :=
  match provider with
  | .answer result => .str result.providerId
  | .object (some value) _ => value
  | _ => .str default

/-- The answer or the exception that the gate gets from a provider. -/
def consult (provider : GateProvider) (candidate : Fields) :
    Option (Except Thrown ProviderAnswer) :=
  match provider with
  | .none => Option.none
  | .answer result => some (.ok result)
  | .mapping output =>
    some (.ok { providerId := "manual-structured", output := some output, named := by decide,
                retried := rfl, zoned := rfl })
  | .object _ generate =>
    some <| match generate (candidateInput candidate) with
      | .error thrown => .error thrown
      | .ok (.answer result) => .ok result
      | .ok (.value .none) =>
        .ok { providerId := "provider", named := by decide, retried := rfl, zoned := rfl }
      | .ok (.value (.dict output)) =>
        .ok { providerId := "provider", output := some output, named := by decide,
              retried := rfl, zoned := rfl }
      | .ok (.value _) => .error ⟨"ValueError", true⟩

end GateProvider

def validateOutput (output : Fields) : Except Raised Fields := do
  refuse (2 * 1024 * 1024 < Value.utf8Length (canonicalJson (.dict output)))
    (valueError "INFERENCE_INPUT_TOO_LARGE")
  refuse ((output.lookup "decision").any fun value => !hashable value)
    ⟨"TypeError", "unhashable type"⟩
  refuse ((output.lookup "decision").any fun value =>
    !([.str "YES", .str "NO"].contains value)) ⟨"ProviderProtocolError", "OUTPUT_DECISION_INVALID"⟩
  refuse ((output.lookup "confidence").any fun value => !withinUnit value)
    ⟨"ProviderProtocolError", "OUTPUT_CONFIDENCE_INVALID"⟩
  pure output

/-- The texts in a list or a tuple of the candidate. -/
def candidateTexts (candidate : Fields) (field : String) : List String :=
  (getOr candidate field (.tuple [])).strings

def processingStatus (result : ProviderAnswer) : String :=
  let status := orElse (result.errorCode.getD "") "PROVIDER_FAILED"
  if safeProcessingReason status then status else "PROVIDER_FAILED"

def processingResult (providerId : Value) (result : ProviderAnswer) (candidate : Fields) :
    Except Raised InheritanceGate.GateDecision :=
  let scope := candidateValue candidate "applicability_scope" "universal"
  GateFields.decide
    { decision := if result.status = .deferred then "DEFERRED" else "FAILED"
      reasonCode := processingStatus result
      candidateTitle := candidateValue candidate "title" ""
      classification :=
        orElse (candidateValue candidate "classification" "private-reusable") "private-reusable"
      providerId := valueOr providerId (.str result.providerId)
      processingState := processingStatus result
      retryAfterSeconds := result.retryAfterSeconds
      nextEligibleAt := result.nextEligibleAt
      sourceHostId := candidateValue candidate "source_host_id" ""
      sourceHostFamily := candidateValue candidate "source_host_family" ""
      applicabilityScope :=
        if hostScopeValues.contains scope then scope else "universal"
      applicableHostIds := candidateTexts candidate "applicable_host_ids"
      applicableHostFamilies := candidateTexts candidate "applicable_host_families" }

namespace InheritanceGate

section

variable (candidate : Fields)

def title : String :=
  candidateValue candidate "candidate_title" (candidateValue candidate "title" "")

def claim : String :=
  candidateValue candidate "candidate_claim" (candidateValue candidate "claim" "")

def classification : String :=
  orElse (candidateValue candidate "classification" "private-reusable") "private-reusable"

def sourceRef : List Char :=
  Text.chars (candidateValue candidate "source_ref" "candidate")

/-- The reason that the texts of a candidate are classified with. -/
def privacyReason (P : Platform) : String :=
  (inspectText P (Text.chars (title candidate) ++ ['\n'] ++ Text.chars (claim candidate))
    (candidateValue candidate "source_kind" (classification candidate))
    (sourceRef candidate)).reasonCode

/-- A decision on a candidate with its source and nothing else of it. -/
def decisionOn (decision reasonCode : String) (providerId : Value) : GateFields :=
  { decision
    reasonCode
    providerId
    sourceHostId := candidateValue candidate "source_host_id" ""
    sourceHostFamily := candidateValue candidate "source_host_family" "" }

/-- The refusal of texts that privacy rules hold back. -/
def refusal (providerId : String) : GateFields :=
  { decisionOn candidate "NO" "secret_or_confidential" (.str providerId) with
    confidence := .float "1.0" }

/-- The refusal of a candidate without a claim. -/
def noEvidence : GateFields :=
  { decisionOn candidate "NO" "no_evidence" (.str "input-gate") with
    classification := classification candidate }

/-- A failure before or in the answer of the provider. -/
def failure (reasonCode processingState : String) (providerId : Value) : GateFields :=
  { decisionOn candidate "FAILED" reasonCode providerId with
    candidateTitle := title candidate
    classification := classification candidate
    processingState }

/-- The decision that a provider's answer states. -/
def readDecision (result : ProviderAnswer) : Except Raised GateDecision :=
  (validateOutput (result.output.getD [])).bind fun output =>
    GateDecision.fromMapping output result.providerId
      (candidateValue candidate "source_host_id" "")
      (candidateValue candidate "source_host_family" "")

end

def isMalformed (raised : Raised) : Bool :=
  ["ValueError", "TypeError", "ProviderProtocolError"].contains raised.type

/-- The decision on a candidate that a provider is asked about. -/
def providerDecision (P : Platform) (candidate : Fields) (provider : GateProvider) :
    Except Raised GateDecision :=
  match provider.consult candidate with
  | none =>
    (failure candidate "PROVIDER_UNAVAILABLE" "PROVIDER_UNAVAILABLE" (.str "none")).decide
  | some (.error thrown) =>
    if thrown.isException then
      (failure candidate thrown.name "PROVIDER_EXCEPTION" (provider.idOr "provider")).decide
    else .error ⟨thrown.name, ""⟩
  | some (.ok result) =>
    if result.status ≠ .success then
      processingResult (provider.idOr result.providerId) result candidate
    else
      match readDecision candidate result with
      | .error raised =>
        if isMalformed raised then
          (failure candidate "MALFORMED_RESPONSE" "MALFORMED_RESPONSE"
            (.str result.providerId)).decide
        else .error raised
      | .ok decision =>
        let stated := Text.chars decision.candidateTitle ++ ['\n'] ++
          Text.chars decision.candidateClaim ++ ['\n'] ++ Text.chars decision.benefit
        if decision.decision = "YES" ∧ !(["CLASSIFIED", "GENERALIZATION_VERIFIED"].contains
            (inspectText P stated decision.classification (sourceRef candidate)).reasonCode) then
          (refusal candidate result.providerId).decide
        else .ok decision

/-- The privacy rules let a candidate through. -/
def passesPrivacy (P : Platform) (candidate : Fields) : Bool :=
  ["CLASSIFIED", "CLIENT_CONFIDENTIAL_LOCAL_ONLY", "GENERALIZATION_VERIFIED"].contains
    (privacyReason candidate P)

end InheritanceGate

open InheritanceGate in
def decideInheritance (P : Platform) (candidate : Fields) (provider : GateProvider) :
    Except Raised InheritanceGate.GateDecision :=
  if !passesPrivacy P candidate then
    (InheritanceGate.refusal candidate "privacy-gate").decide
  else if claim candidate = "" then (noEvidence candidate).decide
  else providerDecision P candidate provider

theorem GateFields.exists_decide {f : GateFields} {p : GateFields → Prop} :
    (∃ decision, f.decide = .ok decision ∧ p decision.toGateFields) ↔ f.check = .ok () ∧ p f := by
  unfold GateFields.decide
  constructor
  · intro ⟨decision, hdecision, hp⟩
    split at hdecision
    · cases hdecision
    · rename_i hcheck
      cases hdecision
      exact ⟨hcheck, hp⟩
  · intro ⟨hcheck, hp⟩
    split
    · rename_i raised hraised
      rw [hraised] at hcheck
      cases hcheck
    · exact ⟨_, rfl, hp⟩

theorem GateFields.decide_of_check {f : GateFields} (h : f.check = .ok ()) :
    ∃ decision, f.decide = .ok decision := by
  obtain ⟨decision, hdecision, _⟩ :=
    (GateFields.exists_decide (p := fun _ => True)).2 ⟨h, trivial⟩
  exact ⟨decision, hdecision⟩

/-- Labels that the host lists of a decision may have. -/
def hostLabelList (labels : List String) : Bool :=
  !repeatedOrMany labels && !labels.any unsafeLabel

/-- Fields with no claim, no evidence and a source that may be named. -/
structure GateFields.Bare (f : GateFields) : Prop where
  claim : f.candidateClaim = ""
  evidence : f.evidenceRefs = []
  confidence : withinUnit f.confidence = true
  retried : f.retryAfterSeconds.any (· < 0) = false
  zoned : f.nextEligibleAt.any (fun moment => !moment.aware) = false
  hostId : (validateHostLabel (.str f.sourceHostId) "source_host_id" true).isOk = true
  hostFamily : (validateHostLabel (.str f.sourceHostFamily) "source_host_family" true).isOk = true

theorem longerThan_empty : longerThan most "" = false :=
  decide_eq_false (Nat.not_lt_zero most)

theorem safeProcessingReason_short (h : safeProcessingReason reason = true) :
    (reason == "" || longerThan 80 reason) = false := by
  simp only [safeProcessingReason, Bool.and_eq_true, Bool.not_eq_true', decide_eq_true_eq] at h
  have hne : reason ≠ "" := by
    intro hempty
    rw [hempty] at h
    exact absurd h.1.1 (by decide)
  rw [beq_eq_false_iff_ne.2 hne, Bool.false_or]
  exact decide_eq_false (Nat.not_lt.2 h.1.2)

theorem GateFields.check_unsettled {f : GateFields}
    (hdecision : f.decision = "DEFERRED" ∨ f.decision = "FAILED") (h : f.Bare) :
    f.check = .ok () ↔ f.providerId.isStr = true ∧ safeProcessingReason f.reasonCode = true ∧
      longerThan 160 f.candidateTitle = false ∧ hostLabelList f.applicableHostIds = true ∧
        hostLabelList f.applicableHostFamilies = true := by
  have hknown : (["YES", "NO", "DEFERRED", "FAILED"].contains f.decision) = true := by
    obtain he | he := hdecision
    all_goals
      rw [he]
      decide
  have hsemantic : f.isSemantic = false := by
    unfold isSemantic
    obtain he | he := hdecision
    all_goals
      rw [he]
      decide
  have hyes : (f.decision == "YES") = false := by
    obtain he | he := hdecision
    all_goals
      rw [he]
      decide
  unfold check
  simp only [refuse_bind_ok, refuse_ok, hknown, hsemantic, hyes, h.claim, h.evidence, h.confidence,
    h.retried, h.zoned, h.hostId, h.hostFamily, longerThan_empty, List.any_nil, Bool.or_false,
    Bool.not_true, Bool.not_false, Bool.false_and, Bool.true_and, true_and, hostLabelList,
    Bool.and_eq_true, Bool.not_eq_true', Bool.not_eq_false']
  constructor
  · rintro ⟨hprovider, _, hreason, htitle, hids, hidLabels, hfamilies, hfamilyLabels⟩
    exact ⟨hprovider, hreason, htitle, ⟨hids, hidLabels⟩, hfamilies, hfamilyLabels⟩
  · rintro ⟨hprovider, hreason, htitle, ⟨hids, hidLabels⟩, hfamilies, hfamilyLabels⟩
    exact ⟨hprovider, safeProcessingReason_short hreason, hreason, htitle, hids, hidLabels,
      hfamilies, hfamilyLabels⟩

theorem GateFields.check_no {f : GateFields} (hdecision : f.decision = "NO")
    (hreason : f.reasonCode = "secret_or_confidential" ∨ f.reasonCode = "no_evidence")
    (htitle : f.candidateTitle = "") (hprovider : f.providerId.isStr = true)
    (hids : f.applicableHostIds = []) (hfamilies : f.applicableHostFamilies = []) (h : f.Bare) :
    f.check = .ok () := by
  have hsemantic : f.isSemantic = true := by
    unfold isSemantic
    rw [hdecision]
    decide
  have hclass : semanticReasonClasses.contains f.reasonCode = true := by
    obtain he | he := hreason
    all_goals
      rw [he]
      decide
  have hshort : (f.reasonCode == "" || longerThan 80 f.reasonCode) = false := by
    obtain he | he := hreason
    all_goals
      rw [he]
      decide
  have hknown : (["YES", "NO", "DEFERRED", "FAILED"].contains f.decision) = true := by
    rw [hdecision]
    decide
  have hyes : (f.decision == "YES") = false := by
    rw [hdecision]
    decide
  have hnone : repeatedOrMany [] = false := by decide
  unfold check
  simp only [refuse_bind_ok, refuse_ok, hknown, hsemantic, hyes, hclass, hshort, htitle, hprovider,
    hids, hfamilies, h.claim, h.evidence, h.confidence, h.retried, h.zoned, h.hostId,
    h.hostFamily, longerThan_empty, hnone, List.any_nil, Bool.or_false, Bool.not_true,
    Bool.false_and, Bool.and_false, and_true]

namespace InheritanceGate

section

variable {P : Platform} {candidate : Fields} {provider : GateProvider}

/-- The source of a candidate is valid labels, or not given. -/
structure SourceLabels (candidate : Fields) : Prop where
  hostId : (validateHostLabel (.str (candidateValue candidate "source_host_id" ""))
    "source_host_id" true).isOk = true
  hostFamily : (validateHostLabel (.str (candidateValue candidate "source_host_family" ""))
    "source_host_family" true).isOk = true

theorem bare_decisionOn (h : SourceLabels candidate) (decision reasonCode : String)
    (providerId : Value) : (decisionOn candidate decision reasonCode providerId).Bare := by
  constructor
  case claim => rfl
  case evidence => rfl
  case confidence => exact (by decide : unitFloatText "0.0" = true)
  case retried => rfl
  case zoned => rfl
  case hostId => exact h.hostId
  case hostFamily => exact h.hostFamily

theorem bare_failure (h : SourceLabels candidate) (reasonCode state : String) (providerId : Value) :
    (failure candidate reasonCode state providerId).Bare := by
  have hbare := bare_decisionOn h "FAILED" reasonCode providerId
  constructor
  case claim => rfl
  case evidence => rfl
  case confidence => exact hbare.confidence
  case retried => rfl
  case zoned => rfl
  case hostId => exact h.hostId
  case hostFamily => exact h.hostFamily

theorem check_failure (h : SourceLabels candidate) (reasonCode state : String)
    (providerId : Value) :
    (failure candidate reasonCode state providerId).check = .ok () ↔
      providerId.isStr = true ∧ safeProcessingReason reasonCode = true ∧
        longerThan 160 (title candidate) = false := by
  rw [GateFields.check_unsettled (.inr rfl) (bare_failure h reasonCode state providerId)]
  have hnone : hostLabelList [] = true := by decide
  exact ⟨fun ⟨hp, hr, ht, _⟩ => ⟨hp, hr, ht⟩, fun ⟨hp, hr, ht⟩ => ⟨hp, hr, ht, hnone, hnone⟩⟩

theorem refusal_decides (h : SourceLabels candidate) (providerId : String) :
    ∃ decision, (refusal candidate providerId).decide = .ok decision := by
  apply GateFields.decide_of_check
  apply GateFields.check_no rfl (.inl rfl) rfl rfl rfl rfl
  constructor
  case claim => rfl
  case evidence => rfl
  case confidence => exact (by decide : unitFloatText "1.0" = true)
  case retried => rfl
  case zoned => rfl
  case hostId => exact h.hostId
  case hostFamily => exact h.hostFamily

theorem noEvidence_decides (h : SourceLabels candidate) :
    ∃ decision, (noEvidence candidate).decide = .ok decision := by
  have hbare := bare_decisionOn h "NO" "no_evidence" (.str "input-gate")
  apply GateFields.decide_of_check
  apply GateFields.check_no rfl (.inr rfl) rfl rfl rfl rfl
  constructor
  case claim => rfl
  case evidence => rfl
  case confidence => exact hbare.confidence
  case retried => rfl
  case zoned => rfl
  case hostId => exact h.hostId
  case hostFamily => exact h.hostFamily

end

end InheritanceGate

/-- What a reading raises, the gate takes for a malformed response. -/
def RaisesMalformed (x : Except Raised α) : Prop :=
  ∀ raised, x = .error raised → InheritanceGate.isMalformed raised = true

namespace RaisesMalformed

theorem ok (a : α) : RaisesMalformed (Except.ok a) := by
  intro raised h
  cases h

theorem refuse (hraised : InheritanceGate.isMalformed raised = true) (bad : Bool) :
    RaisesMalformed (refuse bad raised) := by
  intro other h
  cases bad with
  | false => cases h
  | true =>
    cases h
    exact hraised

theorem bind {x : Except Raised α} {f : α → Except Raised β} (hx : RaisesMalformed x)
    (hf : ∀ a, RaisesMalformed (f a)) : RaisesMalformed (x >>= f) := by
  intro raised h
  cases x with
  | error other =>
    cases h
    exact hx _ rfl
  | ok a => exact hf a raised h

theorem allTexts (value : Value) (code : String) : RaisesMalformed (allTexts value code) := by
  intro raised h
  unfold ExternalIntelligence.allTexts at h
  split at h
  · cases h
    rfl
  · split at h
    · cases h
    · cases h
      rfl

theorem check (f : GateFields) : RaisesMalformed f.check := by
  unfold GateFields.check
  repeat
    apply bind (refuse rfl _)
    intro _
  exact refuse rfl _

theorem decide (f : GateFields) : RaisesMalformed f.decide := by
  intro raised h
  unfold GateFields.decide at h
  split at h
  · rename_i other hcheck
    cases h
    exact check f _ hcheck
  · cases h

theorem validateOutput (output : Fields) : RaisesMalformed (validateOutput output) := by
  unfold ExternalIntelligence.validateOutput
  repeat
    apply bind (refuse rfl _)
    intro _
  exact ok output

theorem fromMapping (value : Fields) (providerId hostId hostFamily : String) :
    RaisesMalformed (InheritanceGate.GateDecision.fromMapping value providerId hostId hostFamily) := by
  unfold InheritanceGate.GateDecision.fromMapping
  apply bind (refuse rfl _)
  intro _
  apply bind (refuse rfl _)
  intro _
  apply bind (allTexts _ _)
  intro refs
  apply bind (refuse rfl _)
  intro _
  apply bind (refuse rfl _)
  intro _
  apply bind (refuse rfl _)
  intro _
  apply bind (allTexts _ _)
  intro hostIds
  apply bind (allTexts _ _)
  intro hostFamilies
  apply bind (refuse rfl _)
  intro _
  apply bind (refuse rfl _)
  intro _
  apply bind (refuse rfl _)
  intro _
  apply bind (decide _)
  intro result
  apply bind (refuse rfl _)
  intro _
  exact ok result

theorem readDecision (candidate : Fields) (result : ProviderAnswer) :
    RaisesMalformed (InheritanceGate.readDecision candidate result) := by
  apply bind (validateOutput _)
  intro output
  exact fromMapping output _ _ _

end RaisesMalformed

namespace InheritanceGate

/-- The gate asks the provider about a candidate. -/
def Consulted (P : Platform) (candidate : Fields) : Prop :=
  passesPrivacy P candidate = true ∧ claim candidate ≠ ""

/-- A provider that is asked raises, fails or defers. -/
def Unsuccessful (candidate : Fields) (provider : GateProvider) : Prop :=
  match provider.consult candidate with
  | none => False
  | some (.error _) => True
  | some (.ok result) => result.status ≠ .success

/-- The gate decides, and never yes or no for a provider that raises, fails or defers. -/
def Answers (P : Platform) (candidate : Fields) (provider : GateProvider) : Prop :=
  ∃ decision, decideInheritance P candidate provider = .ok decision ∧
    (Consulted P candidate → Unsuccessful candidate provider →
      decision.decision = "DEFERRED" ∨ decision.decision = "FAILED")

/-- What the provider gives and the candidate's own texts can be stated in a decision. -/
def Statable (candidate : Fields) (provider : GateProvider) : Prop :=
  match provider.consult candidate with
  | none => longerThan 160 (title candidate) = false
  | some (.error thrown) =>
    thrown.isException = true ∧ (provider.idOr "provider").isStr = true ∧
      safeProcessingReason thrown.name = true ∧ longerThan 160 (title candidate) = false
  | some (.ok result) =>
    if result.status = .success then
      (readDecision candidate result).isOk = true ∨ longerThan 160 (title candidate) = false
    else
      (valueOr (provider.idOr result.providerId) (.str result.providerId)).isStr = true ∧
        longerThan 160 (candidateValue candidate "title" "") = false ∧
        hostLabelList (candidateTexts candidate "applicable_host_ids") = true ∧
        hostLabelList (candidateTexts candidate "applicable_host_families") = true

section

variable {P : Platform} {candidate : Fields} {provider : GateProvider}

theorem safeProcessingReason_status (result : ProviderAnswer) :
    safeProcessingReason (processingStatus result) = true := by
  unfold processingStatus
  dsimp only
  split
  · rename_i hsafe
    exact hsafe
  · decide

theorem processingResult_decides (h : SourceLabels candidate) (providerId : Value)
    (result : ProviderAnswer) :
    (∃ decision, processingResult providerId result candidate = .ok decision ∧
      (decision.decision = "DEFERRED" ∨ decision.decision = "FAILED")) ↔
      (valueOr providerId (.str result.providerId)).isStr = true ∧
        longerThan 160 (candidateValue candidate "title" "") = false ∧
        hostLabelList (candidateTexts candidate "applicable_host_ids") = true ∧
        hostLabelList (candidateTexts candidate "applicable_host_families") = true := by
  unfold processingResult
  dsimp only
  rw [GateFields.exists_decide
    (p := fun f => f.decision = "DEFERRED" ∨ f.decision = "FAILED")]
  have hdecision : (if result.status = .deferred then "DEFERRED" else "FAILED") = "DEFERRED" ∨
      (if result.status = .deferred then "DEFERRED" else "FAILED") = "FAILED" := by
    split
    · exact .inl rfl
    · exact .inr rfl
  rw [GateFields.check_unsettled hdecision]
  · have hreason := safeProcessingReason_status result
    exact ⟨fun ⟨⟨hp, _, ht, hi, hf⟩, _⟩ => ⟨hp, ht, hi, hf⟩,
      fun ⟨hp, ht, hi, hf⟩ => ⟨⟨hp, hreason, ht, hi, hf⟩, hdecision⟩⟩
  · constructor
    case claim => rfl
    case evidence => rfl
    case confidence => exact (by decide : unitFloatText "0.0" = true)
    case retried => exact result.retried
    case zoned => exact result.zoned
    case hostId => exact h.hostId
    case hostFamily => exact h.hostFamily

theorem failure_decides (h : SourceLabels candidate) (reasonCode state : String)
    (providerId : Value) {p : GateFields → Prop}
    (hp : p (failure candidate reasonCode state providerId)) :
    (∃ decision, (failure candidate reasonCode state providerId).decide = .ok decision ∧
      p decision.toGateFields) ↔
      providerId.isStr = true ∧ safeProcessingReason reasonCode = true ∧
        longerThan 160 (title candidate) = false := by
  rw [GateFields.exists_decide, check_failure h]
  exact and_iff_left hp

end

end InheritanceGate

namespace InheritanceGate

section

variable {P : Platform} {candidate : Fields} {provider : GateProvider}

theorem providerDecision_iff (h : SourceLabels candidate) :
    (∃ decision, providerDecision P candidate provider = .ok decision ∧
      (Unsuccessful candidate provider →
        decision.decision = "DEFERRED" ∨ decision.decision = "FAILED")) ↔
      Statable candidate provider := by
  unfold providerDecision Unsuccessful Statable
  cases hconsult : provider.consult candidate with
  | none =>
    dsimp only
    rw [failure_decides h _ _ _ (p := fun f => False →
      f.decision = "DEFERRED" ∨ f.decision = "FAILED") False.elim]
    exact ⟨fun ⟨_, _, ht⟩ => ht, fun ht => ⟨rfl, by decide, ht⟩⟩
  | some asked =>
    cases asked with
    | error thrown =>
      dsimp only
      cases hexception : thrown.isException with
      | false =>
        rw [if_neg Bool.false_ne_true]
        constructor
        · intro ⟨decision, hdecision, _⟩
          cases hdecision
        · intro hstatable
          cases hstatable.1
      | true =>
        rw [if_pos rfl, failure_decides h _ _ _ (p := fun f => True →
          f.decision = "DEFERRED" ∨ f.decision = "FAILED") fun _ => .inr rfl]
        exact (and_iff_right rfl).symm
    | ok result =>
      dsimp only
      by_cases hstatus : result.status = .success
      · rw [if_neg (not_not.2 hstatus), if_pos hstatus]
        cases hread : readDecision candidate result with
        | error raised =>
          have hmalformed := RaisesMalformed.readDecision candidate result raised hread
          dsimp only
          rw [if_pos hmalformed, failure_decides h _ _ _ (p := fun f => result.status ≠ .success →
            f.decision = "DEFERRED" ∨ f.decision = "FAILED") fun hne => absurd hstatus hne]
          constructor
          · intro ⟨_, _, ht⟩
            exact .inr ht
          · intro hstatable
            obtain hok | ht := hstatable
            · cases hok
            · exact ⟨rfl, by decide, ht⟩
        | ok decision =>
          apply iff_of_true
          · dsimp only
            split
            · obtain ⟨refused, hrefused⟩ := refusal_decides h result.providerId
              exact ⟨refused, hrefused, fun hne => absurd hstatus hne⟩
            · exact ⟨decision, rfl, fun hne => absurd hstatus hne⟩
          · exact .inl rfl
      · rw [if_pos hstatus, if_neg hstatus, ← processingResult_decides h]
        constructor
        · intro ⟨decision, hdecision, hfailed⟩
          exact ⟨decision, hdecision, hfailed hstatus⟩
        · intro ⟨decision, hdecision, hfailed⟩
          exact ⟨decision, hdecision, fun _ => hfailed⟩

end

/-- The gate answers just when it asks no provider, or what is to be stated of the candidate and of
the provider's answer has the form that a decision asks for. -/
theorem gate_answers_iff {P : Platform} {candidate : Fields} {provider : GateProvider}
    (h : SourceLabels candidate) :
    Answers P candidate provider ↔ (Consulted P candidate → Statable candidate provider) := by
  unfold Answers decideInheritance Consulted
  cases hprivacy : passesPrivacy P candidate with
  | false =>
    apply iff_of_true
    · obtain ⟨decision, hdecision⟩ := refusal_decides h "privacy-gate"
      exact ⟨decision, hdecision, fun hconsulted => absurd hconsulted.1 Bool.false_ne_true⟩
    · exact fun hconsulted => absurd hconsulted.1 Bool.false_ne_true
  | true =>
    rw [Bool.not_true, if_neg Bool.false_ne_true]
    by_cases hclaim : claim candidate = ""
    · apply iff_of_true
      · rw [if_pos hclaim]
        obtain ⟨decision, hdecision⟩ := noEvidence_decides h
        exact ⟨decision, hdecision, fun hconsulted => absurd hclaim hconsulted.2⟩
      · exact fun hconsulted => absurd hclaim hconsulted.2
    · rw [if_neg hclaim, ← providerDecision_iff h]
      constructor
      · intro ⟨decision, hdecision, hfailed⟩ _
        exact ⟨decision, hdecision, hfailed ⟨rfl, hclaim⟩⟩
      · intro hdecides
        obtain ⟨decision, hdecision, hfailed⟩ := hdecides ⟨rfl, hclaim⟩
        exact ⟨decision, hdecision, fun _ => hfailed⟩

def sampleCandidate : Fields :=
  [("title", .str "Rule"), ("claim", .str "Check the lock before a write"),
    ("source_host_id", .str "cli"), ("source_host_family", .str "cli")]

theorem sampleCandidate_labels : SourceLabels sampleCandidate :=
  ⟨by decide, by decide⟩

/-- A provider whose generate raises an exception of a class. -/
def raisingProvider (name : String) : GateProvider :=
  .object none fun _ => .error ⟨name, true⟩

theorem gate_answers_timeout :
    Answers samplePlatform sampleCandidate (raisingProvider "TIMEOUT") := by
  rw [gate_answers_iff sampleCandidate_labels]
  intro _
  exact ⟨rfl, rfl, by decide, by decide⟩

/-- The name of an ordinary exception class is no reason that a decision may have. -/
theorem gate_raises_on_exception :
    Consulted samplePlatform sampleCandidate ∧
    (∀ decision, decideInheritance samplePlatform sampleCandidate
      (raisingProvider "ValueError") ≠ .ok decision) ∧
    ¬ Answers samplePlatform sampleCandidate (raisingProvider "ValueError") := by
  have hraises : (decideInheritance samplePlatform sampleCandidate
      (raisingProvider "ValueError")).isOk = false := by
    decide
  have hnone : ∀ decision, decideInheritance samplePlatform sampleCandidate
      (raisingProvider "ValueError") ≠ .ok decision := by
    intro decision hdecision
    rw [hdecision] at hraises
    cases hraises
  refine ⟨⟨by decide, by decide⟩, hnone, ?_⟩
  intro ⟨decision, hdecision, _⟩
  exact hnone decision hdecision

end InheritanceGate

end ExternalIntelligence
