import ExternalIntelligence.ChangesetValidation

namespace ExternalIntelligence
set_option autoImplicit true

/-- A policy with the limits that only the lifecycle reads. -/
structure LifecyclePolicy extends PromotionPolicy where
  distinctScopeCount : Int := 2
  benefitEvidenceCount : Int := 1
  minRuleChars : Int := 80
  contradictionCountForDeprecation : Int := 3
  unusedDaysForDeprecation : Int := 180
  supersededUnusedDaysForTombstone : Int := 90
  deprecatedUnusedDaysForTombstone : Int := 365
deriving DecidableEq, Repr

/-- The time a caller gives: none, an instant or a text. -/
inductive NowUtc where
  | absent
  | moment (instant : Int)
  | text (s : String)
deriving DecidableEq, Repr

def NowUtc.timestamp (P : Platform) (fallback : String) : NowUtc → String
  | absent => fallback
  | moment instant => P.isoformat instant
  | text s => s

/-- The instant of a timestamp; one without an offset is in UTC. -/
def parseTimestamp (P : Platform) (value : Option String) : Option Int :=
  match value with
  | none | some "" => none
  | some text => (P.fromisoformat text).map (·.instant)

def dayMicroseconds : Int :=
  86400 * 1000000

def inactiveLongEnough (P : Platform) (state : ClusterState) (now days : Int) : Bool :=
  match (parseTimestamp P state.lastUsedAt).or (parseTimestamp P state.deprecatedAt) with
  | none => false
  | some reference => days * dayMicroseconds ≤ now - reference

namespace ClusterState

/-- Nothing that replays events changes the revision of a state. -/
def revision (_ : ClusterState) : Int :=
  0

def lifecycleEvidence (state : ClusterState) : List String :=
  sortedText ((if state.evidenceRefs.isEmpty then state.provenances
    else state.evidenceRefs).filter (· ≠ ""))

/-- The host fields of a state that has a source pair. -/
def hostPayload (state : ClusterState) : Fields :=
  if state.host.sourceHostId = "" ∨ state.host.sourceHostFamily = "" then []
  else state.host.toPayload

end ClusterState

def orPolicyVersion (policy : LifecyclePolicy) : String :=
  orElse policy.policyVersion "promotion-v1"

/-- The fields that every event about a cluster has. -/
def clusterPayload (state : ClusterState) (reason policyVersion : String)
    (evidence : List String) (oldVersion newVersion : Int) : Fields :=
  [("cluster_id", .str state.clusterId), ("reason", .str reason), ("reason_code", .str reason),
    ("evidence_refs", .ofStrings evidence), ("policy_version", .str policyVersion),
    ("old_version", .int oldVersion), ("new_version", .int newVersion)]

/-- The event of a payload, with the key and the identifier that its content determines. -/
def contentEvent (P : Platform) (eventType clusterId timestamp actor machineId idStart : String)
    (digits : Nat) (payload : Fields) : Event :=
  let key := "sha256:" ++ stableHash P (.dict [("event_type", .str eventType),
    ("cluster_id", .str clusterId), ("occurred_at", .str timestamp), ("payload", .dict payload)])
  let keyed := Dict.set "idempotency_key" (.str key) payload
  { eventId := idStart ++ takeText digits (stableHash P (.dict [("event_type", .str eventType),
      ("cluster_id", .str clusterId), ("payload", .dict keyed)]))
    eventType
    occurredAt := timestamp
    actor
    machineId
    payload := keyed }

def lifecycleEvent (P : Platform) (policy : LifecyclePolicy) (state : ClusterState)
    (eventType timestamp reason : String) (oldVersion newVersion : Int) (payload : Fields) :
    Event :=
  let body := Dict.update (Dict.update (clusterPayload state reason (orPolicyVersion policy)
    state.lifecycleEvidence oldVersion newVersion) payload) state.hostPayload
  contentEvent P eventType state.clusterId timestamp "lifecycle" "lifecycle" "evt_lifecycle_" 24 body

def promotableClassifications : List String :=
  ["public", "private-reusable"]

/-- A text that must be there, or be stood in for by other evidence. -/
def isMissing (value : Option String) (evidenceMissing : Bool) : Bool :=
  match value with
  | none => evidenceMissing
  | some text => text == ""

def promotionEligibility (policy : LifecyclePolicy) (cluster : ClusterState) : ValidationResult :=
  let ruleLength : Int := (Text.chars cluster.rule).length
  let reasons := reasonIf (!(["raw", "candidate"].contains cluster.status)) "STATUS_NOT_PROMOTABLE" ++
    reasonIf (cluster.provenances.length < policy.independentProvenanceCount)
      "INSUFFICIENT_INDEPENDENT_PROVENANCE" ++
    reasonIf (cluster.scopes.length < policy.distinctScopeCount) "INSUFFICIENT_DISTINCT_SCOPE" ++
    reasonIf (cluster.benefitCount < policy.benefitEvidenceCount) "INSUFFICIENT_BENEFIT_EVIDENCE" ++
    reasonIf (policy.maxUnresolvedContradictions < cluster.contradictionProvenances.length)
      "UNRESOLVED_CONTRADICTION" ++
    reasonIf (!promotableClassifications.contains cluster.classification)
      "CLASSIFICATION_NOT_PROMOTABLE" ++
    reasonIf (!(policy.minRuleChars ≤ ruleLength && ruleLength ≤ policy.maxRuleChars))
      "RULE_LENGTH_INVALID" ++
    reasonIf (isMissing cluster.precondition cluster.scopes.isEmpty) "PRECONDITION_MISSING" ++
    reasonIf (isMissing cluster.failureMode (cluster.benefitCount < 1)) "FAILURE_MODE_MISSING" ++
    reasonIf (!cluster.applicability.any fun item => !(Text.strip (Text.chars item)).isEmpty)
      "APPLICABILITY_MISSING"
  ⟨reasons.isEmpty, reasons.eraseDups⟩

def textOrNone : Option String → Value
  | none => .none
  | some text => .str text

/-- The transition that is due for a cluster at a time. -/
def evaluateLifecycle (P : Platform) (policy : LifecyclePolicy) (state : ClusterState)
    (nowUtc : NowUtc) : List Event :=
  let fallback := orElse (state.lastUsedAt.getD "")
    (orElse (state.deprecatedAt.getD "") "1970-01-01T00:00:00+00:00")
  let timestamp := nowUtc.timestamp P fallback
  let now := (parseTimestamp P (some timestamp)).getD 0
  let event (eventType reason : String) (payload : Fields) : List Event :=
    [lifecycleEvent P policy state eventType timestamp reason state.revision state.revision payload]
  let pattern := [("pattern_id", textOrNone state.patternId)]
  if state.status == "active" && decide (policy.contradictionCountForDeprecation ≤
      state.contradictionProvenances.length) then
    event "pattern.deprecated" "THREE_INDEPENDENT_CONTRADICTIONS" pattern
  else if state.status == "active" && state.benefitCount == 0 &&
      inactiveLongEnough P state now policy.unusedDaysForDeprecation then
    event "pattern.deprecated" "STALE_NO_BENEFIT" pattern
  else if (promotionEligibility policy state).valid then
    event "pattern.promoted" "PROMOTION_ELIGIBLE"
      [("pattern_id", .str (orElse (state.patternId.getD "")
          ("pat_" ++ takeText 20 (stableHash P (.str state.clusterId))))),
        ("rule", .str state.rule), ("provenances", .ofStrings (sortedText state.provenances)),
        ("scopes", .ofStrings (sortedText state.scopes)),
        ("benefit_count", .int state.benefitCount), ("classification", .str state.classification),
        ("applicability", .ofStrings state.applicability)]
  else if state.patternId.getD "" != "" && !state.pinned && !state.legalHold &&
      state.contradictionProvenances.isEmpty then
    if state.status == "superseded" && state.replacementActive && state.supersededBy.getD "" != "" &&
        state.exposureCount == 0 &&
        inactiveLongEnough P state now policy.supersededUnusedDaysForTombstone then
      event "pattern.tombstoned" "SUPERSEDED_INACTIVE"
        (pattern ++ [("replacement", textOrNone state.supersededBy)])
    else if state.status == "deprecated" && state.exposureCount == 0 &&
        inactiveLongEnough P state now policy.deprecatedUnusedDaysForTombstone then
      event "pattern.tombstoned" "DEPRECATED_INACTIVE" pattern
    else []
  else []

/-- Whether an event turns the meaning of its pattern around. -/
def meaningReversing (event : Event) : Bool :=
  event.eventType == "pattern.revised" &&
    ((event.payload.lookup "meaning_reversing").getD .none).truthy

/-- A revision that reverses the meaning becomes a replacement and a superseded pattern. -/
def applyLifecycleTransition (P : Platform) (policy : LifecyclePolicy) (cluster : ClusterState)
    (event : Event) : List Event :=
  if event.eventType == "pattern.promoted" && !(promotionEligibility policy cluster).valid then []
  else if meaningReversing event then
    let replacementId := pyStr P (valueOr
      ((event.payload.lookup "replacement_pattern_id").getD .none)
      (.str ("pat_" ++ takeText 20 (stableHash P (.str event.eventId)))))
    let reason := "MEANING_REVERSING_REPLACEMENT"
    [lifecycleEvent P policy cluster "pattern.revised" event.occurredAt reason cluster.revision
        (cluster.revision + 1)
        [("pattern_id", .str replacementId), ("rule", getOr event.payload "rule" (.str cluster.rule)),
          ("classification", .str cluster.classification), ("relation", .str "replacement_for"),
          ("replaces_pattern_id", textOrNone cluster.patternId)],
      lifecycleEvent P policy cluster "pattern.superseded" event.occurredAt reason cluster.revision
        cluster.revision
        [("pattern_id", textOrNone cluster.patternId),
          ("replacement_pattern_id", .str replacementId), ("replacement_active", .bool false)]]
  else [event]

/-- The host fields of a state that has a source pair, which must be valid then. -/
def stateHostFields (state : ClusterState) : Except String Fields :=
  if state.host.sourceHostId = "" ∨ state.host.sourceHostFamily = "" then .ok []
  else
    (validateHostApplicabilityMapping state.host.toPayload false true).map fun _ =>
      state.host.toPayload

/-- An event of the reconciliation about a record. -/
def eventForPattern (P : Platform) (policy : LifecyclePolicy) (record : ClusterRecord)
    (eventType occurredAt reason : String) (newVersion : Int) (payload : Fields) :
    Except String Event :=
  let state := record.state
  let evidence := sortedText (if state.evidenceRefs.isEmpty then state.provenances
    else state.evidenceRefs)
  (stateHostFields state).map fun host =>
    contentEvent P eventType state.clusterId occurredAt "reconcile" P.machineId "evt_reconcile_" 28
      (Dict.update (Dict.update (clusterPayload state reason policy.policyVersion evidence
        record.revision newVersion) payload) host)

/-- What a candidate or a revision says about its pattern. -/
def patternPayload (patternId : Value) (record : ClusterRecord) : Fields :=
  let state := record.state
  [("pattern_id", patternId), ("rule", .str record.canonicalRule),
    ("provenances", .ofStrings (sortedText state.provenances)),
    ("scopes", .ofStrings (sortedText state.scopes)),
    ("applicability", .ofStrings state.applicability), ("benefit_count", .int state.benefitCount),
    ("classification", .str state.classification)]

/-- The latest of some texts, and the given one if there is none. -/
def latestText (default : String) : List String → String
  | [] => default
  | text :: texts => texts.foldl max text

/-- When the observations of a record were last recorded. -/
def observedAt (P : Platform) (events : List Event) (record : ClusterRecord) (default : String) :
    String :=
  let ids := record.observations.map (·.observationId)
  latestText default ((events.filter fun event => event.eventType == "observation.recorded" &&
    ids.contains (textOr P event.payload "observation_id" "")).map (·.occurredAt))

/-- The candidate or revision that the evidence of a record asks for. -/
def generateEvent (P : Platform) (policy : LifecyclePolicy) (events : List Event) (nowText : String)
    (record : ClusterRecord) : Except String (List Event) :=
  let state := record.state
  if ["raw", "candidate"].contains state.status &&
      decide (policy.independentProvenanceCount ≤ state.provenances.length) &&
      state.patternId.getD "" == "" then
    (eventForPattern P policy record "pattern.candidate_created"
      (observedAt P events record nowText) "REPEATED_OBSERVATION" 0
      (patternPayload (.str ("pat_" ++ takeText 20 (stableHash P (.str state.clusterId))))
        record)).map fun event => [event]
  else if state.status == "active" && record.canonicalRule != "" &&
      record.canonicalRule != state.rule then
    let revision : Int := record.revision + 1
    (eventForPattern P policy record "pattern.revised" nowText "NEW_REUSABLE_EVIDENCE" revision
      (("revision", .int revision) :: patternPayload (textOrNone state.patternId) record)).map
        fun event => [event]
  else .ok []

/-- The records that events amount to. -/
def replayRecords (P : Platform) (events : List Event) :
    Except String (List (String × ClusterRecord)) := do
  let clustering ← clusterObservations P events
  applyPatternEvents P clustering.records events

/-- The order in which events are replayed. -/
def orderedEvents (events : List Event) : List Event :=
  events.insertionSort eventLe

/-- The events a reconciliation appends: what the evidence asks for, and what is due then. -/
def reconcileEvents (P : Platform) (policy : LifecyclePolicy) (events : List Event)
    (nowText : String) : Except String (List Event) := do
  let current := orderedEvents events
  let known := current.map (·.eventId)
  let records ← replayRecords P current
  let generated ← records.mapM fun entry => generateEvent P policy current nowText entry.2
  let created := generated.flatten.filter fun event => !known.contains event.eventId
  let updated ← replayRecords P (orderedEvents (current ++ created))
  pure (created ++ updated.flatMap fun entry =>
    evaluateLifecycle P policy entry.2.state (.text nowText))

end ExternalIntelligence
