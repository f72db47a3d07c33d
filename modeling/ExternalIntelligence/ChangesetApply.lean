import ExternalIntelligence.ChangesetValidation
import ExternalIntelligence.Machine

namespace ExternalIntelligence
set_option autoImplicit true

/-- The first marker of a changeset. -/
def marker (events : List Event) (changesetId : String) : Option Event :=
  events.find? fun event =>
    isMarker event && event.payload.lookup "changeset_id" == some (.str changesetId)

/-- The texts of a field, sorted and each once; a text alone is its one item. -/
def itemsOf (P : Platform) (payload : Fields) (field : String) : List String :=
  match getOr payload field (.tuple []) with
  | .str s => if s = "" then [] else [s]
  | .list items | .tuple items => sortedText (textItems P items)
  | _ => []

/-- The first of two lists that is not empty. -/
def itemsOr (xs ys : List String) : List String :=
  if xs.isEmpty then ys else xs

def domainHash (P : Platform) (value domain : String) : Except Raised String :=
  let normalizedDomain := Text.strip (P.nfkc (Text.chars domain))
  let normalizedValue := P.nfkc (Text.chars value)
  let zero := Char.ofNat 0
  if normalizedDomain.isEmpty || normalizedDomain.contains zero || normalizedValue.contains zero
  then .error (valueError "DOMAIN_HASH_INPUT_INVALID")
  else
    .ok ("sha256:" ++ P.sha256 (Text.chars "ei:" ++ normalizedDomain ++ Text.chars ":v1" ++ [zero]
      ++ normalizedValue))

def persistedIdentifier (P : Platform) (value domain : String) (allowEmpty : Bool) :
    Except Raised String :=
  if value = "" ∧ allowEmpty then .ok ""
  else if isHash value then .ok value
  else domainHash P value domain

/-- The first of three fields that is there and not empty, or a default. -/
def chooseText (P : Platform) (existing source : Fields) (name own default : String) : String :=
  pyStr P (valueOr (fieldOf existing name) (valueOr (fieldOf source name)
    (valueOr (.str own) (.str default))))

/-- A list field of the state, else of the payload, else of the changeset. -/
def chooseItems (P : Platform) (existing source : Fields) (name : String) (own : List String) :
    List String :=
  if (existing.lookup name).isSome then itemsOf P existing name
  else if (source.lookup name).isSome then itemsOf P source name
  else own

/-- The fields that every event of a changeset has. -/
def commonPayload (P : Platform) (changeset : ChangeSet) (operation : ChangeOperation)
    (existing : Fields) : Fields :=
  let source := operation.payload
  let host := changeset.host
  let sourceHostId := chooseText P existing source "source_host_id" host.sourceHostId ""
  let sourceHostFamily :=
    chooseText P existing source "source_host_family" host.sourceHostFamily ""
  [("changeset_id", .str changeset.changesetId), ("candidate_id", .str changeset.candidateId),
    ("change_operation", .str operation.operation.text),
    ("policy_version", .str changeset.policyVersion),
    ("provider_id", .str changeset.providerId), ("actor", .str (pyStr P (fieldOf source "actor"))),
    ("source_hashes", .ofStrings changeset.sourceHashes),
    ("classification",
      .str (pyStr P (getOr source "classification" (.str "private-reusable"))))] ++
  if sourceHostId != "" && sourceHostFamily != "" then
    [("source_host_id", .str sourceHostId), ("source_host_family", .str sourceHostFamily),
      ("applicability_scope", .str (chooseText P existing source "applicability_scope"
        host.applicabilityScope "universal")),
      ("applicable_host_ids", .ofStrings (chooseItems P existing source "applicable_host_ids"
        host.applicableHostIds)),
      ("applicable_host_families", .ofStrings (chooseItems P existing source
        "applicable_host_families" host.applicableHostFamilies))]
  else []

/-- The payload of a pattern event, its missing fields filled from the state. -/
def merged (P : Platform) (payload current : Fields) (target : String) : Except Raised Fields := do
  let first (name default : String) : Value :=
    .str (pyStr P (valueOr (fieldOf payload name) (valueOr (fieldOf current name) (.str default))))
  let items (name : String) : Value :=
    .ofStrings (itemsOr (itemsOf P payload name) (itemsOf P current name))
  let count (name : String) := pyInt P
    (valueOr (getOr payload name (getOr current name (.int 0))) (.int 0))
  let benefitCount ← count "benefit_count"
  let contradictionCount ← count "contradiction_count"
  let provenances := itemsOr (itemsOf P payload "provenances")
    (itemsOr (itemsOf P payload "evidence_refs") (itemsOf P current "provenances"))
  let sourceHostId := valueOr (fieldOf current "source_host_id") (fieldOf payload "source_host_id")
  let sourceHostFamily :=
    valueOr (fieldOf current "source_host_family") (fieldOf payload "source_host_family")
  let hostItems (name : String) : Value :=
    .ofStrings (itemsOf P (if (current.lookup name).isSome then current else payload) name)
  pure
    ([("pattern_id", .str
        (orElse target (pyStr P (getOr payload "pattern_id" (.str ""))))),
      ("cluster_id", first "cluster_id" target), ("rule", first "rule" ""),
      ("provenances", .ofStrings provenances), ("scopes", items "scopes"),
      ("applicability", items "applicability"), ("benefit_count", .int benefitCount),
      ("classification", first "classification" "private-reusable"),
      ("precondition", first "precondition" ""), ("failure_mode", first "failure_mode" ""),
      ("version_constraint",
        getOr payload "version_constraint" (fieldOf current "version_constraint")),
      ("contradiction_count", .int contradictionCount)] ++
    if sourceHostId.truthy && sourceHostFamily.truthy then
      [("source_host_id", sourceHostId), ("source_host_family", sourceHostFamily),
        ("applicability_scope", valueOr (fieldOf current "applicability_scope")
          (valueOr (fieldOf payload "applicability_scope") (.str "universal"))),
        ("applicable_host_ids", hostItems "applicable_host_ids"),
        ("applicable_host_families", hostItems "applicable_host_families")]
    else [])

/-- The number of texts in a list field. -/
def countOf (body : Fields) (name : String) : Value :=
  .int (fieldOf body name).strings.length

def observationPayload (P : Platform) (changeset : ChangeSet) (operation : ChangeOperation)
    (common : Fields) : Except Raised Fields := do
  let source := operation.payload
  let text (name default : String) : String := pyStr P (getOr source name (.str default))
  let sourceHash := pyStr P
    (valueOr (fieldOf source "source_hash") (.str (changeset.sourceHashes.headD "")))
  let observationId := match operation.targetId with
    | none | some "" =>
      "obs_" ++ takeText 20 (P.sha256 (Text.chars (text "claim" "") ++ Text.chars sourceHash))
    | some target => target
  let sourceRef ← persistedIdentifier P (text "source_ref" "curation") "source-ref" false
  let provenance ← persistedIdentifier P
    (pyStr P (valueOr (fieldOf source "provenance_key") (.str sourceHash))) "provenance" false
  let cwd ← persistedIdentifier P (text "cwd_fingerprint" "") "cwd" true
  pure (Dict.update common
    [("observation_id", .str observationId), ("title", .str (text "title" "observation")),
      ("claim", .str (text "claim" "")),
      ("source_kind", .str (text "source_kind" "private-reusable")),
      ("source_ref_hash", .str sourceRef), ("source_hash", .str sourceHash),
      ("provenance_key", .str provenance), ("cwd_fingerprint", .str cwd),
      ("domain", .str (text "domain" "general")),
      ("outcome_status", .str (text "outcome_status" "unknown")),
      ("benefit", .str (text "benefit" "")),
      ("applicability", .ofStrings (itemsOf P source "applicability")),
      ("record_fingerprint", .str ("sha256:" ++
        P.sha256 (Text.chars observationId ++ Text.chars sourceHash)))])

/-- A text field of the payload with the reason under two names. -/
def reasonFields (P : Platform) (source : Fields) (default : String) : Fields :=
  let reason := pyStr P (getOr source "reason_code" (.str default))
  [("reason", .str reason), ("reason_code", .str reason)]

def evidencePayload (P : Platform) (operation : ChangeOperation) (state : Option Fields)
    (common : Fields) : Except Raised (String × Fields) := do
  let source := operation.payload
  let existing := state.getD []
  let body ← merged P source existing (operation.targetId.getD "")
  let body := Dict.set "pattern_id" (optionalText operation.targetId) (Dict.update body common)
  let refs := sortedText
    ((fieldOf body "provenances").strings ++ itemsOf P source "evidence_refs").eraseDups
  let active := fieldOf existing "status" == .str "active"
  let revision ← pyInt P (getOr existing "revision" (.int 0))
  pure (if active then "pattern.revised" else "pattern.candidate_created",
    Dict.update body [("evidence_refs", .ofStrings refs), ("evidence_count", .int refs.length),
      ("revision", .int (revision + if active then 1 else 0))])

def candidatePayload (P : Platform) (operation : ChangeOperation) (common : Fields) :
    Except Raised Fields := do
  let source := operation.payload
  let target := orElse (operation.targetId.getD "") (pyStr P (getOr source "pattern_id" (.str "")))
  let body ← merged P source [] target
  let body := Dict.update body (common ++ reasonFields P source "CURATOR_NEW_OBSERVATION")
  pure (Dict.update body [("evidence_refs", fieldOf body "provenances"),
    ("evidence_count", countOf body "provenances")])

/-- The payload of a promotion or a revision. -/
def updatePayload (P : Platform) (operation : ChangeOperation) (state : Option Fields)
    (common : Fields) : Except Raised Fields := do
  let source := operation.payload
  let existing := state.getD []
  let body ← merged P source existing (operation.targetId.getD "")
  let body := Dict.set "pattern_id" (optionalText operation.targetId) (Dict.update body common)
  let revision ← pyInt P
    (valueOr (getOr source "revision" (getOr existing "revision" (.int 0))) (.int 0))
  pure (Dict.update body ([("evidence_refs", fieldOf body "provenances"),
    ("evidence_count", countOf body "provenances"), ("revision", .int revision)] ++
      reasonFields P source "CURATOR_UPDATE"))

/-- The payload of a deprecation or a tombstone. -/
def retirementPayload (P : Platform) (operation : ChangeOperation) (state : Option Fields)
    (common : Fields) (defaultReason : String) : Fields :=
  let source := operation.payload
  let existing := state.getD []
  let target := optionalText operation.targetId
  Dict.update common ([("pattern_id", target),
    ("cluster_id", .str (pyStr P (getOr existing "cluster_id" target)))] ++
      reasonFields P source defaultReason ++
    [("evidence_refs", .ofStrings
      (itemsOr (itemsOf P source "evidence_refs") (itemsOf P existing "provenances")))])

def redactionPayload (P : Platform) (changeset : ChangeSet) (operation : ChangeOperation)
    (common : Fields) : Except Raised Fields := do
  let source := operation.payload
  let reference ← persistedIdentifier P (pyStr P (valueOr (fieldOf source "reference_hash")
    (.str (changeset.sourceHashes.headD "")))) "reference" false
  let approval ← persistedIdentifier P (pyStr P (valueOr (fieldOf source "approval_identity_hash")
    (getOr source "approved_by" (.str "")))) "approval-identity" false
  pure (Dict.update common [("reference_id", optionalText operation.targetId),
    ("reference_hash", .str reference), ("approval_identity_hash", .str approval)])

/-- The type and the payload of the event of an operation. -/
def eventPayload (P : Platform) (changeset : ChangeSet) (operation : ChangeOperation)
    (state : Option Fields) : Except Raised (String × Fields) :=
  let source := operation.payload
  let common := commonPayload P changeset operation (state.getD [])
  if (source.lookup "actor").isNone then .error ⟨"KeyError", "actor"⟩
  else
    match operation.operation with
    | .createObservation =>
      (observationPayload P changeset operation common).map ("observation.recorded", ·)
    | .attachEvidence => evidencePayload P operation state common
    | .createCandidate =>
      (candidatePayload P operation common).map ("pattern.candidate_created", ·)
    | .promotePattern => (updatePayload P operation state common).map ("pattern.promoted", ·)
    | .revisePattern => (updatePayload P operation state common).map ("pattern.revised", ·)
    | .deprecatePattern =>
      .ok ("pattern.deprecated",
        retirementPayload P operation state common "CONTRADICTION_REVIEW")
    | .tombstonePattern =>
      .ok ("pattern.tombstoned", retirementPayload P operation state common "RETENTION_EXPIRED")
    | .redactReference =>
      (redactionPayload P changeset operation common).map ("reference.redacted", ·)
    | .noChange =>
      .ok ("curation.no_change", Dict.update common
        [("reason_code", .str (pyStr P (getOr source "reason_code" (.str "NO_CHANGE"))))])

/-- The state a target that is named stands for. -/
def targetState (states : StateMap) : Option String → Option Fields
  | none => none
  | some target => if target = "" then none else states.find target

/-- The states that the operations after this one are merged with. -/
def advance (P : Platform) (states : StateMap) (operation : ChangeOperation)
    (payload : Fields) : Except Raised StateMap :=
  match operation.targetId with
  | none | some "" => .ok states
  | some target =>
    if operation.operation = .createCandidate then
      (pyList (getOr payload "provenances" (.tuple []))).map fun provenances =>
        states.put target
          [("pattern_id", .str target),
            ("cluster_id", .str (pyStr P (getOr payload "cluster_id" (.str target)))),
            ("status", .str "candidate"), ("rule", .str (pyStr P (getOr payload "rule" (.str "")))),
            ("classification",
              .str (pyStr P (getOr payload "classification" (.str "private-reusable")))),
            ("provenances", .list provenances), ("revision", .int 0)]
    else
      let written (status : String) : StateMap := states.write target "status" (.str status)
      match operation.operation with
      | .promotePattern | .revisePattern => .ok (written "active")
      | .deprecatePattern => .ok (written "deprecated")
      | .tombstonePattern => .ok (written "tombstoned")
      | _ => .ok states

def changesetEvent (P : Platform) (changeset : ChangeSet) (eventId eventType : String)
    (payload : Fields) : Event :=
  { eventId
    eventType
    occurredAt := changeset.generatedAt
    actor := "external-intelligence"
    machineId := P.machineId
    payload }

/-- The events of the operations from the given index on. -/
def buildEvents (P : Platform) (changeset : ChangeSet) :
    Nat → List ChangeOperation → StateMap → Except Raised (List Event)
  | _, [], _ => .ok []
  | index, operation :: later, states => do
    let built ← eventPayload P changeset operation (targetState states operation.targetId)
    let event := changesetEvent P changeset
      (changesetOperationEventId P changeset.changesetId index operation) built.1 built.2
    let states ← advance P states operation built.2
    let events ← buildEvents P changeset (index + 1) later states
    pure (event :: events)

def markerPayload (P : Platform) (changeset : ChangeSet) (eventIds : List String) : Fields :=
  [("changeset_id", .str changeset.changesetId), ("candidate_id", .str changeset.candidateId),
    ("changeset_hash", .str (changeset.fingerprint P)),
    ("operation_count", .int changeset.operations.length),
    ("event_ids", .ofStrings eventIds), ("policy_version", .str changeset.policyVersion),
    ("provider_id", .str changeset.providerId), ("actor", .str "external-intelligence"),
    ("source_hashes", .ofStrings changeset.sourceHashes)]

def markerEvent (P : Platform) (changeset : ChangeSet) (eventIds : List String) : Event :=
  let payload := markerPayload P changeset eventIds
  changesetEvent P changeset (changesetApplicationMarkerId P changeset.changesetId payload)
    "curation.changeset.applied" payload

structure ApplyResult where
  applied : Bool
  reasonCode : String
  eventIds : List String
  changesetId : String
  alreadyApplied : Bool := false
  validation : ValidationResult := ⟨false, []⟩
  applicationRef : Option AppliedMarkerRef := none
deriving DecidableEq, Repr

/-- Appends events in turn; with `stops` the append after that many is killed, or fails. -/
def appendEvents (P : Platform) (root : List String) :
    Disk → List Event → Option Nat → Except Raised Unit × Disk
  | disk, [], _ => (.ok (), disk)
  | disk, event :: events, stops =>
    match appendEvent P root disk event (stops == some 0) with
    | (.error error, disk) => (.error error, disk)
    | (.ok _, disk) => appendEvents P root disk events (stops.map Nat.pred)

def refusedResult (value : ChangeSet) (reason : String) (validation : ValidationResult) :
    ApplyResult :=
  { applied := false, reasonCode := reason, eventIds := [], changesetId := value.changesetId,
    validation }

/-- Writes the events of an accepted changeset and then its marker. -/
def applyBuilt (P : Platform) (S : ChangesetSettings) (disk : Disk) (value : ChangeSet)
    (validation : ValidationResult) (events : List Event) (stops : Option Nat) :
    ApplyResult × Disk :=
  let eventIds := events.map Event.eventId
  let built := events ++ [markerEvent P value eventIds]
  match appendEvents P S.eventDir disk built stops with
  | (.error error, disk) =>
    let reason := if isSafeLabel error.type then error.type else "APPLY_FAILED"
    (refusedResult value reason ⟨false, [reason]⟩, disk)
  | (.ok (), disk) =>
    ({ applied := true, reasonCode := "APPLIED", eventIds := built.map Event.eventId,
       changesetId := value.changesetId, validation
       applicationRef := applicationRef P (markerEvent P value eventIds) }, disk)

/-- Applies a changeset; an exception of a check leaves the disk as it was. -/
def applyChangeset (P : Platform) (S : ChangesetSettings) (disk : Disk) (value : ChangeSet)
    (stops : Option Nat) : Except Raised ApplyResult × Disk :=
  match journalEvents P S disk with
  | .error reason => (.ok (refusedResult value reason ⟨false, [reason]⟩), disk)
  | .ok existing =>
    match marker existing value.changesetId with
    | some found =>
      (.ok
        { applied := true, reasonCode := "ALREADY_APPLIED", eventIds := [],
          changesetId := value.changesetId, alreadyApplied := true
          validation := ⟨true, ["ALREADY_APPLIED"]⟩
          applicationRef := applicationRef P found }, disk)
    | none =>
      match validateChangeset P S disk value with
      | .error error => (.error error, disk)
      | .ok validation =>
        if !validation.valid then
          (.ok (refusedResult value (validation.reasonCodes.headD "CHANGESET_INVALID") validation),
            disk)
        else
          match (states P existing).bind (buildEvents P value 0 value.operations) with
          | .error error => (.error error, disk)
          | .ok events =>
            ((applyBuilt P S disk value validation events stops).map .ok id)

/-- The event types that the event of an operation may have. -/
def permittedEventTypes : Operation → List String
  | .createObservation => ["observation.recorded"]
  | .attachEvidence => ["pattern.candidate_created", "pattern.revised"]
  | .createCandidate => ["pattern.candidate_created"]
  | .promotePattern => ["pattern.promoted"]
  | .revisePattern => ["pattern.revised"]
  | .deprecatePattern => ["pattern.deprecated"]
  | .tombstonePattern => ["pattern.tombstoned"]
  | .redactReference => ["reference.redacted"]
  | .noChange => ["curation.no_change"]

/-- The file of an event in the month its reference was written in. -/
def eventPath (P : Platform) (S : ChangesetSettings) (occurredAt eventId : String) :
    Except Raised (List String) :=
  (eventPartition P
    { eventId, eventType := "", occurredAt, actor := "", machineId := "", payload := [] }).map
    fun partition => S.eventDir ++ partition ++ [eventId ++ ".json"]

def proofInvalid : Raised :=
  ⟨"ValueError", "APPLICATION_PROOF_INVALID"⟩

/-- The checks of a marker against its reference and the changeset. -/
def checkMarker (P : Platform) (value : ChangeSet) (ref : AppliedMarkerRef) (marker : Event) :
    Except Raised Unit := do
  let ids := value.operations.mapIdx (changesetOperationEventId P value.changesetId)
  let hash := Value.str ref.changesetHash
  refuse (!isMarker marker || marker.eventId != ref.markerId ||
    marker.occurredAt != ref.occurredAt || marker.actor != "external-intelligence" ||
    marker.payload.lookup "changeset_hash" != some hash) proofInvalid
  refuse (!decide ids.Nodup) proofInvalid
  refuse (!sameFields marker.payload
    (Dict.set "changeset_hash" hash (markerPayload P value ids))) proofInvalid
  let restored := { value with generatedAt := marker.occurredAt }
  restored.postInit P
  refuse (restored.fingerprint P != ref.changesetHash) proofInvalid
  refuse (changesetApplicationMarkerId P value.changesetId marker.payload != marker.eventId)
    proofInvalid

/-- The checks of the stored event of an operation. -/
def checkOperationEvent (value : ChangeSet) (occurredAt eventId : String)
    (operation : ChangeOperation) (event : Event) : Except Raised Unit :=
  let field (name : String) (expected : Value) : Bool := event.payload.lookup name != some expected
  refuse (event.eventId != eventId || event.occurredAt != occurredAt ||
    event.actor != "external-intelligence" ||
    !(permittedEventTypes operation.operation).contains event.eventType ||
    field "changeset_id" (.str value.changesetId) ||
    field "candidate_id" (.str value.candidateId) ||
    field "change_operation" (.str operation.operation.text) ||
    field "policy_version" (.str value.policyVersion) ||
    field "provider_id" (.str value.providerId) ||
    field "source_hashes" (.ofStrings value.sourceHashes)) proofInvalid

def checkOperation (P : Platform) (S : ChangesetSettings) (disk : Disk) (value : ChangeSet)
    (occurredAt : String) (operation : ChangeOperation × Nat) : Except Raised Unit := do
  let eventId := changesetOperationEventId P value.changesetId operation.2 operation.1
  let path ← eventPath P S occurredAt eventId
  let event ← readEvent P true disk path
  checkOperationEvent value occurredAt eventId operation.1 event

/-- Verifies one application by reading its marker and its events; the event ids if it holds. -/
def verifyApplication (P : Platform) (S : ChangesetSettings) (disk : Disk) (changeset : ChangeSet)
    (ref : AppliedMarkerRef) : Except Raised (List String) := do
  let value ← ChangeSet.fromMapping P changeset.toDict
  refuse (!isApplicationMarkerId ref.markerId || !isHash ref.changesetHash) proofInvalid
  let _ ← timestamp P ref.occurredAt
  let path ← eventPath P S ref.occurredAt ref.markerId
  let marker ← readEvent P true disk path
  checkMarker P value ref marker
  value.operations.zipIdx.forM (checkOperation P S disk value marker.occurredAt)
  pure (value.operations.mapIdx (changesetOperationEventId P value.changesetId) ++
    [marker.eventId])

/-- The read-only proof of an application; only the bound on an event's file still raises. -/
def readApplicationProof (P : Platform) (S : ChangesetSettings) (disk : Disk) (changeset : ChangeSet)
    (ref : AppliedMarkerRef) : Except Raised ApplyResult :=
  match verifyApplication P S disk changeset ref with
  | .ok eventIds =>
    .ok
      { applied := true, reasonCode := "APPLICATION_PROOF_VERIFIED", eventIds
        changesetId := changeset.changesetId, alreadyApplied := true
        validation := ⟨true, ["APPLICATION_PROOF_VERIFIED"]⟩
        applicationRef := some ref }
  | .error error =>
    if error = journalLimitError then .error error
    else .ok (refusedResult changeset "APPLICATION_PROOF_INVALID"
      ⟨false, ["APPLICATION_PROOF_INVALID"]⟩)

/-- A call of apply_changeset on a value its constructor accepts; dicts have distinct keys. -/
structure ApplyCall (P : Platform) where
  changeset : ChangeSet
  stops : Option Nat
  wellFormed : changeset.postInit P = .ok ()
  distinct : ∀ operation ∈ changeset.operations, (Dict.keys operation.payload).Nodup

def changesets (P : Platform) (S : ChangesetSettings) :
    Machine Disk (ApplyCall P) (Except Raised ApplyResult) where
  step disk call :=
    ((applyChangeset P S disk call.changeset call.stops).2,
      (applyChangeset P S disk call.changeset call.stops).1)

end ExternalIntelligence
