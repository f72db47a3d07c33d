import ExternalIntelligence.PatternReplay

namespace ExternalIntelligence
set_option autoImplicit true

inductive Operation where
  | createObservation
  | attachEvidence
  | createCandidate
  | promotePattern
  | revisePattern
  | deprecatePattern
  | tombstonePattern
  | redactReference
  | noChange
deriving DecidableEq, Repr

def Operation.text : Operation → String
  | createObservation => "CREATE_OBSERVATION"
  | attachEvidence => "ATTACH_EVIDENCE"
  | createCandidate => "CREATE_CANDIDATE"
  | promotePattern => "PROMOTE_PATTERN"
  | revisePattern => "REVISE_PATTERN"
  | deprecatePattern => "DEPRECATE_PATTERN"
  | tombstonePattern => "TOMBSTONE_PATTERN"
  | redactReference => "REDACT_REFERENCE"
  | noChange => "NO_CHANGE"

def operations : List Operation :=
  [.createObservation, .attachEvidence, .createCandidate, .promotePattern, .revisePattern,
    .deprecatePattern, .tombstonePattern, .redactReference, .noChange]

def operationOfText (text : String) : Option Operation :=
  operations.find? fun operation => operation.text == text

/-- `[A-Za-z0-9][A-Za-z0-9_.:-]*` of at most 160 characters. -/
def isSafeId (s : String) : Bool :=
  match Text.chars s with
  | [] => false
  | c :: cs =>
    (isAsciiLetter c || Text.isDigit c) && cs.length ≤ 159 &&
      cs.all fun d => isAsciiLetter d || Text.isDigit d || (Text.chars "_.:-").contains d

def isSafeLabel (s : String) : Bool :=
  safeLabelShape 159 (Text.chars s)

/-- `evt_changeset_` and 32 lower-case hexadecimal digits. -/
def isApplicationMarkerId (s : String) : Bool :=
  let digits := (Text.chars s).drop 14
  (Text.chars s).take 14 == Text.chars "evt_changeset_" && digits.length == 32 &&
    digits.all isLowerHex

structure ChangeOperation where
  operation : Operation
  targetId : Option String
  payload : Fields
deriving DecidableEq, Repr

/-- A text or None. -/
def optionalText : Option String → Value
  | some text => .str text
  | none => .none

def ChangeOperation.toDict (operation : ChangeOperation) : Fields :=
  [("operation", .str operation.operation.text), ("target_id", optionalText operation.targetId),
    ("payload", .dict operation.payload)]

structure ChangeSet where
  changesetId : String
  candidateId : String
  operations : List ChangeOperation
  sourceHashes : List String
  policyVersion : String
  generatedAt : String
  providerId : String
  host : HostFields := {}
deriving DecidableEq, Repr

def valueError (text : String) : Raised :=
  ⟨"ValueError", text⟩

def timestamp (P : Platform) (text : String) : Except Raised Moment :=
  if text = "" then .error (valueError "TIMESTAMP_INVALID")
  else
    match P.fromisoformat text with
    | none => .error (valueError "TIMESTAMP_INVALID")
    | some moment =>
      if moment.aware then .ok moment else .error (valueError "TIMESTAMP_TIMEZONE_REQUIRED")

/-- Whether any of the five host fields differs from its default. -/
def HostFields.given (host : HostFields) : Bool :=
  host.sourceHostId != "" || host.sourceHostFamily != "" ||
    host.applicabilityScope != "universal" || !host.applicableHostIds.isEmpty ||
    !host.applicableHostFamilies.isEmpty

def HostFields.hasPair (host : HostFields) : Bool :=
  host.sourceHostId != "" && host.sourceHostFamily != ""

/-- The checks of a changeset's constructor. -/
def ChangeSet.postInit (P : Platform) (value : ChangeSet) : Except Raised Unit := do
  refuse (!isSafeId value.changesetId) (valueError "CHANGESET_ID_INVALID")
  refuse (!isSafeId value.candidateId) (valueError "CANDIDATE_ID_INVALID")
  refuse value.operations.isEmpty (valueError "CHANGESET_EMPTY")
  refuse (value.sourceHashes.isEmpty || value.sourceHashes.any fun hash => !isHash hash)
    (valueError "SOURCE_HASH_INVALID")
  refuse (value.policyVersion == "") (valueError "POLICY_VERSION_INVALID")
  let _ ← timestamp P value.generatedAt
  refuse (!isSafeLabel value.providerId) (valueError "PROVIDER_ID_INVALID")
  refuse (!(validateHostLabel (.str value.host.sourceHostId) "source_host_id" true).isOk)
    (valueError "SOURCE_HOST_LABEL_INVALID")
  refuse (!(validateHostLabel (.str value.host.sourceHostFamily) "source_host_family" true).isOk)
    (valueError "SOURCE_HOST_LABEL_INVALID")
  refuse (!(validateHostApplicabilityMapping value.host.toPayload false value.host.given).isOk)
    (valueError "APPLICABILITY_INVALID")

/-- The mapping of a changeset; without a source pair it has the legacy shape. -/
def ChangeSet.toDict (value : ChangeSet) : Fields :=
  [("changeset_id", .str value.changesetId), ("candidate_id", .str value.candidateId),
    ("operations", .list (value.operations.map fun operation => .dict operation.toDict)),
    ("source_hashes", .ofStrings value.sourceHashes),
    ("policy_version", .str value.policyVersion), ("generated_at", .str value.generatedAt),
    ("provider_id", .str value.providerId)] ++
  if value.host.hasPair then value.host.toPayload else []

def ChangeSet.fingerprint (P : Platform) (value : ChangeSet) : String :=
  "sha256:" ++ P.sha256 (canonicalJson (.dict value.toDict))

def changeSetSchemaError (field : String) : Raised :=
  schemaError "change-set" field

def requireMapping (name : String) (value : Value) : Except Raised Fields :=
  match value with
  | .dict data => .ok data
  | _ => .error (schemaError name "type")

/-- The schema of the payload of an operation. -/
def validateOperationPayload (P : Platform) (payload : Fields) : Except Raised Unit :=
  match inspectChangesetPayload P payload
      (pyStr P (getOr payload "classification" (.str "private-reusable"))) with
  | [] => .ok ()
  | issue :: _ =>
    .error (changeSetSchemaError (String.ofList issue.pointer ++ ":" ++ issue.reasonCode))

/-- The schema of one operation of a changeset. -/
def validateOperationMapping (P : Platform) (operation : Value) : Except Raised Unit := do
  let data ← requireMapping "change-set.operations" operation
  rejectExtra "change-set.operations" data ["operation", "target_id", "payload"]
  refuse (["operation", "target_id", "payload"].any fun name => (data.lookup name).isNone)
    (schemaError "change-set.operations" "required")
  refuse (operationOfText ((fieldOf data "operation").strOr "")).isNone
    (changeSetSchemaError "operation")
  let target := fieldOf data "target_id"
  refuse (target != .none && (!target.isStr || target.strOr "" == ""))
    (changeSetSchemaError "target_id")
  let payload ← requireMapping "change-set" (fieldOf data "payload")
  validateOperationPayload P payload

/-- The items of a list field that may not be empty. -/
def requireItems (field : String) (value : Value) : Except Raised (List Value) :=
  match value.items? with
  | some (item :: items) => .ok (item :: items)
  | _ => .error (changeSetSchemaError field)

def changeSetRequired : List String :=
  ["changeset_id", "candidate_id", "operations", "source_hashes", "policy_version",
    "generated_at", "provider_id"]

/-- The schema of the host fields a changeset may have. -/
def validateChangeSetHost (value : Fields) : Except Raised Unit := do
  ["source_host_id", "source_host_family"].forM fun field =>
    refuse ((value.lookup field).any fun label => !(validateHostLabel label field true).isOk)
      (changeSetSchemaError field)
  refuse ((value.lookup "applicability_scope").any fun scope =>
    !scope.isStr || !hostScopeValues.contains (scope.strOr ""))
    (changeSetSchemaError "applicability_scope")
  ["applicable_host_ids", "applicable_host_families"].forM fun field =>
    refuse ((value.lookup field).any fun labels => !(validateHostList labels field).isOk)
      (changeSetSchemaError field)
  match hasHostField value, validateHostApplicabilityMapping value false true with
  | true, .error reason =>
    .error (changeSetSchemaError
      (String.ofList ((Text.chars reason.toLower).takeWhile (· ≠ ':'))))
  | _, _ => .ok ()

def validateChangeSet (P : Platform) (value : Fields) : Except Raised Unit := do
  rejectExtra "change-set" value (changeSetRequired ++ hostApplicabilityFieldNames)
  changeSetRequired.forM fun field =>
    refuse (value.lookup field).isNone (changeSetSchemaError field)
  requireString "change-set" "changeset_id" (fieldOf value "changeset_id")
  requireString "change-set" "candidate_id" (fieldOf value "candidate_id")
  let operations ← requireItems "operations" (fieldOf value "operations")
  operations.forM (validateOperationMapping P)
  let hashes ← requireItems "source_hashes" (fieldOf value "source_hashes")
  hashes.forM (requireHash "change-set" "source_hashes")
  requireString "change-set" "policy_version" (fieldOf value "policy_version")
  refuse (!awareTimestamp P ((fieldOf value "generated_at").strOr ""))
    (changeSetSchemaError "generated_at")
  requireString "change-set" "provider_id" (fieldOf value "provider_id")
  validateChangeSetHost value

def ChangeOperation.fromMapping (value : Value) : Except Raised ChangeOperation :=
  match value with
  | .dict data =>
    match operationOfText ((fieldOf data "operation").strOr ""), fieldOf data "payload" with
    | some operation, .dict payload =>
      match fieldOf data "target_id" with
      | .none => .ok ⟨operation, none, payload⟩
      | .str target => .ok ⟨operation, some target, payload⟩
      | _ => .error (valueError "CHANGE_OPERATION_SCHEMA_INVALID")
    | _, _ => .error (valueError "CHANGE_OPERATION_SCHEMA_INVALID")
  | _ => .error (valueError "CHANGE_OPERATION_SCHEMA_INVALID")

def ChangeSet.fromMapping (P : Platform) (value : Fields) : Except Raised ChangeSet := do
  validateChangeSet P value
  let operations ← ((fieldOf value "operations").items?.getD []).mapM ChangeOperation.fromMapping
  let text (name default : String) : String := (getOr value name (.str default)).strOr ""
  let result : ChangeSet :=
    { changesetId := text "changeset_id" ""
      candidateId := text "candidate_id" ""
      operations
      sourceHashes := (fieldOf value "source_hashes").strings
      policyVersion := text "policy_version" ""
      generatedAt := text "generated_at" ""
      providerId := text "provider_id" ""
      host :=
        { sourceHostId := text "source_host_id" ""
          sourceHostFamily := text "source_host_family" ""
          applicabilityScope := text "applicability_scope" "universal"
          applicableHostIds := (getOr value "applicable_host_ids" (.tuple [])).strings
          applicableHostFamilies := (getOr value "applicable_host_families" (.tuple [])).strings } }
  result.postInit P
  pure result

/-- An unverified locator of a marker. -/
structure AppliedMarkerRef where
  markerId : String
  occurredAt : String
  changesetHash : String
deriving DecidableEq, Repr

def applicationRef (P : Platform) (marker : Event) : Option AppliedMarkerRef :=
  match marker.payload.lookup "changeset_hash" with
  | some (.str hash) =>
    if isApplicationMarkerId marker.eventId && (timestamp P marker.occurredAt).isOk && isHash hash
    then some ⟨marker.eventId, marker.occurredAt, hash⟩
    else none
  | _ => none

def changesetEventId (P : Platform) (basis : Fields) : String :=
  "evt_changeset_" ++ takeText 32 (stableHash P (.dict basis))

def changesetOperationEventId (P : Platform) (changesetId : String) (index : Nat)
    (operation : ChangeOperation) : String :=
  changesetEventId P [("changeset_id", .str changesetId), ("index", .int index),
    ("operation", .dict operation.toDict)]

def changesetApplicationMarkerId (P : Platform) (changesetId : String) (markerPayload : Fields) :
    String :=
  changesetEventId P [("changeset_id", .str changesetId), ("marker", .dict markerPayload)]

structure PromotionPolicy where
  independentProvenanceCount : Int := 2
  maxUnresolvedContradictions : Int := 0
  maxRuleChars : Int := 1200
  policyVersion : String := "promotion-v1"
  alwaysOnHardCapChars : Int := 12000
deriving DecidableEq, Repr

/-- What a changeset is checked and applied with; `policy` is what the policy file yields. -/
structure ChangesetSettings where
  eventDir : List String := ["events"]
  policy : Except String PromotionPolicy := .ok {}
  sourceHashes : Option (List String) := none
  allowProposalApply : Bool := false
  allowRedaction : Bool := false

structure ValidationResult where
  valid : Bool
  reasonCodes : List String
deriving DecidableEq, Repr

end ExternalIntelligence
