import ExternalIntelligence.Models
import ExternalIntelligence.Privacy

namespace ExternalIntelligence
set_option autoImplicit true

/-- What a field of a closed registry may hold. -/
inductive FieldKind where
  | string
  | hash
  | optionalHash
  | identifier
  | reason
  | classification
  | approvalIdentity
  | matchKind
  | optionalSafeLabel
  | safeLabel
  | applicabilityScope
  | nullableString
  | nonnegativeInteger
  | stringOrInteger
  | boolean
  | hashList
  | stringList
  | hostLabelList
deriving DecidableEq, Repr

structure FieldSpec where
  kind : FieldKind
  limit : Option Nat
deriving DecidableEq, Repr

def pathFieldNames : List String :=
  ["path", "file", "file_path", "target_path", "relative_path", "repository_path", "source_path",
    "cwd_path", "local_path", "client_path", "user_home", "source_ref", "cwd",
    "working_directory", "workspace", "workspace_path"]

def forbiddenKeys : List String :=
  ["body", "candidate_text", "raw", "raw_input", "raw_response", "response", "transcript",
    "tool_output", "prompt", "query", "context", "secret", "token", "password"]

def personalFieldNames : List String :=
  ["author", "email", "username", "user", "user_id", "client", "client_id", "client_name",
    "customer", "customer_id", "customer_name", "owner", "identity", "approval_identity",
    "approved_by"]

def hostApplicabilityFieldSpecs : List (String × FieldSpec) :=
  [("source_host_id", ⟨.optionalSafeLabel, some 160⟩),
    ("source_host_family", ⟨.optionalSafeLabel, some 160⟩),
    ("applicability_scope", ⟨.applicabilityScope, some 16⟩),
    ("applicable_host_ids", ⟨.hostLabelList, none⟩),
    ("applicable_host_families", ⟨.hostLabelList, none⟩)]

def changesetPayloadFields : List (String × FieldSpec) :=
  [("actor", ⟨.string, some 160⟩), ("provider_id", ⟨.string, some 160⟩),
    ("classification", ⟨.classification, some 32⟩), ("source_hash", ⟨.hash, some 71⟩),
    ("source_ref_hash", ⟨.hash, some 71⟩), ("source_hashes", ⟨.hashList, none⟩),
    ("evidence_refs", ⟨.hashList, none⟩), ("provenances", ⟨.stringList, some 240⟩),
    ("record_fingerprint", ⟨.hash, some 71⟩), ("session_id_hash", ⟨.optionalHash, some 71⟩),
    ("turn_id_hash", ⟨.optionalHash, some 71⟩), ("provenance_key", ⟨.string, some 240⟩),
    ("title", ⟨.string, some 160⟩), ("claim", ⟨.string, some 1200⟩),
    ("rule", ⟨.string, some 12000⟩), ("precondition", ⟨.string, some 500⟩),
    ("failure_mode", ⟨.string, some 500⟩), ("exception", ⟨.string, some 500⟩),
    ("version_constraint", ⟨.nullableString, some 160⟩), ("domain", ⟨.string, some 160⟩),
    ("scopes", ⟨.stringList, some 240⟩), ("applicability", ⟨.stringList, some 240⟩),
    ("benefit", ⟨.string, some 240⟩), ("benefit_count", ⟨.nonnegativeInteger, none⟩),
    ("source_kind", ⟨.string, some 80⟩), ("source_ref", ⟨.string, some 240⟩),
    ("outcome_status", ⟨.string, some 80⟩), ("reason_code", ⟨.reason, some 80⟩),
    ("pattern_id", ⟨.identifier, some 160⟩), ("cluster_id", ⟨.identifier, some 160⟩),
    ("proposal_only", ⟨.boolean, none⟩), ("contradiction_count", ⟨.nonnegativeInteger, none⟩),
    ("revision", ⟨.nonnegativeInteger, none⟩), ("approved_by", ⟨.approvalIdentity, some 71⟩),
    ("approval_identity_hash", ⟨.hash, some 71⟩), ("cwd_fingerprint", ⟨.optionalHash, some 71⟩),
    ("user_id_hash", ⟨.optionalHash, some 71⟩), ("machine_id_hash", ⟨.optionalHash, some 71⟩),
    ("host_id_hash", ⟨.optionalHash, some 71⟩), ("reference_hash", ⟨.hash, some 71⟩),
    ("match_kind", ⟨.matchKind, some 16⟩)] ++ hostApplicabilityFieldSpecs

def eventPayloadFields : List (String × FieldSpec) :=
  [("actor", ⟨.string, some 160⟩), ("provider_id", ⟨.string, some 160⟩),
    ("classification", ⟨.string, some 32⟩), ("knowledge_scope", ⟨.safeLabel, some 32⟩),
    ("origin_event_hash", ⟨.optionalHash, some 71⟩), ("source_hash", ⟨.optionalHash, some 71⟩),
    ("source_ref_hash", ⟨.optionalHash, some 71⟩), ("source_hashes", ⟨.hashList, some 71⟩),
    ("record_fingerprint", ⟨.optionalHash, some 71⟩),
    ("cwd_fingerprint", ⟨.optionalHash, some 71⟩),
    ("session_id_hash", ⟨.optionalHash, some 71⟩), ("turn_id_hash", ⟨.optionalHash, some 71⟩),
    ("user_id_hash", ⟨.optionalHash, some 71⟩), ("machine_id_hash", ⟨.optionalHash, some 71⟩),
    ("host_id_hash", ⟨.optionalHash, some 71⟩), ("reference_hash", ⟨.optionalHash, some 71⟩),
    ("approval_identity_hash", ⟨.optionalHash, some 71⟩),
    ("observation_fingerprint", ⟨.optionalHash, some 71⟩),
    ("legacy_source_event_id_hash", ⟨.optionalHash, some 71⟩),
    ("target_id_hash", ⟨.optionalHash, some 71⟩), ("idempotency_key", ⟨.optionalHash, some 71⟩),
    ("evidence_refs", ⟨.stringList, some 240⟩), ("provenances", ⟨.stringList, some 240⟩),
    ("event_ids", ⟨.stringList, some 160⟩), ("provenance_key", ⟨.string, some 240⟩),
    ("title", ⟨.string, some 160⟩), ("claim", ⟨.string, some 1200⟩),
    ("rule", ⟨.string, some 12000⟩), ("precondition", ⟨.string, some 500⟩),
    ("failure_mode", ⟨.string, some 500⟩), ("exception", ⟨.string, some 500⟩),
    ("version_constraint", ⟨.nullableString, some 160⟩), ("domain", ⟨.string, some 160⟩),
    ("scopes", ⟨.stringList, some 240⟩), ("scope", ⟨.stringList, some 240⟩),
    ("preconditions", ⟨.stringList, some 500⟩), ("failure_modes", ⟨.stringList, some 500⟩),
    ("applicability", ⟨.stringList, some 240⟩), ("benefit", ⟨.string, some 240⟩),
    ("source_kind", ⟨.string, some 80⟩), ("outcome_status", ⟨.string, some 80⟩),
    ("reason", ⟨.string, some 160⟩), ("reason_code", ⟨.reason, some 80⟩),
    ("pattern_id", ⟨.string, some 160⟩), ("cluster_id", ⟨.string, some 160⟩),
    ("candidate_id", ⟨.string, some 160⟩), ("candidate_id_hash", ⟨.optionalHash, some 71⟩),
    ("changeset_id", ⟨.string, some 160⟩), ("observation_id", ⟨.string, some 160⟩),
    ("reference_id", ⟨.string, some 160⟩), ("change_operation", ⟨.string, some 80⟩),
    ("changeset_hash", ⟨.string, some 160⟩), ("policy_version", ⟨.string, some 160⟩),
    ("status", ⟨.string, some 80⟩), ("decision", ⟨.string, some 16⟩),
    ("parser_status", ⟨.string, some 80⟩), ("capture_path", ⟨.string, some 80⟩),
    ("capture_idempotency_key", ⟨.string, some 160⟩), ("host_id", ⟨.string, some 160⟩),
    ("audit_action", ⟨.string, some 160⟩), ("last_used_at", ⟨.nullableString, some 80⟩),
    ("benefit_count", ⟨.nonnegativeInteger, none⟩),
    ("evidence_count", ⟨.nonnegativeInteger, none⟩), ("revision", ⟨.nonnegativeInteger, none⟩),
    ("contradiction_count", ⟨.nonnegativeInteger, none⟩),
    ("operation_count", ⟨.nonnegativeInteger, none⟩),
    ("capture_index", ⟨.nonnegativeInteger, none⟩),
    ("exposure_count", ⟨.nonnegativeInteger, none⟩),
    ("old_version", ⟨.stringOrInteger, some 160⟩), ("new_version", ⟨.stringOrInteger, some 160⟩),
    ("migration", ⟨.boolean, none⟩), ("status_is_not_evidence", ⟨.boolean, none⟩)] ++
  hostApplicabilityFieldSpecs

structure PersistableIssue where
  pointer : List Char
  reasonCode : String
deriving DecidableEq, Repr

/-- The pointer of a part below another pointer. -/
def pointerTo (parent part : List Char) : List Char :=
  parent ++ ['/'] ++
    Text.replace ['/'] ['~', '1'] (Text.replace ['~'] ['~', '0'] part)

def isPathLike (value : List Char) : Bool :=
  let normalized := slashed value
  ['/'].isPrefixOf normalized || driveRooted normalized || ['~', '/'].isPrefixOf normalized ||
    normalized == ['.'] || normalized == ['.', '.'] || (normalized.splitOn '/').contains ['.', '.']
where
  driveRooted : List Char → Bool
    | c :: ':' :: '/' :: _ => isAsciiLetter c
    | _ => false

/-- Searches where no ASCII word character stands directly before. -/
def searchUnglued (found : List Char → Bool) : Option Char → List Char → Bool
  | previous, text =>
    (!(previous.map fun c => Text.isWord (Text.foldCase c)).getD false && found text) ||
      match text with
      | [] => false
      | c :: cs => searchUnglued found (some c) cs

def windowsAbsoluteAt : List Char → Bool
  | c :: ':' :: d :: _ => Text.isLower (Text.foldCase c) && (d == '\\' || d == '/')
  | _ => false

def personalDirectories : List String :=
  ["/users", "/home", "/private/var", "/tmp"]

/-- A personal directory that ends there, at a slash or before a final line feed. -/
def personalPathAt (text : List Char) : Bool :=
  personalDirectories.any fun name =>
    let rest := text.drop (Text.chars name).length
    (text.take (Text.chars name).length).map Text.foldCase == Text.chars name &&
      (rest.isEmpty || rest == ['\n'] || rest.head? == some '/')

def containsAbsolutePath (text : List Char) : Bool :=
  searchUnglued windowsAbsoluteAt none text || searchUnglued personalPathAt none text

def isHashText (text : List Char) : Bool :=
  isHash (String.ofList text)

def validateString (P : Platform) (value : String) (pointer fieldName : List Char)
    (limit : Option Nat) (classification : String) (requireHash : Bool) :
    List PersistableIssue :=
  let normalized := P.nfkc (Text.chars value)
  let decision := inspectPersistedText P normalized classification pointer
  if (limit.map fun most => decide (most < normalized.length)).getD false then
    [⟨pointer, "FIELD_LENGTH_EXCEEDED"⟩]
  else if hasControl P normalized then [⟨pointer, "UNICODE_CONTROL_FORBIDDEN"⟩]
  else if (texts pathFieldNames).contains fieldName && isPathLike normalized then
    [⟨pointer, "ABSOLUTE_PATH_FORBIDDEN"⟩]
  else if containsAbsolutePath normalized then [⟨pointer, "ABSOLUTE_PATH_FORBIDDEN"⟩]
  else if requireHash && !normalized.isEmpty && !isHashText normalized then
    [⟨pointer, "IDENTIFIER_HASH_REQUIRED"⟩]
  else if !decision.allowPrivateSync && decision.reasonCode != "CLASSIFIED" then
    [⟨pointer, decision.reasonCode⟩]
  else if (Text.contains (Text.chars "email") fieldName ||
      (texts personalFieldNames).contains fieldName) && !isHashText normalized then
    [⟨pointer, "PERSONAL_OR_CLIENT_IDENTIFIER_FORBIDDEN"⟩]
  else []

/-- The check a kind makes of a text before the common ones, and the code of its failure. -/
def kindRefusal (kind : FieldKind) (value : String) : Option String :=
  let refuseUnless (ok : Bool) (code : String) : Option String := if ok then none else some code
  match kind with
  | .identifier => refuseUnless (safeLabelShape 159 (Text.chars value)) "IDENTIFIER_INVALID"
  | .reason => refuseUnless (safeLabelShape 79 (Text.chars value)) "REASON_CODE_INVALID"
  | .classification =>
    refuseUnless (["public", "private-reusable"].contains value) "CLASSIFICATION_NOT_SYNCABLE"
  | .approvalIdentity => refuseUnless (isHash value) "IDENTIFIER_HASH_REQUIRED"
  | .matchKind => refuseUnless (["exact", "similar"].contains value) "MATCH_KIND_INVALID"
  | .optionalSafeLabel =>
    refuseUnless (validateHostLabel (.str value) "" true).isOk "IDENTIFIER_INVALID"
  | .safeLabel => refuseUnless (validateHostLabel (.str value) "" false).isOk "IDENTIFIER_INVALID"
  | .applicabilityScope => refuseUnless (hostScopeValues.contains value) "APPLICABILITY_SCOPE_INVALID"
  | _ => none

def walkString (P : Platform) (classification : String) (pointer fieldName : List Char)
    (expected : Option FieldSpec) (value : String) : List PersistableIssue :=
  let spec := expected.getD ⟨.string, none⟩
  match kindRefusal spec.kind value with
  | some code => [⟨pointer, code⟩]
  | none =>
    validateString P value pointer fieldName spec.limit classification
      (spec.kind == .hash || spec.kind == .optionalHash)

/-- The specification of the items of a list, or what is wrong with the list itself. -/
def itemSpec : FieldSpec → Option FieldSpec
  | ⟨.hashList, limit⟩ => some ⟨.hash, limit⟩
  | ⟨.hostLabelList, _⟩ => some ⟨.safeLabel, some 160⟩
  | ⟨.stringList, limit⟩ => some ⟨.string, limit⟩
  | _ => none

def hostListIssues (pointer : List Char) (items : List Value) : List PersistableIssue :=
  let labels := (Value.list items).strings
  (if maxHostApplicabilityItems < items.length then [⟨pointer, "HOST_LIST_TOO_LARGE"⟩] else []) ++
    if labels.length ≠ items.length ∨ ¬labels.Nodup then [⟨pointer, "HOST_LIST_INVALID"⟩] else []

def isFinite (repr : String) : Bool :=
  !(["NaN", "Infinity", "-Infinity"].contains repr)

mutual

def walk (P : Platform) (classification : String) (closed : Option (List (String × FieldSpec)))
    (pointer fieldName : List Char) (expected : Option FieldSpec) :
    Value → List PersistableIssue
  | .str value => walkString P classification pointer fieldName expected value
  | .none =>
    if expected.any fun spec => spec.kind != .nullableString then [⟨pointer, "NULL_NOT_ALLOWED"⟩]
    else []
  | .bool _ =>
    if expected.any fun spec => spec.kind != .boolean then [⟨pointer, "TYPE_INVALID"⟩] else []
  | .int value =>
    if expected.any fun spec =>
        (spec.kind != .nonnegativeInteger && spec.kind != .stringOrInteger) || value < 0 then
      [⟨pointer, "TYPE_INVALID"⟩]
    else []
  | .float value =>
    if !isFinite value then [⟨pointer, "JSON_VALUE_INVALID"⟩]
    else if expected.isSome then [⟨pointer, "TYPE_INVALID"⟩]
    else []
  | .dict fields =>
    if expected.isSome then [⟨pointer, "NESTED_OBJECT_FORBIDDEN"⟩]
    else walkFields P classification closed pointer fields
  | .list items | .tuple items =>
    match expected with
    | none => walkItems P classification pointer fieldName none 0 items
    | some spec =>
      match itemSpec spec with
      | none => [⟨pointer, "TYPE_INVALID"⟩]
      | some child =>
        (if spec.kind = .hostLabelList then hostListIssues pointer items else []) ++
          walkItems P classification pointer fieldName (some child) 0 items

def walkItems (P : Platform) (classification : String) (pointer fieldName : List Char)
    (expected : Option FieldSpec) (index : Nat) : List Value → List PersistableIssue
  | [] => []
  | item :: items =>
    walk P classification none (pointerTo pointer (toString index).toList) fieldName expected item ++
      walkItems P classification pointer fieldName expected (index + 1) items

def walkFields (P : Platform) (classification : String)
    (closed : Option (List (String × FieldSpec))) (pointer : List Char) :
    List (String × Value) → List PersistableIssue
  | [] => []
  | (key, nested) :: fields =>
    let child := pointerTo pointer (Text.chars key)
    let folded := P.casefold (Text.chars key)
    (if (texts forbiddenKeys).contains folded then [⟨child, "RAW_CONTENT_FORBIDDEN"⟩] else []) ++
      (match closed with
      | none => walk P classification none child folded none nested
      | some specs =>
        match specs.lookup key with
        | none => [⟨child, "UNKNOWN_FIELD"⟩]
        | some spec => walk P classification none child folded (some spec) nested) ++
      walkFields P classification closed pointer fields

end

/-- The host contract of new data: all five fields and a trusted source pair. -/
def hostContractIssues : Value → List PersistableIssue
  | .dict fields =>
    if hasHostField fields && !(validateHostApplicabilityMapping fields false true).isOk then
      [⟨Text.chars "/applicability_scope", "HOST_APPLICABILITY_INVALID"⟩]
    else []
  | _ => []

/-- The issues of a value, an issue at the root pointing to a slash; none if it is valid. -/
def inspectPersistable (P : Platform) (value : Value) (classification : String)
    (closed : Option (List (String × FieldSpec))) (maxBytes : Nat) : List PersistableIssue :=
  let tooLarge := decide (maxBytes < Value.utf8Length value.dump)
  let found := (if tooLarge then [⟨['/'], "PERSISTED_PAYLOAD_TOO_LARGE"⟩] else []) ++
    (walk P classification closed [] [] none value).map (fun issue =>
      if issue.pointer.isEmpty then { issue with pointer := ['/'] } else issue) ++
    hostContractIssues value
  found.eraseDups

def inspectChangesetPayload (P : Platform) (payload : List (String × Value))
    (classification : String) : List PersistableIssue :=
  inspectPersistable P (.dict payload) classification (some changesetPayloadFields) (512 * 1024)

def inspectEventPayload (P : Platform) (payload : Value) (classification : String) :
    List PersistableIssue :=
  inspectPersistable P payload classification (some eventPayloadFields) (1024 * 1024)

end ExternalIntelligence
