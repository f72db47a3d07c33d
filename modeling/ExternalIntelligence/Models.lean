import ExternalIntelligence.Platform

namespace ExternalIntelligence
set_option autoImplicit true

def hostApplicabilityFieldNames : List String :=
  ["source_host_id", "source_host_family", "applicability_scope", "applicable_host_ids",
    "applicable_host_families"]

def hostScopeValues : List String :=
  ["universal", "family", "host"]

def maxHostApplicabilityItems : Nat :=
  16

def isAsciiLetter (c : Char) : Bool :=
  ('A' ≤ c && c ≤ 'Z') || Text.isLower c

/-- `[A-Za-z0-9][A-Za-z0-9_.:@-]*` with at most `most` characters after the first. -/
def safeLabelShape (most : Nat) : List Char → Bool
  | [] => false
  | c :: cs =>
    (isAsciiLetter c || Text.isDigit c) && cs.length ≤ most &&
      cs.all fun d => isAsciiLetter d || Text.isDigit d || (Text.chars "_.:@-").contains d

def isLowerHex (c : Char) : Bool :=
  Text.isDigit c || ('a' ≤ c && c ≤ 'f')

/-- `sha256:` and 64 lower-case hexadecimal digits. -/
def isHash (s : String) : Bool :=
  let digits := (Text.chars s).drop 7
  (Text.chars s).take 7 == Text.chars "sha256:" && digits.length == 64 && digits.all isLowerHex

/-- `evt_`, a stamp of digits, T and Z, an underscore and 12 hexadecimal digits. -/
def isEventId (s : String) : Bool :=
  let stampChar (c : Char) : Bool := Text.isDigit c || c == 'T' || c == 'Z'
  let rest := (Text.chars s).drop 4
  let machine := (rest.dropWhile stampChar).drop 1
  (Text.chars s).take 4 == Text.chars "evt_" && (rest.head?.map stampChar).getD false &&
    (rest.dropWhile stampChar).head? == some '_' && machine.length == 12 && machine.all isLowerHex

/-- A letter and a colon, as a Windows path starts. -/
def driveQualified : List Char → Bool
  | c :: ':' :: _ => isAsciiLetter c
  | _ => false

def validateHostLabel (value : Value) (field : String) (allowEmpty : Bool) :
    Except String String :=
  match value with
  | .str s =>
    if s = "" ∧ allowEmpty then .ok s
    else if !safeLabelShape 159 (Text.chars s) then .error ("HOST_LABEL_INVALID:" ++ field)
    else if driveQualified (Text.chars s) then .error ("HOST_LABEL_INVALID:" ++ field)
    else .ok s
  | _ => .error ("HOST_LABEL_INVALID:" ++ field)

def validateHostList (value : Value) (field : String) : Except String (List String) :=
  match value.items? with
  | none => .error ("HOST_LIST_INVALID:" ++ field)
  | some items =>
    if maxHostApplicabilityItems < items.length then .error ("HOST_LIST_INVALID:" ++ field)
    else do
      let labels ← items.mapM fun item => validateHostLabel item field false
      if labels.Nodup then pure labels else .error ("HOST_LIST_INVALID:" ++ field)

structure HostApplicability where
  scope : String
  hostIds : List String
  hostFamilies : List String
deriving DecidableEq, Repr

def hasHostField (value : List (String × Value)) : Bool :=
  hostApplicabilityFieldNames.any fun name => (value.lookup name).isSome

def hasAllHostFields (value : List (String × Value)) : Bool :=
  hostApplicabilityFieldNames.all fun name => (value.lookup name).isSome

/-- The field of a mapping that is known to have it. -/
def fieldOf (value : List (String × Value)) (name : String) : Value :=
  (value.lookup name).getD .none

/-- Whether the two host lists fit the scope and the source pair. -/
def scopeContradictory (scope sourceId sourceFamily : String) (hostIds hostFamilies : List String) :
    Bool :=
  if scope = "universal" then !hostIds.isEmpty || !hostFamilies.isEmpty
  else if scope = "family" then
    hostFamilies.isEmpty || !hostIds.isEmpty ||
      (sourceFamily != "" && !hostFamilies.contains sourceFamily)
  else
    hostIds.isEmpty || !hostFamilies.isEmpty || (sourceId != "" && !hostIds.contains sourceId)

def validateHostApplicabilityMapping (value : List (String × Value))
    (allowLegacy requireSourcePair : Bool) : Except String HostApplicability :=
  if !hasHostField value then
    if allowLegacy then .ok ⟨"universal", [], []⟩ else .error "HOST_APPLICABILITY_REQUIRED"
  else if !hasAllHostFields value then .error "HOST_APPLICABILITY_FIELDS_INCOMPLETE"
  else do
    let sourceId ← validateHostLabel (fieldOf value "source_host_id") "source_host_id"
      !requireSourcePair
    let sourceFamily ← validateHostLabel (fieldOf value "source_host_family")
      "source_host_family" !requireSourcePair
    if (sourceId != "") != (sourceFamily != "") then .error "HOST_SOURCE_PAIR_INVALID"
    else if requireSourcePair && (sourceId == "" || sourceFamily == "") then
      .error "HOST_SOURCE_PAIR_REQUIRED"
    else
      let scope := (fieldOf value "applicability_scope").strOr ""
      if !hostScopeValues.contains scope then .error "HOST_APPLICABILITY_SCOPE_INVALID"
      else do
        let hostIds ← validateHostList (fieldOf value "applicable_host_ids")
          "applicable_host_ids"
        let hostFamilies ← validateHostList (fieldOf value "applicable_host_families")
          "applicable_host_families"
        if scopeContradictory scope sourceId sourceFamily hostIds hostFamilies then
          .error "HOST_APPLICABILITY_SCOPE_CONTRADICTORY"
        else .ok ⟨scope, hostIds, hostFamilies⟩

/-- The five host fields of a record, after validation. -/
structure HostFields where
  sourceHostId : String := ""
  sourceHostFamily : String := ""
  applicabilityScope : String := "universal"
  applicableHostIds : List String := []
  applicableHostFamilies : List String := []
deriving DecidableEq, Repr

def hostApplicabilityFields (value : List (String × Value))
    (allowLegacy requireSourcePair : Bool) : Except String HostFields :=
  (validateHostApplicabilityMapping value allowLegacy requireSourcePair).map fun scope =>
    if !hasHostField value then {}
    else
    { sourceHostId := (fieldOf value "source_host_id").strOr ""
      sourceHostFamily := (fieldOf value "source_host_family").strOr ""
      applicabilityScope := scope.scope
      applicableHostIds := scope.hostIds
      applicableHostFamilies := scope.hostFamilies }

/-- The five fields as a payload carries them. -/
def HostFields.toPayload (host : HostFields) : List (String × Value) :=
  [("source_host_id", .str host.sourceHostId),
    ("source_host_family", .str host.sourceHostFamily),
    ("applicability_scope", .str host.applicabilityScope),
    ("applicable_host_ids", .ofStrings host.applicableHostIds),
    ("applicable_host_families", .ofStrings host.applicableHostFamilies)]

structure Event where
  eventId : String
  eventType : String
  occurredAt : String
  actor : String
  machineId : String
  payload : List (String × Value)
  schemaVersion : Int := 1
  integritySha256 : String := ""
  idempotencyKey : String := ""
  provenance : List Value := []
  integrity : List (String × Value) := []
deriving DecidableEq, Repr

/-- The mapping an event is hashed and stored as, without its own digest. -/
def Event.canonicalDict (event : Event) : List (String × Value) :=
  [("schema_version", .int event.schemaVersion), ("event_id", .str event.eventId),
    ("event_type", .str event.eventType), ("occurred_at", .str event.occurredAt),
    ("actor", .str event.actor), ("machine_id", .str event.machineId),
    ("payload", .dict event.payload)] ++
  if 2 ≤ event.schemaVersion then
    [("idempotency_key", .str event.idempotencyKey), ("provenance", .list event.provenance),
      ("integrity", .dict event.integrity)]
  else []

def Event.toDict (event : Event) : List (String × Value) :=
  event.canonicalDict ++ [("integrity_sha256", .str event.integritySha256)]

def Event.idempotencyBasis (event : Event) : List (String × Value) :=
  [("schema_version", .int event.schemaVersion), ("event_type", .str event.eventType),
    ("occurred_at", .str event.occurredAt), ("actor", .str event.actor),
    ("machine_id", .str event.machineId), ("payload", .dict event.payload),
    ("idempotency_key", .str event.idempotencyKey), ("provenance", .list event.provenance)]

end ExternalIntelligence
