import ExternalIntelligence.Canonical
import ExternalIntelligence.Persistable

namespace ExternalIntelligence
set_option autoImplicit true

/-- An exception: the name of its type and its text. -/
structure Raised where
  type : String
  text : String
deriving DecidableEq, Repr

def refuse (bad : Bool) (error : Raised) : Except Raised Unit :=
  if bad then .error error else .ok ()

def journalIntegrityError (text : String) : Raised :=
  ⟨"JournalIntegrityError", text⟩

def journalLimitError : Raised :=
  ⟨"JournalLimitError", "JOURNAL_BOUNDED_LIMIT"⟩

def schemaInvalid (reason : String) : Raised :=
  journalIntegrityError ("EVENT_SCHEMA_INVALID:" ++ reason)

def schemaError (name reason : String) : Raised :=
  schemaInvalid (name ++ "." ++ reason)

def maxEventPayloadBytes : Nat :=
  1024 * 1024

def boundedEventBytes : Nat :=
  8 * 1024 * 1024

def forbiddenTransientKeys : List String :=
  ["transient_input", "raw_response", "body", "candidate_text"]

def canonicalPayloadHash (P : Platform) (payload : List (String × Value)) : String :=
  "sha256:" ++ P.sha256 (canonicalJson (.dict payload))

def eventIntegrity (P : Platform) (event : Event) : String :=
  P.sha256 (canonicalJson (.dict event.canonicalDict))

def materialize (P : Platform) (event : Event) : Event :=
  let materialized :=
    if 2 ≤ event.schemaVersion then
      { event with integrity :=
          [("algorithm", .str "sha256"),
            ("canonical_payload_hash", .str (canonicalPayloadHash P event.payload))] }
    else event
  { materialized with integritySha256 := eventIntegrity P materialized }

def awareTimestamp (P : Platform) (text : String) : Bool :=
  text != "" && (P.fromisoformat text).any Moment.aware

def validateSchema (P : Platform) (event : Event) : Except Raised Unit := do
  let v2 := decide (2 ≤ event.schemaVersion)
  refuse (event.schemaVersion != 1 && event.schemaVersion != 2) (schemaInvalid "schema_version")
  refuse (event.eventId == "") (schemaInvalid "event_id")
  refuse (v2 && !isEventId event.eventId) (schemaInvalid "event_id")
  refuse (event.eventType == "") (schemaInvalid "event_type")
  refuse (event.actor == "") (schemaInvalid "actor")
  refuse (event.machineId == "") (schemaInvalid "machine_id")
  refuse (v2 && !awareTimestamp P event.occurredAt) (schemaError "event" "occurred_at")
  refuse (decide (maxEventPayloadBytes < Value.utf8Length (canonicalJson (.dict event.payload))))
    (journalIntegrityError "EVENT_PAYLOAD_TOO_LARGE:payload")
  refuse (v2 && !isHash event.idempotencyKey) (schemaInvalid "idempotency_key")
  refuse (v2 && (Dict.keys event.integrity).any fun key =>
    key != "algorithm" && key != "canonical_payload_hash") (schemaInvalid "integrity")
  refuse (v2 && event.integrity.lookup "algorithm" != some (.str "sha256"))
    (schemaInvalid "integrity.algorithm")
  refuse (v2 && event.integrity.lookup "canonical_payload_hash" !=
      some (.str (canonicalPayloadHash P event.payload)))
    (journalIntegrityError "EVENT_INTEGRITY_INVALID:canonical_payload_hash")

/-- The classification under which the texts of an event are inspected. -/
def eventClassification (P : Platform) (event : Event) : String :=
  pyStr P ((event.payload.lookup "classification").getD (.str "private-reusable"))

def validatePersistedEventPayload (P : Platform) (event : Event) : Except Raised Unit := do
  let classification := eventClassification P event
  match inspectEventPayload P (.dict event.payload) classification with
  | [] => pure ()
  | issue :: _ =>
    .error (journalIntegrityError
      ("EVENT_PRIVACY_INVALID:" ++ String.ofList issue.pointer ++ ":" ++ issue.reasonCode))
  match inspectEventPayload P (.list event.provenance) classification with
  | [] => pure ()
  | issue :: _ =>
    let pointer := if ['/'].isPrefixOf issue.pointer then issue.pointer else '/' :: issue.pointer
    .error (journalIntegrityError
      ("EVENT_PRIVACY_INVALID:/provenance" ++ String.ofList pointer ++ ":" ++ issue.reasonCode))

def validateIncomingV2Event (P : Platform) (event : Event) : Except Raised Unit := do
  validateSchema P event
  validatePersistedEventPayload P event
  refuse (event.integritySha256 != "" && event.integritySha256 != eventIntegrity P event)
    (journalIntegrityError ("EVENT_INTEGRITY_INVALID:" ++ event.eventId))

def validateStoredIntegrity (P : Platform) (event : Event) : Except Raised Unit := do
  let error := journalIntegrityError ("EVENT_INTEGRITY_INVALID:" ++ event.eventId)
  refuse (event.integritySha256 != eventIntegrity P event) error
  refuse (decide (2 ≤ event.schemaVersion) && event.integrity.lookup "canonical_payload_hash" !=
    some (.str (canonicalPayloadHash P event.payload))) error

mutual

/-- The first key of a value that no stored event may have. -/
def forbiddenContent : Value → Option String
  | .dict fields => forbiddenContentFields fields
  | .list items | .tuple items => forbiddenContentItems items
  | _ => none

def forbiddenContentItems : List Value → Option String
  | [] => none
  | item :: items => (forbiddenContent item).or (forbiddenContentItems items)

def forbiddenContentFields : List (String × Value) → Option String
  | [] => none
  | (key, nested) :: fields =>
    if forbiddenTransientKeys.contains key then some key
    else (forbiddenContent nested).or (forbiddenContentFields fields)

end

/-- The text fields of a mapping that an event is read from. -/
def eventTextFields : List String :=
  ["event_id", "event_type", "occurred_at", "actor", "machine_id", "integrity_sha256"]

def Event.fromDict (data : List (String × Value)) : Except Raised Event := do
  let valueError (text : String) : Raised := ⟨"ValueError", text⟩
  let required := ["actor", "event_id", "event_type", "integrity_sha256", "machine_id",
    "occurred_at", "payload"]
  let missing := required.filter fun name => (data.lookup name).isNone
  refuse (!missing.isEmpty) (valueError ("EVENT_FIELDS_MISSING:" ++ ",".intercalate missing))
  let schemaVersion ← match (data.lookup "schema_version").getD (.int 1) with
    | .int version => pure version
    | _ => .error (valueError "EVENT_SCHEMA_VERSION_INVALID")
  eventTextFields.forM fun name =>
    refuse (!(fieldOf data name).isStr) (valueError ("EVENT_" ++ name.toUpper ++ "_INVALID"))
  let payload ← match fieldOf data "payload" with
    | .dict payload => pure payload
    | _ => .error (valueError "EVENT_PAYLOAD_NOT_OBJECT")
  let provenance ← match ((data.lookup "provenance").getD (.tuple [])).items? with
    | some items => pure items
    | none => .error (valueError "EVENT_PROVENANCE_INVALID")
  refuse (!provenance.all Value.isStr) (valueError "EVENT_PROVENANCE_INVALID")
  let integrity ← match (data.lookup "integrity").getD (.dict []) with
    | .dict integrity => pure integrity
    | _ => .error (valueError "EVENT_INTEGRITY_OBJECT_REQUIRED")
  let idempotencyKey ← match (data.lookup "idempotency_key").getD (.str "") with
    | .str key => pure key
    | _ => .error (valueError "EVENT_IDEMPOTENCY_KEY_INVALID")
  pure
    { schemaVersion
      eventId := (fieldOf data "event_id").strOr ""
      eventType := (fieldOf data "event_type").strOr ""
      occurredAt := (fieldOf data "occurred_at").strOr ""
      actor := (fieldOf data "actor").strOr ""
      machineId := (fieldOf data "machine_id").strOr ""
      payload
      integritySha256 := (fieldOf data "integrity_sha256").strOr ""
      idempotencyKey
      provenance
      integrity }

def requireString (name field : String) (value : Value) : Except Raised Unit :=
  refuse (!value.isStr || value.strOr "" == "") (schemaError name field)

def requireHash (name field : String) (value : Value) : Except Raised Unit :=
  refuse (!value.isStr || !isHash (value.strOr "")) (schemaError name field)

/-- The first key, in alphabetical order, that is not allowed. -/
def rejectExtra (name : String) (value : List (String × Value)) (allowed : List String) :
    Except Raised Unit :=
  match ((Dict.keys value).filter fun key => !allowed.contains key).insertionSort (· ≤ ·) with
  | [] => .ok ()
  | key :: _ => .error (schemaError name key)

def isDigest (text : String) : Bool :=
  (Text.chars text).length == 64 && (Text.chars text).all isLowerHex

/-- The checks of the fields that only version 2 has. -/
def validateV2Fields (value : List (String × Value)) : Except Raised Unit := do
  requireHash "event" "idempotency_key" (fieldOf value "idempotency_key")
  let provenance ← match (fieldOf value "provenance").items? with
    | some items => pure items
    | none => .error (schemaError "event" "provenance")
  provenance.forM (requireString "event" "provenance")
  let integrity ← match fieldOf value "integrity" with
    | .dict integrity => pure integrity
    | _ => .error (schemaError "event" "type")
  rejectExtra "event.integrity" integrity ["algorithm", "canonical_payload_hash"]
  refuse (integrity.lookup "algorithm" != some (.str "sha256"))
    (schemaError "event" "integrity.algorithm")
  requireHash "event" "canonical_payload_hash" (fieldOf integrity "canonical_payload_hash")

def validateEventMapping (P : Platform) (value : List (String × Value)) :
    Except Raised Unit := do
  let commonRequired := ["event_id", "event_type", "occurred_at", "actor", "machine_id",
    "payload", "integrity_sha256"]
  let v2Required := ["idempotency_key", "provenance", "integrity"]
  let schemaVersion := (value.lookup "schema_version").getD (.int 1)
  refuse (schemaVersion != .int 1 && schemaVersion != .int 2) (schemaError "event" "schema_version")
  let v2 := schemaVersion == .int 2
  commonRequired.forM fun name =>
    refuse (value.lookup name).isNone (schemaError "event" name)
  v2Required.forM fun name =>
    refuse (v2 && (value.lookup name).isNone) (schemaError "event" name)
  rejectExtra "event" value
    (commonRequired ++ ["schema_version"] ++ if v2 then v2Required else [])
  requireString "event" "event_id" (fieldOf value "event_id")
  requireString "event" "event_type" (fieldOf value "event_type")
  refuse (v2 && !awareTimestamp P ((fieldOf value "occurred_at").strOr ""))
    (schemaError "event" "occurred_at")
  requireString "event" "actor" (fieldOf value "actor")
  requireString "event" "machine_id" (fieldOf value "machine_id")
  let payload ← match fieldOf value "payload" with
    | .dict payload => pure payload
    | _ => .error (schemaError "event" "payload")
  let digest := (fieldOf value "integrity_sha256").strOr "?"
  refuse (digest != "" && !isDigest digest) (schemaError "event" "integrity_sha256")
  if v2 then do
    validateV2Fields value
    match forbiddenContentFields payload with
    | none => pure ()
    | some key => .error (schemaError "event" key)
  let event ← Event.fromDict value
  validateSchema P event
  validatePersistedEventPayload P event

/-- The regular files of the machine by their absolute paths, each with the JSON value its text
stands for, and its directories. Temporary files are left out: no reader looks at them. -/
structure Disk where
  files : List (List String × Value) := []
  directories : List (List String) := []
deriving DecidableEq, Repr

def Disk.isDirectory (disk : Disk) (path : List String) : Bool :=
  path.isEmpty || disk.directories.contains path

def Disk.makeDirectories (disk : Disk) (path : List String) : Disk :=
  { disk with directories := disk.directories ++ path.inits }

/-- The file that the parts of a path lead to from a directory. -/
def Disk.resolve (disk : Disk) (directory : List String) : List String → Option (List String)
  | [] => some directory
  | [name] => if name = ".." then some directory.dropLast else some (directory ++ [name])
  | name :: rest =>
    if name = ".." then disk.resolve directory.dropLast rest
    else if disk.isDirectory (directory ++ [name]) then disk.resolve (directory ++ [name]) rest
    else none

/-- The file of an event whose id may itself be a path. -/
def Disk.target (disk : Disk) (directory : List String) (eventId : String) :
    Option (List String) :=
  let name := Text.chars eventId ++ Text.chars ".json"
  let parts := ((name.splitOn '/').filter fun part => !part.isEmpty && part != ['.']).map
    String.ofList
  disk.resolve (if name.head? = some '/' then [] else directory) parts

def unreadable (path : List String) : Raised :=
  schemaInvalid ("/" ++ "/".intercalate path)

def readMapping (P : Platform) (path : List String) (fields : List (String × Value)) :
    Except Raised Event := do
  -- Any exception but the journal's own is wrapped and names the file.
  let wrap {α : Type} (result : Except Raised α) : Except Raised α :=
    result.mapError fun error =>
      if error.type = "JournalIntegrityError" then error else unreadable path
  wrap (validateEventMapping P fields)
  let event ← wrap (Event.fromDict fields)
  validateStoredIntegrity P event
  pure event

/-- Reads an event, with a bound on the size of its file when there is a budget. -/
def readEvent (P : Platform) (bounded : Bool) (disk : Disk) (path : List String) :
    Except Raised Event :=
  match disk.files.lookup path with
  | none => .error (unreadable path)
  | some content =>
    if bounded && decide (boundedEventBytes < Value.utf8Length content.fileText) then
      .error journalLimitError
    else
      match content with
      | .dict fields => readMapping P path fields
      | _ => .error (schemaError "event" "type")

def jsonPaths (root : List String) (disk : Disk) : List (List String) :=
  ((Dict.keys disk.files).filter fun path =>
    root.isPrefixOf path && path != root &&
      (Text.chars ".json").isSuffixOf (Text.chars (path.getLastD ""))).insertionSort (· ≤ ·)

/-- Python's equality of two dicts whose values hold no dict. -/
def sameFields (a b : List (String × Value)) : Bool :=
  Value.sortFields a == Value.sortFields b

def sameBasis (a b : Event) : Bool :=
  a.schemaVersion == b.schemaVersion && a.eventType == b.eventType &&
    a.occurredAt == b.occurredAt && a.actor == b.actor && a.machineId == b.machineId &&
    sameFields a.payload b.payload && a.idempotencyKey == b.idempotencyKey &&
    a.provenance == b.provenance

def sameCanonicalDict (a b : Event) : Bool :=
  a.schemaVersion == b.schemaVersion && a.eventId == b.eventId && a.eventType == b.eventType &&
    a.occurredAt == b.occurredAt && a.actor == b.actor && a.machineId == b.machineId &&
    sameFields a.payload b.payload &&
    (decide (a.schemaVersion < 2) || (a.idempotencyKey == b.idempotencyKey &&
      a.provenance == b.provenance && sameFields a.integrity b.integrity))

def findDuplicate (P : Platform) (disk : Disk) (event : Event) :
    List (List String) → Except Raised (Option (List String))
  | [] => .ok none
  | path :: paths => do
    let existing ← readEvent P false disk path
    if existing.schemaVersion < 2 ∨ existing.idempotencyKey ≠ event.idempotencyKey then
      findDuplicate P disk event paths
    else if sameBasis existing event then .ok (some path)
    else .error (journalIntegrityError ("EVENT_ID_COLLISION:" ++ event.idempotencyKey))

def existingDuplicate (P : Platform) (root : List String) (disk : Disk) (event : Event) :
    Except Raised (Option (List String)) :=
  if event.schemaVersion < 2 ∨ event.idempotencyKey = "" then .ok none
  else findDuplicate P disk event (jsonPaths root disk)

/-- The year and month under which an event is stored. -/
def eventPartition (P : Platform) (event : Event) : Except Raised (List String) :=
  match P.fromisoformat event.occurredAt with
  | none => .error ⟨"ValueError", "Invalid isoformat string"⟩
  | some moment =>
    .ok [toString moment.year, if moment.month < 10 then "0" ++ toString moment.month
      else toString moment.month]

/-- The checks before the disk is looked at; the event comes back with its digests. -/
def admitEvent (P : Platform) (event : Event) : Except Raised Event :=
  if 2 ≤ event.schemaVersion then do
    validateIncomingV2Event P event
    pure (materialize P event)
  else do
    validateSchema P (materialize P event)
    validatePersistedEventPayload P (materialize P event)
    pure (materialize P event)

def Event.content (event : Event) : Value :=
  (Value.dict event.toDict).canonical

/-- Stores an admitted event in its directory. A call that `stops` is killed, or its write fails,
before the temporary file gets the event's name. -/
def storeEvent (P : Platform) (directory : List String) (disk : Disk) (event : Event)
    (stops : Bool) : Except Raised (List String) × Disk :=
  match disk.target directory event.eventId with
  | none => (.error ⟨"FileNotFoundError", ""⟩, disk)
  | some target =>
    if (disk.files.lookup target).isSome then
      match readEvent P false disk target with
      | .error error => (.error error, disk)
      | .ok existing =>
        if sameCanonicalDict existing event then (.ok target, disk)
        else (.error (journalIntegrityError ("EVENT_ID_COLLISION:" ++ event.eventId)), disk)
    else if disk.isDirectory target then (.error (unreadable target), disk)
    else if stops then (.error ⟨"OSError", ""⟩, disk)
    else (.ok target, { disk with files := Dict.set target event.content disk.files })

/-- Appends an event; the path returned is the one the file system resolves it to. -/
def appendEvent (P : Platform) (root : List String) (disk : Disk) (event : Event)
    (stops : Bool) : Except Raised (List String) × Disk :=
  match admitEvent P event with
  | .error error => (.error error, disk)
  | .ok admitted =>
    match existingDuplicate P root disk admitted with
    | .error error => (.error error, disk)
    | .ok (some path) => (.ok path, disk)
    | .ok none =>
      match eventPartition P admitted with
      | .error error => (.error error, disk)
      | .ok partition =>
        storeEvent P (root ++ partition) (disk.makeDirectories (root ++ partition)) admitted stops

def eventLe (a b : Event) : Prop :=
  a.occurredAt < b.occurredAt ∨ a.occurredAt = b.occurredAt ∧ a.eventId ≤ b.eventId

instance : DecidableRel eventLe := fun a b =>
  inferInstanceAs (Decidable (a.occurredAt < b.occurredAt ∨
    a.occurredAt = b.occurredAt ∧ a.eventId ≤ b.eventId))

/-- The changeset an event names, as text. -/
def changesetOf (P : Platform) (event : Event) : Option String :=
  match event.payload.lookup "changeset_id" with
  | none => none
  | some value => if value.truthy then some (pyStr P value) else none

def isMarker (event : Event) : Bool :=
  event.eventType == "curation.changeset.applied"

def committedChangesets (P : Platform) (ordered : List Event) : List String :=
  (ordered.filter isMarker).filterMap (changesetOf P)

/-- The events a reader sees: those of no changeset and those of a committed one. -/
def visibleEvents (P : Platform) (ordered : List Event) : List Event :=
  ordered.filter fun event =>
    isMarker event || (changesetOf P event).all (committedChangesets P ordered).contains

def iterEvents (P : Platform) (root : List String) (disk : Disk) (includeUncommitted : Bool) :
    Except Raised (List Event) := do
  let events ← (jsonPaths root disk).mapM (readEvent P false disk)
  let ordered := events.insertionSort eventLe
  pure (if includeUncommitted then ordered else visibleEvents P ordered)

end ExternalIntelligence
