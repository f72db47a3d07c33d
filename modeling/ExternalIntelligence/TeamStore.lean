import ExternalIntelligence.CaptureLedger
import ExternalIntelligence.Interleaving
import ExternalIntelligence.JournalReading
import ExternalIntelligence.Queue

namespace ExternalIntelligence
set_option autoImplicit true

/-- What team knowledge needs of the runtime besides: strftime on a UTC instant, the names uuid4
draws, and the key a body is encrypted with. -/
structure TeamPlatform extends Platform where
  strftime : String → Int → String
  uuid : Nat → String
  keyId : Option String

namespace Raised

/-- The class a class of exceptions is derived from. -/
def bases : List (String × String) :=
  [("JournalIntegrityError", "ValueError"), ("JournalLimitError", "ValueError"),
    ("CryptoError", "ValueError"), ("SafeFilesystemError", "ValueError"),
    ("CatalogUnknown", "ValueError"), ("JSONDecodeError", "ValueError"),
    ("UnicodeError", "ValueError"), ("SpoolError", "RuntimeError"),
    ("KeyProviderError", "RuntimeError"), ("TimeoutError", "OSError"),
    ("FileNotFoundError", "OSError"), ("FileExistsError", "OSError")]

/-- Whether an except clause for one of some classes catches an exception. -/
def isA (error : Raised) (types : List String) : Bool :=
  types.contains error.type || ((bases.lookup error.type).map types.contains).getD false

end Raised

def teamError (code : String) : Raised :=
  ⟨"ValueError", code⟩

def osError (code : String) : Raised :=
  ⟨"OSError", code⟩

def maxTeamEventBytes : Nat :=
  1024 * 1024

/-- A prefix and then hexadecimal digits, at least 16 and at most 64. -/
def isTeamToken (start s : String) : Bool :=
  let digits := (Text.chars s).drop (Text.chars start).length
  (Text.chars start).isPrefixOf (Text.chars s) && 16 ≤ digits.length && digits.length ≤ 64 &&
    digits.all isLowerHex

def isTeamStoreId (s : String) : Bool :=
  isTeamToken "team_" s

def isTeamWriterId (s : String) : Bool :=
  isTeamToken "writer_" s

/-- `[a-z0-9][a-z0-9._-]{1,63}`. -/
def isTeamMemberId (s : String) : Bool :=
  match Text.chars s with
  | [] => false
  | c :: cs =>
    (Text.isLower c || Text.isDigit c) && 1 ≤ cs.length && cs.length ≤ 63 &&
      cs.all fun d => Text.isLower d || Text.isDigit d || (Text.chars "._-").contains d

/-- `evt_[A-Za-z0-9][A-Za-z0-9_.-]{0,127}`. -/
def isTeamEventId (s : String) : Bool :=
  match (Text.chars s).drop 4 with
  | [] => false
  | c :: cs =>
    (Text.chars "evt_").isPrefixOf (Text.chars s) && (isAsciiLetter c || Text.isDigit c) &&
      cs.length ≤ 127 &&
      cs.all fun d => isAsciiLetter d || Text.isDigit d || (Text.chars "_.-").contains d

def teamManifestName : String :=
  "team-manifest.json"

def manifestKeys : List String :=
  ["schema_version", "kind", "store_id", "layout", "event_schema_version", "created_at"]

def teamEventKeys : List String :=
  ["schema_version", "event_id", "event_type", "occurred_at", "actor", "machine_id", "payload",
    "integrity_sha256", "idempotency_key", "provenance", "integrity"]

def teamPayloadKeys : List String :=
  ["knowledge_scope", "origin_event_hash", "idempotency_key", "title", "claim", "scope",
    "preconditions", "failure_modes", "benefit", "classification"]

/-- Whether a mapping has these keys and no others. -/
def hasKeys (value : List (String × Value)) (names : List String) : Bool :=
  (Dict.keys value).all names.contains && names.all (Dict.keys value).contains

def dictOr (error : Raised) : Value → Except Raised (List (String × Value))
  | .dict fields => .ok fields
  | _ => .error error

def listOr (error : Raised) : Value → Except Raised (List Value)
  | .list items => .ok items
  | _ => .error error

/-- The UTC text of a timestamp with an offset. -/
def formatTime (P : Platform) (value : Value) : Except Raised String :=
  match value with
  | .str text =>
    match P.fromisoformat text with
    | none => .error (teamError "TEAM_MANIFEST_INVALID")
    | some moment =>
      if moment.aware then .ok (P.isoformat moment.instant)
      else .error (teamError "TEAM_MANIFEST_INVALID")
  | _ => .error (teamError "TEAM_MANIFEST_INVALID")

/-- The identity a manifest gives a team store. -/
def validateManifest (P : Platform) (value : List (String × Value)) : Except Raised String := do
  let error := teamError "TEAM_STORE_MANIFEST_INVALID"
  refuse (!hasKeys value manifestKeys) error
  refuse (fieldOf value "schema_version" != .int 1) error
  refuse (fieldOf value "kind" != .str "portable-external-intelligence-team-store" ||
    fieldOf value "layout" != .str "member-writer-events-v1") error
  let storeId := (fieldOf value "store_id").strOr ""
  refuse (!(fieldOf value "store_id").isStr || !isTeamStoreId storeId)
    (teamError "TEAM_STORE_ID_INVALID")
  refuse (fieldOf value "event_schema_version" != .int 2) error
  let createdAt ← formatTime P (fieldOf value "created_at")
  refuse (fieldOf value "created_at" != .str createdAt) error
  pure storeId

/-- The names directly below a directory. -/
def Disk.children (disk : Disk) (path : List String) : List String :=
  sortedSet (((Dict.keys disk.files ++ disk.directories).filter fun entry =>
    entry != [] && entry.dropLast == path).map fun entry => entry.getLastD "")

/-- Reads and checks the shared root; paths are those below it. -/
def inspectTeamStore (P : Platform) (disk : Disk) (up : Bool) (expected : Option String) :
    Except Raised String := do
  refuse (!up) (teamError "TEAM_ROOT_INVALID")
  let manifest ← dictOr (teamError "TEAM_STORE_MANIFEST_INVALID")
    ((disk.files.lookup [teamManifestName]).getD .none)
  let storeId ← validateManifest P manifest
  refuse (expected.any fun id => !isTeamStoreId id) (teamError "TEAM_STORE_ID_INVALID")
  refuse (expected.any (storeId != ·)) (teamError "TEAM_STORE_ID_MISMATCH")
  let names := disk.children []
  refuse (!names.all ([teamManifestName, "members"].contains ·) ||
    !disk.isDirectory ["members"]) (teamError "TEAM_ROOT_CONTRACT_INVALID")
  pure storeId

/-- The year, month and day under which an event is stored. -/
def teamEventPartition (T : TeamPlatform) (event : Event) : Except Raised (List String) :=
  match T.fromisoformat event.occurredAt with
  | none => .error (teamError "TEAM_EVENT_SCHEMA_INVALID")
  | some moment =>
    if moment.aware then
      .ok [T.strftime "%Y" moment.instant, T.strftime "%m" moment.instant,
        T.strftime "%d" moment.instant]
    else .error (teamError "TEAM_EVENT_SCHEMA_INVALID")

def nonemptyText (value : Value) : Bool :=
  value.isStr && value.strOr "" != ""

def validateTeamPayload (payload : List (String × Value)) : Except Raised Unit := do
  let error := teamError "TEAM_EVENT_SCHEMA_INVALID"
  refuse (!hasKeys payload teamPayloadKeys) error
  refuse (fieldOf payload "knowledge_scope" != .str "team" ||
    !(["public", "private-reusable"].contains ((fieldOf payload "classification").strOr ""))) error
  ["origin_event_hash", "idempotency_key"].forM fun key =>
    refuse (!isHash ((fieldOf payload key).strOr "")) error
  ["title", "claim", "benefit"].forM fun key => refuse (!nonemptyText (fieldOf payload key)) error
  let length (key : String) := (Text.chars ((fieldOf payload key).strOr "")).length
  refuse (160 < length "title" || length "claim" < 20 || 1200 < length "claim") error
  ["scope", "preconditions", "failure_modes"].forM fun key =>
    (listOr error (fieldOf payload key)).bind fun items => refuse (!items.all nonemptyText) error

def validateTeamEventMapping (T : TeamPlatform) (value : List (String × Value)) :
    Except Raised Event := do
  let error := teamError "TEAM_EVENT_SCHEMA_INVALID"
  refuse (!hasKeys value teamEventKeys) error
  refuse (fieldOf value "schema_version" != .int 2) error
  refuse (!(fieldOf value "event_id").isStr || !isTeamEventId ((fieldOf value "event_id").strOr ""))
    error
  refuse (fieldOf value "event_type" != .str "team.knowledge.recorded") error
  ["occurred_at", "actor", "machine_id", "integrity_sha256", "idempotency_key"].forM fun key =>
    refuse (!nonemptyText (fieldOf value key)) error
  refuse (!isDigest ((fieldOf value "integrity_sha256").strOr "")) error
  refuse (!isHash ((fieldOf value "idempotency_key").strOr "")) error
  let provenance ← listOr error (fieldOf value "provenance")
  refuse (!provenance.all Value.isStr) error
  let integrity ← dictOr error (fieldOf value "integrity")
  refuse (!hasKeys integrity ["algorithm", "canonical_payload_hash"]) error
  refuse (fieldOf integrity "algorithm" != .str "sha256" ||
    !isHash ((fieldOf integrity "canonical_payload_hash").strOr "")) error
  let payload ← dictOr error (fieldOf value "payload")
  validateTeamPayload payload
  refuse (fieldOf integrity "canonical_payload_hash" !=
    .str (canonicalPayloadHash T.toPlatform payload)) (teamError "TEAM_EVENT_INTEGRITY_INVALID")
  refuse (!(inspectEventPayload T.toPlatform (.dict payload)
    ((fieldOf payload "classification").strOr "")).isEmpty) (teamError "TEAM_EVENT_PRIVACY_INVALID")
  let event ← (Event.fromDict value).mapError fun _ => error
  refuse (eventIntegrity T.toPlatform event != event.integritySha256)
    (teamError "TEAM_EVENT_INTEGRITY_INVALID")
  let _ ← teamEventPartition T event
  pure event

/-- The event with its digest, after the checks. -/
def materializeTeamEvent (T : TeamPlatform) (event : Event) : Except Raised Event := do
  let error := teamError "TEAM_EVENT_SCHEMA_INVALID"
  refuse (event.schemaVersion != 2) error
  refuse (event.eventType != "team.knowledge.recorded") error
  let integrity := eventIntegrity T.toPlatform event
  refuse (event.integritySha256 != "" && event.integritySha256 != integrity)
    (teamError "TEAM_EVENT_INTEGRITY_INVALID")
  validateTeamEventMapping T { event with integritySha256 := integrity }.toDict

/-- Reads an event of the store, with the journal's reader first when there is no budget. -/
def existingEvent (T : TeamPlatform) (bounded : Bool) (disk : Disk) (path : List String) :
    Except Raised Event :=
  let own : Except Raised Event := match disk.files.lookup path with
    | some (.dict fields) => validateTeamEventMapping T fields
    | _ => .error (teamError "TEAM_EVENT_SCHEMA_INVALID")
  if bounded then own
  else
    match readEvent T.toPlatform false disk path with
    | .ok event => .ok event
    | .error _ => own.mapError fun _ => teamError "TEAM_EVENT_EXISTING_INVALID"

/-- The size of an event's file: its canonical JSON and a line feed. -/
def teamFileSize (content : Value) : Nat :=
  Value.utf8Length (canonicalJson content) + 1

inductive OutboxStatus where
  | pending
  | deferred
  | failed
  | delivered
deriving DecidableEq, Repr

/-- A receipt of the outbox: hashes and operational state, never the body. -/
structure OutboxReceipt where
  receiptId : String
  status : OutboxStatus
  storeIdHash : String
  memberIdHash : String
  writerIdHash : String
  personalEventHash : String
  idempotencyKey : String
  spoolRef : Option SpoolRef
  createdAt : Int
  attempts : Nat
  lastErrorCode : Option String
  deliveredAt : Option Int
  finalEventHash : Option String
  teamRootHash : Option String
deriving DecidableEq, Repr

/-- An encrypted body of the spool, as it decrypts. -/
structure SpoolBody where
  payload : Value
  contentHash : String
  classification : String
  createdAt : Stamp
  expiresAt : Stamp
  keyId : Option String
  purpose : SpoolPurpose := .legacy
deriving DecidableEq, Repr

/-- What the spool's catalogue remembers of a write that may not have reached its file. -/
structure SpoolReservation where
  retryTag : String
  createdAt : Stamp
  expiresAt : Stamp
deriving DecidableEq, Repr

/-- Why a body was removed: its event was delivered, or a read at some instant found it expired. -/
inductive Removal where
  | delivered
  | expired (expiresAt readAt : Int)
deriving DecidableEq, Repr

/-- What the outbox did for good, kept for the proofs. -/
inductive OutboxTrace where
  | receipt (receiptId : String) (status : OutboxStatus)
  | removed (spoolId : String) (cause : Removal)
deriving DecidableEq, Repr

/-- What the machines that share a team store see: the shared root, below which paths count, and
the outbox of this machine. What is up and what fails changes at any time. -/
structure TeamWorld where
  team : Disk := {}
  teamUp : Bool := true
  drawn : Nat := 0
  receipts : List (String × OutboxReceipt) := []
  runtimeUp : Bool := true
  bodies : List (String × SpoolBody) := []
  reservations : List (String × SpoolReservation) := []
  spoolFault : Option Raised := none
  clock : Int
  trace : List OutboxTrace := []
deriving DecidableEq, Repr

abbrev TeamCall : Type → Type :=
  Call TeamWorld Raised

namespace TeamWorld

def setTeam (w : TeamWorld) (path : List String) (content : Value) : TeamWorld :=
  { w with team := { w.team with files := Dict.set path content w.team.files } }

def dropTeam (w : TeamWorld) (path : List String) : TeamWorld :=
  { w with team := { w.team with files := w.team.files.filter (·.1 != path) } }

def makeTeamDirectory (w : TeamWorld) (path : List String) : TeamWorld :=
  if w.team.directories.contains path then w
  else { w with team := { w.team with directories := w.team.directories ++ [path] } }

end TeamWorld

variable (T : TeamPlatform)

def inspectStore (expected : Option String) : TeamCall String :=
  Call.look fun w => inspectTeamStore T.toPlatform w.team w.teamUp expected

/-- Makes the missing ones of some directories, each in its turn. -/
def ensureDirectories : List (List String) → TeamCall Unit
  | [] => pure ()
  | path :: paths => do
    Call.atomic fun w =>
      if !w.teamUp || (w.team.files.lookup path).isSome then
        (.error (teamError "TEAM_EVENT_PATH_INVALID"), w)
      else (.ok (), w.makeTeamDirectory path)
    ensureDirectories paths

/-- Whether a file already holds an event; another event there is a conflict. -/
def eventStands (bounded : Bool) (target : List String) (expected : String) : TeamCall Bool :=
  Call.look fun w =>
    if !w.teamUp || !((w.team.files.lookup target).isSome || w.team.isDirectory target) then
      .ok false
    else
      match existingEvent T bounded w.team target with
      | .error error => .error error
      | .ok existing =>
        if eventIntegrity T.toPlatform existing == expected then .ok true
        else .error (teamError "TEAM_EVENT_ID_CONFLICT")

def temporaryPrefix : String :=
  ".partial-"

/-- Writes the content under a name just drawn. -/
def writeTemporary (directory : List String) (content : Value) : TeamCall (List String) :=
  Call.atomic fun w =>
    let temporary := directory ++ [temporaryPrefix ++ T.uuid w.drawn]
    let drawn := { w with drawn := w.drawn + 1 }
    if !w.teamUp || (w.team.files.lookup temporary).isSome then (.error (osError ""), drawn)
    else (.ok temporary, drawn.setTeam temporary content)

def replaceTarget (temporary target : List String) : TeamCall Unit :=
  Call.atomic fun w =>
    match w.team.files.lookup temporary with
    | none => (.error (osError ""), w)
    | some content =>
      if !w.teamUp || w.team.isDirectory target then (.error (osError ""), w)
      else (.ok (), (w.dropTeam temporary).setTeam target content)

def verifyTarget (bounded : Bool) (target : List String) (expected : String) : TeamCall Unit :=
  Call.look fun w =>
    if !w.teamUp then
      .error (if bounded then osError "" else teamError "TEAM_EVENT_EXISTING_INVALID")
    else
      match existingEvent T bounded w.team target with
      | .error error => .error error
      | .ok verified =>
        refuse (eventIntegrity T.toPlatform verified != expected)
          (teamError "TEAM_EVENT_WRITE_VERIFY_FAILED")

def unlinkTemporary (temporary : List String) : TeamCall Unit :=
  Call.atomic fun w => (.ok (), if w.teamUp then w.dropTeam temporary else w)

/-- What the temporary file is written for: the event's name, unless it already has it. -/
def publishTarget (bounded : Bool) (temporary target : List String) (expected : String) :
    TeamCall Unit := do
  if ← eventStands T bounded target expected then pure ()
  else do
    replaceTarget temporary target
    verifyTarget T bounded target expected

def writeFailure (error : Raised) : Raised :=
  if error.isA ["OSError"] then teamError "TEAM_EVENT_WRITE_FAILED" else error

def teamEventDirectory (member writer : String) (partition : List String) : List String :=
  ["members", member, "writers", writer, "events"] ++ partition

/-- The checks before the store is changed: the event with its digest, and where it belongs. -/
def placeTeamEvent (member writer : String) (event : Event) :
    Except Raised (Event × List String) := do
  refuse (!isTeamMemberId member) (teamError "TEAM_MEMBER_ID_INVALID")
  refuse (!isTeamWriterId writer) (teamError "TEAM_WRITER_ID_INVALID")
  let materialized ← materializeTeamEvent T event
  refuse (maxTeamEventBytes < teamFileSize materialized.content)
    (teamError "TEAM_EVENT_OVERSIZED")
  let partition ← teamEventPartition T materialized
  pure (materialized, teamEventDirectory member writer partition)

def appendTeamEvent (bounded : Bool) (member writer : String) (event : Event) :
    TeamCall (List String) := do
  let _ ← inspectStore T none
  let (materialized, directory) ← Call.ofExcept (placeTeamEvent T member writer event)
  ensureDirectories (directory.inits.filter (· != []))
  let target := directory ++ [materialized.eventId ++ ".json"]
  let expected := eventIntegrity T.toPlatform materialized
  if ← eventStands T bounded target expected then pure target
  else do
    let temporary ← tryCatch (writeTemporary T directory materialized.content)
      fun error => throw (writeFailure error)
    tryCatch (publishTarget T bounded temporary target expected) fun error => do
      unlinkTemporary temporary
      throw (writeFailure error)
    unlinkTemporary temporary
    pure target

/-- Reads an event with the personal journal's reader. -/
def readTeamEvent (bounded : Bool) (target : List String) : TeamCall Event :=
  Call.look fun w =>
    if w.teamUp then readEvent T.toPlatform bounded w.team target else .error (unreadable target)

/-- What is below a directory, each entry of which must be a directory with a valid name. -/
def scanLevel (disk : Disk) (path : List String) (valid : String → Bool) (code : String)
    (below : List String → List (Except String (List String))) :
    List (Except String (List String)) :=
  (disk.children path).flatMap fun name =>
    if disk.isDirectory (path ++ [name]) && valid name then below (path ++ [name])
    else [.error code]

/-- What is below an inner directory that must be there. -/
def scanInner (disk : Disk) (path : List String)
    (below : List String → List (Except String (List String))) :
    List (Except String (List String)) :=
  if disk.isDirectory path then below path else [.error "TEAM_LAYOUT_INVALID"]

def isDigits (length : Nat) (name : String) : Bool :=
  (Text.chars name).length == length && (Text.chars name).all Text.isDigit

/-- The files in the places of events, and the codes of what is out of place. -/
def scanLayout (disk : Disk) : List (Except String (List String)) :=
  scanLevel disk ["members"] isTeamMemberId "TEAM_MEMBER_ID_INVALID" fun member =>
  scanInner disk (member ++ ["writers"]) fun writers =>
  scanLevel disk writers isTeamWriterId "TEAM_WRITER_ID_INVALID" fun writer =>
  scanInner disk (writer ++ ["events"]) fun events =>
  scanLevel disk events (isDigits 4) "TEAM_LAYOUT_INVALID" fun year =>
  scanLevel disk year (isDigits 2) "TEAM_LAYOUT_INVALID" fun month =>
  scanLevel disk month (isDigits 2) "TEAM_LAYOUT_INVALID" fun day =>
  (disk.children day).map fun name => .ok (day ++ [name])

/-- The code of a file that is no event by its name. -/
def eventFileIssue (name : String) : Option String :=
  let folded := T.casefold (Text.chars name)
  if (Text.chars ".partial").isPrefixOf (Text.chars name) then some "TEAM_PARTIAL_FILE"
  else if Text.contains (Text.chars "conflict") folded then some "TEAM_CONFLICT_COPY"
  else if !(Text.chars ".json").isSuffixOf folded || folded == Text.chars ".json" then
    some "TEAM_UNKNOWN_ENTRY"
  else none

/-- The event of a file, or the code of what is wrong with it. -/
def scanEventFile (bounded : Bool) (path : List String) : TeamCall (Except String Event) :=
  Call.look fun w =>
    let name := path.getLastD ""
    match eventFileIssue T name with
    | some code => .ok (.error code)
    | none =>
      if !w.teamUp then .ok (.error "TEAM_EVENT_INVALID")
      else if ((w.team.files.lookup path).map teamFileSize).any (maxTeamEventBytes < ·) then
        .ok (.error "TEAM_EVENT_OVERSIZED")
      else
        match existingEvent T bounded w.team path with
        | .error error =>
          if ["TEAM_EVENT_INTEGRITY_INVALID", "TEAM_EVENT_SCHEMA_INVALID"].contains error.text then
            .ok (.error error.text)
          else .ok (.error "TEAM_EVENT_INVALID")
        | .ok event =>
          if takeText ((Text.chars name).length - 5) name != event.eventId then
            .ok (.error "TEAM_EVENT_FILENAME_MISMATCH")
          else .ok (.ok event)

structure TeamScan where
  events : List Event := []
  issues : List String := []

def scanFiles (bounded : Bool) : List (Except String (List String)) → TeamScan → TeamCall TeamScan
  | [], scan => pure scan
  | .error code :: found, scan =>
    scanFiles bounded found { scan with issues := scan.issues ++ [code] }
  | .ok path :: found, scan => do
    match ← scanEventFile T bounded path with
    | .error code => scanFiles bounded found { scan with issues := scan.issues ++ [code] }
    | .ok event => scanFiles bounded found { scan with events := scan.events ++ [event] }

/-- The order of a scan: by time, then by identifier, then by digest. -/
def teamEventLe (a b : Event) : Bool :=
  decide (a.occurredAt < b.occurredAt) || (a.occurredAt == b.occurredAt &&
    (decide (a.eventId < b.eventId) || (a.eventId == b.eventId &&
      decide (eventIntegrity T.toPlatform a ≤ eventIntegrity T.toPlatform b))))

def scanTeamEvents (bounded : Bool) : TeamCall TeamScan := do
  let layout ← Call.look fun w =>
    .ok ((inspectTeamStore T.toPlatform w.team w.teamUp none).map fun _ => scanLayout w.team)
  match layout with
  | .error error => pure { issues := [error.text] }
  | .ok found => do
    let scan ← scanFiles T bounded found {}
    pure { scan with events := scan.events.insertionSort fun a b => teamEventLe T a b = true }

end ExternalIntelligence
