import ExternalIntelligence.CaptureLedger
import ExternalIntelligence.QueueMachine

namespace ExternalIntelligence
set_option autoImplicit true

inductive CloseoutStatus where
  | preparing
  | prepared
  | applied
  | committed
  | lost
deriving DecidableEq, Repr

namespace CloseoutStatus

def text : CloseoutStatus → String
  | preparing => "PREPARING"
  | prepared => "PREPARED"
  | applied => "APPLIED"
  | committed => "COMMITTED"
  | lost => "LOST"

def terminal : List CloseoutStatus :=
  [committed, lost]

end CloseoutStatus

inductive CloseoutDecision where
  | yes
  | no
deriving DecidableEq, Repr

def CloseoutDecision.text : CloseoutDecision → String
  | yes => "YES"
  | no => "NO"

inductive TeamStatus where
  | delivered
  | notEligible
  | deferred
  | pending
  | unknown
deriving DecidableEq, Repr

def TeamStatus.text : TeamStatus → String
  | delivered => "DELIVERED"
  | notEligible => "NOT_ELIGIBLE"
  | deferred => "DEFERRED"
  | pending => "PENDING"
  | unknown => "UNKNOWN"

inductive TeamReceiptStatus where
  | pending
  | deferred
  | delivered
  | failed
deriving DecidableEq, Repr

def TeamReceiptStatus.text : TeamReceiptStatus → String
  | pending => "PENDING"
  | deferred => "DEFERRED"
  | delivered => "DELIVERED"
  | failed => "FAILED"

/-- Where an event of an applied closeout is, and the digest it had when it was verified. -/
structure WitnessItem where
  eventId : String
  occurredAt : String
  integrityDigest : String
deriving DecidableEq, Repr

/-- What became of the team's copy; a summary is bound to its record by its integrity hash. -/
structure TeamSummary where
  status : TeamStatus
  reasonCode : String
  personalEventHash : Option String := none
  teamStoreHash : Option String := none
  teamRootHash : Option String := none
  deliveryEventId : Option String := none
  deliveryEventHash : Option String := none
  receiptIdHash : Option String := none
  receiptStatus : Option TeamReceiptStatus := none
  integrityHash : Option String := none
deriving DecidableEq, Repr

/-- The fields of a record that are fixed when it is reserved. -/
structure CloseoutIntent where
  recordId : String
  hostHash : String
  instanceHash : String
  storeHash : String
  sessionHash : String
  recordHash : String
  cwdHash : String
  domainHash : String
  targetIds : List String
  targetSetHash : String
  bindingDigest : String
  contentHash : String
deriving DecidableEq, Repr

/-- A closeout record of schema version 1; its times have the offset of UTC. The team's result may
be absent from an older record. -/
structure CloseoutRecord extends CloseoutIntent where
  status : CloseoutStatus
  createdAt : Stamp
  expiresAt : Stamp
  spoolId : String
  spoolRef : Option SpoolRef := none
  decision : Option CloseoutDecision := none
  candidateHash : Option String := none
  changesetIdHash : Option String := none
  changesetHash : Option String := none
  applicationRef : Option AppliedMarkerRef := none
  witness : List WitnessItem := []
  teamResult : Option (Option TeamSummary) := some none
  reasonCode : String
  resultDigest : Option String := none
deriving DecidableEq, Repr

def AppliedMarkerRef.toDict (ref : AppliedMarkerRef) : Fields :=
  [("marker_id", .str ref.markerId), ("occurred_at", .str ref.occurredAt),
    ("changeset_hash", .str ref.changesetHash)]

def WitnessItem.toDict (item : WitnessItem) : Fields :=
  [("event_id", .str item.eventId), ("occurred_at", .str item.occurredAt),
    ("integrity_digest", .str item.integrityDigest)]

def TeamSummary.toDict (summary : TeamSummary) : Fields :=
  [("status", .str summary.status.text), ("reason_code", .str summary.reasonCode),
    ("personal_event_hash", optionalText summary.personalEventHash),
    ("team_store_hash", optionalText summary.teamStoreHash),
    ("team_root_hash", optionalText summary.teamRootHash),
    ("delivery_event_id", optionalText summary.deliveryEventId),
    ("delivery_event_hash", optionalText summary.deliveryEventHash),
    ("receipt_id_hash", optionalText summary.receiptIdHash),
    ("receipt_status", optionalText (summary.receiptStatus.map TeamReceiptStatus.text))] ++
  match summary.integrityHash with
  | none => []
  | some hash => [("integrity_hash", .str hash)]

def optionalDict : Option Fields → Value
  | none => .none
  | some fields => .dict fields

def CloseoutRecord.toDict (record : CloseoutRecord) : Fields :=
  [("schema_version", .int 1), ("record_id", .str record.recordId),
    ("status", .str record.status.text), ("host_hash", .str record.hostHash),
    ("instance_hash", .str record.instanceHash), ("store_hash", .str record.storeHash),
    ("session_hash", .str record.sessionHash), ("record_hash", .str record.recordHash),
    ("cwd_hash", .str record.cwdHash), ("domain_hash", .str record.domainHash),
    ("target_ids", .list (record.targetIds.map .str)),
    ("target_set_hash", .str record.targetSetHash),
    ("binding_digest", .str record.bindingDigest), ("content_hash", .str record.contentHash),
    ("created_at", .str record.createdAt.text), ("expires_at", .str record.expiresAt.text),
    ("spool_id", .str record.spoolId),
    ("spool_ref", (record.spoolRef.map SpoolRef.toDict).getD .none),
    ("decision", optionalText (record.decision.map CloseoutDecision.text)),
    ("candidate_hash", optionalText record.candidateHash),
    ("changeset_id_hash", optionalText record.changesetIdHash),
    ("changeset_hash", optionalText record.changesetHash),
    ("application_ref", optionalDict (record.applicationRef.map AppliedMarkerRef.toDict)),
    ("witness", .list (record.witness.map fun item => .dict item.toDict)),
    ("reason_code", .str record.reasonCode),
    ("result_digest", optionalText record.resultDigest)] ++
  match record.teamResult with
  | none => []
  | some summary => [("team_result", optionalDict (summary.map TeamSummary.toDict))]

/-- The size in bytes of a record's file: compact JSON and a line break. -/
def CloseoutRecord.encodedLength (record : CloseoutRecord) : Nat :=
  Value.utf8Length (canonicalJson (.dict record.toDict) ++ ['\n'])

def maxRecordBytes : Nat := 16 * 1024
def maxActive : Nat := 64
def maxActiveBytes : Nat := 1024 * 1024

/-- Checks fields, each a hash, in order. -/
def requireHashes (name : String) (fields : List (String × String)) : Except Raised Unit :=
  fields.forM fun p => refuse (!isHash p.2) (schemaError name p.1)

def requireOptionalHashes (name : String) (fields : List (String × Option String)) :
    Except Raised Unit :=
  fields.forM fun p => refuse (!p.2.all isHash) (schemaError name p.1)

def checkSpoolRef (name : String) (ref : SpoolRef) : Except Raised Unit := do
  refuse (ref.spoolId == "") (schemaError name "spool_id")
  refuse (!isHash ref.contentHash) (schemaError name "content_hash")
  refuse (ref.classification == "") (schemaError name "classification")
  refuse (ref.keyId == some "") (schemaError name "key_id")

/-- Checks one event of a witness after those whose ids are given. -/
def checkWitness (P : Platform) (seen : List String) (item : WitnessItem) :
    Except Raised (List String) := do
  let name := "closeout-association"
  refuse (!isApplicationMarkerId item.eventId || seen.contains item.eventId)
    (schemaError name "witness.event_id")
  refuse (!awareTimestamp P item.occurredAt) (schemaError name "witness.occurred_at")
  refuse (!isDigest item.integrityDigest) (schemaError name "witness.integrity_digest")
  pure (item.eventId :: seen)

def checkTeamSummary (summary : TeamSummary) : Except Raised Unit := do
  let name := "closeout-association"
  refuse (!isReasonCode summary.reasonCode) (schemaError name "team_result.reason_code")
  requireOptionalHashes name
    [("team_result.personal_event_hash", summary.personalEventHash),
      ("team_result.team_store_hash", summary.teamStoreHash),
      ("team_result.team_root_hash", summary.teamRootHash),
      ("team_result.delivery_event_hash", summary.deliveryEventHash),
      ("team_result.receipt_id_hash", summary.receiptIdHash),
      ("team_result.integrity_hash", summary.integrityHash)]
  refuse (!summary.deliveryEventId.all isEventId) (schemaError name "team_result.delivery_event_id")

/-- What the fields of a record must be at each status. -/
def checkStatus (record : CloseoutRecord) : Except Raised Unit := do
  let name := "closeout-association"
  let noChangeset := record.applicationRef.isNone && record.changesetIdHash.isNone &&
    record.changesetHash.isNone
  refuse (record.status == .preparing && (record.decision.isSome || record.spoolRef.isSome ||
    record.candidateHash.isSome || !noChangeset || !record.witness.isEmpty ||
    record.resultDigest.isSome)) (schemaError name "status")
  refuse (record.status == .prepared && (record.decision.isNone || record.spoolRef.isNone ||
    record.candidateHash.isNone || !record.witness.isEmpty)) (schemaError name "status")
  refuse (record.status == .prepared &&
    (record.applicationRef.isNone != record.changesetHash.isNone ||
      record.applicationRef.isNone != record.changesetIdHash.isNone))
    (schemaError name "application_ref")
  refuse (record.status == .prepared && record.decision == some .no && !noChangeset)
    (schemaError name "decision")
  refuse (record.status == .prepared &&
    (record.decision == some .yes && record.resultDigest.isSome ||
      record.decision == some .no && record.resultDigest.isNone))
    (schemaError name "result_digest")
  refuse (record.status == .applied && (record.decision != some .yes || record.spoolRef.isNone ||
    record.candidateHash.isNone || record.changesetIdHash.isNone ||
    record.applicationRef.isNone || decide (record.witness.length < 2) ||
    record.resultDigest.isNone)) (schemaError name "status")
  refuse (record.status == .committed && (record.decision.isNone || record.resultDigest.isNone))
    (schemaError name "status")
  refuse (record.status == .committed && record.decision == some .yes &&
    (record.applicationRef.isNone || record.changesetIdHash.isNone ||
      record.changesetHash.isNone || decide (record.witness.length < 2)))
    (schemaError name "status")
  refuse (record.status == .committed && record.decision == some .no &&
    (!noChangeset || !record.witness.isEmpty)) (schemaError name "status")
  refuse (record.decision == some .no && (!noChangeset || !record.witness.isEmpty))
    (schemaError name "decision")

/-- The checks of the closeout-association schema. A record's keys and the kinds of its values are
fixed and none of its keys is forbidden, so those checks cannot fail. -/
def validateCloseoutAssociation (P : Platform) (record : CloseoutRecord) : Except Raised Unit := do
  let name := "closeout-association"
  refuse (!isCloseoutId record.recordId) (schemaError name "record_id")
  requireHashes name
    [("host_hash", record.hostHash), ("instance_hash", record.instanceHash),
      ("store_hash", record.storeHash), ("session_hash", record.sessionHash),
      ("record_hash", record.recordHash), ("cwd_hash", record.cwdHash),
      ("domain_hash", record.domainHash), ("target_set_hash", record.targetSetHash),
      ("binding_digest", record.bindingDigest), ("content_hash", record.contentHash)]
  refuse (!record.targetIds.all isHash) (schemaError name "target_ids")
  refuse (decide ¬record.targetIds.Nodup) (schemaError name "target_ids")
  refuse (record.targetIds.isEmpty || decide (64 < record.targetIds.length) ||
    record.targetIds != sortedText record.targetIds) (schemaError name "target_ids")
  refuse (!isPrefixedHex "spool_" 32 record.spoolId) (schemaError name "spool_id")
  record.spoolRef.forM (checkSpoolRef (name ++ ".spool_ref"))
  refuse (!record.spoolRef.all fun ref =>
    ref.purpose == .validatedResult && ref.spoolId == record.spoolId) (schemaError name "spool_ref")
  requireOptionalHashes name
    [("candidate_hash", record.candidateHash), ("changeset_id_hash", record.changesetIdHash),
      ("changeset_hash", record.changesetHash), ("result_digest", record.resultDigest)]
  record.applicationRef.forM fun ref => do
    refuse (!isApplicationMarkerId ref.markerId) (schemaError name "application_ref.marker_id")
    refuse (!awareTimestamp P ref.occurredAt) (schemaError name "application_ref.occurred_at")
    refuse (!isHash ref.changesetHash) (schemaError name "application_ref.changeset_hash")
    refuse (record.changesetHash != some ref.changesetHash)
      (schemaError name "application_ref.changeset_hash")
  refuse (decide (65 < record.witness.length)) (schemaError name "witness")
  let _ ← record.witness.foldlM (checkWitness P) []
  refuse (!isReasonCode record.reasonCode) (schemaError name "reason_code")
  record.teamResult.join.forM checkTeamSummary
  checkStatus record

/-- The files of the store. The files of the index and the cursor never reach their bounds: an
index of 64 ids is far smaller. -/
structure CloseoutStore where
  present : Bool := false
  index : Option (List String) := none
  cursor : Option (Option String) := none
  records : List (String × CloseoutRecord) := []
deriving DecidableEq, Repr

def closeoutStoreError (reasonCode : String) : Raised :=
  ⟨"CloseoutStoreError", reasonCode⟩

def indexUnknown : Raised :=
  closeoutStoreError "CLOSEOUT_INDEX_UNKNOWN"

/-- A new file in place of an old one; the first makes the directory. -/
inductive StoreWrite where
  | directory
  | index (active : List String)
  | cursor (lastRecordId : Option String)
  | record (value : CloseoutRecord)
deriving DecidableEq, Repr

namespace CloseoutStore

def write (s : CloseoutStore) : StoreWrite → CloseoutStore
  | .directory => { s with present := true }
  | .index active => { s with index := some active }
  | .cursor lastRecordId => { s with cursor := some lastRecordId }
  | .record value => { s with records := Dict.set value.recordId value s.records }

def writeAll (s : CloseoutStore) (writes : List StoreWrite) : CloseoutStore :=
  writes.foldl write s

def validateIndex (active : List String) : Except Raised Unit := do
  refuse (decide (maxActive < active.length)) indexUnknown
  refuse (!active.all isCloseoutId) indexUnknown
  refuse (active != sortedSet active) indexUnknown

def validateCursor (lastRecordId : Option String) : Except Raised Unit :=
  refuse (!lastRecordId.all isCloseoutId) indexUnknown

def readRecordPath (P : Platform) (s : CloseoutStore) (recordId : String) :
    Except Raised (Option CloseoutRecord) := do
  refuse (!isCloseoutId recordId) (closeoutStoreError "CLOSEOUT_RECORD_INVALID")
  match s.records.lookup recordId with
  | none => pure none
  | some value =>
    refuse (decide (maxRecordBytes < value.encodedLength)) indexUnknown
    refuse (!(validateCloseoutAssociation P value).isOk) indexUnknown
    refuse (value.recordId != recordId) indexUnknown
    pure (some value)

/-- What the inventory finds; no root when the directory does not exist. -/
structure Inventory where
  root : Bool := false
  active : List String := []
  lastRecordId : Option String := none
  records : List (String × CloseoutRecord) := []
deriving DecidableEq, Repr

def encodedTotal (records : List (String × CloseoutRecord)) : Nat :=
  (records.map fun p => p.2.encodedLength).sum

def takeActive (P : Platform) (s : CloseoutStore) (records : List (String × CloseoutRecord))
    (recordId : String) : Except Raised (List (String × CloseoutRecord)) := do
  match ← s.readRecordPath P recordId with
  | none => .error indexUnknown
  | some record =>
    let found := records ++ [(recordId, record)]
    refuse (decide (maxActiveBytes < encodedTotal found)) indexUnknown
    pure found

/-- The inventory of a store that is not created on the way. -/
def inventory (P : Platform) (s : CloseoutStore) : Except Raised Inventory :=
  if !s.present then .ok {}
  else
    match s.index, s.cursor with
    | some active, some lastRecordId => do
      validateIndex active
      validateCursor lastRecordId
      match lastRecordId with
      | none => pure ()
      | some last =>
        match ← s.readRecordPath P last with
        | none => .error indexUnknown
        | some record =>
          refuse (!active.contains last && !CloseoutStatus.terminal.contains record.status)
            indexUnknown
      let records ← active.foldlM (takeActive P s) []
      pure { root := true, active, lastRecordId, records }
    | _, _ => .error indexUnknown

/-- The bytes of the active records when one of them is replaced. -/
def replacedTotal (records : List (String × CloseoutRecord)) (value : CloseoutRecord) : Nat :=
  encodedTotal (records.filter fun p => p.1 != value.recordId) + value.encodedLength

/-- The files that make a store. -/
def creation : List StoreWrite :=
  [.directory, .index [], .cursor none]

def reservePlan (P : Platform) (s : CloseoutStore) (value : CloseoutRecord) :
    Except Raised (List StoreWrite) := do
  let invalid := closeoutStoreError "CLOSEOUT_RECORD_INVALID"
  refuse (!(validateCloseoutAssociation P value).isOk) invalid
  refuse (value.status != .preparing || value.spoolRef.isSome) invalid
  refuse (decide (maxRecordBytes < value.encodedLength)) (closeoutStoreError "CLOSEOUT_CAPACITY")
  let made := if s.present then [] else creation
  let found ← (s.writeAll made).inventory P
  let old ← (s.writeAll made).readRecordPath P value.recordId
  refuse (found.active.contains value.recordId || old.isSome)
    (closeoutStoreError "CLOSEOUT_RECORD_EXISTS")
  refuse (decide (maxActive ≤ found.active.length) ||
    decide (maxActiveBytes < encodedTotal found.records + value.encodedLength))
    (closeoutStoreError "CLOSEOUT_CAPACITY")
  -- Index first: a crash can only leave a listed-missing record.
  pure (made ++ [.index (sortedText (found.active ++ [value.recordId])), .record value])

def writeRecordPlan (P : Platform) (s : CloseoutStore) (value : CloseoutRecord) :
    Except Raised (List StoreWrite) := do
  refuse (!(validateCloseoutAssociation P value).isOk)
    (closeoutStoreError "CLOSEOUT_RECORD_INVALID")
  refuse (decide (maxRecordBytes < value.encodedLength)) (closeoutStoreError "CLOSEOUT_CAPACITY")
  let found ← s.inventory P
  refuse (!found.root) (closeoutStoreError "CLOSEOUT_RECORD_UNKNOWN")
  let listed := found.active.contains value.recordId
  let old ← s.readRecordPath P value.recordId
  refuse (!listed && old.isNone) (closeoutStoreError "CLOSEOUT_RECORD_UNKNOWN")
  refuse (listed && decide (maxActiveBytes < replacedTotal found.records value))
    (closeoutStoreError "CLOSEOUT_CAPACITY")
  pure [.record value]

def advanceCursorPlan (P : Platform) (s : CloseoutStore) (recordId : String) :
    Except Raised (List StoreWrite) := do
  refuse (!isCloseoutId recordId) (closeoutStoreError "CLOSEOUT_RECORD_INVALID")
  let found ← s.inventory P
  refuse (!found.root) indexUnknown
  pure [.cursor (some recordId)]

def finishPlan (P : Platform) (s : CloseoutStore) (value : CloseoutRecord) :
    Except Raised (List StoreWrite) := do
  let invalid := closeoutStoreError "CLOSEOUT_RECORD_INVALID"
  refuse (!CloseoutStatus.terminal.contains value.status) invalid
  refuse (!(validateCloseoutAssociation P value).isOk) invalid
  refuse (decide (maxRecordBytes < value.encodedLength)) (closeoutStoreError "CLOSEOUT_CAPACITY")
  let found ← s.inventory P
  refuse (!found.root) indexUnknown
  let old ← s.readRecordPath P value.recordId
  refuse (((found.records.lookup value.recordId).or old).isNone)
    (closeoutStoreError "CLOSEOUT_RECORD_UNKNOWN")
  let listed := found.active.contains value.recordId
  refuse (listed && decide (maxActiveBytes < replacedTotal found.records value))
    (closeoutStoreError "CLOSEOUT_CAPACITY")
  pure ([.record value] ++
    (if listed then [.index (found.active.filter (· != value.recordId))] else []) ++
    [.cursor (some value.recordId)])

/-- Carries out the writes of a plan, and then checks what is in the files. -/
def carryOut (s : CloseoutStore) (plan : Except Raised (List StoreWrite))
    (check : CloseoutStore → Except Raised Unit) : CloseoutStore × Except Raised Unit :=
  match plan with
  | .error e => (s, .error e)
  | .ok writes => (s.writeAll writes, check (s.writeAll writes))

def reserve (P : Platform) (s : CloseoutStore) (value : CloseoutRecord) :
    CloseoutStore × Except Raised Unit :=
  s.carryOut (s.reservePlan P value) fun t => (t.inventory P).map fun _ => ()

def writeRecord (P : Platform) (s : CloseoutStore) (value : CloseoutRecord) :
    CloseoutStore × Except Raised Unit :=
  s.carryOut (s.writeRecordPlan P value) fun t =>
    (t.readRecordPath P value.recordId).map fun _ => ()

/-- The cursor as it is read back. -/
def readCursor (s : CloseoutStore) : Except Raised (Option String) :=
  match s.cursor with
  | none => .error indexUnknown
  | some lastRecordId => (validateCursor lastRecordId).map fun _ => lastRecordId

def advanceCursor (P : Platform) (s : CloseoutStore) (recordId : String) :
    CloseoutStore × Except Raised Unit :=
  s.carryOut (s.advanceCursorPlan P recordId) fun t => t.readCursor.map fun _ => ()

def finish (P : Platform) (s : CloseoutStore) (value : CloseoutRecord) :
    CloseoutStore × Except Raised Unit :=
  s.carryOut (s.finishPlan P value) fun t => do
    let stored ← t.readRecordPath P value.recordId
    let last ← t.readCursor
    refuse (stored != some value || last != some value.recordId) indexUnknown

def readRecord (P : Platform) (s : CloseoutStore) (recordId : String) :
    Except Raised (Option CloseoutRecord) := do
  let found ← s.inventory P
  if !found.root then pure none
  else
    let value ← s.readRecordPath P recordId
    refuse (value.any fun record => !found.active.contains recordId &&
      !CloseoutStatus.terminal.contains record.status) indexUnknown
    pure value

/-- Python's bisect_right on a sorted list. -/
def bisectRight (active : List String) (last : String) : Nat :=
  (active.takeWhile (· ≤ last)).length

/-- The active ids in the order of recovery: after the cursor first. -/
def recoveryOrder (active : List String) (lastRecordId : Option String) : List String :=
  let start := lastRecordId.elim 0 (bisectRight active)
  let start := if start = active.length then 0 else start
  active.drop start ++ active.take start

def activeRecords (P : Platform) (s : CloseoutStore) (maxRecords : Nat) :
    Except Raised (List CloseoutRecord) := do
  refuse (maxRecords == 0 || decide (maxActive < maxRecords))
    (closeoutStoreError "CLOSEOUT_RECOVERY_LIMIT")
  let found ← s.inventory P
  pure (((recoveryOrder found.active found.lastRecordId).take maxRecords).filterMap fun recordId =>
    found.records.lookup recordId)

end CloseoutStore

end ExternalIntelligence
