import ExternalIntelligence.TeamRouting

namespace ExternalIntelligence
set_option autoImplicit true

def spoolError (code : String) : Raised :=
  ⟨"SpoolError", code⟩

def maxSpoolPayloadBytes : Nat :=
  2 * 1024 * 1024

namespace TeamWorld

def putBody (w : TeamWorld) (spoolId : String) (body : SpoolBody) : TeamWorld :=
  { w with bodies := Dict.set spoolId body w.bodies }

def reserve (w : TeamWorld) (spoolId : String) (reservation : SpoolReservation) : TeamWorld :=
  { w with reservations := Dict.set spoolId reservation w.reservations }

def settle (w : TeamWorld) (spoolId : String) : TeamWorld :=
  { w with reservations := w.reservations.filter (·.1 != spoolId) }

def removeBody (w : TeamWorld) (spoolId : String) (cause : Removal) : TeamWorld :=
  { w with
    bodies := w.bodies.filter (·.1 != spoolId)
    reservations := w.reservations.filter (·.1 != spoolId)
    trace := w.trace ++ [.removed spoolId cause] }

def putReceipt (w : TeamWorld) (receipt : OutboxReceipt) : TeamWorld :=
  { w with
    receipts := Dict.set receipt.receiptId receipt w.receipts
    trace := w.trace ++ [.receipt receipt.receiptId receipt.status] }

/-- The given time, or the clock's. -/
def now (w : TeamWorld) (given : Option Int) : Int :=
  given.getD w.clock

end TeamWorld

/-- What a write to the spool stores, apart from its times. -/
structure SpoolContent where
  spoolId : String
  payload : Value
  contentHash : String
  classification : String
deriving DecidableEq, Repr

def SpoolContent.ref (content : SpoolContent) (createdAt expiresAt : Stamp)
    (keyId : Option String) : SpoolRef :=
  ⟨content.spoolId, content.contentHash, content.classification, createdAt, expiresAt, keyId,
    .legacy⟩

def SpoolContent.body (content : SpoolContent) (createdAt expiresAt : Stamp)
    (keyId : Option String) : SpoolBody :=
  ⟨content.payload, content.contentHash, content.classification, createdAt, expiresAt, keyId,
    .legacy⟩

variable (T : TeamPlatform)

/-- The tag by which a later call recognizes its own reservation. -/
def spoolRetryTag (content : SpoolContent) (createdAt expiresAt : Stamp) : String :=
  fingerprint T.toPlatform (.list [.str "ei.spool.reservation.v1", .str content.spoolId,
    .str content.contentHash, .str content.classification, .str "legacy", .none,
    .str createdAt.text, .str expiresAt.text])

def stampOf (instant : Int) : Stamp :=
  ⟨T.isoformat instant, instant⟩

/-- The checks of a payload before the spool is locked. -/
def spoolContent (payload : Value) (classification spoolId : String) :
    Except Raised SpoolContent := do
  let text := canonicalJson payload
  refuse (maxSpoolPayloadBytes < Value.utf8Length text) (spoolError "SPOOL_CONTENT_SIZE_INVALID")
  refuse (!(["public", "private-reusable", "client-confidential"].contains classification))
    (spoolError "SPOOL_CLASSIFICATION_REJECTED")
  let decision := inspectText T.toPlatform text classification (Text.chars "spool-payload")
  refuse (!(["CLASSIFIED", "CLIENT_CONFIDENTIAL_LOCAL_ONLY"].contains decision.reasonCode))
    (spoolError "SPOOL_PRIVACY_REJECTED")
  pure ⟨spoolId, payload.canonical, "sha256:" ++ T.sha256 text, classification⟩

def ttlMicroseconds (settings : TeamSettings) : Int :=
  1000000 * settings.spoolTtlSeconds

/-- What a write finds under its lock: the body it would write is there, or the times to write it
with. -/
def enterSpool (settings : TeamSettings) (content : SpoolContent) (given : Option Int) :
    TeamCall (SpoolRef ⊕ Stamp × Stamp) :=
  Call.atomic fun w =>
    let moment := w.now given
    let ttl := ttlMicroseconds settings
    match w.spoolFault with
    | some fault => (.error fault, w)
    | none =>
      match w.bodies.lookup content.spoolId with
      | some body =>
        if body.contentHash == content.contentHash && body.classification == content.classification
            && body.purpose == .legacy && body.expiresAt.instant - body.createdAt.instant == ttl then
          if body.expiresAt.instant ≤ moment then (.error (spoolError "SPOOL_EXISTING_INVALID"), w)
          else (.ok (.inl (content.ref body.createdAt body.expiresAt body.keyId)),
            w.settle content.spoolId)
        else (.error (spoolError "SPOOL_ID_COLLISION"), w)
      | none =>
        let reservation := w.reservations.lookup content.spoolId
        let createdAt := (reservation.map (·.createdAt)).getD (stampOf T moment)
        let expiresAt := (reservation.map (·.expiresAt)).getD (stampOf T (moment + ttl))
        let tag := spoolRetryTag T content createdAt expiresAt
        if reservation.any fun r =>
            r.expiresAt.instant - r.createdAt.instant != ttl || r.retryTag != tag then
          (.error (spoolError "SPOOL_ID_COLLISION"), w)
        else if expiresAt.instant ≤ moment then (.error (spoolError "SPOOL_EXPIRED"), w)
        else (.ok (.inr (createdAt, expiresAt)),
          w.reserve content.spoolId ⟨tag, createdAt, expiresAt⟩)

/-- Writes a body under a fixed identifier. The steps after the lock are apart here, so a call may
be killed between them; that other calls may come between only adds runs. -/
def writeSpool (settings : TeamSettings) (payload : Value) (classification spoolId : String)
    (given : Option Int) : TeamCall SpoolRef := do
  let content ← Call.ofExcept (spoolContent T payload classification spoolId)
  match ← enterSpool T settings content given with
  | .inl ref => pure ref
  | .inr (createdAt, expiresAt) => do
    Call.atomic fun w =>
      match w.spoolFault with
      | some fault => (.error fault, w)
      | none => (.ok (), w.putBody spoolId (content.body createdAt expiresAt T.keyId))
    Call.atomic fun w =>
      match w.spoolFault with
      | some fault => (.error fault, w)
      | none => (.ok (), w.settle spoolId)
    pure (content.ref createdAt expiresAt T.keyId)

/-- What a fault of the spool is raised as. -/
def spoolFailure (fallback : String) (fault : Raised) : Raised :=
  if fault.isA ["TimeoutError"] then fault
  else spoolError (if fault.isA ["OSError"] then fallback else orElse fault.text fallback)

def deleteSpool (spoolId : String) (cause : Removal) : TeamCall Bool :=
  Call.atomic fun w =>
    match w.spoolFault with
    | some fault => (.error (spoolFailure "SPOOL_DELETE_FAILED" fault), w)
    | none =>
      if (w.bodies.lookup spoolId).isSome then (.ok true, w.removeBody spoolId cause)
      else (.ok false, w)

/-- What a read finds: a payload, or that the body has expired. -/
def openSpool (spoolId : String) (reference : Option SpoolRef) (given : Option Int) :
    TeamCall (Value ⊕ SpoolBody × Int) :=
  Call.look fun w =>
    match w.bodies.lookup spoolId with
    | none => .error (spoolError "SPOOL_NOT_FOUND")
    | some body =>
      match w.spoolFault with
      | some fault => .error (spoolFailure "SPOOL_READ_FAILED" fault)
      | none =>
        if body.expiresAt.instant ≤ w.now given then .ok (.inr (body, w.now given))
        else if reference.any fun ref => body.purpose != ref.purpose ||
            body.contentHash != ref.contentHash || body.classification != ref.classification ||
            body.expiresAt.text != ref.expiresAt.text then
          .error (spoolError "SPOOL_REF_MISMATCH")
        else .ok (.inl body.payload)

/-- Reads a body; one without a longer purpose is deleted when it has expired. -/
def readSpool (spoolId : String) (reference : Option SpoolRef) (given : Option Int) :
    TeamCall Value := do
  match ← openSpool spoolId reference given with
  | .inl payload => pure payload
  | .inr (body, moment) => do
    if body.purpose == .legacy && reference.all (·.purpose == .legacy) then
      let _ ← deleteSpool spoolId (.expired body.expiresAt.instant moment)
      throw (spoolError "SPOOL_EXPIRED")
    else throw (spoolError "SPOOL_EXPIRED")

/-- Reads the receipts of some files, each in its turn. -/
def readReceipts : List String → TeamCall (List OutboxReceipt)
  | [] => pure []
  | receiptId :: ids => do
    let found ← Call.look fun w =>
      if w.runtimeUp then .ok (w.receipts.lookup receiptId) else .error (osError "")
    let rest ← readReceipts ids
    pure (found.toList ++ rest)

def outboxRecords : TeamCall (List OutboxReceipt) := do
  let ids ← Call.look fun w =>
    if w.runtimeUp then .ok (sortedText (Dict.keys w.receipts)) else .error (osError "")
  readReceipts ids

def readTeamOutboxReceipt (receiptId : String) : TeamCall (Option OutboxReceipt) :=
  Call.look fun w =>
    if w.runtimeUp then .ok (w.receipts.lookup receiptId) else .error (osError "")

/-- Writes the whole receipt. -/
def updateReceipt (receipt : OutboxReceipt) : TeamCall Unit :=
  Call.atomic fun w =>
    if w.runtimeUp then (.ok (), w.putReceipt receipt) else (.error (osError ""), w)

def outboxHash (value domain : String) : Except Raised String :=
  domainHash T.toPlatform value domain

def outboxReceiptId (personalEventHash storeId idempotencyKey : String) : String :=
  "teamoutbox_" ++ takeText 32 (T.sha256 (Text.chars (storeId ++ personalEventHash ++
    idempotencyKey)))

def outboxSpoolId (receiptId : String) : String :=
  "spool_team_" ++ String.ofList ((Text.chars receiptId).drop 11)

/-- The classification of the event in a payload. -/
def outboxClassification (payload : List (String × Value)) : String :=
  let event := match fieldOf payload "event" with
    | .dict event => if event.isEmpty then payload else event
    | _ => payload
  match fieldOf event "payload" with
  | .dict body => (getOr body "classification" (.str "private-reusable")).strOr ""
  | _ => "private-reusable"

def outboxIdempotencyKey (payload : List (String × Value)) (personalEventHash storeId : String) :
    Except Raised String :=
  match fieldOf payload "idempotency_key" with
  | .str key =>
    if (Text.chars "sha256:").isPrefixOf (Text.chars key) then .ok key
    else teamIdempotencyKey T.toPlatform personalEventHash storeId
  | _ => teamIdempotencyKey T.toPlatform personalEventHash storeId

/-- The checks before the outbox is looked at: the classification and the key. -/
def admitOutbox (payload : List (String × Value)) (personalEventHash storeId : String) :
    Except Raised (String × String) := do
  refuse (!(Text.chars "sha256:").isPrefixOf (Text.chars personalEventHash))
    (teamError "TEAM_OUTBOX_PERSONAL_HASH_INVALID")
  let classification := outboxClassification payload
  refuse (!(["public", "private-reusable"].contains classification))
    (teamError "TEAM_OUTBOX_CLASSIFICATION_REJECTED")
  match inspectPersistable T.toPlatform (.dict payload) classification none (512 * 1024) with
    | issue :: _ => .error (teamError issue.reasonCode)
    | [] => pure ()
  let key ← outboxIdempotencyKey T payload personalEventHash storeId
  pure (classification, key)

/-- The receipt of an event just spooled. -/
def newOutboxReceipt (payload : List (String × Value))
    (personalEventHash storeId memberId writerId key : String) (ref : SpoolRef) (createdAt : Int) :
    Except Raised OutboxReceipt := do
  let storeIdHash ← outboxHash T storeId "team-store-id"
  let memberIdHash ← outboxHash T memberId "team-member-id"
  let writerIdHash ← outboxHash T writerId "team-writer-id"
  let rootHash := (fieldOf payload "team_root_hash").strOr ""
  pure
    { receiptId := outboxReceiptId T personalEventHash storeId key
      status := .pending
      storeIdHash, memberIdHash, writerIdHash, personalEventHash
      idempotencyKey := key
      spoolRef := some ref
      createdAt
      attempts := 0
      lastErrorCode := none
      deliveredAt := none
      finalEventHash := none
      teamRootHash := if isHash rootHash then some rootHash else none }

def enqueueTeamEvent (settings : TeamSettings) (payload : List (String × Value))
    (personalEventHash storeId memberId writerId : String) (given : Option Int) :
    TeamCall OutboxReceipt := do
  let (classification, key) ← Call.ofExcept (admitOutbox T payload personalEventHash storeId)
  let receiptId := outboxReceiptId T personalEventHash storeId key
  let records ← outboxRecords
  match records.find? (·.receiptId == receiptId) with
  | some existing => pure existing
  | none => do
    let ref ← writeSpool T settings (.dict payload) classification (outboxSpoolId receiptId) given
    let createdAt ← Call.look fun w => .ok (w.now given)
    let receipt ← Call.ofExcept
      (newOutboxReceipt T payload personalEventHash storeId memberId writerId key ref createdAt)
    updateReceipt receipt
    pure receipt

/-- Why a receipt no longer names this store. -/
def bindingError (record : OutboxReceipt) (rootHash : String) : TeamCall (Option String) :=
  if record.teamRootHash.any (· != rootHash) then pure (some "TEAM_TARGET_BINDING_CHANGED")
  else
    Call.look fun w =>
      match inspectTeamStore T.toPlatform w.team w.teamUp none with
      | .error _ => .ok (some "TEAM_TARGET_BINDING_CHANGED")
      | .ok storeId =>
        match outboxHash T storeId "team-store-id" with
        | .error error => .error error
        | .ok hash =>
          if record.storeIdHash == hash then .ok none else .ok (some "TEAM_TARGET_BINDING_CHANGED")

/-- The body a receipt refers to. -/
def readReceiptBody (record : OutboxReceipt) (given : Option Int) : TeamCall Value :=
  match record.spoolRef with
  | some ref => readSpool ref.spoolId (some ref) given
  | none => readSpool record.receiptId none given

/-- Whether the identities of a body are those whose hashes a receipt has. -/
def identitiesMatch (record : OutboxReceipt) (member writer : String) : Except Raised Bool := do
  let memberIdHash ← outboxHash T member "team-member-id"
  let writerIdHash ← outboxHash T writer "team-writer-id"
  pure (record.memberIdHash == memberIdHash && record.writerIdHash == writerIdHash)

def spooledIdentityMatches (record : OutboxReceipt) (given : Option Int) : TeamCall Bool :=
  if record.spoolRef.isNone then pure true
  else do
    match ← readReceiptBody record given with
    | .dict value =>
      match fieldOf value "member_id", fieldOf value "writer_id" with
      | .str member, .str writer => Call.ofExcept (identitiesMatch T record member writer)
      | _, _ => pure false
    | _ => pure false

/-- The last of some events with a key, all of which must be the same event. -/
def recordedWith (key : String) : List Event → Option Event → Except Raised (Option Event)
  | [], found => .ok found
  | event :: events, found =>
    if fieldOf event.payload "idempotency_key" == .str key then
      if found.any fun e => eventIntegrity T.toPlatform e != eventIntegrity T.toPlatform event then
        .error (osError "TEAM_IDEMPOTENCY_CONFLICT")
      else recordedWith key events (some event)
    else recordedWith key events found

def alreadyRecorded (bounded : Bool) (key : String) : TeamCall (Option Event) := do
  let scan ← scanTeamEvents T bounded
  match ← Call.ofExcept (recordedWith T key scan.events none) with
  | some event => pure (some event)
  | none =>
    if scan.issues.isEmpty then pure none else throw (osError "TEAM_SCAN_INCOMPLETE")

/-- Whether the body of a receipt is still there and names the receipt's identities. -/
def bodyPresent (record : OutboxReceipt) : TeamCall Bool := do
  match ← (spooledIdentityMatches T record none).attempt with
  | .ok true => pure true
  | .ok false => throw (teamError "TEAM_TARGET_BINDING_CHANGED")
  | .error error =>
    if error == spoolError "SPOOL_NOT_FOUND" then pure false else throw error

/-- Deletes the body of a delivered event if it is there. -/
def releaseBody (spoolId : String) (present : Bool) : TeamCall Bool :=
  if present then deleteSpool spoolId .delivered else pure false

def releaseDelivered (bounded : Bool) (record : OutboxReceipt) (rootHash : String) :
    TeamCall Unit :=
  match record.spoolRef with
  | none => pure ()
  | some ref => do
    if (← bindingError T record rootHash).isSome then
      throw (teamError "TEAM_TARGET_BINDING_CHANGED")
    else do
      let present ← bodyPresent T record
      let existing ← alreadyRecorded T bounded record.idempotencyKey
      if existing.all fun event =>
          some (eventIntegrity T.toPlatform event) != record.finalEventHash then
        throw (osError "TEAM_DELIVERY_PROOF_UNAVAILABLE")
      else do
        let _ ← releaseBody ref.spoolId present
        updateReceipt { record with spoolRef := none }

def cleanupErrors : List String :=
  ["OSError", "SpoolError", "ValueError", "TypeError"]

/-- Whether the body was released; a fault of the cleanup is no fault of the delivery. -/
def tryReleaseDelivered (bounded : Bool) (record : OutboxReceipt) (rootHash : String) :
    TeamCall Bool := do
  match ← (releaseDelivered T bounded record rootHash).attempt with
  | .ok _ => pure true
  | .error error =>
    if error.isA ["TimeoutError"] || !error.isA cleanupErrors then throw error else pure false

structure DrainTally where
  attempted : Nat := 0
  delivered : Nat := 0
  deferred : Nat := 0
  failed : Nat := 0
  errors : List (String × String) := []
deriving DecidableEq, Repr

structure DrainReport where
  status : String
  tally : DrainTally
  remaining : Nat
deriving DecidableEq, Repr

def DrainTally.blame (tally : DrainTally) (receiptHash code : String) : DrainTally :=
  { tally with errors := tally.errors ++ [(receiptHash, code)] }

/-- The reasons an exception's text is kept as, and which of them leave the work to a retry. -/
def drainReasons : List (String × Bool) :=
  [("TEAM_ROOT_UNAVAILABLE", true), ("SPOOL_NOT_FOUND", true), ("TEAM_SCAN_INCOMPLETE", true),
    ("TEAM_IDEMPOTENCY_CONFLICT", true), ("TEAM_DELIVERY_PROOF_UNAVAILABLE", true),
    ("TEAM_EVENT_NOT_READY", false), ("TEAM_EVENT_INTEGRITY_INVALID", false),
    ("TEAM_EVENT_IDENTITY_INVALID", false), ("TEAM_EVENT_BINDING_INVALID", true),
    ("TEAM_TARGET_BINDING_CHANGED", true)]

/-- Records a failed attempt on a receipt. -/
def recordFailure (record : OutboxReceipt) (receiptHash : String) (tally : DrainTally)
    (error : Raised) : TeamCall DrainTally :=
  if error.isA ["TimeoutError"] || !error.isA cleanupErrors then throw error
  else
    let found := drainReasons.lookup error.text
    let reason := if found.isSome then error.text else "TEAM_OUTBOX_DELIVERY_FAILED"
    let attempted := { record with
      attempts := record.attempts + 1, lastErrorCode := some reason }
    if found.getD false then do
      updateReceipt { attempted with status := .deferred }
      pure { tally with deferred := tally.deferred + 1 }
    else do
      updateReceipt { attempted with status := .failed }
      pure ({ tally with failed := tally.failed + 1 }.blame receiptHash reason)

/-- The event a body holds and the identities under which it is to be stored. -/
def spooledEvent (record : OutboxReceipt) (payload : Value) :
    Except Raised (Event × String × String) :=
  match payload with
  | .dict value =>
    match fieldOf value "event" with
    | .dict fields => do
      refuse (record.teamRootHash.any fun hash => fieldOf value "team_root_hash" != .str hash)
        (teamError "TEAM_EVENT_BINDING_INVALID")
      let event ← Event.fromDict fields
      refuse (eventIntegrity T.toPlatform event != event.integritySha256)
        (teamError "TEAM_EVENT_INTEGRITY_INVALID")
      match fieldOf value "member_id", fieldOf value "writer_id" with
      | .str member, .str writer => do
        let matching ← identitiesMatch T record member writer
        refuse (!matching) (teamError "TEAM_TARGET_BINDING_CHANGED")
        pure (event, member, writer)
      | _, _ => .error (teamError "TEAM_EVENT_IDENTITY_INVALID")
    | _ => .error (teamError "TEAM_EVENT_NOT_READY")
  | _ => .error (teamError "TEAM_EVENT_NOT_READY")

def appendUnlessRecorded (bounded : Bool) (existing : Option Event) (member writer : String)
    (event : Event) : TeamCall (List String) :=
  if existing.isNone then appendTeamEvent T bounded member writer event else pure []

/-- Delivers the body of a receipt and writes that it was. -/
def deliverBody (bounded : Bool) (record : OutboxReceipt) (given : Option Int) :
    TeamCall OutboxReceipt := do
  Call.look fun w => if w.teamUp then .ok () else .error (osError "TEAM_ROOT_UNAVAILABLE")
  let payload ← readReceiptBody record given
  let (event, member, writer) ← Call.ofExcept (spooledEvent T record payload)
  let existing ← alreadyRecorded T bounded record.idempotencyKey
  let _ ← appendUnlessRecorded T bounded existing member writer event
  let deliveredAt ← Call.look fun w => .ok (w.now given)
  let completed := { record with
    status := .delivered
    attempts := record.attempts + 1
    deliveredAt := some deliveredAt
    finalEventHash := some (eventIntegrity T.toPlatform (existing.getD event))
    lastErrorCode := none }
  updateReceipt completed
  pure completed

/-- One attempt on a pending receipt. -/
def drainPending (bounded : Bool) (rootHash : String) (given : Option Int)
    (record : OutboxReceipt) (receiptHash : String) (tally : DrainTally) :
    TeamCall DrainTally := do
  match ← (bindingError T record rootHash).attempt with
  | .error error => recordFailure record receiptHash tally error
  | .ok (some code) =>
    let counted := { tally with deferred := tally.deferred + 1 }
    let deferred := { record with
      status := .deferred, attempts := record.attempts + 1, lastErrorCode := some code }
    match ← (updateReceipt deferred).attempt with
    | .ok _ => pure counted
    | .error error => recordFailure record receiptHash counted error
  | .ok none =>
    match ← (deliverBody T bounded record given).attempt with
    | .error error => recordFailure record receiptHash tally error
    | .ok completed => do
      let released ← tryReleaseDelivered T bounded completed rootHash
      let counted := { tally with delivered := tally.delivered + 1 }
      pure (if released then counted
        else counted.blame receiptHash "TEAM_DELIVERY_CLEANUP_PENDING")

/-- The release of a body whose delivery an earlier call recorded. -/
def drainDelivered (bounded : Bool) (rootHash : String) (given : Option Int)
    (record : OutboxReceipt) (receiptHash : String) (tally : DrainTally) :
    TeamCall DrainTally := do
  if (← bindingError T record rootHash).isSome then
    pure (tally.blame receiptHash "TEAM_TARGET_BINDING_CHANGED")
  else
    let release : TeamCall DrainTally := do
      let released ← tryReleaseDelivered T bounded record rootHash
      pure (if released then tally else tally.blame receiptHash "TEAM_DELIVERY_CLEANUP_PENDING")
    match ← (spooledIdentityMatches T record given).attempt with
    | .ok true => release
    | .ok false => pure (tally.blame receiptHash "TEAM_TARGET_BINDING_CHANGED")
    | .error error =>
      if error.isA ["TimeoutError"] then throw error
      else if error == spoolError "SPOOL_NOT_FOUND" then release
      else if error.isA cleanupErrors then
        pure (tally.blame receiptHash "TEAM_TARGET_BINDING_CHANGED")
      else throw error

def drainRecords (bounded : Bool) (rootHash : String) (maxItems : Nat) (given : Option Int) :
    List OutboxReceipt → DrainTally → TeamCall DrainTally
  | [], tally => pure tally
  | record :: records, tally => do
    let receiptHash ← Call.ofExcept (outboxHash T record.receiptId "team-outbox")
    if record.status == .delivered && record.spoolRef.isSome then do
      let next ← drainDelivered T bounded rootHash given record receiptHash tally
      drainRecords bounded rootHash maxItems given records next
    else if maxItems ≤ tally.attempted || !(record.status == .pending || record.status == .deferred)
    then drainRecords bounded rootHash maxItems given records tally
    else do
      let attempted := { tally with attempted := tally.attempted + 1 }
      let next ← drainPending T bounded rootHash given record receiptHash attempted
      drainRecords bounded rootHash maxItems given records next

def DrainTally.status (tally : DrainTally) : String :=
  if tally.deferred != 0 && tally.failed == 0 then "DEFERRED"
  else if tally.failed != 0 then "FAILED"
  else if tally.delivered != 0 then "DELIVERED"
  else "EMPTY"

def drainTeamOutbox (bounded : Bool) (settings : TeamSettings) (maxItems : Nat)
    (given : Option Int) : TeamCall DrainReport := do
  Call.ofExcept (refuse (maxItems < 1 || 10000 < maxItems)
    (teamError "TEAM_OUTBOX_MAX_ITEMS_INVALID"))
  match settings.team.bind (·.root) with
  | none => pure ⟨"DISABLED", {}, 0⟩
  | some root => do
    let rootHash ← Call.ofExcept (teamRootHash T.toPlatform root)
    let records ← outboxRecords
    let tally ← drainRecords T bounded rootHash maxItems given records {}
    let left ← outboxRecords
    pure ⟨tally.status, tally,
      (left.filter fun r => r.status == .pending || r.status == .deferred).length⟩

/-- A decision that delivers nothing. -/
def undelivered (prepared : PreparedTeamRouting) (personalEventHash : String)
    (status : RoutingStatus) (reasonCode : String) : TeamRoutingDecision :=
  { status, reasonCode, personalEventHash, teamStoreId := prepared.teamStoreId }

def delivery (prepared : PreparedTeamRouting) (personalEventHash : String) (event : Event)
    (status : RoutingStatus) (reasonCode : String) : TeamRoutingDecision :=
  { status
    reasonCode
    personalEventHash
    teamStoreId := prepared.teamStoreId
    normalizedPayload := prepared.normalizedPayload
    deliveryEventId := some event.eventId
    deliveryEventHash := some (eventIntegrity T.toPlatform event)
    teamRootHash := prepared.teamRootHash }

/-- Appends the event and reads it back; a fault of the root leaves it to the outbox. -/
def deliverDirect (bounded : Bool) (prepared : PreparedTeamRouting) (personalEventHash : String)
    (event : Event) : TeamCall (Option TeamRoutingDecision) := do
  let failed := undelivered prepared personalEventHash .failed
  let stored ← Call.attempt do
    let _ ← inspectStore T (some prepared.teamStoreId)
    let target ← appendTeamEvent T bounded prepared.teamMemberId prepared.writerId event
    readTeamEvent T bounded target
  match stored with
  | .ok stored =>
    if stored.eventId != event.eventId || stored.idempotencyKey != event.idempotencyKey ||
        eventIntegrity T.toPlatform stored != eventIntegrity T.toPlatform event then
      pure (some (failed "TEAM_EVENT_READBACK_FAILED"))
    else
      pure (some (delivery T prepared personalEventHash event .eligible "TEAM_EVENT_RECORDED"))
  | .error error =>
    if error.isA ["TimeoutError"] then throw error
    else if error.isA ["ValueError"] then
      if error.text = "TEAM_STORE_ID_MISMATCH" then pure (some (failed "TEAM_BINDING_CHANGED"))
      else if ["TEAM_EVENT_ID_CONFLICT", "TEAM_IDEMPOTENCY_CONFLICT"].contains error.text then
        pure (some (failed "TEAM_EVENT_CONFLICT"))
      else pure none
    else if error.isA ["OSError"] then pure none
    else throw error

/-- Delivers directly if the root is there. -/
def tryDirect (bounded : Bool) (prepared : PreparedTeamRouting) (personalEventHash : String)
    (event : Event) : TeamCall (Option TeamRoutingDecision) := do
  let up ← Call.look fun w => .ok w.teamUp
  if up then deliverDirect T bounded prepared personalEventHash event else pure none

def outboxPayload (prepared : PreparedTeamRouting) (event : Event) : List (String × Value) :=
  [("event", .dict event.toDict), ("member_id", .str prepared.teamMemberId),
    ("writer_id", .str prepared.writerId), ("append_error_code", .str "TEAM_ROOT_UNAVAILABLE"),
    ("team_root_hash", .str (prepared.teamRootHash.getD "None"))]

/-- Whether a receipt is that of this decision. -/
def receiptMatches (prepared : PreparedTeamRouting) (personalEventHash : String) (event : Event)
    (receipt : OutboxReceipt) : Except Raised Bool := do
  let storeIdHash ← outboxHash T prepared.teamStoreId "team-store-id"
  let memberIdHash ← outboxHash T prepared.teamMemberId "team-member-id"
  let writerIdHash ← outboxHash T prepared.writerId "team-writer-id"
  pure (receipt.storeIdHash == storeIdHash && receipt.memberIdHash == memberIdHash &&
    receipt.writerIdHash == writerIdHash && receipt.personalEventHash == personalEventHash &&
    receipt.idempotencyKey == event.idempotencyKey &&
    receipt.teamRootHash == prepared.teamRootHash)

/-- Leaves the event to the outbox, or finds what became of it there. -/
def deliverDeferred (settings : TeamSettings) (prepared : PreparedTeamRouting)
    (personalEventHash : String) (event : Event) : TeamCall TeamRoutingDecision := do
  let failed := undelivered prepared personalEventHash .failed "TEAM_OUTBOX_READBACK_FAILED"
  let accepted ← enqueueTeamEvent T settings (outboxPayload prepared event) personalEventHash
    prepared.teamStoreId prepared.teamMemberId prepared.writerId none
  match ← readTeamOutboxReceipt accepted.receiptId with
  | none => pure failed
  | some receipt =>
    let matching ← Call.ofExcept (receiptMatches T prepared personalEventHash event receipt)
    let named (decision : TeamRoutingDecision) : TeamRoutingDecision :=
      { decision with receiptId := some accepted.receiptId, receiptStatus := some receipt.status }
    if !matching then pure failed
    else
      match receipt.status == .pending || receipt.status == .deferred, receipt.spoolRef with
      | true, some ref => do
        let cached ← readSpool ref.spoolId (some ref) none
        if cached.canonical != (Value.dict (outboxPayload prepared event)).canonical then
          pure failed
        else
          pure (named (delivery T prepared personalEventHash event .deferred
            "TEAM_ROOT_UNAVAILABLE"))
      | _, _ =>
        if receipt.status == .delivered &&
            receipt.finalEventHash == some (eventIntegrity T.toPlatform event) then
          pure (named (delivery T prepared personalEventHash event .eligible
            "TEAM_EVENT_RECORDED"))
        else pure failed

/-- Delivers a frozen decision after the personal knowledge was applied. -/
def deliverPreparedTeamRouting (bounded : Bool) (settings : TeamSettings)
    (prepared : PreparedTeamRouting) (personalEventHash : String) (eventIds : List String) :
    TeamCall TeamRoutingDecision := do
  let answer := undelivered prepared personalEventHash
  if !validatePreparedTeamRouting T.toPlatform prepared || !isHash personalEventHash then
    pure (answer .failed "TEAM_PREPARE_INVALID")
  else if !personalEventsValid eventIds then pure (answer .failed "TEAM_PERSONAL_EVENTS_INVALID")
  else if prepared.status != .eligible then pure (answer prepared.status prepared.reasonCode)
  else do
    let matching ← Call.ofExcept (currentBindingMatches T.toPlatform prepared settings)
    if !matching then pure (answer .failed "TEAM_BINDING_CHANGED")
    else do
      let event ← Call.ofExcept (preparedEvent T prepared personalEventHash)
      match ← tryDirect T bounded prepared personalEventHash event with
      | some decision => pure decision
      | none =>
        match ← (deliverDeferred T settings prepared personalEventHash event).attempt with
        | .ok decision => pure decision
        | .error error =>
          if error.isA ["TimeoutError"] || !error.isA ("RuntimeError" :: cleanupErrors) then
            throw error
          else pure (answer .failed "TEAM_OUTBOX_PENDING")

/-- What the calls on a team store answer. -/
inductive TeamAnswer where
  | decision (decision : TeamRoutingDecision)
  | report (report : DrainReport)

def deliveryCall (bounded : Bool) (settings : TeamSettings) (prepared : PreparedTeamRouting)
    (personalEventHash : String) (eventIds : List String) : TeamCall TeamAnswer := do
  let decision ← deliverPreparedTeamRouting T bounded settings prepared personalEventHash eventIds
  pure (.decision decision)

def drainCall (bounded : Bool) (settings : TeamSettings) (maxItems : Nat) (given : Option Int) :
    TeamCall TeamAnswer := do
  let report ← drainTeamOutbox T bounded settings maxItems given
  pure (.report report)

end ExternalIntelligence
