import ExternalIntelligence.Machine
import ExternalIntelligence.QueueStore

namespace ExternalIntelligence
set_option autoImplicit true

def SpoolRef.toDict (ref : SpoolRef) : Value :=
  .dict [("spool_id", .str ref.spoolId), ("content_hash", .str ref.contentHash),
    ("classification", .str ref.classification), ("created_at", .str ref.createdAt.text),
    ("expires_at", .str ref.expiresAt.text), ("key_id", optionalText ref.keyId),
    ("encrypted", .bool true),
    ("purpose", .str (match ref.purpose with
      | .legacy => "legacy"
      | .pending => "pending"
      | .validatedResult => "validated-result"))]
where
  optionalText : Option String → Value
    | some s => .str s
    | none => .none

def QueueState.text : QueueState → String
  | .ready => "READY"
  | .inProgress => "IN_PROGRESS"
  | .deferred => "DEFERRED"
  | .failedRetryable => "FAILED_RETRYABLE"
  | .failedNeedsAttention => "FAILED_NEEDS_ATTENTION"
  | .yesCurating => "YES_CURATING"
  | .noDiscarded => "NO_DISCARDED"
  | .done => "DONE"
  | .failed => "FAILED"
  | .quarantined => "QUARANTINED"

def QueueItem.toDict (P : Platform) (item : QueueItem) : Value :=
  let text (s : Option String) : Value := (s.map Value.str).getD .none
  let time (t : Option Int) : Value := (t.map fun t => .str (P.isoformat t)).getD .none
  let ref (r : Option SpoolRef) : Value := (r.map SpoolRef.toDict).getD .none
  .dict ([("queue_id", .str item.queueId), ("event_id", .str item.eventId),
    ("idempotency_key", .str item.idempotencyKey), ("stage", .str item.stage),
    ("state", .str item.state.text), ("attempts", .int item.attempts),
    ("created_at", .str (P.isoformat item.createdAt)),
    ("next_eligible_at", time item.nextEligibleAt), ("source_ref", text item.sourceRef),
    ("source_hash", .str item.sourceHash), ("host_id", .str item.hostId),
    ("session_id_hash", .str item.sessionIdHash), ("turn_id_hash", .str item.turnIdHash),
    ("payload_ref", ref item.payloadRef),
    ("provider_preference", .ofStrings item.providerPreference),
    ("privacy_classification", .str item.privacyClassification),
    ("lease_owner", text item.leaseOwner), ("lease_expires_at", time item.leaseExpiresAt),
    ("last_error_code", text item.lastErrorCode), ("capture_id", text item.captureId),
    ("validated_result_ref", ref item.validatedResultRef)] ++
    if item.sourceHostId = "" ∧ item.sourceHostFamily = "" then []
    else [("source_host_id", .str item.sourceHostId),
      ("source_host_family", .str item.sourceHostFamily)])

/-- A queue item kept outside the queue because the queue could not be written. -/
structure Envelope where
  item : QueueItem
  reasonCode : String
  createdAt : Int
  expiresAt : Int
deriving DecidableEq, Repr

structure EmergencyStore where
  rows : List (String × Envelope) := []
  cursor : String := ""
deriving DecidableEq, Repr

def emergencyId (P : Platform) (item : QueueItem) : String :=
  "emergency_" ++ takeText 32 (P.sha256 (Text.chars (item.queueId ++ "|" ++ item.idempotencyKey)))

def envelopeBytes (P : Platform) (id : String) (envelope : Envelope) : Nat :=
  Value.utf8Length (Value.fileText (.dict [("schema_version", .int 1), ("emergency_id", .str id),
    ("queue_item", envelope.item.toDict P), ("reason_code", .str envelope.reasonCode),
    ("created_at", .str (P.isoformat envelope.createdAt)),
    ("expires_at", .str (P.isoformat envelope.expiresAt))]))

def EmergencyStore.bytes (P : Platform) (s : EmergencyStore) : Nat :=
  (s.rows.map fun row => envelopeBytes P row.1 row.2).sum

def writeEmergencyEnvelope (P : Platform) (settings : Settings) (item : QueueItem)
    (reasonCode : String) (now : Int) (s : EmergencyStore) :
    EmergencyStore × Except Failure String :=
  let id := emergencyId P item
  match s.rows.lookup id with
  | some existing =>
    if existing.item ≠ item then (s, .error (.queue "QUEUE_IDEMPOTENCY_COLLISION"))
    else (s, .ok id)
  | none =>
    let envelope : Envelope :=
      { item, reasonCode, createdAt := now
        expiresAt := now + settings.emergencyTtlSeconds * 1000000 }
    if settings.emergencyMaxItems ≤ s.rows.length ∨
        settings.emergencyMaxBytes < s.bytes P + envelopeBytes P id envelope then
      (s, .error (.queue "EMERGENCY_SPOOL_FULL"))
    else ({ s with rows := s.rows ++ [(id, envelope)] }, .ok id)

/-- The critical sections a call still has to run after it released the queue lock. -/
inductive CriticalSection where
  | store (call : TransitionCall)
  | clean (field : RefField)
  | advance
  | scan (call : ClaimCall) (rest : List String)

/-- A call between two critical sections, with the item it works on. -/
structure Job where
  target : QueueState
  moment : Int
  updated : QueueItem
  todo : List CriticalSection

structure QueueWorld where
  queue : QueueStore := {}
  emergency : EmergencyStore := {}
  jobs : List Job := []

/-- The arguments of enqueue_receipt. -/
structure Receipt where
  event : ReceiptEvent
  payloadRef : Option SpoolRef
  settings : Settings
  provider : Option (List String) := none
  stage : String := "inheritance-gate"
  now : Int
  captureId : Option String := none

inductive Response where
  | item (item : QueueItem)
  | claimed (item : QueueItem)
  | items (items : List QueueItem)
  | none
  | working
  | error (failure : Failure)
deriving DecidableEq, Repr

/-- Whether a receipt asks again for what an item was made for. -/
def sameIdentity (existing item : QueueItem) : Bool :=
  existing.eventId = item.eventId ∧ existing.sourceHash = item.sourceHash ∧
    existing.hostId = item.hostId ∧ existing.captureId = item.captureId ∧
    existing.payloadRef = item.payloadRef

/-- The item of a receipt, unless its event has no source pair or the schema refuses it. -/
def Receipt.newItem (P : Platform) (receipt : Receipt) : Except Failure QueueItem :=
  match eventFields P receipt.event with
  | none => .error (.queue "QUEUE_SOURCE_HOST_PAIR_REQUIRED")
  | some fields =>
    let item := receiptItem P fields receipt.payloadRef receipt.settings receipt.provider
      receipt.stage receipt.now receipt.captureId
    if validateQueueItem item then .ok item else .error (.queue "QUEUE_ITEM_INVALID")

/-- A receipt whose reservation is waiting for its file keeps the reserved creation time. -/
def reservedItem (s : QueueStore) (item : QueueItem) : QueueItem :=
  match s.rows.lookup item.queueId with
  | some ⟨reserved, false⟩ => { item with createdAt := reserved.createdAt }
  | _ => item

/-- A failed write falls back to the emergency store, an unsafe catalog does not. -/
def storeReceipt (P : Platform) (receipt : Receipt) (item : QueueItem) (fault : WriteFault)
    (w : QueueWorld) : QueueWorld × Response :=
  match w.queue.write item fault with
  | (queue, .ok _) => ({ w with queue }, .item item)
  | (queue, .error (.catalog code)) => ({ w with queue }, .error (.catalog code))
  | (queue, .error (.value code)) => ({ w with queue }, .error (.value code))
  | (queue, .error _) =>
    match writeEmergencyEnvelope P receipt.settings item "QUEUE_WRITE_FAILED" receipt.now
        w.emergency with
    | (emergency, .error e) => ({ w with queue, emergency }, .error e)
    | (emergency, .ok id) =>
      ({ w with queue, emergency }, .item
        { item with
          state := .quarantined
          lastErrorCode := some ("EMERGENCY:" ++ id ++ ".json") })

def enqueueReceipt (P : Platform) (receipt : Receipt) (fault : WriteFault) (w : QueueWorld) :
    QueueWorld × Response :=
  match receipt.newItem P with
  | .error e => (w, .error e)
  | .ok item =>
    match w.queue.existing P item.idempotencyKey item.sourceHostId item.queueId with
    | .error e => (w, .error e)
    | .ok (some existing) =>
      if sameIdentity existing item then (w, .item existing)
      else (w, .error (.queue "QUEUE_IDEMPOTENCY_COLLISION"))
    | .ok none => storeReceipt P receipt (reservedItem w.queue item) fault w

/-- What a scan leaves to do: an outcome, or a cleanup that runs outside the lock first. -/
def afterScan (call : ClaimCall) (w : QueueWorld) (jobs : List Job) :
    QueueStore × ClaimOutcome → QueueWorld × Response
  | (queue, .claimed item) => ({ w with queue, jobs }, .claimed item)
  | (queue, .exhausted) => ({ w with queue, jobs }, .none)
  | (queue, .failed e) => ({ w with queue, jobs }, .error e)
  | (queue, .cleanup item rest) =>
    let store : TransitionCall :=
      { target := item.state
        settings := call.settings
        moment := call.moment
        reasonCode := item.lastErrorCode
        nextEligibleAt := some (call.moment + cleanupDelay) }
    let job : Job :=
      { target := item.state
        moment := call.moment
        updated := item
        todo := [.store store, .clean .payload, .clean .validatedResult, .advance,
          .scan { call with cleanupAttempted := true } rest] }
    ({ w with queue, jobs := jobs ++ [job] }, .working)

def claimQueueItem (call : ClaimCall) (limit : Nat) (w : QueueWorld) : QueueWorld × Response :=
  afterScan call w w.jobs (claimStart { call with cleanupAttempted := false } limit w.queue)

def transitionQueueItem (call : TransitionCall) (item : QueueItem) (w : QueueWorld) :
    QueueWorld × Response :=
  match transitionStored call item w.queue with
  | (queue, .error e) => ({ w with queue }, .error e)
  | (queue, .ok updated) =>
    if call.target ∈ QueueState.finished then
      let job : Job :=
        { target := call.target
          moment := call.moment
          updated
          todo := [.clean .payload, .clean .validatedResult] }
      ({ w with queue, jobs := w.jobs ++ [job] }, .item updated)
    else ({ w with queue }, .item updated)

/-- A failing section ends the call, or the cleanup a claim goes on after. -/
def Job.fail (job : Job) : Job :=
  { job with todo := job.todo.dropWhile fun
    | .scan .. => false
    | _ => true }

/-- The world after a section: a job with nothing left to do is over. -/
def afterSection (w : QueueWorld) (jobs : List Job) (queue : QueueStore) (next : Job)
    (answer : Response) : QueueWorld × Response :=
  if next.todo.isEmpty then ({ w with queue, jobs }, answer)
  else ({ w with queue, jobs := jobs ++ [next] }, .working)

/-- The next section of a job; `deleted` says whether the spool deleted the body it asks for. -/
def runSection (job : Job) (jobs : List Job) (deleted : Bool) (w : QueueWorld) :
    QueueWorld × Response :=
  match job.todo with
  | [] => ({ w with jobs }, .item job.updated)
  | .store call :: todo =>
    match transitionStored call job.updated w.queue with
    | (queue, .ok updated) =>
      afterSection w jobs queue { job with updated, todo } (.item updated)
    | (queue, .error e) => afterSection w jobs queue job.fail (.error e)
  | .clean field :: todo =>
    match field.get job.updated with
    | none => afterSection w jobs w.queue { job with todo } (.item job.updated)
    | some ref =>
      if !deleted then afterSection w jobs w.queue job.fail (.error (.value "SPOOL_DELETE_FAILED"))
      else
        match cleanupField job.target job.moment field ref job.updated w.queue with
        | (queue, .ok updated) =>
          afterSection w jobs queue { job with updated, todo } (.item updated)
        | (queue, .error e) => afterSection w jobs queue job.fail (.error e)
  | .advance :: todo =>
    afterSection w jobs (w.queue.advance job.updated.queueId) { job with todo } .working
  | .scan call rest :: _ => afterScan call w jobs (claimScan call rest w.queue)

/-- An item with the provider the settings prefer. -/
def QueueItem.preferring (settings : Settings) (item : QueueItem) : QueueItem :=
  { item with
    providerPreference :=
      ExternalIntelligence.providerPreference settings (some item.providerPreference) }

/-- One envelope of a recovery page. -/
def recoverEnvelope (P : Platform) (settings : Settings) (moment : Int) (envelope : Envelope)
    (s : QueueStore) : QueueStore × Except Failure (Option QueueItem) :=
  match envelope.item.fromFile with
  | none => (s, .error (.queue "QUEUE_ITEM_INVALID"))
  | some item =>
    if envelope.expiresAt ≤ moment then (s, .ok none)
    else
      match s.existing P item.idempotencyKey item.sourceHostId item.queueId with
      | .error e => (s, .error e)
      | .ok (some existing) =>
        if existing.eventId = item.eventId ∧ existing.sourceHash = item.sourceHash ∧
            existing.captureId = item.captureId ∧ existing.payloadRef = item.payloadRef then
          (s, .ok (some existing))
        else (s, .error (.queue "QUEUE_IDEMPOTENCY_COLLISION"))
      | .ok none =>
        match s.write (item.preferring settings) .none with
        | (s, .ok _) => (s, .ok (some (item.preferring settings)))
        | (s, .error e) => (s, .error e)

/-- The recovery loop: a failure ends it before the cursor moves over the envelope. -/
def recoverPage (P : Platform) (settings : Settings) (moment : Int) :
    List String → QueueWorld → List QueueItem → QueueWorld × List QueueItem
  | [], w, recovered => (w, recovered)
  | id :: rest, w, recovered =>
    match w.emergency.rows.lookup id with
    | none => (w, recovered)
    | some envelope =>
      match recoverEnvelope P settings moment envelope w.queue with
      | (queue, .error _) => ({ w with queue }, recovered)
      | (queue, .ok existing) =>
        let emergency : EmergencyStore :=
          { rows := w.emergency.rows.filter fun row => row.1 ≠ id, cursor := id }
        recoverPage P settings moment rest { w with queue, emergency }
          (recovered ++ existing.toList)

def EmergencyStore.page (s : EmergencyStore) (limit : Nat) : List String :=
  pageIds (s.rows.map Prod.fst) s.cursor limit

def recoverEmergencySpool (P : Platform) (settings : Settings) (moment : Int) (limit : Nat)
    (w : QueueWorld) : QueueWorld × Response :=
  let done := recoverPage P settings moment (w.emergency.page limit) w []
  (done.1, .items done.2)

inductive QueueAction where
  | enqueue (receipt : Receipt) (fault : WriteFault)
  | claim (call : ClaimCall) (limit : Nat)
  | transition (state : String) (args : TransitionArgs) (item : QueueItem)
  | attach (item : QueueItem) (ref : SpoolRef)
  | run (index : Nat) (deleted : Bool)
  | abandon (index : Nat)
  | recover (settings : Settings) (moment : Int) (limit : Nat)

def queueStep (P : Platform) (w : QueueWorld) : QueueAction → QueueWorld × Response
  | .enqueue receipt fault => enqueueReceipt P receipt fault w
  | .claim call limit => claimQueueItem call limit w
  | .transition state args item =>
    match QueueState.target state with
    | none => (w, .error (.value "QueueState"))
    | some target => transitionQueueItem { args with target } item w
  | .attach item ref =>
    match attachValidatedResult item ref w.queue with
    | (queue, .ok updated) => ({ w with queue }, .item updated)
    | (queue, .error e) => ({ w with queue }, .error e)
  | .run index deleted =>
    match w.jobs[index]? with
    | none => (w, .none)
    | some job => runSection job (w.jobs.eraseIdx index) deleted w
  | .abandon index => ({ w with jobs := w.jobs.eraseIdx index }, .none)
  | .recover settings moment limit => recoverEmergencySpool P settings moment limit w

/-- The queue of any number of processes: each input is one critical section of a call. -/
def queueMachine (P : Platform) : Machine QueueWorld QueueAction Response :=
  ⟨queueStep P⟩

def sampleEvent : NormalizedHookEvent where
  eventId := "evt_20260101T000000Z_0123456789ab"
  idempotencyKey := "sha256:" ++ String.ofList (List.replicate 64 'a')
  hostId := "host"
  sessionIdHash := "sha256:" ++ String.ofList (List.replicate 64 'b')
  turnIdHash := "sha256:" ++ String.ofList (List.replicate 64 'c')
  sourceRef := none
  sourceHash := "sha256:" ++ String.ofList (List.replicate 64 'd')
  privacyClassification := "private-reusable"
  sourceHostId := "host"
  sourceHostFamily := "family"

/-- A receipt of a body that waits in the spool. -/
def sampleReceipt : Receipt where
  event := .hook sampleEvent
  payloadRef := some
    { spoolId := "spool"
      contentHash := "sha256:" ++ String.ofList (List.replicate 64 'e')
      classification := "private-reusable"
      createdAt := ⟨"0", 0⟩
      expiresAt := ⟨"9000000000", 9000000000⟩
      keyId := none
      purpose := .pending }
  settings := {}
  now := 0

/-- A claim at some moment with a lease of five minutes. -/
def sampleClaim (worker : String) (moment : Int) : ClaimCall where
  worker
  settings := {}
  moment
  lease := cleanupDelay

def sampleArgs (moment : Int) : TransitionArgs where
  settings := {}
  moment
  reasonCode := none
  nextEligibleAt := none

/-- The item the sample receipt is stored as. -/
def sampleItem : QueueItem :=
  receiptItem samplePlatform ((eventFields samplePlatform sampleReceipt.event).getD
    ⟨"", "", none, "", "", "", "", "", "", ""⟩) sampleReceipt.payloadRef {} none
    "inheritance-gate" 0 none

/-- The sample item as a claim hands it out. -/
def sampleClaimed (worker : String) (moment : Int) : QueueItem :=
  (claimedItem {} worker moment cleanupDelay sampleItem).getD sampleItem

end ExternalIntelligence
