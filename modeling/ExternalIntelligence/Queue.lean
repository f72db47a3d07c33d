import ExternalIntelligence.Models

namespace ExternalIntelligence
set_option autoImplicit true

inductive QueueState where
  | ready
  | inProgress
  | deferred
  | failedRetryable
  | failedNeedsAttention
  | yesCurating
  | noDiscarded
  | done
  | failed
  | quarantined
deriving DecidableEq, Repr

namespace QueueState

/-- The states whose processing is over. -/
def terminal : List QueueState :=
  [.noDiscarded, .done, .failedNeedsAttention, .failed, .quarantined]

/-- The states that are held under a lease. -/
def leased : List QueueState :=
  [.inProgress, .yesCurating]

/-- The terminal states that delete the bodies an item refers to. -/
def finished : List QueueState :=
  [.noDiscarded, .done]

def allowedTransitions : QueueState → List QueueState
  | .ready => [.inProgress, .deferred, .yesCurating, .noDiscarded, .failedRetryable,
      .failedNeedsAttention, .quarantined]
  | .deferred => [.inProgress, .yesCurating, .noDiscarded, .failedRetryable,
      .failedNeedsAttention, .quarantined]
  | .inProgress => [.ready, .deferred, .yesCurating, .noDiscarded, .done, .failedRetryable,
      .failedNeedsAttention, .quarantined]
  | .failedRetryable => [.ready, .inProgress, .deferred, .failedNeedsAttention, .quarantined]
  | .failedNeedsAttention => [.ready, .quarantined]
  | .yesCurating => [.ready, .deferred, .done, .failedRetryable, .failedNeedsAttention,
      .quarantined]
  | .noDiscarded => []
  | .done => []
  | .failed => [.ready, .quarantined]
  | .quarantined => []

/-- The target a caller's state text asks for, the two old names mapped to new states. -/
def target : String → Option QueueState
  | "DEFERRED_QUOTA" | "DEFERRED" => some .deferred
  | "FAILED" | "FAILED_RETRYABLE" => some .failedRetryable
  | "READY" => some .ready
  | "IN_PROGRESS" => some .inProgress
  | "FAILED_NEEDS_ATTENTION" => some .failedNeedsAttention
  | "YES_CURATING" => some .yesCurating
  | "NO_DISCARDED" => some .noDiscarded
  | "DONE" => some .done
  | "QUARANTINED" => some .quarantined
  | _ => none

end QueueState

/-- A timestamp text that is kept as it is, with the instant it denotes. -/
structure Stamp where
  text : String
  instant : Int
deriving DecidableEq, Repr

inductive SpoolPurpose where
  | legacy
  | pending
  | validatedResult
deriving DecidableEq, Repr

/-- A reference to an encrypted body in the spool. -/
structure SpoolRef where
  spoolId : String
  contentHash : String
  classification : String
  createdAt : Stamp
  expiresAt : Stamp
  keyId : Option String
  purpose : SpoolPurpose := .legacy
deriving DecidableEq, Repr

structure QueueItem where
  queueId : String
  eventId : String
  idempotencyKey : String
  stage : String
  state : QueueState
  attempts : Nat
  createdAt : Int
  nextEligibleAt : Option Int
  sourceRef : Option String
  sourceHash : String
  hostId : String
  sessionIdHash : String
  turnIdHash : String
  payloadRef : Option SpoolRef
  providerPreference : List String
  privacyClassification : String
  leaseOwner : Option String := none
  leaseExpiresAt : Option Int := none
  lastErrorCode : Option String := none
  sourceHostId : String := ""
  sourceHostFamily : String := ""
  captureId : Option String := none
  validatedResultRef : Option SpoolRef := none
deriving DecidableEq, Repr

def validateSpoolRef (ref : SpoolRef) : Bool :=
  ref.spoolId != "" && isHash ref.contentHash && ref.classification != "" && ref.keyId != some ""

def validLabel (s : String) (allowEmpty : Bool) : Bool :=
  (validateHostLabel (.str s) "host" allowEmpty).isOk

/-- The queue-item schema; a source pair of two empty labels is left out of the file. -/
@[irreducible] def validateQueueItem (item : QueueItem) : Bool :=
  item.captureId.all isHash &&
  item.validatedResultRef.all (fun r => validateSpoolRef r && r.purpose == .validatedResult) &&
  item.queueId != "" && isEventId item.eventId && isHash item.idempotencyKey &&
  item.stage != "" && item.sourceRef != some "" && isHash item.sourceHash &&
  item.hostId != "" && isHash item.sessionIdHash && isHash item.turnIdHash &&
  item.payloadRef.all validateSpoolRef && item.providerPreference.all (· != "") &&
  item.privacyClassification != "" && item.leaseOwner != some "" &&
  item.lastErrorCode != some "" &&
  (item.sourceHostId == "" && item.sourceHostFamily == "" ||
    validLabel item.sourceHostId false && validLabel item.sourceHostFamily true)

/-- Whether from_dict accepts what to_dict wrote: the schema, and both host labels or neither. -/
def QueueItem.readable (item : QueueItem) : Bool :=
  validateQueueItem item && (item.sourceHostId == "") == (item.sourceHostFamily == "")

/-- An item as it is read back; the legacy failed state needs attention. -/
def QueueItem.fromFile (item : QueueItem) : Option QueueItem :=
  if !item.readable then none
  else if item.state = .failed then some { item with state := .failedNeedsAttention }
  else some item

structure Organizer where
  status : String
  providerId : Option String
deriving DecidableEq, Repr

structure Settings where
  organizer : Option Organizer := none
  providerOrder : List String := []
  emergencyMaxItems : Nat := 1000
  emergencyMaxBytes : Nat := 64 * 1024 * 1024
  emergencyTtlSeconds : Nat := 86400
deriving DecidableEq, Repr

/-- The provider of a ready organizer; without an organizer, the first one of the given order. -/
def providerPreference (settings : Settings) (explicit : Option (List String)) : List String :=
  match settings.organizer with
  | some organizer =>
    if organizer.status = "READY" then organizer.providerId.toList else []
  | none => ((explicit.getD settings.providerOrder).filter (· ≠ "")).take 1

structure NormalizedHookEvent where
  eventId : String
  idempotencyKey : String
  hostId : String
  sessionIdHash : String
  turnIdHash : String
  sourceRef : Option String
  sourceHash : String
  privacyClassification : String
  sourceHostId : String
  sourceHostFamily : String
deriving DecidableEq, Repr

/-- What a receipt is made for. -/
inductive ReceiptEvent where
  | hook (event : NormalizedHookEvent)
  | journal (event : Event)

structure ReceiptFields where
  eventId : String
  idempotencyKey : String
  sourceRef : Option String
  sourceHash : String
  hostId : String
  sessionIdHash : String
  turnIdHash : String
  privacyClassification : String
  sourceHostId : String
  sourceHostFamily : String

def eventFields (P : Platform) : ReceiptEvent → Option ReceiptFields
  | .hook e =>
    if e.sourceHostId = "" ∨ e.sourceHostFamily = "" then none
    else some ⟨e.eventId, e.idempotencyKey, e.sourceRef, e.sourceHash, e.hostId, e.sessionIdHash,
      e.turnIdHash, e.privacyClassification, e.sourceHostId, e.sourceHostFamily⟩
  | .journal e =>
    let idHash := "sha256:" ++ P.sha256 (Text.chars e.eventId)
    let field (name : String) : Value := (e.payload.lookup name).getD .none
    let hashField (name : String) : String :=
      if (field name).truthy then pyStr P (field name) else idHash
    let sourceHostId := (field "source_host_id").strOr ""
    let sourceHostFamily := (field "source_host_family").strOr ""
    if sourceHostId = "" ∨ sourceHostFamily = "" then none
    else some
      { eventId := e.eventId
        idempotencyKey := orElse e.idempotencyKey idHash
        sourceRef := match field "source_ref" with
          | .str s => some s
          | _ => none
        sourceHash := hashField "source_hash"
        hostId := e.actor
        sessionIdHash := hashField "session_id_hash"
        turnIdHash := hashField "turn_id_hash"
        privacyClassification :=
          pyStr P ((e.payload.lookup "classification").getD (.str "private-reusable"))
        sourceHostId
        sourceHostFamily }

def newQueueId (P : Platform) (eventId idempotencyKey sourceHostId : String) : String :=
  "queue_" ++ takeText 32
    (P.sha256 (Text.chars (eventId ++ "|" ++ idempotencyKey ++ "|" ++ sourceHostId)))

/-- The tag under which an item is found again: the hash of its key and its source host. -/
def queueTag (P : Platform) (key host : String) : String :=
  P.sha256 (['['] ++ Value.quote key ++ [',', ' '] ++ Value.quote host ++ [']'])

/-- The ready item a receipt asks for. -/
def receiptItem (P : Platform) (fields : ReceiptFields) (payloadRef : Option SpoolRef)
    (settings : Settings) (provider : Option (List String)) (stage : String) (now : Int)
    (captureId : Option String) : QueueItem :=
  { queueId := newQueueId P fields.eventId fields.idempotencyKey fields.sourceHostId
    eventId := fields.eventId
    idempotencyKey := fields.idempotencyKey
    stage
    state := .ready
    attempts := 0
    createdAt := now
    nextEligibleAt := none
    sourceRef := fields.sourceRef
    sourceHash := fields.sourceHash
    hostId := fields.hostId
    sessionIdHash := fields.sessionIdHash
    turnIdHash := fields.turnIdHash
    payloadRef
    providerPreference := ExternalIntelligence.providerPreference settings provider
    privacyClassification := fields.privacyClassification
    sourceHostId := fields.sourceHostId
    sourceHostFamily := fields.sourceHostFamily
    captureId }

end ExternalIntelligence
