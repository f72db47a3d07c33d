import ExternalIntelligence.Dict
import ExternalIntelligence.Queue

namespace ExternalIntelligence
set_option autoImplicit true

/-- How a call ends when it raises. -/
inductive Failure where
  | queue (code : String)
  | catalog (code : String)
  | value (code : String)
  | os
deriving DecidableEq, Repr

/-- A catalog row: a registered file, or a reservation whose file is not there yet. -/
structure QueueRow where
  item : QueueItem
  registered : Bool
deriving DecidableEq, Repr

/-- The queue directory with its catalog and the cursor of the claiming scan. -/
structure QueueStore where
  rows : List (String × QueueRow) := []
  cursor : String := ""
deriving DecidableEq, Repr

/-- Where an interrupted write stops. -/
inductive WriteFault where
  | none
  | beforeReservation
  | afterReservation
  | afterFile
deriving DecidableEq, Repr

namespace QueueStore

/-- The reservations that wait for their file. -/
def pending (s : QueueStore) : List String :=
  (s.rows.filter fun row => !row.2.registered).map Prod.fst

def reserved (s : QueueStore) (id : String) : Bool :=
  ((s.rows.lookup id).map fun row => !row.registered).getD false

/-- A complete inventory, or the caller's own reservation, opens the catalog. -/
def catalog (s : QueueStore) (replayId : Option String) : Except Failure Unit :=
  if s.pending = [] ∨ (replayId.map s.reserved).getD false then .ok ()
  else .error (.queue "QUEUE_INVENTORY_PARTIAL")

def read (s : QueueStore) (id : String) : Except Failure QueueItem :=
  match s.rows.lookup id with
  | some ⟨item, true⟩ =>
    match item.fromFile with
    | some item => .ok item
    | none => .error (.queue "QUEUE_ITEM_CORRUPT")
  | _ => .error (.queue "QUEUE_ITEM_CORRUPT")

def rowTag (P : Platform) (row : QueueRow) : String :=
  queueTag P row.item.idempotencyKey row.item.sourceHostId

def findTag (P : Platform) (s : QueueStore) (tag : String) : Except Failure (Option String) :=
  match s.rows.filter fun row => rowTag P row.2 = tag with
  | [] => .ok none
  | [row] => .ok (some row.1)
  | _ => .error (.catalog "RUNTIME_DUPLICATE_MISMATCH")

/-- The item of a key and source host; the caller's own unwritten reservation is no item. -/
def existing (P : Platform) (s : QueueStore) (key host replayId : String) :
    Except Failure (Option QueueItem) := do
  s.catalog (some replayId)
  match ← s.findTag P (queueTag P key host) with
  | none => .ok none
  | some id => if id = replayId ∧ s.reserved id then .ok none else (s.read id).map some

/-- One catalog write: reservation, file, registration; a reservation is only replayed exactly,
and an interrupted replacement leaves the registered file as it was. -/
def write (s : QueueStore) (item : QueueItem) (fault : WriteFault) :
    QueueStore × Except Failure Unit :=
  match s.catalog (some item.queueId) with
  | .error e => (s, .error e)
  | .ok _ =>
    let put (registered : Bool) : QueueStore :=
      { s with rows := Dict.set item.queueId ⟨item, registered⟩ s.rows }
    let replay : Bool := s.reserved item.queueId
    if replay ∧ s.rows.lookup item.queueId ≠ some ⟨item, false⟩ then
      (s, .error (.catalog "RUNTIME_RETRY_MISMATCH"))
    else if s.pending.any (· ≠ item.queueId) then
      (s, .error (.catalog "RUNTIME_PREPARED_UNRESOLVED"))
    else
      match fault with
      | .none => (put true, .ok ())
      | .beforeReservation => (s, .error .os)
      | .afterReservation =>
        (if (s.rows.lookup item.queueId).isNone then put false else s, .error .os)
      | .afterFile => (put true, .error .os)

def advance (s : QueueStore) (id : String) : QueueStore :=
  { s with cursor := id }

end QueueStore

/-- The next ids after a cursor in ascending order, from the start when there are none. -/
def pageIds (ids : List String) (cursor : String) (limit : Nat) : List String :=
  let sorted := ids.insertionSort (· ≤ ·)
  let later := sorted.filter (cursor < ·)
  (if later.isEmpty then sorted else later).take limit

def QueueStore.page (s : QueueStore) (limit : Nat) : List String :=
  pageIds ((s.rows.filter fun row => row.2.registered).map Prod.fst) s.cursor limit

/-- The item a scan hands out for a stored one, if the stored one is due. -/
def claimedItem (settings : Settings) (worker : String) (moment lease : Int) (item : QueueItem) :
    Option QueueItem :=
  let expiredPending : Bool := item.payloadRef.any fun ref =>
    ref.purpose == .pending && ref.expiresAt.instant ≤ moment
  let stale : Bool := item.state ∈ QueueState.leased ∧ item.leaseExpiresAt.any (· ≤ moment)
  let catalog : Bool := item.state ∈ [QueueState.ready, .deferred, .failedRetryable]
  if item.state ∈ QueueState.terminal ∨ expiredPending ∨ !(stale || catalog) ∨
      item.nextEligibleAt.any (moment < ·) then none
  else some
    { item with
      state := .inProgress
      attempts := item.attempts + 1
      providerPreference := providerPreference settings (some item.providerPreference)
      leaseOwner := some worker
      leaseExpiresAt := some (moment + lease)
      lastErrorCode := none }

/-- Finished items whose bodies are still referred to are cleaned up by the first scan that
meets them after their cooldown. -/
def cleanupDue (moment : Int) (item : QueueItem) : Bool :=
  item.state ∈ QueueState.finished ∧ (item.payloadRef.isSome ∨ item.validatedResultRef.isSome) ∧
    item.nextEligibleAt.all (· ≤ moment)

inductive ClaimOutcome where
  | claimed (item : QueueItem)
  | cleanup (item : QueueItem) (rest : List String)
  | exhausted
  | failed (failure : Failure)

/-- What a claiming call does with the rest of its page. -/
structure ClaimCall where
  worker : String
  settings : Settings
  moment : Int
  lease : Int
  cleanupAttempted : Bool := false

def claimScan (call : ClaimCall) : List String → QueueStore → QueueStore × ClaimOutcome
  | [], s => (s, .exhausted)
  | id :: rest, s =>
    match s.read id with
    | .error _ => claimScan call rest (s.advance id)
    | .ok item =>
      if !call.cleanupAttempted && cleanupDue call.moment item then (s, .cleanup item rest)
      else
        match claimedItem call.settings call.worker call.moment call.lease item with
        | none => claimScan call rest (s.advance id)
        | some claimed =>
          match s.write claimed .none with
          | (s, .ok _) => (s.advance id, .claimed claimed)
          | (s, .error e) => (s, .failed e)

/-- The first critical section of a claim: it opens the catalog and takes a page. -/
def claimStart (call : ClaimCall) (limit : Nat) (s : QueueStore) : QueueStore × ClaimOutcome :=
  if call.worker = "" ∨ 120 < call.worker.length then (s, .failed (.queue "QUEUE_WORKER_INVALID"))
  else if call.lease ≤ 0 then (s, .failed (.queue "QUEUE_LEASE_INVALID"))
  else if limit = 0 then (s, .failed (.value "RUNTIME_PAGE_LIMIT_INVALID"))
  else
    match s.catalog none with
    | .error e => (s, .failed e)
    | .ok _ => claimScan call (s.page limit) s

structure TransitionArgs where
  settings : Settings
  moment : Int
  reasonCode : Option String
  nextEligibleAt : Option Int

/-- The arguments of a transition with the target its state text stands for. -/
structure TransitionCall extends TransitionArgs where
  target : QueueState

def expiryOfQuarantined (call : TransitionCall) (current : QueueItem) : Bool :=
  current.state = .quarantined ∧ call.target = .failedNeedsAttention ∧
    call.reasonCode = some "PENDING_EXPIRED" ∧ current.captureId.isSome ∧
    current.payloadRef.any fun ref =>
      ref.purpose == .pending && ref.expiresAt.instant ≤ call.moment

/-- Whether the table lets an item in a state go to the target. -/
def admits (call : TransitionCall) (current : QueueItem) : Bool :=
  call.target = current.state ∨ call.target ∈ current.state.allowedTransitions ∨
    expiryOfQuarantined call current

/-- Five minutes, in microseconds. -/
def cleanupDelay : Int :=
  300 * 1000000

/-- The item a transition writes over the stored one. -/
def transitionedItem (call : TransitionCall) (current : QueueItem) : QueueItem :=
  let finished : Bool := call.target ∈ QueueState.finished
  let withRefs : Bool :=
    finished ∧ (current.payloadRef.isSome ∨ current.validatedResultRef.isSome)
  let cleanupDue : Option Int :=
    if withRefs then
      some ((call.nextEligibleAt.orElse fun _ => current.nextEligibleAt).getD
        (call.moment + cleanupDelay))
    else none
  { current with
    state := call.target
    providerPreference :=
      providerPreference call.settings (some current.providerPreference)
    nextEligibleAt :=
      if finished then cleanupDue
      else if call.nextEligibleAt.isSome then call.nextEligibleAt
      else if call.target ∈ [QueueState.deferred, .failedRetryable, .ready] then
        current.nextEligibleAt
      else none
    leaseOwner := if call.target ∈ QueueState.leased then current.leaseOwner else none
    leaseExpiresAt := if call.target ∈ QueueState.leased then current.leaseExpiresAt else none
    lastErrorCode :=
      if call.reasonCode.isSome then call.reasonCode
      else if call.target = current.state ∧ finished then current.lastErrorCode
      else none }

/-- The first critical section of a transition: the table is asked for the caller's item and
again for the stored one. -/
def transitionStored (call : TransitionCall) (item : QueueItem) (s : QueueStore) :
    QueueStore × Except Failure QueueItem :=
  if !admits call item then (s, .error (.queue "QUEUE_TRANSITION_INVALID"))
  else
    match s.read item.queueId with
    | .error e => (s, .error e)
    | .ok current =>
      if current.idempotencyKey ≠ item.idempotencyKey then
        (s, .error (.queue "QUEUE_IDEMPOTENCY_COLLISION"))
      else if !admits call current then (s, .error (.queue "QUEUE_TRANSITION_INVALID"))
      else
        match s.write (transitionedItem call current) .none with
        | (s, .ok _) => (s, .ok (transitionedItem call current))
        | (s, .error e) => (s, .error e)

inductive RefField where
  | payload
  | validatedResult
deriving DecidableEq, Repr

namespace RefField

def get : RefField → QueueItem → Option SpoolRef
  | .payload, item => item.payloadRef
  | .validatedResult, item => item.validatedResultRef

def clear : RefField → QueueItem → QueueItem
  | .payload, item => { item with payloadRef := none }
  | .validatedResult, item => { item with validatedResultRef := none }

def other : RefField → RefField
  | .payload => .validatedResult
  | .validatedResult => .payload

end RefField

/-- A finished item without one of its references, due again while it has the other. -/
def clearedItem (moment : Int) (field : RefField) (current : QueueItem) : QueueItem :=
  { field.clear current with
    nextEligibleAt :=
      if (field.other.get current).isSome then some (moment + cleanupDelay) else none }

/-- The critical section after a body was deleted: the reference to it is cleared. -/
def cleanupField (target : QueueState) (moment : Int) (field : RefField) (ref : SpoolRef)
    (updated : QueueItem) (s : QueueStore) : QueueStore × Except Failure QueueItem :=
  match s.read updated.queueId with
  | .error e => (s, .error e)
  | .ok current =>
    if current.idempotencyKey ≠ updated.idempotencyKey ∨ current.state ≠ target then
      (s, .error (.queue "QUEUE_TERMINAL_CLEANUP_BINDING_INVALID"))
    else if field.get current = some ref then
      match s.write (clearedItem moment field current) .none with
      | (s, .ok _) => (s, .ok (clearedItem moment field current))
      | (s, .error e) => (s, .error e)
    else if field.get current = none then (s, .ok current)
    else (s, .error (.queue "QUEUE_TERMINAL_CLEANUP_BINDING_INVALID"))

def attachValidatedResult (item : QueueItem) (ref : SpoolRef) (s : QueueStore) :
    QueueStore × Except Failure QueueItem :=
  if ref.purpose ≠ .validatedResult then (s, .error (.queue "QUEUE_RESULT_PURPOSE_INVALID"))
  else if item.payloadRef.any fun p => p.expiresAt.instant < ref.expiresAt.instant then
    (s, .error (.queue "QUEUE_RESULT_EXPIRY_INVALID"))
  else
    match s.read item.queueId with
    | .error e => (s, .error e)
    | .ok current =>
      if current ≠ item ∨ current.state ≠ .inProgress then
        (s, .error (.queue "QUEUE_RESULT_CLAIM_CHANGED"))
      else
        match s.write { current with validatedResultRef := some ref } .none with
        | (s, .ok _) => (s, .ok { current with validatedResultRef := some ref })
        | (s, .error e) => (s, .error e)

end ExternalIntelligence
