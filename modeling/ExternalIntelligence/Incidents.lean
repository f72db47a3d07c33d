import ExternalIntelligence.CaptureLedger
import ExternalIntelligence.Machine

namespace ExternalIntelligence
set_option autoImplicit true

inductive Severity where
  | info
  | warning
  | error
  | critical
deriving DecidableEq, Repr

def Severity.rank : Severity → Nat
  | info => 0
  | warning => 1
  | error => 2
  | critical => 3

inductive IncidentStatus where
  | opened
  | resolved
  | historical
deriving DecidableEq, Repr

inductive LastResult where
  | success
  | failed
  | unknown
deriving DecidableEq, Repr

inductive DeliveryStatus where
  | sent
  | unavailable
  | denied
  | failed
deriving DecidableEq, Repr

inductive PendingCountStatus where
  | complete
  | partly
  | unknown
deriving DecidableEq, Repr

inductive Channel where
  | os
  | cli
deriving DecidableEq, Repr

def incidentStateCorrupt : Raised :=
  ⟨"IncidentStateError", "INCIDENT_STATE_CORRUPT"⟩

def dateOverflow : Raised :=
  ⟨"OverflowError", "date value out of range"⟩

def storageCodes : List String :=
  ["RUNTIME_ACCOUNTING_UNKNOWN", "RUNTIME_CAPACITY_UNKNOWN", "RUNTIME_CATALOG_MISSING",
    "RUNTIME_CATALOG_UNAVAILABLE", "RUNTIME_DELETE_UNCONFIRMED", "RUNTIME_DUPLICATE_MISMATCH",
    "RUNTIME_DUPLICATE_UNRESOLVED", "RUNTIME_ENTRY_CHANGED", "RUNTIME_ENTRY_TOO_LARGE",
    "RUNTIME_ENTRY_UNVERIFIED", "RUNTIME_INVENTORY_UNSAFE", "RUNTIME_MEMBERSHIP_UNKNOWN",
    "RUNTIME_PATH_INVALID", "RUNTIME_PREPARED_MISMATCH", "RUNTIME_PREPARED_UNRESOLVED",
    "RUNTIME_ROOT_INVENTORY_UNKNOWN", "RUNTIME_SHARD_INVENTORY_UNKNOWN",
    "RUNTIME_UPDATE_METADATA_UNKNOWN", "RUNTIME_WRITE_UNCONFIRMED", "STORAGE_UNAVAILABLE",
    "SPOOL_CAPACITY_UNKNOWN", "SPOOL_CAPACITY_UNVERIFIED", "SPOOL_KEY_UNAVAILABLE",
    "SPOOL_FULL", "SPOOL_TEMP_CLEANUP_UNCONFIRMED", "PENDING_STORAGE_UNAVAILABLE",
    "JOURNAL_BOUNDED_LIMIT", "JOURNAL_CORRUPT", "PROJECTION_STORAGE_LIMIT",
    "PROJECTION_GENERATION_UNOWNED", "PROJECTION_GENERATION_CONFLICT",
    "PROJECTION_ATTRIBUTES_CONFLICT", "PROJECTION_GENERATION_INVALID",
    "INDEX_GENERATION_EXPIRED", "INDEX_GENERATION_INVALID", "INDEX_FILE_HASH_MISMATCH",
    "CLOSEOUT_ASSOCIATION_PENDING", "CLOSEOUT_METADATA_UNKNOWN"]

def providerReasons : List String :=
  ["AUTH_FAILED", "AUTH_PENDING", "DEADLINE_EXCEEDED", "MALFORMED_RESPONSE",
    "NO_PROVIDER_AVAILABLE", "OPERATION_FAILED", "ORGANIZER_PROVIDER_NOT_CONFIGURED",
    "ORGANIZER_SELECTION_REQUIRED", "PERMISSION_DENIED", "PROVIDER_DISABLED",
    "PROVIDER_PERMISSION_DENIED", "PROVIDER_PROTOCOL_ERROR", "PROVIDER_RATE_LIMITED",
    "PROVIDER_TIMEOUT", "PROVIDER_UNAVAILABLE", "QUOTA_EXHAUSTED", "RATE_LIMITED",
    "SCHEMA_VIOLATION"]

def knownReasons : List String :=
  storageCodes ++ providerReasons ++
    ["ACCUMULATION_STALLED", "CAPACITY_RISK", "CLOSEOUT_RECOVERY_LOSS", "EXPIRY_CLEANUP_FAILED",
      "EXPIRY_RISK", "PENDING_EXPIRED", "SCHEDULER_STOPPED", "SOURCE_UNAVAILABLE"]

def notificationReasons : List String :=
  ["OS_ACCEPTED", "OS_UNAVAILABLE", "OS_DENIED", "OS_FAILED", "OS_TIMEOUT",
    "OS_RESPONSE_INVALID", "CLI_UNVERIFIED", "BUDGET_EXHAUSTED"]

/-- `inc_` and 32 lower-case hexadecimal digits. -/
def isIncidentId (s : String) : Bool :=
  isPrefixedHex "inc_" 32 s

/-- `[A-Za-z0-9][A-Za-z0-9_.:@-]{0,199}`, of components, sessions and deliveries. -/
def isIncidentLabel (s : String) : Bool :=
  safeLabelShape 199 (Text.chars s)

def isToken (s : String) : Bool :=
  (Text.chars s).length == 32 && (Text.chars s).all isLowerHex

def validPendingCount (count : Option Nat) (status : PendingCountStatus) : Bool :=
  if status = .unknown then count.isNone else count.isSome

structure HealthIssue where
  reasonCode : String
  componentId : String
  severity : Severity
  pendingCount : Option Nat
  pendingCountStatus : PendingCountStatus
  counted : validPendingCount pendingCount pendingCountStatus = true
deriving DecidableEq, Repr

def validDelivery (reasonCode deliveryId : Option String) : Bool :=
  (reasonCode.any fun reason => notificationReasons.contains reason) && deliveryId.all isIncidentLabel

structure DeliveryResult where
  status : DeliveryStatus
  reasonCode : String
  deliveryId : Option String
  valid : validDelivery (some reasonCode) deliveryId = true
deriving DecidableEq, Repr

/-- What is kept of the sends on a channel. -/
structure DeliverySnapshot where
  lastAttemptAt : Option Int := none
  lastSuccessAt : Option Int := none
  lastResult : Option LastResult := none
  successGeneration : Nat := 0
  successfulSessions : List String := []
  lastStatus : Option DeliveryStatus := none
  lastReasonCode : Option String := none
  deliveryId : Option String := none
  displayStatus : Option String := none
deriving DecidableEq, Repr

structure PersistedLease where
  token : String
  notificationGeneration : Nat
  occurrenceGeneration : Nat
  sessionHash : Option String
  previousDelivery : Option DeliverySnapshot
deriving DecidableEq, Repr

structure Delivery where
  snapshot : DeliverySnapshot := {}
  lease : Option PersistedLease := none
deriving DecidableEq, Repr

structure Incident where
  incidentId : String
  reasonFamily : String
  reasonCode : String
  componentId : String
  severity : Severity
  pendingCount : Option Nat
  pendingCountStatus : PendingCountStatus
  detectedAt : Int
  lastObservedAt : Int
  status : IncidentStatus
  resolvedAt : Option Int
  notificationGeneration : Nat
  occurrenceGeneration : Nat
  os : Delivery
  cli : Delivery
deriving DecidableEq, Repr

abbrev Incidents : Type :=
  List (String × Incident)

def Incident.delivery (value : Incident) : Channel → Delivery
  | .os => value.os
  | .cli => value.cli

def Incident.setDelivery (value : Incident) (channel : Channel) (delivery : Delivery) : Incident :=
  match channel with
  | .os => { value with os := delivery }
  | .cli => { value with cli := delivery }

structure NotificationLease where
  incidentId : String
  channel : Channel
  token : String
  notificationGeneration : Nat
  occurrenceGeneration : Nat
  sessionHash : Option String
  reasonCode : String
  pendingCount : Option Nat
  recovered : Bool
  pendingCountStatus : PendingCountStatus
deriving DecidableEq, Repr

/-- The last microsecond of the year 9999, counted from the year 1. -/
def lastInstant : Int :=
  3652059 * 86400 * 1000000 - 1

/-- A moment in UTC. -/
def incidentTimestamp (now : Int) : Except Raised Int :=
  if 0 ≤ now ∧ now ≤ lastInstant then .ok now else .error dateOverflow

def hourMicroseconds : Int :=
  3600 * 1000000

/-- A moment some hours after a recorded one. -/
def hoursAfter (recorded : Int) (hours : Int) : Except Raised Int :=
  if recorded + hours * hourMicroseconds ≤ lastInstant then
    .ok (recorded + hours * hourMicroseconds)
  else .error dateOverflow

def knownReason (value : String) : String :=
  if knownReasons.contains value then value else "OPERATION_FAILED"

/-- The stable family from which, with the component, incident ids are derived. -/
def familyOfReason (reasonCode : String) : String :=
  let reason := knownReason reasonCode
  if storageCodes.contains reason then "STORAGE_FAILURE"
  else if providerReasons.contains reason then "PROVIDER_FAILURE"
  else reason

def incidentId (P : Platform) (reasonCode componentId : String) : Except Raised String := do
  refuse (!isIncidentLabel componentId) (valueError "INCIDENT_COMPONENT_ID_INVALID")
  .ok ("inc_" ++ takeText 32
    (P.sha256 (Text.chars (familyOfReason reasonCode) ++ '\x00' :: Text.chars componentId)))

def validSnapshot (generation : Nat) (item : DeliverySnapshot) : Bool :=
  !(item.lastResult == some .unknown && item.lastAttemptAt.isNone) &&
    item.successGeneration ≤ generation && item.successfulSessions.all isIncidentLabel &&
    item.displayStatus.all (· == "UNVERIFIED") &&
    match item.lastStatus with
    | some _ => validDelivery item.lastReasonCode item.deliveryId
    | none => item.lastReasonCode.isNone && item.deliveryId.isNone

def validLease (channel : Channel) (generation : Nat) (item : DeliverySnapshot)
    (lease : PersistedLease) : Bool :=
  lease.previousDelivery.all (validSnapshot generation) && isToken lease.token &&
    1 ≤ lease.notificationGeneration && lease.notificationGeneration ≤ generation &&
    1 ≤ lease.occurrenceGeneration && lease.occurrenceGeneration ≤ generation &&
    lease.occurrenceGeneration ≤ lease.notificationGeneration &&
    (match channel with
      | .os => lease.sessionHash.isNone
      | .cli => lease.sessionHash.any isIncidentLabel) &&
    item.lastResult == some .unknown && item.lastAttemptAt.isSome

def validDeliveries (generation : Nat) (channel : Channel) (delivery : Delivery) : Bool :=
  validSnapshot generation delivery.snapshot &&
    delivery.lease.all (validLease channel generation delivery.snapshot)

def validIncident (P : Platform) (value : Incident) : Bool :=
  isIncidentId value.incidentId && isReasonCode value.reasonFamily &&
    isReasonCode value.reasonCode && knownReasons.contains value.reasonCode &&
    value.reasonFamily == familyOfReason value.reasonCode && isIncidentLabel value.componentId &&
    (match incidentId P value.reasonCode value.componentId with
      | .ok identifier => value.incidentId == identifier
      | .error _ => false) &&
    validPendingCount value.pendingCount value.pendingCountStatus &&
    ((value.status == .resolved) == value.resolvedAt.isSome) &&
    1 ≤ value.notificationGeneration && 1 ≤ value.occurrenceGeneration &&
    value.occurrenceGeneration ≤ value.notificationGeneration &&
    validDeliveries value.notificationGeneration .os value.os &&
    validDeliveries value.notificationGeneration .cli value.cli

def validateIncident (P : Platform) (value : Incident) : Except Raised Unit :=
  refuse (!validIncident P value) incidentStateCorrupt

/-- Every incident read, and every incident about to be written, is validated. -/
def validateIncidents (P : Platform) (incidents : Incidents) : Except Raised Unit :=
  incidents.forM fun item => validateIncident P item.2

def newIncident (P : Platform) (issue : HealthIssue) (reason : String) (now : Int) :
    Except Raised Incident := do
  let stamp ← incidentTimestamp now
  let identifier ← incidentId P reason issue.componentId
  .ok
    { incidentId := identifier
      reasonFamily := familyOfReason reason
      reasonCode := reason
      componentId := issue.componentId
      severity := issue.severity
      pendingCount := issue.pendingCount
      pendingCountStatus := issue.pendingCountStatus
      detectedAt := stamp
      lastObservedAt := stamp
      status := if reason = "PENDING_EXPIRED" then .historical else .opened
      resolvedAt := none
      notificationGeneration := 1
      occurrenceGeneration := 1
      os := {}
      cli := {} }

/-- The incident with what an issue says now. -/
def Incident.observe (value : Incident) (issue : HealthIssue) (stamp : Int) : Incident :=
  { value with
    pendingCount := issue.pendingCount
    pendingCountStatus := issue.pendingCountStatus
    lastObservedAt := stamp }

/-- A resolved incident that occurs again. -/
def Incident.reopen (value : Incident) (issue : HealthIssue) (reason : String) : Incident :=
  { value with
    notificationGeneration := value.notificationGeneration + 1
    status := .opened
    resolvedAt := none
    occurrenceGeneration := value.notificationGeneration + 1
    severity := issue.severity
    reasonCode := reason
    reasonFamily := familyOfReason reason
    cli := { value.cli with snapshot := { value.cli.snapshot with successfulSessions := [] } } }

/-- A standing incident takes the severity and the reason of a graver issue, or of one that says
more. -/
def Incident.escalate (value : Incident) (issue : HealthIssue) (reason : String) : Incident :=
  let graver := value.severity.rank < issue.severity.rank
  let generation := if graver then value.notificationGeneration + 1 else value.notificationGeneration
  if graver ∨ issue.severity.rank = value.severity.rank ∧ value.reasonCode = "OPERATION_FAILED" then
    { value with
      notificationGeneration := generation
      severity := issue.severity
      reasonCode := reason
      reasonFamily := familyOfReason reason }
  else { value with notificationGeneration := generation }

def mergeObservation (existing : Incident) (issue : HealthIssue) (reason : String) (now : Int) :
    Except Raised Incident := do
  let stamp ← incidentTimestamp now
  if existing.status = .resolved then .ok ((existing.reopen issue reason).observe issue stamp)
  else .ok ((existing.escalate issue reason).observe issue stamp)

def Incident.resolve (value : Incident) (stamp : Int) : Incident :=
  { value with
    status := .resolved
    resolvedAt := some stamp
    notificationGeneration := value.notificationGeneration + 1 }

/-- Issues by severity, reason and component. -/
def issueLe (a b : HealthIssue) : Bool :=
  if a.severity.rank ≠ b.severity.rank then decide (a.severity.rank < b.severity.rank)
  else if a.reasonCode ≠ b.reasonCode then decide (a.reasonCode < b.reasonCode)
  else decide (a.componentId ≤ b.componentId)

/-- One issue is merged into the incident it belongs to, or starts one. -/
def observeIssue (P : Platform) (now : Int) (incidents : Incidents) (issue : HealthIssue) :
    Except Raised Incidents := do
  let reason := knownReason issue.reasonCode
  let identifier ← incidentId P reason issue.componentId
  match incidents.lookup identifier with
  | some existing => do
    let merged ← mergeObservation existing issue reason now
    .ok (Dict.set identifier merged incidents)
  | none => do
    let created ← newIncident P issue reason now
    .ok (Dict.set identifier created incidents)

def seenIdentifiers (P : Platform) (issues : List HealthIssue) : List String :=
  issues.filterMap fun issue =>
    (incidentId P (knownReason issue.reasonCode) issue.componentId).toOption

def resolveIncident (now : Int) (incidents : Incidents) (identifier : String) :
    Except Raised Incidents :=
  match incidents.lookup identifier with
  | none => .ok incidents
  | some existing =>
    if existing.status = .opened then do
      let stamp ← incidentTimestamp now
      .ok (Dict.set identifier (existing.resolve stamp) incidents)
    else .ok incidents

def updateIncidents (P : Platform) (stored : Incidents) (issues : List HealthIssue) (now : Int)
    (verifiedResolutions : List String) : Except Raised Incidents := do
  validateIncidents P stored
  let observed ← (issues.insertionSort fun a b => issueLe a b).foldlM (observeIssue P now) stored
  let resolvable := (verifiedResolutions.filter fun item =>
    isIncidentId item && !(seenIdentifiers P issues).contains item).dedup
  let incidents ← resolvable.foldlM (resolveIncident now) observed
  validateIncidents P incidents
  .ok incidents

/-- Whether the last attempt on a channel failed, or did not settle, less than an hour ago. -/
def inRetryWindow (item : DeliverySnapshot) (now : Int) : Except Raised Bool :=
  match item.lastAttemptAt with
  | none => .ok false
  | some attemptAt =>
    if item.lastResult = some .failed ∨ item.lastResult = some .unknown then do
      let retryAt ← hoursAfter attemptAt 1
      .ok (decide (now < retryAt))
    else .ok false

/-- Whether a channel is to be notified outside its retry window. -/
def generationDue (value : Incident) (channel : Channel) (item : DeliverySnapshot) (now : Int) :
    Except Raised Bool :=
  if value.status = .resolved then
    .ok (item.lastSuccessAt.isSome && value.occurrenceGeneration ≤ item.successGeneration &&
      item.successGeneration < value.notificationGeneration)
  else if value.severity = .info then .ok false
  else if item.successGeneration < value.notificationGeneration then .ok true
  else if value.status = .historical then .ok false
  else if channel = .cli then .ok true
  else match item.lastSuccessAt with
    | none => .ok true
    | some successAt => do
      let repeatAt ← hoursAfter successAt 24
      .ok (decide (repeatAt ≤ now))

def channelDue (value : Incident) (channel : Channel) (sessionHash : Option String) (now : Int) :
    Except Raised Bool := do
  let item := (value.delivery channel).snapshot
  if channel = .cli ∧ sessionHash.any (item.successfulSessions.contains ·) then .ok false
  else do
    let waiting ← inRetryWindow item now
    if waiting then .ok false else generationDue value channel item now

def notificationDue (P : Platform) (value : Incident) (channel : Channel)
    (sessionHash : Option String) (now : Int) : Except Raised Bool := do
  validateIncident P value
  if channel = .cli ∧ sessionHash = none then .ok false
  else do
    refuse (channel == .cli && !sessionHash.all isIncidentLabel)
      (valueError "INCIDENT_SESSION_HASH_INVALID")
    channelDue value channel sessionHash now

def Incident.lease (value : Incident) (identifier token : String) (channel : Channel)
    (sessionHash : Option String) : NotificationLease :=
  { incidentId := identifier
    channel
    token
    notificationGeneration := value.notificationGeneration
    occurrenceGeneration := value.occurrenceGeneration
    sessionHash
    reasonCode := value.reasonCode
    pendingCount := value.pendingCount
    recovered := value.status == .resolved
    pendingCountStatus := value.pendingCountStatus }

/-- The incident with an attempt on a channel that has not settled. -/
def Incident.claim (value : Incident) (token : String) (channel : Channel)
    (sessionHash : Option String) (stamp : Int) : Incident :=
  let previous := (value.delivery channel).snapshot
  value.setDelivery channel
    { snapshot :=
        { previous with
          lastAttemptAt := some stamp
          lastResult := some .unknown
          lastStatus := none
          lastReasonCode := none
          deliveryId := none
          displayStatus := some "UNVERIFIED" }
      lease := some
        { token
          notificationGeneration := value.notificationGeneration
          occurrenceGeneration := value.occurrenceGeneration
          sessionHash
          previousDelivery := some previous } }

def claimNotification (P : Platform) (token : String) (stored : Incidents) (identifier : String)
    (channel : Channel) (sessionHash : Option String) (now : Int) :
    Except Raised (Option (NotificationLease × Incidents)) := do
  refuse (!isIncidentId identifier) (valueError "INCIDENT_ID_INVALID")
  refuse (channel == .os && sessionHash.isSome) (valueError "INCIDENT_SESSION_HASH_INVALID")
  validateIncidents P stored
  match stored.lookup identifier with
  | none => .ok none
  | some value => do
    if ← notificationDue P value channel sessionHash now then do
      let stamp ← incidentTimestamp now
      let claimed := value.claim token channel sessionHash stamp
      validateIncident P claimed
      .ok (some (value.lease identifier token channel sessionHash, Dict.set identifier claimed stored))
    else .ok none

/-- The lease on a channel of an incident is the one that was handed out, and neither generation has
changed. -/
def matchingLease (value : Incident) (lease : NotificationLease) : Option PersistedLease :=
  match (value.delivery lease.channel).lease with
  | none => none
  | some persisted =>
    if persisted.token = lease.token ∧
        persisted.notificationGeneration = lease.notificationGeneration ∧
        persisted.occurrenceGeneration = lease.occurrenceGeneration ∧
        persisted.sessionHash = lease.sessionHash ∧
        value.notificationGeneration = lease.notificationGeneration ∧
        value.occurrenceGeneration = lease.occurrenceGeneration
    then some persisted else none

/-- A send that never started gives the earlier attempt back, without its lease. -/
def abortNotification (P : Platform) (stored : Incidents) (lease : NotificationLease) :
    Except Raised (Option Incidents) := do
  validateIncidents P stored
  match stored.lookup lease.incidentId with
  | none => .ok none
  | some value =>
    match (matchingLease value lease).bind (·.previousDelivery) with
    | none => .ok none
    | some previous => do
      let restored := value.setDelivery lease.channel { snapshot := previous }
      validateIncident P restored
      .ok (some (Dict.set lease.incidentId restored stored))

def DeliverySnapshot.settle (item : DeliverySnapshot) (result : DeliveryResult) :
    DeliverySnapshot :=
  { item with
    lastResult := some (if result.status = .sent then .success else .failed)
    lastStatus := some result.status
    lastReasonCode := some result.reasonCode
    deliveryId := result.deliveryId
    displayStatus := some "UNVERIFIED" }

def DeliverySnapshot.succeed (item : DeliverySnapshot) (lease : NotificationLease) (stamp : Int) :
    DeliverySnapshot :=
  { item with
    lastSuccessAt := some stamp
    successGeneration := lease.notificationGeneration
    successfulSessions :=
      match lease.channel, lease.sessionHash with
      | .cli, some session =>
        if item.successfulSessions.contains session then item.successfulSessions
        else item.successfulSessions ++ [session]
      | _, _ => item.successfulSessions }

/-- The sends on a channel after a lease has settled. -/
def settledSnapshot (item : DeliverySnapshot) (lease : NotificationLease) (result : DeliveryResult)
    (now : Int) : Except Raised DeliverySnapshot :=
  if result.status = .sent then do
    let stamp ← incidentTimestamp now
    .ok ((item.settle result).succeed lease stamp)
  else .ok (item.settle result)

def settleNotification (P : Platform) (stored : Incidents) (lease : NotificationLease)
    (result : DeliveryResult) (now : Int) : Except Raised (Option Incidents) := do
  validateIncidents P stored
  match stored.lookup lease.incidentId with
  | none => .ok none
  | some value =>
    if (matchingLease value lease).isSome then do
      let item := (value.delivery lease.channel).snapshot
      refuse item.lastAttemptAt.isNone incidentStateCorrupt
      refuse (item.lastAttemptAt.any fun attempted => decide (now < attempted))
        (valueError "INCIDENT_SETTLEMENT_TIME_INVALID")
      let snapshot ← settledSnapshot item lease result now
      let settled := value.setDelivery lease.channel { snapshot }
      validateIncident P settled
      .ok (some (Dict.set lease.incidentId settled stored))
    else .ok none

/-- The state file, and how many tokens have been drawn. -/
structure IncidentWorld where
  incidents : Incidents := []
  drawn : Nat := 0
deriving DecidableEq, Repr

/-- A call that holds the lock of the state file. One that fails before its write, or that never
gets the lock, changes nothing and is not listed. -/
inductive IncidentCall where
  | update (issues : List HealthIssue) (now : Int) (verifiedResolutions : List String)
  | claim (identifier : String) (channel : Channel) (sessionHash : Option String) (now : Int)
  | settle (lease : NotificationLease) (result : DeliveryResult) (now : Int)
  | abort (lease : NotificationLease)
deriving DecidableEq, Repr

inductive IncidentAnswer where
  | incidents (copied : Incidents)
  | lease (lease : Option NotificationLease)
  | changed (done : Bool)
  | raised (error : Raised)
deriving DecidableEq, Repr

namespace IncidentCall

/-- What a call answers and the incidents it leaves. -/
def perform (P : Platform) (token : String) (stored : Incidents) :
    IncidentCall → Except Raised (IncidentAnswer × Incidents)
  | update issues now verified =>
    (updateIncidents P stored issues now verified).map fun incidents =>
      (.incidents incidents, incidents)
  | claim identifier channel sessionHash now =>
    (claimNotification P token stored identifier channel sessionHash now).map fun
      | none => (.lease none, stored)
      | some (lease, incidents) => (.lease (some lease), incidents)
  | settle lease result now =>
    (settleNotification P stored lease result now).map fun
      | none => (.changed false, stored)
      | some incidents => (.changed true, incidents)
  | abort lease =>
    (abortNotification P stored lease).map fun
      | none => (.changed false, stored)
      | some incidents => (.changed true, incidents)

end IncidentCall

def incidentMachine (P : Platform) (uuid : Nat → String) :
    Machine IncidentWorld IncidentCall IncidentAnswer where
  step w call :=
    match call.perform P (uuid w.drawn) w.incidents with
    | .ok (answer, incidents) => ({ incidents, drawn := w.drawn + 1 }, answer)
    | .error error => ({ w with drawn := w.drawn + 1 }, .raised error)

end ExternalIntelligence
