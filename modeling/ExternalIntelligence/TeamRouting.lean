import ExternalIntelligence.ChangesetApply
import ExternalIntelligence.TeamStore

namespace ExternalIntelligence
set_option autoImplicit true

/-- The team store as this machine is set up for it; the root is the resolved one. -/
structure TeamDescriptor where
  enabled : Bool := true
  root : Option String
  storeId : String
  memberId : String
  writerId : String
deriving DecidableEq, Repr

structure TeamSettings where
  team : Option TeamDescriptor
  machineIdHash : Option String := none
  spoolTtlSeconds : Nat := 7 * 24 * 60 * 60
deriving DecidableEq, Repr

inductive RoutingStatus where
  | eligible
  | notEligible
  | deferred
  | failed
deriving DecidableEq, Repr

/-- A frozen eligibility decision. -/
structure PreparedTeamRouting where
  schemaVersion : Int := 1
  status : RoutingStatus
  reasonCode : String
  normalizedPayload : Option (List (String × Value))
  teamStoreId : String
  teamMemberId : String
  writerId : String
  teamRootHash : Option String
  actorHash : Option String
  machineHash : Option String
  preparedAt : String
deriving DecidableEq, Repr

structure TeamRoutingDecision where
  status : RoutingStatus
  reasonCode : String
  personalEventHash : String
  teamStoreId : String
  normalizedPayload : Option (List (String × Value)) := none
  deliveryEventId : Option String := none
  deliveryEventHash : Option String := none
  receiptId : Option String := none
  receiptStatus : Option OutboxStatus := none
  teamRootHash : Option String := none
deriving DecidableEq, Repr

def routingFields : List String :=
  ["title", "claim", "scope", "preconditions", "failure_modes", "benefit", "classification"]

def stripText (s : String) : String :=
  String.ofList (Text.strip (Text.chars s))

/-- The stripped texts of a list field, each once, if it is a list of texts that are not blank. -/
def routingTexts (value : Value) : Option (List Value) := do
  let items ← value.items?
  if items.isEmpty || !items.all fun item => item.isStr && stripText (item.strOr "") != "" then none
  else some ((items.map fun item => Value.str (stripText (item.strOr ""))).eraseDups)

/-- Checks a provider's payload and gives it in its normal form. -/
def validateRoutingPayload (P : Platform) (value : List (String × Value)) :
    Except Raised (List (String × Value)) := do
  let error := teamError "TEAM_ROUTING_RESPONSE_INVALID"
  refuse (!hasKeys value routingFields) error
  let text (name : String) := (fieldOf value name).strOr ""
  let length (name : String) := (Text.chars (text name)).length
  refuse (!nonemptyText (fieldOf value "title") || 160 < length "title") error
  refuse (!(fieldOf value "claim").isStr || length "claim" < 20 || 1200 < length "claim") error
  let lists ← ["scope", "preconditions", "failure_modes"].mapM fun name =>
    match routingTexts (fieldOf value name) with
    | some items => .ok (name, Value.list items)
    | none => .error error
  refuse (!nonemptyText (fieldOf value "benefit") ||
    !(["public", "private-reusable"].contains (text "classification"))) error
  let result := lists ++ [("title", .str (stripText (text "title"))),
    ("claim", .str (stripText (text "claim"))), ("benefit", .str (stripText (text "benefit"))),
    ("classification", .str (text "classification"))]
  match inspectPersistable P (.dict result) (text "classification") none (512 * 1024) with
    | issue :: _ => .error (teamError issue.reasonCode)
    | [] => pure ()
  let joined := Text.chars ((fieldOf result "title").strOr "") ++ ['\n'] ++
    Text.chars ((fieldOf result "claim").strOr "") ++ ['\n'] ++
    Text.chars ((fieldOf result "benefit").strOr "")
  let privacy := inspectText P joined (text "classification") (Text.chars "team-routing")
  refuse (!(["CLASSIFIED", "GENERALIZATION_VERIFIED"].contains privacy.reasonCode))
    (teamError "TEAM_ROUTING_PRIVACY_REJECTED")
  pure result

/-- The binding of a decision: all of its fields, or none. -/
structure TeamBinding where
  teamStoreId : String := ""
  teamMemberId : String := ""
  writerId : String := ""
  teamRootHash : Option String := none
  actorHash : Option String := none
  machineHash : Option String := none
deriving DecidableEq, Repr

def teamRootHash (P : Platform) (root : String) : Except Raised String :=
  domainHash P root "team-root"

def bindingFields (P : Platform) (settings : TeamSettings) (descriptor : Option TeamDescriptor) :
    Except Raised TeamBinding :=
  match descriptor with
  | none => .ok {}
  | some descriptor =>
    let rootHash := descriptor.root.bind fun root => (teamRootHash P root).toOption
    let memberId := stripText descriptor.memberId
    let writerId := stripText descriptor.writerId
    match rootHash with
    | none => .ok {}
    | some rootHash =>
      if isTeamStoreId descriptor.storeId && isTeamMemberId memberId && isTeamWriterId writerId &&
          rootHash != "" then do
        let actorHash ← domainHash P memberId "team-member-actor"
        let machineHash ← domainHash P
          (orElse (settings.machineIdHash.getD "") P.machineId) "team-machine"
        pure ⟨descriptor.storeId, memberId, writerId, some rootHash, some actorHash,
          some machineHash⟩
      else .ok {}

def PreparedTeamRouting.binding (prepared : PreparedTeamRouting) : TeamBinding :=
  ⟨prepared.teamStoreId, prepared.teamMemberId, prepared.writerId, prepared.teamRootHash,
    prepared.actorHash, prepared.machineHash⟩

/-- The instant of a UTC stamp in its canonical form. -/
def preparedMoment (P : Platform) (stamp : String) : Option Int :=
  if 40 < (Text.chars stamp).length || !(Text.chars "Z").isSuffixOf (Text.chars stamp) then none
  else
    match P.fromisoformat stamp with
    | none => none
    | some moment =>
      if moment.aware && P.isoformat moment.instant == stamp then some moment.instant else none

def validatePreparedTeamRouting (P : Platform) (prepared : PreparedTeamRouting) : Bool :=
  let hashes := [prepared.teamRootHash, prepared.actorHash, prepared.machineHash]
  let identity := prepared.teamStoreId != "" && prepared.teamMemberId != "" &&
    prepared.writerId != ""
  prepared.schemaVersion == 1 && isReasonCode prepared.reasonCode &&
    hashes.all (fun hash => hash.all isHash) && identity == hashes.all Option.isSome &&
    (!identity || isTeamStoreId prepared.teamStoreId && isTeamMemberId prepared.teamMemberId &&
      isTeamWriterId prepared.writerId) &&
    (preparedMoment P prepared.preparedAt).isSome &&
    match prepared.status, prepared.normalizedPayload with
    | .eligible, some normalized =>
      identity &&
        match validateRoutingPayload P normalized with
        | .ok payload => sameFields payload normalized
        | .error _ => false
    | .eligible, none => false
    | _, normalized => normalized.isNone

def currentBindingMatches (P : Platform) (prepared : PreparedTeamRouting)
    (settings : TeamSettings) : Except Raised Bool := do
  let current ← bindingFields P settings settings.team
  pure (settings.team.any (·.enabled) && current == prepared.binding)

/-- The key of the event a personal event becomes in a team store. -/
def teamIdempotencyKey (P : Platform) (personalEventHash storeId : String) :
    Except Raised String :=
  domainHash P (personalEventHash ++ storeId) "team-event-idempotency"

def someOr (error : Raised) : Option α → Except Raised α
  | some a => .ok a
  | none => .error error

/-- The event of a decision, with the identifier its instant and its key determine. -/
def preparedEvent (T : TeamPlatform) (prepared : PreparedTeamRouting)
    (personalEventHash : String) : Except Raised Event := do
  let normalized ← someOr (teamError "TEAM_PREPARE_INVALID") prepared.normalizedPayload
  let origin ← domainHash T.toPlatform personalEventHash "personal-event-origin"
  let key ← teamIdempotencyKey T.toPlatform personalEventHash prepared.teamStoreId
  let parsed ← someOr (teamError "Invalid isoformat string") (T.fromisoformat prepared.preparedAt)
  let moment := parsed.instant
  let payload := Dict.set "idempotency_key" (.str key) (Dict.set "origin_event_hash" (.str origin)
    (Dict.set "knowledge_scope" (.str "team") normalized))
  pure
    { eventId := "evt_" ++ T.strftime "%Y%m%dT%H%M%S%fZ" moment ++ "_" ++
        takeText 12 (String.ofList ((Text.chars key).drop 7))
      eventType := "team.knowledge.recorded"
      occurredAt := T.isoformat moment
      actor := prepared.actorHash.getD "None"
      machineId := prepared.machineHash.getD "None"
      payload
      schemaVersion := 2
      idempotencyKey := key
      integrity := [("algorithm", .str "sha256"),
        ("canonical_payload_hash", .str (canonicalPayloadHash T.toPlatform payload))] }

/-- `evt_changeset_` and 32 hexadecimal digits. -/
def isPersonalEventId (s : String) : Bool :=
  let digits := (Text.chars s).drop 14
  (Text.chars "evt_changeset_").isPrefixOf (Text.chars s) && digits.length == 32 &&
    digits.all isLowerHex

def personalEventsValid (eventIds : List String) : Bool :=
  2 ≤ eventIds.length && eventIds.length ≤ 65 && decide eventIds.Nodup &&
    eventIds.all isPersonalEventId

end ExternalIntelligence
