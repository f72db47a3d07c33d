import ExternalIntelligence.Journal
import ExternalIntelligence.Reconciliation

namespace ExternalIntelligence
set_option autoImplicit true

/-- A dict as the program passes it around. -/
abbrev Fields := List (String × Value)

/-- The float nearest to a whole number, ties to the even one: 53 binary digits are kept. -/
def nearestFloat (n : Nat) : Nat :=
  let unit := 2 ^ (Nat.log2 n - 52)
  let rest := n % unit
  let digits := n / unit
  if unit < 2 * rest ∨ unit = 2 * rest ∧ digits % 2 = 1 then (digits + 1) * unit
  else digits * unit

/-- The exponent behind the e of a float's text. -/
def exponentOf : List Char → Option Int
  | [] => some 0
  | '-' :: digits => (decimal digits).map fun n => -Int.ofNat n
  | '+' :: digits => (decimal digits).map Int.ofNat
  | digits => (decimal digits).map Int.ofNat

/-- The whole part of a float, read off its text. -/
def wholePart (r : String) : Option Int := do
  let text := Text.chars r
  let digits := if text.head? = some '-' then text.drop 1 else text
  let mantissa := digits.takeWhile (· ≠ 'e')
  let whole := mantissa.takeWhile (· ≠ '.')
  let part := (mantissa.drop whole.length).drop 1
  let n ← decimal (whole ++ part)
  let exponent ← exponentOf (digits.drop (mantissa.length + 1))
  let size : Nat := match exponent - part.length with
    | .ofNat zeros => nearestFloat (n * 10 ^ zeros)
    | .negSucc places => n / 10 ^ (places + 1)
  pure (if text.head? = some '-' then -Int.ofNat size else Int.ofNat size)

/-- Python's int. -/
def pyInt (P : Platform) : Value → Except Raised Int
  | .bool b => .ok (if b then 1 else 0)
  | .int i => .ok i
  | .float r =>
    match wholePart r with
    | some i => .ok i
    | none => .error ⟨if r = "nan" then "ValueError" else "OverflowError", r⟩
  | .str s =>
    match P.intOfText s with
    | some i => .ok i
    | none => .error ⟨"ValueError", s⟩
  | _ => .error ⟨"TypeError", "int"⟩

/-- Python's list: the characters of a text and the keys of a dict are its items. -/
def pyList : Value → Except Raised (List Value)
  | .list items | .tuple items => .ok items
  | .str s => .ok ((Text.chars s).map fun c => .str (String.ofList [c]))
  | .dict fields => .ok ((Dict.keys fields).map .str)
  | _ => .error ⟨"TypeError", "list"⟩

/-- Python's or on values. -/
def valueOr (a b : Value) : Value :=
  if a.truthy then a else b

/-- The value of a key, or a default when it is missing. -/
def getOr (fields : Fields) (name : String) (default : Value) : Value :=
  (fields.lookup name).getD default

/-- The texts of the items that have one, each once. -/
def textItems (P : Platform) (items : List Value) : List String :=
  ((items.map (pyStr P)).filter (· ≠ "")).eraseDups

def isPatternEvent (event : Event) : Bool :=
  (Text.chars "pattern.").isPrefixOf (Text.chars event.eventType)

/-- The pattern an event names, if it names one by a text that is not empty. -/
def patternIdOf (payload : Fields) : Option String :=
  match payload.lookup "pattern_id" with
  | some (.str id) => if id = "" then none else some id
  | _ => none

/-- The state that the first event of a pattern starts from. -/
def initialState (P : Platform) (patternId : String) (payload : Fields) :
    Except Raised Fields := do
  let text (name : String) : Value := .str (pyStr P (getOr payload name (.str "")))
  let orText (name default : String) : Value :=
    .str (pyStr P (valueOr (getOr payload name (.str default)) (.str default)))
  let items (name : String) := pyList (getOr payload name (.tuple []))
  let count (name : String) := pyInt P (valueOr (getOr payload name (.int 0)) (.int 0))
  let provenances ← pyList
    (getOr payload "provenances" (getOr payload "evidence_refs" (.tuple [])))
  let scopes ← items "scopes"
  let applicability ← items "applicability"
  let benefitCount ← count "benefit_count"
  let contradictionCount ← count "contradiction_count"
  let revision ← count "revision"
  let applicableHostIds ← items "applicable_host_ids"
  let applicableHostFamilies ← items "applicable_host_families"
  pure
    [("pattern_id", .str patternId),
      ("cluster_id", .str (pyStr P (getOr payload "cluster_id" (.str patternId)))),
      ("status", .str "candidate"), ("rule", text "rule"),
      ("classification",
        .str (pyStr P (getOr payload "classification" (.str "private-reusable")))),
      ("provenances", .list provenances), ("scopes", .list scopes),
      ("applicability", .list applicability), ("benefit_count", .int benefitCount),
      ("contradiction_count", .int contradictionCount), ("precondition", text "precondition"),
      ("failure_mode", text "failure_mode"),
      ("version_constraint", getOr payload "version_constraint" .none),
      ("revision", .int revision), ("source_host_id", orText "source_host_id" ""),
      ("source_host_family", orText "source_host_family" ""),
      ("applicability_scope", orText "applicability_scope" "universal"),
      ("applicable_host_ids", .list applicableHostIds),
      ("applicable_host_families", .list applicableHostFamilies)]

def stateTextFields : List String :=
  ["cluster_id", "rule", "classification", "precondition", "failure_mode", "version_constraint",
    "source_host_id", "source_host_family", "applicability_scope"]

def stateListFields : List String :=
  ["provenances", "scopes", "applicability", "applicable_host_ids", "applicable_host_families"]

def stateCountFields : List String :=
  ["benefit_count", "contradiction_count", "revision"]

/-- A field of the payload that is there and not None replaces the one of the state. -/
def takePresent (payload state : Fields) (field : String) : Fields :=
  match payload.lookup field with
  | none | some .none => state
  | some value => Dict.set field value state

def takeItems (P : Platform) (payload state : Fields) (field : String) : Fields :=
  match (getOr payload field .none).items? with
  | none => state
  | some items => Dict.set field (.ofStrings (textItems P items)) state

def takeCount (P : Platform) (payload state : Fields) (field : String) : Fields :=
  match payload.lookup field with
  | none => state
  | some value =>
    match pyInt P value with
    | .ok count => Dict.set field (.int count) state
    | .error _ => Dict.set field (.int 0) state

/-- The status an event type gives a pattern. -/
def statusOfType : List (String × String) :=
  [("pattern.candidate_created", "candidate"), ("pattern.promoted", "active"),
    ("pattern.revised", "active"), ("pattern.deprecated", "deprecated"),
    ("pattern.superseded", "superseded"), ("pattern.tombstoned", "tombstoned")]

/-- The state of a pattern after one more of its events. -/
def replayed (P : Platform) (event : Event) (state : Fields) : Fields :=
  let payload := event.payload
  let state := stateTextFields.foldl (takePresent payload) state
  let state := stateListFields.foldl (takeItems P payload) state
  let state := stateCountFields.foldl (takeCount P payload) state
  let status := match statusOfType.lookup event.eventType with
    | some status => .str status
    | none => fieldOf state "status"
  Dict.set "status" status state

def statesStep (P : Platform) (result : List (String × Fields)) (event : Event) :
    Except Raised (List (String × Fields)) :=
  if !isPatternEvent event then .ok result
  else
    match patternIdOf event.payload with
    | none => .ok result
    | some patternId => do
      -- setdefault evaluates the default also when the key is there
      let initial ← initialState P patternId event.payload
      let state := (result.lookup patternId).getD initial
      pure (Dict.set patternId (replayed P event state) result)

/-- The loop of `_states` over its events in their order. -/
def replay (P : Platform) (events : List Event) : Except Raised (List (String × Fields)) :=
  (events.insertionSort eventLe).foldlM (statesStep P) []

/-- A dict of states; a pattern and its cluster may be two keys of one state. -/
structure StateMap where
  objects : List Fields
  keys : List (String × Nat)
deriving DecidableEq, Repr

def StateMap.find (states : StateMap) (key : String) : Option Fields :=
  (states.keys.lookup key).bind fun i => states.objects[i]?

/-- Writes a field of the state a key stands for, under every key that stands for it. -/
def StateMap.write (states : StateMap) (key field : String) (value : Value) : StateMap :=
  match states.keys.lookup key with
  | none => states
  | some i => { states with objects := states.objects.modify i (Dict.set field value) }

/-- Makes a key stand for a new state. -/
def StateMap.put (states : StateMap) (key : String) (state : Fields) : StateMap :=
  { objects := states.objects ++ [state]
    keys := Dict.set key states.objects.length states.keys }

/-- Lets the cluster of a state stand for it too, unless the name is taken. -/
def nameCluster (P : Platform) (keys : List (String × Nat)) (state : Fields × Nat) :
    List (String × Nat) :=
  let clusterId := pyStr P (getOr state.1 "cluster_id" (.str ""))
  if clusterId ≠ "" ∧ (keys.lookup clusterId).isNone then Dict.set clusterId state.2 keys else keys

def states (P : Platform) (events : List Event) : Except Raised StateMap :=
  (replay P events).map fun result =>
    let objects := result.map Prod.snd
    { objects
      keys := objects.zipIdx.foldl (nameCluster P) (Dict.keys result).zipIdx }

def validateProjectionHostFields (payload : Fields) : Except String Unit :=
  if hasHostField payload then (validateHostApplicabilityMapping payload false true).map fun _ => ()
  else .ok ()

def projectedFields : List String :=
  ["cluster_id", "rule", "provenances", "scopes", "applicability", "benefit_count",
    "classification", "precondition", "failure_mode", "version_constraint", "evidence_count",
    "contradiction_count", "pinned", "legal_hold", "source_host_id", "source_host_family",
    "applicability_scope", "applicable_host_ids", "applicable_host_families"]

/-- The pattern that the first event of a projection starts from. -/
def initialPattern (P : Platform) (patternId : String) (event : Event) :
    Except Raised Fields := do
  let payload := event.payload
  let items (name : String) := pyList (getOr payload name (.tuple []))
  let count (name : String) := pyInt P (valueOr (getOr payload name (.int 0)) (.int 0))
  let provenances ← items "provenances"
  let scopes ← items "scopes"
  let applicability ← items "applicability"
  let benefitCount ← count "benefit_count"
  let contradictionCount ← count "contradiction_count"
  let applicableHostIds ← items "applicable_host_ids"
  let applicableHostFamilies ← items "applicable_host_families"
  pure
    [("pattern_id", .str patternId), ("cluster_id", getOr payload "cluster_id" (.str "")),
      ("rule", getOr payload "rule" (.str "")), ("provenances", .list provenances),
      ("scopes", .list scopes), ("applicability", .list applicability),
      ("benefit_count", .int benefitCount),
      ("classification", getOr payload "classification" (.str "private-reusable")),
      ("status", .str "candidate"), ("precondition", getOr payload "precondition" (.str "")),
      ("failure_mode", getOr payload "failure_mode" (.str "")),
      ("version_constraint", getOr payload "version_constraint" .none),
      ("evidence_count", .int provenances.length), ("updated_at", .str event.occurredAt),
      ("contradiction_count", .int contradictionCount),
      ("pinned", .bool (getOr payload "pinned" (.bool false)).truthy),
      ("legal_hold", .bool (getOr payload "legal_hold" (.bool false)).truthy),
      ("source_host_id", getOr payload "source_host_id" (.str "")),
      ("source_host_family", getOr payload "source_host_family" (.str "")),
      ("applicability_scope", getOr payload "applicability_scope" (.str "universal")),
      ("applicable_host_ids", .list applicableHostIds),
      ("applicable_host_families", .list applicableHostFamilies)]

/-- What the type of an event changes in a projected pattern. -/
def projectLifecycle (P : Platform) (event : Event) (current : Fields) : Except Raised Fields :=
  let payload := event.payload
  if event.eventType = "pattern.candidate_created" then
    .ok (Dict.set "status" (.str "candidate") current)
  else if event.eventType = "pattern.promoted" then
    .ok (Dict.set "status" (.str "active") current)
  else if event.eventType = "pattern.revised" then
    let revision := valueOr (getOr payload "revision" (getOr current "revision" (.int 0))) (.int 0)
    (pyInt P revision).map fun revision =>
      Dict.set "revision" (.int revision) (Dict.set "status" (.str "active") current)
  else if event.eventType = "pattern.deprecated" then
    .ok (Dict.set "deprecated_at" (.str event.occurredAt)
      (Dict.set "status" (.str "deprecated") current))
  else if event.eventType = "pattern.superseded" then
    .ok (Dict.set "superseded_by"
      (valueOr (getOr payload "replacement_pattern_id" .none)
        (getOr payload "superseded_by" (.str "")))
      (Dict.set "status" (.str "superseded") current))
  else if event.eventType = "pattern.tombstoned" then
    .ok (Dict.set "tombstoned_at" (.str event.occurredAt)
      (Dict.set "status" (.str "tombstoned") current))
  else .ok current

def applyPatternEvent (P : Platform) (patterns : List (String × Fields)) (event : Event) :
    Except Raised (List (String × Fields)) :=
  match patternIdOf event.payload with
  | none => .ok patterns
  | some patternId => do
    let initial ← initialPattern P patternId event
    let current := (patterns.lookup patternId).getD initial
    let current := projectedFields.foldl (takePresent event.payload) current
    let current := Dict.set "updated_at" (.str event.occurredAt) current
    let current ← projectLifecycle P event current
    pure (Dict.set patternId current patterns)

/-- The part of the projection loop that is about patterns. -/
def projectStep (P : Platform) (patterns : List (String × Fields)) (event : Event) :
    Except Raised (List (String × Fields)) :=
  match validateProjectionHostFields event.payload with
  | .error text => .error ⟨"ValueError", text⟩
  | .ok _ => if isPatternEvent event then applyPatternEvent P patterns event else .ok patterns

def projectPatterns (P : Platform) (events : List Event) :
    Except Raised (List (String × Fields)) :=
  (events.insertionSort eventLe).foldlM (projectStep P) []

/-- The loop variables of `_apply_pattern_events`. -/
structure LifecycleReplay where
  records : List (String × ClusterRecord)
  exposureCounts : List (String × Nat) := []
  exposureTimes : List (String × String) := []

/-- The host fields of a record after an event that may carry its own. -/
def replayedHost (payload : Fields) (host : HostFields) : Except String HostFields :=
  if hasHostField payload then hostApplicabilityFields payload false true else .ok host

/-- A payload field as text, and the given text when it is missing. -/
def textOr (P : Platform) (payload : Fields) (name default : String) : String :=
  pyStr P (getOr payload name (.str default))

/-- What a candidate, promotion or revision event changes in the state of a record. -/
def describe (P : Platform) (payload : Fields) (state : ClusterState) :
    Except String ClusterState :=
  (replayedHost payload state.host).map fun host =>
    { state with
      rule := textOr P payload "rule" state.rule
      classification := textOr P payload "classification" state.classification
      host }

/-- A candidate or promotion event also names the pattern. -/
def namePattern (P : Platform) (payload : Fields) (status : String) (state : ClusterState) :
    ClusterState :=
  { state with
    status
    patternId := some (textOr P payload "pattern_id" (state.patternId.getD "")) }

/-- What the type of an event changes in a record. -/
def changeRecord (P : Platform) (event : Event) (record : ClusterRecord) :
    Except String ClusterRecord :=
  let payload := event.payload
  let state := record.state
  if event.eventType = "pattern.candidate_created" then
    (describe P payload state).map fun state =>
      { record with state := namePattern P payload "candidate" state }
  else if event.eventType = "pattern.promoted" then
    (describe P payload state).map fun state =>
      { record with state := namePattern P payload "active" state }
  else if event.eventType = "pattern.revised" then
    ((pyInt P (getOr payload "revision" (.int 0))).mapError Raised.type).bind fun revision =>
      (describe P payload state).map fun state =>
        { record with state, revision := max record.revision revision.toNat }
  else if event.eventType = "pattern.deprecated" then
    .ok { record with
      state := { state with status := "deprecated", deprecatedAt := some event.occurredAt } }
  else if event.eventType = "pattern.superseded" then
    let replacement := getOr payload "replacement_pattern_id"
      (getOr payload "superseded_by" (.str ""))
    .ok { record with
      state :=
        { state with
          status := "superseded"
          supersededBy := some (pyStr P replacement)
          replacementActive := (getOr payload "replacement_active" (.bool false)).truthy } }
  else if event.eventType = "pattern.tombstoned" then
    .ok { record with state := { state with status := "tombstoned" } }
  else .ok record

def applyToRecord (P : Platform) (event : Event) (record : ClusterRecord) :
    Except String ClusterRecord :=
  (changeRecord P event record).map fun changed =>
    { changed with canonicalRule := canonicalRule P record.observations }

def LifecycleReplay.step (P : Platform) (r : LifecycleReplay) (event : Event) :
    Except String LifecycleReplay :=
  let clusterId := textOr P event.payload "cluster_id" ""
  match r.records.lookup clusterId with
  | none => .ok r
  | some record =>
    if event.eventType = "pattern.exposed" ∨ event.eventType = "pattern.used" then
      let patternId := textOr P event.payload "pattern_id" ""
      .ok
        { r with
          exposureCounts :=
            Dict.set patternId ((r.exposureCounts.lookup patternId).getD 0 + 1) r.exposureCounts
          exposureTimes :=
            Dict.set clusterId
              (max ((r.exposureTimes.lookup clusterId).getD "") event.occurredAt) r.exposureTimes }
    else
      (applyToRecord P event record).map fun record =>
        { r with records := Dict.set clusterId record r.records }

/-- A record with the exposures of its pattern. -/
def LifecycleReplay.expose (r : LifecycleReplay) (record : ClusterRecord) : ClusterRecord :=
  match record.state.patternId with
  | none | some "" => record
  | some patternId =>
    let last := max (record.state.lastUsedAt.getD "")
      ((r.exposureTimes.lookup record.state.clusterId).getD "")
    { record with
      state :=
        { record.state with
          exposureCount := (r.exposureCounts.lookup patternId).getD 0
          lastUsedAt := if last = "" then none else some last } }

def applyPatternEvents (P : Platform) (records : List (String × ClusterRecord))
    (events : List Event) : Except String (List (String × ClusterRecord)) :=
  (events.foldlM (LifecycleReplay.step P) { records }).map fun r =>
    r.records.map fun entry => (entry.1, r.expose entry.2)

end ExternalIntelligence
