import ExternalIntelligence.CaptureLedger
import ExternalIntelligence.Json
import ExternalIntelligence.Persistable

namespace ExternalIntelligence
set_option autoImplicit true

/-- The floats of the Python runtime, each by its JSON text. -/
structure Floats where
  float : Value → Except Raised String
  isInteger : String → Bool
  isNegative : String → Bool
  /-- What int makes of a float. -/
  trunc : String → Int
  /-- What the text of a number with a fraction or an exponent is read as. -/
  real : String → String

structure MeasurementPlatform extends Platform, Floats

def rawMeasurementFields : List String :=
  ["prompt", "response", "query", "raw_query", "transcript", "tool_output", "raw_tool_output",
    "content", "raw_content", "claim", "message"]

def metricNames : List String :=
  ["repeated_search", "rework", "failure", "uncached_input", "cached_input",
    "turns_to_completion", "tool_calls", "retrieval_latency_ms", "incorrect_pattern_application",
    "explicit_correction", "privacy_incident"]

def measuredNames : List String :=
  metricNames ++ ["completion"]

def knowledgeScopes : List String :=
  ["personal", "team"]

def measurementError (field code : String) : Raised :=
  valueError ("MEASUREMENT_" ++ String.ofList ((Text.chars field).map Char.toUpper) ++ "_" ++ code)

def isMeasurementId (text : String) : Bool :=
  let chars := Text.chars text
  !chars.isEmpty && chars.length ≤ 160 &&
    chars.all fun c => isAsciiLetter c || Text.isDigit c || (Text.chars "_.:-").contains c

/-- A digest, which earlier builds cut to twelve digits. -/
def isMeasurementHash (text : String) : Bool :=
  let digits := (Text.chars text).drop 7
  (Text.chars text).take 7 == Text.chars "sha256:" && 12 ≤ digits.length &&
    digits.length ≤ 64 && digits.all isLowerHex

def zulu (P : Platform) (instant : Int) : String :=
  String.ofList (Text.replace (Text.chars "+00:00") ['Z'] (Text.chars (P.isoformat instant)))

def measurementTimestamp (P : Platform) (now : Int) (value : String) : Except Raised String :=
  if value = "" then .ok (zulu P now)
  else
    match P.fromisoformat value with
    | none => .error (measurementError "timestamp" "INVALID")
    | some moment =>
      if moment.aware then .ok (zulu P moment.instant)
      else .error (measurementError "timestamp" "TIMEZONE_REQUIRED")

def hashIdentifier (P : Platform) (value field : String) (allowEmpty : Bool) :
    Except Raised String :=
  if value = "" then if allowEmpty then .ok "" else .error (measurementError field "REQUIRED")
  else if isMeasurementHash value || (field == "exposure_id" &&
      (Text.chars "exp_").isPrefixOf (Text.chars value) && isMeasurementId value) then .ok value
  else .ok (fingerprint P (.str value))

/-- An item of a list that is to have no empty ones. -/
def hashItem (P : Platform) (item : Value) (field : String) : Except Raised String :=
  if item = .none then .error (measurementError field "REQUIRED")
  else hashIdentifier P (pyStr P item) field false

def labelMarkers : List String :=
  ["authorization:", "bearer ", "api_key", "token="]

/-- A text that starts as a path from a root or a drive. -/
def startsAtRoot : List Char → Bool
  | '/' :: _ | '\\' :: _ => true
  | c :: ':' :: d :: _ => isAsciiLetter c && (d == '\\' || d == '/')
  | _ => false

def safeLabel (P : Platform) (value : Value) (field default : String) : Except Raised String :=
  let text := if value = .none ∨ pyStr P value = "" then default else pyStr P value
  let chars := Text.chars text
  if 160 < chars.length || chars.contains '\x00' || startsAtRoot chars ||
      labelMarkers.any fun marker => Text.contains (Text.chars marker) (P.casefold chars) then
    .error (measurementError field "INVALID")
  else .ok text

def safeIdList (P : Platform) (value : Value) : Except Raised (List String) :=
  match value with
  | .none => .ok []
  | .list items | .tuple items =>
    if (items.map (pyStr P)).all isMeasurementId then .ok (sortedSet (items.map (pyStr P)))
    else .error (measurementError "knowledge_id" "INVALID")
  | _ => .error (measurementError "id_list" "INVALID")

def safeScopeList (P : Platform) (value : Value) (count : Nat) (field : String) :
    Except Raised (List String) :=
  match value with
  | .none | .str "" | .tuple [] | .list [] => .ok []
  | .list items | .tuple items =>
    let values := items.map (pyStr P)
    if values.length ≠ count ∨ !values.all knowledgeScopes.contains then
      .error (measurementError field "INVALID")
    else .ok values
  | _ => .error (measurementError field "INVALID")

/-- The number a value gives, an int if it is integral; none is kept where it is allowed. -/
def measurementNumber (M : MeasurementPlatform) (value : Value) (field : String)
    (allowNone : Bool) : Except Raised Value :=
  if value = .none ∨ value = .str "" then
    if allowNone then .ok .none else .error (measurementError field "REQUIRED")
  else
    match M.float value with
    | .error raised =>
      if raised.type = "TypeError" ∨ raised.type = "ValueError" then
        .error (measurementError field "INVALID")
      else .error raised
    | .ok number =>
      if !isFinite number || M.isNegative number then .error (measurementError field "INVALID")
      else .ok (if M.isInteger number then .int (M.trunc number) else .float number)

/-- What int makes of a number. -/
def wholeOf (M : MeasurementPlatform) : Value → Int
  | .int i => i
  | .float number => M.trunc number
  | _ => 0

def safeSources (P : Platform) (value : Value) : Except Raised Fields :=
  match value with
  | .none => .ok []
  | .dict fields =>
    (fields.foldlM (fun (result : Fields) field =>
      if metricNames.contains field.1 then
        (safeLabel P field.2 (field.1 ++ "_source") "").map fun source =>
          Dict.set field.1 (.str source) result
      else .ok result) []).map Value.sortFields
  | _ => .error (measurementError "metric_sources" "INVALID")

def rejectRawMapping (P : Platform) (value : Fields) : Except Raised Unit :=
  refuse ((Dict.keys value).any fun key =>
    (texts rawMeasurementFields).contains (P.casefold (Text.chars key)))
    (measurementError "raw_field" "FORBIDDEN")

/-- What an exposure is made from. -/
structure ExposureArguments where
  experimentId : String
  sessionIdHash : String
  queryFingerprint : String := ""
  arm : String := "control"
  candidateIds : Value := .tuple []
  selectedIds : Value := .tuple []
  injectedChars : Value := .int 0
  retrievalLatencyMs : Value := .int 0
  hostId : String := "unknown"
  observedAt : String := ""
  protocolHash : String := ""
  taskIdHash : String := ""
  modelFamily : String := "unknown"
  domain : String := ""
  eligible : Bool := true
  shadowRetrieval : Bool := true
  contextInjected : Bool := false
  contamination : Bool := false
  source : String := "recall"
  hostInstanceHash : String := ""
  exposureId : String := ""
  candidateKnowledgeIds : Value := .tuple []
  selectedKnowledgeIds : Value := .tuple []
  candidateScopes : Value := .tuple []
  selectedScopes : Value := .tuple []
  emptyResult : Bool := false
  teamUnavailable : Bool := false
  scope : String := ""

structure ExposureRecord where
  exposureId : String
  experimentId : String
  protocolHash : String
  sessionIdHash : String
  taskIdHash : String
  queryFingerprint : String
  arm : String
  candidateIds : List String
  selectedIds : List String
  injectedChars : Int
  retrievalLatencyMs : Int
  hostId : String
  hostInstanceHash : String
  modelFamily : String
  domain : String
  observedAt : String
  eligible : Bool
  shadowRetrieval : Bool
  contextInjected : Bool
  contamination : Bool
  source : String
  candidateScopes : List String
  selectedScopes : List String
  emptyResult : Bool
  teamUnavailable : Bool
  scope : String
deriving DecidableEq, Repr

/-- The task of a record that does not name one. -/
def taskIdentifier (P : Platform) (task experiment session observed : String) :
    Except Raised String :=
  (hashIdentifier P task "task_id_hash" true).bind fun found =>
    if found = "" then
      hashIdentifier P (experiment ++ ":" ++ session ++ ":" ++ observed) "task_id_hash" false
    else .ok found

/-- The scope that the scopes of some candidates amount to. -/
def commonScope (scopes : List String) : String :=
  match scopes.dedup with
  | [] => "personal"
  | [scope] => scope
  | _ => "mixed"

namespace ExposureRecord

/-- The fields that an exposure without an identifier gets one from. -/
def material (r : ExposureRecord) : Value :=
  .dict
    [("experiment_id", .str r.experimentId), ("session_id_hash", .str r.sessionIdHash),
      ("task_id_hash", .str r.taskIdHash), ("query_fingerprint", .str r.queryFingerprint),
      ("arm", .str r.arm), ("candidate_ids", .ofStrings r.candidateIds),
      ("selected_ids", .ofStrings r.selectedIds),
      ("candidate_scopes", .ofStrings r.candidateScopes),
      ("selected_scopes", .ofStrings r.selectedScopes), ("empty_result", .bool r.emptyResult),
      ("team_unavailable", .bool r.teamUnavailable), ("scope", .str r.scope),
      ("injected_chars", .int r.injectedChars),
      ("retrieval_latency_ms", .int r.retrievalLatencyMs), ("host_id", .str r.hostId),
      ("observed_at", .str r.observedAt), ("protocol_hash", .str r.protocolHash)]

/-- The record that arguments are normalised to, with the identifier that they give. -/
def normalise (M : MeasurementPlatform) (now : Int) (a : ExposureArguments) :
    Except Raised ExposureRecord := do
  let P := M.toPlatform
  refuse (a.experimentId == "" || 160 < (Text.chars a.experimentId).length)
    (measurementError "experiment_id" "INVALID")
  refuse (!(["control", "treatment"].contains a.arm)) (measurementError "arm" "INVALID")
  let session ← hashIdentifier P a.sessionIdHash "session_id_hash" false
  let task ← taskIdentifier P a.taskIdHash a.experimentId session a.observedAt
  let query ← hashIdentifier P a.queryFingerprint "query_fingerprint" true
  let candidates ← safeIdList P (valueOr a.candidateIds a.candidateKnowledgeIds)
  let selected ← safeIdList P (valueOr a.selectedIds a.selectedKnowledgeIds)
  let givenScopes ← safeScopeList P a.candidateScopes candidates.length "candidate_scopes"
  let candidateScopes :=
    if givenScopes.isEmpty then List.replicate candidates.length "personal" else givenScopes
  let givenSelected ← safeScopeList P a.selectedScopes selected.length "selected_scopes"
  let selectedScopes :=
    if givenSelected.isEmpty then
      selected.map fun item => ((candidates.zip candidateScopes).lookup item).getD "personal"
    else givenSelected
  let scope := orElse a.scope (commonScope candidateScopes)
  refuse (!(["personal", "team", "mixed"].contains scope)) (measurementError "scope" "INVALID")
  refuse (!selected.all candidates.contains) (measurementError "selected_id" "NOT_CANDIDATE")
  let injected ← measurementNumber M a.injectedChars "injected_chars" false
  let latency ← measurementNumber M a.retrievalLatencyMs "retrieval_latency_ms" false
  let observed ← measurementTimestamp P now a.observedAt
  let hostInstance ← hashIdentifier P a.hostInstanceHash "host_instance_hash" true
  let protocolHash ← safeLabel P (.str a.protocolHash) "protocol_hash" ""
  let source ← safeLabel P (.str a.source) "source" "recall"
  let hostId ← safeLabel P (.str a.hostId) "host_id" "unknown"
  let modelFamily ← safeLabel P (.str a.modelFamily) "model_family" "unknown"
  let domain ← safeLabel P (.str a.domain) "domain" ""
  let violatesControl :=
    a.arm == "control" && (!selected.isEmpty || 0 < wholeOf M injected || a.contextInjected)
  pure
    { exposureId := a.exposureId
      experimentId := a.experimentId
      protocolHash
      sessionIdHash := session
      taskIdHash := task
      queryFingerprint := query
      arm := a.arm
      candidateIds := candidates
      selectedIds := selected
      injectedChars := wholeOf M injected
      retrievalLatencyMs := wholeOf M latency
      hostId
      hostInstanceHash := hostInstance
      modelFamily
      domain
      observedAt := observed
      eligible := a.eligible
      shadowRetrieval := a.shadowRetrieval
      contextInjected := a.contextInjected
      contamination := a.contamination || violatesControl
      source
      candidateScopes
      selectedScopes
      emptyResult := a.emptyResult
      teamUnavailable := a.teamUnavailable
      scope }

/-- The record with an identifier: its own if it has one, else one from its content. -/
def identified (P : Platform) (r : ExposureRecord) : Except Raised ExposureRecord :=
  if r.exposureId = "" then
    .ok { r with exposureId := "exp_" ++ takeText 24 (stableHash P r.material) }
  else if !isMeasurementId r.exposureId then .error (measurementError "exposure_id" "INVALID")
  else .ok r

def create (M : MeasurementPlatform) (now : Int) (a : ExposureArguments) :
    Except Raised ExposureRecord :=
  (normalise M now a).bind (identified M.toPlatform)

def toDict (r : ExposureRecord) : Fields :=
  [("schema_version", .int 1), ("exposure_id", .str r.exposureId),
    ("experiment_id", .str r.experimentId), ("protocol_hash", .str r.protocolHash),
    ("session_id_hash", .str r.sessionIdHash), ("task_id_hash", .str r.taskIdHash),
    ("query_fingerprint", .str r.queryFingerprint), ("arm", .str r.arm), ("variant", .str r.arm),
    ("candidate_ids", .ofStrings r.candidateIds), ("selected_ids", .ofStrings r.selectedIds),
    ("injected_chars", .int r.injectedChars),
    ("retrieval_latency_ms", .int r.retrievalLatencyMs), ("host_id", .str r.hostId),
    ("host_instance_hash", .str r.hostInstanceHash), ("model_family", .str r.modelFamily),
    ("domain", .str r.domain), ("observed_at", .str r.observedAt), ("eligible", .bool r.eligible),
    ("shadow_retrieval", .bool r.shadowRetrieval), ("context_injected", .bool r.contextInjected),
    ("contamination", .bool r.contamination), ("source", .str r.source),
    ("candidate_scopes", .ofStrings r.candidateScopes),
    ("selected_scopes", .ofStrings r.selectedScopes), ("empty_result", .bool r.emptyResult),
    ("team_unavailable", .bool r.teamUnavailable), ("scope", .str r.scope)]

/-- The arguments that a mapping gives. -/
def arguments (P : Platform) (value : Fields) : ExposureArguments :=
  let text (name default : String) : String := textOr P value name default
  let flag (name : String) (default : Bool) : Bool := (getOr value name (.bool default)).truthy
  let textOf (value : Value) : String := pyStr P value
  { experimentId := text "experiment_id" ""
    protocolHash := text "protocol_hash" ""
    sessionIdHash := textOf (getOr value "session_id_hash" (getOr value "session_id" (.str "")))
    taskIdHash := textOf (getOr value "task_id_hash" (getOr value "task_id" (.str "")))
    queryFingerprint := text "query_fingerprint" ""
    arm := textOf (getOr value "arm" (getOr value "variant" (.str "control")))
    candidateIds := getOr value "candidate_ids" (getOr value "candidate_knowledge_ids" (.tuple []))
    selectedIds := getOr value "selected_ids" (getOr value "selected_knowledge_ids" (.tuple []))
    candidateScopes := getOr value "candidate_scopes" (.tuple [])
    selectedScopes := getOr value "selected_scopes" (.tuple [])
    emptyResult := flag "empty_result" false
    teamUnavailable := flag "team_unavailable" false
    scope := text "scope" ""
    injectedChars := getOr value "injected_chars" (.int 0)
    retrievalLatencyMs := getOr value "retrieval_latency_ms" (.int 0)
    hostId := textOf (getOr value "host_id" (getOr value "host" (.str "unknown")))
    hostInstanceHash := text "host_instance_hash" ""
    modelFamily := text "model_family" "unknown"
    domain := text "domain" ""
    observedAt := text "observed_at" ""
    eligible := flag "eligible" true
    shadowRetrieval := flag "shadow_retrieval" true
    contextInjected := flag "context_injected" false
    contamination := flag "contamination" false
    source := text "source" "recall"
    exposureId := text "exposure_id" "" }

def fromMapping (M : MeasurementPlatform) (now : Int) (value : Fields) :
    Except Raised ExposureRecord := do
  rejectRawMapping M.toPlatform value
  create M now (arguments M.toPlatform value)

end ExposureRecord

/-- What an outcome is made from; a metric that is not given is None. -/
structure OutcomeArguments where
  experimentId : String
  sessionIdHash : String
  taskIdHash : String := ""
  exposureId : String := ""
  observedAt : String := ""
  hostId : String := "unknown"
  hostInstanceHash : String := ""
  modelFamily : String := "unknown"
  domain : String := ""
  retryCount : Value := .int 0
  metrics : Fields := []
  metricSources : Value := .dict []
  provenance : Value := .tuple []
  source : String := "direct_outcome_events"
  contamination : Bool := false
  outcomeId : String := ""

structure OutcomeRecord where
  outcomeId : String
  experimentId : String
  sessionIdHash : String
  taskIdHash : String
  exposureId : String
  observedAt : String
  hostId : String
  hostInstanceHash : String
  modelFamily : String
  domain : String
  retryCount : Int
  metrics : Fields
  metricSources : Fields
  provenance : List String
  source : String
  contamination : Bool
deriving DecidableEq, Repr

namespace OutcomeRecord

/-- The identifier that the content of an outcome gives it. -/
def contentId (P : Platform) (r : OutcomeRecord) : String :=
  "out_" ++ takeText 24 (stableHash P (.dict
    [("experiment_id", .str r.experimentId), ("session_id_hash", .str r.sessionIdHash),
      ("task_id_hash", .str r.taskIdHash), ("exposure_id", .str r.exposureId),
      ("observed_at", .str r.observedAt), ("metrics", .dict r.metrics),
      ("metric_sources", .dict r.metricSources)]))

/-- A metric as it is kept: a number if it is one, else as it was given. -/
def normalMetric (M : MeasurementPlatform) (given : Fields) (name : String) :
    Except Raised (String × Value) :=
  let value := getOr given name .none
  (measurementNumber M value name true).map fun number =>
    (name, if number = .none then value else number)

/-- The record that arguments are normalised to, with the identifier that they give. -/
def normalise (M : MeasurementPlatform) (now : Int) (a : OutcomeArguments) :
    Except Raised OutcomeRecord := do
  let P := M.toPlatform
  refuse (a.experimentId == "") (measurementError "experiment_id" "INVALID")
  let session ← hashIdentifier P a.sessionIdHash "session_id_hash" false
  let task ← taskIdentifier P a.taskIdHash a.experimentId session a.observedAt
  let exposure ← hashIdentifier P a.exposureId "exposure_id" true
  let observed ← measurementTimestamp P now a.observedAt
  let retries ← measurementNumber M a.retryCount "retry_count" false
  let sources ← safeSources P a.metricSources
  let metrics ← measuredNames.mapM (normalMetric M a.metrics)
  let items ← pyList a.provenance
  let provenance ← (items.filter fun item => pyStr P item ≠ "").mapM fun item =>
    hashItem P item "provenance"
  let hostId ← safeLabel P (.str a.hostId) "host_id" "unknown"
  let hostInstance ← hashIdentifier P a.hostInstanceHash "host_instance_hash" true
  let modelFamily ← safeLabel P (.str a.modelFamily) "model_family" "unknown"
  let domain ← safeLabel P (.str a.domain) "domain" ""
  let source ← safeLabel P (.str a.source) "source" "direct_outcome_events"
  pure
    { outcomeId := a.outcomeId
      experimentId := a.experimentId
      sessionIdHash := session
      taskIdHash := task
      exposureId := exposure
      observedAt := observed
      hostId
      hostInstanceHash := hostInstance
      modelFamily
      domain
      retryCount := wholeOf M retries
      metrics
      metricSources := sources
      provenance := sortedSet provenance
      source
      contamination := a.contamination }

/-- The record with an identifier: its own if it has one, else one from its content. -/
def identified (P : Platform) (r : OutcomeRecord) : Except Raised OutcomeRecord :=
  if r.outcomeId = "" then .ok { r with outcomeId := r.contentId P }
  else if !isMeasurementId r.outcomeId then .error (measurementError "outcome_id" "INVALID")
  else .ok r

def create (M : MeasurementPlatform) (now : Int) (a : OutcomeArguments) :
    Except Raised OutcomeRecord :=
  (normalise M now a).bind (identified M.toPlatform)

/-- The fields of a metric that has a value, with its source if it has one. -/
def metricFields (sources : Fields) (metric : String × Value) : Fields :=
  if metric.2 = .none then []
  else
    let source := getOr sources metric.1 .none
    metric :: if source.truthy then [(metric.1 ++ "_source", source)] else []

def toDict (r : OutcomeRecord) : Fields :=
  [("schema_version", .int 1), ("outcome_id", .str r.outcomeId),
    ("experiment_id", .str r.experimentId), ("session_id_hash", .str r.sessionIdHash),
    ("task_id_hash", .str r.taskIdHash), ("exposure_id", .str r.exposureId),
    ("observed_at", .str r.observedAt), ("host_id", .str r.hostId),
    ("host_instance_hash", .str r.hostInstanceHash), ("model_family", .str r.modelFamily),
    ("domain", .str r.domain), ("retry_count", .int r.retryCount),
    ("metric_sources", .dict r.metricSources), ("provenance", .ofStrings r.provenance),
    ("source", .str r.source), ("contamination", .bool r.contamination)] ++
  r.metrics.flatMap (metricFields r.metricSources)

/-- The sources of a mapping, each overridden by a field of its own. -/
def mappedSources (value : Fields) : Fields :=
  let given := match getOr value "metric_sources" (.dict []) with
    | .dict fields => fields
    | _ => []
  measuredNames.foldl (fun (sources : Fields) name =>
    match value.lookup (name ++ "_source") with
    | none => sources
    | some source => Dict.set name source sources) given

/-- The arguments that a mapping gives; an identifier of the outcome is none of them. -/
def arguments (P : Platform) (value : Fields) : OutcomeArguments :=
  let text (name default : String) : String := textOr P value name default
  let textOf (value : Value) : String := pyStr P value
  { experimentId := text "experiment_id" ""
    sessionIdHash := textOf (getOr value "session_id_hash" (getOr value "session_id" (.str "")))
    taskIdHash := textOf (getOr value "task_id_hash" (getOr value "task_id" (.str "")))
    exposureId := text "exposure_id" ""
    observedAt := text "observed_at" ""
    hostId := textOf (getOr value "host_id" (getOr value "host" (.str "unknown")))
    hostInstanceHash := text "host_instance_hash" ""
    modelFamily := text "model_family" "unknown"
    domain := text "domain" ""
    retryCount := getOr value "retry_count" (.int 0)
    metrics := measuredNames.filterMap fun name =>
      (value.lookup name).map fun metric => (name, metric)
    metricSources := .dict (mappedSources value)
    provenance := getOr value "provenance" (.tuple [])
    source := text "source" "direct_outcome_events"
    contamination := (getOr value "contamination" (.bool false)).truthy }

def fromMapping (M : MeasurementPlatform) (now : Int) (value : Fields) :
    Except Raised OutcomeRecord := do
  rejectRawMapping M.toPlatform value
  create M now (arguments M.toPlatform value)

end OutcomeRecord

/-- The two kinds of measurements, each with a log of its own. -/
inductive MeasurementKind where
  | exposure
  | outcome
deriving DecidableEq, Repr

/-- The pieces of a log that end in a line feed, and what comes after the last one. -/
def logLines (text : List Char) : List (List Char) :=
  let pieces := text.splitOn '\n'
  if pieces.getLast? = some [] then pieces.dropLast else pieces

/-- Whether a line of a log holds a record of an identifier. -/
def holdsRecord (M : MeasurementPlatform) (recordId : String) (line : List Char) : Bool :=
  match Json.loads M.real line with
  | some (.dict item) =>
    pyStr M.toPlatform (getOr item "exposure_id" (getOr item "outcome_id" (.str ""))) == recordId
  | _ => false

/-- The text of a log after a record; there is no log before its first one. -/
def appendUnique (M : MeasurementPlatform) (log : Option (List Char)) (recordId : String)
    (value : Fields) : Option (List Char) :=
  let text := log.getD []
  if (logLines text).any (holdsRecord M recordId) then log
  else some (text ++ canonicalJson (.dict value) ++ ['\n'])

def recordExposure (M : MeasurementPlatform) (log : Option (List Char)) (record : ExposureRecord) :
    Option (List Char) :=
  appendUnique M log record.exposureId record.toDict

def recordOutcome (M : MeasurementPlatform) (log : Option (List Char)) (outcome : OutcomeRecord) :
    Option (List Char) :=
  appendUnique M log outcome.outcomeId outcome.toDict

/-- The row that a mapping of a log is read as. -/
def measurementRow (M : MeasurementPlatform) (now : Int) (kind : MeasurementKind)
    (value : Fields) : Except Raised Fields :=
  match kind with
  | .exposure => (ExposureRecord.fromMapping M now value).map ExposureRecord.toDict
  | .outcome => (OutcomeRecord.fromMapping M now value).map OutcomeRecord.toDict

/-- The row of a line, if it has one. -/
def measurementLine (M : MeasurementPlatform) (now : Int) (kind : MeasurementKind)
    (line : List Char) : Except Raised (List Fields) :=
  if (Text.strip line).isEmpty then .ok []
  else
    match Json.loads M.real line with
    | some (.dict value) =>
      match measurementRow M now kind value with
      | .ok row => .ok [row]
      | .error raised =>
        if raised.type = "TypeError" ∨ raised.type = "ValueError" then .ok [] else .error raised
    | _ => .ok []

def readMeasurementRecords (M : MeasurementPlatform) (now : Int) (kind : MeasurementKind)
    (log : Option (List Char)) : Except Raised (List Fields) :=
  match log with
  | none => .ok []
  | some text =>
    ((Text.splitlines text).mapM (measurementLine M now kind)).map List.flatten

end ExternalIntelligence
