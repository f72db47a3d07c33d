import ExternalIntelligence.Changeset
import ExternalIntelligence.Dedup
import ExternalIntelligence.PatternReplay

namespace ExternalIntelligence
set_option autoImplicit true

/-- What recall takes from the Python runtime beside the platform: Unicode digits and the
conversions of floats. A date without an offset is read as UTC. -/
structure RecallPlatform extends Platform where
  /-- The value of a decimal digit of any script. -/
  decimalDigit : Char → Option Nat
  floatOfText : String → Option Float
  floatOfInt : Int → Except Raised Float
  intOfFloat : Float → Except Raised Int
  /-- The quotient of two integers. -/
  trueDivide : Int → Int → Float
  roundTo : Float → Nat → Float

structure RetrievalQuery where
  prompt : String := ""
  cwdFingerprint : String := ""
  domain : String := ""
  nowUtc : Option String := none
  scopeTags : List String := []
  hostId : String := ""
  hostFamily : String := ""
  version : String := ""
  queryText : String := ""
  cwdHash : String := ""
  now : Option String := none
deriving DecidableEq, Repr

def RetrievalQuery.text (query : RetrievalQuery) : String :=
  orElse query.prompt query.queryText

def RetrievalQuery.effectiveCwd (query : RetrievalQuery) : String :=
  orElse query.cwdFingerprint query.cwdHash

def RetrievalQuery.effectiveNow (query : RetrievalQuery) : Option String :=
  if query.nowUtc.any (· ≠ "") then query.nowUtc else query.now

structure RetrievalPolicy where
  lexicalRelevance : Float := 0.35
  scopeMatch : Float := 0.20
  evidenceStrength : Float := 0.15
  freshness : Float := 0.10
  observedBenefit : Float := 0.10
  minScore : Float := 0.35
  maxResults : Nat := 5
  hostApplicability : Float := 0.05
  priorSuccess : Float := 0.05
  freshnessHalfLifeDays : Nat := 365
  allowCrossHost : Bool := false

/-- The fields of a pattern that recall reads. -/
structure PatternState where
  patternId : String
  rule : String
  precondition : String := ""
  scope : String := ""
  evidenceIds : List String := []
  benefitRefs : List String := []
  versionConstraint : Option String := none
  status : String := "active"
  classification : String := "private-reusable"
  clusterId : String := ""
  applicability : List String := []
  updatedAt : Option String := none
  contradictionCount : Int := 0
  host : HostFields := {}

inductive RawPattern where
  | mapping (fields : Fields)
  | state (pattern : PatternState)
  | other

def tupleOf (texts : List String) : Value :=
  .tuple (texts.map .str)

def patternMapping : RawPattern → Except Raised Fields
  | .mapping fields => .ok fields
  | .state pattern => .ok [("pattern_id", .str pattern.patternId),
      ("cluster_id", .str (orElse pattern.clusterId pattern.patternId)),
      ("rule", .str pattern.rule), ("precondition", .str pattern.precondition),
      ("scope", .str pattern.scope), ("evidence_ids", tupleOf pattern.evidenceIds),
      ("benefit_refs", tupleOf pattern.benefitRefs),
      ("version_constraint", (pattern.versionConstraint.map Value.str).getD .none),
      ("status", .str pattern.status), ("classification", .str pattern.classification),
      ("applicability", tupleOf pattern.applicability),
      ("updated_at", (pattern.updatedAt.map Value.str).getD .none),
      ("contradiction_count", .int pattern.contradictionCount),
      ("source_host_id", .str pattern.host.sourceHostId),
      ("source_host_family", .str pattern.host.sourceHostFamily),
      ("applicability_scope", .str pattern.host.applicabilityScope),
      ("applicable_host_ids", tupleOf pattern.host.applicableHostIds),
      ("applicable_host_families", tupleOf pattern.host.applicableHostFamilies)]
  | .other => .error ⟨"TypeError", "PATTERN_REQUIRED"⟩

def asTokens (P : Platform) (text : String) : Finset (List Char) :=
  tokenizeSimilarity P (Text.chars text)

/-- The texts of some fields that are not blank, each once. -/
def valuesOf (P : Platform) (pattern : Fields) (names : List String) : List String :=
  (names.flatMap fun name =>
    let items : List Value := match getOr pattern name (.tuple []) with
      | .str s => [.str s]
      | value => value.items?.getD []
    (items.map (pyStr P)).filter fun text => !(Text.strip (Text.chars text)).isEmpty).eraseDups

/-- The instant of a date. -/
def parseDate (P : Platform) (value : Value) : Option Int :=
  if value.truthy then
    (P.fromisoformat (String.ofList
      (Text.replace ['Z'] (Text.chars "+00:00") (Text.chars (pyStr P value))))).map (·.instant)
  else none

def scopeScore (P : Platform) (query : RetrievalQuery) (pattern : Fields) : Float :=
  let cwdValues := valuesOf P pattern ["cwd_fingerprints", "cwd_hashes", "scopes"]
  let applicability := valuesOf P pattern ["applicability", "scope_tags", "domains"]
  if cwdValues.isEmpty && applicability.isEmpty then 0.50
  else if query.effectiveCwd != "" && cwdValues.contains query.effectiveCwd then 1.0
  else if query.domain != "" && applicability.contains query.domain then 0.90
  else if query.scopeTags.any applicability.contains then 0.80
  else 0.0

def scopeAllowed (P : Platform) (query : RetrievalQuery) (pattern : Fields) : Bool :=
  let cwdValues := valuesOf P pattern ["cwd_fingerprints", "cwd_hashes"]
  let applicability := valuesOf P pattern ["applicability", "scope_tags", "domains"]
  if query.effectiveCwd != "" && !cwdValues.isEmpty && !cwdValues.contains query.effectiveCwd then
    false
  else if query.domain != "" && !applicability.isEmpty && !applicability.contains query.domain &&
      !applicability.contains "general" then
    false
  else if !query.scopeTags.isEmpty && !applicability.isEmpty &&
      !query.scopeTags.any applicability.contains && !applicability.contains "general" then
    false
  else true

def legacyHostSelectorFields : List String :=
  ["host_ids", "hosts", "host_applicability"]

def hostValues (P : Platform) (pattern : Fields) : List String :=
  valuesOf P pattern legacyHostSelectorFields

def newHostScopePresent (pattern : Fields) : Bool :=
  hasHostField pattern

def legacyHostSelectorNonempty (pattern : Fields) : Bool :=
  legacyHostSelectorFields.any fun field =>
    match pattern.lookup field with
    | none | some .none => false
    | some (.str s) => !(Text.strip (Text.chars s)).isEmpty
    | some (.list items) | some (.tuple items) => !items.isEmpty
    | some _ => true

def isEmptyList : Option Value → Bool
  | some (.list items) | some (.tuple items) => items.isEmpty
  | _ => false

def legacyDefaultHostScope (pattern : Fields) : Bool :=
  pattern.lookup "source_host_id" == some (.str "") &&
    pattern.lookup "source_host_family" == some (.str "") &&
    pattern.lookup "applicability_scope" == some (.str "universal") &&
    isEmptyList (pattern.lookup "applicable_host_ids") &&
    isEmptyList (pattern.lookup "applicable_host_families")

def validatedHostScope (pattern : Fields) : Option HostApplicability :=
  if !hasAllHostFields pattern then none
  else if legacyHostSelectorNonempty pattern then none
  else
    match validateHostApplicabilityMapping pattern true true with
    | .ok scope => some scope
    | .error _ =>
      if !legacyDefaultHostScope pattern then none
      else (validateHostApplicabilityMapping pattern true false).toOption

def hostScopeAllowed (P : Platform) (query : RetrievalQuery) (pattern : Fields) : Bool :=
  if newHostScopePresent pattern then
    match validatedHostScope pattern with
    | none => false
    | some scope =>
      if scope.scope = "universal" then true
      else if scope.scope = "family" then
        query.hostFamily != "" && scope.hostFamilies.contains query.hostFamily
      else query.hostId != "" && scope.hostIds.contains query.hostId
  else
    let hosts := hostValues P pattern
    hosts.isEmpty || (query.hostId != "" && hosts.contains query.hostId)

def hostAllowed (P : Platform) (query : RetrievalQuery) (pattern : Fields)
    (policy : RetrievalPolicy) : Bool :=
  if newHostScopePresent pattern then hostScopeAllowed P query pattern
  else if hostScopeAllowed P query pattern then true
  else !(hostValues P pattern).isEmpty && policy.allowCrossHost

def hostScore (P : Platform) (query : RetrievalQuery) (pattern : Fields) : Float :=
  let hosts := hostValues P pattern
  if hosts.isEmpty then 1.0
  else if query.hostId != "" && hosts.contains query.hostId then 1.0
  else 0.0

/-- The numbers of a version, the first of them begun. -/
def versionFrom (digit : Char → Option Nat) (n : Nat) : List Char → List Nat
  | [] => [n]
  | c :: cs =>
    match digit c with
    | some d => versionFrom digit (10 * n + d) cs
    | none =>
      match cs with
      | [] => [n]
      | e :: rest =>
        if c = '.' then
          match digit e with
          | some d => n :: versionFrom digit d rest
          | none => [n]
        else [n]

/-- The first run of numbers joined by dots. -/
def versionTuple (P : RecallPlatform) (value : List Char) : Option (List Nat) :=
  match value.dropWhile fun c => (P.decimalDigit c).isNone with
  | [] => none
  | c :: cs => some (versionFrom P.decimalDigit ((P.decimalDigit c).getD 0) cs)

/-- The operator a version constraint starts with, `==` when it starts with none. -/
def versionOperator (part : List Char) : String × List Char :=
  match [">=", "<=", "!=", ">", "<", "="].find? fun op => (Text.chars op).isPrefixOf part with
  | none => ("==", part)
  | some op => (op, Text.strip (part.drop (Text.chars op).length))

/-- Whether a version meets one part of a constraint that is not blank. -/
def versionPartAllowed (P : RecallPlatform) (actual : List Nat) (part : List Char) : Bool :=
  let (operator, part) := versionOperator part
  if (Text.chars ".*").isSuffixOf part || (Text.chars ".x").isSuffixOf (P.casefold part) then
    match versionTuple P (part.take (part.length - 2)) with
    | none => false
    | some expected => actual.take expected.length == expected
  else
    match versionTuple P part with
    | none => false
    | some expected =>
      let right := expected ++ List.replicate (actual.length - expected.length) 0
      if operator = "=" ∨ operator = "==" then actual == right
      else if operator = "!=" then actual != right
      else if operator = ">=" then decide ¬actual < right
      else if operator = "<=" then decide ¬right < actual
      else if operator = ">" then decide (right < actual)
      else decide (actual < right)

def versionAllowed (P : RecallPlatform) (query : RetrievalQuery) (pattern : Fields) : Bool :=
  let own := getOr pattern "version_constraint" .none
  let constraint := if own.truthy then own else getOr pattern "version" .none
  if !constraint.truthy then true
  else if query.version = "" then false
  else
    match versionTuple P (Text.chars query.version) with
    | none => false
    | some actual =>
      (((Text.chars (pyStr P.toPlatform constraint)).splitOn ',').map Text.strip).all fun part =>
        part.isEmpty || versionPartAllowed P actual part

/-- The first of some fields that is a number or the text of one. -/
def numeric (P : RecallPlatform) (pattern : Fields) (names : List String) (default : Float) :
    Except Raised Float :=
  names.foldr (fun name rest =>
    match pattern.lookup name with
    | some (.int i) => P.floatOfInt i
    | some (.float text) | some (.str text) =>
      match P.floatOfText text with
      | some x => .ok x
      | none => rest
    | _ => rest) (.ok default)

def claimFingerprintOf (P : Platform) (pattern : Fields) : String :=
  let claim := ["claim", "rule", "title"].foldr (fun name rest =>
    let value := getOr pattern name .none
    if value.truthy then pyStr P value else rest) ""
  "sha256:" ++ claimFingerprint P (Text.chars claim)

def inactiveStatuses : List String :=
  ["deprecated", "tombstoned", "superseded", "inactive", "archived"]

def eligible (P : RecallPlatform) (query : RetrievalQuery) (pattern : Fields)
    (policy : RetrievalPolicy) : Except Raised Bool :=
  let status := P.casefold (Text.chars (pyStr P.toPlatform (getOr pattern "status" (.str "active"))))
  let classification :=
    pyStr P.toPlatform (getOr pattern "classification" (.str "private-reusable"))
  if (getOr pattern "pattern_id" .none).strOr "" = "" then .ok false
  else if inactiveStatuses.any fun s => Text.chars s == status then .ok false
  else if !(["public", "private-reusable"].contains classification) then .ok false
  else
    (numeric P pattern ["contradiction_count"] 0).map fun contradictions =>
      if 0 < contradictions then false
      else scopeAllowed P.toPlatform query pattern &&
        hostAllowed P.toPlatform query pattern policy && versionAllowed P query pattern

/-- The mappings of the patterns that are eligible, in order. -/
def eligiblePatterns (P : RecallPlatform) (query : RetrievalQuery) (policy : RetrievalPolicy) :
    List RawPattern → Except Raised (List Fields)
  | [] => .ok []
  | raw :: rest => do
    let pattern ← patternMapping raw
    let chosen ← eligible P query pattern policy
    let rest ← eligiblePatterns P query policy rest
    pure (if chosen then pattern :: rest else rest)

/-- The smaller of two numbers as Python takes it: the first unless the second is less. -/
def pyMin (x y : Float) : Float :=
  if y < x then y else x

def pyMax (x y : Float) : Float :=
  if x < y then y else x

def documentTokens (P : Platform) (pattern : Fields) : Finset (List Char) :=
  asTokens P (" ".intercalate (["rule", "title", "claim", "domain"].map fun name =>
    pyStr P (getOr pattern name (.str ""))))

def bm25 (queryTokens document : Finset (List Char)) (averageLength : Float) : Float :=
  let overlap := (queryTokens ∩ document).card
  if overlap = 0 then 0.0
  else
    let lengthRatio := Float.ofNat document.card / pyMax averageLength 1.0
    Float.ofNat overlap * (2.2 / (1.0 + 1.2 * (0.25 + 0.75 * lengthRatio)))

def freshnessScore (P : RecallPlatform) (query : RetrievalQuery) (pattern : Fields) (latest : Int)
    (halfLifeDays : Nat) : Float :=
  match parseDate P.toPlatform (getOr pattern "updated_at" .none) with
  | none => 0.0
  | some updated =>
    let now := (query.effectiveNow.map Value.str).getD .none
    let reference := (parseDate P.toPlatform now).getD latest
    let ageDays := pyMax 0.0 (P.trueDivide (reference - updated) 1000000 / 86400.0)
    (0.5 : Float) ^ (ageDays / Float.ofNat (max 1 halfLifeDays))

/-- Python's int of the larger of zero and a number. -/
def positiveCount (P : RecallPlatform) (x : Float) : Except Raised Int :=
  if 0 < x then P.intOfFloat x else .ok 0

def evidenceCount (P : RecallPlatform) (pattern : Fields) : Except Raised Int := do
  let refs := valuesOf P.toPlatform pattern ["provenances", "evidence_ids"]
  let count ← numeric P pattern ["evidence_count"] (Float.ofNat refs.length)
  positiveCount P count

def scoreOf (P : RecallPlatform) (query : RetrievalQuery) (policy : RetrievalPolicy)
    (averageLength : Float) (latest : Int) (pattern : Fields) : Except Raised Float := do
  let lexicalRaw := bm25 (asTokens P.toPlatform query.text) (documentTokens P.toPlatform pattern)
    averageLength
  let lexical := if lexicalRaw == 0.0 then 0.0 else lexicalRaw / (lexicalRaw + 1.0)
  let scope := scopeScore P.toPlatform query pattern
  let count ← evidenceCount P pattern
  let evidence := pyMin 1.0 (P.trueDivide count 2)
  let freshness := freshnessScore P query pattern latest policy.freshnessHalfLifeDays
  let benefitCount ← numeric P pattern ["benefit_count"] 0
  let benefit := if 0 < benefitCount || (getOr pattern "observed_benefit" .none).truthy ||
    !(valuesOf P.toPlatform pattern ["benefit_refs"]).isEmpty then 1.0 else 0.0
  let host := hostScore P.toPlatform query pattern
  let success ← numeric P pattern ["prior_success", "success_rate", "outcome_success_rate"] 0.0
  let prior := pyMax 0.0 (pyMin 1.0 success)
  let contradictions ← numeric P pattern ["contradiction_count"] 0
  let contradictionPenalty := pyMin 1.0 (contradictions / 3.0)
  let stalePenalty := if freshness == 0.0 then 0.10 else 0.0
  pure (policy.lexicalRelevance * lexical + policy.scopeMatch * scope +
    policy.evidenceStrength * evidence + policy.freshness * freshness +
    policy.observedBenefit * benefit + policy.hostApplicability * host +
    policy.priorSuccess * prior - contradictionPenalty - stalePenalty)

/-- Python's isclose with the relative tolerance 1e-9 and the absolute tolerance 1e-12. -/
def isClose (a b : Float) : Bool :=
  if a == b then true
  else if a.isInf || b.isInf then false
  else
    let difference := (b - a).abs
    difference ≤ (1e-9 * b).abs || difference ≤ (1e-9 * a).abs || difference ≤ 1e-12

def patternIdText (P : Platform) (pattern : Fields) : String :=
  pyStr P (getOr pattern "pattern_id" (.str ""))

def clusterIdText (P : Platform) (pattern : Fields) : String :=
  let own := getOr pattern "cluster_id" .none
  if own.truthy then pyStr P own else patternIdText P pattern

/-- Puts a scored pattern in the place of its cluster unless the one there is better. -/
def addBest (P : Platform) (best : List (String × Float × Fields)) (item : Float × Fields) :
    List (String × Float × Fields) :=
  let cluster := clusterIdText P item.2
  match best.lookup cluster with
  | none => Dict.set cluster item best
  | some current =>
    if current.1 < item.1 ∨ (isClose item.1 current.1 ∧
        patternIdText P item.2 < patternIdText P current.2) then
      Dict.set cluster item best
    else best

/-- The order of results: by rounded score, highest first, then by pattern and cluster. -/
def ranksBefore (P : RecallPlatform) (a b : Float × Fields) : Bool :=
  let key (item : Float × Fields) := -P.roundTo item.1 12
  let cluster (item : Float × Fields) :=
    pyStr P.toPlatform (getOr item.2 "cluster_id" (.str ""))
  let ids := (patternIdText P.toPlatform a.2, patternIdText P.toPlatform b.2)
  key a < key b || (key a == key b &&
    (ids.1 < ids.2 || (ids.1 == ids.2 && cluster a < cluster b)))

structure RetrievalHit where
  patternId : String
  clusterId : String
  score : Float
  rule : String
  applicability : List String
  evidenceCount : Int
  updatedAt : String
  knowledgeScope : String
  claimFingerprint : String
  supersedes : List String
  precondition : String
  failureMode : String

def hitOf (P : RecallPlatform) (knowledgeScope : String) (item : Float × Fields) :
    Except Raised RetrievalHit := do
  let pattern := item.2
  let text (name : String) : String := pyStr P.toPlatform (getOr pattern name (.str ""))
  let textOrEmpty (name : String) : String :=
    let value := getOr pattern name (.str "")
    if value.truthy then pyStr P.toPlatform value else ""
  let count ← evidenceCount P pattern
  let ownFingerprint := getOr pattern "claim_fingerprint" .none
  pure
    { patternId := patternIdText P.toPlatform pattern
      clusterId := clusterIdText P.toPlatform pattern
      score := P.roundTo item.1 6
      rule := text "rule"
      applicability := valuesOf P.toPlatform pattern ["applicability", "scope_tags", "domains"]
      evidenceCount := count
      updatedAt := text "updated_at"
      knowledgeScope :=
        if ["personal", "team"].contains knowledgeScope then knowledgeScope else "personal"
      claimFingerprint := if ownFingerprint.truthy then pyStr P.toPlatform ownFingerprint
        else claimFingerprintOf P.toPlatform pattern
      supersedes := valuesOf P.toPlatform pattern ["supersedes", "superseded_by"]
      precondition := textOrEmpty "precondition"
      failureMode := textOrEmpty "failure_mode" }

/-- The eligible patterns that reach the least score, the best of each cluster, in order. -/
def rankEligible (P : RecallPlatform) (query : RetrievalQuery) (policy : RetrievalPolicy)
    (patterns : List Fields) : Except Raised (List (Float × Fields)) := do
  let lengths := patterns.map fun pattern => (documentTokens P.toPlatform pattern).card
  let averageLength := P.trueDivide lengths.sum (max 1 patterns.length)
  let dates := patterns.filterMap fun pattern =>
    parseDate P.toPlatform (getOr pattern "updated_at" .none)
  let latest := dates.max?.getD 0
  let scores ← patterns.mapM (scoreOf P query policy averageLength latest)
  let scored := (scores.zip patterns).filter fun item => policy.minScore ≤ item.1
  let best := (scored.foldl (addBest P.toPlatform) []).map Prod.snd
  pure (best.insertionSort fun a b => ranksBefore P b a = false)

/-- `_rank_patterns` of a list of patterns. -/
def rankPatternsWithin (P : RecallPlatform) (query : RetrievalQuery) (patterns : List RawPattern)
    (policy : RetrievalPolicy) (resultLimit : Option Nat) (knowledgeScope : String) :
    Except Raised (List RetrievalHit) := do
  let chosen ← eligiblePatterns P query policy patterns
  if chosen.isEmpty then pure []
  else do
    let ranked ← rankEligible P query policy chosen
    (match resultLimit with
      | none => ranked
      | some limit => ranked.take limit).mapM (hitOf P knowledgeScope)

def rankPatterns (P : RecallPlatform) (query : RetrievalQuery) (patterns : List RawPattern)
    (policy : RetrievalPolicy) : Except Raised (List RetrievalHit) :=
  rankPatternsWithin P query patterns policy (some policy.maxResults) "personal"

end ExternalIntelligence
