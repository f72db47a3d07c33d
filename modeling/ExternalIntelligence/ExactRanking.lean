import ExternalIntelligence.GroupWinners
import ExternalIntelligence.Retrieve
import Mathlib.Algebra.Order.Ring.Rat
import Mathlib.Data.Prod.Lex
import Mathlib.Data.Rat.Floor

namespace ExternalIntelligence
set_option autoImplicit true

/-- Recall with numbers that are exact rationals. -/
structure ExactScoring extends RecallPlatform where
  rationalOfText : String → Option ℚ
  /-- One half to the power of a number. -/
  halfPower : ℚ → ℚ

structure ExactPolicy where
  lexicalRelevance : ℚ := 35 / 100
  scopeMatch : ℚ := 20 / 100
  evidenceStrength : ℚ := 15 / 100
  freshness : ℚ := 10 / 100
  observedBenefit : ℚ := 10 / 100
  minScore : ℚ := 35 / 100
  maxResults : Nat := 5
  hostApplicability : ℚ := 5 / 100
  priorSuccess : ℚ := 5 / 100
  freshnessHalfLifeDays : Nat := 365
  allowCrossHost : Bool := false

def exactNumeric (P : ExactScoring) (pattern : Fields) (names : List String) (default : ℚ) : ℚ :=
  names.foldr (fun name rest =>
    match pattern.lookup name with
    | some (.int i) => i
    | some (.float text) | some (.str text) => (P.rationalOfText text).getD rest
    | _ => rest) default

def exactEligible (P : ExactScoring) (query : RetrievalQuery) (pattern : Fields)
    (policy : ExactPolicy) : Bool :=
  let status :=
    P.casefold (Text.chars (pyStr P.toPlatform (getOr pattern "status" (.str "active"))))
  let classification :=
    pyStr P.toPlatform (getOr pattern "classification" (.str "private-reusable"))
  if (getOr pattern "pattern_id" .none).strOr "" = "" then false
  else if inactiveStatuses.any fun s => Text.chars s == status then false
  else if !(["public", "private-reusable"].contains classification) then false
  else if 0 < exactNumeric P pattern ["contradiction_count"] 0 then false
  else scopeAllowed P.toPlatform query pattern &&
    hostAllowed P.toPlatform query pattern { allowCrossHost := policy.allowCrossHost } &&
    versionAllowed P.toRecallPlatform query pattern

def exactScopeScore (P : Platform) (query : RetrievalQuery) (pattern : Fields) : ℚ :=
  let cwdValues := valuesOf P pattern ["cwd_fingerprints", "cwd_hashes", "scopes"]
  let applicability := valuesOf P pattern ["applicability", "scope_tags", "domains"]
  if cwdValues.isEmpty && applicability.isEmpty then 50 / 100
  else if query.effectiveCwd != "" && cwdValues.contains query.effectiveCwd then 1
  else if query.domain != "" && applicability.contains query.domain then 90 / 100
  else if query.scopeTags.any applicability.contains then 80 / 100
  else 0

def exactHostScore (P : Platform) (query : RetrievalQuery) (pattern : Fields) : ℚ :=
  let hosts := hostValues P pattern
  if hosts.isEmpty then 1
  else if query.hostId != "" && hosts.contains query.hostId then 1
  else 0

def exactBm25 (queryTokens document : Finset (List Char)) (averageLength : ℚ) : ℚ :=
  let overlap := (queryTokens ∩ document).card
  if overlap = 0 then 0
  else
    let lengthRatio := document.card / max averageLength 1
    overlap * (22 / 10 / (1 + 12 / 10 * (25 / 100 + 75 / 100 * lengthRatio)))

def exactFreshness (P : ExactScoring) (query : RetrievalQuery) (pattern : Fields) (latest : Int)
    (halfLifeDays : Nat) : ℚ :=
  match parseDate P.toPlatform (getOr pattern "updated_at" .none) with
  | none => 0
  | some updated =>
    let now := (query.effectiveNow.map Value.str).getD .none
    let reference := (parseDate P.toPlatform now).getD latest
    let ageDays : ℚ := max 0 ((reference - updated : Int) / 1000000 / 86400)
    P.halfPower (ageDays / max 1 halfLifeDays)

def exactEvidenceCount (P : ExactScoring) (pattern : Fields) : Int :=
  let refs := valuesOf P.toPlatform pattern ["provenances", "evidence_ids"]
  ⌊max 0 (exactNumeric P pattern ["evidence_count"] refs.length)⌋

def exactScore (P : ExactScoring) (query : RetrievalQuery) (policy : ExactPolicy)
    (averageLength : ℚ) (latest : Int) (pattern : Fields) : ℚ :=
  let lexicalRaw := exactBm25 (asTokens P.toPlatform query.text)
    (documentTokens P.toPlatform pattern) averageLength
  let lexical := if lexicalRaw = 0 then 0 else lexicalRaw / (lexicalRaw + 1)
  let scope := exactScopeScore P.toPlatform query pattern
  let evidence := min 1 ((exactEvidenceCount P pattern : ℚ) / 2)
  let freshness := exactFreshness P query pattern latest policy.freshnessHalfLifeDays
  let benefitCount := exactNumeric P pattern ["benefit_count"] 0
  let benefit := if decide (0 < benefitCount) || (getOr pattern "observed_benefit" .none).truthy ||
    !(valuesOf P.toPlatform pattern ["benefit_refs"]).isEmpty then 1 else 0
  let host := exactHostScore P.toPlatform query pattern
  let success :=
    exactNumeric P pattern ["prior_success", "success_rate", "outcome_success_rate"] 0
  let prior := max 0 (min 1 success)
  let contradictionPenalty := min 1 (exactNumeric P pattern ["contradiction_count"] 0 / 3)
  let stalePenalty := if freshness = 0 then 10 / 100 else 0
  policy.lexicalRelevance * lexical + policy.scopeMatch * scope +
    policy.evidenceStrength * evidence + policy.freshness * freshness +
    policy.observedBenefit * benefit + policy.hostApplicability * host +
    policy.priorSuccess * prior - contradictionPenalty - stalePenalty

/-- Python's isclose with the relative tolerance 1e-9 and the absolute tolerance 1e-12. -/
def exactClose (a b : ℚ) : Bool :=
  a == b || decide (|b - a| ≤ |b / 10 ^ 9|) || decide (|b - a| ≤ |a / 10 ^ 9|) ||
    decide (|b - a| ≤ 1 / 10 ^ 12)

/-- Python's round: to the nearest decimal, to the even one of two. -/
def exactRound (x : ℚ) (digits : Nat) : ℚ :=
  let below := ⌊x * 10 ^ digits⌋
  let rest := x * 10 ^ digits - below
  let nearest := if rest < 1 / 2 then below
    else if 1 / 2 < rest then below + 1
    else if below % 2 = 0 then below else below + 1
  nearest / 10 ^ digits

/-- Whether a scored pattern takes the place of the best one of its cluster so far. -/
def displaces (P : Platform) (item current : ℚ × Fields) : Bool :=
  decide (current.1 < item.1) || (exactClose item.1 current.1 &&
    decide (patternIdText P item.2 < patternIdText P current.2))

/-- The key of the order of results: the rounded score, highest first, the pattern, the cluster. -/
def sortKey (P : Platform) (item : ℚ × Fields) : ℚ ×ₗ String ×ₗ String :=
  toLex (-exactRound item.1 12, toLex (patternIdText P item.2,
    pyStr P (getOr item.2 "cluster_id" (.str ""))))

structure ExactHit where
  patternId : String
  clusterId : String
  score : ℚ
  rule : String
  applicability : List String
  evidenceCount : Int
  updatedAt : String
  knowledgeScope : String
  claimFingerprint : String
  supersedes : List String
  precondition : String
  failureMode : String
deriving DecidableEq

def exactHit (P : ExactScoring) (knowledgeScope : String) (item : ℚ × Fields) : ExactHit :=
  let pattern := item.2
  let text (name : String) : String := pyStr P.toPlatform (getOr pattern name (.str ""))
  let textOrEmpty (name : String) : String :=
    let value := getOr pattern name (.str "")
    if value.truthy then pyStr P.toPlatform value else ""
  let ownFingerprint := getOr pattern "claim_fingerprint" .none
  { patternId := patternIdText P.toPlatform pattern
    clusterId := clusterIdText P.toPlatform pattern
    score := exactRound item.1 6
    rule := text "rule"
    applicability := valuesOf P.toPlatform pattern ["applicability", "scope_tags", "domains"]
    evidenceCount := exactEvidenceCount P pattern
    updatedAt := text "updated_at"
    knowledgeScope :=
      if ["personal", "team"].contains knowledgeScope then knowledgeScope else "personal"
    claimFingerprint := if ownFingerprint.truthy then pyStr P.toPlatform ownFingerprint
      else claimFingerprintOf P.toPlatform pattern
    supersedes := valuesOf P.toPlatform pattern ["supersedes", "superseded_by"]
    precondition := textOrEmpty "precondition"
    failureMode := textOrEmpty "failure_mode" }

/-- The mean number of tokens of some patterns. -/
def averageLength (P : Platform) (patterns : List Fields) : ℚ :=
  ((patterns.map fun pattern => (documentTokens P pattern).card).sum : ℚ) / max 1 patterns.length

/-- The latest date of some patterns. -/
def latestOf (P : Platform) (patterns : List Fields) : Int :=
  ((patterns.filterMap fun pattern =>
    parseDate P (getOr pattern "updated_at" .none)).max?).getD 0

/-- The eligible patterns that reach the least score, each with its score, in order. -/
def scoredPatterns (P : ExactScoring) (query : RetrievalQuery) (policy : ExactPolicy)
    (patterns : List RawPattern) : Except Raised (List (ℚ × Fields)) := do
  let mappings ← patterns.mapM patternMapping
  let chosen := mappings.filter fun pattern => exactEligible P query pattern policy
  let average := averageLength P.toPlatform chosen
  let latest := latestOf P.toPlatform chosen
  let scored :=
    chosen.map fun pattern => (exactScore P query policy average latest pattern, pattern)
  pure (scored.filter fun item => policy.minScore ≤ item.1)

def scoredCluster (P : Platform) (item : ℚ × Fields) : String :=
  clusterIdText P item.2

/-- `rank_patterns` of a list of patterns. -/
def exactRankPatterns (P : ExactScoring) (query : RetrievalQuery) (patterns : List RawPattern)
    (policy : ExactPolicy) : Except Raised (List ExactHit) := do
  let scored ← scoredPatterns P query policy patterns
  let ranked := RunningBest.leaders (scoredCluster P.toPlatform) (displaces P.toPlatform)
    (sortKey P.toPlatform) policy.maxResults scored
  pure (ranked.map (exactHit P "personal"))

end ExternalIntelligence
