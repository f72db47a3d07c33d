import ExternalIntelligence.Dedup

namespace ExternalIntelligence
set_option autoImplicit true

structure ProvenanceRef where
  sourceHash : String
  sessionIdHash : Option String := none
  rolloutIdHash : Option String := none
  copiedFromHash : Option String := none
  copyOfHash : Option String := none
  copySourceHash : Option String := none
  copyOriginHash : Option String := none
  cwdHash : String := ""
  domain : String := ""
deriving DecidableEq, Repr

structure ObservationState where
  observationId : String
  title : String := ""
  claim : String
  domain : String
  cwdFingerprint : String := ""
  provenanceKey : String
  outcomeStatus : String := ""
  benefit : String := ""
  classification : String
  sourceHash : String := ""
  applicability : List String := []
  scope : String := ""
  provenance : List ProvenanceRef := []
  versionConstraint : Option String := none
  sessionIdHash : Option String := none
  rolloutIdHash : Option String := none
  copiedFromHash : Option String := none
  host : HostFields := {}
deriving DecidableEq, Repr

/-- A cluster; its frozensets are lists without repetition. -/
structure ClusterState where
  clusterId : String
  patternId : Option String := none
  status : String := "raw"
  rule : String
  provenances : List String
  scopes : List String
  benefitCount : Nat
  contradictionProvenances : List String := []
  classification : String
  lastUsedAt : Option String := none
  deprecatedAt : Option String := none
  supersededBy : Option String := none
  replacementActive : Bool := false
  pinned : Bool := false
  legalHold : Bool := false
  exposureCount : Nat := 0
  canonicalClaim : String := ""
  provenanceScopes : List String := []
  precondition : Option String := none
  failureMode : Option String := none
  versionConstraint : Option String := none
  evidenceRefs : List String := []
  applicability : List String := []
  host : HostFields := {}
deriving DecidableEq, Repr

/-- An own value that is present and not empty, else the one of the first provenance entry. -/
def provenanceValue (own : Option String) (ofRef : ProvenanceRef → Option String)
    (observation : ObservationState) : String :=
  match own with
  | some "" | none => ((observation.provenance.head?.bind ofRef).getD "")
  | some s => s

/-- The text after `marker` in a key that starts with it. -/
def afterMarker (marker key : String) : String :=
  if (Text.chars marker).isPrefixOf (Text.chars key) then String.ofList ((Text.chars key).drop marker.length) else ""

/-- Source, session, rollout and copy origin, as the four slots of one identity. -/
def provenanceIdentity (value : ObservationState) : List String :=
  let key := value.provenanceKey
  [orElse (provenanceValue (some value.sourceHash) (some ·.sourceHash) value)
      (afterMarker "source:" key),
    orElse (provenanceValue value.sessionIdHash (·.sessionIdHash) value)
      (afterMarker "session:" key),
    orElse (provenanceValue value.rolloutIdHash (·.rolloutIdHash) value)
      (afterMarker "rollout:" key),
    orElse (provenanceValue value.copiedFromHash (·.copiedFromHash) value)
      (orElse (provenanceValue none (·.copyOfHash) value)
        (orElse (provenanceValue none (·.copySourceHash) value)
          (provenanceValue none (·.copyOriginHash) value)))]

def evidenceScope (value : ObservationState) : String :=
  orElse (provenanceValue none (some ·.cwdHash) value) (orElse value.cwdFingerprint value.scope)

def evidenceDomain (value : ObservationState) : String :=
  provenanceValue (some value.domain) (some ·.domain) value

def isIndependent (left right : ObservationState) : Bool :=
  let identities := (provenanceIdentity left).zip (provenanceIdentity right)
  let leftScope := evidenceScope left
  let rightScope := evidenceScope right
  let leftDomain := evidenceDomain left
  let rightDomain := evidenceDomain right
  if provenanceIdentity left = provenanceIdentity right then false
  else if identities.any fun p => p.1 != "" && p.1 == p.2 then false
  else if leftScope = "" ∧ leftDomain = "" then false
  else if leftScope ≠ "" ∧ rightScope ≠ "" ∧ leftScope = rightScope ∧ leftDomain = rightDomain then
    false
  else if leftDomain ≠ "" ∧ rightDomain ≠ "" ∧ leftDomain = rightDomain ∧ leftScope = "" ∧
      rightScope = "" then false
  else (leftScope ≠ "" && rightScope ≠ "" && leftScope != rightScope) ||
    (leftDomain ≠ "" && rightDomain ≠ "" && leftDomain != rightDomain) ||
    (leftScope != rightScope && (leftScope ≠ "" || rightScope ≠ ""))

inductive DecisionKind where
  | new
  | duplicate
  | contradiction
  | join
deriving DecidableEq, Repr

structure ClusterDecision where
  kind : DecisionKind
  targetObservationId : Option String
  similarity : Rat
  independentProvenance : Bool
  contradictionReason : Option String := none
  matchedAlias : Bool := false

/-- What an observation is compared with: an earlier observation or a cluster. -/
inductive Existing where
  | observation (o : ObservationState)
  | cluster (c : ClusterState)

/-- A cluster as an observation; what the mapping of the source lacks reads as empty. -/
def candidateObservation : Existing → ObservationState
  | .observation o => o
  | .cluster c =>
    { observationId := c.clusterId
      claim := orElse c.canonicalClaim c.rule
      domain := c.provenanceScopes.head?.getD ""
      provenanceKey := c.provenances.head?.getD ""
      classification := c.classification
      host := c.host }

def foldedDomain (P : Platform) (value : ObservationState) : List Char :=
  P.casefold (Text.strip (Text.chars value.domain))

def versionOf (P : Platform) (value : ObservationState) : Option (List Char) :=
  let explicit := Text.strip (Text.chars (value.versionConstraint.getD ""))
  if explicit.isEmpty then extractVersion P (Text.chars value.claim) else some (P.casefold explicit)

def outcomeOf (P : Platform) (value : ObservationState) : Option Bool :=
  (extractOutcome P (Text.chars value.outcomeStatus)).orElse fun _ =>
    extractOutcome P (Text.chars value.claim)

def contradictionReason (P : Platform) (left right : ObservationState) : Option String :=
  let leftPolarity := classifyPolarity P (Text.chars left.claim)
  let rightPolarity := classifyPolarity P (Text.chars right.claim)
  if (leftPolarity = .supports ∧ rightPolarity = .contradicts) ∨
      (leftPolarity = .contradicts ∧ rightPolarity = .supports) then some "POLARITY_OPPOSITION"
  else if (versionOf P left).isSome ∧ (versionOf P right).isSome ∧
      versionOf P left ≠ versionOf P right then some "INCOMPATIBLE_VERSION"
  else if (outcomeOf P left).isSome ∧ (outcomeOf P right).isSome ∧
      outcomeOf P left ≠ outcomeOf P right then some "OPPOSITE_OUTCOME"
  else none

def threshold (P : Platform) (left right : ObservationState) : Rat :=
  if foldedDomain P left ≠ [] ∧ foldedDomain P left = foldedDomain P right then 72 / 100
  else 82 / 100

/-- A qualifying candidate with the four parts candidates are ordered by. -/
structure Match where
  score : Rat
  exact : Bool
  matchedAlias : Bool
  candidate : ObservationState

/-- The order of the tuples (score, exact, alias, id). -/
def Match.better (a b : Match) : Bool :=
  b.score < a.score || (a.score == b.score &&
    ((!b.exact && a.exact) || (a.exact == b.exact &&
      ((!b.matchedAlias && a.matchedAlias) || (a.matchedAlias == b.matchedAlias &&
        b.candidate.observationId < a.candidate.observationId)))))

def matchCandidate (P : Platform) (observation candidate : ObservationState) : Option Match :=
  if candidate.claim = "" then none
  else
    let incoming := Text.chars observation.claim
    let claim := Text.chars candidate.claim
    let exact := claimFingerprint P incoming == claimFingerprint P claim
    let score := if exact then 1 else similarity P incoming claim
    if exact || aliasMatch P incoming claim || threshold P observation candidate ≤ score then
      some ⟨score, exact, aliasMatch P incoming claim, candidate⟩
    else none

theorem matchCandidate_candidate (h : matchCandidate P observation candidate = some m) :
    m.candidate = candidate := by
  simp only [matchCandidate, Option.ite_none_left_eq_some, Option.ite_none_right_eq_some,
    Option.some.injEq] at h
  obtain ⟨_, _, rfl⟩ := h
  rfl

def bestMatch (P : Platform) (observation : ObservationState) (existing : List Existing) :
    Option Match :=
  existing.foldl (fun best raw =>
    match matchCandidate P observation (candidateObservation raw), best with
    | none, _ => best
    | some m, none => some m
    | some m, some b => if m.better b then some m else some b) none

def newDecision : ClusterDecision :=
  { kind := .new, targetObservationId := none, similarity := 0, independentProvenance := true }

def assignCluster (P : Platform) (observation : ObservationState) (existing : List Existing) :
    ClusterDecision :=
  if observation.claim = "" then newDecision
  else
    match bestMatch P observation existing with
    | none => newDecision
    | some m =>
      let decision (kind : DecisionKind) (reason : Option String) : ClusterDecision :=
        { kind
          targetObservationId := some m.candidate.observationId
          similarity := m.score
          independentProvenance := isIndependent observation m.candidate
          contradictionReason := reason
          matchedAlias := aliasMatch P (Text.chars observation.claim) (Text.chars m.candidate.claim) }
      if claimFingerprint P (Text.chars m.candidate.claim) =
          claimFingerprint P (Text.chars observation.claim) then decision .duplicate none
      else
        match contradictionReason P observation m.candidate with
        | some reason => decision .contradiction (some reason)
        | none => decision .join none

end ExternalIntelligence
