import ExternalIntelligence.Cluster
import ExternalIntelligence.Outcome

namespace ExternalIntelligence
set_option autoImplicit true

structure ClusterRecord where
  state : ClusterState
  observations : List ObservationState
  canonicalRule : String
  revision : Nat
deriving DecidableEq, Repr

/-- A payload field that is a string, and the default for anything else. -/
def textField (payload : List (String × Value)) (name : String) (default : String) : String :=
  ((payload.lookup name).getD (.str default)).strOr default

def observationState (event : Event) : Except String ObservationState :=
  let text := textField event.payload
  let sourceKind := text "source_kind" "native_memory"
  let sourceHash := text "source_hash" ""
  let fallback := orElse sourceHash (orElse (text "source_ref_hash" "") event.eventId)
  (hostApplicabilityFields event.payload true true).map fun host =>
    { observationId := text "observation_id" ("obs_" ++ event.eventId)
      title := text "title" ""
      claim := text "claim" ""
      domain := text "domain" "general"
      cwdFingerprint := text "cwd_fingerprint" ""
      provenanceKey := orElse (text "provenance_key" "") (sourceKind ++ ":" ++ fallback)
      outcomeStatus := text "outcome_status" "unknown"
      benefit := text "benefit" ""
      classification := text "classification" "private-reusable"
      sourceHash
      applicability := ((event.payload.lookup "applicability").getD .none).strings.filter (· ≠ "")
      scope := host.applicabilityScope
      host }

def scopeOf (observation : ObservationState) : String :=
  orElse observation.cwdFingerprint ("domain:" ++ observation.domain)

/-- The persisted host contract that keeps clusters distinct; without a source pair, legacy. -/
def hostApplicabilityKey (observation : ObservationState) : Value :=
  let host := observation.host
  if host.sourceHostId = "" ∨ host.sourceHostFamily = "" then .tuple [.str "legacy"]
  else
    .tuple [.str "explicit", .str host.sourceHostId, .str host.sourceHostFamily,
      .str host.applicabilityScope, .tuple (host.applicableHostIds.map .str),
      .tuple (host.applicableHostFamilies.map .str)]

def clusterIdOf (P : Platform) (observation : ObservationState) : String :=
  let base := "cluster_" ++ takeText 20 (claimFingerprint P (Text.chars observation.claim))
  if hostApplicabilityKey observation = .tuple [.str "legacy"] then base
  else base ++ "_" ++ takeText 12 (stableHash P (hostApplicabilityKey observation))

/-- The claim that is longest once normalized, the first such in normalized order. -/
def canonicalRule (P : Platform) (observations : List ObservationState) : String :=
  let claims := (observations.map (·.claim)).filter (· ≠ "")
  let key (claim : String) := String.ofList (normalizeClaim P (Text.chars claim))
  let choices := claims.insertionSort fun a b =>
    (key b).length < (key a).length ∨ ((key b).length = (key a).length ∧ key a ≤ key b)
  choices.head?.getD ""

def sortedText (values : List String) : List String :=
  values.insertionSort (· ≤ ·)

def newRecord (P : Platform) (clusterId : String) (first : ObservationState)
    (lastUsedAt : String) : ClusterRecord :=
  let rule := canonicalRule P [first]
  let state : ClusterState :=
    { clusterId
      rule
      provenances := [first.provenanceKey]
      scopes := [scopeOf first]
      benefitCount := if first.benefit = "" then 0 else 1
      classification := first.classification
      lastUsedAt := some lastUsedAt
      applicability := if first.domain = "" then [] else [first.domain]
      precondition := if first.domain = "" then none else some first.domain
      failureMode := if first.outcomeStatus = "" then none else some first.outcomeStatus
      evidenceRefs := [first.provenanceKey].filter (· ≠ "")
      host := first.host }
  ⟨state, [first], rule, 0⟩

/-- The record of a cluster after one more observation. -/
def extendRecord (P : Platform) (record : ClusterRecord) (observation : ObservationState)
    (lastUsedAt : String) : ClusterRecord :=
  let observations := record.observations ++ [observation]
  let nonempty (field : ObservationState → String) := (observations.map field).filter (· ≠ "")
  let adopts : Bool := record.state.host.sourceHostId = "" ∧ observation.host.sourceHostId ≠ "" ∧
    observation.host.sourceHostFamily ≠ ""
  let state : ClusterState :=
    { record.state with
      rule := canonicalRule P observations
      provenances := (observations.map (·.provenanceKey)).dedup
      scopes := (observations.map scopeOf).dedup
      benefitCount := (nonempty (·.benefit)).length
      lastUsedAt := some lastUsedAt
      applicability := sortedText (nonempty (·.domain)).dedup
      precondition := (nonempty (·.domain)).head?
      failureMode := (nonempty (·.outcomeStatus)).head?
      evidenceRefs := sortedText (nonempty (·.provenanceKey))
      host := if adopts then observation.host else record.state.host }
  ⟨state, observations, state.rule, record.revision⟩

/-- The loop variables of `_cluster_observations`. -/
structure Clustering where
  observations : List ObservationState := []
  observationClusters : List (String × String) := []
  records : List (String × ClusterRecord) := []
  duplicateCount : Nat := 0
  observationTimes : List (String × String) := []

def detectPolarity (P : Platform) (claim : String) : Polarity :=
  classifyPolarity P (Text.chars claim)

/-- The decision for an observation, among the earlier ones of its own host key. -/
def hostDecision (P : Platform) (earlier : List ObservationState)
    (observation : ObservationState) : ClusterDecision :=
  assignCluster P observation ((earlier.filter fun candidate =>
    hostApplicabilityKey candidate = hostApplicabilityKey observation).map .observation)

def contradictoryProvenances (P : Platform) (c : Clustering) (clusters : List (String × String))
    (clusterId : String) (known : List String) (observation : ObservationState)
    (decision : ClusterDecision) : List String :=
  let opposed := c.observations.any fun prior =>
    clusters.lookup prior.observationId == some clusterId &&
      prior.provenanceKey != observation.provenanceKey &&
      detectPolarity P prior.claim != detectPolarity P observation.claim
  if opposed || (decision.kind == .contradiction && decision.independentProvenance) then
    known.insert observation.provenanceKey
  else known

/-- The cluster an observation goes to, and the duplicates counted so far. -/
def Clustering.clusterFor (P : Platform) (c : Clustering) (observation : ObservationState) :
    Except String (String × Nat) :=
  let decision := hostDecision P c.observations observation
  match decision.kind, decision.targetObservationId with
  | .new, _ | _, none => .ok (clusterIdOf P observation, c.duplicateCount)
  | kind, some target =>
    match c.observationClusters.lookup target with
    | none => .error "KeyError"
    | some id => .ok (id, if kind = .duplicate then c.duplicateCount + 1 else c.duplicateCount)

/-- The loop variables after an observation went to a cluster. -/
def Clustering.place (P : Platform) (c : Clustering) (observation : ObservationState)
    (occurredAt clusterId : String) (duplicates : Nat) : Clustering :=
  let clusters := Dict.set observation.observationId clusterId c.observationClusters
  let last := max ((c.observationTimes.lookup clusterId).getD "") occurredAt
  let record :=
    match c.records.lookup clusterId with
    | none => newRecord P clusterId observation occurredAt
    | some record => extendRecord P record observation last
  let contradictory := contradictoryProvenances P c clusters clusterId
    record.state.contradictionProvenances observation (hostDecision P c.observations observation)
  { observations := c.observations ++ [observation]
    observationClusters := clusters
    records := Dict.set clusterId
      { record with state := { record.state with contradictionProvenances := contradictory } }
      c.records
    duplicateCount := duplicates
    observationTimes := Dict.set clusterId last c.observationTimes }

def Clustering.add (P : Platform) (c : Clustering) (observation : ObservationState)
    (occurredAt : String) : Except String Clustering :=
  (c.clusterFor P observation).map fun place =>
    c.place P observation occurredAt place.1 place.2

def isObservation (event : Event) : Bool :=
  event.eventType == "observation.recorded" &&
    ((event.payload.lookup "claim").getD .none).truthy

def Clustering.step (P : Platform) (c : Clustering) (event : Event) : Except String Clustering :=
  if isObservation event then
    (observationState event).bind fun observation => c.add P observation event.occurredAt
  else .ok c

def clusterObservations (P : Platform) (events : List Event) : Except String Clustering :=
  events.foldlM (Clustering.step P) {}

end ExternalIntelligence
