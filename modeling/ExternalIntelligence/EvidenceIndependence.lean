import ExternalIntelligence.Cluster
import Mathlib.Data.List.Forall2
import Mathlib.Data.List.Zip

namespace ExternalIntelligence
set_option autoImplicit true

/-- Two observations of one origin: all that is known of their origins is the same, or something
that is known of both. -/
def SharesOrigin (left right : ObservationState) : Prop :=
  provenanceIdentity left = provenanceIdentity right ∨
    ∃ p ∈ (provenanceIdentity left).zip (provenanceIdentity right), p.1 ≠ "" ∧ p.1 = p.2

/-- An observation that says nothing of where it holds. -/
def Unplaced (value : ObservationState) : Prop :=
  evidenceScope value = "" ∧ evidenceDomain value = ""

/-- Two observations from different scopes, or of different domains. -/
def EvidenceApart (left right : ObservationState) : Prop :=
  evidenceScope left ≠ evidenceScope right ∨
    evidenceDomain left ≠ "" ∧ evidenceDomain right ≠ "" ∧
      evidenceDomain left ≠ evidenceDomain right

theorem SharesOrigin.symm (h : SharesOrigin a b) : SharesOrigin b a := by
  cases h with
  | inl h => exact .inl h.symm
  | inr h =>
    obtain ⟨p, hp, hne, heq⟩ := h
    rw [← List.zip_swap, List.mem_map] at hp
    obtain ⟨q, hq, rfl⟩ := hp
    exact .inr ⟨q, hq, fun h => hne (heq.trans h), heq.symm⟩

theorem sharesOrigin_comm : SharesOrigin a b ↔ SharesOrigin b a :=
  ⟨SharesOrigin.symm, SharesOrigin.symm⟩

theorem apart_comm : EvidenceApart a b ↔ EvidenceApart b a := by
  rw [EvidenceApart, EvidenceApart, ne_comm,
    ne_comm (a := evidenceDomain a) (b := evidenceDomain b), and_left_comm]

theorem isIndependent_iff : isIndependent left right = true ↔
    ¬SharesOrigin left right ∧ ¬Unplaced left ∧ EvidenceApart left right := by
  have hshares : (((provenanceIdentity left).zip (provenanceIdentity right)).any
      fun p => p.1 != "" && p.1 == p.2) = true ↔
      ∃ p ∈ (provenanceIdentity left).zip (provenanceIdentity right), p.1 ≠ "" ∧ p.1 = p.2 := by
    simp only [List.any_eq_true, Bool.and_eq_true, bne_iff_ne, beq_iff_eq]
  rw [isIndependent, SharesOrigin, Unplaced, EvidenceApart, ← hshares]
  generalize evidenceScope left = leftScope
  generalize evidenceScope right = rightScope
  generalize evidenceDomain left = leftDomain
  generalize evidenceDomain right = rightDomain
  split
  · rename_i hsame
    exact iff_of_false Bool.false_ne_true fun h => h.1 (.inl hsame)
  · rename_i hdiffer
    split
    · rename_i hany
      exact iff_of_false Bool.false_ne_true fun h => h.1 (.inr hany)
    · rename_i hnone
      grind

/-- Whether one of two observations says nothing of where it holds and the other has a scope. -/
def OneSided (left right : ObservationState) : Prop :=
  Unplaced left ∧ evidenceScope right ≠ "" ∨ Unplaced right ∧ evidenceScope left ≠ ""

theorem apart_of_oneSided (h : OneSided a b) : EvidenceApart a b := by
  cases h with
  | inl h =>
    apply Or.inl
    rw [h.1.1]
    exact h.2.symm
  | inr h =>
    apply Or.inl
    rw [h.1.1]
    exact h.2

theorem scope_of_apart (hplaced : Unplaced a) (h : EvidenceApart a b) : evidenceScope b ≠ "" := by
  cases h with
  | inl h =>
    rw [hplaced.1] at h
    exact h.symm
  | inr h => exact (h.1 hplaced.2).elim

/-- Independence is the same from both sides, but for observations of which one alone says where it
holds. -/
theorem isIndependent_comm_iff : isIndependent a b = isIndependent b a ↔
    SharesOrigin a b ∨ ¬OneSided a b := by
  rw [Bool.eq_iff_iff, isIndependent_iff, isIndependent_iff, sharesOrigin_comm (a := b),
    apart_comm (a := b)]
  apply Iff.intro
  · intro h
    by_contra hnot
    rw [not_or, not_not] at hnot
    have hapart := apart_of_oneSided hnot.2
    cases hnot.2 with
    | inl hleft =>
      have hright : ¬Unplaced b := fun hb => hleft.2 hb.1
      exact (h.2 ⟨hnot.1, hright, hapart⟩).2.1 hleft.1
    | inr hright =>
      have hleft : ¬Unplaced a := fun ha => hright.2 ha.1
      exact (h.1 ⟨hnot.1, hleft, hapart⟩).2.1 hright.1
  · intro h
    apply and_congr_right
    intro hdiffer
    have hnot := h.resolve_left hdiffer
    apply and_congr_left
    intro hapart
    rw [not_iff_not]
    apply Iff.intro
    · intro ha
      exact (hnot (.inl ⟨ha, scope_of_apart ha hapart⟩)).elim
    · intro hb
      exact (hnot (.inr ⟨hb, scope_of_apart hb (apart_comm.1 hapart)⟩)).elim

/-- A collection whose frozensets are gone through in another order. -/
inductive Reordered : Existing → Existing → Prop
  | observation (o : ObservationState) : Reordered (.observation o) (.observation o)
  | cluster (c : ClusterState) (keys : List String) : keys.Perm c.provenances →
      Reordered (.cluster c) (.cluster { c with provenances := keys })

def elementMatch (P : Platform) (observation : ObservationState) (raw : Existing) :
    Option (Match × Existing) :=
  (matchCandidate P observation (candidateObservation raw)).map fun m => (m, raw)

def betterElement (P : Platform) (observation : ObservationState)
    (best : Option (Match × Existing)) (raw : Existing) : Option (Match × Existing) :=
  match elementMatch P observation raw, best with
  | none, _ => best
  | some m, none => some m
  | some m, some b => if m.1.better b.1 then some m else some b

/-- The best-matching element, with how it matches. -/
def bestElement (P : Platform) (observation : ObservationState) (existing : List Existing) :
    Option (Match × Existing) :=
  if observation.claim = "" then none else existing.foldl (betterElement P observation) none

theorem betterElement_none (h : matchCandidate P observation (candidateObservation raw) = none)
    (best : Option (Match × Existing)) : betterElement P observation best raw = best := by
  simp only [betterElement, elementMatch, h, Option.map_none]

theorem betterElement_first
    (h : matchCandidate P observation (candidateObservation raw) = some m) :
    betterElement P observation none raw = some (m, raw) := by
  simp only [betterElement, elementMatch, h, Option.map_some]

theorem betterElement_some
    (h : matchCandidate P observation (candidateObservation raw) = some m)
    (b : Match × Existing) : betterElement P observation (some b) raw =
      if m.better b.1 then some (m, raw) else some b := by
  simp only [betterElement, elementMatch, h, Option.map_some]

theorem foldl_betterElement (P : Platform) (observation : ObservationState)
    (existing : List Existing) (best : Option (Match × Existing)) :
    (existing.foldl (betterElement P observation) best).map Prod.fst =
      existing.foldl (fun best raw =>
        match matchCandidate P observation (candidateObservation raw), best with
        | none, _ => best
        | some m, none => some m
        | some m, some b => if m.better b then some m else some b) (best.map Prod.fst) := by
  induction existing generalizing best with
  | nil => rfl
  | cons raw existing ih =>
    rw [List.foldl_cons, List.foldl_cons, ih]
    congr 1
    cases hmatch : matchCandidate P observation (candidateObservation raw) with
    | none => rw [betterElement_none hmatch]
    | some m =>
      cases best with
      | none =>
        rw [betterElement_first hmatch]
        rfl
      | some b =>
        rw [betterElement_some hmatch]
        dsimp only [Option.map_some]
        split <;> rfl

theorem bestElement_match (h : observation.claim ≠ "") (existing : List Existing) :
    (bestElement P observation existing).map Prod.fst = bestMatch P observation existing := by
  rw [bestElement, if_neg h, foldl_betterElement]
  rfl

theorem candidate_foldl (P : Platform) (observation : ObservationState)
    (existing : List Existing) (best : Option (Match × Existing))
    (hbest : ∀ p, best = some p → p.1.candidate = candidateObservation p.2) :
    ∀ p, existing.foldl (betterElement P observation) best = some p →
      p.1.candidate = candidateObservation p.2 := by
  induction existing generalizing best with
  | nil => exact hbest
  | cons raw existing ih =>
    apply ih
    intro p hp
    cases hmatch : matchCandidate P observation (candidateObservation raw) with
    | none =>
      rw [betterElement_none hmatch] at hp
      exact hbest p hp
    | some m =>
      have hm := matchCandidate_candidate hmatch
      cases best with
      | none =>
        rw [betterElement_first hmatch] at hp
        cases hp
        exact hm
      | some b =>
        rw [betterElement_some hmatch] at hp
        split at hp
        · cases hp
          exact hm
        · exact hbest p hp

theorem candidate_bestElement (h : bestElement P observation existing = some (m, raw)) :
    m.candidate = candidateObservation raw := by
  rw [bestElement] at h
  split at h
  · cases h
  · have hnone (p : Match × Existing) (hp : none = some p) :
        p.1.candidate = candidateObservation p.2 := by
      cases hp
    exact candidate_foldl P observation existing none hnone (m, raw) h

/-- What is decided of a match. -/
def decisionOf (P : Platform) (observation : ObservationState) (score : Rat)
    (candidate : ObservationState) : ClusterDecision :=
  let decision (kind : DecisionKind) (reason : Option String) : ClusterDecision :=
    { kind
      targetObservationId := some candidate.observationId
      similarity := score
      independentProvenance := isIndependent observation candidate
      contradictionReason := reason
      matchedAlias := aliasMatch P (Text.chars observation.claim) (Text.chars candidate.claim) }
  if claimFingerprint P (Text.chars candidate.claim) =
      claimFingerprint P (Text.chars observation.claim) then decision .duplicate none
  else
    match contradictionReason P observation candidate with
    | some reason => decision .contradiction (some reason)
    | none => decision .join none

theorem assignCluster_eq (h : bestElement P observation existing = some (m, raw)) :
    assignCluster P observation existing =
      decisionOf P observation m.score (candidateObservation raw) := by
  have hclaim : observation.claim ≠ "" := by
    intro hempty
    rw [bestElement, if_pos hempty] at h
    cases h
  have hmatch := bestElement_match (P := P) hclaim existing
  rw [h, Option.map_some] at hmatch
  have hdecided : assignCluster P observation existing =
      decisionOf P observation m.score m.candidate := by
    rw [assignCluster, if_neg hclaim, ← hmatch]
    unfold decisionOf
    rfl
  rw [hdecided, candidate_bestElement h]

/-- An observation with another key of its origin. -/
def keyed (value : ObservationState) (key : String) : ObservationState :=
  { value with provenanceKey := key }

theorem candidate_reordered (h : Reordered raw other) : candidateObservation other =
    keyed (candidateObservation raw) (candidateObservation other).provenanceKey := by
  cases h <;> rfl

theorem matchCandidate_keyed (P : Platform) (observation value : ObservationState)
    (key : String) : matchCandidate P observation (keyed value key) =
      (matchCandidate P observation value).map
        fun m => { m with candidate := keyed value key } := by
  have hclaim : (keyed value key).claim = value.claim := rfl
  have hthreshold : threshold P observation (keyed value key) = threshold P observation value := rfl
  rw [matchCandidate, matchCandidate, hclaim, hthreshold]
  by_cases hempty : value.claim = ""
  · rw [if_pos hempty, if_pos hempty]
    rfl
  · rw [if_neg hempty, if_neg hempty]
    dsimp only
    generalize (claimFingerprint P (Text.chars observation.claim) ==
      claimFingerprint P (Text.chars value.claim)) = same
    generalize aliasMatch P (Text.chars observation.claim) (Text.chars value.claim) = related
    generalize similarity P (Text.chars observation.claim) (Text.chars value.claim) = score
    generalize threshold P observation value = bound
    by_cases hqualifies : (same || related ||
        decide (bound ≤ if same = true then 1 else score)) = true
    · rw [if_pos hqualifies, if_pos hqualifies]
      rfl
    · rw [if_neg hqualifies, if_neg hqualifies]
      rfl

theorem independentProvenance_decisionOf (P : Platform) (observation : ObservationState)
    (score : Rat) (value : ObservationState) :
    (decisionOf P observation score value).independentProvenance =
      isIndependent observation value := by
  rw [decisionOf]
  dsimp only
  split
  · rfl
  · split <;> rfl

/-- The key of an origin decides on independence and on nothing else. -/
theorem decisionOf_keyed (P : Platform) (observation : ObservationState) (score : Rat)
    (value : ObservationState) (key : String) : decisionOf P observation score (keyed value key) =
      { decisionOf P observation score value with
        independentProvenance := isIndependent observation (keyed value key) } := by
  have hclaim : (keyed value key).claim = value.claim := rfl
  have hreason : contradictionReason P observation (keyed value key) =
      contradictionReason P observation value := rfl
  rw [decisionOf, decisionOf, hclaim, hreason]
  dsimp only
  generalize aliasMatch P (Text.chars observation.claim) (Text.chars value.claim) = related
  generalize contradictionReason P observation value = reason
  by_cases hsame : claimFingerprint P (Text.chars value.claim) =
      claimFingerprint P (Text.chars observation.claim)
  · rw [if_pos hsame, if_pos hsame]
    rfl
  · rw [if_neg hsame, if_neg hsame]
    cases reason <;> rfl

/-- Matches that are ranked the same, of related elements. -/
structure SameRank (r : Existing → Existing → Prop) (p q : Match × Existing) : Prop where
  score : p.1.score = q.1.score
  exact : p.1.exact = q.1.exact
  matchedAlias : p.1.matchedAlias = q.1.matchedAlias
  id : p.1.candidate.observationId = q.1.candidate.observationId
  related : r p.2 q.2

theorem SameRank.better (h : SameRank r p q) (h' : SameRank r p' q') :
    p.1.better p'.1 = q.1.better q'.1 := by
  rw [Match.better, Match.better, h.score, h.exact, h.matchedAlias, h.id, h'.score, h'.exact,
    h'.matchedAlias, h'.id]

theorem rel_some {r : α → β → Prop} (h : Option.Rel r (some a) x) : ∃ b, x = some b ∧ r a b := by
  cases h with
  | some h => exact ⟨_, rfl, h⟩

theorem rel_none {r : α → β → Prop} {x : Option β} (h : Option.Rel r none x) : x = none := by
  cases h
  rfl

section Reordering

variable (P : Platform) (observation : ObservationState)
variable {r : Existing → Existing → Prop} (hr : ∀ raw other, r raw other → Reordered raw other)

include hr in
theorem elementMatch_reordered (h : r raw other) : Option.Rel (SameRank r)
    (elementMatch P observation raw) (elementMatch P observation other) := by
  rw [elementMatch, elementMatch, candidate_reordered (hr raw other h), matchCandidate_keyed]
  cases hmatch : matchCandidate P observation (candidateObservation raw) with
  | none => exact .none
  | some m =>
    exact .some
      { score := rfl
        exact := rfl
        matchedAlias := rfl
        id := by
          dsimp only
          rw [matchCandidate_candidate hmatch]
          rfl
        related := h }

include hr in
theorem betterElement_reordered (h : r raw other) (hbest : Option.Rel (SameRank r) best best') :
    Option.Rel (SameRank r) (betterElement P observation best raw)
      (betterElement P observation best' other) := by
  have hmatch := elementMatch_reordered P observation hr h
  cases hm : elementMatch P observation raw with
  | none =>
    rw [hm] at hmatch
    simp only [betterElement, hm, rel_none hmatch]
    exact hbest
  | some m =>
    rw [hm] at hmatch
    obtain ⟨m', hm', hrank⟩ := rel_some hmatch
    simp only [betterElement, hm, hm']
    cases hbest with
    | none => exact .some hrank
    | some hb =>
      dsimp only
      rw [hrank.better hb]
      split
      · exact .some hrank
      · exact .some hb

include hr in
/-- The best-matching element of a collection that is gone through in another order is the same
one. -/
theorem bestElement_reordered (h : List.Forall₂ r existing others) :
    Option.Rel (SameRank r) (bestElement P observation existing)
      (bestElement P observation others) := by
  have hfold {best best' : Option (Match × Existing)} (hbest : Option.Rel (SameRank r) best best') :
      Option.Rel (SameRank r) (existing.foldl (betterElement P observation) best)
        (others.foldl (betterElement P observation) best') := by
    induction h generalizing best best' with
    | nil => exact hbest
    | cons hraw _ ih => exact ih (betterElement_reordered P observation hr hraw hbest)
  rw [bestElement, bestElement]
  split
  · exact .none
  · exact hfold .none

include hr in
theorem assignCluster_reordered (h : List.Forall₂ r existing others)
    (hbest : bestElement P observation existing = some (m, raw)) :
    ∃ other, r raw other ∧ assignCluster P observation others =
      { assignCluster P observation existing with
        independentProvenance := isIndependent observation (candidateObservation other) } := by
  have hrel := bestElement_reordered P observation hr h
  rw [hbest] at hrel
  obtain ⟨⟨m', other⟩, hother, hsame⟩ := rel_some hrel
  apply Exists.intro other
  apply And.intro hsame.related
  rw [assignCluster_eq hbest, assignCluster_eq hother, ← hsame.score,
    candidate_reordered (hr raw other hsame.related), decisionOf_keyed]

end Reordering

/-- A cluster as it is seen with one key of its evidence. -/
def clusterView (c : ClusterState) (key : String) : ObservationState :=
  keyed (candidateObservation (.cluster c)) key

/-- A decision on a cluster that does not depend on the order of its evidence, and does not count
evidence that the cluster has. -/
def EvidenceSound (P : Platform) (observation : ObservationState) (existing : List Existing)
    (c : ClusterState) : Prop :=
  (∀ others, List.Forall₂ Reordered existing others →
    assignCluster P observation others = assignCluster P observation existing) ∧
  (observation.provenanceKey ∈ c.provenances →
    (assignCluster P observation existing).independentProvenance = false)

/-- Whether the keys of a cluster's evidence are all of one origin with an observation or none of
them is; all of them must be when the observation's own key is one of them. -/
def KeysAgree (observation : ObservationState) (c : ClusterState) : Prop :=
  (∀ key ∈ c.provenances, ∀ other ∈ c.provenances,
    SharesOrigin observation (clusterView c key) → SharesOrigin observation (clusterView c other)) ∧
  (observation.provenanceKey ∈ c.provenances →
    ∀ key ∈ c.provenances, SharesOrigin observation (clusterView c key))

theorem apart_clusterView (observation : ObservationState) (c : ClusterState) (key : String) :
    EvidenceApart observation (clusterView c key) ↔
      EvidenceApart observation (candidateObservation (.cluster c)) :=
  Iff.rfl

/-- The element in the place of a cluster when its evidence is gone through in another order. -/
def reorderCluster (c : ClusterState) (keys : List String) (raw : Existing) : Existing :=
  match raw with
  | .observation o => .observation o
  | .cluster d => if d = c then .cluster { c with provenances := keys } else .cluster d

theorem reordered_reorderCluster (h : keys.Perm c.provenances) (raw : Existing) :
    Reordered raw (reorderCluster c keys raw) := by
  cases raw with
  | observation o => exact .observation o
  | cluster d =>
    rw [reorderCluster]
    split
    · rename_i hd
      rw [hd]
      exact .cluster c keys h
    · exact .cluster d d.provenances (List.Perm.refl _)

theorem reorderCluster_self (c : ClusterState) (keys : List String) :
    reorderCluster c keys (.cluster c) = .cluster { c with provenances := keys } := by
  rw [reorderCluster, if_pos rfl]

theorem candidate_cluster_cons (c : ClusterState) (key : String) (keys : List String) :
    candidateObservation (.cluster { c with provenances := key :: keys }) = clusterView c key :=
  rfl

section Sound

variable {P : Platform} {observation : ObservationState} {existing : List Existing} {m : Match}
  {c : ClusterState} (hbest : bestElement P observation existing = some (m, .cluster c))

include hbest in
theorem independentProvenance_cluster :
    (assignCluster P observation existing).independentProvenance =
      isIndependent observation (candidateObservation (.cluster c)) := by
  rw [assignCluster_eq hbest, independentProvenance_decisionOf]

include hbest in
/-- The decision with another key in front is the one that the key makes. -/
theorem isIndependent_of_sound (hsound : EvidenceSound P observation existing c)
    (hkey : key ∈ c.provenances) : isIndependent observation (clusterView c key) =
      isIndependent observation (candidateObservation (.cluster c)) := by
  have hperm : (key :: c.provenances.erase key).Perm c.provenances :=
    (List.perm_cons_erase hkey).symm
  have hpair : List.Forall₂ (fun raw other => other = reorderCluster c
      (key :: c.provenances.erase key) raw) existing
        (existing.map (reorderCluster c (key :: c.provenances.erase key))) := by
    rw [List.forall₂_map_right_iff]
    exact List.forall₂_same.2 fun _ _ => rfl
  have hrelated (raw other : Existing)
      (h : other = reorderCluster c (key :: c.provenances.erase key) raw) :
      Reordered raw other := by
    rw [h]
    exact reordered_reorderCluster hperm raw
  obtain ⟨other, hother, hdecision⟩ := assignCluster_reordered P observation hrelated hpair hbest
  have hsame := hsound.1 _ (hpair.imp hrelated)
  rw [hdecision, hother, reorderCluster_self, candidate_cluster_cons] at hsame
  have hflag := congrArg ClusterDecision.independentProvenance hsame
  exact hflag.trans (independentProvenance_cluster hbest)

theorem isIndependent_clusterView : isIndependent observation (clusterView c key) = true ↔
    ¬SharesOrigin observation (clusterView c key) ∧ ¬Unplaced observation ∧
      EvidenceApart observation (candidateObservation (.cluster c)) := by
  rw [isIndependent_iff, apart_clusterView]

theorem candidate_of_mem (h : key ∈ c.provenances) : ∃ first ∈ c.provenances,
    candidateObservation (.cluster c) = clusterView c first := by
  cases hkeys : c.provenances with
  | nil =>
    rw [hkeys] at h
    exact (List.not_mem_nil h).elim
  | cons first keys =>
    apply Exists.intro first
    apply And.intro List.mem_cons_self
    rw [candidateObservation, hkeys]
    rfl

include hbest in
theorem keysAgree_of_sound (hplaced : ¬Unplaced observation)
    (hapart : EvidenceApart observation (candidateObservation (.cluster c)))
    (hsound : EvidenceSound P observation existing c) : KeysAgree observation c := by
  have hshares {key : String} : SharesOrigin observation (clusterView c key) ↔
      isIndependent observation (clusterView c key) = false := by
    rw [← Bool.not_eq_true, isIndependent_clusterView]
    apply Iff.intro
    · exact fun h hnot => hnot.1 h
    · intro h
      by_contra hnot
      exact h ⟨hnot, hplaced, hapart⟩
  apply And.intro
  · intro key hkey other hother h
    rw [hshares, isIndependent_of_sound hbest hsound hkey] at h
    rw [hshares, isIndependent_of_sound hbest hsound hother, h]
  · intro hown key hkey
    have hfalse := hsound.2 hown
    rw [independentProvenance_cluster hbest] at hfalse
    rw [hshares, isIndependent_of_sound hbest hsound hkey, hfalse]

theorem isIndependent_eq_of_keysAgree (h : Unplaced observation ∨
      ¬EvidenceApart observation (candidateObservation (.cluster c)) ∨ KeysAgree observation c)
    (hkey : key ∈ c.provenances) (hother : other ∈ c.provenances) :
    isIndependent observation (clusterView c key) =
      isIndependent observation (clusterView c other) := by
  rw [Bool.eq_iff_iff, isIndependent_clusterView, isIndependent_clusterView]
  cases h with
  | inl h => exact iff_of_false (fun hk => hk.2.1 h) fun hk => hk.2.1 h
  | inr h =>
    cases h with
    | inl h => exact iff_of_false (fun hk => h hk.2.2) fun hk => h hk.2.2
    | inr h =>
      apply and_congr_left'
      rw [not_iff_not]
      exact ⟨h.1 key hkey other hother, h.1 other hother key hkey⟩

include hbest in
theorem sound_of_keysAgree (h : Unplaced observation ∨
      ¬EvidenceApart observation (candidateObservation (.cluster c)) ∨ KeysAgree observation c) :
    EvidenceSound P observation existing c := by
  have hagree {key other : String} (hkey : key ∈ c.provenances) (hother : other ∈ c.provenances) :=
    isIndependent_eq_of_keysAgree h hkey hother
  apply And.intro
  · intro others hothers
    obtain ⟨other, hother, hdecision⟩ :=
      assignCluster_reordered P observation (fun _ _ hr => hr) hothers hbest
    have hsame : isIndependent observation (candidateObservation other) =
        isIndependent observation (candidateObservation (.cluster c)) := by
      cases hother with
      | cluster c keys hperm =>
        cases keys with
        | nil => rw [candidateObservation, candidateObservation, hperm.nil_eq]
        | cons key keys =>
          have hkey : key ∈ c.provenances := hperm.subset List.mem_cons_self
          obtain ⟨first, hfirst, hcandidate⟩ := candidate_of_mem hkey
          rw [hcandidate, candidate_cluster_cons]
          exact hagree hkey hfirst
    rw [hdecision, hsame, ← independentProvenance_cluster hbest]
  · intro hown
    obtain ⟨first, hfirst, hcandidate⟩ := candidate_of_mem hown
    rw [independentProvenance_cluster hbest, hcandidate, ← Bool.not_eq_true,
      isIndependent_clusterView]
    intro hnot
    cases h with
    | inl h => exact hnot.2.1 h
    | inr h => exact hnot.1 ((h.resolve_left (not_not.2 hnot.2.2)).2 hown first hfirst)

end Sound

/-- Independence is the same from both sides exactly when the observations share an origin or not
one of them alone says where it holds; the decision on a cluster is sound exactly when it is not
counted anyway, or all of the cluster's keys say the same of the origin. -/
theorem evidence_independence_iff (a b : ObservationState)
    (hbest : bestElement P observation existing = some (m, .cluster c)) :
    (isIndependent a b = isIndependent b a ↔ SharesOrigin a b ∨ ¬OneSided a b) ∧
      (EvidenceSound P observation existing c ↔ Unplaced observation ∨
        ¬EvidenceApart observation (candidateObservation (.cluster c)) ∨
          KeysAgree observation c) := by
  apply And.intro isIndependent_comm_iff
  apply Iff.intro
  · intro hsound
    by_contra hnot
    rw [not_or, not_or, not_not] at hnot
    exact hnot.2.2 (keysAgree_of_sound hbest hnot.1 hnot.2.1 hsound)
  · exact sound_of_keysAgree hbest

/-- An observation of a rule in a scope, which may be none. -/
def ruleObservation (key scope : String) : ObservationState :=
  { observationId := "o-1", claim := "Prefer pathlib.", domain := "", cwdFingerprint := scope
    provenanceKey := key, classification := "private-reusable" }

/-- A cluster of the same rule. -/
def ruleCluster (keys : List String) : ClusterState :=
  { clusterId := "c-1", rule := "Prefer pathlib.", provenances := keys, scopes := []
    benefitCount := 0, classification := "private-reusable" }

theorem evidence_independence_rule :
    ∃ c, c = ruleCluster ["source:a1", "source:b2"] ∧
      (isIndependent (ruleObservation "source:a1" "repo") (ruleObservation "source:b2" "") =
          isIndependent (ruleObservation "source:b2" "") (ruleObservation "source:a1" "repo") ↔
        SharesOrigin (ruleObservation "source:a1" "repo") (ruleObservation "source:b2" "") ∨
          ¬OneSided (ruleObservation "source:a1" "repo") (ruleObservation "source:b2" "")) ∧
      (EvidenceSound samplePlatform (ruleObservation "source:a1" "repo") [.cluster c] c ↔
        Unplaced (ruleObservation "source:a1" "repo") ∨
          ¬EvidenceApart (ruleObservation "source:a1" "repo") (candidateObservation (.cluster c)) ∨
            KeysAgree (ruleObservation "source:a1" "repo") c) := by
  have hcheck : (match bestElement samplePlatform (ruleObservation "source:a1" "repo")
      [.cluster (ruleCluster ["source:a1", "source:b2"])] with
      | some (_, .cluster d) => decide (d = ruleCluster ["source:a1", "source:b2"])
      | _ => false) = true := by
    decide +kernel
  split at hcheck
  · rename_i m d hbest
    obtain rfl := of_decide_eq_true hcheck
    exact ⟨_, rfl, evidence_independence_iff _ _ hbest⟩
  · cases hcheck

/-- Independence of an observation without a scope has a side, and what is decided of a cluster
depends on which key of its evidence comes first. -/
theorem evidence_depends_on_order :
    isIndependent (ruleObservation "source:b2" "") (ruleObservation "source:a1" "repo") = false ∧
    isIndependent (ruleObservation "source:a1" "repo") (ruleObservation "source:b2" "") = true ∧
    (assignCluster samplePlatform (ruleObservation "source:a1" "repo")
      [.cluster (ruleCluster ["source:a1", "source:b2"])]).independentProvenance = false ∧
    (assignCluster samplePlatform (ruleObservation "source:a1" "repo")
      [.cluster (ruleCluster ["source:b2", "source:a1"])]).independentProvenance = true := by
  decide +kernel

end ExternalIntelligence
