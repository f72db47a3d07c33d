import ExternalIntelligence.RankingOrder

namespace ExternalIntelligence
set_option autoImplicit true

/-- The most that a scored pattern gives away to a pattern that takes its place. -/
def closeLoss (bound : ℚ) : ℚ :=
  bound / 10 ^ 9 + 1 / 10 ^ 12

/-- An item is the best of its cluster up to what close scores give away. -/
def NearBest (P : Platform) (scored : List (ℚ × Fields)) (best : ℚ × Fields) : Prop :=
  ∀ bound, (∀ item ∈ scored, |item.1| ≤ bound) → ∀ item ∈ scored,
    scoredCluster P item = scoredCluster P best →
      item.1 ≤ best.1 + scored.length • closeLoss bound

/-- What the patterns behind the results of a query are. -/
structure RankedBy (P : ExactScoring) (query : RetrievalQuery) (policy : ExactPolicy)
    (scored leaders : List (ℚ × Fields)) : Prop where
  few : leaders.length ≤ policy.maxResults
  among : leaders ⊆ scored
  eligible : ∀ item ∈ leaders,
    exactEligible P query item.2 policy = true ∧ policy.minScore ≤ item.1
  clusters : leaders.Pairwise fun a b =>
    scoredCluster P.toPlatform a ≠ scoredCluster P.toPlatform b
  ordered : leaders.Pairwise fun a b => sortKey P.toPlatform a ≤ sortKey P.toPlatform b
  near : ∀ item ∈ leaders, NearBest P.toPlatform scored item
  full : ∀ item ∈ scored, (∀ leader ∈ leaders,
      scoredCluster P.toPlatform leader ≠ scoredCluster P.toPlatform item) →
    leaders.length = policy.maxResults ∧ ∃ best ∈ scored,
      scoredCluster P.toPlatform best = scoredCluster P.toPlatform item ∧
      NearBest P.toPlatform scored best ∧
      ∀ leader ∈ leaders, sortKey P.toPlatform leader ≤ sortKey P.toPlatform best

/-- The scored patterns are those of the given ones that are eligible and reach the least score,
each with its score among the eligible ones. -/
def ScoredFrom (P : ExactScoring) (query : RetrievalQuery) (policy : ExactPolicy)
    (given : List Fields) (scored : List (ℚ × Fields)) : Prop :=
  let chosen := given.filter fun pattern => exactEligible P query pattern policy
  ∀ score pattern, (score, pattern) ∈ scored ↔
    pattern ∈ given ∧ exactEligible P query pattern policy = true ∧
      score = exactScore P query policy (averageLength P.toPlatform chosen)
        (latestOf P.toPlatform chosen) pattern ∧ policy.minScore ≤ score

theorem exactClose_loss (h : exactClose a b = true) (ha : |a| ≤ bound) (hb : |b| ≤ bound) :
    b ≤ a + closeLoss bound := by
  have hbound : 0 ≤ bound := (abs_nonneg a).trans ha
  have hpart : 0 ≤ bound / 10 ^ 9 := by positivity
  have hscaled : ∀ x : ℚ, |x| ≤ bound → |x / 10 ^ 9| ≤ bound / 10 ^ 9 := by
    intro x hx
    rw [abs_div, abs_of_pos (by norm_num : (0 : ℚ) < 10 ^ 9)]
    exact div_le_div_of_nonneg_right hx (by norm_num)
  have hdiff : b - a ≤ |b - a| := le_abs_self _
  have hsmall : (0 : ℚ) ≤ 1 / 10 ^ 12 := by norm_num
  rw [closeLoss]
  simp only [exactClose, Bool.or_eq_true, beq_iff_eq, decide_eq_true_eq] at h
  obtain ((he | hc) | hc) | hc := h
  · rw [he]
    linarith
  · have := hscaled b hb
    linarith
  · have := hscaled a ha
    linarith
  · linarith

/-- The winner of a cluster is nearly the best of it. -/
theorem nearBest_of_winner {P : Platform}
    (h : best ∈ RunningBest.winners (scoredCluster P) (displaces P) scored) :
    NearBest P scored best := by
  intro bound hbound item hitem hcluster
  have hchampion := RunningBest.mem_winners.1 h
  have hgroup : RunningBest.group (scoredCluster P) scored (scoredCluster P best) ⊆ scored :=
    fun other hm => (RunningBest.mem_group.1 hm).1
  have hnonneg : 0 ≤ closeLoss bound := by
    have hb : 0 ≤ bound := (abs_nonneg _).trans (hbound item hitem)
    rw [closeLoss]
    positivity
  have hnear := RunningBest.le_champion_add Prod.fst hnonneg
    (fun a ha b hb hdisplaces => by
      simp only [displaces, Bool.or_eq_true, Bool.and_eq_true, decide_eq_true_eq] at hdisplaces
      obtain hlt | ⟨hclose, _⟩ := hdisplaces
      · exact hlt.le.trans (le_add_of_nonneg_right hnonneg)
      · exact exactClose_loss hclose (hbound a (hgroup ha)) (hbound b (hgroup hb)))
    (fun a _ b _ hkeeps => by
      simp only [displaces, Bool.or_eq_false_iff, decide_eq_false_iff_not, not_lt] at hkeeps
      exact hkeeps.1)
    hchampion item (RunningBest.mem_group.2 ⟨hitem, hcluster⟩)
  have hshort : (RunningBest.group (scoredCluster P) scored (scoredCluster P best)).length ≤
      scored.length := List.length_filter_le ..
  exact hnear.trans (add_le_add_right (nsmul_le_nsmul_left hnonneg hshort) _)

theorem scoredPatterns_from (h : scoredPatterns P query policy patterns = .ok scored) :
    ∃ given, patterns.mapM patternMapping = .ok given ∧ ScoredFrom P query policy given scored := by
  obtain ⟨given, hgiven, h⟩ := Except.bind_eq_ok.1 h
  cases h
  refine ⟨given, hgiven, ?_⟩
  intro score pattern
  rw [List.mem_filter, List.mem_map, decide_eq_true_eq]
  apply Iff.intro
  · rintro ⟨⟨other, hother, hitem⟩, hscore⟩
    obtain ⟨rfl, rfl⟩ := Prod.mk.inj hitem
    have hchosen := List.mem_filter.1 hother
    exact ⟨hchosen.1, hchosen.2, rfl, hscore⟩
  · rintro ⟨hmem, heligible, rfl, hscore⟩
    exact ⟨⟨pattern, List.mem_filter.2 ⟨hmem, heligible⟩, rfl⟩, hscore⟩

theorem scoredPatterns_eligible (h : scoredPatterns P query policy patterns = .ok scored)
    (hm : item ∈ scored) :
    exactEligible P query item.2 policy = true ∧ policy.minScore ≤ item.1 := by
  obtain ⟨_, _, hfrom⟩ := scoredPatterns_from h
  obtain ⟨_, heligible, _, hscore⟩ := (hfrom item.1 item.2).1 hm
  exact ⟨heligible, hscore⟩

/-- The first of the ranked winners are what the results of a query are to be. -/
theorem rankedBy_leaders (h : scoredPatterns P query policy patterns = .ok scored) :
    RankedBy P query policy scored (RunningBest.leaders (scoredCluster P.toPlatform)
      (displaces P.toPlatform) (sortKey P.toPlatform) policy.maxResults scored) := by
  rw [RunningBest.leaders]
  generalize hranked : RunningBest.ranking (scoredCluster P.toPlatform) (displaces P.toPlatform)
    (sortKey P.toPlatform) scored = ranked
  have hwinner : ∀ item, item ∈ ranked ↔
      item ∈ RunningBest.winners (scoredCluster P.toPlatform) (displaces P.toPlatform) scored := by
    intro item
    rw [← hranked]
    exact (RunningBest.ranking_perm _ scored).mem_iff
  have hsorted : ranked.Pairwise fun a b => sortKey P.toPlatform a ≤ sortKey P.toPlatform b := by
    have : Std.Total fun a b : ℚ × Fields =>
        sortKey P.toPlatform a ≤ sortKey P.toPlatform b := ⟨fun a b => le_total _ _⟩
    have : IsTrans (ℚ × Fields) fun a b =>
        sortKey P.toPlatform a ≤ sortKey P.toPlatform b := ⟨fun _ _ _ => le_trans⟩
    rw [← hranked]
    exact List.pairwise_insertionSort _ _
  have hdistinct : ranked.Nodup := by
    rw [← hranked]
    exact (RunningBest.ranking_perm _ scored).nodup_iff.2 (RunningBest.winners_nodup scored)
  have hmem : ranked.take policy.maxResults ⊆ scored := fun item hm =>
    RunningBest.mem_of_mem_winners ((hwinner item).1 (List.mem_of_mem_take hm))
  constructor
  case few => exact List.length_take_le _ _
  case among => exact hmem
  case eligible => exact fun item hm => scoredPatterns_eligible h (hmem hm)
  case clusters =>
    apply List.Pairwise.sublist (List.take_sublist _ _)
    apply List.Pairwise.imp_of_mem _ hdistinct
    intro a b ha hb hne hcluster
    exact hne (RunningBest.eq_of_mem_winners ((hwinner a).1 ha) ((hwinner b).1 hb) hcluster)
  case ordered => exact hsorted.sublist (List.take_sublist _ _)
  case near => exact fun item hm =>
    nearBest_of_winner ((hwinner item).1 (List.mem_of_mem_take hm))
  case full =>
    intro item hitem hnone
    obtain ⟨best, hbest, hcluster⟩ := RunningBest.exists_winner
      (scoredCluster P.toPlatform) (displaces P.toPlatform) hitem
    have hin := (hwinner best).2 hbest
    rw [← List.take_append_drop policy.maxResults ranked, List.mem_append] at hin
    have hlater := hin.resolve_left fun hm => hnone best hm hcluster
    rw [← List.take_append_drop policy.maxResults ranked, List.pairwise_append] at hsorted
    refine ⟨?_, best, RunningBest.mem_of_mem_winners hbest, hcluster, nearBest_of_winner hbest,
      fun leader hm => hsorted.2.2 leader hm best hlater⟩
    have hpos := List.length_pos_of_mem hlater
    rw [List.length_drop] at hpos
    rw [List.length_take]
    omega

/-- The results of a query are at most as many as the policy allows, in the order of their keys,
one for each cluster and nearly the best of it, and no cluster is left out that could have come
before one of them. -/
theorem exactRankPatterns_spec {P : ExactScoring} {query : RetrievalQuery}
    {patterns : List RawPattern} {policy : ExactPolicy} {hits : List ExactHit}
    (h : exactRankPatterns P query patterns policy = .ok hits) :
    ∃ given scored leaders, patterns.mapM patternMapping = .ok given ∧
      scoredPatterns P query policy patterns = .ok scored ∧
      ScoredFrom P query policy given scored ∧ RankedBy P query policy scored leaders ∧
      hits = leaders.map (exactHit P "personal") := by
  obtain ⟨scored, hscored, h⟩ := Except.bind_eq_ok.1 h
  cases h
  obtain ⟨given, hgiven, hfrom⟩ := scoredPatterns_from hscored
  exact ⟨given, scored, _, hgiven, hscored, hfrom, rankedBy_leaders hscored, rfl⟩

theorem exactRankPatterns_spec_sample :
    ∃ hits, exactRankPatterns sampleScoring sampleQuery
        [ratedPattern "a" "0.5", ratedPattern "b" "1"] {} = .ok hits ∧
      ∃ given scored leaders,
        [ratedPattern "a" "0.5", ratedPattern "b" "1"].mapM patternMapping = .ok given ∧
        scoredPatterns sampleScoring sampleQuery {}
          [ratedPattern "a" "0.5", ratedPattern "b" "1"] = .ok scored ∧
        ScoredFrom sampleScoring sampleQuery {} given scored ∧
        RankedBy sampleScoring sampleQuery {} scored leaders ∧
        hits = leaders.map (exactHit sampleScoring "personal") := by
  have hranks : (exactRankPatterns sampleScoring sampleQuery
      [ratedPattern "a" "0.5", ratedPattern "b" "1"] {}).isOk = true := by
    decide +kernel
  cases h : exactRankPatterns sampleScoring sampleQuery
      [ratedPattern "a" "0.5", ratedPattern "b" "1"] {} with
  | error raised =>
    rw [h] at hranks
    cases hranks
  | ok hits => exact ⟨hits, rfl, exactRankPatterns_spec h⟩

end ExternalIntelligence
