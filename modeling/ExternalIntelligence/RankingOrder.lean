import ExternalIntelligence.ExactRanking
import ExternalIntelligence.RecallIsolation

namespace ExternalIntelligence
set_option autoImplicit true

/-- The patterns are told apart by their ids. -/
def DistinctIds (patterns : List RawPattern) : Prop :=
  patterns.Pairwise fun a b => ∀ f g, patternMapping a = .ok f → patternMapping b = .ok g →
    getOr f "pattern_id" .none ≠ getOr g "pattern_id" .none

/-- Wherever two scored patterns may each end up as the best of a cluster, the results are filled
by clusters that rank before them. -/
def SettledScores (P : ExactScoring) (policy : ExactPolicy) (scored : List (ℚ × Fields)) : Prop :=
  RunningBest.Settled (scoredCluster P.toPlatform) (displaces P.toPlatform) (sortKey P.toPlatform)
    policy.maxResults scored

/-- Any order of the items that are read from a list comes from an order of the list. -/
theorem exists_perm_filterMap {g : α → Option β} {items : List α} {order : List β}
    (h : order.Perm (items.filterMap g)) :
    ∃ arranged : List α, arranged.Perm items ∧ arranged.filterMap g = order := by
  induction order generalizing items with
  | nil => exact ⟨items, .refl _, h.symm.eq_nil⟩
  | cons first order ih =>
    obtain ⟨item, hitem, hfirst⟩ := List.mem_filterMap.1 (h.subset List.mem_cons_self)
    obtain ⟨left, right, rfl⟩ := List.append_of_mem hitem
    have hmiddle : (left ++ item :: right).Perm (item :: (left ++ right)) := List.perm_middle
    have hrest : order.Perm ((left ++ right).filterMap g) := by
      have hall := h.trans (hmiddle.filterMap g)
      rw [List.filterMap_cons_some hfirst] at hall
      exact hall.cons_inv
    obtain ⟨arranged, hperm, hread⟩ := ih hrest
    refine ⟨item :: arranged, (hperm.cons item).trans hmiddle.symm, ?_⟩
    rw [List.filterMap_cons_some hfirst, hread]

theorem eq_of_map_eq {f : α → β} {items more : List α} (h : items.map f = more.map f)
    (hf : ∀ a ∈ items, ∀ b ∈ more, f a = f b → a = b) : items = more := by
  induction items generalizing more with
  | nil => exact (List.map_eq_nil_iff.1 h.symm).symm
  | cons a items ih =>
    cases more with
    | nil => cases h
    | cons b more =>
      rw [List.map_cons, List.map_cons, List.cons.injEq] at h
      rw [hf a List.mem_cons_self b List.mem_cons_self h.1, ih h.2 fun x hx y hy =>
        hf x (List.mem_cons_of_mem _ hx) y (List.mem_cons_of_mem _ hy)]

section Scored

variable (P : ExactScoring) (query : RetrievalQuery) (policy : ExactPolicy)

def readPattern (raw : RawPattern) : Option Fields :=
  (patternMapping raw).toOption

/-- The eligible patterns among some that can all be read. -/
def chosenPatterns (patterns : List RawPattern) : List Fields :=
  (patterns.filterMap readPattern).filter fun pattern => exactEligible P query pattern policy

/-- What is scored of a pattern, given the mean length and the latest date. -/
def scoreItem (average : ℚ) (latest : Int) (raw : RawPattern) : Option (ℚ × Fields) :=
  match patternMapping raw with
  | .error _ => none
  | .ok pattern =>
    let score := exactScore P query policy average latest pattern
    if exactEligible P query pattern policy = true ∧ policy.minScore ≤ score then
      some (score, pattern)
    else none

theorem readPattern_ok (h : patternMapping raw = .ok pattern) : readPattern raw = some pattern := by
  rw [readPattern, h]
  rfl

theorem mapM_patternMapping (patterns : List RawPattern) :
    (∃ e, ∀ order : List RawPattern, order.Perm patterns → order.mapM patternMapping = .error e) ∨
      ∀ order : List RawPattern, order.Perm patterns → order.mapM patternMapping =
        .ok (order.filterMap readPattern) := by
  by_cases hall : ∀ raw ∈ patterns, ∃ pattern, patternMapping raw = .ok pattern
  · right
    intro order hperm
    have horder : ∀ raw ∈ order, ∃ pattern, patternMapping raw = .ok pattern :=
      fun raw hraw => hall raw (hperm.subset hraw)
    clear hperm
    induction order with
    | nil => rfl
    | cons raw order ih =>
      obtain ⟨pattern, hpattern⟩ := horder raw List.mem_cons_self
      rw [List.mapM_cons, hpattern, ok_bind, ih fun next h =>
        horder next (List.mem_cons_of_mem _ h), ok_bind,
        List.filterMap_cons_some (readPattern_ok hpattern)]
      rfl
  · left
    refine ⟨⟨"TypeError", "PATTERN_REQUIRED"⟩, ?_⟩
    intro order hperm
    have horder : ¬∀ raw ∈ order, ∃ pattern, patternMapping raw = .ok pattern :=
      fun h => hall fun raw hraw => h raw (hperm.symm.subset hraw)
    clear hperm
    induction order with
    | nil => exact (horder fun raw hraw => absurd hraw List.not_mem_nil).elim
    | cons raw order ih =>
      rw [List.mapM_cons]
      cases raw with
      | other => rfl
      | mapping fields =>
        rw [patternMapping, ok_bind, ih]
        · rfl
        · intro h
          apply horder
          intro next hnext
          rcases List.mem_cons.1 hnext with rfl | hnext
          · exact ⟨_, rfl⟩
          · exact h next hnext
      | state pattern =>
        rw [patternMapping, ok_bind, ih]
        · rfl
        · intro h
          apply horder
          intro next hnext
          rcases List.mem_cons.1 hnext with rfl | hnext
          · exact ⟨_, rfl⟩
          · exact h next hnext

theorem filterMap_scoreItem (average : ℚ) (latest : Int) (patterns : List RawPattern) :
    (((chosenPatterns P query policy patterns).map fun pattern =>
      (exactScore P query policy average latest pattern, pattern)).filter fun item =>
        policy.minScore ≤ item.1) =
      patterns.filterMap (scoreItem P query policy average latest) := by
  induction patterns with
  | nil => rfl
  | cons raw patterns ih =>
    cases hraw : patternMapping raw with
    | error e =>
      have hread : readPattern raw = none := by
        rw [readPattern, hraw]
        rfl
      have hnone : scoreItem P query policy average latest raw = none := by rw [scoreItem, hraw]
      rw [chosenPatterns, List.filterMap_cons_none hread, List.filterMap_cons_none hnone, ← ih]
      rfl
    | ok pattern =>
      rw [chosenPatterns, List.filterMap_cons_some (readPattern_ok hraw), List.filter_cons]
      by_cases heligible : exactEligible P query pattern policy = true
      · rw [if_pos heligible, List.map_cons, List.filter_cons]
        by_cases hscore : policy.minScore ≤ exactScore P query policy average latest pattern
        · have hsome : scoreItem P query policy average latest raw =
              some (exactScore P query policy average latest pattern, pattern) := by
            rw [scoreItem, hraw]
            exact if_pos ⟨heligible, hscore⟩
          rw [if_pos (decide_eq_true hscore), List.filterMap_cons_some hsome, ← ih]
          rfl
        · have hnone : scoreItem P query policy average latest raw = none := by
            rw [scoreItem, hraw]
            exact if_neg fun h => hscore h.2
          rw [if_neg (by rwa [decide_eq_true_eq]), List.filterMap_cons_none hnone, ← ih]
          rfl
      · have hnone : scoreItem P query policy average latest raw = none := by
          rw [scoreItem, hraw]
          exact if_neg fun h => heligible h.1
        rw [if_neg heligible, List.filterMap_cons_none hnone, ← ih]
        rfl

variable {P query policy}

theorem chosenPatterns_perm (P : ExactScoring) (query : RetrievalQuery) (policy : ExactPolicy)
    (h : order.Perm patterns) :
    (chosenPatterns P query policy order).Perm (chosenPatterns P query policy patterns) :=
  (h.filterMap _).filter _

theorem averageLength_perm {P : Platform} (h : order.Perm patterns) :
    averageLength P order = averageLength P patterns := by
  rw [averageLength, averageLength, h.length_eq, (h.map _).sum_eq]

theorem latestOf_perm {P : Platform} (h : order.Perm patterns) :
    latestOf P order = latestOf P patterns := by
  have hdates := h.filterMap fun pattern => parseDate P (getOr pattern "updated_at" .none)
  rw [latestOf, latestOf]
  congr 1
  generalize (order.filterMap fun pattern =>
    parseDate P (getOr pattern "updated_at" .none)) = left at hdates
  generalize (patterns.filterMap fun pattern =>
    parseDate P (getOr pattern "updated_at" .none)) = right at hdates
  cases hright : right.max? with
  | none =>
    rw [List.max?_eq_none_iff] at hright ⊢
    exact (hright ▸ hdates).eq_nil
  | some latest =>
    rw [List.max?_eq_some_iff] at hright ⊢
    exact ⟨hdates.symm.subset hright.1, fun b hb => hright.2 b (hdates.subset hb)⟩

/-- Every order of the patterns scores the same items, in its own order. -/
theorem scoredPatterns_perm (P : ExactScoring) (query : RetrievalQuery) (policy : ExactPolicy)
    (patterns : List RawPattern) :
    (∃ e, ∀ order : List RawPattern, order.Perm patterns →
      scoredPatterns P query policy order = .error e) ∨
    ∃ average latest, ∀ order : List RawPattern, order.Perm patterns →
      scoredPatterns P query policy order =
        .ok (order.filterMap (scoreItem P query policy average latest)) := by
  cases mapM_patternMapping patterns with
  | inl herror =>
    obtain ⟨e, he⟩ := herror
    refine .inl ⟨e, fun order hperm => ?_⟩
    rw [scoredPatterns, he order hperm]
    rfl
  | inr hread =>
    refine .inr ⟨averageLength P.toPlatform (chosenPatterns P query policy patterns),
      latestOf P.toPlatform (chosenPatterns P query policy patterns), fun order hperm => ?_⟩
    have hchosen := chosenPatterns_perm P query policy hperm
    rw [scoredPatterns, hread order hperm, ok_bind, ← filterMap_scoreItem,
      ← averageLength_perm hchosen, ← latestOf_perm hchosen]
    rfl

/-- Of two scored patterns with ids of their own one takes the place of the other. -/
theorem displaces_or {P : Platform} {a b : ℚ × Fields}
    (h : patternIdText P a.2 ≠ patternIdText P b.2) :
    displaces P a b = true ∨ displaces P b a = true := by
  simp only [displaces, Bool.or_eq_true, Bool.and_eq_true, decide_eq_true_eq]
  rcases lt_trichotomy a.1 b.1 with hlt | heq | hlt
  · exact .inr (.inl hlt)
  · have hclose : exactClose a.1 b.1 = true ∧ exactClose b.1 a.1 = true := by
      rw [heq, exactClose, beq_self_eq_true, Bool.true_or, Bool.true_or, Bool.true_or]
      exact ⟨rfl, rfl⟩
    rcases lt_or_gt_of_ne h with hid | hid
    · exact .inl (.inr ⟨hclose.1, hid⟩)
    · exact .inr (.inr ⟨hclose.2, hid⟩)
  · exact .inl (.inl hlt)

theorem scoreItem_some (h : scoreItem P query policy average latest raw = some item) :
    patternMapping raw = .ok item.2 ∧ ∃ id, item.2.lookup "pattern_id" = some (.str id) := by
  rw [scoreItem] at h
  cases hraw : patternMapping raw with
  | error e =>
    rw [hraw] at h
    cases h
  | ok pattern =>
    rw [hraw] at h
    simp only at h
    split at h
    · rename_i hgood
      cases h
      refine ⟨rfl, ?_⟩
      have heligible := hgood.1
      simp only [exactEligible] at heligible
      split at heligible
      · cases heligible
      · rename_i hid
        rw [getOr] at hid
        cases hlookup : pattern.lookup "pattern_id" with
        | none =>
          rw [hlookup] at hid
          exact (hid rfl).elim
        | some value =>
          rw [hlookup] at hid
          cases value with
          | str id => exact ⟨id, rfl⟩
          | _ => exact (hid rfl).elim
    · cases h

theorem patternIdText_str {P : Platform} {pattern : Fields}
    (h : pattern.lookup "pattern_id" = some (.str patternId)) :
    patternIdText P pattern = patternId := by
  rw [patternIdText, getOr, h]
  rfl

theorem scoreItem_ids (P : ExactScoring) (query : RetrievalQuery) (policy : ExactPolicy)
    (h : DistinctIds patterns) (average : ℚ) (latest : Int) :
    (patterns.filterMap (scoreItem P query policy average latest)).Pairwise fun a b =>
      patternIdText P.toPlatform a.2 ≠ patternIdText P.toPlatform b.2 := by
  rw [List.pairwise_filterMap]
  apply h.imp
  intro x y hdistinct a ha b hb
  obtain ⟨hx, idA, hidA⟩ := scoreItem_some ha
  obtain ⟨hy, idB, hidB⟩ := scoreItem_some hb
  have hne := hdistinct a.2 b.2 hx hy
  rw [getOr, getOr, hidA, hidB] at hne
  rw [patternIdText_str hidA, patternIdText_str hidB]
  intro he
  exact hne (by rw [he])

end Scored

/-- With exact scores the hits of patterns told apart by their ids do not depend on the order of
the patterns exactly when the scores are settled. -/
theorem exactRankPatterns_perm_iff (P : ExactScoring) (query : RetrievalQuery)
    (policy : ExactPolicy) (h : DistinctIds patterns) :
    (∀ order : List RawPattern, order.Perm patterns →
      exactRankPatterns P query order policy = exactRankPatterns P query patterns policy) ↔
    ∀ scored, scoredPatterns P query policy patterns = .ok scored →
      SettledScores P policy scored := by
  cases scoredPatterns_perm P query policy patterns with
  | inl herror =>
    obtain ⟨e, he⟩ := herror
    refine ⟨fun _ scored hscored => ?_, fun _ order hperm => ?_⟩
    · rw [he patterns (.refl _)] at hscored
      cases hscored
    · rw [exactRankPatterns, exactRankPatterns, he order hperm, he patterns (.refl _)]
  | inr hscores =>
    obtain ⟨average, latest, hscored⟩ := hscores
    have hids := scoreItem_ids P query policy h average latest
    generalize hitems : patterns.filterMap (scoreItem P query policy average latest) = items at hids
    have hinj : ∀ a ∈ items, ∀ b ∈ items,
        patternIdText P.toPlatform a.2 = patternIdText P.toPlatform b.2 → a = b := by
      have hnodup : (items.map fun a => patternIdText P.toPlatform a.2).Nodup :=
        List.pairwise_map.2 hids
      exact fun a ha b hb he => List.inj_on_of_nodup_map hnodup ha hb he
    have hnodup : items.Nodup := hids.imp fun hne he => hne (by rw [he])
    have hall : RunningBest.Compared (displaces P.toPlatform) items :=
      fun a ha b hb hne => displaces_or fun he => hne (hinj a ha b hb he)
    have hrank : ∀ a ∈ items, ∀ b ∈ items,
        sortKey P.toPlatform a = sortKey P.toPlatform b → a = b := by
      intro a ha b hb he
      exact hinj a ha b hb
        (congrArg (fun key : ℚ ×ₗ String ×ₗ String => (ofLex (ofLex key).2).1) he)
    have hsettled : (∀ scored, scoredPatterns P query policy patterns = .ok scored →
        SettledScores P policy scored) ↔ SettledScores P policy items := by
      rw [hscored patterns (.refl _), hitems]
      exact ⟨fun hs => hs items rfl, fun hs scored he => by cases he; exact hs⟩
    rw [hsettled, SettledScores, ← RunningBest.leaders_perm_iff hall hnodup hrank]
    have hranked : ∀ order : List RawPattern, order.Perm patterns →
        exactRankPatterns P query order policy =
          .ok ((RunningBest.leaders (scoredCluster P.toPlatform) (displaces P.toPlatform)
            (sortKey P.toPlatform) policy.maxResults
            (order.filterMap (scoreItem P query policy average latest))).map
              (exactHit P "personal")) := by
      intro order hperm
      rw [exactRankPatterns, hscored order hperm]
      rfl
    have hleader : ∀ order : List (ℚ × Fields), order.Perm items →
        ∀ a ∈ RunningBest.leaders (scoredCluster P.toPlatform) (displaces P.toPlatform)
          (sortKey P.toPlatform) policy.maxResults order, a ∈ items := by
      intro order hperm a ha
      exact hperm.subset (RunningBest.mem_of_mem_winners
        ((RunningBest.ranking_perm _ order).subset (List.mem_of_mem_take ha)))
    constructor
    · intro hsame order hperm
      rw [← hitems] at hperm
      obtain ⟨arranged, harranged, rfl⟩ := exists_perm_filterMap hperm
      have hhits := hsame arranged harranged
      rw [hranked arranged harranged, hranked patterns (.refl _), Except.ok.injEq] at hhits
      rw [hitems] at hperm hhits
      apply eq_of_map_eq hhits
      intro a ha b hb he
      exact hinj a (hleader _ hperm a ha) b (hleader _ (.refl _) b hb) (congrArg (·.patternId) he)
    · intro hsame order hperm
      have hitem := hperm.filterMap (scoreItem P query policy average latest)
      rw [hitems] at hitem
      rw [hranked order hperm, hranked patterns (.refl _), hsame _ hitem, hitems]

/-- Scores of one cluster that are equal or not close leave the better one as the best. -/
theorem settled_of_apart {scored : List (ℚ × Fields)}
    (h : ∀ a ∈ scored, ∀ b ∈ scored, scoredCluster P.toPlatform a = scoredCluster P.toPlatform b →
      exactClose a.1 b.1 = true → a.1 = b.1) : SettledScores P policy scored := by
  intro a b ha hb hkey hne
  rw [RunningBest.Likely, ← hkey] at hb
  have hlater : ∀ x y, RunningBest.Beats (displaces P.toPlatform)
      (RunningBest.group (scoredCluster P.toPlatform) scored (scoredCluster P.toPlatform a)) x y →
        (toLex (-x.1, patternIdText P.toPlatform x.2) : ℚ ×ₗ String) <
          toLex (-y.1, patternIdText P.toPlatform y.2) := by
    intro x y hbeats
    obtain ⟨hx, hxk⟩ := RunningBest.mem_group.1 hbeats.1
    obtain ⟨hy, hyk⟩ := RunningBest.mem_group.1 hbeats.2.1
    have hwins := hbeats.2.2
    simp only [displaces, Bool.or_eq_true, Bool.and_eq_true, decide_eq_true_eq] at hwins
    rw [Prod.Lex.toLex_lt_toLex]
    rcases hwins with hlt | ⟨hclose, hid⟩
    · exact .inl (neg_lt_neg hlt)
    · exact .inr ⟨congrArg Neg.neg (h x hx y hy (hxk.trans hyk.symm) hclose), hid⟩
  exact (hne (RunningBest.Contender.eq ha hb hlater)).elim

section Sample

/-- A decimal number of ASCII digits. -/
def sampleRational (text : List Char) : Option ℚ :=
  match text.splitOn '.' with
  | [whole] => (decimal whole).map fun n => (n : ℚ)
  | [whole, part] => do
    let n ← decimal whole
    let m ← decimal part
    pure (n + m / 10 ^ part.length)
  | _ => none

def sampleScoring : ExactScoring where
  toRecallPlatform := sampleRecall
  rationalOfText text := sampleRational (Text.chars text)
  halfPower x := (1 / 2) ^ ⌊x⌋.toNat

def sampleQuery : RetrievalQuery :=
  { domain := "docs" }

/-- A pattern of one cluster with a success rate of its own. -/
def ratedPattern (patternId rate : String) : RawPattern :=
  .mapping [("pattern_id", .str patternId), ("cluster_id", .str "caching"),
    ("applicability", .list [.str "docs"]), ("evidence_count", .int 2),
    ("observed_benefit", .bool true), ("success_rate", .str rate)]

theorem ratedPattern_ids (h : a ≠ b) :
    DistinctIds [ratedPattern a first, ratedPattern b second] := by
  rw [DistinctIds, List.pairwise_pair]
  intro f g hf hg
  cases hf
  cases hg
  exact fun he => h (Value.str.inj he)

/-- Two patterns whose rates are far apart come out the same either way. -/
theorem exactRankPatterns_sample :
    exactRankPatterns sampleScoring sampleQuery [ratedPattern "b" "1", ratedPattern "a" "0.5"] {} =
      exactRankPatterns sampleScoring sampleQuery [ratedPattern "a" "0.5", ratedPattern "b" "1"]
        {} := by
  refine (exactRankPatterns_perm_iff sampleScoring sampleQuery {} (ratedPattern_ids (by decide))).2
    ?_ _ (List.Perm.swap ..)
  intro scored hscored
  have hcheck : (scoredPatterns sampleScoring sampleQuery {}
      [ratedPattern "a" "0.5", ratedPattern "b" "1"]).toOption.any (fun scored =>
        scored.all fun a => scored.all fun b =>
          !exactClose a.1 b.1 || decide (a.1 = b.1)) = true := by
    decide +kernel
  rw [hscored] at hcheck
  apply settled_of_apart
  intro a ha b hb _ hclose
  have hboth := List.all_eq_true.1 (List.all_eq_true.1 hcheck a ha) b hb
  rw [hclose, Bool.not_true, Bool.false_or, decide_eq_true_eq] at hboth
  exact hboth

/-- Of two patterns of a cluster with close rates the one that comes later is recalled. -/
theorem close_rates_ordered :
    DistinctIds [ratedPattern "a" "0.999999999", ratedPattern "b" "1"] ∧
    (exactRankPatterns sampleScoring sampleQuery [ratedPattern "a" "0.999999999",
      ratedPattern "b" "1"] {}).map (List.map ExactHit.patternId) = .ok ["b"] ∧
    (exactRankPatterns sampleScoring sampleQuery [ratedPattern "b" "1",
      ratedPattern "a" "0.999999999"] {}).map (List.map ExactHit.patternId) = .ok ["a"] := by
  refine ⟨ratedPattern_ids (by decide), ?_, ?_⟩
  · decide +kernel
  · decide +kernel

end Sample

end ExternalIntelligence
