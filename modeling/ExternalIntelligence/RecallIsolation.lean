import ExternalIntelligence.JournalReading
import ExternalIntelligence.Retrieve

namespace ExternalIntelligence
set_option autoImplicit true

/-- A list whose items are those of two lists, each list in its own order. -/
inductive Interleaves : List α → List α → List α → Prop where
  | nil : Interleaves [] [] []
  | left : Interleaves xs ys zs → Interleaves (x :: xs) ys (x :: zs)
  | right : Interleaves xs ys zs → Interleaves xs (y :: ys) (y :: zs)

/-- A pattern that is read and found not eligible. -/
def Ineligible (P : RecallPlatform) (query : RetrievalQuery) (policy : RetrievalPolicy)
    (raw : RawPattern) : Prop :=
  ∃ pattern, patternMapping raw = .ok pattern ∧ eligible P query pattern policy = .ok false

theorem eligiblePatterns_ineligible (P : RecallPlatform)
    (h : Ineligible P query policy raw) (rest : List RawPattern) :
    eligiblePatterns P query policy (raw :: rest) = eligiblePatterns P query policy rest := by
  obtain ⟨pattern, hpattern, heligible⟩ := h
  rw [eligiblePatterns, hpattern, ok_bind, heligible, ok_bind]
  cases eligiblePatterns P query policy rest <;> rfl

/-- Ineligible patterns are gone before anything is computed from the others. -/
theorem eligiblePatterns_interleaves (P : RecallPlatform) {kept hidden all : List RawPattern}
    (h : Interleaves kept hidden all) (hh : ∀ raw ∈ hidden, Ineligible P query policy raw) :
    eligiblePatterns P query policy all = eligiblePatterns P query policy kept := by
  induction h with
  | nil => rfl
  | left _ ih =>
    rw [eligiblePatterns, eligiblePatterns, ih hh]
  | right _ ih =>
    rw [eligiblePatterns_ineligible P (hh _ List.mem_cons_self)]
    exact ih fun raw hraw => hh raw (List.mem_cons_of_mem _ hraw)

theorem mem_eligiblePatterns {P : RecallPlatform} {patterns : List RawPattern}
    (h : eligiblePatterns P query policy patterns = .ok chosen) :
    ∀ pattern ∈ chosen, ∃ raw ∈ patterns, patternMapping raw = .ok pattern ∧
      eligible P query pattern policy = .ok true := by
  induction patterns generalizing chosen with
  | nil =>
    cases h
    simp
  | cons raw patterns ih =>
    rw [eligiblePatterns] at h
    obtain ⟨pattern, hpattern, h⟩ := Except.bind_eq_ok.1 h
    obtain ⟨good, hgood, h⟩ := Except.bind_eq_ok.1 h
    obtain ⟨rest, hrest, h⟩ := Except.bind_eq_ok.1 h
    cases h
    have hlater : ∀ other ∈ rest, ∃ raw' ∈ raw :: patterns, patternMapping raw' = .ok other ∧
        eligible P query other policy = .ok true := by
      intro other hother
      obtain ⟨raw', hraw', hboth⟩ := ih hrest other hother
      exact ⟨raw', List.mem_cons_of_mem _ hraw', hboth⟩
    cases good with
    | false => exact hlater
    | true =>
      intro other hother
      rcases List.mem_cons.1 hother with rfl | hother
      · exact ⟨raw, List.mem_cons_self, hpattern, hgood⟩
      · exact hlater other hother

/-- An eligible pattern with a host field is allowed by the host scope, whatever the policy. -/
theorem eligible_host {P : RecallPlatform} (h : eligible P query pattern policy = .ok true)
    (hnew : newHostScopePresent pattern = true) :
    hostScopeAllowed P.toPlatform query pattern = true := by
  simp only [eligible] at h
  split at h
  · cases h
  · split at h
    · cases h
    · split at h
      · cases h
      · obtain ⟨contradictions, _, h⟩ := Except.map_eq_ok.1 h
        split at h
        · cases h
        · simp only [Bool.and_eq_true, hostAllowed, hnew, if_true] at h
          exact h.1.2

theorem mem_of_mapM_ok {f : α → Except Raised β} {items : List α} (h : items.mapM f = .ok results)
    (hr : result ∈ results) : ∃ item ∈ items, f item = .ok result := by
  induction items generalizing results with
  | nil =>
    cases h
    simp at hr
  | cons item items ih =>
    rw [List.mapM_cons] at h
    obtain ⟨first, hfirst, h⟩ := Except.bind_eq_ok.1 h
    obtain ⟨rest, hrest, h⟩ := Except.bind_eq_ok.1 h
    cases h
    rcases List.mem_cons.1 hr with rfl | hr
    · exact ⟨item, List.mem_cons_self, hfirst⟩
    · obtain ⟨other, hother, ho⟩ := ih hrest hr
      exact ⟨other, List.mem_cons_of_mem _ hother, ho⟩

theorem mem_of_mem_set [DecidableEq κ] {key : κ} {value : α} {dict : List (κ × α)}
    (h : p ∈ Dict.set key value dict) : p.2 = value ∨ p ∈ dict := by
  induction dict with
  | nil =>
    rw [Dict.set, List.mem_singleton] at h
    exact .inl (h ▸ rfl)
  | cons q dict ih =>
    rw [Dict.set] at h
    split at h
    · rcases List.mem_cons.1 h with rfl | h
      · exact .inl rfl
      · exact .inr (List.mem_cons_of_mem _ h)
    · rcases List.mem_cons.1 h with rfl | h
      · exact .inr List.mem_cons_self
      · exact (ih h).imp_right (List.mem_cons_of_mem _)

theorem mem_of_mem_addBest {best : List (String × Float × Fields)}
    (h : p ∈ addBest P best item) : p.2 = item ∨ p ∈ best := by
  rw [addBest] at h
  split at h
  · exact mem_of_mem_set h
  · split at h
    · exact mem_of_mem_set h
    · exact .inr h

theorem mem_of_mem_best {scored : List (Float × Fields)} {best : List (String × Float × Fields)}
    (h : p ∈ scored.foldl (addBest P) best) : p.2 ∈ scored ∨ p ∈ best := by
  induction scored generalizing best with
  | nil => exact .inr h
  | cons item scored ih =>
    rcases ih h with h | h
    · exact .inl (List.mem_cons_of_mem _ h)
    · rcases mem_of_mem_addBest h with he | h
      · exact .inl (he ▸ List.mem_cons_self)
      · exact .inr h

/-- What is ranked is a pattern that was given. -/
theorem mem_rankEligible {P : RecallPlatform} {patterns : List Fields}
    (h : rankEligible P query policy patterns = .ok ranked) (hi : item ∈ ranked) :
    item.2 ∈ patterns := by
  rw [rankEligible] at h
  obtain ⟨scores, _, h⟩ := Except.bind_eq_ok.1 h
  cases h
  rw [List.mem_insertionSort, List.mem_map] at hi
  obtain ⟨p, hp, rfl⟩ := hi
  rcases mem_of_mem_best hp with hp | hp
  · exact (List.of_mem_zip (List.mem_filter.1 hp).1).2
  · simp at hp

theorem mem_rankPatterns {P : RecallPlatform} {patterns : List RawPattern}
    (h : rankPatterns P query patterns policy = .ok hits) (hhit : hit ∈ hits) :
    ∃ raw ∈ patterns, ∃ pattern score, patternMapping raw = .ok pattern ∧
      eligible P query pattern policy = .ok true ∧
      hitOf P "personal" (score, pattern) = .ok hit := by
  rw [rankPatterns, rankPatternsWithin] at h
  obtain ⟨chosen, hchosen, h⟩ := Except.bind_eq_ok.1 h
  split at h
  · cases h
    simp at hhit
  · obtain ⟨ranked, hranked, h⟩ := Except.bind_eq_ok.1 h
    obtain ⟨item, hitem, hmade⟩ := mem_of_mapM_ok h hhit
    have hin := mem_rankEligible hranked (List.mem_of_mem_take hitem)
    obtain ⟨raw, hraw, hmapping, heligible⟩ := mem_eligiblePatterns hchosen item.2 hin
    exact ⟨raw, hraw, item.2, item.1, hmapping, heligible, hmade⟩

/-- Patterns that are not eligible change nothing in the hits, wherever they stand, and a hit of a
pattern with a host field is within the pattern's host scope. -/
theorem rankPatterns_isolated (P : RecallPlatform) (query : RetrievalQuery)
    (policy : RetrievalPolicy) {kept hidden all : List RawPattern}
    (h : Interleaves kept hidden all) (hh : ∀ raw ∈ hidden, Ineligible P query policy raw) :
    rankPatterns P query all policy = rankPatterns P query kept policy ∧
      ∀ hits, rankPatterns P query all policy = .ok hits → ∀ hit ∈ hits,
        ∃ raw ∈ kept, ∃ pattern score, patternMapping raw = .ok pattern ∧
          hitOf P "personal" (score, pattern) = .ok hit ∧
          (newHostScopePresent pattern = true →
            hostScopeAllowed P.toPlatform query pattern = true) := by
  have hsame : rankPatterns P query all policy = rankPatterns P query kept policy := by
    rw [rankPatterns, rankPatternsWithin, eligiblePatterns_interleaves P h hh]
    rfl
  refine ⟨hsame, ?_⟩
  intro hits hhits hit hhit
  rw [hsame] at hhits
  obtain ⟨raw, hraw, pattern, score, hmapping, heligible, hmade⟩ := mem_rankPatterns hhits hhit
  exact ⟨raw, hraw, pattern, score, hmapping, hmade, eligible_host heligible⟩

def sampleRecall : RecallPlatform where
  toPlatform := samplePlatform
  decimalDigit c := if Text.isDigit c then some (c.toNat - 48) else none
  floatOfText text := (decimal (Text.chars text)).map Float.ofNat
  floatOfInt i := .ok (Float.ofInt i)
  intOfFloat x := .ok x.toInt64.toInt
  trueDivide a b := Float.ofInt a / Float.ofInt b
  roundTo x digits := (x * Float.ofNat (10 ^ digits)).round / Float.ofNat (10 ^ digits)

def hostPattern (patternId hostId status : String) : Fields :=
  [("pattern_id", .str patternId), ("rule", .str "cache the token"), ("status", .str status),
    ("source_host_id", .str hostId), ("source_host_family", .str "family"),
    ("applicability_scope", .str "host"), ("applicable_host_ids", .list [.str hostId]),
    ("applicable_host_families", .list [])]

def sampleRecallQuery : RetrievalQuery where
  prompt := "cache the token"
  hostId := "host-a"

def recallAll : RetrievalPolicy where
  minScore := 0

/-- A deprecated pattern and one of another host are hidden, and one of the host itself is kept. -/
theorem rankPatterns_isolated_sample :
    let kept : List RawPattern := [.mapping (hostPattern "new" "host-a" "active")]
    let hidden : List RawPattern := [.mapping (hostPattern "old" "host-a" "deprecated"),
      .mapping (hostPattern "other" "host-b" "active")]
    rankPatterns sampleRecall sampleRecallQuery (hidden ++ kept) recallAll =
        rankPatterns sampleRecall sampleRecallQuery kept recallAll ∧
      ∀ hits, rankPatterns sampleRecall sampleRecallQuery (hidden ++ kept) recallAll = .ok hits →
        ∀ hit ∈ hits, ∃ score, hitOf sampleRecall "personal"
            (score, hostPattern "new" "host-a" "active") = .ok hit ∧
          hostScopeAllowed samplePlatform sampleRecallQuery
            (hostPattern "new" "host-a" "active") = true := by
  intro kept hidden
  have hhidden : ∀ raw ∈ hidden, Ineligible sampleRecall sampleRecallQuery recallAll raw := by
    intro raw hraw
    rw [List.mem_cons, List.mem_singleton] at hraw
    rcases hraw with rfl | rfl
    · exact ⟨_, rfl, rfl⟩
    · exact ⟨_, rfl, congrArg Except.ok (ite_self false)⟩
  have h := rankPatterns_isolated sampleRecall sampleRecallQuery recallAll
    (.right (.right (.left .nil)) : Interleaves kept hidden (hidden ++ kept)) hhidden
  refine ⟨h.1, ?_⟩
  intro hits hhits hit hhit
  obtain ⟨raw, hraw, pattern, score, hmapping, hmade, hallowed⟩ := h.2 hits hhits hit hhit
  obtain rfl := List.mem_singleton.1 hraw
  cases hmapping
  exact ⟨score, hmade, hallowed rfl⟩

end ExternalIntelligence
