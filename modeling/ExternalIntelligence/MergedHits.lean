import ExternalIntelligence.Grouping
import ExternalIntelligence.JournalReading
import ExternalIntelligence.RecallIsolation
import Mathlib.Data.List.MinMax
import Mathlib.Data.Prod.Lex
import Mathlib.Data.Rat.Defs
import Mathlib.Algebra.Order.Ring.Rat

namespace ExternalIntelligence
set_option autoImplicit true

/-- Recall with the rational number that a finite float is, by which floats are compared. -/
structure ExactRecall extends RecallPlatform where
  exact : Float → ℚ

/-- A fingerprint as its producer gives it. -/
def suppliedFingerprint (P : Platform) (hit : RetrievalHit) : List Char :=
  P.casefold (Text.strip (Text.chars hit.claimFingerprint))

def withoutHashPrefix (supplied : List Char) : List Char :=
  if (Text.chars "sha256:").isPrefixOf supplied then supplied.drop 7 else supplied

def normalisedRuleFingerprint (P : Platform) (hit : RetrievalHit) : String :=
  if hit.rule ≠ "" then "sha256:" ++ claimFingerprint P (Text.chars hit.rule)
  else
    let supplied := withoutHashPrefix (suppliedFingerprint P hit)
    "sha256:" ++ if supplied.isEmpty then claimFingerprint P [] else String.ofList supplied

/-- The fingerprint that a hit comes with, if it comes with one. -/
def ownFingerprint (P : Platform) (hit : RetrievalHit) : Option String :=
  if (suppliedFingerprint P hit).isEmpty then none
  else
    let supplied := withoutHashPrefix (suppliedFingerprint P hit)
    some ("sha256:" ++ if isDigest (String.ofList supplied) then String.ofList supplied
      else claimFingerprint P supplied)

def hitFingerprints (P : Platform) (hit : RetrievalHit) : List String :=
  normalisedRuleFingerprint P hit :: (ownFingerprint P hit).toList

def supersedesRelation (left right : RetrievalHit) : Bool :=
  right.supersedes.contains left.patternId || left.supersedes.contains right.patternId

/-- Whether two hits are kept apart by nothing but their scores. -/
def hitsRelated (P : Platform) (hit member : RetrievalHit) : Bool :=
  hit.patternId == member.patternId ||
    (hitFingerprints P hit).any (hitFingerprints P member).contains || supersedesRelation hit member

/-- A hit as it is merged. -/
def mergeCandidate (P : Platform) (expectedScope : String) (hit : RetrievalHit) : RetrievalHit :=
  { hit with
    knowledgeScope := expectedScope
    claimFingerprint := (ownFingerprint P hit).getD (normalisedRuleFingerprint P hit) }

def mergeCandidates (P : Platform) (personalHits teamHits : List RetrievalHit) :
    List RetrievalHit :=
  personalHits.map (mergeCandidate P "personal") ++ teamHits.map (mergeCandidate P "team")

/-- The key of the order of merged hits. -/
def mergeKey (P : ExactRecall) (hit : RetrievalHit) : ℚ ×ₗ ℕ ×ₗ String ×ₗ String :=
  toLex (-P.exact (P.roundTo hit.score 12), toLex
    (if hit.knowledgeScope = "personal" then 0 else 1, toLex (hit.patternId, hit.clusterId)))

def sortHits (P : ExactRecall) (hits : List RetrievalHit) : List RetrievalHit :=
  hits.insertionSort fun a b => mergeKey P a ≤ mergeKey P b

/-- The best hit of each group, in order. -/
def mergedHits (P : ExactRecall) (personalHits teamHits : List RetrievalHit) :
    List RetrievalHit :=
  let ordered := sortHits P (mergeCandidates P.toPlatform personalHits teamHits)
  let groups := Grouping.groupsOf (hitsRelated P.toPlatform) ordered
  sortHits P (groups.filterMap (List.argmin (mergeKey P)))

def mergeRetrievalHits (P : ExactRecall) (personalHits teamHits : List RetrievalHit)
    (policy : RetrievalPolicy) : List RetrievalHit :=
  (mergedHits P personalHits teamHits).take policy.maxResults

theorem hitsRelated_symm (P : Platform) (a b : RetrievalHit) :
    hitsRelated P a b = hitsRelated P b a := by
  have hid : (a.patternId == b.patternId) = (b.patternId == a.patternId) := Bool.beq_comm
  have hshared : (hitFingerprints P a).any (hitFingerprints P b).contains =
      (hitFingerprints P b).any (hitFingerprints P a).contains := by
    rw [Bool.eq_iff_iff, List.any_eq_true, List.any_eq_true]
    simp only [List.contains_iff_mem]
    exact exists_congr fun _ => and_comm
  have hsuper : supersedesRelation a b = supersedesRelation b a := Bool.or_comm ..
  rw [hitsRelated, hitsRelated, hid, hshared, hsuper]

theorem hitsRelated_self (P : Platform) (hit : RetrievalHit) : hitsRelated P hit hit = true := by
  rw [hitsRelated, beq_self_eq_true, Bool.true_or, Bool.true_or]

theorem mergeKey_patternId {P : ExactRecall} {a b : RetrievalHit}
    (h : mergeKey P a = mergeKey P b) : a.patternId = b.patternId :=
  congrArg (fun key : ℚ ×ₗ ℕ ×ₗ String ×ₗ String =>
    (ofLex (ofLex (ofLex key).2).2).1) h

/-- A chain of related hits. -/
def LinkedHits (P : Platform) (candidates : List RetrievalHit) (a b : RetrievalHit) : Prop :=
  Grouping.Joined (hitsRelated P) candidates a b

section Best

variable {P : ExactRecall}

theorem sortHits_perm (P : ExactRecall) (hits : List RetrievalHit) :
    (sortHits P hits).Perm hits :=
  List.perm_insertionSort _ _

theorem sortHits_pairwise (P : ExactRecall) (hits : List RetrievalHit) :
    (sortHits P hits).Pairwise fun a b => mergeKey P a ≤ mergeKey P b := by
  have : Std.Total fun a b : RetrievalHit => mergeKey P a ≤ mergeKey P b :=
    ⟨fun a b => le_total (mergeKey P a) (mergeKey P b)⟩
  have : IsTrans RetrievalHit fun a b => mergeKey P a ≤ mergeKey P b := ⟨fun _ _ _ => le_trans⟩
  exact List.pairwise_insertionSort _ _

/-- The groups that the candidates are scanned into. -/
theorem groups_sortHits (P : ExactRecall) (candidates : List RetrievalHit) :
    Grouping.Groups (hitsRelated P.toPlatform) (sortHits P candidates)
      (Grouping.groupsOf (hitsRelated P.toPlatform) (sortHits P candidates)) :=
  Grouping.groups_groupsOf (hitsRelated_symm P.toPlatform) _

theorem linked_iff_sorted {candidates : List RetrievalHit} :
    Grouping.Joined (hitsRelated P.toPlatform) (sortHits P candidates) a b ↔
      LinkedHits P.toPlatform candidates a b :=
  ⟨fun h => h.mono (sortHits_perm P candidates).subset,
    fun h => h.mono (sortHits_perm P candidates).symm.subset⟩

theorem mem_mergedHits {personal team : List RetrievalHit} : best ∈ mergedHits P personal team ↔
    ∃ group ∈ Grouping.groupsOf (hitsRelated P.toPlatform)
      (sortHits P (mergeCandidates P.toPlatform personal team)),
      best ∈ List.argmin (mergeKey P) group := by
  rw [mergedHits, (sortHits_perm P _).mem_iff, List.mem_filterMap]
  rfl

/-- A merged hit is a candidate, and the best of those it is linked to. -/
theorem best_mergedHits {personal team : List RetrievalHit}
    (h : best ∈ mergedHits P personal team) :
    best ∈ mergeCandidates P.toPlatform personal team ∧ ∀ hit,
      LinkedHits P.toPlatform (mergeCandidates P.toPlatform personal team) best hit →
        mergeKey P best ≤ mergeKey P hit := by
  obtain ⟨group, hgroup, hmin⟩ := mem_mergedHits.1 h
  have hgroups := groups_sortHits P (mergeCandidates P.toPlatform personal team)
  have hmem := List.argmin_mem hmin
  constructor
  · apply (sortHits_perm P _).subset
    exact hgroups.perm.subset (List.mem_flatten_of_mem hgroup hmem)
  · intro hit hlinked
    have hin := hgroups.mem_of_joined (hitsRelated_symm P.toPlatform) hgroup hmem
      (linked_iff_sorted.2 hlinked)
    exact List.le_of_mem_argmin hin hmin

/-- Every candidate is linked to a merged hit. -/
theorem exists_mergedHits {personal team : List RetrievalHit}
    (h : hit ∈ mergeCandidates P.toPlatform personal team) : ∃ best ∈ mergedHits P personal team,
      LinkedHits P.toPlatform (mergeCandidates P.toPlatform personal team) hit best := by
  have hgroups := groups_sortHits P (mergeCandidates P.toPlatform personal team)
  obtain ⟨group, hgroup, hmem⟩ := hgroups.exists_group ((sortHits_perm P _).mem_iff.2 h)
  cases hmin : List.argmin (mergeKey P) group with
  | none =>
    rw [List.argmin_eq_none] at hmin
    exact absurd hmin (hgroups.nonempty group hgroup)
  | some best =>
    refine ⟨best, mem_mergedHits.2 ⟨group, hgroup, hmin⟩, ?_⟩
    exact linked_iff_sorted.1 (hgroups.joined group hgroup hit hmem best (List.argmin_mem hmin))

/-- No two merged hits are linked. -/
theorem mergedHits_apart (P : ExactRecall) (personal team : List RetrievalHit) :
    (mergedHits P personal team).Pairwise fun a b =>
      ¬LinkedHits P.toPlatform (mergeCandidates P.toPlatform personal team) a b := by
  have hgroups := groups_sortHits P (mergeCandidates P.toPlatform personal team)
  have hsymm := hitsRelated_symm P.toPlatform
  rw [mergedHits, (sortHits_perm P _).pairwise_iff (fun hab hba => hab (hba.symm hsymm)),
    List.pairwise_filterMap]
  apply hgroups.apart.imp_of_mem
  intro g k hg hk hapart a ha b hb hlinked
  have hin := hgroups.mem_of_joined hsymm hg (List.argmin_mem ha) (linked_iff_sorted.2 hlinked)
  have hself := hapart b hin b (List.argmin_mem hb)
  rw [hitsRelated_self] at hself
  cases hself

/-- Merged hits are in the order of their keys, which are all different. -/
theorem mergedHits_sorted (P : ExactRecall) (personal team : List RetrievalHit) :
    (mergedHits P personal team).Pairwise fun a b => mergeKey P a < mergeKey P b := by
  have hsorted : (mergedHits P personal team).Pairwise fun a b => mergeKey P a ≤ mergeKey P b :=
    sortHits_pairwise P _
  apply (hsorted.and (mergedHits_apart P personal team)).imp_of_mem
  intro a b ha hb hboth
  apply lt_of_le_of_ne hboth.1
  intro he
  apply hboth.2
  apply Relation.ReflTransGen.single
  refine ⟨(best_mergedHits ha).1, (best_mergedHits hb).1, ?_⟩
  rw [hitsRelated, mergeKey_patternId he, beq_self_eq_true, Bool.true_or, Bool.true_or]

/-- The keys of merged hits are the least keys of the candidates that are linked. -/
theorem mem_keys_mergedHits {personal team : List RetrievalHit} :
    key ∈ (mergedHits P personal team).map (mergeKey P) ↔
      ∃ hit ∈ mergeCandidates P.toPlatform personal team, mergeKey P hit = key ∧ ∀ other,
        LinkedHits P.toPlatform (mergeCandidates P.toPlatform personal team) hit other →
          mergeKey P hit ≤ mergeKey P other := by
  rw [List.mem_map]
  constructor
  · intro h
    obtain ⟨best, hbest, he⟩ := h
    obtain ⟨hmem, hleast⟩ := best_mergedHits hbest
    exact ⟨best, hmem, he, hleast⟩
  · intro h
    obtain ⟨hit, hmem, he, hleast⟩ := h
    obtain ⟨best, hbest, hlinked⟩ := exists_mergedHits hmem
    have hback := hlinked.symm (hitsRelated_symm P.toPlatform)
    refine ⟨best, hbest, ?_⟩
    rw [← he]
    exact le_antisymm ((best_mergedHits hbest).2 hit hback) (hleast best hlinked)

theorem keys_mergedHits_perm {personal personal' team team' : List RetrievalHit}
    (hpersonal : personal.Perm personal') (hteam : team.Perm team') :
    (mergedHits P personal team).map (mergeKey P) =
      (mergedHits P personal' team').map (mergeKey P) := by
  have hcandidates : (mergeCandidates P.toPlatform personal team).Perm
      (mergeCandidates P.toPlatform personal' team') :=
    (hpersonal.map _).append (hteam.map _)
  have hlinked : ∀ a b, LinkedHits P.toPlatform (mergeCandidates P.toPlatform personal team) a b ↔
      LinkedHits P.toPlatform (mergeCandidates P.toPlatform personal' team') a b :=
    fun a b => ⟨fun h => h.mono hcandidates.subset, fun h => h.mono hcandidates.symm.subset⟩
  have hsorted : ∀ personal team,
      ((mergedHits P personal team).map (mergeKey P)).Pairwise (· < ·) :=
    fun personal team => List.pairwise_map.2 (mergedHits_sorted P personal team)
  have hperm : ((mergedHits P personal team).map (mergeKey P)).Perm
      ((mergedHits P personal' team').map (mergeKey P)) := by
    apply (List.perm_ext_iff_of_nodup ((hsorted _ _).imp fun hab => ne_of_lt hab)
      ((hsorted _ _).imp fun hab => ne_of_lt hab)).2
    intro key
    rw [mem_keys_mergedHits, mem_keys_mergedHits]
    simp only [hcandidates.mem_iff, hlinked]
  apply hperm.eq_of_pairwise _ (hsorted _ _) (hsorted _ _)
  intro a b _ _ hab hba
  exact absurd hab (lt_asymm hba)

end Best

/-- The hits that are given, each with the scope it is given for. -/
def givenHits (personal team : List RetrievalHit) : List (String × RetrievalHit) :=
  personal.map (("personal", ·)) ++ team.map (("team", ·))

/-- The fingerprints by which a given hit is compared: that of its rule, and the one that it comes
with, which is a digest or a text with a digest of its own. -/
inductive HasFingerprint (P : Platform) (hit : RetrievalHit) : String → Prop
  | rule : hit.rule ≠ "" →
      HasFingerprint P hit ("sha256:" ++ claimFingerprint P (Text.chars hit.rule))
  | supplied : P.casefold (Text.strip (Text.chars hit.claimFingerprint)) = text → text ≠ [] →
      (text = Text.chars "sha256:" ++ bare ∨ text = bare ∧ ¬Text.chars "sha256:" <+: text) →
      HasFingerprint P hit ("sha256:" ++
        if isDigest (String.ofList bare) then String.ofList bare else claimFingerprint P bare)
  | blank : hit.rule = "" → P.casefold (Text.strip (Text.chars hit.claimFingerprint)) = [] →
      HasFingerprint P hit ("sha256:" ++ claimFingerprint P [])

/-- Two given hits are of one pattern, share a fingerprint, or one supersedes the other. -/
def Related (P : Platform) (a b : RetrievalHit) : Prop :=
  a.patternId = b.patternId ∨
    (∃ fingerprint, HasFingerprint P a fingerprint ∧ HasFingerprint P b fingerprint) ∨
    a.patternId ∈ b.supersedes ∨ b.patternId ∈ a.supersedes

/-- A chain of related hits among the given ones. -/
def Linked (P : Platform) (given : List (String × RetrievalHit)) :
    String × RetrievalHit → String × RetrievalHit → Prop :=
  Relation.ReflTransGen fun a b => a ∈ given ∧ b ∈ given ∧ Related P a.2 b.2

theorem Related.symm (h : Related P a b) : Related P b a := by
  obtain hid | ⟨fingerprint, ha, hb⟩ | hsuper := h
  · exact .inl hid.symm
  · exact .inr (.inl ⟨fingerprint, hb, ha⟩)
  · exact .inr (.inr hsuper.symm)

theorem Linked.symm (h : Linked P given a b) : Linked P given b a := by
  induction h with
  | refl => exact .refl
  | tail _ hstep ih => exact .head ⟨hstep.2.1, hstep.1, hstep.2.2.symm⟩ ih

/-- The order of given hits: by the rounded score, the personal ones first, then by their ids. -/
def givenKey (P : ExactRecall) (given : String × RetrievalHit) : ℚ ×ₗ ℕ ×ₗ String ×ₗ String :=
  toLex (-P.exact (P.roundTo given.2.score 12), toLex
    (if given.1 = "personal" then 0 else 1, toLex (given.2.patternId, given.2.clusterId)))

/-- A hit is returned as it was given, under its scope and with one of its fingerprints. -/
def Returns (P : Platform) (hit : RetrievalHit) (given : String × RetrievalHit) : Prop :=
  ∃ fingerprint, HasFingerprint P given.2 fingerprint ∧
    hit = { given.2 with knowledgeScope := given.1, claimFingerprint := fingerprint }

section Given

variable {P : Platform} {hit : RetrievalHit} {fingerprint : String}

theorem withoutHashPrefix_of_hash (bare : List Char) :
    withoutHashPrefix (Text.chars "sha256:" ++ bare) = bare := by
  rw [withoutHashPrefix, if_pos (List.isPrefixOf_iff_prefix.2 (List.prefix_append _ _))]
  exact List.drop_left' (by decide)

theorem withoutHashPrefix_of_bare (h : ¬Text.chars "sha256:" <+: bare) :
    withoutHashPrefix bare = bare := by
  rw [withoutHashPrefix, if_neg fun hstarts => h (List.isPrefixOf_iff_prefix.1 hstarts)]

theorem eq_bare (text : List Char) : text = Text.chars "sha256:" ++ withoutHashPrefix text ∨
    text = withoutHashPrefix text ∧ ¬Text.chars "sha256:" <+: text := by
  by_cases h : Text.chars "sha256:" <+: text
  · obtain ⟨bare, rfl⟩ := h
    rw [withoutHashPrefix_of_hash]
    exact .inl rfl
  · exact .inr ⟨(withoutHashPrefix_of_bare h).symm, h⟩

/-- The fingerprint that a hit comes with is one of its fingerprints. -/
theorem mem_ownFingerprint : fingerprint ∈ ownFingerprint P hit ↔
    suppliedFingerprint P hit ≠ [] ∧ fingerprint = "sha256:" ++
      if isDigest (String.ofList (withoutHashPrefix (suppliedFingerprint P hit))) then
        String.ofList (withoutHashPrefix (suppliedFingerprint P hit))
      else claimFingerprint P (withoutHashPrefix (suppliedFingerprint P hit)) := by
  rw [ownFingerprint]
  cases suppliedFingerprint P hit with
  | nil => exact iff_of_false (Option.not_mem_none _) fun h => h.1 rfl
  | cons c cs =>
    rw [List.isEmpty_cons, if_neg Bool.false_ne_true, Option.mem_some_iff]
    exact ⟨fun h => ⟨List.cons_ne_nil _ _, h.symm⟩, fun h => h.2.symm⟩

theorem hasFingerprint_iff : HasFingerprint P hit fingerprint ↔
    (hit.rule ≠ "" ∧ fingerprint = "sha256:" ++ claimFingerprint P (Text.chars hit.rule)) ∨
      fingerprint ∈ ownFingerprint P hit ∨
      (hit.rule = "" ∧ suppliedFingerprint P hit = [] ∧
        fingerprint = "sha256:" ++ claimFingerprint P []) := by
  constructor
  · intro h
    cases h with
    | rule hrule => exact .inl ⟨hrule, rfl⟩
    | supplied htext hsome hbare =>
      rename_i text bare
      subst htext
      have he : withoutHashPrefix (suppliedFingerprint P hit) = bare := by
        rw [suppliedFingerprint]
        obtain hstarts | ⟨hsame, hstarts⟩ := hbare
        · rw [hstarts, withoutHashPrefix_of_hash]
        · rw [withoutHashPrefix_of_bare hstarts, hsame]
      exact .inr (.inl (mem_ownFingerprint.2 ⟨hsome, by rw [he]⟩))
    | blank hrule hnone => exact .inr (.inr ⟨hrule, hnone, rfl⟩)
  · intro h
    obtain ⟨hrule, rfl⟩ | hown | ⟨hrule, hnone, rfl⟩ := h
    · exact .rule hrule
    · obtain ⟨hsome, rfl⟩ := mem_ownFingerprint.1 hown
      exact .supplied rfl hsome (eq_bare _)
    · exact .blank hrule hnone

/-- The fingerprint that a hit is merged with. -/
def mergedFingerprint (P : Platform) (hit : RetrievalHit) : String :=
  (ownFingerprint P hit).getD (normalisedRuleFingerprint P hit)

theorem mergedFingerprint_spec (P : Platform) (hit : RetrievalHit) :
    HasFingerprint P hit (mergedFingerprint P hit) := by
  rw [hasFingerprint_iff, mergedFingerprint]
  cases hown : ownFingerprint P hit with
  | some fingerprint => exact .inr (.inl rfl)
  | none =>
    have hnone : suppliedFingerprint P hit = [] := by
      rw [ownFingerprint] at hown
      split at hown
      · exact List.isEmpty_iff.1 ‹_›
      · cases hown
    rw [Option.getD_none, normalisedRuleFingerprint]
    by_cases hrule : hit.rule = ""
    · rw [if_neg (not_not.2 hrule), hnone]
      exact .inr (.inr ⟨hrule, rfl, rfl⟩)
    · rw [if_pos hrule]
      exact .inl ⟨hrule, rfl⟩

/-- A fingerprint is a digest behind its algorithm. -/
theorem HasFingerprint.digest (hP : P.HexDigests) (h : HasFingerprint P hit fingerprint) :
    ∃ digest, isDigest digest = true ∧ fingerprint = "sha256:" ++ digest := by
  cases h with
  | rule _ => exact ⟨_, hP _, rfl⟩
  | supplied _ _ _ =>
    rename_i bare _ _ _
    cases hdigest : isDigest (String.ofList bare) with
    | true => exact ⟨_, hdigest, rfl⟩
    | false => exact ⟨_, hP _, rfl⟩
  | blank _ _ => exact ⟨_, hP _, rfl⟩

theorem isLowerHex_range (h : isLowerHex c = true) :
    48 ≤ c.toNat ∧ c.toNat ≤ 57 ∨ 97 ≤ c.toNat ∧ c.toNat ≤ 102 := by
  rw [isLowerHex, Text.isDigit, Bool.or_eq_true, Bool.and_eq_true, Bool.and_eq_true,
    decide_eq_true_eq, decide_eq_true_eq, decide_eq_true_eq, decide_eq_true_eq] at h
  exact h

theorem not_space_of_isLowerHex (h : isLowerHex c = true) : Text.isSpace c = false := by
  have hrange := isLowerHex_range h
  simp only [Text.isSpace, Bool.or_eq_false_iff, Bool.and_eq_false_iff, decide_eq_false_iff_not,
    beq_eq_false_iff_ne]
  omega

theorem asciiLower_of_isLowerHex (h : isLowerHex c = true) : Text.asciiLower c = c := by
  apply if_neg
  rw [Bool.and_eq_true, decide_eq_true_eq, decide_eq_true_eq]
  intro hupper
  have hleast : 65 ≤ c.toNat := hupper.1
  have hmost : c.toNat ≤ 90 := hupper.2
  have hrange := isLowerHex_range h
  omega

theorem strip_of_no_space {text : List Char} (h : ∀ c ∈ text, Text.isSpace c = false) :
    Text.strip text = text := by
  have hfirst : text.dropWhile Text.isSpace = text := by
    rw [List.dropWhile_eq_self_iff]
    intro hlength
    rw [h _ (List.getElem_mem hlength)]
    exact Bool.false_ne_true
  rw [Text.strip, hfirst, List.rdropWhile_eq_self_iff]
  intro hsome
  rw [h _ (List.getLast_mem hsome)]
  exact Bool.false_ne_true

/-- A hash stays as it is under the normalisation of a fingerprint. -/
theorem suppliedFingerprint_of_hash
    (hfold : ∀ s, isHash s = true → P.casefold (Text.chars s) = Text.chars s)
    (hdigest : isDigest digest = true) (h : hit.claimFingerprint = "sha256:" ++ digest) :
    suppliedFingerprint P hit = Text.chars "sha256:" ++ Text.chars digest := by
  have hchars : Text.chars ("sha256:" ++ digest) = Text.chars "sha256:" ++ Text.chars digest := by
    rw [Text.chars_eq_toList, Text.chars_eq_toList, Text.chars_eq_toList, String.toList_append]
  have hstrip : Text.strip (Text.chars "sha256:" ++ Text.chars digest) =
      Text.chars "sha256:" ++ Text.chars digest := by
    have hhex := hdigest
    rw [isDigest, Bool.and_eq_true, beq_iff_eq, List.all_eq_true] at hhex
    apply strip_of_no_space
    intro c hc
    have hstart : ∀ c ∈ Text.chars "sha256:", Text.isSpace c = false := by
      rw [Text.chars_eq_toList]
      simp [Text.isSpace]
    exact (List.mem_append.1 hc).elim (hstart c) fun hc => not_space_of_isLowerHex (hhex.2 c hc)
  rw [suppliedFingerprint, h, hchars, hstrip, ← hchars]
  exact hfold _ (isHash_of_isDigest hdigest)

/-- The fingerprints of a hit are that of its rule, if it has one, and the one it is merged with. -/
theorem hasFingerprint_iff_merged : HasFingerprint P hit fingerprint ↔
    (hit.rule ≠ "" ∧ fingerprint = "sha256:" ++ claimFingerprint P (Text.chars hit.rule)) ∨
      fingerprint = mergedFingerprint P hit := by
  constructor
  · intro h
    obtain hrule | hown | ⟨hrule, hnone, rfl⟩ := hasFingerprint_iff.1 h
    · exact .inl hrule
    · apply Or.inr
      rw [mergedFingerprint, Option.mem_def.1 hown, Option.getD_some]
    · apply Or.inr
      rw [mergedFingerprint, ownFingerprint, hnone, List.isEmpty_nil, if_pos rfl, Option.getD_none,
        normalisedRuleFingerprint, if_neg (not_not.2 hrule), hnone]
      rfl
  · intro h
    obtain ⟨hrule, rfl⟩ | rfl := h
    · exact .rule hrule
    · exact mergedFingerprint_spec P hit

/-- A hit as it is merged is compared by the fingerprints that it was given with. -/
theorem mem_hitFingerprints (hP : P.HexDigests)
    (hfold : ∀ s, isHash s = true → P.casefold (Text.chars s) = Text.chars s) (scope : String) :
    fingerprint ∈ hitFingerprints P (mergeCandidate P scope hit) ↔
      HasFingerprint P hit fingerprint := by
  obtain ⟨digest, hdigest, hmerged⟩ := (mergedFingerprint_spec P hit).digest hP
  have hsupplied : suppliedFingerprint P (mergeCandidate P scope hit) =
      Text.chars "sha256:" ++ Text.chars digest :=
    suppliedFingerprint_of_hash hfold hdigest hmerged
  have hsome : suppliedFingerprint P (mergeCandidate P scope hit) ≠ [] := by
    rw [hsupplied]
    exact List.append_ne_nil_of_left_ne_nil (by decide) _
  have hbare : withoutHashPrefix (suppliedFingerprint P (mergeCandidate P scope hit)) =
      Text.chars digest := by
    rw [hsupplied, withoutHashPrefix_of_hash]
  have htext : String.ofList (Text.chars digest) = digest := by
    rw [Text.chars_eq_toList, String.ofList_toList]
  have hown : ownFingerprint P (mergeCandidate P scope hit) = some (mergedFingerprint P hit) := by
    apply mem_ownFingerprint.2
    rw [hbare, htext, if_pos hdigest]
    exact ⟨hsome, hmerged⟩
  have hrule : normalisedRuleFingerprint P (mergeCandidate P scope hit) =
      if hit.rule ≠ "" then "sha256:" ++ claimFingerprint P (Text.chars hit.rule)
      else mergedFingerprint P hit := by
    have hempty : (Text.chars digest).isEmpty = false := by
      rw [isDigest, Bool.and_eq_true, beq_iff_eq] at hdigest
      rw [List.isEmpty_eq_false_iff, ← List.length_pos_iff, hdigest.1]
      decide
    rw [normalisedRuleFingerprint, hbare]
    dsimp only
    rw [htext, hempty, if_neg Bool.false_ne_true, ← hmerged]
    rfl
  rw [hitFingerprints, hown, hrule, Option.toList_some, List.mem_cons, List.mem_singleton,
    hasFingerprint_iff_merged]
  by_cases h : hit.rule = ""
  · rw [if_neg (not_not.2 h), or_self]
    exact ⟨.inr, fun he => he.resolve_left fun hrule => hrule.1 h⟩
  · rw [if_pos h]
    exact or_congr_left ⟨fun he => ⟨h, he⟩, And.right⟩

end Given

section Classes

variable {P : ExactRecall} {personal team : List RetrievalHit}

/-- A given hit as it is merged. -/
def asMerged (P : Platform) (given : String × RetrievalHit) : RetrievalHit :=
  mergeCandidate P given.1 given.2

theorem merged_givenHits (P : Platform) (personal team : List RetrievalHit) :
    (givenHits personal team).map (asMerged P) = mergeCandidates P personal team := by
  rw [givenHits, List.map_append, List.map_map, List.map_map]
  rfl

theorem returns_merged (P : Platform) (given : String × RetrievalHit) :
    Returns P (asMerged P given) given :=
  ⟨_, mergedFingerprint_spec P given.2, rfl⟩

theorem hitsRelated_merged (hP : P.HexDigests)
    (hfold : ∀ s, isHash s = true → P.casefold (Text.chars s) = Text.chars s)
    (a b : String × RetrievalHit) :
    hitsRelated P.toPlatform (asMerged P.toPlatform a) (asMerged P.toPlatform b) = true ↔
      Related P.toPlatform a.2 b.2 := by
  rw [hitsRelated, Bool.or_eq_true, Bool.or_eq_true, beq_iff_eq, List.any_eq_true,
    supersedesRelation, Bool.or_eq_true, List.contains_iff_mem, List.contains_iff_mem, or_assoc,
    Related]
  simp only [asMerged, List.contains_iff_mem, mem_hitFingerprints hP hfold]
  rfl

/-- A chain of merged hits is one of the given hits. -/
theorem linked_of_merged (hP : P.HexDigests)
    (hfold : ∀ s, isHash s = true → P.casefold (Text.chars s) = Text.chars s)
    (ha : a ∈ givenHits personal team)
    (h : LinkedHits P.toPlatform (mergeCandidates P.toPlatform personal team)
      (asMerged P.toPlatform a) hit) :
    ∀ b ∈ givenHits personal team, asMerged P.toPlatform b = hit →
      Linked P.toPlatform (givenHits personal team) a b := by
  induction h with
  | refl =>
    intro b hb he
    have hid : a.2.patternId = b.2.patternId := (congrArg RetrievalHit.patternId he).symm
    exact Relation.ReflTransGen.single ⟨ha, hb, .inl hid⟩
  | tail _ hstep ih =>
    intro b hb he
    obtain ⟨hmiddle, _, hrelated⟩ := hstep
    rw [← merged_givenHits, List.mem_map] at hmiddle
    obtain ⟨middle, hgiven, rfl⟩ := hmiddle
    rw [← he, hitsRelated_merged hP hfold] at hrelated
    exact (ih middle hgiven rfl).tail ⟨hgiven, hb, hrelated⟩

theorem merged_of_linked (hP : P.HexDigests)
    (hfold : ∀ s, isHash s = true → P.casefold (Text.chars s) = Text.chars s)
    (h : Linked P.toPlatform (givenHits personal team) a b) :
    LinkedHits P.toPlatform (mergeCandidates P.toPlatform personal team)
      (asMerged P.toPlatform a) (asMerged P.toPlatform b) := by
  apply Relation.ReflTransGen.lift (asMerged P.toPlatform) _ _ _ h
  intro c d hstep
  rw [← merged_givenHits]
  exact ⟨List.mem_map_of_mem hstep.1, List.mem_map_of_mem hstep.2.1,
    (hitsRelated_merged hP hfold c d).2 hstep.2.2⟩

/-- Items that are all images are the images of some items. -/
theorem exists_map_eq {p : α → Prop} {f : α → β} {l : List β} (h : ∀ b ∈ l, ∃ a, p a ∧ f a = b) :
    ∃ items : List α, items.map f = l ∧ ∀ a ∈ items, p a := by
  induction l with
  | nil => exact ⟨[], rfl, fun _ ha => absurd ha List.not_mem_nil⟩
  | cons b l ih =>
    obtain ⟨a, ha, he⟩ := h b List.mem_cons_self
    obtain ⟨items, hmap, hitems⟩ := ih fun c hc => h c (List.mem_cons_of_mem _ hc)
    exact ⟨a :: items, by rw [List.map_cons, he, hmap], List.forall_mem_cons.2 ⟨ha, hitems⟩⟩

/-- The merged hits are given hits, of which no two are linked. -/
theorem exists_winners (hP : P.HexDigests)
    (hfold : ∀ s, isHash s = true → P.casefold (Text.chars s) = Text.chars s)
    (personal team : List RetrievalHit) : ∃ winners : List (String × RetrievalHit),
      winners.map (asMerged P.toPlatform) = mergedHits P personal team ∧
      (∀ winner ∈ winners, winner ∈ givenHits personal team) ∧
      winners.Pairwise fun a b => ¬Linked P.toPlatform (givenHits personal team) a b := by
  have hgiven : ∀ hit ∈ mergedHits P personal team,
      ∃ given, given ∈ givenHits personal team ∧ asMerged P.toPlatform given = hit := by
    intro hit hhit
    have hmem := (best_mergedHits hhit).1
    rw [← merged_givenHits, List.mem_map] at hmem
    exact hmem
  obtain ⟨winners, hwinners, hmem⟩ := exists_map_eq hgiven
  have hapart := mergedHits_apart P personal team
  rw [← hwinners, List.pairwise_map] at hapart
  exact ⟨winners, hwinners, hmem,
    hapart.imp fun hab hlinked => hab (merged_of_linked hP hfold hlinked)⟩

theorem returns_map (P : Platform) (given : List (String × RetrievalHit)) :
    List.Forall₂ (Returns P) (given.map (asMerged P)) given := by
  rw [List.forall₂_map_left_iff, List.forall₂_same]
  exact fun given _ => returns_merged P given

end Classes

/-- Merged hits are one best hit of each class of linked hits, in order, up to the limit, each as it
was given; their keys do not depend on the order in which the hits are given. -/
theorem mergeRetrievalHits_classes (P : ExactRecall) (hP : P.HexDigests)
    (hfold : ∀ s, isHash s = true → P.casefold (Text.chars s) = Text.chars s)
    (personal team : List RetrievalHit) (policy : RetrievalPolicy) :
    (∀ personal' team', personal.Perm personal' → team.Perm team' →
      (mergeRetrievalHits P personal team policy).map (mergeKey P) =
        (mergeRetrievalHits P personal' team' policy).map (mergeKey P)) ∧
    (mergeRetrievalHits P personal team policy).length ≤ policy.maxResults ∧
    (mergeRetrievalHits P personal team policy).Pairwise
      (fun a b => mergeKey P a ≤ mergeKey P b) ∧
    ∃ winners : List (String × RetrievalHit),
      List.Forall₂ (Returns P.toPlatform) (mergeRetrievalHits P personal team policy)
        (winners.take policy.maxResults) ∧
      winners.Pairwise (fun a b => givenKey P a < givenKey P b) ∧
      winners.Pairwise (fun a b => ¬Linked P.toPlatform (givenHits personal team) a b) ∧
      (∀ winner ∈ winners, winner ∈ givenHits personal team ∧ ∀ given,
        Linked P.toPlatform (givenHits personal team) winner given →
          givenKey P winner ≤ givenKey P given) ∧
      ∀ given ∈ givenHits personal team, ∃! winner, winner ∈ winners ∧
        Linked P.toPlatform (givenHits personal team) given winner := by
  have hsorted := mergedHits_sorted P personal team
  obtain ⟨winners, hwinners, hmem, hpairwise⟩ := exists_winners hP hfold personal team
  refine ⟨?_, ?_, ?_, winners, ?_, ?_, hpairwise, ?_, ?_⟩
  · intro personal' team' hpersonal hteam
    unfold mergeRetrievalHits
    rw [List.map_take, List.map_take, keys_mergedHits_perm hpersonal hteam]
  · exact List.length_take_le _ _
  · exact (hsorted.sublist (List.take_sublist _ _)).imp fun hab => le_of_lt hab
  · rw [mergeRetrievalHits, ← hwinners, ← List.map_take]
    exact returns_map P.toPlatform _
  · rw [← hwinners, List.pairwise_map] at hsorted
    exact hsorted
  · intro winner hwinner
    have hbest := best_mergedHits (hwinners ▸ List.mem_map_of_mem hwinner)
    exact ⟨hmem winner hwinner, fun given hlinked =>
      hbest.2 _ (merged_of_linked hP hfold hlinked)⟩
  · intro given hg
    have hcandidate : asMerged P.toPlatform given ∈ mergeCandidates P.toPlatform personal team := by
      rw [← merged_givenHits]
      exact List.mem_map_of_mem hg
    obtain ⟨best, hbest, hlinked⟩ := exists_mergedHits hcandidate
    rw [← hwinners, List.mem_map] at hbest
    obtain ⟨winner, hwinner, rfl⟩ := hbest
    have hto := linked_of_merged hP hfold hg hlinked winner (hmem winner hwinner) rfl
    refine ⟨winner, ⟨hwinner, hto⟩, ?_⟩
    intro other hother
    by_contra hne
    have hnot : Std.Symm fun a b => ¬Linked P.toPlatform (givenHits personal team) a b :=
      ⟨fun _ _ hab hba => hab hba.symm⟩
    exact hpairwise.forall hother.1 hwinner hne (hother.2.symm.trans hto)

def sampleExact : ExactRecall where
  toRecallPlatform := sampleRecall
  exact x := x.toInt64.toInt

theorem sampleExact_casefold (s : String) (h : isHash s = true) :
    sampleExact.casefold (Text.chars s) = Text.chars s := by
  rw [isHash, Bool.and_eq_true, Bool.and_eq_true, beq_iff_eq, List.all_eq_true] at h
  have hstart : ∀ c ∈ Text.chars "sha256:", Text.asciiLower c = c := by
    rw [Text.chars_eq_toList]
    simp [Text.asciiLower]
  have hlower : ∀ c ∈ Text.chars s, Text.asciiLower c = c := by
    intro c hc
    rw [← List.take_append_drop 7 (Text.chars s), h.1.1, List.mem_append] at hc
    exact hc.elim (hstart c) fun hc => asciiLower_of_isLowerHex (h.2 c hc)
  show (Text.chars s).map Text.asciiLower = Text.chars s
  rw [List.map_congr_left hlower, List.map_id']

def sampleHit (patternId rule : String) (score : Float) : RetrievalHit where
  patternId := patternId
  clusterId := patternId
  score := score
  rule := rule
  applicability := []
  evidenceCount := 1
  updatedAt := ""
  knowledgeScope := "personal"
  claimFingerprint := ""
  supersedes := []
  precondition := ""
  failureMode := ""

theorem mergeRetrievalHits_sample :
    (mergeRetrievalHits sampleExact [sampleHit "a" "cache the token" 1, sampleHit "b" "retry" 2]
        [sampleHit "c" "retry" 3] {}).map (mergeKey sampleExact) =
      (mergeRetrievalHits sampleExact [sampleHit "b" "retry" 2, sampleHit "a" "cache the token" 1]
        [sampleHit "c" "retry" 3] {}).map (mergeKey sampleExact) ∧
    ∃ winners : List (String × RetrievalHit),
      List.Forall₂ (Returns sampleExact.toPlatform)
        (mergeRetrievalHits sampleExact [sampleHit "a" "cache the token" 1, sampleHit "b" "retry" 2]
          [sampleHit "c" "retry" 3] {}) (winners.take 5) ∧
      ∃! winner, winner ∈ winners ∧
        Linked sampleExact.toPlatform (givenHits
          [sampleHit "a" "cache the token" 1, sampleHit "b" "retry" 2] [sampleHit "c" "retry" 3])
          ("personal", sampleHit "b" "retry" 2) winner := by
  have h := mergeRetrievalHits_classes sampleExact samplePlatform_hexDigests sampleExact_casefold
    [sampleHit "a" "cache the token" 1, sampleHit "b" "retry" 2] [sampleHit "c" "retry" 3] {}
  obtain ⟨hkeys, _, _, winners, hreturns, _, _, _, hwinner⟩ := h
  refine ⟨hkeys _ _ (.swap ..) (.refl _), winners, hreturns, hwinner _ ?_⟩
  exact List.mem_append_left _ (List.mem_map_of_mem (.tail _ (.head _)))

end ExternalIntelligence
