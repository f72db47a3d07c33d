import ExternalIntelligence.JournalReading

namespace ExternalIntelligence
set_option autoImplicit true

/-- The printable characters of ASCII. -/
def isPrintable (c : Char) : Bool :=
  ' ' ≤ c && c ≤ '~'

/-- What Unicode and the secret rules make of plain texts. -/
structure Platform.PlainTexts (P : Platform) : Prop where
  nfkc : ∀ text, text.all isPrintable = true → P.nfkc text = text
  casefold : ∀ text, (text.all fun c => isPrintable c && Text.asciiLower c == c) = true →
    P.casefold text = text
  isControl : ∀ c, isPrintable c = true → P.isControl c = false
  secretTeam : P.secretMatch (Text.chars "team") = none
  secretHash : ∀ digest, isHash digest = true → P.secretMatch (Text.chars digest) = none

namespace Platform.PlainTexts

theorem hasControl (hP : PlainTexts P) (h : text.all isPrintable = true) :
    ExternalIntelligence.hasControl P text = false := by
  rw [ExternalIntelligence.hasControl, List.any_eq_false]
  intro c hc
  rw [hP.isControl c (List.all_eq_true.1 h c hc)]
  exact Bool.false_ne_true

theorem classifySource (hP : PlainTexts P)
    (h : ["public", "private-reusable"].contains classification = true) :
    ExternalIntelligence.classifySource P classification = .public ∨
      ExternalIntelligence.classifySource P classification = .privateReusable := by
  have hfold : P.casefold (Text.chars classification) = Text.chars classification := by
    apply hP.casefold
    simp only [List.contains_cons, List.contains_nil, Bool.or_false, Bool.or_eq_true,
      beq_iff_eq] at h
    cases h with
    | inl he =>
      rw [he]
      decide
    | inr he =>
      rw [he]
      decide
  unfold ExternalIntelligence.classifySource
  dsimp only
  rw [hfold]
  simp only [List.contains_cons, List.contains_nil, Bool.or_false, Bool.or_eq_true,
    beq_iff_eq] at h
  cases h with
  | inl he =>
    rw [he]
    exact .inl (by decide)
  | inr he =>
    rw [he]
    exact .inr (by decide)

/-- A plain text that matches no secret rule is persisted under a plain name. -/
theorem inspectPersistedText (hP : PlainTexts P) (htext : text.all isPrintable = true)
    (hlength : text.length ≤ maxInspectChars) (hsecret : P.secretMatch text = none)
    (hpointer : forbiddenPathReason P pointer = none)
    (hclass : ["public", "private-reusable"].contains classification = true) :
    (ExternalIntelligence.inspectPersistedText P text classification pointer).allowPrivateSync =
      true := by
  unfold ExternalIntelligence.inspectPersistedText inspectText
  dsimp only
  rw [hP.nfkc text htext, hP.hasControl htext, if_neg Bool.false_ne_true, hP.nfkc text htext,
    if_neg (Nat.not_lt.2 hlength), hsecret]
  dsimp only
  rw [hpointer]
  dsimp only
  cases hP.classifySource hclass with
  | inl h => rw [h]
  | inr h => rw [h]

end Platform.PlainTexts

theorem asciiLower_slash {c : Char} (h : Text.asciiLower c = '/') : c = '/' := by
  unfold Text.asciiLower at h
  split at h
  · rename_i hc
    rw [Bool.and_eq_true, decide_eq_true_eq, decide_eq_true_eq, Char.le_def, Char.le_def] at hc
    obtain ⟨hlow, hhigh⟩ := hc
    have hleast : 65 ≤ c.toNat := hlow
    have hmost : c.toNat ≤ 90 := hhigh
    exfalso
    have hvalid : (c.toNat + 32).isValidChar := Or.inl (by omega)
    rw [Char.ofNat, dif_pos hvalid] at h
    have hnat : c.toNat + 32 = 47 := congrArg Char.toNat h
    omega
  · exact h

theorem searchUnglued_false {found : List Char → Bool} (h : ∀ rest, rest <:+ text →
    found rest = false) : ∀ previous, searchUnglued found previous text = false := by
  induction text with
  | nil =>
    intro previous
    rw [searchUnglued, h [] (List.suffix_refl _)]
    simp
  | cons c cs ih =>
    intro previous
    have hrest : searchUnglued found (some c) cs = false :=
      ih (fun rest hr => h rest (hr.trans (List.suffix_cons c cs))) (some c)
    rw [searchUnglued, h (c :: cs) (List.suffix_refl _), Bool.and_false, Bool.false_or]
    exact hrest

/-- Texts without slashes hold no absolute path. -/
theorem containsAbsolutePath_plain (h : text.all (fun c => c != '/' && c != '\\') = true) :
    containsAbsolutePath text = false := by
  rw [List.all_eq_true] at h
  have hslash : ∀ rest, rest <:+ text → ∀ c ∈ rest, c ≠ '/' ∧ c ≠ '\\' := by
    intro rest hrest c hc
    simpa using h c (hrest.subset hc)
  rw [containsAbsolutePath, Bool.or_eq_false_iff]
  constructor
  · apply searchUnglued_false
    intro rest hrest
    unfold windowsAbsoluteAt
    split
    · rename_i c d cs
      have hd := hslash _ hrest d (by simp)
      simp [hd.1, hd.2]
    · rfl
  · apply searchUnglued_false
    intro rest hrest
    rw [personalPathAt, List.any_eq_false]
    intro name hname
    rw [Bool.and_eq_true, not_and]
    intro hstart
    exfalso
    have hhead : ∃ cs, Text.chars name = '/' :: cs := by
      simp only [personalDirectories, List.mem_cons, List.not_mem_nil, or_false] at hname
      rcases hname with rfl | rfl | rfl | rfl
      all_goals exact ⟨_, rfl⟩
    obtain ⟨cs, hcs⟩ := hhead
    rw [hcs, beq_iff_eq] at hstart
    cases rest with
    | nil => cases hstart
    | cons c rest =>
      rw [List.length_cons, List.take_succ_cons, List.map_cons, List.cons.injEq] at hstart
      apply (hslash _ hrest c (List.mem_cons_self ..)).1
      have hfold := hstart.1
      unfold Text.foldCase at hfold
      split at hfold
      · cases hfold
      · split at hfold
        · cases hfold
        · split at hfold
          · cases hfold
          · exact asciiLower_slash hfold

/-- A pointer whose parts are plain names is checked as those names. -/
theorem forbiddenPathReason_plain (hP : P.PlainTexts) (hpointer : pointer.all isPrintable = true)
    (hparts : ((slashed pointer).splitOn '/').filter (fun part => !part.isEmpty && part != ['.']) =
      parts)
    (hfold : (parts.all fun part => part.all fun c => isPrintable c && Text.asciiLower c == c) =
      true)
    (h : anyForbiddenPart none parts = false) : forbiddenPathReason P pointer = none := by
  have hmap : parts.map P.casefold = parts := by
    apply (List.map_congr_left _).trans (List.map_id parts)
    intro part hpart
    exact hP.casefold part (List.all_eq_true.1 hfold part hpart)
  rw [forbiddenPathReason, pathParts, hP.nfkc pointer hpointer, hparts, hmap, h,
    if_neg Bool.false_ne_true]

theorem isPrintable_of_isLowerHex (h : isLowerHex c = true) :
    isPrintable c = true ∧ (c != '/' && c != '\\') = true := by
  have hcode : 48 ≤ c.toNat ∧ c.toNat ≤ 57 ∨ 97 ≤ c.toNat ∧ c.toNat ≤ 102 := by
    rw [isLowerHex, Bool.or_eq_true, Text.isDigit, Bool.and_eq_true, Bool.and_eq_true,
      decide_eq_true_eq, decide_eq_true_eq, decide_eq_true_eq, decide_eq_true_eq] at h
    exact h
  constructor
  · have hleast : 32 ≤ c.toNat := by omega
    have hmost : c.toNat ≤ 126 := by omega
    rw [isPrintable, Bool.and_eq_true, decide_eq_true_eq, decide_eq_true_eq]
    exact ⟨hleast, hmost⟩
  · rw [Bool.and_eq_true, bne_iff_ne, bne_iff_ne]
    constructor
    · rintro rfl
      cases h
    · rintro rfl
      cases h

theorem chars_of_isHash {digest : String} (h : isHash digest = true) :
    (Text.chars digest).length = 71 ∧ (Text.chars digest).all isPrintable = true ∧
      (Text.chars digest).all (fun c => c != '/' && c != '\\') = true := by
  unfold isHash at h
  simp only [Bool.and_eq_true, beq_iff_eq] at h
  obtain ⟨⟨hstart, hlength⟩, hdigits⟩ := h
  have hsplit : Text.chars digest = Text.chars "sha256:" ++ (Text.chars digest).drop 7 := by
    rw [← hstart, List.take_append_drop]
  rw [List.all_eq_true] at hdigits
  refine ⟨?_, ?_, ?_⟩
  · rw [hsplit, List.length_append, hlength]
    decide
  · rw [hsplit, List.all_append, Bool.and_eq_true]
    constructor
    · decide
    · exact List.all_eq_true.2 fun c hc => (isPrintable_of_isLowerHex (hdigits c hc)).1
  · rw [hsplit, List.all_append, Bool.and_eq_true]
    constructor
    · decide
    · exact List.all_eq_true.2 fun c hc => (isPrintable_of_isLowerHex (hdigits c hc)).2

theorem samplePlatform_plainTexts : samplePlatform.PlainTexts where
  nfkc _ _ := rfl
  casefold text h := by
    apply (List.map_congr_left _).trans (List.map_id text)
    intro c hc
    have hlower := List.all_eq_true.1 h c hc
    rw [Bool.and_eq_true, beq_iff_eq] at hlower
    exact hlower.2
  isControl c h := by
    rw [isPrintable, Bool.and_eq_true, decide_eq_true_eq, decide_eq_true_eq] at h
    have hleast : 32 ≤ c.toNat := h.1
    have hmost : c.toNat ≤ 126 := h.2
    have hlow : ¬c.toNat < 32 := by omega
    have hhigh : ¬127 ≤ c.toNat := by omega
    simp [samplePlatform, hlow, hhigh]
  secretTeam := rfl
  secretHash _ _ := rfl

end ExternalIntelligence
