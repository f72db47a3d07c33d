import ExternalIntelligence.ManagedBlocks

namespace ExternalIntelligence
set_option autoImplicit true

open Occurrences

theorem not_begin_and_end (text : List Char) (h : beginMarker <+: text) : ¬endMarker <+: text := by
  intro hend
  have hshort : endMarker.length ≤ beginMarker.length := by
    decide
  have hprefix := List.prefix_of_prefix_length_le hend h hshort
  revert hprefix
  decide

/-- One end marker in a text is the only one in each part of it. -/
theorem one_end {before body after : List Char}
    (h : (occurrences endMarker
      (before ++ (beginMarker ++ (body ++ (endMarker ++ after))))).length = 1) :
    occurrences endMarker before = [] ∧ occurrences endMarker body = [] ∧
      occurrences endMarker after = [] := by
  rw [occurrences_append_marker headed_endMarker headed_beginMarker,
    occurrences_marker headed_endMarker headed_beginMarker, end_not_prefix,
    if_neg Bool.false_ne_true, List.nil_append,
    occurrences_append_marker headed_endMarker headed_endMarker,
    occurrences_marker headed_endMarker headed_endMarker, isPrefixOf_self_append,
    if_pos rfl] at h
  simp only [List.length_append, List.length_map, List.length_singleton] at h
  refine ⟨List.eq_nil_of_length_eq_zero ?_, List.eq_nil_of_length_eq_zero ?_,
    List.eq_nil_of_length_eq_zero ?_⟩
  all_goals omega

theorem one_begin {before after : List Char} {b : ManagedBlock}
    (h : (occurrences beginMarker (before ++ (b.core ++ after))).length = 1) :
    occurrences beginMarker before = [] ∧ b.Single ∧ occurrences beginMarker after = [] := by
  rw [occurrences_begin] at h
  simp only [List.length_append, List.length_map, List.length_cons] at h
  refine ⟨List.eq_nil_of_length_eq_zero ?_, List.eq_nil_of_length_eq_zero ?_,
    List.eq_nil_of_length_eq_zero ?_⟩
  all_goals omega

/-- A text with its managed block is what is before it, the block and what is behind it. -/
theorem block_of_markerBounds {text : List Char}
    (h : markerBounds text = .ok (some bounds)) :
    ∃ before b after, text = before ++ (ManagedBlock.core b ++ after) ∧ Unmarked before ∧
      Unmarked after ∧ b.Single := by
  simp only [markerBounds] at h
  split at h
  · cases h
  · split at h
    · rename_i first last hbegins hends
      split at h
      · cases h
      · rename_i hbounds
        simp only [Bool.or_eq_true, decide_eq_true_eq, not_or, Nat.not_lt] at hbounds
        obtain ⟨_, hp⟩ := mem_occurrences.1 (hbegins ▸ List.mem_singleton_self first)
        obtain ⟨_, hq⟩ := mem_occurrences.1 (hends ▸ List.mem_singleton_self last)
        have hapart : first + beginMarker.length ≤ last := by
          by_contra hlt
          rw [Nat.not_le] at hlt
          obtain heq | hlt' := Nat.eq_or_lt_of_le hbounds.1.1
          · exact not_begin_and_end _ hp (heq ▸ hq)
          · exact not_head_of_isPrefix headed_beginMarker hp hlt' hlt
              (head_of_isPrefix headed_endMarker hq)
        obtain ⟨k, rfl⟩ := Nat.exists_eq_add_of_le hapart
        obtain ⟨rest, hrest⟩ := hp
        obtain ⟨after, hafter⟩ := hq
        have htext : text = text.take first ++
            (beginMarker ++ (rest.take k ++ (endMarker ++ after))) := by
          have hdrop : text.drop (first + beginMarker.length + k) = rest.drop k := by
            rw [Nat.add_assoc, ← List.drop_drop, ← List.drop_drop, ← hrest, List.drop_left]
          rw [hafter, hdrop, List.take_append_drop, hrest, List.take_append_drop]
        have hend := congrArg List.length hends
        rw [htext] at hend
        obtain ⟨hbefore, hbody, hbehind⟩ := one_end hend
        have hblock : text = text.take first ++
            (ManagedBlock.core ⟨rest.take k, false, hbody⟩ ++ after) := by
          rw [ManagedBlock.core, List.append_assoc, List.append_assoc]
          exact htext
        have hbegin := congrArg List.length hbegins
        rw [hblock] at hbegin
        obtain ⟨hbefore', hsingle, hbehind'⟩ := one_begin hbegin
        exact ⟨_, _, _, hblock, ⟨hbefore', hbefore⟩, ⟨hbehind', hbehind⟩, hsingle⟩
    · cases h

theorem unmarked_of_markerBounds {text : List Char} (h : markerBounds text = .ok none) :
    Unmarked text := by
  simp only [markerBounds] at h
  split at h
  · rename_i hnone
    rw [Bool.and_eq_true, List.isEmpty_iff, List.isEmpty_iff] at hnone
    exact hnone
  · split at h
    · split at h <;> cases h
    · cases h

/-- What a text holds that is not in its managed block. -/
def userText (text : List Char) : List Char :=
  match markerBounds text with
  | .ok (some (start, stop)) => text.take start ++ text.drop (stop + endMarker.length)
  | _ => text

/-- The managed block of a text. -/
def managedText (text : List Char) : Option (List Char) :=
  match markerBounds text with
  | .ok (some (start, stop)) => some ((text.take (stop + endMarker.length)).drop start)
  | _ => none

/-- A text without its line breaks. -/
def visible (text : List Char) : List Char :=
  text.filter fun c => !isLineEnd c

section

variable {before after : List Char} {b : ManagedBlock}

theorem userText_block (hbefore : Unmarked before) (hb : b.Single) (hafter : Unmarked after) :
    userText (before ++ (b.core ++ after)) = before ++ after := by
  rw [userText, markerBounds_block hbefore b hb hafter]
  dsimp only
  rw [drop_block, List.take_left]

theorem managedText_block (hbefore : Unmarked before) (hb : b.Single) (hafter : Unmarked after) :
    managedText (before ++ (b.core ++ after)) = some b.core := by
  rw [managedText, markerBounds_block hbefore b hb hafter]
  dsimp only
  rw [take_block, List.drop_left]

/-- Two texts without markers have no managed block over their join. -/
theorem userText_join (hbefore : Unmarked before) (hafter : Unmarked after) :
    userText (before ++ after) = before ++ after := by
  have hnot : ∀ bounds, markerBounds (before ++ after) ≠ .ok (some bounds) := by
    intro bounds h
    obtain ⟨front, c, back, htext, _⟩ := block_of_markerBounds h
    obtain hbegin | hend := not_both_cross headed_beginMarker headed_endMarker not_begin_and_end
      hbefore.1 hafter.1 hbefore.2 hafter.2
    · rw [htext, occurrences_begin] at hbegin
      exact List.cons_ne_nil _ _ (List.append_eq_nil_iff.1 hbegin).2
    · rw [htext, occurrences_end] at hend
      exact List.cons_ne_nil _ _ (List.append_eq_nil_iff.1 hend).2
  rw [userText]
  split
  · rename_i h
    exact absurd h (hnot _)
  · rfl

end

/-- What is done with the managed block of a file. -/
inductive BlockAction where
  | merge (b : ManagedBlock)
  | remove

/-- The text of a file after an action, which leaves it when it raises. -/
def blockStep (text : List Char) : BlockAction → List Char
  | .merge b => (mergeGlobalAgents text b.text).toOption.getD text
  | .remove => (removeGlobalAgents text).toOption.getD text

theorem visible_append (front back : List Char) :
    visible (front ++ back) = visible front ++ visible back :=
  List.filter_append front back

theorem visible_separator (text : List Char) : visible (separator text) = [] := by
  rw [separator]
  split <;> rfl

theorem visible_tail (b : ManagedBlock) : visible b.tail = [] := by
  rw [ManagedBlock.tail]
  split <;> rfl

theorem unmarked_tail_append (b : ManagedBlock) (h : Unmarked after) :
    Unmarked (b.tail ++ after) := by
  have hmem : '<' ∉ b.tail := by
    rw [b.tail_eq]
    intro hm
    exact absurd (List.eq_of_mem_replicate hm) (by decide)
  apply And.intro
  · rw [occurrences_append_of_not_mem headed_beginMarker hmem, h.1, List.map_nil]
  · rw [occurrences_append_of_not_mem headed_endMarker hmem, h.2, List.map_nil]

theorem unmarked_drop (h : Unmarked text) (n : Nat) : Unmarked (text.drop n) :=
  ⟨occurrences_drop h.1 n, occurrences_drop h.2 n⟩

/-- Removing a block takes a line break behind it at most. -/
theorem removeGlobalAgents_eq {before after : List Char} {b : ManagedBlock}
    (hbefore : Unmarked before) (hb : b.Single) (hafter : Unmarked after) :
    ∃ rest, removeGlobalAgents (before ++ (b.core ++ after)) = .ok (before ++ rest) ∧
      Unmarked rest ∧ visible rest = visible after := by
  rw [removeGlobalAgents, markerBounds_block hbefore b hb hafter, Except.map]
  dsimp only
  rw [drop_block, List.take_left]
  split
  · rename_i hprefix
    obtain ⟨rest, rfl⟩ := List.isPrefixOf_iff_prefix.1 hprefix
    exact ⟨_, rfl, unmarked_drop hafter 2, rfl⟩
  · split
    · rename_i hprefix
      obtain ⟨rest, rfl⟩ := List.isPrefixOf_iff_prefix.1 hprefix
      exact ⟨_, rfl, unmarked_drop hafter 1, rfl⟩
    · exact ⟨_, rfl, hafter, rfl⟩

/-- A block that is merged in is the managed block afterwards, and the user's text is kept but for
line breaks. -/
theorem mergeGlobalAgents_keeps {text merged : List Char} {b : ManagedBlock}
    (h : mergeGlobalAgents text b.text = .ok merged) :
    visible (userText merged) = visible (userText text) ∧ managedText merged = some b.core := by
  have hb := single_of_mergeBlock h
  rw [mergeGlobalAgents] at h
  cases hbounds : markerBounds text with
  | error raised =>
    rw [mergeBlock_eq _ hb, hbounds] at h
    cases h
  | ok bounds =>
    cases bounds with
    | none =>
      have hunmarked := unmarked_of_markerBounds hbounds
      rw [mergeBlock_unmarked hunmarked hb] at h
      cases h
      have hseparated := unmarked_separator hunmarked
      apply And.intro
      · rw [userText_block hseparated hb (unmarked_tail b), visible_append, visible_append,
          visible_separator, visible_tail, List.append_nil, List.append_nil, userText, hbounds]
      · exact managedText_block hseparated hb (unmarked_tail b)
    | some bounds =>
      obtain ⟨before, c, after, rfl, hbefore, hafter, hc⟩ := block_of_markerBounds hbounds
      rw [mergeBlock_block hbefore hc hafter hb] at h
      cases h
      have hbehind : Unmarked ((if c.body = b.body then [] else b.tail) ++ after) ∧
          visible ((if c.body = b.body then [] else b.tail) ++ after) = visible after := by
        split
        · exact ⟨hafter, rfl⟩
        · apply And.intro (unmarked_tail_append b hafter)
          rw [visible_append, visible_tail, List.nil_append]
      apply And.intro
      · rw [userText_block hbefore hb hbehind.1, userText_block hbefore hc hafter,
          visible_append before, hbehind.2, visible_append]
      · exact managedText_block hbefore hb hbehind.1

theorem removeGlobalAgents_keeps {text removed : List Char}
    (h : removeGlobalAgents text = .ok removed) :
    visible (userText removed) = visible (userText text) := by
  cases hbounds : markerBounds text with
  | error raised =>
    rw [removeGlobalAgents, hbounds] at h
    cases h
  | ok bounds =>
    cases bounds with
    | none =>
      rw [removeGlobalAgents, hbounds] at h
      cases h
      rfl
    | some bounds =>
      obtain ⟨before, b, after, rfl, hbefore, hafter, hb⟩ := block_of_markerBounds hbounds
      obtain ⟨rest, hremoved, hrest, hsame⟩ := removeGlobalAgents_eq hbefore hb hafter
      rw [hremoved] at h
      cases h
      rw [userText_join hbefore hrest, userText_block hbefore hb hafter, visible_append,
        visible_append, hsame]

theorem blockStep_keeps (text : List Char) (a : BlockAction) :
    visible (userText (blockStep text a)) = visible (userText text) := by
  cases a with
  | merge b =>
    rw [blockStep]
    cases h : mergeGlobalAgents text b.text with
    | error raised => rfl
    | ok merged => exact (mergeGlobalAgents_keeps h).1
  | remove =>
    rw [blockStep]
    cases h : removeGlobalAgents text with
    | error raised => rfl
    | ok removed => exact removeGlobalAgents_keeps h

/-- However often blocks are merged into a file and removed from it, what is not in the managed
block stays as it was but for line breaks, and a block that is merged in is all of the managed
block, also where the text around it looks like a part of a marker. -/
theorem user_text_kept (text : List Char) (run : List BlockAction) :
    visible (userText (run.foldl blockStep text)) = visible (userText text) ∧
      ∀ b merged, mergeGlobalAgents (run.foldl blockStep text) (ManagedBlock.text b) = .ok merged →
        visible (userText merged) = visible (userText text) ∧ managedText merged = some b.core := by
  have hrun : visible (userText (run.foldl blockStep text)) = visible (userText text) := by
    induction run generalizing text with
    | nil => rfl
    | cons a run ih => exact (ih _).trans (blockStep_keeps text a)
  apply And.intro hrun
  intro b merged h
  obtain ⟨hkept, hmanaged⟩ := mergeGlobalAgents_keeps h
  exact ⟨hkept.trans hrun, hmanaged⟩

end ExternalIntelligence
