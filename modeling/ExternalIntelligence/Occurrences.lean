import Mathlib.Data.List.Infix
import Mathlib.Data.List.Range

namespace Occurrences
set_option autoImplicit true

variable [DecidableEq α]

/-- The places of a text at which a pattern occurs. -/
def occurrences (pattern text : List α) : List Nat :=
  (List.range text.length).filter fun i => pattern.isPrefixOf (text.drop i)

/-- Counts a pattern after some elements that are passed over. -/
def countFrom (pattern : List α) : Nat → List α → Nat
  | _, [] => 0
  | 0, x :: text =>
    if pattern.isPrefixOf (x :: text) then countFrom pattern (pattern.length - 1) text + 1
    else countFrom pattern 0 text
  | skip + 1, _ :: text => countFrom pattern skip text

/-- How often a pattern that is not empty occurs in a text, no two of these overlapping. -/
def count (pattern text : List α) : Nat :=
  countFrom pattern 0 text

/-- A pattern whose first element is none of the others. -/
def Headed (c : α) (pattern : List α) : Prop :=
  ∃ rest, pattern = c :: rest ∧ c ∉ rest

theorem Headed.ne_nil (h : Headed c pattern) : pattern ≠ [] := by
  obtain ⟨rest, rfl, _⟩ := h
  exact List.cons_ne_nil c rest

theorem occurrences_nil (pattern : List α) : occurrences pattern [] = [] :=
  rfl

theorem occurrences_cons (pattern : List α) (x : α) (text : List α) :
    occurrences pattern (x :: text) = (if pattern.isPrefixOf (x :: text) then [0] else []) ++
      (occurrences pattern text).map (1 + ·) := by
  rw [occurrences, List.length_cons, List.range_succ_eq_map, List.filter_cons, List.filter_map]
  have hrest : (List.range text.length).filter
      ((fun i => pattern.isPrefixOf ((x :: text).drop i)) ∘ Nat.succ) =
      occurrences pattern text := rfl
  rw [hrest, List.drop_zero]
  have hmap : (occurrences pattern text).map Nat.succ = (occurrences pattern text).map (1 + ·) :=
    List.map_congr_left fun i _ => Nat.add_comm i 1
  rw [hmap]
  split <;> rfl

theorem map_add_map_add (m n : Nat) (l : List Nat) :
    (l.map (m + ·)).map (n + ·) = l.map (n + m + ·) := by
  rw [List.map_map]
  apply List.map_congr_left
  intro i _
  exact (Nat.add_assoc n m i).symm

theorem not_prefix_of_ne (h : Headed c pattern) (hx : x ≠ c) (text : List α) :
    pattern.isPrefixOf (x :: text) = false := by
  obtain ⟨rest, rfl, _⟩ := h
  rw [List.isPrefixOf, beq_eq_false_iff_ne.2 hx.symm, Bool.false_and]

/-- A pattern does not occur where its first element does not. -/
theorem occurrences_append_of_not_mem (h : Headed c pattern) {word : List α} (hc : c ∉ word)
    (text : List α) : occurrences pattern (word ++ text) =
      (occurrences pattern text).map (word.length + ·) := by
  induction word with
  | nil =>
    rw [List.nil_append, List.length_nil]
    exact ((List.map_congr_left fun i _ => Nat.zero_add i).trans (List.map_id _)).symm
  | cons x word ih =>
    rw [List.mem_cons, not_or] at hc
    rw [List.cons_append, occurrences_cons, not_prefix_of_ne h (Ne.symm hc.1), ih hc.2,
      map_add_map_add, List.length_cons, Nat.add_comm word.length 1]
    rfl

theorem occurrences_marker (h : Headed c pattern) (hmarker : Headed c marker) (text : List α) :
    occurrences pattern (marker ++ text) =
      (if pattern.isPrefixOf (marker ++ text) then [0] else []) ++
        (occurrences pattern text).map (marker.length + ·) := by
  obtain ⟨rest, rfl, hrest⟩ := hmarker
  rw [List.cons_append, occurrences_cons, occurrences_append_of_not_mem h hrest, map_add_map_add,
    List.length_cons, Nat.add_comm rest.length 1]

/-- A pattern does not reach into what starts with its own first element. -/
theorem isPrefixOf_append_head {rest : List α} (h : c ∉ rest) (word text : List α) :
    rest.isPrefixOf (word ++ c :: text) = rest.isPrefixOf word := by
  induction rest generalizing word with
  | nil => rfl
  | cons y rest ih =>
    rw [List.mem_cons, not_or] at h
    cases word with
    | nil =>
      rw [List.nil_append, List.isPrefixOf, List.isPrefixOf, beq_eq_false_iff_ne.2 (Ne.symm h.1),
        Bool.false_and]
      exact List.cons_ne_nil y rest
    | cons z word => rw [List.cons_append, List.isPrefixOf, List.isPrefixOf, ih h.2]

theorem occurrences_append_marker (h : Headed c pattern) (hmarker : Headed c marker)
    (word text : List α) : occurrences pattern (word ++ (marker ++ text)) =
      occurrences pattern word ++ (occurrences pattern (marker ++ text)).map (word.length + ·) := by
  obtain ⟨mrest, rfl, _⟩ := hmarker
  obtain ⟨rest, rfl, hrest⟩ := h
  induction word with
  | nil =>
    rw [List.nil_append, List.length_nil, occurrences_nil, List.nil_append]
    exact ((List.map_congr_left fun i _ => Nat.zero_add i).trans (List.map_id _)).symm
  | cons x word ih =>
    rw [List.cons_append, occurrences_cons, ih, occurrences_cons, List.map_append,
      map_add_map_add, List.length_cons, Nat.add_comm word.length 1, List.append_assoc]
    congr 1
    rw [List.isPrefixOf, List.isPrefixOf, List.cons_append, isPrefixOf_append_head hrest]

/-- A pattern does not reach into what has none of its elements. -/
theorem isPrefixOf_append_foreign {pattern tail : List α} (h : ∀ x ∈ tail, x ∉ pattern)
    (word : List α) : pattern.isPrefixOf (word ++ tail) = pattern.isPrefixOf word := by
  induction pattern generalizing word with
  | nil => rfl
  | cons y pattern ih =>
    cases word with
    | nil =>
      cases tail with
      | nil => rfl
      | cons z tail =>
        have hne : y ≠ z := fun he => h z List.mem_cons_self (he ▸ List.mem_cons_self)
        rw [List.nil_append, List.isPrefixOf, List.isPrefixOf, beq_eq_false_iff_ne.2 hne,
          Bool.false_and]
        exact List.cons_ne_nil y pattern
    | cons z word =>
      rw [List.cons_append, List.isPrefixOf, List.isPrefixOf,
        ih fun x hx hmem => h x hx (List.mem_cons_of_mem _ hmem)]

theorem occurrences_append_foreign {pattern tail : List α} (hne : pattern ≠ [])
    (h : ∀ x ∈ tail, x ∉ pattern) (word : List α) :
    occurrences pattern (word ++ tail) = occurrences pattern word := by
  have htail : occurrences pattern tail = [] := by
    rw [occurrences, List.filter_eq_nil_iff]
    intro i _ hprefix
    have hdrop : pattern.isPrefixOf ([] ++ tail.drop i) = pattern.isPrefixOf [] :=
      isPrefixOf_append_foreign (fun x hx => h x (List.mem_of_mem_drop hx)) []
    rw [List.nil_append, hprefix] at hdrop
    exact hne (List.prefix_nil.1 (List.isPrefixOf_iff_prefix.1 hdrop.symm))
  induction word with
  | nil => exact htail
  | cons x word ih =>
    rw [List.cons_append, occurrences_cons, occurrences_cons, ih, ← List.cons_append,
      isPrefixOf_append_foreign h]

theorem countFrom_eq (h : Headed c pattern) {text : List α} (hskip : c ∉ text.take skip) :
    countFrom pattern skip text = (occurrences pattern text).length := by
  induction text generalizing skip with
  | nil => rw [countFrom, occurrences_nil, List.length_nil]
  | cons x text ih =>
    rw [occurrences_cons, List.length_append, List.length_map]
    cases skip with
    | zero =>
      rw [countFrom]
      split
      · rename_i hprefix
        obtain ⟨rest, rfl, hrest⟩ := h
        rw [ih, List.length_singleton, Nat.add_comm]
        intro hmem
        obtain ⟨text', htext⟩ := List.isPrefixOf_iff_prefix.1 hprefix
        rw [List.cons_append, List.cons_eq_cons] at htext
        rw [← htext.2, List.length_cons, Nat.add_sub_cancel, List.take_left] at hmem
        exact hrest hmem
      · rw [ih (by rw [List.take_zero]; exact List.not_mem_nil), List.length_nil, Nat.zero_add]
    | succ skip =>
      rw [List.take_succ_cons, List.mem_cons, not_or] at hskip
      rw [countFrom, ih hskip.2, not_prefix_of_ne h (Ne.symm hskip.1)]
      exact (Nat.zero_add _).symm

theorem count_eq (h : Headed c pattern) (text : List α) :
    count pattern text = (occurrences pattern text).length :=
  countFrom_eq h (by rw [List.take_zero]; exact List.not_mem_nil)

theorem mem_occurrences {pattern text : List α} :
    i ∈ occurrences pattern text ↔ i < text.length ∧ pattern <+: text.drop i := by
  rw [occurrences, List.mem_filter, List.mem_range, List.isPrefixOf_iff_prefix]

theorem occurrences_drop {pattern text : List α} (h : occurrences pattern text = []) (n : Nat) :
    occurrences pattern (text.drop n) = [] := by
  rw [List.eq_nil_iff_forall_not_mem] at h ⊢
  intro i hi
  obtain ⟨hlt, hprefix⟩ := mem_occurrences.1 hi
  rw [List.length_drop] at hlt
  rw [List.drop_drop] at hprefix
  exact h (n + i) (mem_occurrences.2 ⟨by omega, hprefix⟩)

omit [DecidableEq α] in
/-- What a pattern has at one of its places, the text has there. -/
theorem getElem?_of_prefix {pattern text : List α} (h : pattern <+: text.drop i)
    (hk : k < pattern.length) : text[i + k]? = pattern[k]? := by
  obtain ⟨rest, hrest⟩ := h
  rw [← List.getElem?_drop, ← hrest, List.getElem?_append_left hk]

omit [DecidableEq α] in
theorem head_of_isPrefix {pattern text : List α} (hp : Headed c pattern)
    (h : pattern <+: text.drop i) : text[i]? = some c := by
  obtain ⟨rest, rfl, _⟩ := hp
  exact getElem?_of_prefix (k := 0) h (Nat.succ_pos _)

omit [DecidableEq α] in
/-- Within a pattern its first element does not come again. -/
theorem not_head_of_isPrefix {pattern text : List α} (hp : Headed c pattern)
    (h : pattern <+: text.drop i) (hij : i < j) (hj : j < i + pattern.length) :
    text[j]? ≠ some c := by
  obtain ⟨rest, rfl, hrest⟩ := hp
  obtain ⟨k, rfl⟩ := Nat.exists_eq_add_of_lt hij
  rw [Nat.add_assoc, getElem?_of_prefix h (by omega), List.getElem?_cons_succ]
  intro hk
  exact hrest (List.mem_of_getElem? hk)

/-- A pattern that occurs in neither of two texts can occur in both together only over the join. -/
theorem crosses_join {pattern before after : List α} (hbefore : occurrences pattern before = [])
    (hafter : occurrences pattern after = [])
    (h : i ∈ occurrences pattern (before ++ after)) :
    i < before.length ∧ before.length < i + pattern.length ∧
      pattern <+: (before ++ after).drop i := by
  obtain ⟨hlt, hprefix⟩ := mem_occurrences.1 h
  rw [List.length_append] at hlt
  have hdrop := hprefix
  rw [List.drop_append] at hdrop
  have hi : i < before.length := by
    by_contra hle
    rw [Nat.not_lt] at hle
    rw [List.drop_of_length_le hle, List.nil_append] at hdrop
    have hmem : i - before.length ∈ occurrences pattern after :=
      mem_occurrences.2 ⟨by omega, hdrop⟩
    rw [hafter] at hmem
    exact List.not_mem_nil hmem
  refine ⟨hi, ?_, hprefix⟩
  by_contra hle
  have hshort : pattern.length ≤ (before.drop i).length := by
    rw [List.length_drop]
    omega
  have hmem : i ∈ occurrences pattern before :=
    mem_occurrences.2 ⟨hi, List.prefix_of_prefix_length_le hdrop (List.prefix_append _ _) hshort⟩
  rw [hbefore] at hmem
  exact List.not_mem_nil hmem

/-- Two patterns with one first element, of which neither starts the other, do not both cross one
join. -/
theorem not_both_cross {p q before after : List α} (hp : Headed c p) (hq : Headed c q)
    (hpq : ∀ text, p <+: text → ¬q <+: text)
    (hbp : occurrences p before = []) (hap : occurrences p after = [])
    (hbq : occurrences q before = []) (haq : occurrences q after = []) :
    occurrences p (before ++ after) = [] ∨ occurrences q (before ++ after) = [] := by
  by_contra hboth
  rw [not_or] at hboth
  obtain ⟨i, hi⟩ := List.exists_mem_of_ne_nil _ hboth.1
  obtain ⟨j, hj⟩ := List.exists_mem_of_ne_nil _ hboth.2
  obtain ⟨hilt, hilong, hip⟩ := crosses_join hbp hap hi
  obtain ⟨hjlt, hjlong, hjq⟩ := crosses_join hbq haq hj
  obtain hlt | heq | hgt := lt_trichotomy i j
  · exact not_head_of_isPrefix hp hip hlt (by omega) (head_of_isPrefix hq hjq)
  · exact hpq _ hip (heq ▸ hjq)
  · exact not_head_of_isPrefix hq hjq hgt (by omega) (head_of_isPrefix hp hip)

end Occurrences
