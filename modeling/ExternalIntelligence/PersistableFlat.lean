import ExternalIntelligence.Canonical
import ExternalIntelligence.Persistable

set_option autoImplicit true

/-- The values a closed registry lets through: scalars but floats, and lists of texts. -/
inductive Value.Flat : Value → Prop
  | none : Flat .none
  | bool (b : Bool) : Flat (.bool b)
  | int (i : Int) : Flat (.int i)
  | str (s : String) : Flat (.str s)
  | list (texts : List String) : Flat (.list (texts.map .str))
  | tuple (texts : List String) : Flat (.tuple (texts.map .str))

theorem Value.map_canonical_str (texts : List String) :
    (texts.map Value.str).map canonical = texts.map .str := by
  rw [List.map_map]
  rfl

namespace ExternalIntelligence

/-- The part of an inspection that looks at one field. -/
def fieldIssues (P : Platform) (classification : String)
    (closed : Option (List (String × FieldSpec))) (pointer : List Char) (key : String)
    (nested : Value) : List PersistableIssue :=
  let child := pointerTo pointer (Text.chars key)
  let folded := P.casefold (Text.chars key)
  (if (texts forbiddenKeys).contains folded then [⟨child, "RAW_CONTENT_FORBIDDEN"⟩] else []) ++
    match closed with
    | none => walk P classification none child folded none nested
    | some specs =>
      match specs.lookup key with
      | none => [⟨child, "UNKNOWN_FIELD"⟩]
      | some spec => walk P classification none child folded (some spec) nested

theorem walkFields_eq (fields : List (String × Value)) :
    walkFields P c closed pointer fields =
      fields.flatMap fun p => fieldIssues P c closed pointer p.1 p.2 := by
  induction fields with
  | nil => rw [walkFields, List.flatMap_nil]
  | cons p fields ih =>
    have h : walkFields P c closed pointer (p :: fields) =
        fieldIssues P c closed pointer p.1 p.2 ++ walkFields P c closed pointer fields := rfl
    rw [h, List.flatMap_cons, ih]

theorem walkFields_eq_nil : walkFields P c closed pointer fields = [] ↔
    ∀ p ∈ fields, fieldIssues P c closed pointer p.1 p.2 = [] := by
  rw [walkFields_eq, List.flatMap_eq_nil_iff]

theorem fieldIssues_known (h : fieldIssues P c (some specs) pointer key nested = []) :
    ∃ spec, specs.lookup key = some spec ∧
      walk P c none (pointerTo pointer (Text.chars key)) (P.casefold (Text.chars key)) (some spec)
        nested = [] := by
  replace h := (List.append_eq_nil_iff.1 h).2
  simp only at h
  cases hs : specs.lookup key with
  | none =>
    rw [hs] at h
    cases h
  | some spec =>
    rw [hs] at h
    exact ⟨spec, rfl, h⟩

theorem walk_dict_some : walk P c closed pointer name (some spec) (.dict fields) ≠ [] := by
  intro h
  simp [walk] at h

theorem walk_float_some : walk P c closed pointer name (some spec) (.float r) ≠ [] := by
  intro h
  rw [walk] at h
  split at h <;> simp at h

/-- A list stands under a specification only if that has one for the items. -/
theorem walk_items_some (h : walk P c closed pointer name (some spec) (.list items) = []) :
    ∃ child, itemSpec spec = some child ∧ walkItems P c pointer name (some child) 0 items = [] := by
  simp only [walk] at h
  cases hs : itemSpec spec with
  | none =>
    simp [hs] at h
  | some child =>
    simp only [hs] at h
    exact ⟨child, rfl, (List.append_eq_nil_iff.1 h).2⟩

theorem walk_tuple_eq (items : List Value) : walk P c closed pointer name expected (.tuple items) =
    walk P c closed pointer name expected (.list items) :=
  rfl

theorem itemSpec_kind (h : itemSpec spec = some child) :
    child.kind = .hash ∨ child.kind = .safeLabel ∨ child.kind = .string := by
  obtain ⟨kind, limit⟩ := spec
  cases kind <;> cases h <;> simp

theorem itemSpec_none (hk : spec.kind = .hash ∨ spec.kind = .safeLabel ∨ spec.kind = .string) :
    itemSpec spec = none := by
  obtain ⟨kind, limit⟩ := spec
  rcases hk with hk | hk | hk <;> cases hk <;> rfl

/-- Where a text is expected nothing but a text passes. -/
theorem walk_text (hk : spec.kind = .hash ∨ spec.kind = .safeLabel ∨ spec.kind = .string)
    (h : walk P c closed pointer name (some spec) v = []) : ∃ s, v = .str s := by
  cases v with
  | str s => exact ⟨s, rfl⟩
  | none | bool b => rcases hk with hk | hk | hk <;> simp [walk, hk] at h
  | int i => rcases hk with hk | hk | hk <;> simp [walk, hk] at h
  | float r => exact absurd h walk_float_some
  | dict fields => exact absurd h walk_dict_some
  | list items =>
    obtain ⟨_, hc, _⟩ := walk_items_some h
    rw [itemSpec_none hk] at hc
    cases hc
  | tuple items =>
    rw [walk_tuple_eq] at h
    obtain ⟨_, hc, _⟩ := walk_items_some h
    rw [itemSpec_none hk] at hc
    cases hc

theorem walkItems_strs (hs : itemSpec spec = some child)
    (h : walkItems P c pointer name (some child) index items = []) :
    ∃ texts : List String, items = texts.map Value.str := by
  induction items generalizing index with
  | nil => exact ⟨[], rfl⟩
  | cons item items ih =>
    rw [walkItems, List.append_eq_nil_iff] at h
    obtain ⟨s, rfl⟩ := walk_text (itemSpec_kind hs) h.1
    obtain ⟨texts, rfl⟩ := ih h.2
    exact ⟨s :: texts, rfl⟩

theorem walk_flat (h : walk P c closed pointer name (some spec) v = []) :
    Value.Flat v := by
  cases v with
  | none => exact .none
  | bool b => exact .bool b
  | int i => exact .int i
  | str s => exact .str s
  | float r => exact absurd h walk_float_some
  | dict fields => exact absurd h walk_dict_some
  | list items =>
    obtain ⟨child, hs, hi⟩ := walk_items_some h
    obtain ⟨texts, rfl⟩ := walkItems_strs hs hi
    exact .list texts
  | tuple items =>
    rw [walk_tuple_eq] at h
    obtain ⟨child, hs, hi⟩ := walk_items_some h
    obtain ⟨texts, rfl⟩ := walkItems_strs hs hi
    exact .tuple texts

theorem walk_canonical {v : Value} (h : v.Flat) :
    walk P c closed pointer name expected v.canonical =
      walk P c closed pointer name expected v := by
  cases h with
  | none | bool b | int i | str s => rfl
  | list texts => rw [Value.canonical_list, Value.map_canonical_str]
  | tuple texts => rw [Value.canonical_tuple, Value.map_canonical_str, walk_tuple_eq]

/-- Canonical order keeps the verdict on a payload of known fields. -/
theorem walkFields_canonicalObject (h : walkFields P c (some specs) pointer fields = []) :
    walkFields P c (some specs) pointer (Value.canonicalObject fields) = [] := by
  rw [walkFields_eq_nil] at h ⊢
  intro p hp
  obtain ⟨q, hq, rfl⟩ := Value.mem_canonicalObject.1 hp
  have hf := h q hq
  obtain ⟨spec, hs, hw⟩ := fieldIssues_known hf
  simp only [fieldIssues, hs, walk_canonical (walk_flat hw)] at hf ⊢
  exact hf

theorem validateHostLabel_canonical (v : Value) (field : String) (allowEmpty : Bool) :
    validateHostLabel v.canonical field allowEmpty = validateHostLabel v field allowEmpty := by
  cases v <;> rfl

theorem items_canonical (v : Value) :
    v.canonical.items? = v.items?.map fun items => items.map Value.canonical := by
  cases v with
  | none | bool b | int i | float r | str s | dict fields => rfl
  | list items => rw [Value.canonical_list]; rfl
  | tuple items => rw [Value.canonical_tuple]; rfl

theorem mapM_validateHostLabel_canonical (items : List Value) (field : String) :
    (items.map Value.canonical).mapM (fun item => validateHostLabel item field false) =
      items.mapM fun item => validateHostLabel item field false := by
  induction items with
  | nil => rfl
  | cons item items ih =>
    rw [List.map_cons, List.mapM_cons, List.mapM_cons, ih, validateHostLabel_canonical]

theorem validateHostList_canonical (v : Value) (field : String) :
    validateHostList v.canonical field = validateHostList v field := by
  rw [validateHostList, validateHostList, items_canonical]
  cases v.items? with
  | none => rfl
  | some items =>
    simp only [Option.map_some, List.length_map, mapM_validateHostLabel_canonical]

theorem strOr_canonical (v : Value) (default : String) :
    v.canonical.strOr default = v.strOr default := by
  cases v <;> rfl

section

variable {fields : List (String × Value)} (hd : (Dict.keys fields).Nodup)
include hd

theorem fieldOf_canonicalObject (name : String) :
    fieldOf (Value.canonicalObject fields) name = (fieldOf fields name).canonical := by
  rw [fieldOf, fieldOf, Value.lookup_canonicalObject hd]
  cases fields.lookup name <;> rfl

theorem isSome_lookup_canonicalObject (name : String) :
    ((Value.canonicalObject fields).lookup name).isSome = (fields.lookup name).isSome := by
  rw [Value.lookup_canonicalObject hd, Option.isSome_map]

theorem hasHostField_canonicalObject :
    hasHostField (Value.canonicalObject fields) = hasHostField fields := by
  simp only [hasHostField, isSome_lookup_canonicalObject hd]

theorem validateHostApplicabilityMapping_canonicalObject (allowLegacy requirePair : Bool) :
    validateHostApplicabilityMapping (Value.canonicalObject fields) allowLegacy requirePair =
      validateHostApplicabilityMapping fields allowLegacy requirePair := by
  simp only [validateHostApplicabilityMapping, hasHostField_canonicalObject hd, hasAllHostFields,
    isSome_lookup_canonicalObject hd, fieldOf_canonicalObject hd, validateHostLabel_canonical,
    validateHostList_canonical, strOr_canonical]

theorem hostContractIssues_canonicalObject :
    hostContractIssues (.dict (Value.canonicalObject fields)) =
      hostContractIssues (.dict fields) := by
  simp only [hostContractIssues, hasHostField_canonicalObject hd,
    validateHostApplicabilityMapping_canonicalObject hd]

end

theorem eraseDups_eq_nil [BEq α] [LawfulBEq α] {l : List α} : l.eraseDups = [] ↔ l = [] := by
  cases l with
  | nil => simp
  | cons a l => simp [List.eraseDups_cons]

theorem inspectPersistable_eq_nil : inspectPersistable P v c closed maxBytes = [] ↔
    Value.utf8Length v.dump ≤ maxBytes ∧ walk P c closed [] [] none v = [] ∧
      hostContractIssues v = [] := by
  simp only [inspectPersistable, eraseDups_eq_nil, List.append_eq_nil_iff, List.map_eq_nil_iff,
    decide_eq_true_eq, and_assoc]
  constructor
  · rintro ⟨hs, hw, hh⟩
    refine ⟨?_, hw, hh⟩
    by_contra hlt
    rw [if_pos (by omega)] at hs
    cases hs
  · rintro ⟨hs, hw, hh⟩
    exact ⟨if_neg (by omega), hw, hh⟩

theorem walk_object : walk P c closed pointer name none (.dict fields) =
    walkFields P c closed pointer fields := by
  rw [walk, if_neg (by simp)]

theorem inspectEventPayload_canonicalObject (hd : (Dict.keys payload).Nodup)
    (h : inspectEventPayload P (.dict payload) c = []) :
    inspectEventPayload P (.dict (Value.canonicalObject payload)) c = [] := by
  rw [inspectEventPayload, inspectPersistable_eq_nil, walk_object] at h ⊢
  obtain ⟨hs, hw, hh⟩ := h
  refine ⟨?_, walkFields_canonicalObject hw, ?_⟩
  · rw [← Value.canonical_dict, Value.utf8Length_dump_canonical]
    exact hs
  · rw [hostContractIssues_canonicalObject hd]
    exact hh

/-- Every field of an inspected payload is a known one with a flat value. -/
theorem inspectEventPayload_known (h : inspectEventPayload P (.dict payload) c = [])
    (hp : (key, v) ∈ payload) : ∃ spec, eventPayloadFields.lookup key = some spec ∧ v.Flat ∧
      (spec.kind = .string → ∃ s, v = .str s) := by
  rw [inspectEventPayload, inspectPersistable_eq_nil, walk_object, walkFields_eq_nil] at h
  obtain ⟨spec, hs, hw⟩ := fieldIssues_known (h.2.1 _ hp)
  exact ⟨spec, hs, walk_flat hw, fun hk => walk_text (.inr (.inr hk)) hw⟩

end ExternalIntelligence
