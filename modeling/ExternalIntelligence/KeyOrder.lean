import ExternalIntelligence.SetupPlan

set_option autoImplicit true

namespace Value

mutual

/-- A value with the fields of its mappings in the order of their keys. -/
def ordered : Value → Value
  | .list items => .list (orderedItems items)
  | .tuple items => .tuple (orderedItems items)
  | .dict fields => .dict (sortFields (orderedFields fields))
  | v => v

def orderedItems : List Value → List Value
  | [] => []
  | v :: items => ordered v :: orderedItems items

def orderedFields : List (String × Value) → List (String × Value)
  | [] => []
  | (name, v) :: fields => (name, ordered v) :: orderedFields fields

end

mutual

/-- No mapping in a value has two fields of one name. -/
def UniqueKeys : Value → Prop
  | .list items => UniqueItems items
  | .tuple items => UniqueItems items
  | .dict fields => (Dict.keys fields).Nodup ∧ UniqueFields fields
  | _ => True

def UniqueItems : List Value → Prop
  | [] => True
  | v :: items => UniqueKeys v ∧ UniqueItems items

def UniqueFields : List (String × Value) → Prop
  | [] => True
  | (_, v) :: fields => UniqueKeys v ∧ UniqueFields fields

end

theorem orderedFields_eq_map (fields : List (String × Value)) :
    orderedFields fields = fields.map fun p => (p.1, p.2.ordered) := by
  induction fields with
  | nil => rfl
  | cons p fields ih => rw [orderedFields, ih, List.map_cons]

theorem uniqueFields_iff {fields : List (String × Value)} :
    UniqueFields fields ↔ ∀ p ∈ fields, p.2.UniqueKeys := by
  induction fields with
  | nil => exact iff_of_true trivial fun _ h => (List.not_mem_nil h).elim
  | cons p fields ih => rw [UniqueFields, ih, List.forall_mem_cons]

theorem ordered_dict (fields : List (String × Value)) :
    ordered (.dict fields) = .dict (sortFields (fields.map fun p => (p.1, p.2.ordered))) := by
  rw [ordered, orderedFields_eq_map]

theorem lookup_sortFields_map {fields : List (String × Value)} (f : Value → Value)
    (h : (Dict.keys fields).Nodup) (key : String) :
    (sortFields (fields.map fun p => (p.1, f p.2))).lookup key = (fields.lookup key).map f := by
  rw [Dict.lookup_perm _ (sortFields_perm _).symm, Dict.lookup_map]
  rwa [Dict.keys_map]

/-- Fields of the same names and values are the same once they are sorted. -/
theorem sortFields_of_lookup {a b : List (String × Value)} (ha : (Dict.keys a).Nodup)
    (hb : (Dict.keys b).Nodup) (h : ∀ key, a.lookup key = b.lookup key) :
    sortFields a = sortFields b := by
  apply sortFields_congr ha
  rw [List.perm_ext_iff_of_nodup (List.Nodup.of_map _ ha) (List.Nodup.of_map _ hb)]
  intro p
  rw [Dict.mem_iff_lookup ha, Dict.mem_iff_lookup hb, h]

theorem ordered_dict_eq_iff {a b : List (String × Value)} (ha : (Dict.keys a).Nodup)
    (hb : (Dict.keys b).Nodup) : ordered (.dict a) = ordered (.dict b) ↔
      ∀ key, (a.lookup key).map ordered = (b.lookup key).map ordered := by
  rw [ordered_dict, ordered_dict, Value.dict.injEq]
  apply Iff.intro
  · intro h key
    rw [← lookup_sortFields_map ordered ha, ← lookup_sortFields_map ordered hb, h]
  · intro h
    apply sortFields_of_lookup
    · rwa [Dict.keys_map]
    · rwa [Dict.keys_map]
    · intro key
      rw [Dict.lookup_map, Dict.lookup_map, h]

mutual

theorem canonical_ordered : ∀ v : Value, v.ordered.canonical = v.canonical
  | .none | .bool _ | .int _ | .float _ | .str _ => rfl
  | .list items | .tuple items => by
    rw [ordered, canonical, canonical, canonical_orderedItems items]
  | .dict fields => by
    rw [ordered, canonical_dict, canonical_dict, canonicalObject_congr (sortFields_sortFields _),
      canonicalObject, canonicalObject, canonical_orderedFields fields]

theorem canonical_orderedItems : ∀ items : List Value,
    canonicalItems (orderedItems items) = canonicalItems items
  | [] => rfl
  | v :: items => by
    rw [orderedItems, canonicalItems, canonicalItems, canonical_ordered v,
      canonical_orderedItems items]

theorem canonical_orderedFields : ∀ fields : List (String × Value),
    (orderedFields fields).map (fun p => (p.1, p.2.canonical)) =
      fields.map fun p => (p.1, p.2.canonical)
  | [] => rfl
  | (name, v) :: fields => by
    rw [orderedFields, List.map_cons, List.map_cons, canonical_ordered v,
      canonical_orderedFields fields]

end

end Value

namespace ExternalIntelligence

open Value

theorem plainFields_eq_map (S : SetupPlatform) (fields : Fields) :
    plainFields S fields = fields.map fun p => (p.1, plainValue S p.2) := by
  induction fields with
  | nil => rfl
  | cons p fields ih => rw [plainFields, ih, List.map_cons]

mutual

theorem plainValue_ordered (S : SetupPlatform) : ∀ v : Value, plainValue S v.ordered = plainValue S v
  | .none | .bool _ | .int _ | .float _ | .str _ => rfl
  | .list items | .tuple items => by
    rw [ordered, plainValue, plainValue, plainItems_ordered S items]
  | .dict fields => by
    rw [ordered, plainValue, plainValue, plainFields_eq_map, map_sortFields, sortFields_sortFields,
      ← plainFields_eq_map, plainFields_ordered S fields]

theorem plainItems_ordered (S : SetupPlatform) : ∀ items : List Value,
    plainItems S (orderedItems items) = plainItems S items
  | [] => rfl
  | v :: items => by
    rw [orderedItems, plainItems, plainItems, plainValue_ordered S v, plainItems_ordered S items]

theorem plainFields_ordered (S : SetupPlatform) : ∀ fields : Fields,
    plainFields S (orderedFields fields) = plainFields S fields
  | [] => rfl
  | (name, v) :: fields => by
    rw [orderedFields, plainFields, plainFields, plainValue_ordered S v,
      plainFields_ordered S fields]

end

/-- Values that differ in the order of keys alone equal the same values. -/
theorem equalValues_congr (h : ordered a = ordered b) (x : Value) :
    equalValues S x a = equalValues S x b := by
  rw [equalValues, equalValues, ← plainValue_ordered S a, h, plainValue_ordered]

/-- A field that stays, without what is volatile in it. -/
def stableField (P : Platform) (p : String × Value) : Option (String × Value) :=
  if isVolatile P p.1 then none else some (p.1, withoutVolatile P p.2)

theorem stableFields_eq_filterMap (P : Platform) (fields : Fields) :
    stableFields P fields = fields.filterMap (stableField P) := by
  induction fields with
  | nil => rfl
  | cons p fields ih =>
    rw [stableFields, List.filterMap_cons, stableField, ih]
    split <;> rfl

theorem keys_stableFields (P : Platform) (fields : Fields) :
    (Dict.keys (stableFields P fields)).Sublist (Dict.keys fields) := by
  induction fields with
  | nil => exact List.Sublist.refl _
  | cons p fields ih =>
    rw [stableFields]
    split
    · exact ih.cons p.1
    · exact ih.cons_cons p.1

mutual

theorem ordered_withoutVolatile (P : Platform) : ∀ v : Value, v.UniqueKeys →
    ordered (withoutVolatile P v.ordered) = ordered (withoutVolatile P v)
  | .none, _ | .bool _, _ | .int _, _ | .float _, _ | .str _, _ => rfl
  | .list items, h | .tuple items, h => by
    rw [ordered, withoutVolatile, withoutVolatile, ordered, ordered,
      ordered_stableItems P items h]
  | .dict fields, h => by
    have hperm : (stableFields P (sortFields (orderedFields fields))).Perm
        (stableFields P (orderedFields fields)) := by
      rw [stableFields_eq_filterMap, stableFields_eq_filterMap]
      exact (sortFields_perm _).filterMap _
    have hkeys : (Dict.keys (stableFields P (orderedFields fields))).Nodup := by
      apply (keys_stableFields P _).nodup
      rw [orderedFields_eq_map, Dict.keys_map]
      exact h.1
    rw [ordered, withoutVolatile, withoutVolatile, ordered, ordered,
      ← ordered_stableFields P fields h.2, Value.dict.injEq, orderedFields_eq_map (stableFields P _),
      orderedFields_eq_map (stableFields P _)]
    apply (sortFields_congr _ (hperm.symm.map _)).symm
    rwa [Dict.keys_map]

theorem ordered_stableItems (P : Platform) : ∀ items : List Value, UniqueItems items →
    orderedItems (stableItems P (orderedItems items)) = orderedItems (stableItems P items)
  | [], _ => rfl
  | v :: items, h => by
    rw [orderedItems, stableItems, stableItems, orderedItems, orderedItems,
      ordered_withoutVolatile P v h.1, ordered_stableItems P items h.2]

theorem ordered_stableFields (P : Platform) : ∀ fields : Fields, UniqueFields fields →
    orderedFields (stableFields P (orderedFields fields)) = orderedFields (stableFields P fields)
  | [], _ => rfl
  | (name, v) :: fields, h => by
    rw [orderedFields, stableFields, stableFields]
    split
    · exact ordered_stableFields P fields h.2
    · rw [orderedFields, orderedFields, ordered_withoutVolatile P v h.1,
        ordered_stableFields P fields h.2]

end

theorem withoutVolatile_of_ordered (ha : a.UniqueKeys) (hb : b.UniqueKeys)
    (h : ordered a = ordered b) :
    ordered (withoutVolatile P a) = ordered (withoutVolatile P b) := by
  rw [← ordered_withoutVolatile P a ha, h, ordered_withoutVolatile P b hb]

/-- The order of keys does not matter for a digest. -/
theorem stateDigest_of_ordered (ha : (Value.dict a).UniqueKeys) (hb : (Value.dict b).UniqueKeys)
    (h : ordered (.dict a) = ordered (.dict b)) : stateDigest P a = stateDigest P b := by
  rw [stateDigest, stateDigest, valueHash, valueHash, canonicalJson, canonicalJson,
    ← canonical_ordered, withoutVolatile_of_ordered ha hb h, canonical_ordered]

end ExternalIntelligence
