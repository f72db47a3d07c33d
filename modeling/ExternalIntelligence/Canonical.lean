import Mathlib.Data.List.Perm.Basic
import ExternalIntelligence.Value

set_option autoImplicit true

namespace Dict

variable [DecidableEq κ] [BEq κ] [LawfulBEq κ]

omit [DecidableEq κ] [BEq κ] [LawfulBEq κ] in
theorem keys_perm {d e : List (κ × α)} (h : d.Perm e) : (keys d).Perm (keys e) :=
  h.map _

theorem lookup_perm {d e : List (κ × α)} (hd : (keys d).Nodup) (h : d.Perm e) (k : κ) :
    e.lookup k = d.lookup k := by
  have he : (keys e).Nodup := (keys_perm h).nodup_iff.1 hd
  apply Option.ext
  intro v
  rw [← mem_iff_lookup he, ← mem_iff_lookup hd, h.mem_iff]

theorem lookup_map (f : α → β) (d : List (κ × α)) (k : κ) :
    (d.map fun p => (p.1, f p.2)).lookup k = (d.lookup k).map f := by
  induction d with
  | nil => rfl
  | cons p d ih =>
    obtain ⟨k₀, v₀⟩ := p
    rw [List.map_cons, lookup_cons, lookup_cons]
    split
    · rfl
    · exact ih

omit [DecidableEq κ] [BEq κ] [LawfulBEq κ] in
theorem keys_map (f : α → β) (d : List (κ × α)) :
    keys (d.map fun p => (p.1, f p.2)) = keys d := by
  simp [keys]

end Dict

namespace Value

/-- The fields of an object in the order of their keys. -/
def sortFields (fields : List (String × Value)) : List (String × Value) :=
  fields.insertionSort fun p q => p.1 ≤ q.1

/-- The fields of an object as JSON with sorted keys gives them back. -/
def canonicalObject (fields : List (String × Value)) : List (String × Value) :=
  sortFields (fields.map fun p => (p.1, p.2.canonical))

@[simp] theorem canonical_str (s : String) : canonical (.str s) = .str s :=
  rfl

@[simp] theorem canonical_int (i : Int) : canonical (.int i) = .int i :=
  rfl

theorem canonical_dict (fields : List (String × Value)) :
    canonical (.dict fields) = .dict (canonicalObject fields) := by
  rw [canonical, canonicalFields_eq_map]
  rfl

theorem canonical_list (items : List Value) :
    canonical (.list items) = .list (items.map canonical) := by
  rw [canonical, canonicalItems_eq_map]

theorem canonical_tuple (items : List Value) :
    canonical (.tuple items) = .list (items.map canonical) := by
  rw [canonical, canonicalItems_eq_map]

theorem sortFields_perm (fields : List (String × Value)) : (sortFields fields).Perm fields :=
  List.perm_insertionSort _ _

theorem sortFields_pairwise (fields : List (String × Value)) :
    (sortFields fields).Pairwise fun p q => p.1 ≤ q.1 := by
  have : Std.Total fun p q : String × Value => p.1 ≤ q.1 := ⟨fun p q => le_total p.1 q.1⟩
  have : IsTrans (String × Value) fun p q => p.1 ≤ q.1 := ⟨fun _ _ _ => le_trans⟩
  exact List.pairwise_insertionSort _ _

@[simp] theorem sortFields_sortFields (fields : List (String × Value)) :
    sortFields (sortFields fields) = sortFields fields :=
  (sortFields_pairwise fields).insertionSort_eq

/-- The order in which an object has its fields does not matter once they are sorted. -/
theorem sortFields_congr {a b : List (String × Value)} (hd : (Dict.keys a).Nodup)
    (h : a.Perm b) : sortFields a = sortFields b := by
  apply List.Perm.eq_of_pairwise _ (sortFields_pairwise a) (sortFields_pairwise b)
    ((sortFields_perm a).trans (h.trans (sortFields_perm b).symm))
  intro p q hp hq hpq hqp
  have hp' : p ∈ a := (sortFields_perm a).mem_iff.1 hp
  have hq' : q ∈ a := h.mem_iff.2 ((sortFields_perm b).mem_iff.1 hq)
  have hk : p.1 = q.1 := le_antisymm hpq hqp
  have hv := (Dict.lookup_of_mem hd hp').symm.trans (hk ▸ Dict.lookup_of_mem hd hq')
  exact Prod.ext hk (Option.some.inj hv)

theorem map_sortFields (f : Value → Value) (fields : List (String × Value)) :
    (sortFields fields).map (fun p => (p.1, f p.2)) =
      sortFields (fields.map fun p => (p.1, f p.2)) :=
  List.map_insertionSort _ _ _ _ fun _ _ _ _ => Iff.rfl

theorem canonicalObject_eq (fields : List (String × Value)) :
    canonicalObject fields = (sortFields fields).map fun p => (p.1, p.2.canonical) :=
  (map_sortFields canonical fields).symm

theorem canonicalObject_congr (h : sortFields a = sortFields b) :
    canonicalObject a = canonicalObject b := by
  rw [canonicalObject_eq, canonicalObject_eq, h]

theorem mem_canonicalObject {fields : List (String × Value)} :
    p ∈ canonicalObject fields ↔ ∃ q ∈ fields, (q.1, q.2.canonical) = p := by
  rw [canonicalObject, (sortFields_perm _).mem_iff, List.mem_map]

theorem keys_canonicalObject (fields : List (String × Value)) :
    (Dict.keys (canonicalObject fields)).Perm (Dict.keys fields) := by
  have h := Dict.keys_perm (sortFields_perm (fields.map fun p => (p.1, p.2.canonical)))
  rwa [Dict.keys_map] at h

theorem lookup_canonicalObject {fields : List (String × Value)}
    (h : (Dict.keys fields).Nodup) (key : String) :
    (canonicalObject fields).lookup key = (fields.lookup key).map canonical := by
  rw [canonicalObject, Dict.lookup_perm _ (sortFields_perm _).symm, Dict.lookup_map]
  rwa [Dict.keys_map]

mutual

theorem canonical_canonical : ∀ v : Value, v.canonical.canonical = v.canonical
  | .none | .bool _ | .int _ | .float _ | .str _ => rfl
  | .list items | .tuple items => by
    simp only [canonical_list, canonical_tuple, List.map_map]
    rw [canonical_items items]
  | .dict fields => by
    rw [canonical_dict, canonical_dict, canonicalObject, canonicalObject, map_sortFields,
      sortFields_sortFields, List.map_map]
    have h : (fun p : String × Value => (p.1, p.2.canonical)) ∘
        (fun p : String × Value => (p.1, p.2.canonical)) =
        fun p : String × Value => (p.1, p.2.canonical.canonical) := rfl
    rw [h, canonical_fields fields]

theorem canonical_items : ∀ items : List Value,
    items.map (canonical ∘ canonical) = items.map canonical
  | [] => rfl
  | item :: items => by
    rw [List.map_cons, List.map_cons, canonical_items items, Function.comp_apply,
      canonical_canonical item]

theorem canonical_fields : ∀ fields : List (String × Value),
    fields.map (fun p => (p.1, p.2.canonical.canonical)) =
      fields.map fun p => (p.1, p.2.canonical)
  | [] => rfl
  | (key, value) :: fields => by
    rw [List.map_cons, List.map_cons, canonical_fields fields, canonical_canonical value]

end

@[simp] theorem canonicalObject_canonicalObject (fields : List (String × Value)) :
    canonicalObject (canonicalObject fields) = canonicalObject fields := by
  have h := canonical_canonical (.dict fields)
  rw [canonical_dict, canonical_dict] at h
  exact Value.dict.inj h

@[simp] theorem utf8Length_nil : utf8Length [] = 0 :=
  rfl

@[simp] theorem utf8Length_append (s t : List Char) :
    utf8Length (s ++ t) = utf8Length s + utf8Length t := by
  simp [utf8Length]

@[simp] theorem utf8Length_cons (c : Char) (s : List Char) :
    utf8Length (c :: s) = c.utf8Size + utf8Length s := by
  simp [utf8Length]

/-- The size of a field of an object, its colon counted. -/
def fieldLength (field : String × Value) : Nat :=
  utf8Length (quote field.1) + 1 + utf8Length (dump field.2)

theorem utf8Length_dumpFields : ∀ fields : List (String × Value),
    utf8Length (dumpFields fields) = (fields.map fieldLength).sum + (fields.length - 1)
  | [] => rfl
  | [(key, value)] => by
    simp [dumpFields, fieldLength, show Char.utf8Size ':' = 1 from rfl]
    omega
  | (key, value) :: next :: fields => by
    have ih := utf8Length_dumpFields (next :: fields)
    simp only [List.map_cons, List.sum_cons, List.length_cons] at ih
    simp only [dumpFields, utf8Length_append, utf8Length_cons, utf8Length_nil, List.map_cons,
      List.sum_cons, List.length_cons, fieldLength, show Char.utf8Size ':' = 1 from rfl,
      show Char.utf8Size ',' = 1 from rfl] at ih ⊢
    omega

theorem utf8Length_dumpItems : ∀ items : List Value,
    utf8Length (dumpItems items) =
      (items.map fun item => utf8Length (dump item)).sum + (items.length - 1)
  | [] => rfl
  | [item] => by simp [dumpItems]
  | item :: next :: items => by
    have ih := utf8Length_dumpItems (next :: items)
    simp only [List.map_cons, List.sum_cons, List.length_cons] at ih
    simp only [dumpItems, utf8Length_append, utf8Length_cons, utf8Length_nil, List.map_cons,
      List.sum_cons, List.length_cons, show Char.utf8Size ',' = 1 from rfl]
    omega

theorem utf8Length_dump_list (items : List Value) :
    utf8Length (dump (.list items)) = utf8Length (dumpItems items) + 2 := by
  simp only [dump, utf8Length_append, utf8Length_cons, utf8Length_nil,
    show Char.utf8Size '[' = 1 from rfl, show Char.utf8Size ']' = 1 from rfl]
  omega

theorem utf8Length_dump_dict (fields : List (String × Value)) :
    utf8Length (dump (.dict fields)) = utf8Length (dumpFields fields) + 2 := by
  simp only [dump, utf8Length_append, utf8Length_cons, utf8Length_nil,
    show Char.utf8Size '\x7b' = 1 from rfl, show Char.utf8Size '\x7d' = 1 from rfl]
  omega

mutual

/-- Sorting the keys does not change the size of the text. -/
theorem utf8Length_dump_canonical : ∀ v : Value,
    utf8Length (dump v.canonical) = utf8Length (dump v)
  | .none | .bool _ | .int _ | .float _ | .str _ => rfl
  | .list items => by
    rw [canonical_list, utf8Length_dump_list, utf8Length_dump_list, utf8Length_dumpItems,
      utf8Length_dumpItems, List.length_map, utf8Length_items items]
  | .tuple items => by
    have h : dump (.tuple items) = dump (.list items) := by
      rw [dump, dump]
    rw [h, canonical_tuple, utf8Length_dump_list, utf8Length_dump_list, utf8Length_dumpItems,
      utf8Length_dumpItems, List.length_map, utf8Length_items items]
  | .dict fields => by
    rw [canonical_dict, utf8Length_dump_dict, utf8Length_dump_dict, utf8Length_dumpFields,
      utf8Length_dumpFields, canonicalObject,
      ((sortFields_perm (fields.map fun p => (p.1, p.2.canonical))).map fieldLength).sum_nat,
      (sortFields_perm (fields.map fun p => (p.1, p.2.canonical))).length_eq, List.length_map,
      utf8Length_fields fields]

theorem utf8Length_items : ∀ items : List Value,
    ((items.map canonical).map fun item => utf8Length (dump item)).sum =
      (items.map fun item => utf8Length (dump item)).sum
  | [] => rfl
  | item :: items => by
    simp only [List.map_cons, List.sum_cons]
    rw [utf8Length_dump_canonical item, utf8Length_items items]

theorem utf8Length_fields : ∀ fields : List (String × Value),
    ((fields.map fun p => (p.1, p.2.canonical)).map fieldLength).sum =
      (fields.map fieldLength).sum
  | [] => rfl
  | (key, value) :: fields => by
    simp only [List.map_cons, List.sum_cons, fieldLength]
    rw [utf8Length_dump_canonical value, utf8Length_fields fields]

end

end Value
