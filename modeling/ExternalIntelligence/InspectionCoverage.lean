import ExternalIntelligence.PersistableFlat

namespace ExternalIntelligence
set_option autoImplicit true

/-- A text among the leaves of a value, at any depth. -/
inductive LeafOf (s : String) : Value → Prop
  | here : LeafOf s (.str s)
  | item : item ∈ items → LeafOf s item → LeafOf s (.list items)
  | tupleItem : item ∈ items → LeafOf s item → LeafOf s (.tuple items)
  | field : p ∈ fields → LeafOf s p.2 → LeafOf s (.dict fields)

/-- A key of an object in a value, at any depth. -/
inductive KeyOf (key : String) : Value → Prop
  | here : (key, v) ∈ fields → KeyOf key (.dict fields)
  | item : item ∈ items → KeyOf key item → KeyOf key (.list items)
  | tupleItem : item ∈ items → KeyOf key item → KeyOf key (.tuple items)
  | field : p ∈ fields → KeyOf key p.2 → KeyOf key (.dict fields)

/-- What Unicode says of the normal form that texts are inspected in. -/
structure Platform.NormalForms (P : Platform) : Prop where
  idempotent : ∀ text, P.nfkc (P.nfkc text) = P.nfkc text
  control : ∀ text, hasControl P text = true → hasControl P (P.nfkc text) = true

/-- A text that no secret rule matches and that has no control characters but for tabs and line
ends. -/
def CleanText (P : Platform) (s : String) : Prop :=
  P.secretMatch (P.nfkc (Text.chars s)) = none ∧ hasControl P (Text.chars s) = false

theorem inspectText_secret (h : P.secretMatch (P.nfkc text) = some rule) (kind : String)
    (ref : List Char) : (inspectText P text kind ref).allowPrivateSync = false ∧
      (inspectText P text kind ref).reasonCode ≠ "CLASSIFIED" := by
  rw [inspectText, h]
  split
  · exact ⟨rfl, by decide⟩
  · exact ⟨rfl, show "SECRET_PATTERN_MATCH" ≠ "CLASSIFIED" by decide⟩

/-- A text with a secret is not let through. -/
theorem inspectPersistedText_secret (hP : P.NormalForms)
    (h : P.secretMatch (P.nfkc text) = some rule) (kind : String) (ref : List Char) :
    (inspectPersistedText P text kind ref).allowPrivateSync = false ∧
      (inspectPersistedText P text kind ref).reasonCode ≠ "CLASSIFIED" := by
  rw [inspectPersistedText]
  split
  · exact ⟨rfl, show "UNICODE_CONTROL_FORBIDDEN" ≠ "CLASSIFIED" by decide⟩
  · apply inspectText_secret
    rw [hP.idempotent, h]

theorem ite_eq_nil {p : Prop} [Decidable p] {a b : List α} (h : (if p then a else b) = [])
    (ha : a ≠ []) : ¬p ∧ b = [] := by
  by_cases hp : p
  · rw [if_pos hp] at h
    exact (ha h).elim
  · rw [if_neg hp] at h
    exact ⟨hp, h⟩

/-- What is known of a text that passes the checks of all texts. -/
theorem validateString_eq_nil (hP : P.NormalForms) {requireHash : Bool}
    (h : validateString P value pointer name limit classification requireHash = []) :
    CleanText P value ∧ ∀ most, limit = some most → (P.nfkc (Text.chars value)).length ≤ most := by
  rw [validateString] at h
  obtain ⟨hlength, h⟩ := ite_eq_nil h (List.cons_ne_nil _ _)
  obtain ⟨hcontrol, h⟩ := ite_eq_nil h (List.cons_ne_nil _ _)
  obtain ⟨_, h⟩ := ite_eq_nil h (List.cons_ne_nil _ _)
  obtain ⟨_, h⟩ := ite_eq_nil h (List.cons_ne_nil _ _)
  obtain ⟨_, h⟩ := ite_eq_nil h (List.cons_ne_nil _ _)
  obtain ⟨hdecision, h⟩ := ite_eq_nil h (List.cons_ne_nil _ _)
  apply And.intro
  · apply And.intro
    · cases hsecret : P.secretMatch (P.nfkc (Text.chars value)) with
      | none => rfl
      | some rule =>
        rw [← hP.idempotent] at hsecret
        have hrefused := inspectPersistedText_secret hP hsecret classification pointer
        rw [hrefused.1, bne_iff_ne.2 hrefused.2] at hdecision
        exact (hdecision rfl).elim
    · rw [← Bool.not_eq_true]
      exact fun hraw => hcontrol (hP.control _ hraw)
  · rintro most rfl
    rw [Option.map_some, Option.getD_some, decide_eq_true_eq, Nat.not_lt] at hlength
    exact hlength

theorem walk_str_eq_nil (hP : P.NormalForms)
    (h : walk P classification closed pointer name expected (.str s) = []) :
    CleanText P s ∧ ∀ spec most, expected = some spec → spec.limit = some most →
      (P.nfkc (Text.chars s)).length ≤ most := by
  rw [walk, walkString] at h
  split at h
  · cases h
  · have hvalid := validateString_eq_nil hP h
    apply And.intro hvalid.1
    rintro spec most rfl hlimit
    exact hvalid.2 most hlimit

theorem walkItems_mem (h : walkItems P classification pointer name expected index items = [])
    (hmem : item ∈ items) : ∃ place, walk P classification none place name expected item = [] := by
  induction items generalizing index with
  | nil => exact (List.not_mem_nil hmem).elim
  | cons first items ih =>
    rw [walkItems, List.append_eq_nil_iff] at h
    cases hmem with
    | head => exact ⟨_, h.1⟩
    | tail _ hmem => exact ih h.2 hmem

/-- Each item of a list that passes was walked. -/
theorem walk_item (h : walk P classification closed pointer name expected (.list items) = [])
    (hmem : item ∈ items) :
    ∃ place child, walk P classification none place name child item = [] := by
  cases expected with
  | none =>
    obtain ⟨place, hitem⟩ := walkItems_mem h hmem
    exact ⟨place, none, hitem⟩
  | some spec =>
    obtain ⟨child, _, hitems⟩ := walk_items_some h
    obtain ⟨place, hitem⟩ := walkItems_mem hitems hmem
    exact ⟨place, some child, hitem⟩

/-- Each field of an object that passes was walked, and its name is none of the forbidden ones. -/
theorem walk_field (h : walk P classification closed pointer name expected (.dict fields) = [])
    (hmem : p ∈ fields) : P.casefold (Text.chars p.1) ∉ texts forbiddenKeys ∧
      ∃ place folded child, walk P classification none place folded child p.2 = [] := by
  cases expected with
  | some spec => exact (walk_dict_some h).elim
  | none =>
    rw [walk_object, walkFields_eq_nil] at h
    have hfield := h p hmem
    obtain ⟨hname, hwalk⟩ := List.append_eq_nil_iff.1 hfield
    apply And.intro
    · intro hforbidden
      rw [if_pos (List.contains_iff_mem.2 hforbidden)] at hname
      cases hname
    · cases closed with
      | none => exact ⟨_, _, none, hwalk⟩
      | some specs =>
        obtain ⟨spec, _, hknown⟩ := fieldIssues_known hfield
        exact ⟨_, _, some spec, hknown⟩

/-- Every text among the leaves of a value that passes is clean. -/
theorem walk_leaf (hP : P.NormalForms) (hleaf : LeafOf s v)
    (h : walk P classification closed pointer name expected v = []) : CleanText P s := by
  induction hleaf generalizing closed pointer name expected with
  | here => exact (walk_str_eq_nil hP h).1
  | item hmem _ ih =>
    obtain ⟨place, child, hitem⟩ := walk_item h hmem
    exact ih hitem
  | tupleItem hmem _ ih =>
    rw [walk_tuple_eq] at h
    obtain ⟨place, child, hitem⟩ := walk_item h hmem
    exact ih hitem
  | field hmem _ ih =>
    obtain ⟨_, place, folded, child, hfield⟩ := walk_field h hmem
    exact ih hfield

/-- No key of a value that passes is one of the forbidden names. -/
theorem walk_key (hkey : KeyOf key v)
    (h : walk P classification closed pointer name expected v = []) :
    P.casefold (Text.chars key) ∉ texts forbiddenKeys := by
  induction hkey generalizing closed pointer name expected with
  | here hmem => exact (walk_field h hmem).1
  | item hmem _ ih =>
    obtain ⟨place, child, hitem⟩ := walk_item h hmem
    exact ih hitem
  | tupleItem hmem _ ih =>
    rw [walk_tuple_eq] at h
    obtain ⟨place, child, hitem⟩ := walk_item h hmem
    exact ih hitem
  | field hmem _ ih =>
    obtain ⟨_, place, folded, child, hfield⟩ := walk_field h hmem
    exact ih hfield

/-- Whether a value that is no list fits an entry of a registry; of a text it is the length. -/
def LeafFits (P : Platform) (spec : FieldSpec) : Value → Prop
  | .str s => ∀ most, spec.limit = some most → (P.nfkc (Text.chars s)).length ≤ most
  | .none => spec.kind = .nullableString
  | .bool _ => spec.kind = .boolean
  | .int n => (spec.kind = .nonnegativeInteger ∨ spec.kind = .stringOrInteger) ∧ 0 ≤ n
  | _ => False

/-- Whether the value of a field fits the entry of a registry; a list is one of texts. -/
def FieldFits (P : Platform) (spec : FieldSpec) : Value → Prop
  | .list items | .tuple items => ∃ child, itemSpec spec = some child ∧
      ∀ item ∈ items, ∃ s, item = .str s ∧ LeafFits P child (.str s)
  | v => LeafFits P spec v

theorem walk_list_fits (hP : P.NormalForms)
    (h : walk P classification closed pointer name (some spec) (.list items) = []) :
    ∃ child, itemSpec spec = some child ∧
      ∀ item ∈ items, ∃ s, item = .str s ∧ LeafFits P child (.str s) := by
  obtain ⟨child, hchild, hitems⟩ := walk_items_some h
  apply Exists.intro child
  apply And.intro hchild
  intro item hmem
  obtain ⟨place, hitem⟩ := walkItems_mem hitems hmem
  obtain ⟨s, rfl⟩ := walk_text (itemSpec_kind hchild) hitem
  exact ⟨s, rfl, fun most hlimit => (walk_str_eq_nil hP hitem).2 child most rfl hlimit⟩

/-- A value that passes under an entry of a registry fits the entry. -/
theorem walk_fits (hP : P.NormalForms)
    (h : walk P classification closed pointer name (some spec) v = []) : FieldFits P spec v := by
  cases v with
  | none =>
    by_contra hkind
    rw [walk, Option.any_some, if_pos (bne_iff_ne.2 hkind)] at h
    cases h
  | bool b =>
    by_contra hkind
    rw [walk, Option.any_some, if_pos (bne_iff_ne.2 hkind)] at h
    cases h
  | int n =>
    rw [walk, Option.any_some] at h
    have hpass := (ite_eq_nil h (List.cons_ne_nil _ _)).1
    rw [Bool.or_eq_true, Bool.and_eq_true, bne_iff_ne, bne_iff_ne, not_or, not_and_or, not_not,
      not_not, decide_eq_true_eq, Int.not_lt] at hpass
    exact hpass
  | float r => exact (walk_float_some h).elim
  | str s => exact fun most hlimit => (walk_str_eq_nil hP h).2 spec most rfl hlimit
  | list items => exact walk_list_fits hP h
  | tuple items =>
    rw [walk_tuple_eq] at h
    exact walk_list_fits hP h
  | dict fields => exact (walk_dict_some h).elim

/-- The fields of an object that passes with a closed table are entries of the table that their
values fit. -/
theorem walk_closed (hP : P.NormalForms)
    (h : walk P classification (some specs) pointer name none (.dict fields) = [])
    (hmem : p ∈ fields) : ∃ spec, specs.lookup p.1 = some spec ∧ FieldFits P spec p.2 := by
  rw [walk_object, walkFields_eq_nil] at h
  obtain ⟨spec, hspec, hwalk⟩ := fieldIssues_known (h p hmem)
  exact ⟨spec, hspec, walk_fits hP hwalk⟩

/-- A value that passes an inspection: its texts are clean, its keys are none of the forbidden
names, and if it is an object that a closed table is given for, its fields are entries of the
table that their values fit. -/
structure Inspected (P : Platform) (closed : Option (List (String × FieldSpec))) (v : Value) :
    Prop where
  leaves : ∀ s, LeafOf s v → CleanText P s
  keys : ∀ key, KeyOf key v → P.casefold (Text.chars key) ∉ texts forbiddenKeys
  fields : ∀ specs fields, closed = some specs → v = .dict fields →
    ∀ p ∈ fields, ∃ spec, specs.lookup p.1 = some spec ∧ FieldFits P spec p.2

theorem inspected_of_valid (hP : P.NormalForms)
    (h : inspectPersistable P v classification closed maxBytes = []) : Inspected P closed v := by
  have hwalk := (inspectPersistable_eq_nil.1 h).2.1
  exact
    { leaves := fun s hleaf => walk_leaf hP hleaf hwalk
      keys := fun key hkey => walk_key hkey hwalk
      fields := fun specs fields hclosed hv p hmem => by
        subst hclosed hv
        exact walk_closed hP hwalk hmem }

/-- What the inspections of a value and of the payload of an event say of them. -/
theorem inspection_covers (hP : P.NormalForms) (v : Value) (classification : String)
    (closed : Option (List (String × FieldSpec))) (maxBytes : Nat)
    (payload : List (String × Value)) :
    (inspectPersistable P v classification closed maxBytes = [] → Inspected P closed v) ∧
      (inspectEventPayload P (.dict payload) classification = [] → ∀ p ∈ payload,
        ∃ spec, eventPayloadFields.lookup p.1 = some spec ∧ FieldFits P spec p.2) := by
  apply And.intro
  · exact inspected_of_valid hP
  · intro h p hmem
    exact (inspected_of_valid hP h).fields eventPayloadFields payload rfl rfl p hmem

theorem samplePlatform_normalForms : samplePlatform.NormalForms :=
  ⟨fun _ => rfl, fun _ h => h⟩

/-- The payload of an event with a text, a number and a list. -/
def rulePayload : List (String × Value) :=
  [("title", .str "Prefer pathlib"), ("benefit_count", .int 2),
    ("scopes", .list [.str "cli", .str "scripts"])]

theorem inspection_covers_rule :
    Inspected samplePlatform none (.dict [("note", .list [.dict rulePayload])]) ∧
      ∀ p ∈ rulePayload, ∃ spec, eventPayloadFields.lookup p.1 = some spec ∧
        FieldFits samplePlatform spec p.2 := by
  have hcovers := inspection_covers samplePlatform_normalForms
    (.dict [("note", .list [.dict rulePayload])]) "private-reusable" none (512 * 1024) rulePayload
  exact ⟨hcovers.1 (by decide), hcovers.2 (by decide)⟩

/-- A platform with one secret rule. -/
def keyPlatform : Platform :=
  { samplePlatform with
    secretMatch := fun text =>
      if Text.contains (Text.chars "api_key=") text then some "api_key" else none }

/-- A secret passes as a key of an object without a table, and objects of unknown keys pass in a
list that is inspected as the payload of an event. -/
theorem keys_are_not_inspected :
    inspectPersistable keyPlatform (.dict [("api_key=do-not-store", .int 1)]) "private-reusable"
      none (512 * 1024) = [] ∧
    KeyOf "api_key=do-not-store" (.dict [("api_key=do-not-store", .int 1)]) ∧
    ¬CleanText keyPlatform "api_key=do-not-store" ∧
    inspectEventPayload samplePlatform (.list [.dict [("note", .dict [])]]) "private-reusable" =
      [] ∧
    KeyOf "note" (.list [.dict [("note", .dict [])]]) ∧
    eventPayloadFields.lookup "note" = none := by
  have hsecret : keyPlatform.secretMatch (keyPlatform.nfkc (Text.chars "api_key=do-not-store")) =
      some "api_key" := by
    decide
  have hkey : ¬CleanText keyPlatform "api_key=do-not-store" := by
    intro h
    rw [CleanText, hsecret] at h
    exact Option.some_ne_none _ h.1
  exact ⟨by decide, .here List.mem_cons_self, hkey, by decide,
    .item List.mem_cons_self (.here List.mem_cons_self), by decide⟩

end ExternalIntelligence
