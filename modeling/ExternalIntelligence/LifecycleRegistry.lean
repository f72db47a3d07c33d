import ExternalIntelligence.ChangesetMapping
import ExternalIntelligence.HostPartition
import ExternalIntelligence.Lifecycle
import ExternalIntelligence.PlainTexts

namespace ExternalIntelligence
set_option autoImplicit true

/-- The codes of an inspection that are about fields and their types, not about texts. -/
def registryCodes : List String :=
  ["UNKNOWN_FIELD", "RAW_CONTENT_FORBIDDEN", "TYPE_INVALID", "NULL_NOT_ALLOWED",
    "NESTED_OBJECT_FORBIDDEN", "JSON_VALUE_INVALID", "IDENTIFIER_INVALID", "REASON_CODE_INVALID",
    "CLASSIFICATION_NOT_SYNCABLE", "IDENTIFIER_HASH_REQUIRED", "MATCH_KIND_INVALID",
    "APPLICABILITY_SCOPE_INVALID", "HOST_LIST_TOO_LARGE", "HOST_LIST_INVALID",
    "HOST_APPLICABILITY_INVALID"]

/-- An event that the journal stores if its texts pass: the registry has its fields and takes the
types of their values. -/
def Storable (P : Platform) (event : Event) : Prop :=
  ∀ issue ∈ inspectEventPayload P (.dict event.payload) (eventClassification P event),
    issue.reasonCode ∉ registryCodes

theorem inspectPersistedText_reasonCode :
    (inspectPersistedText P text sourceKind sourceRef).reasonCode ∉ registryCodes := by
  unfold inspectPersistedText inspectText
  simp only [safeRejection]
  split
  · decide
  · split
    · decide
    · split
      · show "SECRET_PATTERN_MATCH" ∉ registryCodes
        decide
      · split
        · rename_i reason hreason
          unfold forbiddenPathReason at hreason
          split at hreason
          · cases hreason
            decide
          · cases hreason
        · split
          all_goals decide

/-- What may be wrong with a text is no matter of its type. -/
theorem validateString_reasonCode (hP : P.PlainTexts) {requireHash : Bool}
    (hhash : requireHash = true → isHash value = true)
    (h : issue ∈ validateString P value pointer fieldName limit classification requireHash) :
    issue.reasonCode ∉ registryCodes := by
  unfold validateString at h
  dsimp only at h
  have hsingle : ∀ {code : String}, code ∉ registryCodes →
      issue ∈ [(⟨pointer, code⟩ : PersistableIssue)] → issue.reasonCode ∉ registryCodes := by
    intro code hcode hissue
    rw [List.mem_singleton] at hissue
    rw [hissue]
    exact hcode
  split at h
  · exact hsingle (by decide) h
  · split at h
    · exact hsingle (by decide) h
    · split at h
      · exact hsingle (by decide) h
      · split at h
        · exact hsingle (by decide) h
        · split at h
          · rename_i hno
            rw [Bool.and_eq_true, Bool.and_eq_true, Bool.not_eq_true'] at hno
            obtain ⟨⟨hrequired, _⟩, hnot⟩ := hno
            have htext := hhash hrequired
            obtain ⟨_, hprintable, _⟩ := chars_of_isHash htext
            rw [hP.nfkc _ hprintable, isHashText, Text.chars_eq_toList, String.ofList_toList,
              htext] at hnot
            cases hnot
          · split at h
            · exact hsingle inspectPersistedText_reasonCode h
            · split at h
              · exact hsingle (by decide) h
              · cases h

/-- The values a specification takes, whatever their texts say. -/
inductive FieldSpec.Admits (spec : FieldSpec) : Value → Prop
  | text (value : String) : kindRefusal spec.kind value = none →
      (spec.kind = .hash ∨ spec.kind = .optionalHash → isHash value = true) → Admits spec (.str value)
  | count (value : Int) : spec.kind = .nonnegativeInteger ∨ spec.kind = .stringOrInteger →
      0 ≤ value → Admits spec (.int value)
  | texts (values : List String) : spec.kind = .stringList → Admits spec (.ofStrings values)
  | labels (values : List String) : spec.kind = .hostLabelList →
      values.length ≤ maxHostApplicabilityItems → values.Nodup →
      (∀ value ∈ values, (validateHostLabel (.str value) "" false).isOk = true) →
      Admits spec (.ofStrings values)

theorem walkString_reasonCode (hP : P.PlainTexts) (hkind : kindRefusal spec.kind value = none)
    (hhash : spec.kind = .hash ∨ spec.kind = .optionalHash → isHash value = true)
    (h : issue ∈ walkString P classification pointer fieldName (some spec) value) :
    issue.reasonCode ∉ registryCodes := by
  unfold walkString at h
  dsimp only at h
  rw [Option.getD_some, hkind] at h
  apply validateString_reasonCode hP _ h
  intro hrequired
  rw [Bool.or_eq_true, beq_iff_eq, beq_iff_eq] at hrequired
  exact hhash hrequired

theorem walkItems_reasonCode (hP : P.PlainTexts) {values : List String}
    (hkind : ∀ value ∈ values, kindRefusal child.kind value = none)
    (hhash : child.kind ≠ .hash ∧ child.kind ≠ .optionalHash) : ∀ {index : Nat},
    issue ∈ walkItems P classification pointer fieldName (some child) index
      (values.map Value.str) → issue.reasonCode ∉ registryCodes := by
  induction values with
  | nil =>
    intro index h
    cases h
  | cons value values ih =>
    intro index h
    rw [List.map_cons, walkItems, List.mem_append] at h
    cases h with
    | inl hfirst =>
      rw [walk] at hfirst
      apply walkString_reasonCode hP (hkind value (List.mem_cons_self ..)) _ hfirst
      rintro (he | he)
      · exact absurd he hhash.1
      · exact absurd he hhash.2
    | inr hrest =>
      exact ih (fun value hvalue => hkind value (List.mem_cons_of_mem _ hvalue)) hrest

theorem walk_reasonCode (hP : P.PlainTexts) (hadmits : spec.Admits value)
    (h : issue ∈ walk P classification none pointer fieldName (some spec) value) :
    issue.reasonCode ∉ registryCodes := by
  cases hadmits with
  | text value hkind hhash =>
    rw [walk] at h
    exact walkString_reasonCode hP hkind hhash h
  | count value hkind hleast =>
    rw [walk, if_neg] at h
    · cases h
    · rw [Option.any_some, Bool.or_eq_true, Bool.and_eq_true, bne_iff_ne, bne_iff_ne,
        decide_eq_true_eq]
      rintro (⟨hcount, htext⟩ | hnegative)
      · cases hkind with
        | inl he => exact hcount he
        | inr he => exact htext he
      · omega
  | texts values hkind =>
    obtain ⟨kind, limit⟩ := spec
    cases hkind
    rw [Value.ofStrings, walk.eq_def] at h
    dsimp only [itemSpec] at h
    rw [if_neg (by decide), List.nil_append] at h
    exact walkItems_reasonCode hP (fun _ _ => rfl) 
      ⟨show FieldKind.string ≠ .hash by decide, show FieldKind.string ≠ .optionalHash by decide⟩ h
  | labels values hkind hlength hnodup hlabels =>
    obtain ⟨kind, limit⟩ := spec
    cases hkind
    rw [Value.ofStrings, walk.eq_def] at h
    dsimp only [itemSpec] at h
    have hlist : hostListIssues pointer (values.map Value.str) = [] := by
      have hstrings := Value.strings_ofStrings values
      rw [Value.ofStrings] at hstrings
      unfold hostListIssues
      dsimp only
      rw [hstrings, List.length_map, if_neg (Nat.not_lt.2 hlength), if_neg]
      · rfl
      · rintro (hne | hdup)
        · exact hne rfl
        · exact hdup hnodup
    rw [if_pos rfl, hlist, List.nil_append] at h
    apply walkItems_reasonCode hP _ ⟨by decide, by decide⟩ h
    intro value hvalue
    unfold kindRefusal
    dsimp only
    rw [hlabels value hvalue]
    rfl


/-- A payload of fields that the registry has, with values of their types. -/
def Registered (payload : Fields) : Prop :=
  ∀ entry ∈ payload, ∃ spec, eventPayloadFields.lookup entry.1 = some spec ∧ spec.Admits entry.2

theorem registered_nil : Registered [] := by
  intro entry hentry
  cases hentry

theorem registered_cons (hspec : eventPayloadFields.lookup key = some spec)
    (hvalue : spec.Admits value) (h : Registered payload) :
    Registered ((key, value) :: payload) := by
  intro entry hentry
  cases List.mem_cons.1 hentry with
  | inl he =>
    rw [he]
    exact ⟨spec, hspec, hvalue⟩
  | inr hrest => exact h entry hrest

theorem registered_set (hspec : eventPayloadFields.lookup key = some spec)
    (hvalue : spec.Admits value) (h : Registered payload) :
    Registered (Dict.set key value payload) := by
  intro entry hentry
  cases Dict.mem_of_mem_set hentry with
  | inl he =>
    rw [he]
    exact ⟨spec, hspec, hvalue⟩
  | inr hmem => exact h entry hmem

theorem registered_update {fields payload : Fields} (hfields : Registered fields)
    (h : Registered payload) : Registered (Dict.update fields payload) := by
  induction payload generalizing fields with
  | nil => exact hfields
  | cons entry payload ih =>
    obtain ⟨key, value⟩ := entry
    obtain ⟨spec, hspec, hvalue⟩ := h (key, value) (List.mem_cons_self ..)
    rw [Dict.update_cons]
    apply ih (registered_set hspec hvalue hfields)
    intro entry hentry
    exact h entry (List.mem_cons_of_mem _ hentry)

theorem eventPayloadFields_plain : ∀ key ∈ Dict.keys eventPayloadFields,
    ((Text.chars key).all fun c => isPrintable c && Text.asciiLower c == c) = true ∧
      (texts forbiddenKeys).contains (Text.chars key) = false := by
  decide

theorem walkFields_reasonCode (hP : P.PlainTexts) (hregistered : Registered payload)
    (h : issue ∈ walkFields P classification (some eventPayloadFields) pointer payload) :
    issue.reasonCode ∉ registryCodes := by
  rw [walkFields_eq, List.mem_flatMap] at h
  obtain ⟨entry, hentry, hissue⟩ := h
  obtain ⟨spec, hspec, hvalue⟩ := hregistered entry hentry
  obtain ⟨hplain, hallowed⟩ := eventPayloadFields_plain entry.1
    (Dict.lookup_isSome_iff.1 (hspec ▸ rfl))
  rw [fieldIssues, hP.casefold _ hplain, hallowed, if_neg Bool.false_ne_true,
    List.nil_append] at hissue
  simp only [hspec] at hissue
  exact walk_reasonCode hP hvalue hissue

/-- Fields of the registry are stored if the host contract has no say about them. -/
theorem storable_of_registered {event : Event} (hP : P.PlainTexts)
    (hregistered : Registered event.payload)
    (hhost : hostContractIssues (.dict event.payload) = []) : Storable P event := by
  intro issue hissue
  unfold inspectEventPayload inspectPersistable at hissue
  dsimp only at hissue
  rw [List.mem_eraseDups, hhost, List.append_nil, List.mem_append] at hissue
  cases hissue with
  | inl hlarge =>
    split at hlarge
    · rw [List.mem_singleton.1 hlarge]
      show "PERSISTED_PAYLOAD_TOO_LARGE" ∉ registryCodes
      decide
    · cases hlarge
  | inr hwalk =>
    obtain ⟨found, hfound, he⟩ := List.mem_map.1 hwalk
    rw [walk_object] at hfound
    have hcode := walkFields_reasonCode hP hregistered hfound
    rw [← he]
    split
    · exact hcode
    · exact hcode


/-- Labels that a host list takes. -/
structure HostLabels (labels : List String) : Prop where
  length : labels.length ≤ maxHostApplicabilityItems
  nodup : labels.Nodup
  label : ∀ label ∈ labels, ∀ field, validateHostLabel (.str label) field false = .ok label

theorem validateHostLabel_ok (h : validateHostLabel value field allowEmpty = .ok label) :
    value = .str label ∧ ∀ name, validateHostLabel (.str label) name allowEmpty = .ok label := by
  cases value with
  | str text =>
    unfold validateHostLabel at h ⊢
    dsimp only at h ⊢
    split at h
    · rename_i hempty
      cases h
      exact ⟨rfl, fun _ => if_pos hempty⟩
    · rename_i hnonempty
      split at h
      · cases h
      · rename_i hshape
        split at h
        · cases h
        · rename_i hdrive
          cases h
          apply And.intro rfl
          intro name
          rw [if_neg hnonempty, if_neg hshape, if_neg hdrive]
  | none | bool _ | int _ | float _ | list _ | tuple _ | dict _ => cases h

theorem validateHostLabel_allowEmpty (h : validateHostLabel (.str label) field false = .ok label) :
    validateHostLabel (.str label) name true = .ok label := by
  have hlabel := (validateHostLabel_ok h).2 name
  unfold validateHostLabel at hlabel ⊢
  dsimp only at hlabel ⊢
  rw [if_neg (fun hne => absurd hne.2 Bool.false_ne_true)] at hlabel
  split
  · rfl
  · exact hlabel

theorem mapM_validateHostLabel (items : List Value) {labels : List String}
    (h : items.mapM (fun item => validateHostLabel item field false) = .ok labels) :
    ∀ label ∈ labels, ∀ name, validateHostLabel (.str label) name false = .ok label := by
  induction items generalizing labels with
  | nil =>
    cases h
    intro label hlabel
    cases hlabel
  | cons item items ih =>
    rw [List.mapM_cons] at h
    obtain ⟨first, hfirst, h⟩ := Except.bind_eq_ok.1 h
    obtain ⟨rest, hrest, h⟩ := Except.bind_eq_ok.1 h
    cases h
    intro label hlabel name
    cases List.mem_cons.1 hlabel with
    | inl he =>
      rw [he]
      exact (validateHostLabel_ok hfirst).2 name
    | inr hmem => exact ih hrest label hmem name

theorem length_mapM_except (f : α → Except ε β) (items : List α) {found : List β}
    (h : items.mapM f = .ok found) : found.length = items.length := by
  induction items generalizing found with
  | nil =>
    cases h
    rfl
  | cons item items ih =>
    rw [List.mapM_cons] at h
    obtain ⟨first, _, h⟩ := Except.bind_eq_ok.1 h
    obtain ⟨rest, hrest, h⟩ := Except.bind_eq_ok.1 h
    cases h
    rw [List.length_cons, List.length_cons, ih hrest]

theorem validateHostList_ok (h : validateHostList value field = .ok labels) :
    HostLabels labels := by
  unfold validateHostList at h
  split at h
  · cases h
  · rename_i items hitems
    split at h
    · cases h
    · rename_i hlength
      obtain ⟨found, hfound, h⟩ := Except.bind_eq_ok.1 h
      split at h
      · rename_i hnodup
        cases h
        constructor
        · rw [length_mapM_except _ items hfound]
          exact Nat.not_lt.1 hlength
        · exact hnodup
        · exact mapM_validateHostLabel items hfound
      · cases h

theorem HostLabels.validate {labels : List String} (h : HostLabels labels) (field : String) :
    validateHostList (.ofStrings labels) field = .ok labels := by
  have hmap : ∀ rest : List String,
      (∀ label ∈ rest, validateHostLabel (.str label) field false = .ok label) →
      (rest.map Value.str).mapM (fun item => validateHostLabel item field false) = .ok rest := by
    intro rest
    induction rest with
    | nil => exact fun _ => rfl
    | cons label rest ih =>
      intro hlabels
      rw [List.map_cons, List.mapM_cons, hlabels label (List.mem_cons_self ..),
        ih fun label hlabel => hlabels label (List.mem_cons_of_mem _ hlabel)]
      rfl
  have hfound := hmap labels fun label hlabel => h.label label hlabel field
  unfold validateHostList
  simp only [Value.ofStrings, Value.items?, List.length_map, hfound]
  rw [if_neg (Nat.not_lt.2 h.length)]
  show (if labels.Nodup then Except.ok labels else _) = _
  rw [if_pos h.nodup]

/-- A host pair and an applicability that the host contract takes. -/
structure HostValid (host : HostFields) : Prop where
  sourceId : ∀ field, validateHostLabel (.str host.sourceHostId) field false = .ok host.sourceHostId
  sourceFamily : ∀ field,
    validateHostLabel (.str host.sourceHostFamily) field false = .ok host.sourceHostFamily
  pair : host.hasPair = true
  scope : hostScopeValues.contains host.applicabilityScope = true
  hostIds : HostLabels host.applicableHostIds
  hostFamilies : HostLabels host.applicableHostFamilies
  fits : scopeContradictory host.applicabilityScope host.sourceHostId host.sourceHostFamily
    host.applicableHostIds host.applicableHostFamilies = false

theorem HostValid.validate {host : HostFields} (h : HostValid host) :
    validateHostApplicabilityMapping host.toPayload false true =
      .ok ⟨host.applicabilityScope, host.applicableHostIds, host.applicableHostFamilies⟩ := by
  have hpair := h.pair
  rw [HostFields.hasPair, Bool.and_eq_true, bne_iff_ne, bne_iff_ne] at hpair
  have hhas : hasHostField host.toPayload = true := rfl
  have hall : hasAllHostFields host.toPayload = true := rfl
  have hid : fieldOf host.toPayload "source_host_id" = .str host.sourceHostId := rfl
  have hfamily : fieldOf host.toPayload "source_host_family" = .str host.sourceHostFamily := rfl
  have hscope : fieldOf host.toPayload "applicability_scope" = .str host.applicabilityScope := rfl
  have hids : fieldOf host.toPayload "applicable_host_ids" =
    .ofStrings host.applicableHostIds := rfl
  have hfamilies : fieldOf host.toPayload "applicable_host_families" =
    .ofStrings host.applicableHostFamilies := rfl
  rw [validateHostApplicabilityMapping, hhas, hall, hid, hfamily, hscope, hids, hfamilies,
    Bool.not_true, if_neg Bool.false_ne_true, if_neg Bool.false_ne_true, h.sourceId,
    h.sourceFamily, h.hostIds.validate, h.hostFamilies.validate]
  have hne : ((host.sourceHostId != "") != (host.sourceHostFamily != "")) = false := by
    rw [bne_iff_ne.2 hpair.1, bne_iff_ne.2 hpair.2]
    rfl
  have hsome : (host.sourceHostId == "" || host.sourceHostFamily == "") = false := by
    rw [beq_eq_false_iff_ne.2 hpair.1, beq_eq_false_iff_ne.2 hpair.2]
    rfl
  simp only [bind, Except.bind, hne, hsome, Value.strOr, h.scope, h.fits, Bool.and_false,
    Bool.not_true, if_neg Bool.false_ne_true]

/-- What the reader of the host fields takes from a payload that has them is valid. -/
theorem hostValid_of_fields (hhas : hasHostField payload = true)
    (h : hostApplicabilityFields payload legacy true = .ok host) : HostValid host := by
  unfold hostApplicabilityFields at h
  obtain ⟨scope, hscope, h⟩ := Except.map_eq_ok.1 h
  rw [hhas, Bool.not_true, if_neg Bool.false_ne_true] at h
  rw [validateHostApplicabilityMapping, hhas, Bool.not_true, if_neg Bool.false_ne_true] at hscope
  split at hscope
  · cases hscope
  · obtain ⟨sourceId, hid, hscope⟩ := Except.bind_eq_ok.1 hscope
    obtain ⟨sourceFamily, hfamily, hscope⟩ := Except.bind_eq_ok.1 hscope
    obtain ⟨hidValue, hidLabel⟩ := validateHostLabel_ok hid
    obtain ⟨hfamilyValue, hfamilyLabel⟩ := validateHostLabel_ok hfamily
    split at hscope
    · cases hscope
    · split at hscope
      · cases hscope
      · rename_i hpair
        dsimp only at hscope
        split at hscope
        · cases hscope
        · rename_i hcontains
          obtain ⟨ids, hids, hscope⟩ := Except.bind_eq_ok.1 hscope
          obtain ⟨families, hfamilies, hscope⟩ := Except.bind_eq_ok.1 hscope
          split at hscope
          · cases hscope
          · rename_i hfits
            cases hscope
            rw [hidValue, hfamilyValue] at h
            cases h
            constructor
            · exact hidLabel
            · exact hfamilyLabel
            · rw [Bool.true_and, Bool.or_eq_true, beq_iff_eq, beq_iff_eq, not_or] at hpair
              rw [HostFields.hasPair, Bool.and_eq_true, bne_iff_ne, bne_iff_ne]
              exact hpair
            · rw [Bool.not_eq_true, Bool.not_eq_false'] at hcontains
              exact hcontains
            · exact validateHostList_ok hids
            · exact validateHostList_ok hfamilies
            · exact Bool.eq_false_of_not_eq_true hfits


theorem registered_toPayload {host : HostFields} (h : HostValid host) :
    Registered host.toPayload := by
  have hlabels : ∀ {labels : List String}, HostLabels labels →
      FieldSpec.Admits ⟨.hostLabelList, none⟩ (.ofStrings labels) := by
    intro labels hl
    apply FieldSpec.Admits.labels labels rfl hl.length hl.nodup
    intro label hlabel
    rw [hl.label label hlabel ""]
    rfl
  have htext : ∀ {label : String}, (∀ field, validateHostLabel (.str label) field false = .ok label) →
      FieldSpec.Admits ⟨.optionalSafeLabel, some 160⟩ (.str label) := by
    intro label hl
    apply FieldSpec.Admits.text label
    · unfold kindRefusal
      dsimp only
      rw [validateHostLabel_allowEmpty (hl "")]
      rfl
    · intro hkind
      cases hkind with
      | inl he => cases he
      | inr he => cases he
  have hscope : FieldSpec.Admits ⟨.applicabilityScope, some 16⟩ (.str host.applicabilityScope) := by
    apply FieldSpec.Admits.text host.applicabilityScope
    · unfold kindRefusal
      dsimp only
      rw [h.scope]
      rfl
    · intro hkind
      cases hkind with
      | inl he => cases he
      | inr he => cases he
  apply registered_cons (by decide) (htext h.sourceId)
  apply registered_cons (by decide) (htext h.sourceFamily)
  apply registered_cons (by decide) hscope
  apply registered_cons (by decide) (hlabels h.hostIds)
  apply registered_cons (by decide) (hlabels h.hostFamilies)
  exact registered_nil

/-- A host without a source pair, or a valid one. -/
def HostSettled (host : HostFields) : Prop :=
  (host.sourceHostId = "" ∨ host.sourceHostFamily = "") ∨ HostValid host

theorem hostPayload_settled {state : ClusterState} (h : HostSettled state.host) :
    state.hostPayload = [] ∨ state.hostPayload = state.host.toPayload ∧ HostValid state.host := by
  unfold ClusterState.hostPayload
  split
  · exact .inl rfl
  · rename_i hpair
    cases h with
    | inl hmissing => exact absurd hmissing hpair
    | inr hvalid => exact .inr ⟨rfl, hvalid⟩

theorem stateHostFields_settled {state : ClusterState} (h : HostSettled state.host) :
    stateHostFields state = .ok state.hostPayload := by
  unfold stateHostFields ClusterState.hostPayload
  split
  · rfl
  · rename_i hpair
    cases h with
    | inl hmissing => exact absurd hmissing hpair
    | inr hvalid =>
      rw [hvalid.validate]
      rfl

/-- Fields without a word about hosts. -/
def HostFree (payload : Fields) : Prop :=
  ∀ name ∈ hostApplicabilityFieldNames, payload.lookup name = none

theorem HostFree.update {fields payload : Fields} (h : HostFree fields)
    (hkeys : ∀ name ∈ hostApplicabilityFieldNames, name ∉ Dict.keys payload) :
    HostFree (Dict.update fields payload) := by
  intro name hname
  rw [Dict.lookup_update_of_notMem (hkeys name hname)]
  exact h name hname

theorem admits_string (value : String) (limit : Option Nat) :
    FieldSpec.Admits ⟨.string, limit⟩ (.str value) := by
  apply FieldSpec.Admits.text value rfl
  intro hkind
  cases hkind with
  | inl he => cases he
  | inr he => cases he

theorem admits_strings (values : List String) (limit : Option Nat) :
    FieldSpec.Admits ⟨.stringList, limit⟩ (.ofStrings values) :=
  FieldSpec.Admits.texts values rfl

theorem admits_count (value : Nat) : FieldSpec.Admits ⟨.nonnegativeInteger, none⟩ (.int value) :=
  FieldSpec.Admits.count _ (.inl rfl) (Int.natCast_nonneg value)

/-- What the events that name a pattern and nothing more add. -/
theorem registered_patternId (patternId : String) :
    Registered [("pattern_id", .str patternId)] := by
  apply registered_cons (by decide) (admits_string patternId (some 160))
  exact registered_nil

/-- What the events that describe a pattern add to its name. -/
theorem registered_description (patternId rule classification : String)
    (provenances scopes applicability : List String) (benefitCount : Nat) :
    Registered [("pattern_id", .str patternId), ("rule", .str rule),
      ("provenances", .ofStrings provenances), ("scopes", .ofStrings scopes),
      ("applicability", .ofStrings applicability), ("benefit_count", .int benefitCount),
      ("classification", .str classification)] := by
  apply registered_cons (by decide) (admits_string patternId (some 160))
  apply registered_cons (by decide) (admits_string rule (some 12000))
  apply registered_cons (by decide) (admits_strings provenances (some 240))
  apply registered_cons (by decide) (admits_strings scopes (some 240))
  apply registered_cons (by decide) (admits_strings applicability (some 240))
  apply registered_cons (by decide) (admits_count benefitCount)
  apply registered_cons (by decide) (admits_string classification (some 32))
  exact registered_nil

theorem registered_promotion (patternId rule classification : String)
    (provenances scopes applicability : List String) (benefitCount : Nat) :
    Registered [("pattern_id", .str patternId), ("rule", .str rule),
      ("provenances", .ofStrings provenances), ("scopes", .ofStrings scopes),
      ("benefit_count", .int benefitCount), ("classification", .str classification),
      ("applicability", .ofStrings applicability)] := by
  intro entry hentry
  apply registered_description patternId rule classification provenances scopes applicability
    benefitCount
  simp only [List.mem_cons, List.not_mem_nil, or_false] at hentry ⊢
  tauto

/-- What a content event says beside its key and its host is what its fields say. -/
theorem lookup_contentEvent (state : ClusterState) (fields : Fields)
    (hname : name ∉ hostApplicabilityFieldNames) (hkey : "idempotency_key" ≠ name)
    (occurredAt : String) :
    (contentEvent P eventType clusterId occurredAt actor machineId idStart digits
      (Dict.update fields state.hostPayload)).payload.lookup name = fields.lookup name := by
  unfold contentEvent
  dsimp only
  rw [Dict.lookup_set_of_ne hkey, Dict.lookup_update_of_notMem]
  unfold ClusterState.hostPayload
  split
  · exact List.not_mem_nil
  · exact hname

/-- An event that a replay can follow: if it is a revision, it has a number. -/
def Followed (P : Platform) (event : Event) : Prop :=
  event.eventType = "pattern.revised" →
    (pyInt P (getOr event.payload "revision" (.int 0))).isOk = true

/-- The fields that describe a pattern. -/
def describedFields : List String :=
  ["pattern_id", "rule", "provenances", "scopes", "applicability", "benefit_count",
    "classification"]

theorem registered_patternPayload (patternId : String) (record : ClusterRecord) :
    Registered (patternPayload (.str patternId) record) :=
  registered_description patternId record.canonicalRule record.state.classification
    (sortedText record.state.provenances) (sortedText record.state.scopes)
    record.state.applicability record.state.benefitCount

/-- A state that the journal can have: its host is settled, an active one is named, and no
replacement of it is known to be active. -/
structure ClusterState.Settled (state : ClusterState) : Prop where
  host : HostSettled state.host
  named : state.status = "active" → state.patternId.isSome = true
  unreplaced : state.replacementActive = false

section

variable {P : Platform} (hP : P.HexDigests) (hT : P.PlainTexts)
include hP hT

/-- An event of registered fields about a state whose host is settled. -/
theorem storable_contentEvent {state : ClusterState} {fields : Fields}
    (hfields : Registered fields) (hfree : HostFree fields) (hhost : HostSettled state.host)
    (occurredAt : String) :
    Storable P (contentEvent P eventType clusterId occurredAt actor machineId idStart digits
      (Dict.update fields state.hostPayload)) := by
  have hregistered : Registered state.hostPayload := by
    cases hostPayload_settled hhost with
    | inl hnone =>
      rw [hnone]
      exact registered_nil
    | inr hpair =>
      rw [hpair.1]
      exact registered_toPayload hpair.2
  have hnodup : (Dict.keys state.hostPayload).Nodup := by
    cases hostPayload_settled hhost with
    | inl hnone =>
      rw [hnone]
      exact List.nodup_nil
    | inr hpair =>
      rw [hpair.1]
      show hostApplicabilityFieldNames.Nodup
      decide
  apply storable_of_registered hT
  · have hspec : eventPayloadFields.lookup "idempotency_key" = some ⟨.optionalHash, some 71⟩ := by
      decide
    apply registered_set hspec
    · exact FieldSpec.Admits.text _ rfl fun _ => isHash_of_isDigest (hP _)
    · exact registered_update hfields hregistered
  · have hsame : ∀ name ∈ hostApplicabilityFieldNames, ∀ key : Value,
        (Dict.set "idempotency_key" key (Dict.update fields state.hostPayload)).lookup name =
          state.hostPayload.lookup name := by
      intro name hname key
      have hne : "idempotency_key" ≠ name := by
        intro he
        rw [← he] at hname
        exact absurd hname (by decide)
      rw [Dict.lookup_set_of_ne hne, Dict.lookup_update hnodup, hfree name hname, Option.or_none]
    obtain ⟨hhas, hvalidate⟩ := hostMapping_congr (fun name hname => hsame name hname _) false true
    unfold hostContractIssues contentEvent
    dsimp only
    rw [hhas, hvalidate]
    cases hostPayload_settled hhost with
    | inl hnone =>
      rw [hnone]
      rfl
    | inr hpair =>
      rw [hpair.1, hpair.2.validate]
      rfl

/-- An event about a cluster, with what its kind adds to the fields that all have. -/
theorem storable_clusterEvent {state : ClusterState} {payload : Fields}
    (hhost : HostSettled state.host) (hreason : kindRefusal .reason reason = none)
    (hold : 0 ≤ oldVersion) (hnew : 0 ≤ newVersion) (hpayload : Registered payload)
    (hkeys : ∀ name ∈ hostApplicabilityFieldNames, name ∉ Dict.keys payload)
    (policyVersion : String) (evidence : List String) (occurredAt : String) :
    Storable P (contentEvent P eventType clusterId occurredAt actor machineId idStart digits
      (Dict.update (Dict.update (clusterPayload state reason policyVersion evidence oldVersion
        newVersion) payload) state.hostPayload)) := by
  have hreasonCode : FieldSpec.Admits ⟨.reason, some 80⟩ (.str reason) := by
    apply FieldSpec.Admits.text reason hreason
    intro hkind
    cases hkind with
    | inl he => cases he
    | inr he => cases he
  have hversion : ∀ {version : Int}, 0 ≤ version →
      FieldSpec.Admits ⟨.stringOrInteger, some 160⟩ (.int version) :=
    fun hleast => FieldSpec.Admits.count _ (.inr rfl) hleast
  have hcommon : Registered (clusterPayload state reason policyVersion evidence oldVersion
      newVersion) := by
    apply registered_cons (by decide) (admits_string state.clusterId (some 160))
    apply registered_cons (by decide) (admits_string reason (some 160))
    apply registered_cons (by decide) hreasonCode
    apply registered_cons (by decide) (admits_strings evidence (some 240))
    apply registered_cons (by decide) (admits_string policyVersion (some 160))
    apply registered_cons (by decide) (hversion hold)
    apply registered_cons (by decide) (hversion hnew)
    exact registered_nil
  have hfree : HostFree (clusterPayload state reason policyVersion evidence oldVersion
      newVersion) := by
    intro name hname
    rw [Dict.lookup_eq_none_iff]
    revert name
    show ∀ name ∈ hostApplicabilityFieldNames, name ∉ ["cluster_id", "reason", "reason_code",
      "evidence_refs", "policy_version", "old_version", "new_version"]
    decide
  exact storable_contentEvent hP hT (registered_update hcommon hpayload) (hfree.update hkeys) hhost
    occurredAt

theorem storable_lifecycleEvent {state : ClusterState} {payload : Fields}
    (hhost : HostSettled state.host) (hreason : kindRefusal .reason reason = none)
    (hpayload : Registered payload)
    (hkeys : ∀ name ∈ hostApplicabilityFieldNames, name ∉ Dict.keys payload)
    (policy : LifecyclePolicy) (eventType occurredAt : String) :
    Storable P (lifecycleEvent P policy state eventType occurredAt reason state.revision
      state.revision payload) := by
  unfold lifecycleEvent
  exact storable_clusterEvent hP hT hhost hreason (Int.le_refl 0) (Int.le_refl 0) hpayload hkeys
    (orPolicyVersion policy) state.lifecycleEvidence occurredAt

theorem evaluateLifecycle_storable {state : ClusterState} (h : state.Settled)
    (policy : LifecyclePolicy) (nowUtc : NowUtc)
    (hmade : made ∈ evaluateLifecycle P policy state nowUtc) : Storable P made := by
  have hpatternKeys : ∀ name ∈ hostApplicabilityFieldNames, name ∉ ["pattern_id"] := by
    decide
  have hpattern : ∀ {patternId : String} {eventType occurredAt reason : String},
      state.patternId = some patternId → kindRefusal .reason reason = none →
      Storable P (lifecycleEvent P policy state eventType occurredAt reason state.revision
        state.revision [("pattern_id", textOrNone state.patternId)]) := by
    intro patternId eventType occurredAt reason hname hreason
    rw [hname]
    exact storable_lifecycleEvent hP hT h.host hreason (registered_patternId patternId)
      hpatternKeys policy eventType occurredAt
  have hactive : state.status = "active" → ∃ patternId, state.patternId = some patternId :=
    fun hstatus => Option.isSome_iff_exists.1 (h.named hstatus)
  unfold evaluateLifecycle at hmade
  dsimp only at hmade
  split at hmade
  · rename_i hdue
    rw [Bool.and_eq_true, beq_iff_eq] at hdue
    obtain ⟨patternId, hname⟩ := hactive hdue.1
    rw [List.mem_singleton.1 hmade]
    exact hpattern hname (by decide)
  · split at hmade
    · rename_i hdue
      rw [Bool.and_eq_true, Bool.and_eq_true, beq_iff_eq] at hdue
      obtain ⟨patternId, hname⟩ := hactive hdue.1.1
      rw [List.mem_singleton.1 hmade]
      exact hpattern hname (by decide)
    · split at hmade
      · rw [List.mem_singleton.1 hmade]
        apply storable_lifecycleEvent hP hT h.host (by decide)
        · exact registered_promotion _ _ _ _ _ _ _
        · show ∀ name ∈ hostApplicabilityFieldNames, name ∉ ["pattern_id", "rule", "provenances",
            "scopes", "benefit_count", "classification", "applicability"]
          decide
      · split at hmade
        · rename_i hnamed
          obtain ⟨patternId, hname⟩ : ∃ patternId, state.patternId = some patternId := by
            cases hname : state.patternId with
            | none =>
              rw [hname] at hnamed
              cases hnamed
            | some patternId => exact ⟨patternId, rfl⟩
          split at hmade
          · rename_i hdue
            rw [h.unreplaced, Bool.and_false] at hdue
            cases hdue
          · split at hmade
            · rw [List.mem_singleton.1 hmade]
              exact hpattern hname (by decide)
            · cases hmade
        · cases hmade

/-- What every event that a reconciliation generates has. -/
structure Generated (P : Platform) (event : Event) : Prop where
  storable : Storable P event
  notObservation : isObservation event = false
  followed : Followed P event

theorem eventForPattern_ok {record : ClusterRecord} {payload : Fields}
    (hhost : HostSettled record.state.host) (hreason : kindRefusal .reason reason = none)
    (hnew : 0 ≤ newVersion) (hpayload : Registered payload)
    (hkeys : ∀ name ∈ hostApplicabilityFieldNames, name ∉ Dict.keys payload)
    (hnodup : (Dict.keys payload).Nodup) (hobservation : eventType ≠ "observation.recorded")
    (hrevision : eventType = "pattern.revised" → payload.lookup "revision" = some (.int newVersion))
    (policy : LifecyclePolicy) (occurredAt : String) :
    ∃ made, eventForPattern P policy record eventType occurredAt reason newVersion payload =
      .ok made ∧ Generated P made := by
  unfold eventForPattern
  dsimp only
  rw [stateHostFields_settled hhost]
  refine ⟨_, rfl, ?_, ?_, ?_⟩
  · exact storable_clusterEvent hP hT hhost hreason (Int.natCast_nonneg _) hnew hpayload hkeys
      policy.policyVersion _ occurredAt
  · unfold isObservation
    rw [beq_eq_false_iff_ne.2]
    · rfl
    · exact hobservation
  · intro htype
    have hlookup := hrevision htype
    rw [getOr, lookup_contentEvent _ _ (by decide) (by decide), Dict.lookup_update hnodup,
      hlookup]
    rfl

theorem generateEvent_ok {record : ClusterRecord} (h : record.state.Settled)
    (policy : LifecyclePolicy) (events : List Event) (nowText : String) :
    ∃ made, generateEvent P policy events nowText record = .ok made ∧
      ∀ event ∈ made, Generated P event := by
  have hone : ∀ {eventType occurredAt reason : String} {newVersion : Int} {payload : Fields},
      (∃ made, eventForPattern P policy record eventType occurredAt reason newVersion payload =
        .ok made ∧ Generated P made) →
      ∃ made, (eventForPattern P policy record eventType occurredAt reason newVersion payload).map
        (fun event => [event]) = .ok made ∧ ∀ event ∈ made, Generated P event := by
    intro eventType occurredAt reason newVersion payload hmade
    obtain ⟨made, hmade, hgenerated⟩ := hmade
    rw [hmade]
    refine ⟨[made], rfl, ?_⟩
    intro event hevent
    rw [List.mem_singleton.1 hevent]
    exact hgenerated
  unfold generateEvent
  dsimp only
  split
  · apply hone
    apply eventForPattern_ok hP hT h.host (by decide) (Int.le_refl 0)
      (registered_patternPayload _ record)
    · show ∀ name ∈ hostApplicabilityFieldNames, name ∉ describedFields
      decide
    · show describedFields.Nodup
      decide
    · decide
    · intro he
      exact absurd he (by decide)
  · split
    · rename_i hdue
      rw [Bool.and_eq_true, Bool.and_eq_true, beq_iff_eq] at hdue
      obtain ⟨patternId, hname⟩ := Option.isSome_iff_exists.1 (h.named hdue.1.1)
      have hrevision : FieldSpec.Admits ⟨.nonnegativeInteger, none⟩ (.int (record.revision + 1)) :=
        admits_count (record.revision + 1)
      rw [hname]
      apply hone
      apply eventForPattern_ok hP hT h.host (by decide) (by omega)
        (registered_cons (by decide) hrevision (registered_patternPayload patternId record))
      · show ∀ name ∈ hostApplicabilityFieldNames, name ∉ "revision" :: describedFields
        decide
      · show ("revision" :: describedFields).Nodup
        decide
      · decide
      · exact fun _ => rfl
    · refine ⟨[], rfl, ?_⟩
      intro event hevent
      cases hevent

end

end ExternalIntelligence
