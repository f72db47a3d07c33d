import Mathlib.Data.List.Dedup
import ExternalIntelligence.JournalReading
import ExternalIntelligence.Machine

namespace ExternalIntelligence
set_option autoImplicit true

/-- A call of append_event; the dicts of the event have distinct keys. -/
structure AppendCall where
  event : Event
  stops : Bool
  payloadKeys : (Dict.keys event.payload).Nodup
  integrityKeys : (Dict.keys event.integrity).Nodup

def journal (P : Platform) (root : List String) :
    Machine Disk AppendCall (Except Raised (List String)) where
  step disk call :=
    ((appendEvent P root disk call.event call.stops).2,
      (appendEvent P root disk call.event call.stops).1)

/-- What an event is told apart by: its basis from version 2 on, otherwise the event itself. -/
def Event.entry (event : Event) : Value :=
  (Value.dict (if 2 ≤ event.schemaVersion then event.idempotencyBasis
    else event.canonicalDict)).canonical

/-- The identifier names a file in its directory, and the reader takes the provenance. -/
structure Event.Plain (event : Event) : Prop where
  noSlash : event.schemaVersion = 1 → '/' ∉ Text.chars event.eventId
  texts : 2 ≤ event.schemaVersion → ∀ v ∈ event.provenance, ∃ s, s ≠ "" ∧ v = .str s

def placeOf (P : Platform) (root : List String) (event : Event) : Option (List String) :=
  match eventPartition P event with
  | .ok partition => some (root ++ partition ++ [event.eventId ++ ".json"])
  | .error _ => none

theorem target_flat (h : '/' ∉ Text.chars eventId) (disk : Disk) (directory : List String) :
    disk.target directory eventId = some (directory ++ [eventId ++ ".json"]) := by
  have hn : '/' ∉ Text.chars eventId ++ Text.chars ".json" := by
    rw [List.mem_append, not_or]
    exact ⟨h, by decide⟩
  have hl : 5 ≤ (Text.chars eventId ++ Text.chars ".json").length := by
    rw [List.length_append, show (Text.chars ".json").length = 5 from by decide]
    omega
  have hs : String.ofList (Text.chars eventId ++ Text.chars ".json") = eventId ++ ".json" := by
    simp only [Text.chars_eq_toList, ← String.toList_append, String.ofList_toList]
  have hd : eventId ++ ".json" ≠ ".." := by
    intro he
    have := congrArg (fun s => (Text.chars s).length) (hs.trans he)
    simp only [Text.chars_eq_toList, String.toList_ofList] at this hl
    rw [this] at hl
    exact absurd hl (by decide)
  generalize hx : Text.chars eventId ++ Text.chars ".json" = name at hn hl hs
  have hp : name.splitOn '/' = [name] := by
    apply List.splitOnP_eq_singleton
    intro c hc
    exact beq_false_of_ne fun he => hn (he ▸ hc)
  have hh : name.head? ≠ some '/' := by
    intro he
    exact hn (List.mem_of_mem_head? he)
  have hf : (!name.isEmpty && name != ['.']) = true := by
    cases name with
    | nil => simp at hl
    | cons c cs =>
      cases cs with
      | nil => simp at hl
      | cons d ds => simp
  rw [Disk.target, hx]
  simp only [hp, List.filter_cons, hf, List.filter_nil, if_true, if_neg hh, List.map_cons,
    List.map_nil, hs, Disk.resolve, if_neg hd]

theorem isEventId_noSlash (h : isEventId s = true) : '/' ∉ Text.chars s := by
  simp only [isEventId, Bool.and_eq_true, beq_iff_eq, List.all_eq_true] at h
  obtain ⟨⟨⟨⟨hp, _⟩, hu⟩, _⟩, hm⟩ := h
  rw [← List.take_append_drop 4 (Text.chars s), hp]
  generalize (Text.chars s).drop 4 = rest at hu hm ⊢
  intro hc
  rcases List.mem_append.1 hc with hc | hc
  · revert hc
    decide
  · rw [← List.takeWhile_append_dropWhile
      (p := fun c => Text.isDigit c || c == 'T' || c == 'Z') (l := rest)] at hc
    rcases List.mem_append.1 hc with hc | hc
    · have := List.mem_takeWhile_imp hc
      revert this
      decide
    · cases hr : rest.dropWhile (fun c => Text.isDigit c || c == 'T' || c == 'Z') with
      | nil =>
        rw [hr] at hc
        cases hc
      | cons c cs =>
        rw [hr] at hc hu hm
        rcases List.mem_cons.1 hc with rfl | hc
        · simp at hu
        · have := hm _ hc
          revert this
          decide

/-- Two events count as one. -/
structure SameEntry (a b : Event) : Prop where
  schemaVersion : a.schemaVersion = b.schemaVersion
  eventType : a.eventType = b.eventType
  occurredAt : a.occurredAt = b.occurredAt
  actor : a.actor = b.actor
  machineId : a.machineId = b.machineId
  payload : Value.canonicalObject a.payload = Value.canonicalObject b.payload
  eventId : ¬2 ≤ a.schemaVersion → a.eventId = b.eventId
  idempotencyKey : 2 ≤ a.schemaVersion → a.idempotencyKey = b.idempotencyKey
  provenance : 2 ≤ a.schemaVersion →
    a.provenance.map Value.canonical = b.provenance.map Value.canonical

/-- The fields an event is told apart by. -/
def Event.entryFields (event : Event) : List (String × Value) :=
  if 2 ≤ event.schemaVersion then event.idempotencyBasis else event.canonicalDict

theorem entry_eq (event : Event) : event.entry = (Value.dict event.entryFields).canonical :=
  rfl

theorem entryFields_nodup (event : Event) : (Dict.keys event.entryFields).Nodup := by
  by_cases h : 2 ≤ event.schemaVersion
  · simp [Event.entryFields, h, Event.idempotencyBasis, Dict.keys]
  · simp [Event.entryFields, h, Event.canonicalDict, Dict.keys]

theorem lookup_of_entry {a b : Event} (h : a.entry = b.entry) (name : String) :
    (a.entryFields.lookup name).map Value.canonical =
      (b.entryFields.lookup name).map Value.canonical := by
  rw [entry_eq, entry_eq, Value.canonical_dict, Value.canonical_dict, Value.dict.injEq] at h
  rw [← Value.lookup_canonicalObject (entryFields_nodup a),
    ← Value.lookup_canonicalObject (entryFields_nodup b), h]

theorem lookup_entryFields (event : Event) :
    event.entryFields.lookup "schema_version" = some (.int event.schemaVersion) ∧
    event.entryFields.lookup "event_type" = some (.str event.eventType) ∧
    event.entryFields.lookup "occurred_at" = some (.str event.occurredAt) ∧
    event.entryFields.lookup "actor" = some (.str event.actor) ∧
    event.entryFields.lookup "machine_id" = some (.str event.machineId) ∧
    event.entryFields.lookup "payload" = some (.dict event.payload) := by
  rw [Event.entryFields]
  split
  · exact ⟨rfl, rfl, rfl, rfl, rfl, rfl⟩
  · exact ⟨rfl, rfl, rfl, rfl, rfl, rfl⟩

theorem sameEntry_of_entry {a b : Event} (h : a.entry = b.entry) : SameEntry a b := by
  obtain ⟨ha₁, ha₂, ha₃, ha₄, ha₅, ha₆⟩ := lookup_entryFields a
  obtain ⟨hb₁, hb₂, hb₃, hb₄, hb₅, hb₆⟩ := lookup_entryFields b
  have hl := lookup_of_entry h
  have hv : a.schemaVersion = b.schemaVersion := by
    simpa [ha₁, hb₁] using hl "schema_version"
  constructor
  case schemaVersion => exact hv
  case eventType => simpa [ha₂, hb₂] using hl "event_type"
  case occurredAt => simpa [ha₃, hb₃] using hl "occurred_at"
  case actor => simpa [ha₄, hb₄] using hl "actor"
  case machineId => simpa [ha₅, hb₅] using hl "machine_id"
  case payload => simpa [ha₆, hb₆, Value.canonical_dict] using hl "payload"
  case eventId =>
    intro h1
    simpa [Event.entryFields, h1, hv ▸ h1, Event.canonicalDict] using hl "event_id"
  case idempotencyKey =>
    intro h2
    simpa [Event.entryFields, h2, hv ▸ h2, Event.idempotencyBasis] using hl "idempotency_key"
  case provenance =>
    intro h2
    simpa [Event.entryFields, h2, hv ▸ h2, Event.idempotencyBasis, Value.canonical_list]
      using hl "provenance"

theorem entry_of_sameEntry {a b : Event} (h : SameEntry a b) : a.entry = b.entry := by
  rw [entry_eq, entry_eq, Value.canonical_dict, Value.canonical_dict]
  apply congrArg (fun fields => Value.dict (Value.sortFields fields))
  by_cases h2 : 2 ≤ a.schemaVersion
  · simp only [Event.entryFields, if_pos (h.schemaVersion ▸ h2), Event.idempotencyBasis,
      List.map_cons, List.map_nil, Value.canonical_dict, Value.canonical_list, h.schemaVersion,
      h.eventType, h.occurredAt, h.actor, h.machineId, h.payload, h.idempotencyKey h2,
      h.provenance h2]
  · simp only [Event.entryFields, Event.canonicalDict, if_neg (h.schemaVersion ▸ h2),
      List.append_nil, List.map_cons, List.map_nil, Value.canonical_dict, h.schemaVersion,
      h.eventType, h.occurredAt, h.actor, h.machineId, h.payload, h.eventId h2]

theorem sameEntry_stored (event : Event) : SameEntry event.stored event := by
  constructor
  · exact stored_schemaVersion event
  · exact stored_eventType event
  · exact stored_occurredAt event
  · exact stored_actor event
  · exact stored_machineId event
  · rw [stored_payload, Value.canonicalObject_canonicalObject]
  · intro _
    exact stored_eventId event
  · intro h2
    rw [stored_schemaVersion] at h2
    rw [stored_of_v2 h2]
  · intro h2
    rw [stored_schemaVersion] at h2
    rw [stored_of_v2 h2]

@[simp] theorem materialize_payload (P : Platform) (event : Event) :
    (materialize P event).payload = event.payload := by
  unfold materialize
  split <;> rfl

@[simp] theorem materialize_eventId (P : Platform) (event : Event) :
    (materialize P event).eventId = event.eventId := by
  unfold materialize
  split <;> rfl

@[simp] theorem materialize_schemaVersion (P : Platform) (event : Event) :
    (materialize P event).schemaVersion = event.schemaVersion := by
  unfold materialize
  split <;> rfl

@[simp] theorem materialize_occurredAt (P : Platform) (event : Event) :
    (materialize P event).occurredAt = event.occurredAt := by
  unfold materialize
  split <;> rfl

@[simp] theorem materialize_idempotencyKey (P : Platform) (event : Event) :
    (materialize P event).idempotencyKey = event.idempotencyKey := by
  unfold materialize
  split <;> rfl

@[simp] theorem materialize_provenance (P : Platform) (event : Event) :
    (materialize P event).provenance = event.provenance := by
  unfold materialize
  split <;> rfl

theorem sameEntry_materialize (P : Platform) (event : Event) :
    SameEntry (materialize P event) event := by
  unfold materialize
  split <;> exact ⟨rfl, rfl, rfl, rfl, rfl, rfl, fun _ => rfl, fun _ => rfl, fun _ => rfl⟩

theorem entry_materialize (P : Platform) (event : Event) :
    (materialize P event).entry = event.entry :=
  entry_of_sameEntry (sameEntry_materialize P event)

theorem integrity_materialize (P : Platform) {event : Event} (h : 2 ≤ event.schemaVersion) :
    (materialize P event).integrity = [("algorithm", .str "sha256"),
      ("canonical_payload_hash", .str (canonicalPayloadHash P event.payload))] := by
  rw [materialize, if_pos h]

theorem eventIntegrity_congr {a b : Event} (h : a.canonicalDict = b.canonicalDict) :
    eventIntegrity P a = eventIntegrity P b := by
  rw [eventIntegrity, eventIntegrity, h]

theorem digest_materialize (P : Platform) (event : Event) :
    (materialize P event).integritySha256 = eventIntegrity P (materialize P event) := by
  unfold materialize
  split <;> exact eventIntegrity_congr rfl

/-- The integrity that passes the schema is the one the journal writes. -/
theorem canonicalObject_integrity (hs : SchemaOk P event) (h : 2 ≤ event.schemaVersion)
    (hd : (Dict.keys event.integrity).Nodup) :
    Value.canonicalObject event.integrity =
      Value.canonicalObject (materialize P event).integrity := by
  rw [integrity_materialize P h]
  apply Value.canonicalObject_congr
  apply Value.sortFields_congr hd
  rw [List.perm_ext_iff_of_nodup hd.of_map (by simp)]
  rintro ⟨key, value⟩
  rw [Dict.mem_iff_lookup hd]
  have ha := hs.algorithm h
  have hc := hs.payloadHash h
  constructor
  · intro hl
    have hk := hs.integrityKeys h key (Dict.lookup_isSome_iff.1 (by rw [hl]; rfl))
    rcases hk with rfl | rfl
    · rw [ha] at hl
      cases hl
      simp
    · rw [hc] at hl
      cases hl
      simp
  · intro hm
    simp only [List.mem_cons, Prod.mk.injEq, List.not_mem_nil, or_false] at hm
    rcases hm with ⟨rfl, rfl⟩ | ⟨rfl, rfl⟩
    · exact ha
    · exact hc

theorem canonicalDict_of_sameEntry {a b : Event} (h : SameEntry a b) (hi : a.eventId = b.eventId)
    (hg : 2 ≤ a.schemaVersion → a.provenance = b.provenance ∧
      Value.canonicalObject a.integrity = Value.canonicalObject b.integrity) :
    (Value.dict a.canonicalDict).canonical = (Value.dict b.canonicalDict).canonical := by
  apply canonicalDict_congr h.schemaVersion hi h.eventType h.occurredAt h.actor h.machineId
    h.payload
  intro h2
  exact ⟨h.idempotencyKey h2, hg h2⟩

/-- No value of the payload is a tuple. -/
def Event.NoTuples (event : Event) : Prop :=
  ∀ p ∈ event.payload, ∀ items, p.2 ≠ .tuple items

theorem canonical_of_flat {v : Value} (h : v.Flat) (ht : ∀ items, v ≠ .tuple items) :
    v.canonical = v := by
  cases h with
  | none | bool b | int i | str s => rfl
  | list texts => rw [Value.canonical_list, Value.map_canonical_str]
  | tuple texts => exact absurd rfl (ht _)

theorem canonicalObject_of_noTuples (he : Admitted P event) (ht : event.NoTuples) :
    Value.canonicalObject event.payload = Value.sortFields event.payload := by
  rw [Value.canonicalObject]
  congr 1
  apply (List.map_congr_left _).trans (List.map_id _)
  intro p hp
  obtain ⟨spec, _, hf, _⟩ := inspectEventPayload_known he.payload hp
  exact Prod.ext rfl (canonical_of_flat hf (ht p hp))

theorem canonicalObject_of_sameFields (h : sameFields (Value.canonicalObject a) b = true) :
    Value.canonicalObject a = Value.canonicalObject b := by
  rw [← Value.canonicalObject_canonicalObject a]
  exact Value.canonicalObject_congr (beq_iff_eq.1 h)

theorem sortFields_canonicalObject (fields : List (String × Value)) :
    Value.sortFields (Value.canonicalObject fields) = Value.canonicalObject fields :=
  Value.sortFields_sortFields _

theorem sameFields_of_sameEntry (h : SameEntry first event) (he : Admitted P event)
    (ht : event.NoTuples) :
    sameFields (Value.canonicalObject first.payload) event.payload = true := by
  rw [sameFields, sortFields_canonicalObject, h.payload, canonicalObject_of_noTuples he ht]
  exact beq_self_eq_true _

theorem provenance_of_sameEntry (h : SameEntry first event) (hf : Admitted P first)
    (he : Admitted P event) (h2 : 2 ≤ first.schemaVersion) :
    first.provenance = event.provenance := by
  have hp := h.provenance h2
  rwa [strings_canonical (hf.texts h2),
    strings_canonical (he.texts (h.schemaVersion ▸ h2))] at hp

/-- What duplicate detection compares agrees with counting as one. -/
theorem sameEntry_of_sameBasis (h2 : 2 ≤ first.schemaVersion)
    (h : sameBasis first.stored event = true) : SameEntry first event := by
  rw [stored_of_v2 h2] at h
  simp only [sameBasis, Bool.and_eq_true, beq_iff_eq] at h
  obtain ⟨⟨⟨⟨⟨⟨⟨hv, ht⟩, ho⟩, ha⟩, hm⟩, hp⟩, hk⟩, hr⟩ := h
  exact ⟨hv, ht, ho, ha, hm, canonicalObject_of_sameFields hp, fun h1 => absurd h2 h1,
    fun _ => hk, fun _ => congrArg _ hr⟩

theorem sameBasis_of_sameEntry (h : SameEntry first event) (hf : Admitted P first)
    (he : Admitted P event) (ht : event.NoTuples) (h2 : 2 ≤ first.schemaVersion) :
    sameBasis first.stored event = true := by
  rw [stored_of_v2 h2]
  simp only [sameBasis, h.schemaVersion, h.eventType, h.occurredAt, h.actor, h.machineId,
    sameFields_of_sameEntry h he ht, h.idempotencyKey h2, provenance_of_sameEntry h hf he h2,
    beq_self_eq_true, Bool.and_self]

theorem sameEntry_of_sameCanonicalDict (h : sameCanonicalDict first.stored event = true) :
    SameEntry first event := by
  simp only [sameCanonicalDict, stored_schemaVersion, stored_eventId, stored_eventType,
    stored_occurredAt, stored_actor, stored_machineId, stored_payload, Bool.and_eq_true,
    Bool.or_eq_true, beq_iff_eq, decide_eq_true_eq] at h
  obtain ⟨⟨⟨⟨⟨⟨⟨hv, hi⟩, ht⟩, ho⟩, ha⟩, hm⟩, hp⟩, h2⟩ := h
  refine ⟨hv, ht, ho, ha, hm, canonicalObject_of_sameFields hp, fun _ => hi, ?_, ?_⟩
  · intro hv2
    have := (h2.resolve_left (by omega)).1.1
    rwa [stored_of_v2 hv2] at this
  · intro hv2
    have := (h2.resolve_left (by omega)).1.2
    rw [stored_of_v2 hv2] at this
    exact congrArg _ this

theorem sameCanonicalDict_of_sameEntry (h : SameEntry first event) (he : Admitted P event)
    (ht : event.NoTuples) (h1 : ¬2 ≤ first.schemaVersion) :
    sameCanonicalDict first.stored event = true := by
  have hv : decide (event.schemaVersion < 2) = true := by
    rw [h.schemaVersion] at h1
    exact decide_eq_true (by omega)
  simp only [sameCanonicalDict, stored_schemaVersion, stored_eventId, stored_eventType,
    stored_occurredAt, stored_actor, stored_machineId, stored_payload, h.schemaVersion,
    h.eventId h1, h.eventType, h.occurredAt, h.actor, h.machineId,
    sameFields_of_sameEntry h he ht, hv, beq_self_eq_true, Bool.and_self, Bool.true_or]

theorem placeOf_of_sameEntry (P : Platform) (root : List String) (h : SameEntry a b)
    (hi : a.eventId = b.eventId) : placeOf P root a = placeOf P root b := by
  rw [placeOf, placeOf, eventPartition, eventPartition, h.occurredAt, hi]

/-- A journal below its root, as the list of its events and the files that hold them. -/
structure Represents (P : Platform) (root : List String) (disk : Disk)
    (log : List (List String × Event)) : Prop where
  distinct : (Dict.keys disk.files).Nodup
  file : ∀ path, root <+: path →
    disk.files.lookup path = (log.lookup path).map fun event => (materialize P event).content
  paths : (Dict.keys log).Nodup
  admitted : ∀ p ∈ log, Admitted P (materialize P p.2) ∧ placeOf P root p.2 = some p.1
  json : ∀ p ∈ log, (Value.dict (materialize P p.2).canonicalDict).canonical =
    (Value.dict p.2.canonicalDict).canonical
  keys : ∀ p ∈ log, ∀ q ∈ log, 2 ≤ p.2.schemaVersion → 2 ≤ q.2.schemaVersion →
    p.2.idempotencyKey = q.2.idempotencyKey → p.1 = q.1

theorem Represents.congr (h : Represents P root disk log) (hf : disk'.files = disk.files) :
    Represents P root disk' log :=
  ⟨hf ▸ h.distinct, hf ▸ h.file, h.paths, h.admitted, h.json, h.keys⟩

theorem placeOf_eq_some (h : placeOf P root event = some path) : ∃ partition,
    eventPartition P event = .ok partition ∧
      path = root ++ partition ++ [event.eventId ++ ".json"] := by
  rw [placeOf] at h
  cases hp : eventPartition P event with
  | error e =>
    rw [hp] at h
    cases h
  | ok partition =>
    rw [hp] at h
    cases h
    exact ⟨partition, rfl, rfl⟩

theorem placeOf_isJson (h : placeOf P root event = some path) :
    (root.isPrefixOf path && path != root &&
      (Text.chars ".json").isSuffixOf (Text.chars (path.getLastD ""))) = true := by
  obtain ⟨partition, _, rfl⟩ := placeOf_eq_some h
  simp only [Bool.and_eq_true, List.isPrefixOf_iff_prefix, List.isSuffixOf_iff_suffix,
    bne_iff_ne, ne_eq]
  refine ⟨⟨⟨partition ++ [event.eventId ++ ".json"], by simp⟩, fun he => ?_⟩, ?_⟩
  · have := congrArg List.length he
    simp at this
  · rw [List.getLastD_concat, Text.chars_eq_toList (_ ++ _), String.toList_append,
      ← Text.chars_eq_toList ".json"]
    exact List.suffix_append _ _

section

variable {log : List (List String × Event)} (h : Represents P root disk log)
include h

theorem Represents.lookup_file (hp : (path, event) ∈ log) :
    disk.files.lookup path = some (materialize P event).content := by
  have hplace : placeOf P root event = some path := (h.admitted _ hp).2
  obtain ⟨partition, _, hpath⟩ := placeOf_eq_some hplace
  have hr : root <+: path := by
    rw [hpath, List.append_assoc]
    exact List.prefix_append _ _
  rw [h.file path hr, Dict.lookup_of_mem h.paths hp]
  rfl

theorem Represents.mem_jsonPaths : path ∈ jsonPaths root disk ↔ ∃ event, (path, event) ∈ log := by
  rw [jsonPaths, (List.perm_insertionSort _ _).mem_iff, List.mem_filter, ← Dict.lookup_isSome_iff]
  constructor
  · rintro ⟨hs, hj⟩
    simp only [Bool.and_eq_true, List.isPrefixOf_iff_prefix] at hj
    rw [h.file path hj.1.1, Option.isSome_map, Option.isSome_iff_exists] at hs
    obtain ⟨event, he⟩ := hs
    exact ⟨event, Dict.mem_of_lookup he⟩
  · rintro ⟨event, he⟩
    refine ⟨?_, placeOf_isJson (h.admitted _ he).2⟩
    rw [h.lookup_file he]
    rfl

theorem Represents.eq_of_path (hp : p ∈ log) (hq : q ∈ log) (he : p.1 = q.1) : p = q := by
  have hl := Dict.lookup_of_mem h.paths hp
  rw [he, Dict.lookup_of_mem h.paths hq] at hl
  exact Prod.ext he (Option.some.inj hl).symm

theorem Represents.path_of_entry (hp : p ∈ log) (hq : q ∈ log) (he : p.2.entry = q.2.entry) :
    p.1 = q.1 := by
  have hs := sameEntry_of_entry he
  by_cases h2 : 2 ≤ p.2.schemaVersion
  · exact h.keys p hp q hq h2 (hs.schemaVersion ▸ h2) (hs.idempotencyKey h2)
  · have hpath := placeOf_of_sameEntry P root hs (hs.eventId h2)
    rw [(h.admitted p hp).2, (h.admitted q hq).2] at hpath
    exact Option.some.inj hpath

/-- No two stored events count as one. -/
theorem Represents.entries_nodup : (log.map fun p => p.2.entry).Nodup := by
  rw [List.nodup_map_iff_inj_on h.paths.of_map]
  intro p hp q hq he
  exact h.eq_of_path hp hq (h.path_of_entry hp hq he)

end

theorem admit_ok (h : admitEvent P event = .ok m) : m = materialize P event ∧ SchemaOk P m ∧
    validatePersistedEventPayload P m = .ok () ∧ (2 ≤ event.schemaVersion → SchemaOk P event) := by
  rw [admitEvent] at h
  split at h
  · rename_i h2
    cases hv : validateIncomingV2Event P event with
    | error e =>
      rw [hv] at h
      cases h
    | ok u =>
      rw [hv] at h
      cases h
      rw [validateIncomingV2Event] at hv
      cases hs : validateSchema P event with
      | error e =>
        rw [hs] at hv
        cases hv
      | ok u =>
        rw [hs, ok_bind] at hv
        have hs := validateSchema_ok.1 hs
        refine ⟨rfl, ?_, ?_, fun _ => hs⟩
        · have hi := integrity_materialize P h2
          constructor
          case integrityKeys =>
            intro _ key hkey
            rw [hi] at hkey
            simpa [Dict.keys] using hkey
          case algorithm =>
            intro _
            rw [hi]
            rfl
          case payloadHash =>
            intro _
            rw [hi, materialize_payload]
            rfl
          all_goals
            rw [materialize, if_pos h2]
          · exact hs.version
          · exact hs.eventId
          · exact hs.eventIdShape
          · exact hs.eventType
          · exact hs.actor
          · exact hs.machineId
          · exact hs.occurredAt
          · exact hs.payload
          · exact hs.idempotencyKey
        · rw [materialize, if_pos h2]
          cases hp : validatePersistedEventPayload P event with
          | error e =>
            rw [hp] at hv
            cases hv
          | ok u => exact hp
  · rename_i h2
    cases hs : validateSchema P (materialize P event) with
    | error e =>
      rw [hs] at h
      cases h
    | ok u =>
      cases hp : validatePersistedEventPayload P (materialize P event) with
      | error e =>
        rw [hs, hp] at h
        cases h
      | ok u =>
        rw [hs, hp] at h
        cases h
        exact ⟨rfl, validateSchema_ok.1 hs, hp, fun hv => absurd hv h2⟩

theorem admitted_of_admission (h : admitEvent P event = .ok m) (hd : (Dict.keys event.payload).Nodup)
    (hplain : event.Plain) : Admitted P m := by
  obtain ⟨rfl, hs, hp, _⟩ := admit_ok h
  have hp := validatePersistedEventPayload_ok.1 hp
  constructor
  · exact hs
  · exact hp.1
  · exact hp.2
  · rwa [materialize_payload]
  · intro h2
    rw [materialize_schemaVersion] at h2
    rw [materialize_provenance]
    exact hplain.texts h2
  · intro h2
    rw [materialize_schemaVersion] at h2
    rw [materialize_payload]
    exact integrity_materialize P h2
  · exact digest_materialize P event

theorem noSlash_of_admitted (he : Admitted P (materialize P event)) (hplain : event.Plain) :
    '/' ∉ Text.chars event.eventId := by
  have hs := he.schema
  rcases hs.version with hv | hv
  · rw [materialize_schemaVersion] at hv
    exact hplain.noSlash hv
  · rw [← materialize_eventId P event]
    exact isEventId_noSlash (hs.eventIdShape (by omega))

/-- The canonical JSON of an event does not change when its digests are filled in. -/
theorem canonicalDict_materialize (h : admitEvent P event = .ok m)
    (hd : (Dict.keys event.integrity).Nodup) :
    (Value.dict m.canonicalDict).canonical = (Value.dict event.canonicalDict).canonical := by
  obtain ⟨rfl, _, _, hs⟩ := admit_ok h
  apply canonicalDict_of_sameEntry (sameEntry_materialize P event) (materialize_eventId P event)
  intro h2
  rw [materialize_schemaVersion] at h2
  exact ⟨materialize_provenance P event, (canonicalObject_integrity (hs h2) h2 hd).symm⟩

section

variable {log : List (List String × Event)} (hP : P.HexDigests) (h : Represents P root disk log)
include hP h

theorem Represents.read (hp : (path, event) ∈ log) :
    readEvent P false disk path = .ok (materialize P event).stored :=
  readEvent_stored hP (h.admitted _ hp).1 (h.lookup_file hp)

theorem Represents.findDuplicate_cases {m : Event} (paths : List (List String))
    (hpaths : ∀ path ∈ paths, ∃ event, (path, event) ∈ log) :
    (∃ error, findDuplicate P disk m paths = .error error) ∨
    (∃ p ∈ log, findDuplicate P disk m paths = .ok (some p.1) ∧ 2 ≤ p.2.schemaVersion ∧
      SameEntry (materialize P p.2) m) ∨
    (findDuplicate P disk m paths = .ok none ∧ ∀ p ∈ log, p.1 ∈ paths → 2 ≤ p.2.schemaVersion →
      p.2.idempotencyKey ≠ m.idempotencyKey) := by
  induction paths with
  | nil => exact .inr (.inr ⟨rfl, fun _ _ hp => absurd hp List.not_mem_nil⟩)
  | cons path paths ih =>
    obtain ⟨event, he⟩ := hpaths path List.mem_cons_self
    have ih := ih fun path hp => hpaths path (List.mem_cons_of_mem _ hp)
    rw [findDuplicate, h.read hP he, ok_bind, stored_schemaVersion, materialize_schemaVersion]
    by_cases h2 : 2 ≤ event.schemaVersion
    · have hk : (materialize P event).stored.idempotencyKey = event.idempotencyKey := by
        rw [stored_of_v2 (by rwa [materialize_schemaVersion]), materialize_idempotencyKey]
      rw [hk]
      by_cases hkey : event.idempotencyKey = m.idempotencyKey
      · rw [if_neg (by simp only [hkey, ne_eq, not_true, or_false]; omega)]
        by_cases hb : sameBasis (materialize P event).stored m = true
        · rw [if_pos hb]
          exact .inr (.inl ⟨(path, event), he, rfl, h2,
            sameEntry_of_sameBasis (by rwa [materialize_schemaVersion]) hb⟩)
        · rw [if_neg hb]
          exact .inl ⟨_, rfl⟩
      · rw [if_pos (.inr hkey)]
        rcases ih with ih | ih | ⟨ih, hn⟩
        · exact .inl ih
        · exact .inr (.inl ih)
        · refine .inr (.inr ⟨ih, fun p hp hpath hv => ?_⟩)
          rcases List.mem_cons.1 hpath with hpath | hpath
          · rwa [h.eq_of_path hp he hpath]
          · exact hn p hp hpath hv
    · rw [if_pos (.inl (by omega))]
      rcases ih with ih | ih | ⟨ih, hn⟩
      · exact .inl ih
      · exact .inr (.inl ih)
      · refine .inr (.inr ⟨ih, fun p hp hpath hv => ?_⟩)
        rcases List.mem_cons.1 hpath with hpath | hpath
        · rw [h.eq_of_path hp he hpath] at hv
          exact absurd hv h2
        · exact hn p hp hpath hv

/-- What existing_duplicate finds in a represented journal. -/
theorem Represents.existingDuplicate_cases (m : Event) :
    (∃ error, existingDuplicate P root disk m = .error error) ∨
    (∃ p ∈ log, existingDuplicate P root disk m = .ok (some p.1) ∧ 2 ≤ p.2.schemaVersion ∧
      SameEntry (materialize P p.2) m) ∨
    (existingDuplicate P root disk m = .ok none ∧ (2 ≤ m.schemaVersion → m.idempotencyKey ≠ "" →
      ∀ p ∈ log, 2 ≤ p.2.schemaVersion → p.2.idempotencyKey ≠ m.idempotencyKey)) := by
  rw [existingDuplicate]
  by_cases hm : m.schemaVersion < 2 ∨ m.idempotencyKey = ""
  · rw [if_pos hm]
    refine .inr (.inr ⟨rfl, fun h2 hk => ?_⟩)
    rcases hm with hm | hm
    · omega
    · exact absurd hm hk
  · rw [if_neg hm]
    have hf := h.findDuplicate_cases hP (m := m) (jsonPaths root disk)
      fun path hpath => h.mem_jsonPaths.1 hpath
    rcases hf with hf | hf | ⟨hf, hn⟩
    · exact .inl hf
    · exact .inr (.inl hf)
    · exact .inr (.inr ⟨hf, fun _ _ p hp hv =>
        hn p hp (h.mem_jsonPaths.2 ⟨p.2, hp⟩) hv⟩)

/-- What a call of append_event does to a represented journal: nothing, or its event is added
because none in the journal counts as it. -/
inductive Appends (P : Platform) (root : List String) (disk : Disk)
    (log : List (List String × Event)) (event : Event) :
    Except Raised (List String) × Disk → Prop
  | refused : disk'.files = disk.files → Appends P root disk log event (.error error, disk')
  | held (p : List String × Event) : p ∈ log → p.2.entry = event.entry →
      disk'.files = disk.files → Appends P root disk log event (.ok p.1, disk')
  | added : placeOf P root event = some path → (∀ p ∈ log, p.2.entry ≠ event.entry) →
      disk'.files = Dict.set path (materialize P event).content disk.files →
      Represents P root disk' (log ++ [(path, event)]) →
      Appends P root disk log event (.ok path, disk')

end

theorem Represents.add {log : List (List String × Event)} (h : Represents P root disk log)
    (he : Admitted P (materialize P event))
    (hj : (Value.dict (materialize P event).canonicalDict).canonical =
      (Value.dict event.canonicalDict).canonical)
    (hplace : placeOf P root event = some path) (hnew : disk.files.lookup path = none)
    (hkeys : 2 ≤ event.schemaVersion → ∀ p ∈ log, 2 ≤ p.2.schemaVersion →
      p.2.idempotencyKey ≠ event.idempotencyKey)
    (hf : disk'.files = Dict.set path (materialize P event).content disk.files) :
    Represents P root disk' (log ++ [(path, event)]) := by
  have hr : root <+: path := by
    obtain ⟨partition, _, hpath⟩ := placeOf_eq_some hplace
    rw [hpath, List.append_assoc]
    exact List.prefix_append _ _
  have hl : log.lookup path = none := by
    rw [h.file path hr, Option.map_eq_none_iff] at hnew
    exact hnew
  constructor
  case distinct =>
    rw [hf]
    exact Dict.keys_set_nodup h.distinct
  case file =>
    intro path' hr'
    rw [hf, Dict.lookup_set, List.lookup_append, h.file path' hr']
    by_cases hp : path = path'
    · subst hp
      simp [hl]
    · simp [hp]
  case paths =>
    have hk : Dict.keys (log ++ [(path, event)]) = Dict.keys log ++ [path] := by
      simp [Dict.keys]
    rw [hk, List.nodup_append_comm, List.singleton_append, List.nodup_cons]
    exact ⟨Dict.lookup_eq_none_iff.1 hl, h.paths⟩
  case admitted =>
    intro p hp
    rcases List.mem_append.1 hp with hp | hp
    · exact h.admitted p hp
    · rw [List.mem_singleton.1 hp]
      exact ⟨he, hplace⟩
  case json =>
    intro p hp
    rcases List.mem_append.1 hp with hp | hp
    · exact h.json p hp
    · rw [List.mem_singleton.1 hp]
      exact hj
  case keys =>
    intro p hp q hq hp2 hq2 hk
    rcases List.mem_append.1 hp with hp | hp
    · rcases List.mem_append.1 hq with hq | hq
      · exact h.keys p hp q hq hp2 hq2 hk
      · rw [List.mem_singleton.1 hq] at hq2 hk
        exact absurd hk (hkeys hq2 p hp hp2)
    · rw [List.mem_singleton.1 hp] at hp2 hk ⊢
      rcases List.mem_append.1 hq with hq | hq
      · exact absurd hk.symm (hkeys hp2 q hq hq2)
      · rw [List.mem_singleton.1 hq]

theorem storeEvent_appends {log : List (List String × Event)} (hP : P.HexDigests)
    (h : Represents P root disk log) (he : Admitted P (materialize P event))
    (hj : (Value.dict (materialize P event).canonicalDict).canonical =
      (Value.dict event.canonicalDict).canonical)
    (hplain : event.Plain) (hpart : eventPartition P event = .ok partition)
    (hkeys : 2 ≤ event.schemaVersion → ∀ p ∈ log, 2 ≤ p.2.schemaVersion →
      p.2.idempotencyKey ≠ event.idempotencyKey) (stops : Bool) :
    Appends P root disk log event
      (storeEvent P (root ++ partition) disk (materialize P event) stops) := by
  have hplace : placeOf P root event = some (root ++ partition ++ [event.eventId ++ ".json"]) := by
    rw [placeOf, hpart]
  rw [storeEvent, materialize_eventId, target_flat (noSlash_of_admitted he hplain)]
  generalize root ++ partition ++ [event.eventId ++ ".json"] = path at hplace
  have hr : root <+: path := by
    obtain ⟨partition, _, hpath⟩ := placeOf_eq_some hplace
    rw [hpath, List.append_assoc]
    exact List.prefix_append _ _
  simp only
  cases hnew : disk.files.lookup path with
  | some content =>
    have hex : ∃ first, (path, first) ∈ log := by
      rw [h.file path hr] at hnew
      cases hl : log.lookup path with
      | none =>
        rw [hl] at hnew
        cases hnew
      | some first => exact ⟨first, Dict.mem_of_lookup hl⟩
    obtain ⟨first, hfirst⟩ := hex
    simp only [Option.isSome_some, if_true, h.read hP hfirst]
    split
    · rename_i hsame
      have hs := entry_of_sameEntry (sameEntry_of_sameCanonicalDict hsame)
      rw [entry_materialize, entry_materialize] at hs
      exact .held (path, first) hfirst hs rfl
    · exact .refused rfl
  | none =>
    simp only [Option.isSome_none, Bool.false_eq_true, if_false]
    split
    · exact .refused rfl
    · split
      · exact .refused rfl
      · have hadd : Represents P root
            { disk with files := Dict.set path (materialize P event).content disk.files }
            (log ++ [(path, event)]) := h.add he hj hplace hnew hkeys rfl
        refine .added hplace (fun p hp hentry => ?_) rfl hadd
        have hq : (path, event) ∈ log ++ [(path, event)] := by simp
        have hpath := hadd.path_of_entry (List.mem_append_left _ hp) hq hentry
        have hl := h.lookup_file (show (p.1, p.2) ∈ _ from hp)
        rw [hpath, hnew] at hl
        cases hl

theorem Appends.congr (h : Appends P root disk' log event r) (hf : disk'.files = disk.files) :
    Appends P root disk log event r := by
  cases h with
  | refused hd => exact .refused (hd.trans hf)
  | held p hp he hd => exact .held p hp he (hd.trans hf)
  | added hplace hnew hd hr => exact .added hplace hnew (hf ▸ hd) hr

theorem appendEvent_appends {log : List (List String × Event)} (hP : P.HexDigests)
    (h : Represents P root disk log) (hd : (Dict.keys event.payload).Nodup)
    (hi : (Dict.keys event.integrity).Nodup) (hplain : event.Plain) (stops : Bool) :
    Appends P root disk log event (appendEvent P root disk event stops) := by
  rw [appendEvent]
  cases ha : admitEvent P event with
  | error error => exact .refused rfl
  | ok m =>
    have he := admitted_of_admission ha hd hplain
    have hj := canonicalDict_materialize ha hi
    obtain ⟨rfl, _⟩ := admit_ok ha
    simp only
    rcases h.existingDuplicate_cases hP (materialize P event) with ⟨error, hx⟩ | hx | ⟨hx, hk⟩
    · rw [hx]
      exact .refused rfl
    · obtain ⟨p, hp, hx, _, hs⟩ := hx
      rw [hx]
      have hentry := entry_of_sameEntry hs
      rw [entry_materialize, entry_materialize] at hentry
      exact .held p hp hentry rfl
    · rw [hx]
      have hpart : eventPartition P (materialize P event) = eventPartition P event := by
        rw [eventPartition, eventPartition, materialize_occurredAt]
      rw [hpart]
      cases hp : eventPartition P event with
      | error error => exact .refused rfl
      | ok partition =>
        have hf : (disk.makeDirectories (root ++ partition)).files = disk.files := rfl
        apply Appends.congr (storeEvent_appends hP (h.congr hf) he hj hplain hp _ stops) hf
        intro h2
        have hkey := hk (by rwa [materialize_schemaVersion])
        rw [materialize_idempotencyKey] at hkey
        apply hkey
        intro hempty
        have := he.schema.idempotencyKey (by rwa [materialize_schemaVersion])
        rw [materialize_idempotencyKey, hempty] at this
        exact absurd this (by decide)

/-- The events whose calls returned a path. -/
def acceptedEvents (P : Platform) (root : List String) : Disk → List AppendCall → List Event
  | _, [] => []
  | disk, call :: calls =>
    let result := (journal P root).step disk call
    if result.2.isOk then call.event :: acceptedEvents P root result.1 calls
    else acceptedEvents P root result.1 calls

/-- A run adds events of its own to a represented journal. -/
theorem after_represents {log : List (List String × Event)} (hP : P.HexDigests)
    (h : Represents P root disk log) (hplain : ∀ call ∈ calls, call.event.Plain) :
    ∃ later, Represents P root ((journal P root).after disk calls) (log ++ later) ∧
      (∀ p ∈ later, p.2 ∈ acceptedEvents P root disk calls) ∧
      ∀ event ∈ acceptedEvents P root disk calls, ∃ p ∈ log ++ later, p.2.entry = event.entry := by
  induction calls generalizing disk log with
  | nil =>
    refine ⟨[], by rwa [List.append_nil], fun p hp => absurd hp List.not_mem_nil, ?_⟩
    intro event he
    cases he
  | cons call calls ih =>
    have hcall := appendEvent_appends hP h call.payloadKeys call.integrityKeys
      (hplain call List.mem_cons_self) call.stops
    have hafter : (journal P root).after disk (call :: calls) =
        (journal P root).after (appendEvent P root disk call.event call.stops).2 calls := rfl
    have haccepted : acceptedEvents P root disk (call :: calls) =
        if (appendEvent P root disk call.event call.stops).1.isOk then
          call.event ::
            acceptedEvents P root (appendEvent P root disk call.event call.stops).2 calls
        else acceptedEvents P root (appendEvent P root disk call.event call.stops).2 calls := rfl
    rw [hafter, haccepted]
    generalize hr : appendEvent P root disk call.event call.stops = r at hcall
    have hrest : ∀ call ∈ calls, call.event.Plain := fun c hc =>
      hplain c (List.mem_cons_of_mem _ hc)
    cases hcall with
    | @refused disk' error hd =>
      obtain ⟨later, hl, hmem, hcov⟩ := ih (h.congr hd) hrest
      exact ⟨later, hl, hmem, hcov⟩
    | @held disk' p hp he hd =>
      obtain ⟨later, hl, hmem, hcov⟩ := ih (h.congr hd) hrest
      refine ⟨later, hl, fun q hq => List.mem_cons_of_mem _ (hmem q hq), fun event hev => ?_⟩
      rcases List.mem_cons.1 hev with rfl | hev
      · exact ⟨p, List.mem_append_left _ hp, he⟩
      · exact hcov event hev
    | @added path disk' hplace hnew hd hrep =>
      obtain ⟨later, hl, hmem, hcov⟩ := ih hrep hrest
      refine ⟨(path, call.event) :: later, ?_, fun q hq => ?_, fun event hev => ?_⟩
      · rwa [List.append_assoc] at hl
      · rcases List.mem_cons.1 hq with rfl | hq
        · exact List.mem_cons_self
        · exact List.mem_cons_of_mem _ (hmem q hq)
      · rcases List.mem_cons.1 hev with rfl | hev
        · exact ⟨(path, call.event), by simp, rfl⟩
        · obtain ⟨p, hp, he⟩ := hcov event hev
          exact ⟨p, by simpa using hp, he⟩

end ExternalIntelligence
