import ExternalIntelligence.Journal
import ExternalIntelligence.PersistableFlat

namespace ExternalIntelligence
set_option autoImplicit true

/-- Every digest is 64 lower-case hexadecimal digits. -/
def Platform.HexDigests (P : Platform) : Prop :=
  ∀ text, isDigest (P.sha256 text) = true

theorem hexDigits_length (digits n : Nat) : (hexDigits digits n).length = digits := by
  induction digits generalizing n with
  | zero => rfl
  | succ digits ih => rw [hexDigits, List.length_append, ih, List.length_singleton]

theorem isLowerHex_of_mem_hexDigits (h : c ∈ hexDigits digits n) : isLowerHex c = true := by
  induction digits generalizing n with
  | zero => cases h
  | succ digits ih =>
    rw [hexDigits, List.mem_append, List.mem_singleton] at h
    rcases h with h | rfl
    · exact ih h
    · have hdigit : ∀ k < 16, isLowerHex (Nat.digitChar k) = true := by decide
      exact hdigit _ (Nat.mod_lt _ (by omega))

theorem samplePlatform_hexDigests : samplePlatform.HexDigests := by
  intro text
  have hc : Text.chars (samplePlatform.sha256 text) = hexDigits 64 (text.foldl
      (fun n c => (n * 1114113 + c.toNat + 1) % 16 ^ 64) 0) := by
    rw [Text.chars_eq_toList]
    exact String.toList_ofList
  rw [isDigest, hc, hexDigits_length,
    List.all_eq_true.2 fun _ hmem => isLowerHex_of_mem_hexDigits hmem]
  rfl

theorem isHash_of_isDigest (h : isDigest s = true) : isHash ("sha256:" ++ s) = true := by
  simp only [isDigest, Bool.and_eq_true, beq_iff_eq] at h
  have he : Text.chars ("sha256:" ++ s) = Text.chars "sha256:" ++ Text.chars s := by
    simp only [Text.chars_eq_toList, String.toList_append]
  have hl : (Text.chars "sha256:").length = 7 := by decide
  simp only [isHash, he, List.drop_left' hl, List.take_left' hl, h.1, h.2, beq_self_eq_true,
    Bool.and_self]

@[simp] theorem refuse_ok : refuse bad error = .ok () ↔ bad = false := by
  cases bad <;> simp [refuse]

@[simp] theorem refuse_false : refuse false error = .ok () :=
  rfl

@[simp] theorem ok_bind {f : α → Except Raised β} : (Except.ok a >>= f) = f a :=
  rfl

@[simp] theorem refuse_bind_ok {f : Unit → Except Raised α} :
    (refuse bad error >>= f) = .ok a ↔ bad = false ∧ f () = .ok a := by
  cases bad <;> simp [refuse, bind, Except.bind]

/-- What the schema of an event asks for. -/
structure SchemaOk (P : Platform) (event : Event) : Prop where
  version : event.schemaVersion = 1 ∨ event.schemaVersion = 2
  eventId : event.eventId ≠ ""
  eventIdShape : 2 ≤ event.schemaVersion → isEventId event.eventId = true
  eventType : event.eventType ≠ ""
  actor : event.actor ≠ ""
  machineId : event.machineId ≠ ""
  occurredAt : 2 ≤ event.schemaVersion → awareTimestamp P event.occurredAt = true
  payload : Value.utf8Length (canonicalJson (.dict event.payload)) ≤ maxEventPayloadBytes
  idempotencyKey : 2 ≤ event.schemaVersion → isHash event.idempotencyKey = true
  integrityKeys : 2 ≤ event.schemaVersion → ∀ key ∈ Dict.keys event.integrity,
    key = "algorithm" ∨ key = "canonical_payload_hash"
  algorithm : 2 ≤ event.schemaVersion → event.integrity.lookup "algorithm" = some (.str "sha256")
  payloadHash : 2 ≤ event.schemaVersion → event.integrity.lookup "canonical_payload_hash" =
    some (.str (canonicalPayloadHash P event.payload))

theorem guarded_false {p : Prop} [Decidable p] {b : Bool} :
    (decide p && b) = false ↔ (p → b = false) := by
  by_cases hp : p <;> simp [hp]

theorem any_other_key {keys : List String} {a b : String} :
    (keys.any fun key => key != a && key != b) = false ↔ ∀ key ∈ keys, key = a ∨ key = b := by
  simp only [List.any_eq_false, Bool.and_eq_true, bne_iff_ne, ne_eq, not_and, not_not]
  constructor
  · intro h key hk
    by_cases ha : key = a
    · exact .inl ha
    · exact .inr (h key hk ha)
  · intro h key hk ha
    exact (h key hk).resolve_left ha

theorem validateSchema_ok : validateSchema P event = .ok () ↔ SchemaOk P event := by
  simp only [validateSchema, refuse_bind_ok, refuse_ok, guarded_false, any_other_key,
    decide_eq_false_iff_not, Nat.not_lt, Bool.not_eq_false', beq_eq_false_iff_ne, bne_eq_false_iff_eq]
  constructor
  · rintro ⟨hv, h₁, h₂, h₃, h₄, h₅, h₆, h₇, h₈, h₉, h₁₀, h₁₁⟩
    refine ⟨?_, h₁, h₂, h₃, h₄, h₅, h₆, h₇, h₈, h₉, h₁₀, h₁₁⟩
    by_cases h : event.schemaVersion = 1
    · exact .inl h
    · right
      simpa [h] using hv
  · intro h
    refine ⟨?_, h.eventId, h.eventIdShape, h.eventType, h.actor, h.machineId, h.occurredAt,
      h.payload, h.idempotencyKey, h.integrityKeys, h.algorithm, h.payloadHash⟩
    rcases h.version with hv | hv <;> simp [hv]

theorem validatePersistedEventPayload_ok : validatePersistedEventPayload P event = .ok () ↔
    inspectEventPayload P (.dict event.payload) (eventClassification P event) = [] ∧
      inspectEventPayload P (.list event.provenance) (eventClassification P event) = [] := by
  rw [validatePersistedEventPayload]
  cases inspectEventPayload P (.dict event.payload) (eventClassification P event) with
  | nil =>
    cases inspectEventPayload P (.list event.provenance) (eventClassification P event) with
    | nil => exact ⟨fun _ => ⟨rfl, rfl⟩, fun _ => rfl⟩
    | cons issue issues => simp
  | cons issue issues => simp [bind, Except.bind]

/-- An event as it is written: with its digests, its dicts with distinct keys and, from version 2
on, with a provenance that the reader accepts. -/
structure Admitted (P : Platform) (event : Event) : Prop where
  schema : SchemaOk P event
  payload : inspectEventPayload P (.dict event.payload) (eventClassification P event) = []
  provenance : inspectEventPayload P (.list event.provenance) (eventClassification P event) = []
  payloadKeys : (Dict.keys event.payload).Nodup
  texts : 2 ≤ event.schemaVersion → ∀ v ∈ event.provenance, ∃ s, s ≠ "" ∧ v = .str s
  integrity : 2 ≤ event.schemaVersion → event.integrity = [("algorithm", .str "sha256"),
    ("canonical_payload_hash", .str (canonicalPayloadHash P event.payload))]
  digest : event.integritySha256 = eventIntegrity P event

/-- What a reader makes of a stored event. -/
def Event.stored (event : Event) : Event :=
  if 2 ≤ event.schemaVersion then
    { event with payload := Value.canonicalObject event.payload }
  else
    { event with
      payload := Value.canonicalObject event.payload
      idempotencyKey := ""
      provenance := []
      integrity := [] }

@[simp] theorem stored_schemaVersion (event : Event) :
    event.stored.schemaVersion = event.schemaVersion := by
  unfold Event.stored
  split <;> rfl

@[simp] theorem stored_eventId (event : Event) : event.stored.eventId = event.eventId := by
  unfold Event.stored
  split <;> rfl

@[simp] theorem stored_eventType (event : Event) : event.stored.eventType = event.eventType := by
  unfold Event.stored
  split <;> rfl

@[simp] theorem stored_occurredAt (event : Event) :
    event.stored.occurredAt = event.occurredAt := by
  unfold Event.stored
  split <;> rfl

@[simp] theorem stored_actor (event : Event) : event.stored.actor = event.actor := by
  unfold Event.stored
  split <;> rfl

@[simp] theorem stored_machineId (event : Event) : event.stored.machineId = event.machineId := by
  unfold Event.stored
  split <;> rfl

@[simp] theorem stored_payload (event : Event) :
    event.stored.payload = Value.canonicalObject event.payload := by
  unfold Event.stored
  split <;> rfl

@[simp] theorem stored_integritySha256 (event : Event) :
    event.stored.integritySha256 = event.integritySha256 := by
  unfold Event.stored
  split <;> rfl

theorem stored_of_v2 {event : Event} (h : 2 ≤ event.schemaVersion) :
    event.stored = { event with payload := Value.canonicalObject event.payload } :=
  if_pos h

theorem canonicalDict_v1 {event : Event} (h : event.schemaVersion = 1) :
    event.canonicalDict = [("schema_version", .int 1), ("event_id", .str event.eventId),
      ("event_type", .str event.eventType), ("occurred_at", .str event.occurredAt),
      ("actor", .str event.actor), ("machine_id", .str event.machineId),
      ("payload", .dict event.payload)] := by
  simp [Event.canonicalDict, h]

theorem canonicalDict_congr {a b : Event} (hv : a.schemaVersion = b.schemaVersion)
    (hi : a.eventId = b.eventId) (ht : a.eventType = b.eventType)
    (ho : a.occurredAt = b.occurredAt) (ha : a.actor = b.actor) (hm : a.machineId = b.machineId)
    (hp : Value.canonicalObject a.payload = Value.canonicalObject b.payload)
    (h2 : 2 ≤ a.schemaVersion → a.idempotencyKey = b.idempotencyKey ∧
      a.provenance = b.provenance ∧
      Value.canonicalObject a.integrity = Value.canonicalObject b.integrity) :
    (Value.dict a.canonicalDict).canonical = (Value.dict b.canonicalDict).canonical := by
  rw [Value.canonical_dict, Value.canonical_dict]
  apply congrArg (fun fields => Value.dict (Value.sortFields fields))
  by_cases h : 2 ≤ a.schemaVersion
  · obtain ⟨hk, hr, hg⟩ := h2 h
    simp only [Event.canonicalDict, if_pos (hv ▸ h), List.map_append, List.map_cons,
      List.map_nil, Value.canonical_dict, hp, hg, hv, hi, ht, ho, ha, hm, hk, hr]
  · simp only [Event.canonicalDict, if_neg (hv ▸ h), List.append_nil, List.map_cons,
      List.map_nil, Value.canonical_dict, hp, hv, hi, ht, ho, ha, hm]

/-- An event and what is read back have the same canonical JSON. -/
theorem canonicalDict_stored (event : Event) :
    (Value.dict event.stored.canonicalDict).canonical =
      (Value.dict event.canonicalDict).canonical := by
  apply canonicalDict_congr
  · exact stored_schemaVersion event
  · exact stored_eventId event
  · exact stored_eventType event
  · exact stored_occurredAt event
  · exact stored_actor event
  · exact stored_machineId event
  · rw [stored_payload, Value.canonicalObject_canonicalObject]
  · intro h
    rw [stored_schemaVersion] at h
    rw [stored_of_v2 h]
    exact ⟨rfl, rfl, rfl⟩

theorem eventIntegrity_stored (P : Platform) (event : Event) :
    eventIntegrity P event.stored = eventIntegrity P event := by
  rw [eventIntegrity, eventIntegrity, canonicalJson, canonicalJson, canonicalDict_stored]

theorem canonicalPayloadHash_stored (P : Platform) (event : Event) :
    canonicalPayloadHash P event.stored.payload = canonicalPayloadHash P event.payload := by
  rw [stored_payload, canonicalPayloadHash, canonicalPayloadHash, canonicalJson, canonicalJson,
    ← Value.canonical_dict, Value.canonical_canonical]

theorem toDict_keys (event : Event) : Dict.keys event.toDict =
    ["schema_version", "event_id", "event_type", "occurred_at", "actor", "machine_id", "payload"] ++
      (if 2 ≤ event.schemaVersion then ["idempotency_key", "provenance", "integrity"] else []) ++
      ["integrity_sha256"] := by
  rw [Event.toDict, Event.canonicalDict]
  split <;> rfl

theorem toDict_keys_nodup (event : Event) : (Dict.keys event.toDict).Nodup := by
  rw [toDict_keys]
  split <;> decide

/-- The fields of a stored event as its file gives them. -/
structure MappingOf (event : Event) (raw : List (String × Value)) : Prop where
  schemaVersion : raw.lookup "schema_version" = some (.int event.schemaVersion)
  eventId : raw.lookup "event_id" = some (.str event.eventId)
  eventType : raw.lookup "event_type" = some (.str event.eventType)
  occurredAt : raw.lookup "occurred_at" = some (.str event.occurredAt)
  actor : raw.lookup "actor" = some (.str event.actor)
  machineId : raw.lookup "machine_id" = some (.str event.machineId)
  payload : raw.lookup "payload" = some (.dict (Value.canonicalObject event.payload))
  integritySha256 : raw.lookup "integrity_sha256" = some (.str event.integritySha256)
  idempotencyKey : raw.lookup "idempotency_key" =
    if 2 ≤ event.schemaVersion then some (.str event.idempotencyKey) else none
  provenance : raw.lookup "provenance" =
    if 2 ≤ event.schemaVersion then some (.list (event.provenance.map Value.canonical)) else none
  integrity : raw.lookup "integrity" =
    if 2 ≤ event.schemaVersion then some (.dict (Value.canonicalObject event.integrity)) else none
  keys : (Dict.keys raw).Perm (Dict.keys event.toDict)

theorem mappingOf_content (event : Event) :
    MappingOf event (Value.canonicalObject event.toDict) := by
  have hl (name : String) := Value.lookup_canonicalObject (toDict_keys_nodup event) name
  constructor
  case keys => exact Value.keys_canonicalObject _
  all_goals
    rw [hl, Event.toDict, Event.canonicalDict]
    by_cases h : 2 ≤ event.schemaVersion <;>
      simp [h, Value.canonical_dict, Value.canonical_list]

theorem strings_canonical {items : List Value} (h : ∀ v ∈ items, ∃ s, s ≠ "" ∧ v = Value.str s) :
    items.map Value.canonical = items := by
  apply (List.map_congr_left _).trans (List.map_id items)
  intro v hv
  obtain ⟨s, _, rfl⟩ := h v hv
  rfl

theorem integrity_canonical (hash : String) :
    Value.canonicalObject [("algorithm", .str "sha256"), ("canonical_payload_hash", .str hash)] =
      [("algorithm", .str "sha256"), ("canonical_payload_hash", .str hash)] := by
  rw [Value.canonicalObject, Value.sortFields]
  apply List.Pairwise.insertionSort_eq
  simp only [List.map_cons, List.map_nil, List.pairwise_cons, List.mem_singleton, forall_eq]
  exact ⟨by decide, by simp, .nil⟩

theorem fromDict_mapping (he : Admitted P event) (hm : MappingOf event raw) :
    Event.fromDict raw = .ok event.stored := by
  by_cases h : 2 ≤ event.schemaVersion
  · have hp : event.provenance.all Value.isStr = true := by
      rw [List.all_eq_true]
      intro v hv
      obtain ⟨s, _, rfl⟩ := he.texts h v hv
      rfl
    have hg := he.integrity h
    have hi := integrity_canonical (canonicalPayloadHash P event.payload)
    rw [← hg] at hi
    simp [Event.fromDict, eventTextFields, fieldOf, hm.schemaVersion, hm.eventId, hm.eventType,
      hm.occurredAt, hm.actor, hm.machineId, hm.payload, hm.integritySha256, hm.idempotencyKey,
      hm.provenance, hm.integrity, h, Value.isStr, Value.strOr, Value.items?, strings_canonical
      (he.texts h), hp, hi, stored_of_v2 h]
  · simp [Event.fromDict, eventTextFields, fieldOf, hm.schemaVersion, hm.eventId, hm.eventType,
      hm.occurredAt, hm.actor, hm.machineId, hm.payload, hm.integritySha256, hm.idempotencyKey,
      hm.provenance, hm.integrity, h, Value.isStr, Value.strOr, Value.items?, Event.stored]

theorem rejectExtra_ok {fields : List (String × Value)}
    (h : ∀ key ∈ Dict.keys fields, key ∈ allowed) : rejectExtra name fields allowed = .ok () := by
  have hf : (Dict.keys fields).filter (fun key => !allowed.contains key) = [] := by
    rw [List.filter_eq_nil_iff]
    intro key hk
    simp [h key hk]
  rw [rejectExtra, hf]
  rfl

theorem forbiddenContentItems_strs (texts : List String) :
    forbiddenContentItems (texts.map .str) = none := by
  induction texts with
  | nil => rfl
  | cons text texts ih =>
    rw [List.map_cons, forbiddenContentItems, ih]
    rfl

theorem forbiddenContent_flat {v : Value} (h : v.Flat) : forbiddenContent v = none := by
  cases h with
  | none | bool b | int i | str s => rfl
  | list texts | tuple texts => exact forbiddenContentItems_strs texts

theorem forbiddenContentFields_none {fields : List (String × Value)}
    (h : ∀ p ∈ fields, p.1 ∉ forbiddenTransientKeys ∧ p.2.Flat) :
    forbiddenContentFields fields = none := by
  induction fields with
  | nil => rfl
  | cons p fields ih =>
    obtain ⟨hk, hv⟩ := h p List.mem_cons_self
    rw [forbiddenContentFields, if_neg (by simpa using hk), forbiddenContent_flat hv,
      ih fun q hq => h q (List.mem_cons_of_mem _ hq)]
    rfl

theorem forbiddenTransientKeys_unknown :
    ∀ key ∈ forbiddenTransientKeys, eventPayloadFields.lookup key = none := by
  decide

theorem canonical_flat {v : Value} (h : v.Flat) : v.canonical.Flat := by
  cases h with
  | none => exact .none
  | bool b => exact .bool b
  | int i => exact .int i
  | str s => exact .str s
  | list texts =>
    rw [Value.canonical_list, Value.map_canonical_str]
    exact .list texts
  | tuple texts =>
    rw [Value.canonical_tuple, Value.map_canonical_str]
    exact .list texts

theorem inspectEventPayload_nil (c : String) : inspectEventPayload P (.list []) c = [] := by
  rw [inspectEventPayload, inspectPersistable_eq_nil]
  exact ⟨by decide, rfl, rfl⟩

section

variable {event : Event} (he : Admitted P event)
include he

theorem forbiddenContentFields_stored :
    forbiddenContentFields (Value.canonicalObject event.payload) = none := by
  apply forbiddenContentFields_none
  intro p hp
  obtain ⟨q, hq, rfl⟩ := Value.mem_canonicalObject.1 hp
  obtain ⟨spec, hs, hf, _⟩ := inspectEventPayload_known he.payload hq
  refine ⟨fun hk => ?_, canonical_flat hf⟩
  have hn := forbiddenTransientKeys_unknown _ hk
  rw [hs] at hn
  cases hn

theorem payload_text (hs : eventPayloadFields.lookup name = some ⟨.string, limit⟩)
    (h : event.payload.lookup name = some v) : ∃ s, v = .str s := by
  obtain ⟨spec, hs', _, hv⟩ := inspectEventPayload_known he.payload (Dict.mem_of_lookup h)
  rw [hs] at hs'
  cases hs'
  exact hv rfl

theorem lookup_stored_text (hs : eventPayloadFields.lookup name = some ⟨.string, limit⟩) :
    event.stored.payload.lookup name = event.payload.lookup name := by
  rw [stored_payload, Value.lookup_canonicalObject he.payloadKeys]
  cases h : event.payload.lookup name with
  | none => rfl
  | some v =>
    obtain ⟨s, rfl⟩ := payload_text he hs h
    rfl

theorem eventClassification_stored :
    eventClassification P event.stored = eventClassification P event := by
  rw [eventClassification, eventClassification, lookup_stored_text he
    (show eventPayloadFields.lookup "classification" = some ⟨.string, some 32⟩ by decide)]

theorem schemaOk_stored : SchemaOk P event.stored := by
  have h := he.schema
  have hp : Value.utf8Length (canonicalJson (.dict event.stored.payload)) ≤
      maxEventPayloadBytes := by
    rw [stored_payload, canonicalJson, ← Value.canonical_dict, Value.canonical_canonical]
    exact h.payload
  by_cases h2 : 2 ≤ event.schemaVersion
  · constructor
    case payload => exact hp
    case payloadHash =>
      intro _
      rw [canonicalPayloadHash_stored, stored_of_v2 h2]
      exact h.payloadHash h2
    all_goals
      rw [stored_of_v2 h2]
    · exact h.version
    · exact h.eventId
    · exact h.eventIdShape
    · exact h.eventType
    · exact h.actor
    · exact h.machineId
    · exact h.occurredAt
    · exact h.idempotencyKey
    · exact h.integrityKeys
    · exact h.algorithm
  · have hn : ¬2 ≤ event.stored.schemaVersion := by
      rwa [stored_schemaVersion]
    constructor
    case payload => exact hp
    case version => simpa using h.version
    case eventId => simpa using h.eventId
    case eventType => simpa using h.eventType
    case actor => simpa using h.actor
    case machineId => simpa using h.machineId
    all_goals exact fun hv => absurd hv hn

theorem validatePersistedEventPayload_stored :
    validatePersistedEventPayload P event.stored = .ok () := by
  rw [validatePersistedEventPayload_ok, eventClassification_stored he, stored_payload]
  refine ⟨inspectEventPayload_canonicalObject he.payloadKeys he.payload, ?_⟩
  by_cases h : 2 ≤ event.schemaVersion
  · rw [stored_of_v2 h]
    exact he.provenance
  · rw [Event.stored, if_neg h]
    exact inspectEventPayload_nil _

theorem validateStoredIntegrity_stored : validateStoredIntegrity P event.stored = .ok () := by
  simp only [validateStoredIntegrity, refuse_bind_ok, refuse_ok, guarded_false,
    eventIntegrity_stored, stored_integritySha256, bne_eq_false_iff_eq]
  exact ⟨he.digest, (schemaOk_stored he).payloadHash⟩

end

theorem forM_ok {f : α → Except Raised Unit} {items : List α} (h : ∀ a ∈ items, f a = .ok ()) :
    items.forM f = .ok () := by
  induction items with
  | nil => rfl
  | cons a items ih =>
    have hc : (a :: items).forM f = (f a >>= fun _ => items.forM f) := rfl
    rw [hc, h a List.mem_cons_self]
    exact ih fun b hb => h b (List.mem_cons_of_mem _ hb)

theorem validateV2Fields_mapping (hP : P.HexDigests) (he : Admitted P event)
    (hm : MappingOf event raw) (h2 : 2 ≤ event.schemaVersion) :
    validateV2Fields raw = .ok () := by
  have hg := integrity_canonical (canonicalPayloadHash P event.payload)
  rw [← he.integrity h2] at hg
  have hh : isHash (canonicalPayloadHash P event.payload) = true := isHash_of_isDigest (hP _)
  have hp : forM event.provenance (requireString "event" "provenance") = .ok () := by
    apply forM_ok
    intro v hv
    obtain ⟨s, hs, rfl⟩ := he.texts h2 v hv
    simp [requireString, Value.isStr, Value.strOr, hs]
  have hk := he.schema.idempotencyKey h2
  have ha := he.schema.algorithm h2
  have hc := he.schema.payloadHash h2
  have hx : rejectExtra "event.integrity" event.integrity ["algorithm", "canonical_payload_hash"] =
      .ok () := by
    apply rejectExtra_ok
    intro key hkey
    simpa using he.schema.integrityKeys h2 key hkey
  simp [validateV2Fields, requireHash, fieldOf, hm.idempotencyKey, hm.provenance, hm.integrity, h2,
    Value.isStr, Value.strOr, Value.items?, strings_canonical (he.texts h2), hg, hk, hp, hx, ha, hc, hh]

theorem validateEventMapping_mapping (hP : P.HexDigests) (he : Admitted P event)
    (hm : MappingOf event raw) : validateEventMapping P raw = .ok () := by
  have hd : isDigest event.integritySha256 = true := by
    rw [he.digest]
    exact hP _
  have hi := beq_eq_false_iff_ne.2 he.schema.eventId
  have ht := beq_eq_false_iff_ne.2 he.schema.eventType
  have ha := beq_eq_false_iff_ne.2 he.schema.actor
  have hn := beq_eq_false_iff_ne.2 he.schema.machineId
  have hf := forbiddenContentFields_stored he
  have hr := fromDict_mapping he hm
  have hs := validateSchema_ok.2 (schemaOk_stored he)
  have hp := validatePersistedEventPayload_stored he
  have hk := hm.keys
  rw [toDict_keys] at hk
  rcases he.schema.version with hv | hv
  · have h2 : ¬2 ≤ event.schemaVersion := by omega
    have hx : rejectExtra "event" raw ["event_id", "event_type", "occurred_at", "actor",
        "machine_id", "payload", "integrity_sha256", "schema_version"] = .ok () := by
      apply rejectExtra_ok
      intro key hkey
      rw [hk.mem_iff, if_neg h2] at hkey
      revert hkey key
      decide
    have hb : (Value.int 1 == Value.int 2) = false := rfl
    simp [validateEventMapping, requireString, fieldOf, hm.schemaVersion, hm.eventId, hm.eventType,
      hm.occurredAt, hm.actor, hm.machineId, hm.payload, hm.integritySha256, hv, Value.isStr,
      Value.strOr, hi, ht, ha, hn, hr, hs, hp, hd, hx, hb]
  · have h2 : 2 ≤ event.schemaVersion := by omega
    have hx : rejectExtra "event" raw ["event_id", "event_type", "occurred_at", "actor",
        "machine_id", "payload", "integrity_sha256", "schema_version", "idempotency_key",
        "provenance", "integrity"] = .ok () := by
      apply rejectExtra_ok
      intro key hkey
      rw [hk.mem_iff, if_pos h2] at hkey
      revert hkey key
      decide
    have ho := he.schema.occurredAt h2
    have h5 := validateV2Fields_mapping hP he hm h2
    simp [validateEventMapping, requireString, fieldOf, hm.schemaVersion, hm.eventId, hm.eventType,
      hm.occurredAt, hm.actor, hm.machineId, hm.payload, hm.integritySha256, hm.idempotencyKey,
      hm.provenance, hm.integrity, hv, Value.isStr, Value.strOr, hi, ht, ha, hn, hr, hs, hp, hd,
      hx, ho, h5, hf]

/-- A file that holds an admitted event is read back as what the reader makes of it. -/
theorem readMapping_stored (hP : P.HexDigests) (he : Admitted P event) :
    readMapping P path (Value.canonicalObject event.toDict) = .ok event.stored := by
  have hm := mappingOf_content event
  simp only [readMapping, validateEventMapping_mapping hP he hm, fromDict_mapping he hm,
    Except.mapError, ok_bind, validateStoredIntegrity_stored he]
  rfl

theorem content_eq (event : Event) :
    event.content = .dict (Value.canonicalObject event.toDict) :=
  Value.canonical_dict event.toDict

theorem readEvent_stored (hP : P.HexDigests) (he : Admitted P event)
    (hf : disk.files.lookup path = some event.content) :
    readEvent P false disk path = .ok event.stored := by
  rw [readEvent, hf, content_eq]
  exact readMapping_stored hP he

theorem readEvent_bounded (hP : P.HexDigests) (he : Admitted P event)
    (hf : disk.files.lookup path = some event.content)
    (hs : Value.utf8Length event.content.fileText ≤ boundedEventBytes) :
    readEvent P true disk path = .ok event.stored := by
  have hb : decide (boundedEventBytes < Value.utf8Length event.content.fileText) = false :=
    decide_eq_false (by omega)
  simp only [readEvent, hf, hb, Bool.and_false, Bool.false_eq_true, if_false]
  rw [content_eq]
  exact readMapping_stored hP he

end ExternalIntelligence
