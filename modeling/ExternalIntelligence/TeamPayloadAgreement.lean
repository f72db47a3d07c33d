import ExternalIntelligence.ExactlyOnce
import ExternalIntelligence.PlainTexts
import ExternalIntelligence.TeamPayload

namespace ExternalIntelligence
set_option autoImplicit true

/-- What a team store asks of the runtime's clock. -/
structure TeamPlatform.Clock (T : TeamPlatform) (now : Int) : Prop where
  stamp : (preparedMoment T.toPlatform (T.isoformat now)).isSome = true
  compact : ∀ moment, T.fromisoformat (T.isoformat now) = some moment →
    let text := Text.chars (T.strftime "%Y%m%dT%H%M%S%fZ" moment.instant)
    text ≠ [] ∧ text.length ≤ 100 ∧
      text.all (fun c => isAsciiLetter c || Text.isDigit c) = true

/-- The names of the fields that a team event adds to a payload. -/
def addedFields : List String :=
  ["knowledge_scope", "origin_event_hash", "idempotency_key"]

theorem forbiddenPathReason_added (hP : P.PlainTexts) (h : key ∈ addedFields) :
    forbiddenPathReason P (pointerTo [] (Text.chars key)) = none := by
  simp only [addedFields, List.mem_cons, List.not_mem_nil, or_false] at h
  rcases h with rfl | rfl | rfl
  all_goals exact forbiddenPathReason_plain hP (by decide) rfl (by decide) (by decide)

theorem casefold_added {P : Platform} (hP : P.PlainTexts) (h : key ∈ addedFields) :
    P.casefold (Text.chars key) = Text.chars key := by
  simp only [addedFields, List.mem_cons, List.not_mem_nil, or_false] at h
  rcases h with rfl | rfl | rfl
  all_goals exact hP.casefold _ (by decide)

/-- Nothing is wrong with a plain text in an added field. -/
theorem fieldIssues_added (hP : P.PlainTexts) (hkey : key ∈ addedFields)
    (hspec : eventPayloadFields.lookup key = some spec) (hkind : kindRefusal spec.kind value = none)
    (hlimit : spec.limit = some most) (hlength : (Text.chars value).length ≤ most)
    (hmost : most ≤ maxInspectChars) (hprintable : (Text.chars value).all isPrintable = true)
    (hslash : (Text.chars value).all (fun c => c != '/' && c != '\\') = true)
    (hhash : spec.kind = .optionalHash → isHash value = true)
    (hkinds : spec.kind ≠ .hash) (hsecret : P.secretMatch (Text.chars value) = none)
    (hclass : ["public", "private-reusable"].contains classification = true) :
    fieldIssues P classification (some eventPayloadFields) [] key (.str value) = [] := by
  have hnames : (texts forbiddenKeys).contains (Text.chars key) = false ∧
      (texts pathFieldNames).contains (Text.chars key) = false ∧
      (Text.contains (Text.chars "email") (Text.chars key) ||
        (texts personalFieldNames).contains (Text.chars key)) = false := by
    simp only [addedFields, List.mem_cons, List.not_mem_nil, or_false] at hkey
    rcases hkey with rfl | rfl | rfl
    all_goals decide
  have hallowed := hP.inspectPersistedText hprintable (hlength.trans hmost) hsecret
    (forbiddenPathReason_added hP hkey) hclass
  have htext : isHashText (Text.chars value) = isHash value := by
    rw [isHashText, Text.chars_eq_toList, String.ofList_toList]
  unfold fieldIssues
  dsimp only
  rw [casefold_added hP hkey, hnames.1, hspec, if_neg Bool.false_ne_true, List.nil_append]
  dsimp only
  rw [walk, walkString]
  rw [Option.getD_some, hkind]
  unfold validateString
  dsimp only
  rw [hP.nfkc _ hprintable, hlimit, Option.map_some, Option.getD_some,
    if_neg (by simpa using hlength), hP.hasControl hprintable, if_neg Bool.false_ne_true,
    hnames.2.1, Bool.false_and, if_neg Bool.false_ne_true, containsAbsolutePath_plain hslash,
    if_neg Bool.false_ne_true, hallowed, hnames.2.2, htext]
  simp only [Bool.not_true, Bool.false_and, Bool.false_eq_true, if_false]
  rw [if_neg]
  rw [Bool.and_eq_true, Bool.not_eq_true', Bool.and_eq_true, Bool.or_eq_true, beq_iff_eq,
    beq_iff_eq]
  rintro ⟨⟨hkind' | hkind', _⟩, hnot⟩
  · exact hkinds hkind'
  · rw [hhash hkind'] at hnot
    cases hnot

def normalizedLength (P : Platform) (text : String) : Nat :=
  (P.nfkc (Text.chars text)).length

/-- A limit is one more check of a text, and the first. -/
theorem validateString_limit {requireHash : Bool}
    (h : validateString P text pointer fieldName none classification requireHash = []) :
    validateString P text pointer fieldName (some most) classification requireHash = [] ↔
      normalizedLength P text ≤ most := by
  unfold validateString at h ⊢
  dsimp only at h ⊢
  rw [Option.map_none, Option.getD_none, if_neg Bool.false_ne_true] at h
  rw [Option.map_some, Option.getD_some, normalizedLength]
  by_cases hlong : most < (P.nfkc (Text.chars text)).length
  · rw [decide_eq_true hlong, if_pos rfl]
    constructor
    · intro hissues
      cases hissues
    · intro hshort
      exact absurd hlong (Nat.not_lt.2 hshort)
  · rw [decide_eq_false hlong, if_neg Bool.false_ne_true]
    constructor
    · intro _
      exact Nat.not_lt.1 hlong
    · intro _
      exact h

theorem walk_limit (h : walk P classification none pointer fieldName none (.str text) = []) :
    walk P classification none pointer fieldName (some ⟨.string, some most⟩) (.str text) = [] ↔
      normalizedLength P text ≤ most := by
  rw [walk, walkString] at h ⊢
  exact validateString_limit h

theorem walkItems_limit {items : List String} :
    ∀ {index : Nat}, walkItems P classification pointer fieldName none index (items.map .str) = [] →
    (walkItems P classification pointer fieldName (some ⟨.string, some most⟩) index
      (items.map .str) = [] ↔ ∀ text ∈ items, normalizedLength P text ≤ most) := by
  induction items with
  | nil =>
    intro index _
    simp [walkItems]
  | cons text items ih =>
    intro index h
    rw [List.map_cons, walkItems, List.append_eq_nil_iff] at h ⊢
    obtain ⟨hfirst, hrest⟩ := h
    rw [walk_limit hfirst, ih hrest, List.forall_mem_cons]

theorem fieldIssues_limit (hspec : specs.lookup key = some ⟨.string, some most⟩)
    (h : fieldIssues P classification none pointer key (.str text) = []) :
    fieldIssues P classification (some specs) pointer key (.str text) = [] ↔
      normalizedLength P text ≤ most := by
  unfold fieldIssues at h ⊢
  dsimp only at h ⊢
  rw [List.append_eq_nil_iff] at h
  obtain ⟨hkey, h⟩ := h
  rw [hkey, List.nil_append, hspec]
  exact walk_limit h

theorem fieldIssues_limits {items : List String}
    (hspec : specs.lookup key = some ⟨.stringList, some most⟩)
    (h : fieldIssues P classification none pointer key (.list (items.map .str)) = []) :
    fieldIssues P classification (some specs) pointer key (.list (items.map .str)) = [] ↔
      ∀ text ∈ items, normalizedLength P text ≤ most := by
  unfold fieldIssues at h ⊢
  dsimp only at h ⊢
  rw [List.append_eq_nil_iff] at h
  obtain ⟨hkey, h⟩ := h
  rw [hkey, List.nil_append, hspec]
  dsimp only
  have hfree : walk P classification none (pointerTo pointer (Text.chars key))
      (P.casefold (Text.chars key)) none (.list (items.map .str)) =
        walkItems P classification (pointerTo pointer (Text.chars key))
          (P.casefold (Text.chars key)) none 0 (items.map .str) := by
    rw [walk.eq_def]
  rw [walk.eq_def]
  dsimp only [itemSpec]
  rw [if_neg (by decide), List.nil_append]
  rw [hfree] at h
  exact walkItems_limit h

/-- An event whose mapping is valid has a payload that passes both checks of a payload. -/
theorem validateTeamEventMapping_payload (h : validateTeamEventMapping T value = .ok event) :
    ∃ payload, fieldOf value "payload" = .dict payload ∧ validateTeamPayload payload = .ok () ∧
      inspectEventPayload T.toPlatform (.dict payload)
        ((fieldOf payload "classification").strOr "") = [] := by
  unfold validateTeamEventMapping at h
  obtain ⟨_, h⟩ := refuse_bind_ok.1 h
  obtain ⟨_, h⟩ := refuse_bind_ok.1 h
  obtain ⟨_, h⟩ := refuse_bind_ok.1 h
  obtain ⟨_, h⟩ := refuse_bind_ok.1 h
  obtain ⟨_, _, h⟩ := Except.bind_eq_ok.1 h
  obtain ⟨_, h⟩ := refuse_bind_ok.1 h
  obtain ⟨_, h⟩ := refuse_bind_ok.1 h
  obtain ⟨_, _, h⟩ := Except.bind_eq_ok.1 h
  obtain ⟨_, h⟩ := refuse_bind_ok.1 h
  obtain ⟨_, _, h⟩ := Except.bind_eq_ok.1 h
  obtain ⟨_, h⟩ := refuse_bind_ok.1 h
  obtain ⟨_, h⟩ := refuse_bind_ok.1 h
  obtain ⟨payload, hpayload, h⟩ := Except.bind_eq_ok.1 h
  obtain ⟨_, hvalid, h⟩ := Except.bind_eq_ok.1 h
  obtain ⟨_, h⟩ := refuse_bind_ok.1 h
  obtain ⟨hinspected, _⟩ := refuse_bind_ok.1 h
  rw [Bool.not_eq_false', List.isEmpty_iff] at hinspected
  refine ⟨payload, ?_, hvalid, hinspected⟩
  unfold dictOr at hpayload
  split at hpayload
  · rename_i fields hfields
    cases hpayload
    exact hfields
  · cases hpayload

/-- What a sealed event has of its own accord. -/
structure SealedTeamEvent (T : TeamPlatform) (event : Event) : Prop where
  version : event.schemaVersion = 2
  eventId : isTeamEventId event.eventId = true
  eventType : event.eventType = "team.knowledge.recorded"
  occurredAt : event.occurredAt ≠ ""
  moment : ∃ moment, T.fromisoformat event.occurredAt = some moment ∧ moment.aware = true
  actor : event.actor ≠ ""
  machineId : event.machineId ≠ ""
  digest : event.integritySha256 = eventIntegrity T.toPlatform event
  key : isHash event.idempotencyKey = true
  provenance : event.provenance = []
  integrity : event.integrity = [("algorithm", .str "sha256"),
    ("canonical_payload_hash", .str (canonicalPayloadHash T.toPlatform event.payload))]

theorem ne_empty_of_isHash {digest : String} (h : isHash digest = true) : digest ≠ "" := by
  rintro rfl
  cases h

theorem fromDict_sealed (h : SealedTeamEvent T event) : Event.fromDict event.toDict = .ok event := by
  obtain ⟨id, type, occurred, actor, machine, payload, version, digest, key, provenance,
    integrity⟩ := event
  have hversion := h.version
  have hprovenance := h.provenance
  dsimp only at hversion hprovenance
  cases hversion
  cases hprovenance
  simp only [Event.fromDict, Event.toDict, Event.canonicalDict, eventTextFields, fieldOf]
  simp [Value.isStr, Value.strOr, Value.items?, List.lookup]

/-- Such an event is valid if its payload is. -/
theorem validateTeamEventMapping_sealed (hT : T.HexDigests) (h : SealedTeamEvent T event)
    (hvalid : validateTeamPayload event.payload = .ok ())
    (hinspected : inspectEventPayload T.toPlatform (.dict event.payload)
      ((fieldOf event.payload "classification").strOr "") = []) :
    validateTeamEventMapping T event.toDict = .ok event := by
  have hread := fromDict_sealed h
  obtain ⟨moment, hmoment, haware⟩ := h.moment
  have hkeys : hasKeys event.toDict teamEventKeys = true := by
    rw [hasKeys, toDict_keys, h.version]
    decide
  have hlookup : event.toDict = [("schema_version", .int 2), ("event_id", .str event.eventId),
      ("event_type", .str "team.knowledge.recorded"), ("occurred_at", .str event.occurredAt),
      ("actor", .str event.actor), ("machine_id", .str event.machineId),
      ("payload", .dict event.payload), ("idempotency_key", .str event.idempotencyKey),
      ("provenance", .list []), ("integrity", .dict event.integrity),
      ("integrity_sha256", .str event.integritySha256)] := by
    rw [Event.toDict, Event.canonicalDict, h.version, h.eventType, h.provenance]
    rfl
  have hdigest : isDigest event.integritySha256 = true := by
    rw [h.digest]
    exact hT _
  have hne : event.integritySha256 ≠ "" := by
    intro he
    rw [he] at hdigest
    cases hdigest
  have hintegrityKeys : hasKeys event.integrity ["algorithm", "canonical_payload_hash"] = true := by
    rw [h.integrity]
    rfl
  have halgorithm : fieldOf event.integrity "algorithm" = .str "sha256" := by
    rw [h.integrity]
    rfl
  have hhash : fieldOf event.integrity "canonical_payload_hash" =
      .str (canonicalPayloadHash T.toPlatform event.payload) := by
    rw [h.integrity]
    rfl
  have hpayloadHash : isHash (canonicalPayloadHash T.toPlatform event.payload) = true :=
    isHash_of_isDigest (hT _)
  have hpartition : ∃ partition, teamEventPartition T event = .ok partition := by
    rw [teamEventPartition, hmoment]
    dsimp only
    rw [haware]
    exact ⟨_, rfl⟩
  obtain ⟨partition, hpartition⟩ := hpartition
  have htexts : ["occurred_at", "actor", "machine_id", "integrity_sha256",
      "idempotency_key"].forM (fun key => refuse (!nonemptyText (fieldOf event.toDict key))
        (teamError "TEAM_EVENT_SCHEMA_INVALID")) = .ok () := by
    apply forM_ok
    intro name hname
    rw [hlookup, refuse_ok, Bool.not_eq_false']
    simp only [List.mem_cons, List.not_mem_nil, or_false] at hname
    rcases hname with rfl | rfl | rfl | rfl | rfl
    · simp [fieldOf, nonemptyText, Value.isStr, Value.strOr, List.lookup, h.occurredAt]
    · simp [fieldOf, nonemptyText, Value.isStr, Value.strOr, List.lookup, h.actor]
    · simp [fieldOf, nonemptyText, Value.isStr, Value.strOr, List.lookup, h.machineId]
    · simp [fieldOf, nonemptyText, Value.isStr, Value.strOr, List.lookup, hne]
    · simp [fieldOf, nonemptyText, Value.isStr, Value.strOr, List.lookup, ne_empty_of_isHash h.key]
  have hprovenance : fieldOf event.toDict "provenance" = .list [] := by
    rw [hlookup]
    rfl
  have hintegrity : fieldOf event.toDict "integrity" = .dict event.integrity := by
    rw [hlookup]
    rfl
  have hpayload : fieldOf event.toDict "payload" = .dict event.payload := by
    rw [hlookup]
    rfl
  have hdigestField : fieldOf event.toDict "integrity_sha256" = .str event.integritySha256 := by
    rw [hlookup]
    rfl
  have hkeyField : fieldOf event.toDict "idempotency_key" = .str event.idempotencyKey := by
    rw [hlookup]
    rfl
  have hidField : fieldOf event.toDict "event_id" = .str event.eventId := by
    rw [hlookup]
    rfl
  have htypeField : fieldOf event.toDict "event_type" = .str "team.knowledge.recorded" := by
    rw [hlookup]
    rfl
  have hversionField : fieldOf event.toDict "schema_version" = .int 2 := by
    rw [hlookup]
    rfl
  unfold validateTeamEventMapping
  dsimp only
  rw [hkeys, hversionField, hidField, htypeField, htexts, hdigestField, hkeyField, hprovenance,
    hintegrity, hpayload]
  simp only [dictOr, listOr, ok_bind, hintegrityKeys, halgorithm, hhash, hvalid, hinspected,
    hread, hpartition, Except.mapError]
  simp only [Value.isStr, Value.strOr, h.eventId, hdigest, h.key, ← h.digest, hpayloadHash,
    bne_self_eq_false, Bool.not_true, Bool.or_false, List.all_nil, List.isEmpty_nil, refuse_false,
    ok_bind]
  rfl

/-- The texts of an accepted list are the stripped texts that were given. -/
theorem routingTexts_strings (h : routingTexts v = some items) :
    ∃ texts : List String, items = texts.map .str ∧ (∀ text ∈ texts, text ≠ "") ∧
      ∀ p : String → Prop, (∀ text ∈ texts, p text) ↔ ∀ text ∈ v.strings, p (stripText text) := by
  unfold routingTexts at h
  obtain ⟨given, hgiven, h⟩ := Option.bind_eq_some_iff.1 h
  split at h
  · cases h
  · rename_i hok
    rw [Bool.not_eq_true, Bool.or_eq_false_iff, Bool.not_eq_false', List.all_eq_true] at hok
    obtain ⟨_, hall⟩ := hok
    injection h with h
    have hmem : ∀ item, item ∈ items ↔ ∃ text, Value.str text ∈ given ∧
        item = .str (stripText text) := by
      intro item
      rw [← h, List.mem_eraseDups_iff, List.mem_map]
      constructor
      · rintro ⟨source, hsource, rfl⟩
        have hstr := hall source hsource
        rw [Bool.and_eq_true] at hstr
        cases source with
        | str text => exact ⟨text, hsource, rfl⟩
        | _ => cases hstr.1
      · rintro ⟨text, htext, rfl⟩
        exact ⟨_, htext, rfl⟩
    have hstrings : ∀ text, text ∈ v.strings ↔ Value.str text ∈ given := by
      intro text
      rw [Value.strings, hgiven, Option.getD_some, List.mem_filterMap]
      constructor
      · rintro ⟨item, hitem, htext⟩
        cases item with
        | str given =>
          cases htext
          exact hitem
        | _ => cases htext
      · intro htext
        exact ⟨_, htext, rfl⟩
    refine ⟨items.map (fun item => item.strOr ""), ?_, ?_, ?_⟩
    · rw [List.map_map]
      apply ((List.map_congr_left _).trans (List.map_id items)).symm
      intro item hitem
      obtain ⟨text, _, rfl⟩ := (hmem item).1 hitem
      rfl
    · intro text htext
      obtain ⟨item, hitem, rfl⟩ := List.mem_map.1 htext
      obtain ⟨text, hgiven, rfl⟩ := (hmem item).1 hitem
      have hblank := hall _ hgiven
      rw [Bool.and_eq_true, bne_iff_ne] at hblank
      exact hblank.2
    · intro p
      constructor
      · intro hp text htext
        apply hp
        exact List.mem_map.2 ⟨_, (hmem _).2 ⟨text, (hstrings text).1 htext, rfl⟩, rfl⟩
      · intro hp text htext
        obtain ⟨item, hitem, rfl⟩ := List.mem_map.1 htext
        obtain ⟨text, hgiven, rfl⟩ := (hmem item).1 hitem
        exact hp text ((hstrings text).2 hgiven)

/-- The fields that a team event adds to a payload. -/
def addedTo (origin key : String) : List (String × Value) :=
  [("knowledge_scope", .str "team"), ("origin_event_hash", .str origin),
    ("idempotency_key", .str key)]

theorem fieldIssues_addedTo (hP : P.PlainTexts) (horigin : isHash origin = true)
    (hkey : isHash key = true)
    (hclass : ["public", "private-reusable"].contains classification = true) :
    ∀ field ∈ addedTo origin key,
      fieldIssues P classification (some eventPayloadFields) [] field.1 field.2 = [] := by
  have hscope : eventPayloadFields.lookup "knowledge_scope" = some ⟨.safeLabel, some 32⟩ := by
    decide
  have horiginHash : eventPayloadFields.lookup "origin_event_hash" =
      some ⟨.optionalHash, some 71⟩ := by decide
  have hkeyHash : eventPayloadFields.lookup "idempotency_key" =
      some ⟨.optionalHash, some 71⟩ := by decide
  intro field hfield
  simp only [addedTo, List.mem_cons, List.not_mem_nil, or_false] at hfield
  rcases hfield with rfl | rfl | rfl
  · exact fieldIssues_added hP (by decide) hscope (by decide) rfl (by decide) (by decide)
      (by decide) (by decide) (by decide) (by decide) hP.secretTeam hclass
  · obtain ⟨hlength, hprintable, hslash⟩ := chars_of_isHash horigin
    exact fieldIssues_added hP (.tail _ (.head _)) horiginHash rfl rfl (le_of_eq hlength)
      (by decide) hprintable hslash (fun _ => horigin) (by decide) (hP.secretHash origin horigin)
      hclass
  · obtain ⟨hlength, hprintable, hslash⟩ := chars_of_isHash hkey
    exact fieldIssues_added hP (.tail _ (.tail _ (.head _))) hkeyHash rfl rfl (le_of_eq hlength)
      (by decide) hprintable hslash (fun _ => hkey) (by decide) (hP.secretHash key hkey) hclass

/-- The texts of an output that a team event has room for once they are stripped and normalized. -/
structure ShortTexts (P : Platform) (value : List (String × Value)) : Prop where
  title : normalizedLength P (stripText (textOf value "title")) ≤ 160
  claim : normalizedLength P (stripText (textOf value "claim")) ≤ 1200
  benefit : normalizedLength P (stripText (textOf value "benefit")) ≤ 240
  scope : ∀ text ∈ (fieldOf value "scope").strings, normalizedLength P (stripText text) ≤ 240
  preconditions : ∀ text ∈ (fieldOf value "preconditions").strings,
    normalizedLength P (stripText text) ≤ 500
  failureModes : ∀ text ∈ (fieldOf value "failure_modes").strings,
    normalizedLength P (stripText text) ≤ 500

theorem fieldLength_added_le {digest : String} (h : isHash digest = true) (name : String) :
    Value.fieldLength (name, .str digest) ≤ 24 * (Text.chars name).length + 1709 := by
  have hname := Value.utf8Length_quote_le name
  have hdigest := Value.utf8Length_quote_le digest
  rw [(chars_of_isHash h).1] at hdigest
  rw [Value.fieldLength]
  dsimp only
  rw [Value.dump]
  omega

theorem utf8Length_added_le (fields : List (String × Value)) (horigin : isHash origin = true)
    (hkey : isHash key = true) :
    Value.utf8Length (Value.dump (.dict (fields ++ addedTo origin key))) ≤
      Value.utf8Length (Value.dump (.dict fields)) + 8192 := by
  have horiginLength := fieldLength_added_le horigin "origin_event_hash"
  have hkeyLength := fieldLength_added_le hkey "idempotency_key"
  have hscopeLength : Value.fieldLength ("knowledge_scope", .str "team") ≤ 1000 := by
    have hname := Value.utf8Length_quote_le "knowledge_scope"
    have hvalue := Value.utf8Length_quote_le "team"
    have hnameLength : (Text.chars "knowledge_scope").length = 15 := by decide
    have hvalueLength : (Text.chars "team").length = 4 := by decide
    rw [Value.fieldLength]
    dsimp only
    rw [Value.dump]
    omega
  have horiginName : (Text.chars "origin_event_hash").length = 17 := by decide
  have hkeyName : (Text.chars "idempotency_key").length = 15 := by decide
  rw [Value.utf8Length_dump_dict, Value.utf8Length_dump_dict, Value.utf8Length_dumpFields,
    Value.utf8Length_dumpFields, List.map_append, List.sum_append, List.length_append]
  simp only [addedTo, List.map_cons, List.map_nil, List.sum_cons, List.sum_nil, List.length_cons,
    List.length_nil]
  omega

/-- The registry of event fields takes an accepted payload just if its texts are short. -/
theorem inspectEventPayload_added (hP : P.PlainTexts)
    (h : AcceptedOutput P value scope preconditions failureModes)
    (horigin : isHash origin = true) (hkey : isHash key = true) :
    inspectEventPayload P
      (.dict (routingResult value scope preconditions failureModes ++ addedTo origin key))
      (textOf value "classification") = [] ↔ ShortTexts P value := by
  obtain ⟨hsize, hwalk, _⟩ := inspectPersistable_eq_nil.1 h.inspected
  rw [walk_object, walkFields_eq_nil] at hwalk
  have hadded := fieldIssues_addedTo hP horigin hkey h.classification
  have hlength := utf8Length_added_le
    (routingResult value scope preconditions failureModes) horigin hkey
  have hhost : hostContractIssues
      (.dict (routingResult value scope preconditions failureModes ++ addedTo origin key)) = [] := by
    rfl
  obtain ⟨scopeTexts, rfl, _, hscope⟩ := routingTexts_strings h.scopeTexts
  obtain ⟨preconditionTexts, rfl, _, hpreconditions⟩ := routingTexts_strings h.preconditionTexts
  obtain ⟨failureTexts, rfl, _, hfailures⟩ := routingTexts_strings h.failureTexts
  rw [inspectEventPayload, inspectPersistable_eq_nil, walk_object, walkFields_eq_nil]
  simp only [routingResult, List.forall_mem_cons] at hwalk
  obtain ⟨hscopeWalk, hpreconditionWalk, hfailureWalk, htitleWalk, hclaimWalk, hbenefitWalk,
    hclassWalk, _⟩ := hwalk
  have hclass : fieldIssues P (textOf value "classification") (some eventPayloadFields) []
      "classification" (.str (textOf value "classification")) = [] := by
    rw [fieldIssues_limit (by decide : eventPayloadFields.lookup "classification" =
      some ⟨.string, some 32⟩) hclassWalk]
    have hcases := h.classification
    simp only [List.contains_cons, List.contains_nil, Bool.or_false, Bool.or_eq_true,
      beq_iff_eq] at hcases
    cases hcases with
    | inl he =>
      rw [he, normalizedLength, hP.nfkc _ (by decide)]
      decide
    | inr he =>
      rw [he, normalizedLength, hP.nfkc _ (by decide)]
      decide
  have hscopeLimit := fieldIssues_limits (by decide : eventPayloadFields.lookup "scope" =
    some ⟨.stringList, some 240⟩) hscopeWalk
  have hpreconditionLimit := fieldIssues_limits (by decide :
    eventPayloadFields.lookup "preconditions" = some ⟨.stringList, some 500⟩) hpreconditionWalk
  have hfailureLimit := fieldIssues_limits (by decide :
    eventPayloadFields.lookup "failure_modes" = some ⟨.stringList, some 500⟩) hfailureWalk
  have htitleLimit := fieldIssues_limit (by decide : eventPayloadFields.lookup "title" =
    some ⟨.string, some 160⟩) htitleWalk
  have hclaimLimit := fieldIssues_limit (by decide : eventPayloadFields.lookup "claim" =
    some ⟨.string, some 1200⟩) hclaimWalk
  have hbenefitLimit := fieldIssues_limit (by decide : eventPayloadFields.lookup "benefit" =
    some ⟨.string, some 240⟩) hbenefitWalk
  rw [hscope (fun text => normalizedLength P text ≤ 240)] at hscopeLimit
  rw [hpreconditions (fun text => normalizedLength P text ≤ 500)] at hpreconditionLimit
  rw [hfailures (fun text => normalizedLength P text ≤ 500)] at hfailureLimit
  constructor
  · rintro ⟨_, hfields, _⟩
    rw [List.forall_mem_append] at hfields
    obtain ⟨hfields, _⟩ := hfields
    simp only [routingResult, List.forall_mem_cons] at hfields
    obtain ⟨hs, hp, hf, ht, hc, hb, _⟩ := hfields
    exact ⟨htitleLimit.1 ht, hclaimLimit.1 hc, hbenefitLimit.1 hb, hscopeLimit.1 hs,
      hpreconditionLimit.1 hp, hfailureLimit.1 hf⟩
  · intro hshort
    refine ⟨by omega, ?_, hhost⟩
    rw [List.forall_mem_append]
    refine ⟨?_, hadded⟩
    simp only [routingResult, List.forall_mem_cons]
    exact ⟨hscopeLimit.2 hshort.scope, hpreconditionLimit.2 hshort.preconditions,
      hfailureLimit.2 hshort.failureModes, htitleLimit.2 hshort.title, hclaimLimit.2 hshort.claim,
      hbenefitLimit.2 hshort.benefit, hclass, fun _ hnil => absurd hnil List.not_mem_nil⟩

theorem domainHash_plain (hHex : P.HexDigests) (hP : P.PlainTexts)
    (hdomain : (Text.chars domain).all isPrintable = true)
    (hname : (Text.strip (Text.chars domain)).isEmpty = false)
    (hplain : (Text.chars domain).contains (Char.ofNat 0) = false)
    (hvalue : (Text.chars value).all isPrintable = true) :
    ∃ digest, domainHash P value domain = .ok digest ∧ isHash digest = true := by
  have hnotIn : (Text.chars value).contains (Char.ofNat 0) = false := by
    rw [Bool.eq_false_iff, ne_eq, List.contains_iff_mem]
    intro hmem
    have hzero := List.all_eq_true.1 hvalue _ hmem
    exact absurd hzero (by decide)
  have hstripped : (Text.strip (Text.chars domain)).contains (Char.ofNat 0) = false := by
    rw [Bool.eq_false_iff, ne_eq, List.contains_iff_mem] at hplain ⊢
    intro hmem
    apply hplain
    exact (List.dropWhile_suffix _).subset ((List.rdropWhile_prefix _ _).subset hmem)
  have hok : ∃ digest, domainHash P value domain = .ok digest := by
    unfold domainHash
    dsimp only
    rw [hP.nfkc _ hdomain, hP.nfkc _ hvalue, hname, hstripped, hnotIn]
    exact ⟨_, rfl⟩
  obtain ⟨digest, hdigest⟩ := hok
  exact ⟨digest, hdigest, isHash_of_domainHash hHex hdigest⟩

theorem chars_append (s t : String) : Text.chars (s ++ t) = Text.chars s ++ Text.chars t := by
  rw [Text.chars_eq_toList, Text.chars_eq_toList, Text.chars_eq_toList, String.toList_append]

theorem isPrintable_of_isTeamStoreId (h : isTeamStoreId s = true) :
    (Text.chars s).all isPrintable = true := by
  unfold isTeamStoreId isTeamToken at h
  simp only [Bool.and_eq_true] at h
  obtain ⟨⟨⟨hstart, _⟩, _⟩, hdigits⟩ := h
  obtain ⟨rest, hrest⟩ := List.isPrefixOf_iff_prefix.1 hstart
  rw [← hrest, List.drop_left, List.all_eq_true] at hdigits
  rw [← hrest, List.all_append, Bool.and_eq_true]
  constructor
  · decide
  · exact List.all_eq_true.2 fun c hc => (isPrintable_of_isLowerHex (hdigits c hc)).1

theorem set_added (origin key : String) :
    Dict.set "idempotency_key" (.str key) (Dict.set "origin_event_hash" (.str origin)
      (Dict.set "knowledge_scope" (.str "team")
        (routingResult value scope preconditions failureModes))) =
      routingResult value scope preconditions failureModes ++ addedTo origin key := by
  simp [Dict.set, routingResult, addedTo]

theorem teamHashes_ok {T : TeamPlatform} (hHex : T.HexDigests) (hP : T.PlainTexts)
    (hstore : isTeamStoreId store = true) (hdigest : isHash personalEventHash = true) :
    ∃ origin key, domainHash T.toPlatform personalEventHash "personal-event-origin" = .ok origin ∧
      isHash origin = true ∧
      teamIdempotencyKey T.toPlatform personalEventHash store = .ok key ∧ isHash key = true := by
  obtain ⟨_, hprintable, _⟩ := chars_of_isHash hdigest
  obtain ⟨origin, horigin, horiginHash⟩ := domainHash_plain hHex hP
    (by decide : (Text.chars "personal-event-origin").all isPrintable = true) (by decide)
    (by decide) hprintable
  have hboth : (Text.chars (personalEventHash ++ store)).all isPrintable = true := by
    rw [chars_append, List.all_append, hprintable, isPrintable_of_isTeamStoreId hstore]
    rfl
  obtain ⟨key, hkey, hkeyHash⟩ := domainHash_plain hHex hP
    (by decide : (Text.chars "team-event-idempotency").all isPrintable = true) (by decide)
    (by decide) hboth
  exact ⟨origin, key, horigin, horiginHash, hkey, hkeyHash⟩

/-- The output of a provider that becomes an event of the team store. -/
structure TeamReady (P : Platform) (value : List (String × Value)) : Prop where
  title : stripText (textOf value "title") ≠ ""
  claim : 20 ≤ (Text.strip (Text.chars (textOf value "claim"))).length
  benefit : stripText (textOf value "benefit") ≠ ""
  short : ShortTexts P value

theorem nonemptyText_str (h : text ≠ "") : nonemptyText (.str text) = true := by
  simpa [nonemptyText, Value.isStr, Value.strOr] using h

/-- A payload of texts and hashes of the right lengths is one of a team event. -/
theorem validateTeamPayload_ok {payload : List (String × Value)} {listItems : String → List Value}
    (hkeys : hasKeys payload teamPayloadKeys = true)
    (hscope : fieldOf payload "knowledge_scope" = .str "team")
    (hclass : fieldOf payload "classification" = .str classification)
    (hclassOk : ["public", "private-reusable"].contains classification = true)
    (horigin : fieldOf payload "origin_event_hash" = .str origin) (horiginHash : isHash origin = true)
    (hkey : fieldOf payload "idempotency_key" = .str key) (hkeyHash : isHash key = true)
    (htitle : fieldOf payload "title" = .str title) (htitleText : title ≠ "")
    (htitleLength : (Text.chars title).length ≤ 160)
    (hclaim : fieldOf payload "claim" = .str claim) (hclaimLeast : 20 ≤ (Text.chars claim).length)
    (hclaimMost : (Text.chars claim).length ≤ 1200)
    (hbenefit : fieldOf payload "benefit" = .str benefit) (hbenefitText : benefit ≠ "")
    (hlists : ∀ name ∈ ["scope", "preconditions", "failure_modes"],
      fieldOf payload name = .list (listItems name) ∧ (listItems name).all nonemptyText = true) :
    validateTeamPayload payload = .ok () := by
  have hclaimText : claim ≠ "" := by
    rintro rfl
    have hnil : Text.chars "" = [] := by decide
    rw [hnil] at hclaimLeast
    cases hclaimLeast
  have hhashes : ["origin_event_hash", "idempotency_key"].forM (fun key =>
      refuse (!isHash ((fieldOf payload key).strOr "")) (teamError "TEAM_EVENT_SCHEMA_INVALID")) =
        .ok () := by
    apply forM_ok
    intro name hname
    rw [refuse_ok, Bool.not_eq_false']
    simp only [List.mem_cons, List.not_mem_nil, or_false] at hname
    rcases hname with rfl | rfl
    · rw [horigin]
      exact horiginHash
    · rw [hkey]
      exact hkeyHash
  have htexts : ["title", "claim", "benefit"].forM (fun key =>
      refuse (!nonemptyText (fieldOf payload key)) (teamError "TEAM_EVENT_SCHEMA_INVALID")) =
        .ok () := by
    apply forM_ok
    intro name hname
    rw [refuse_ok, Bool.not_eq_false']
    simp only [List.mem_cons, List.not_mem_nil, or_false] at hname
    rcases hname with rfl | rfl | rfl
    · rw [htitle]
      exact nonemptyText_str htitleText
    · rw [hclaim]
      exact nonemptyText_str hclaimText
    · rw [hbenefit]
      exact nonemptyText_str hbenefitText
  have hitems : ["scope", "preconditions", "failure_modes"].forM (fun key =>
      (listOr (teamError "TEAM_EVENT_SCHEMA_INVALID") (fieldOf payload key)).bind fun items =>
        refuse (!items.all nonemptyText) (teamError "TEAM_EVENT_SCHEMA_INVALID")) = .ok () := by
    apply forM_ok
    intro name hname
    obtain ⟨hfield, hall⟩ := hlists name hname
    rw [hfield, listOr, Except.bind]
    rw [refuse_ok, hall]
    rfl
  rw [validateTeamPayload]
  dsimp only
  rw [hhashes, htexts, hitems, hkeys, hscope, hclass]
  have hlengths : ¬160 < (Text.chars title).length ∧ ¬(Text.chars claim).length < 20 ∧
      ¬1200 < (Text.chars claim).length := by
    omega
  simp only [htitle, hclaim, Value.strOr, hclassOk, hlengths, bne_self_eq_false, Bool.not_true,
    Bool.or_false, decide_false, refuse_false, ok_bind]

theorem validateTeamPayload_added (h : AcceptedOutput P value scope preconditions failureModes)
    (hready : TeamReady P value) (horigin : isHash origin = true) (hkey : isHash key = true) :
    validateTeamPayload
      (routingResult value scope preconditions failureModes ++ addedTo origin key) = .ok () := by
  have hall : ∀ {v items}, routingTexts v = some items → items.all nonemptyText = true := by
    intro v items hitems
    rw [List.all_eq_true]
    intro item hitem
    obtain ⟨text, rfl, hblank⟩ := (routingTexts_some hitems).2.2 item hitem
    exact nonemptyText_str hblank
  have htitle := h.titleLength
  have hclaim := h.claimMost
  have htitleLe := Text.length_strip_le (Text.chars (textOf value "title"))
  have hclaimLe := Text.length_strip_le (Text.chars (textOf value "claim"))
  have hlists : ∀ name ∈ ["scope", "preconditions", "failure_modes"],
      fieldOf (routingResult value scope preconditions failureModes ++ addedTo origin key) name =
        .list (if name = "scope" then scope else
          if name = "preconditions" then preconditions else failureModes) ∧
      (if name = "scope" then scope else
        if name = "preconditions" then preconditions else failureModes).all nonemptyText = true := by
    intro name hname
    simp only [List.mem_cons, List.not_mem_nil, or_false] at hname
    rcases hname with rfl | rfl | rfl
    · exact ⟨rfl, hall h.scopeTexts⟩
    · exact ⟨rfl, hall h.preconditionTexts⟩
    · exact ⟨rfl, hall h.failureTexts⟩
  apply validateTeamPayload_ok rfl rfl rfl h.classification rfl horigin rfl hkey rfl hready.title _
    rfl _ _ rfl hready.benefit hlists
  · rw [chars_stripText]
    exact htitleLe.trans htitle
  · rw [chars_stripText]
    exact hready.claim
  · rw [chars_stripText]
    exact hclaimLe.trans hclaim

/-- The identifier a team event is given. -/
def preparedEventId (T : TeamPlatform) (moment : Int) (key : String) : String :=
  "evt_" ++ T.strftime "%Y%m%dT%H%M%S%fZ" moment ++ "_" ++
    takeText 12 (String.ofList ((Text.chars key).drop 7))

theorem isTeamEventId_prepared {T : TeamPlatform} {moment : Moment} (hclock : T.Clock now)
    (hmoment : T.fromisoformat (T.isoformat now) = some moment) (hkey : isHash key = true) :
    isTeamEventId (preparedEventId T moment.instant key) = true := by
  obtain ⟨hne, hlength, hstamp⟩ := hclock.compact moment hmoment
  have hdigits : (((Text.chars key).drop 7).take 12).all isLowerHex = true := by
    unfold isHash at hkey
    simp only [Bool.and_eq_true] at hkey
    rw [List.all_eq_true] at hkey ⊢
    intro c hc
    exact hkey.2 c (List.mem_of_mem_take hc)
  have hlast : (((Text.chars key).drop 7).take 12).length ≤ 12 := List.length_take_le ..
  have hunderscore : Text.chars "_" = ['_'] := by decide
  have hevt : (Text.chars "evt_").length = 4 := by decide
  have hchars : Text.chars (preparedEventId T moment.instant key) = Text.chars "evt_" ++
      (Text.chars (T.strftime "%Y%m%dT%H%M%S%fZ" moment.instant) ++ '_' ::
        ((Text.chars key).drop 7).take 12) := by
    rw [preparedEventId, chars_append, chars_append, chars_append, takeText, hunderscore,
      Text.chars_eq_toList (String.ofList (List.take _ _)), String.toList_ofList,
      Text.chars_eq_toList (String.ofList (List.drop _ _)), String.toList_ofList,
      List.append_assoc, List.append_assoc, List.singleton_append]
  unfold isTeamEventId
  rw [hchars, List.drop_left' hevt]
  cases htext : Text.chars (T.strftime "%Y%m%dT%H%M%S%fZ" moment.instant) with
  | nil => exact absurd htext hne
  | cons c cs =>
    rw [htext, List.all_cons, Bool.and_eq_true] at hstamp
    rw [htext, List.length_cons] at hlength
    rw [List.cons_append]
    dsimp only
    rw [Bool.and_eq_true, Bool.and_eq_true, Bool.and_eq_true, decide_eq_true_eq,
      List.length_append, List.length_cons]
    refine ⟨⟨⟨?_, hstamp.1⟩, by omega⟩, ?_⟩
    · exact List.isPrefixOf_iff_prefix.2 (List.prefix_append _ _)
    · rw [List.all_append, List.all_cons, Bool.and_eq_true, Bool.and_eq_true, List.all_eq_true,
        List.all_eq_true]
      rw [List.all_eq_true] at hdigits
      refine ⟨?_, by decide, ?_⟩
      · intro d hd
        rw [List.all_eq_true.1 hstamp.2 d hd, Bool.true_or]
      · intro d hd
        have hhex := hdigits d hd
        rw [isLowerHex, Bool.or_eq_true] at hhex
        cases hhex with
        | inl hdigit => rw [hdigit, Bool.or_true, Bool.true_or]
        | inr hletter =>
          rw [Bool.and_eq_true, decide_eq_true_eq, decide_eq_true_eq] at hletter
          have hlower : Text.isLower d = true := by
            rw [Text.isLower, Bool.and_eq_true, decide_eq_true_eq, decide_eq_true_eq]
            exact ⟨hletter.1, le_trans hletter.2 (by decide)⟩
          rw [isAsciiLetter, hlower, Bool.or_true, Bool.true_or, Bool.true_or]

/-- What a store and a machine are set up as for team events. -/
structure EnabledFor (P : Platform) (settings : TeamSettings) (binding : TeamBinding) : Prop where
  team : ∃ descriptor, settings.team = some descriptor ∧ descriptor.enabled = true
  store : binding.teamStoreId ≠ ""
  bound : bindingFields P settings settings.team = .ok binding

/-- What is prepared for the team store once a provider has answered. -/
def prepareOutput (P : Platform) (settings : TeamSettings) (now : Int) (personalEventHash : String)
    (output : List (String × Value)) : Except Raised PreparedTeamRouting :=
  prepareTeamRouting P settings now fun descriptor =>
    decideProviderOutput P personalEventHash descriptor.storeId output

theorem prepareOutput_eq (h : EnabledFor P settings binding)
    (hok : validateRoutingPayload P output = .ok payload) :
    prepareOutput P settings now personalEventHash output =
      checkPrepared P
        (freezeDecision binding .eligible "TEAM_ELIGIBLE" (P.isoformat now) (some payload)) := by
  obtain ⟨descriptor, hteam, henabled⟩ := h.team
  have hbinding := h.bound
  have hreason : isReasonCode "TEAM_ELIGIBLE" = true := by decide
  unfold prepareOutput prepareTeamRouting
  dsimp only
  rw [hbinding, ok_bind, hteam]
  dsimp only
  rw [henabled, Bool.not_true, if_neg Bool.false_ne_true, if_neg h.store]
  unfold decideProviderOutput
  rw [hok]
  dsimp only
  rw [hreason, if_pos rfl]

theorem checkPrepared_ok : checkPrepared P prepared = .ok result ↔
    validatePreparedTeamRouting P prepared = true ∧ result = prepared := by
  rw [checkPrepared]
  split
  · rename_i hvalid
    constructor
    · intro h
      cases h
      exact ⟨hvalid, rfl⟩
    · rintro ⟨_, rfl⟩
      rfl
  · rename_i hinvalid
    constructor
    · intro h
      cases h
    · rintro ⟨hvalid, _⟩
      exact absurd hvalid hinvalid

/-- The event of a frozen payload. -/
def teamEventOf (T : TeamPlatform) (binding : TeamBinding) (moment : Int) (key : String)
    (payload : List (String × Value)) : Event :=
  { eventId := preparedEventId T moment key
    eventType := "team.knowledge.recorded"
    occurredAt := T.isoformat moment
    actor := binding.actorHash.getD "None"
    machineId := binding.machineHash.getD "None"
    payload
    schemaVersion := 2
    idempotencyKey := key
    integrity := [("algorithm", .str "sha256"),
      ("canonical_payload_hash", .str (canonicalPayloadHash T.toPlatform payload))] }

theorem preparedMoment_some (h : (preparedMoment P stamp).isSome = true) :
    ∃ moment, P.fromisoformat stamp = some moment ∧ moment.aware = true ∧
      P.isoformat moment.instant = stamp ∧ stamp ≠ "" := by
  unfold preparedMoment at h
  split at h
  · cases h
  · rename_i hshape
    rw [Bool.or_eq_true, not_or] at hshape
    obtain ⟨_, hshape⟩ := hshape
    have hne : stamp ≠ "" := by
      rintro rfl
      exact hshape (by decide)
    split at h
    · cases h
    · rename_i moment hmoment
      split at h
      · rename_i hok
        rw [Bool.and_eq_true, beq_iff_eq] at hok
        exact ⟨moment, hmoment, hok.1, hok.2, hne⟩
      · cases h

theorem preparedEvent_eq {T : TeamPlatform} {moment : Moment} (value : List (String × Value))
    (scope preconditions failureModes : List Value)
    (hmoment : T.fromisoformat stamp = some moment)
    (horigin : domainHash T.toPlatform personalEventHash "personal-event-origin" = .ok origin)
    (hkey : teamIdempotencyKey T.toPlatform personalEventHash binding.teamStoreId = .ok key) :
    preparedEvent T (freezeDecision binding .eligible "TEAM_ELIGIBLE" stamp
        (some (routingResult value scope preconditions failureModes))) personalEventHash =
      .ok (teamEventOf T binding moment.instant key
        (routingResult value scope preconditions failureModes ++ addedTo origin key)) := by
  unfold preparedEvent freezeDecision
  dsimp only
  rw [someOr, ok_bind, horigin, ok_bind, hkey, ok_bind, hmoment, someOr, ok_bind, set_added]
  rfl

/-- An event is stored with its digest just if its payload passes both checks of a payload. -/
theorem materializeTeamEvent_prepared {T : TeamPlatform} {event : Event} (hHex : T.HexDigests)
    (hempty : event.integritySha256 = "") (h : SealedTeamEvent T (sealedEvent T event)) :
    (∃ m, materializeTeamEvent T event = .ok m) ↔ validateTeamPayload event.payload = .ok () ∧
      inspectEventPayload T.toPlatform (.dict event.payload)
        ((fieldOf event.payload "classification").strOr "") = [] := by
  have hversion : event.schemaVersion = 2 := h.version
  have htype : event.eventType = "team.knowledge.recorded" := h.eventType
  have heq : materializeTeamEvent T event =
      validateTeamEventMapping T (sealedEvent T event).toDict := by
    have hversionOk : (event.schemaVersion != 2) = false := by
      rw [hversion]
      rfl
    have htypeOk : (event.eventType != "team.knowledge.recorded") = false := by
      rw [htype]
      exact bne_self_eq_false _
    have hemptyOk : (event.integritySha256 != "") = false := by
      rw [hempty]
      rfl
    unfold materializeTeamEvent
    dsimp only
    rw [hversionOk, htypeOk, hemptyOk]
    rfl
  rw [heq]
  constructor
  · rintro ⟨m, hm⟩
    obtain ⟨payload, hpayload, hvalid, hinspected⟩ := validateTeamEventMapping_payload hm
    have hfield : fieldOf (sealedEvent T event).toDict "payload" = .dict event.payload := rfl
    rw [hfield] at hpayload
    cases hpayload
    exact ⟨hvalid, hinspected⟩
  · rintro ⟨hvalid, hinspected⟩
    exact ⟨_, validateTeamEventMapping_sealed hHex h hvalid hinspected⟩

/-- An accepted output is prepared, and its event is valid, just if no text of it is blank or too
short once it is stripped nor too long once it is stripped and normalized. -/
theorem eligible_appendable {T : TeamPlatform} {settings : TeamSettings} {binding : TeamBinding}
    {now : Int} {personalEventHash : String} {output payload : List (String × Value)}
    (hHex : T.HexDigests) (hplain : T.PlainTexts) (hclock : T.Clock now)
    (hsettings : EnabledFor T.toPlatform settings binding)
    (hdigest : isHash personalEventHash = true)
    (haccepted : validateRoutingPayload T.toPlatform output = .ok payload) :
    (∃ prepared, prepareOutput T.toPlatform settings now personalEventHash output = .ok prepared ∧
      validatePreparedTeamRouting T.toPlatform prepared = true ∧
      ∃ event m, preparedEvent T prepared personalEventHash = .ok event ∧
        materializeTeamEvent T event = .ok m) ↔ TeamReady T.toPlatform output := by
  obtain ⟨scope, preconditions, failureModes, houtput, rfl⟩ := validateRoutingPayload_ok.1 haccepted
  have hfull := fullBinding_of_bindingFields hHex hsettings.bound hsettings.store
  obtain ⟨moment, hmoment, haware, hstamp, hstampText⟩ := preparedMoment_some hclock.stamp
  obtain ⟨origin, key, horigin, horiginHash, hkey, hkeyHash⟩ :=
    teamHashes_ok hHex hplain hfull.store hdigest
  have hready := accepted_again houtput
  have hagain : ∀ again, validateRoutingPayload T.toPlatform
      (routingResult output scope preconditions failureModes) = .ok again →
      again = routingResult output scope preconditions failureModes ∧
        AcceptedOutput T.toPlatform (routingResult output scope preconditions failureModes) scope
          preconditions failureModes := by
    intro again hok
    obtain ⟨s, p, f, hresult, rfl⟩ := validateRoutingPayload_ok.1 hok
    have hs := hresult.scopeTexts
    have hp := hresult.preconditionTexts
    have hf := hresult.failureTexts
    rw [fieldOf_routingResult_scope, routingTexts_again houtput.scopeTexts] at hs
    rw [fieldOf_routingResult_preconditions, routingTexts_again houtput.preconditionTexts] at hp
    rw [fieldOf_routingResult_failureModes, routingTexts_again houtput.failureTexts] at hf
    cases hs
    cases hp
    cases hf
    exact ⟨routingResult_again, hresult⟩
  have hprepared := validatePrepared_eligible hfull hclock.stamp fun again hok => (hagain again hok).1
  have hevent := preparedEvent_eq output scope preconditions failureModes hmoment horigin hkey
  have hsealed : SealedTeamEvent T (sealedEvent T (teamEventOf T binding moment.instant key
      (routingResult output scope preconditions failureModes ++ addedTo origin key))) := by
    obtain ⟨actor, hactor, hactorHash⟩ := hfull.actorHash
    obtain ⟨machine, hmachine, hmachineHash⟩ := hfull.machineHash
    constructor
    · rfl
    · exact isTeamEventId_prepared hclock hmoment hkeyHash
    · rfl
    · rw [sealedEvent, teamEventOf, hstamp]
      exact hstampText
    · rw [sealedEvent, teamEventOf, hstamp]
      exact ⟨moment, hmoment, haware⟩
    · rw [sealedEvent, teamEventOf, hactor]
      exact ne_empty_of_isHash hactorHash
    · rw [sealedEvent, teamEventOf, hmachine]
      exact ne_empty_of_isHash hmachineHash
    · rfl
    · exact hkeyHash
    · rfl
    · rfl
  have hmaterial := materializeTeamEvent_prepared hHex rfl hsealed
  have hinspect := inspectEventPayload_added hplain houtput horiginHash hkeyHash
  rw [prepareOutput_eq hsettings haccepted]
  constructor
  · rintro ⟨prepared, hok, _, event, m, hpreparedEvent, hm⟩
    obtain ⟨hvalid, rfl⟩ := checkPrepared_ok.1 hok
    rw [hevent] at hpreparedEvent
    cases hpreparedEvent
    obtain ⟨_, hinspected⟩ := hmaterial.1 ⟨m, hm⟩
    obtain ⟨htitle, hclaim, hbenefit⟩ := hready.1 (hagain _ (hprepared.1 hvalid)).2
    exact ⟨htitle, hclaim, hbenefit, hinspect.1 hinspected⟩
  · intro hteam
    have haccept := hready.2 ⟨hteam.title, hteam.claim, hteam.benefit⟩
    have hresult := validateRoutingPayload_ok.2
      ⟨scope, preconditions, failureModes, haccept, routingResult_again.symm⟩
    obtain ⟨m, hm⟩ := hmaterial.2 ⟨validateTeamPayload_added houtput hteam horiginHash hkeyHash,
      hinspect.2 hteam.short⟩
    have hvalid := hprepared.2 hresult
    exact ⟨_, checkPrepared_ok.2 ⟨hvalid, rfl⟩, hvalid, _, m, hevent, hm⟩

section Sample

open FrozenDelivery

theorem sampleTeam_hexDigests : sampleTeam.HexDigests :=
  samplePlatform_hexDigests

theorem sampleTeam_plainTexts : sampleTeam.PlainTexts where
  nfkc := samplePlatform_plainTexts.nfkc
  casefold := samplePlatform_plainTexts.casefold
  isControl := samplePlatform_plainTexts.isControl
  secretTeam := rfl
  secretHash _ _ := rfl

def sampleNow : Int :=
  65061483630000000

theorem sampleTeam_clock : sampleTeam.Clock sampleNow where
  stamp := by decide
  compact := by
    have hread : sampleTeam.fromisoformat (sampleTeam.isoformat sampleNow) =
        some ⟨2024, 3, true, sampleNow⟩ := by decide
    intro moment hmoment
    rw [hread] at hmoment
    cases hmoment
    decide

/-- What a provider answers. -/
def sampleOutput : List (String × Value) :=
  [("title", .str " Clean before a release\n"), ("claim", .str "A release starts from a clean tree. "),
    ("scope", .list [.str "builds", .str " builds"]),
    ("preconditions", .list [.str "a clean tree"]),
    ("failure_modes", .list [.str "a stale cache"]), ("benefit", .str "Releases can be repeated."),
    ("classification", .str "private-reusable")]

theorem sampleSettings_enabled : EnabledFor sampleTeam.toPlatform sampleSettings
    samplePrepared.binding where
  team := ⟨_, rfl, rfl⟩
  store := by decide
  bound := by decide +kernel

theorem sampleOutput_accepted : (validateRoutingPayload sampleTeam.toPlatform sampleOutput).isOk =
    true := by
  decide +kernel

theorem sampleOutput_ready : TeamReady sampleTeam.toPlatform sampleOutput where
  title := by decide
  claim := by decide
  benefit := by decide
  short := by
    constructor
    all_goals decide

/-- The sample output goes through. -/
theorem eligible_appendable_sample :
    ∃ prepared, prepareOutput sampleTeam.toPlatform sampleSettings sampleNow
        FrozenDelivery.sampleHash sampleOutput = .ok prepared ∧
      validatePreparedTeamRouting sampleTeam.toPlatform prepared = true ∧
      ∃ event m, preparedEvent sampleTeam prepared FrozenDelivery.sampleHash = .ok event ∧
        materializeTeamEvent sampleTeam event = .ok m := by
  obtain ⟨payload, haccepted⟩ := Except.exists_ok_of_isOk sampleOutput_accepted
  exact (eligible_appendable sampleTeam_hexDigests sampleTeam_plainTexts sampleTeam_clock
    sampleSettings_enabled (by decide) haccepted).2 sampleOutput_ready

/-- The sample output with a title that is only a blank. -/
def blankTitle : List (String × Value) :=
  Dict.set "title" (.str " ") sampleOutput

/-- A blank title is eligible and cannot be prepared. -/
theorem eligible_refused :
    (decideProviderOutput sampleTeam.toPlatform FrozenDelivery.sampleHash "" blankTitle).status =
      .eligible ∧
    prepareOutput sampleTeam.toPlatform sampleSettings sampleNow FrozenDelivery.sampleHash
        blankTitle =
      .error (teamError "TEAM_PREPARE_INVALID") := by
  decide +kernel

end Sample

end ExternalIntelligence
