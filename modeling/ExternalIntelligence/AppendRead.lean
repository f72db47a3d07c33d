import ExternalIntelligence.JournalRuns

namespace ExternalIntelligence
set_option autoImplicit true

/-- No file of the disk lies below a root. -/
structure EmptyRoot (root : List String) (disk : Disk) : Prop where
  distinct : (Dict.keys disk.files).Nodup
  nothing : ∀ path ∈ Dict.keys disk.files, ¬root <+: path

theorem EmptyRoot.represents (P : Platform) (h : EmptyRoot root disk) :
    Represents P root disk [] := by
  constructor
  · exact h.distinct
  · intro path hr
    apply Dict.lookup_eq_none_iff.2
    intro hp
    exact h.nothing path hp hr
  · exact List.nodup_nil
  all_goals
    intro p hp
    cases hp

/-- The canonical JSON text of an event. -/
def Event.canonicalJson (event : Event) : List Char :=
  ExternalIntelligence.canonicalJson (.dict event.canonicalDict)

/-- The size of a file in bytes, none having size 0. -/
def fileSize (disk : Disk) (path : List String) : Nat :=
  ((disk.files.lookup path).map fun content => Value.utf8Length content.fileText).getD 0

section

variable {log : List (List String × Event)} (hP : P.HexDigests) (h : Represents P root disk log)
include hP h

theorem Represents.mapM_read (paths : List (List String))
    (hpaths : ∀ path ∈ paths, ∃ event, (path, event) ∈ log) :
    ∃ events, paths.mapM (readEvent P false disk) = .ok events ∧
      events.map Event.entry =
        paths.map fun path => ((log.lookup path).map Event.entry).getD .none := by
  induction paths with
  | nil => exact ⟨[], rfl, rfl⟩
  | cons path paths ih =>
    obtain ⟨event, he⟩ := hpaths path List.mem_cons_self
    obtain ⟨events, hm, hmap⟩ := ih fun path hp => hpaths path (List.mem_cons_of_mem _ hp)
    refine ⟨(materialize P event).stored :: events, ?_, ?_⟩
    · rw [List.mapM_cons, h.read hP he, ok_bind, hm]
      rfl
    · have hentry : (materialize P event).stored.entry = event.entry :=
        (entry_of_sameEntry (sameEntry_stored _)).trans (entry_materialize P event)
      rw [List.map_cons, List.map_cons, hmap, hentry, Dict.lookup_of_mem h.paths he]
      rfl

theorem Represents.iterEvents_entries : ∃ events, iterEvents P root disk true = .ok events ∧
    (events.map Event.entry).Perm (log.map fun p => p.2.entry) := by
  obtain ⟨events, hm, hmap⟩ := h.mapM_read hP (jsonPaths root disk)
    fun path hp => h.mem_jsonPaths.1 hp
  refine ⟨events.insertionSort eventLe, ?_, ?_⟩
  · rw [iterEvents, hm]
    rfl
  · have hperm : (jsonPaths root disk).Perm (Dict.keys log) := by
      apply (List.perm_ext_iff_of_nodup _ h.paths).2
      · intro path
        rw [h.mem_jsonPaths, Dict.keys, List.mem_map]
        constructor
        · rintro ⟨event, he⟩
          exact ⟨(path, event), he, rfl⟩
        · rintro ⟨p, hp, rfl⟩
          exact ⟨p.2, hp⟩
      · rw [jsonPaths, (List.perm_insertionSort _ _).nodup_iff]
        exact h.distinct.filter _
    have hlog : (Dict.keys log).map (fun path => ((log.lookup path).map Event.entry).getD .none) =
        log.map fun p => p.2.entry := by
      rw [Dict.keys, List.map_map]
      apply List.map_congr_left
      intro p hp
      rw [Function.comp_apply, Dict.lookup_of_mem h.paths hp]
      rfl
    have hsort := (List.perm_insertionSort eventLe events).map Event.entry
    rw [hmap] at hsort
    exact hsort.trans (hlog ▸ hperm.map _)

theorem Represents.findDuplicate_found {m : Event} (paths : List (List String))
    (hpaths : ∀ path ∈ paths, ∃ event, (path, event) ∈ log) (hp : p ∈ log) (hpath : p.1 ∈ paths)
    (h2 : 2 ≤ p.2.schemaVersion) (hk : p.2.idempotencyKey = m.idempotencyKey)
    (hb : sameBasis (materialize P p.2).stored m = true) :
    findDuplicate P disk m paths = .ok (some p.1) := by
  induction paths with
  | nil => cases hpath
  | cons path paths ih =>
    obtain ⟨event, he⟩ := hpaths path List.mem_cons_self
    rw [findDuplicate, h.read hP he, ok_bind, stored_schemaVersion, materialize_schemaVersion]
    by_cases hsame : p.1 = path
    · have hpe : p = (path, event) := h.eq_of_path hp he hsame
      subst hpe
      simp only at h2
      have hkey : (materialize P event).stored.idempotencyKey = m.idempotencyKey := by
        rw [stored_of_v2 (by rwa [materialize_schemaVersion]), materialize_idempotencyKey]
        exact hk
      rw [if_neg (by simp only [hkey, ne_eq, not_true, or_false]; omega), if_pos hb]
    · have hrest : p.1 ∈ paths := (List.mem_cons.1 hpath).resolve_left hsame
      rw [if_pos, ih (fun path hp => hpaths path (List.mem_cons_of_mem _ hp)) hrest]
      by_cases hv : 2 ≤ event.schemaVersion
      · right
        rw [stored_of_v2 (by rwa [materialize_schemaVersion]), materialize_idempotencyKey]
        intro hkey
        exact hsame (h.keys p hp _ he h2 hv (hk.trans hkey.symm))
      · exact .inl (by omega)

/-- An event that counts as a stored one is accepted again, where that one is. -/
theorem Represents.append_again (hp : (path, first) ∈ log) (hentry : first.entry = event.entry)
    (hadm : admitEvent P event = .ok m) (hd : (Dict.keys event.payload).Nodup)
    (hi : (Dict.keys event.integrity).Nodup) (hplain : event.Plain) (ht : event.NoTuples)
    (stops : Bool) : (appendEvent P root disk event stops).1 = .ok path ∧
      (appendEvent P root disk event stops).2.files = disk.files := by
  have he := admitted_of_admission hadm hd hplain
  obtain ⟨rfl, _⟩ := admit_ok hadm
  have hs : SameEntry (materialize P first) (materialize P event) := by
    apply sameEntry_of_entry
    rw [entry_materialize, entry_materialize, hentry]
  have ht' : (materialize P event).NoTuples := by
    rwa [Event.NoTuples, materialize_payload]
  have hf := (h.admitted _ hp).1
  have hpath := (h.admitted _ hp).2
  have hok : (appendEvent P root disk event stops).1.isOk = true := by
    rw [appendEvent, hadm]
    by_cases h2 : 2 ≤ first.schemaVersion
    · have h2' : 2 ≤ (materialize P first).schemaVersion := by rwa [materialize_schemaVersion]
      have hk := hs.idempotencyKey h2'
      rw [materialize_idempotencyKey] at hk
      have hv := hs.schemaVersion ▸ h2'
      have hdup : existingDuplicate P root disk (materialize P event) = .ok (some path) := by
        have hne : (materialize P event).idempotencyKey ≠ "" := by
          intro hempty
          have := he.schema.idempotencyKey hv
          rw [hempty] at this
          exact absurd this (by decide)
        have hn : ¬((materialize P event).schemaVersion < 2 ∨
            (materialize P event).idempotencyKey = "") := by
          rintro (hlt | hempty)
          · omega
          · exact hne hempty
        rw [existingDuplicate, if_neg hn]
        exact h.findDuplicate_found hP _ (fun path hp => h.mem_jsonPaths.1 hp) hp
          (h.mem_jsonPaths.2 ⟨first, hp⟩) h2 hk (sameBasis_of_sameEntry hs hf he ht' h2')
      simp only [hdup]
      rfl
    · have h1 : ¬2 ≤ (materialize P first).schemaVersion := by rwa [materialize_schemaVersion]
      have hv := hs.schemaVersion ▸ h1
      have hdup : existingDuplicate P root disk (materialize P event) = .ok none := by
        rw [existingDuplicate, if_pos (.inl (by omega))]
      obtain ⟨partition, hpart, hpe⟩ := placeOf_eq_some hpath
      have hid := hs.eventId h1
      have hpart' : eventPartition P (materialize P event) = .ok partition := by
        rw [← hpart, eventPartition, eventPartition, ← hs.occurredAt, materialize_occurredAt]
      rw [materialize_eventId, materialize_eventId] at hid
      simp only [hdup, hpart', storeEvent, materialize_eventId,
        target_flat (noSlash_of_admitted he hplain)]
      have hfiles : (disk.makeDirectories (root ++ partition)).files = disk.files := rfl
      have hread := (h.congr hfiles).read hP hp
      have hlook := (h.congr hfiles).lookup_file hp
      simp only at hpe
      rw [hid] at hpe
      rw [← hpe]
      simp only [hread, hlook, Option.isSome_some, if_true,
        sameCanonicalDict_of_sameEntry hs he ht' h1]
      rfl
  have happ := appendEvent_appends hP h hd hi hplain stops
  generalize appendEvent P root disk event stops = r at happ hok
  cases happ with
  | refused hd => cases hok
  | held p hp' he' hd' =>
    have := h.path_of_entry hp' hp (he'.trans hentry.symm)
    exact ⟨congrArg _ this, hd'⟩
  | added hplace hnew hd' hr => exact absurd hentry (hnew _ hp)

end

theorem admission_of_appendEvent (h : (appendEvent P root disk event stops).1 = .ok path) :
    ∃ m, admitEvent P event = .ok m := by
  rw [appendEvent] at h
  cases ha : admitEvent P event with
  | error error =>
    rw [ha] at h
    cases h
  | ok m => exact ⟨m, rfl⟩

theorem canonicalJson_congr {a b : Event}
    (h : (Value.dict a.canonicalDict).canonical = (Value.dict b.canonicalDict).canonical) :
    a.canonicalJson = b.canonicalJson := by
  rw [Event.canonicalJson, Event.canonicalJson, canonicalJson, canonicalJson, h]

/-- Events that count as one and have one identifier, or are of version 1, are the same JSON. -/
theorem canonicalDict_of_entry (P : Platform) {a b : Event} (h : a.entry = b.entry)
    (hi : 2 ≤ a.schemaVersion → a.eventId = b.eventId)
    (hr : 2 ≤ a.schemaVersion → a.provenance = b.provenance) :
    (Value.dict (materialize P a).canonicalDict).canonical =
      (Value.dict (materialize P b).canonicalDict).canonical := by
  have hs := sameEntry_of_entry ((entry_materialize P a).trans (h.trans (entry_materialize P b).symm))
  have hid : (materialize P a).eventId = (materialize P b).eventId := by
    by_cases h2 : 2 ≤ a.schemaVersion
    · simpa using hi h2
    · exact hs.eventId (by rwa [materialize_schemaVersion])
  apply canonicalDict_of_sameEntry hs hid
  intro h2
  rw [materialize_schemaVersion] at h2
  have hb2 : 2 ≤ b.schemaVersion := (sameEntry_of_entry h).schemaVersion ▸ h2
  refine ⟨by simpa using hr h2, ?_⟩
  rw [integrity_materialize P h2, integrity_materialize P hb2, canonicalPayloadHash,
    canonicalPayloadHash, canonicalJson, canonicalJson, Value.canonical_dict, Value.canonical_dict,
    (sameEntry_of_entry h).payload]

theorem fileSize_eq {content : Value} (h : disk.files.lookup path = some content) :
    fileSize disk path = Value.utf8Length content.fileText := by
  rw [fileSize, h]
  rfl

/-- What is read from a path that a call has returned. -/
structure ReadsBack (P : Platform) (root : List String) (disk : Disk) (earlier : List Event)
    (event : Event) (path : List String) (stored : Event) : Prop where
  read : readEvent P false disk path = .ok stored
  bounded : fileSize disk path ≤ boundedEventBytes → readEvent P true disk path = .ok stored
  json : stored.canonicalJson = event.canonicalJson ∨
    ∃ first ∈ earlier, 2 ≤ first.schemaVersion ∧ first.eventId ≠ event.eventId ∧
      first.entry = event.entry ∧ stored.canonicalJson = first.canonicalJson
  again : event.NoTuples → ∀ stops, (appendEvent P root disk event stops).1 = .ok path ∧
    (appendEvent P root disk event stops).2.files = disk.files

theorem Represents.bounded {log : List (List String × Event)} (hP : P.HexDigests)
    (h : Represents P root disk log) (hp : (path, first) ∈ log)
    (hsize : fileSize disk path ≤ boundedEventBytes) :
    readEvent P true disk path = .ok (materialize P first).stored := by
  have hf := h.lookup_file hp
  rw [fileSize_eq hf] at hsize
  exact readEvent_bounded hP (h.admitted _ hp).1 hf hsize

theorem Represents.canonicalJson_stored {log : List (List String × Event)}
    (h : Represents P root disk log) (hp : (path, first) ∈ log) :
    (materialize P first).stored.canonicalJson = first.canonicalJson :=
  canonicalJson_congr ((canonicalDict_stored _).trans (h.json _ hp))

theorem Represents.readsBack {log : List (List String × Event)} {call : AppendCall} (hP : P.HexDigests)
    (h : Represents P root disk log) (hp : (path, first) ∈ log)
    (hentry : first.entry = call.event.entry) (hsource : first ∈ earlier ∨ first = call.event)
    (hadm : admitEvent P call.event = .ok m) (hcall : call.event.Plain) :
    ReadsBack P root disk earlier call.event path (materialize P first).stored := by
  have he := (h.admitted _ hp).1
  constructor
  case read => exact h.read hP hp
  case bounded => exact h.bounded hP hp
  case again =>
    intro ht stops
    exact h.append_again hP hp hentry hadm call.payloadKeys call.integrityKeys hcall ht stops
  case json =>
    rw [h.canonicalJson_stored hp]
    by_cases hid : 2 ≤ first.schemaVersion → first.eventId = call.event.eventId
    · left
      apply canonicalJson_congr
      rw [← h.json _ hp, ← canonicalDict_materialize hadm call.integrityKeys,
        (admit_ok hadm).1]
      apply canonicalDict_of_entry P hentry hid
      intro h2
      have hs := sameEntry_of_entry hentry
      have hr := hs.provenance h2
      have hft := he.texts (by rwa [materialize_schemaVersion])
      rw [materialize_provenance] at hft
      rwa [strings_canonical hft, strings_canonical (hcall.texts (hs.schemaVersion ▸ h2))] at hr
    · right
      rw [Classical.not_imp] at hid
      refine ⟨first, hsource.resolve_right ?_, hid.1, hid.2, hentry, rfl⟩
      rintro rfl
      exact hid.2 rfl

/-- A call that returned a path has its event read back from there ever after. -/
theorem Represents.accepted {log : List (List String × Event)} {call : AppendCall} (hP : P.HexDigests)
    (h : Represents P root disk log) (hlog : ∀ p ∈ log, p.2 ∈ earlier)
    (hcall : call.event.Plain) (hlater : ∀ c ∈ later, c.event.Plain)
    (hout : (appendEvent P root disk call.event call.stops).1 = .ok path) :
    ∃ stored, ReadsBack P root ((journal P root).after
      (appendEvent P root disk call.event call.stops).2 later) earlier call.event path stored := by
  obtain ⟨m, hadm⟩ := admission_of_appendEvent hout
  have happ := appendEvent_appends hP h call.payloadKeys call.integrityKeys hcall call.stops
  generalize appendEvent P root disk call.event call.stops = r at hout happ
  -- The event that the path holds, and the journal after the call.
  obtain ⟨first, log', hlog', hfirst, hentry, hsource⟩ : ∃ first log',
      Represents P root r.2 log' ∧ (path, first) ∈ log' ∧ first.entry = call.event.entry ∧
        (first ∈ earlier ∨ first = call.event) := by
    cases happ with
    | refused hd => cases hout
    | held p hp he hd =>
      cases hout
      exact ⟨p.2, log, h.congr hd, hp, he, .inl (hlog p hp)⟩
    | added hplace hnew hd hr =>
      cases hout
      exact ⟨call.event, _, hr, by simp, rfl, .inr rfl⟩
  obtain ⟨more, hfinal, _, _⟩ := after_represents hP hlog' hlater
  exact ⟨_, hfinal.readsBack hP (List.mem_append_left _ hfirst) hentry hsource hadm hcall⟩

/-- Every accepted event is read back, and accepted again, as itself or as the earlier event that
has its basis; the journal holds one event for each distinct accepted one. -/
theorem append_read_agree (P : Platform) (hP : P.HexDigests) (root : List String) (start : Disk)
    (hstart : EmptyRoot root start) (calls : List AppendCall)
    (hplain : ∀ call ∈ calls, call.event.Plain) :
    (∀ earlier call later path, calls = earlier ++ call :: later →
      (journal P root).output start earlier call = .ok path →
      ∃ stored, ReadsBack P root ((journal P root).after start calls)
        (acceptedEvents P root start earlier) call.event path stored) ∧
    ∃ events, iterEvents P root ((journal P root).after start calls) true = .ok events ∧
      (events.map Event.entry).Perm ((acceptedEvents P root start calls).map Event.entry).dedup := by
  constructor
  · rintro earlier call later path rfl hout
    have hbefore : ∀ c ∈ earlier, c.event.Plain := fun c hc => hplain c (by simp [hc])
    have hlater : ∀ c ∈ later, c.event.Plain := fun c hc => hplain c (by simp [hc])
    obtain ⟨log, hlog, hmem, _⟩ := after_represents hP (hstart.represents P) hbefore
    rw [List.nil_append] at hlog
    rw [Machine.after_append]
    exact hlog.accepted hP hmem (hplain call (by simp)) hlater hout
  · obtain ⟨log, hlog, hmem, hcov⟩ := after_represents hP (hstart.represents P) hplain
    rw [List.nil_append] at hlog
    obtain ⟨events, hiter, hperm⟩ := hlog.iterEvents_entries hP
    refine ⟨events, hiter, hperm.trans ?_⟩
    apply (List.perm_ext_iff_of_nodup hlog.entries_nodup (List.nodup_dedup _)).2
    intro entry
    rw [List.mem_dedup, List.mem_map, List.mem_map]
    constructor
    · rintro ⟨p, hp, rfl⟩
      exact ⟨p.2, hmem p hp, rfl⟩
    · rintro ⟨event, he, rfl⟩
      obtain ⟨p, hp, hentry⟩ := hcov event he
      exact ⟨p, by simpa using hp, hentry⟩

theorem utf8Length_quote (s : String) : (Text.chars s).length ≤ Value.utf8Length (Value.quote s) := by
  have h (cs : List Char) : cs.length ≤ Value.utf8Length (cs.flatMap Value.escape) := by
    induction cs with
    | nil => exact Nat.le_refl _
    | cons c cs ih =>
      have hc : 1 ≤ Value.utf8Length (Value.escape c) := by
        have hone (d : Char) (ds : List Char) : 1 ≤ Value.utf8Length (d :: ds) := by
          rw [Value.utf8Length_cons]
          have := Char.utf8Size_pos d
          omega
        unfold Value.escape
        repeat' split
        all_goals exact hone _ _
      rw [List.flatMap_cons, Value.utf8Length_append, List.length_cons]
      omega
  rw [Value.quote, Value.utf8Length_append, Value.utf8Length_append]
  have := h (Text.chars s)
  omega

theorem utf8Length_dumpIndentFields {fields : List (String × Value)} (level : Nat)
    (h : p ∈ fields) :
    Value.utf8Length (Value.dumpIndent level p.2) ≤
      Value.utf8Length (Value.dumpIndentFields level fields) := by
  induction fields with
  | nil => cases h
  | cons q fields ih =>
    have hq : Value.utf8Length (Value.dumpIndent level q.2) ≤
        Value.utf8Length (Value.dumpIndentFields level (q :: fields)) := by
      cases fields with
      | nil => simp only [Value.dumpIndentFields, Value.utf8Length_append]; omega
      | cons r fields => simp only [Value.dumpIndentFields, Value.utf8Length_append]; omega
    rcases List.mem_cons.1 h with rfl | h
    · exact hq
    · have := ih h
      cases fields with
      | nil => cases h
      | cons r fields =>
        rw [Value.dumpIndentFields]
        · simp only [Value.utf8Length_append]
          omega
        · simp

/-- The file of an event is at least as long as the name of its actor. -/
theorem actor_length_le (event : Event) :
    (Text.chars event.actor).length ≤ Value.utf8Length event.content.fileText := by
  have hm : ("actor", Value.str event.actor) ∈ Value.canonicalObject event.toDict := by
    rw [Value.mem_canonicalObject]
    refine ⟨("actor", .str event.actor), ?_, rfl⟩
    simp [Event.toDict, Event.canonicalDict]
  have hd : Value.dumpIndent 0 (.dict (Value.canonicalObject event.toDict)) =
      ['\x7b'] ++ Value.dumpIndentFields 1 (Value.canonicalObject event.toDict) ++
        Value.newLine 0 ++ ['\x7d'] := by
    cases hc : Value.canonicalObject event.toDict with
    | nil =>
      rw [hc] at hm
      cases hm
    | cons q fields => rfl
  have hf := utf8Length_dumpIndentFields 1 hm
  have hq := utf8Length_quote event.actor
  rw [Value.fileText, content_eq, ← content_eq, Event.content, Value.canonical_canonical,
    ← Event.content, content_eq, hd]
  simp only [Value.utf8Length_append]
  have he : Value.dumpIndent 1 (.str event.actor) = Value.quote event.actor := by
    simp [Value.dumpIndent, Value.dump]
  rw [he] at hf
  omega

def sampleNote : Event where
  eventId := "evt_note"
  eventType := "note.added"
  occurredAt := "2026-07-20T10:00:00Z"
  actor := "curator"
  machineId := "machine"
  payload := []

def sampleNoteV2 (eventId : String) (provenance : List Value) : Event :=
  { sampleNote with
    eventId
    schemaVersion := 2
    idempotencyKey := "sha256:" ++ String.ofList (List.replicate 64 'a')
    provenance
    integrity := [("algorithm", .str "sha256"),
      ("canonical_payload_hash", .str (canonicalPayloadHash samplePlatform sampleNote.payload))] }

def callOf (event : Event) (payloadKeys : (Dict.keys event.payload).Nodup)
    (integrityKeys : (Dict.keys event.integrity).Nodup) : AppendCall :=
  ⟨event, false, payloadKeys, integrityKeys⟩

def callV2 (eventId : String) (provenance : List Value) : AppendCall :=
  callOf (sampleNoteV2 eventId provenance) List.nodup_nil
    (by decide : (["algorithm", "canonical_payload_hash"] : List String).Nodup)

def noteOf (actor : String) : Event :=
  { sampleNote with actor }

theorem append_read_agree_sample : ∃ events,
    iterEvents samplePlatform ["events"] ((journal samplePlatform ["events"]).after {}
      [callV2 "evt_20260720T100000Z_0123456789ab" [.str "a"],
        callV2 "evt_20260720T100000Z_0123456789ac" [.str "a"]]) true = .ok events ∧
    (events.map Event.entry).Perm ((acceptedEvents samplePlatform ["events"] {}
      [callV2 "evt_20260720T100000Z_0123456789ab" [.str "a"],
        callV2 "evt_20260720T100000Z_0123456789ac" [.str "a"]]).map Event.entry).dedup := by
  apply And.right
  apply append_read_agree samplePlatform samplePlatform_hexDigests ["events"] {}
  · exact ⟨List.nodup_nil, fun path hp => absurd hp List.not_mem_nil⟩
  · intro call hc
    simp only [List.mem_cons, List.not_mem_nil, or_false] at hc
    rcases hc with rfl | rfl
    all_goals
      refine ⟨fun h => absurd h (by decide), fun _ v hv => ⟨"a", by decide, ?_⟩⟩
      exact List.mem_singleton.1 hv

theorem admit_noteOf (ha : actor ≠ "") :
    admitEvent samplePlatform (noteOf actor) = .ok (materialize samplePlatform (noteOf actor)) := by
  have hs : SchemaOk samplePlatform (materialize samplePlatform (noteOf actor)) := by
    constructor
    case version => exact .inl rfl
    case eventId => exact (by decide : "evt_note" ≠ "")
    case eventType => exact (by decide : "note.added" ≠ "")
    case actor => exact ha
    case machineId => exact (by decide : "machine" ≠ "")
    case payload => exact (by decide : 2 ≤ maxEventPayloadBytes)
    all_goals
      intro h
      exact absurd h (by decide : ¬(2 : Int) ≤ 1)
  have hp : validatePersistedEventPayload samplePlatform
      (materialize samplePlatform (noteOf actor)) = .ok () := by
    rw [validatePersistedEventPayload_ok]
    have hi : inspectEventPayload samplePlatform (.dict []) "private-reusable" = [] := by
      decide
    exact ⟨hi, inspectEventPayload_nil _⟩
  have hv : ¬2 ≤ (noteOf actor).schemaVersion := (by decide : ¬(2 : Int) ≤ 1)
  rw [admitEvent, if_neg hv, validateSchema_ok.2 hs, ok_bind, hp, ok_bind]
  rfl

def notePath : List String :=
  ["events", "2026", "07", "evt_note.json"]

theorem appendEvent_noteOf (ha : actor ≠ "") :
    (appendEvent samplePlatform ["events"] {} (noteOf actor) false).1 = .ok notePath ∧
    (appendEvent samplePlatform ["events"] {} (noteOf actor) false).2.files =
      [(notePath, (materialize samplePlatform (noteOf actor)).content)] := by
  have hdup : existingDuplicate samplePlatform ["events"] {}
      (materialize samplePlatform (noteOf actor)) = .ok none := by
    rw [existingDuplicate, if_pos (.inl (by decide : (1 : Int) < 2))]
  have hpart : eventPartition samplePlatform (materialize samplePlatform (noteOf actor)) =
      .ok ["2026", "07"] := by
    have ho : (noteOf actor).occurredAt = "2026-07-20T10:00:00Z" := rfl
    rw [eventPartition, materialize_occurredAt, ho]
    decide
  have hid : (noteOf actor).eventId = "evt_note" := rfl
  have hn : '/' ∉ Text.chars "evt_note" := by decide
  rw [appendEvent, admit_noteOf ha]
  simp only [hdup, hpart, storeEvent, materialize_eventId, hid, target_flat hn]
  exact ⟨rfl, rfl⟩

/-- An accepted event that a reader with a budget refuses for its size. -/
theorem bounded_read_refuses (ha : boundedEventBytes < (Text.chars actor).length) :
    readEvent samplePlatform true
      (appendEvent samplePlatform ["events"] {} (noteOf actor) false).2 notePath =
        .error journalLimitError := by
  have hne : actor ≠ "" := by
    rintro rfl
    exact absurd ha (by decide)
  have hf : (appendEvent samplePlatform ["events"] {} (noteOf actor) false).2.files.lookup
      notePath = some (materialize samplePlatform (noteOf actor)).content := by
    rw [(appendEvent_noteOf hne).2]
    exact Dict.lookup_of_mem (by simp [Dict.keys]) (by simp)
  have hl := actor_length_le (materialize samplePlatform (noteOf actor))
  have hb : decide (boundedEventBytes < Value.utf8Length
      (materialize samplePlatform (noteOf actor)).content.fileText) = true := by
    apply decide_eq_true
    exact lt_of_lt_of_le ha hl
  rw [readEvent, hf]
  simp only [hb, Bool.and_self, if_true]

/-- A version 1 event with an id and a payload of its own. -/
def callV1 (eventId : String) (scopes : Value) : AppendCall :=
  callOf { sampleNote with eventId, payload := [("scopes", scopes)] }
    (by decide : (["scopes"] : List String).Nodup) List.nodup_nil

/-- Appending and reading disagree: on a second event with a stored basis, on an event larger than
a reader with a budget takes, on an empty provenance, on a tuple and on an id that is a path. -/
theorem append_read_disagree :
    (((journal samplePlatform ["events"]).output {}
        [callV2 "evt_20260720T100000Z_0123456789ab" []]
        (callV2 "evt_20260720T100000Z_0123456789ac" [])).isOk = true ∧
      (iterEvents samplePlatform ["events"] ((journal samplePlatform ["events"]).after {}
        [callV2 "evt_20260720T100000Z_0123456789ab" [],
          callV2 "evt_20260720T100000Z_0123456789ac" []]) true).map (List.map Event.eventId) =
        .ok ["evt_20260720T100000Z_0123456789ab"]) ∧
    readEvent samplePlatform true (appendEvent samplePlatform ["events"] {}
        (noteOf (String.ofList (List.replicate 8388609 'a'))) false).2 notePath =
      .error journalLimitError ∧
    (((journal samplePlatform ["events"]).output {} []
        (callV2 "evt_20260720T100000Z_0123456789ab" [.str ""])).isOk = true ∧
      (iterEvents samplePlatform ["events"] ((journal samplePlatform ["events"]).after {}
        [callV2 "evt_20260720T100000Z_0123456789ab" [.str ""]]) true).isOk = false) ∧
    (((journal samplePlatform ["events"]).output {} []
        (callV1 "evt_note" (.tuple [.str "docs"]))).isOk = true ∧
      ((journal samplePlatform ["events"]).output {} [callV1 "evt_note" (.tuple [.str "docs"])]
        (callV1 "evt_note" (.tuple [.str "docs"]))).isOk = false) ∧
    ((journal samplePlatform ["events"]).output {} []
        (callV1 "../../../note" (.list []))).isOk = true ∧
      iterEvents samplePlatform ["events"] ((journal samplePlatform ["events"]).after {}
        [callV1 "../../../note" (.list [])]) true = .ok [] := by
  refine ⟨⟨?_, ?_⟩, ?_, ⟨?_, ?_⟩, ⟨?_, ?_⟩, ?_, ?_⟩
  · decide +kernel
  · decide +kernel
  · apply bounded_read_refuses
    rw [Text.chars_eq_toList, String.toList_ofList, List.length_replicate]
    decide
  · decide
  · decide +kernel
  · decide
  · decide +kernel
  · decide
  · decide

end ExternalIntelligence
