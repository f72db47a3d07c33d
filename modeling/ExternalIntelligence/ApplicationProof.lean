import ExternalIntelligence.ChangesetMapping
import ExternalIntelligence.EventFileSize
import ExternalIntelligence.ExactVisibility
import Mathlib.Algebra.Order.BigOperators.Group.List
import Mathlib.Tactic.Linarith

namespace ExternalIntelligence
set_option autoImplicit true

/-- The machine is named by the start of a digest. -/
def Platform.MachineDigest (P : Platform) : Prop :=
  ∃ source, P.machineId = takeText 12 (P.sha256 source)

theorem takeText_length (n : Nat) (s : String) : (Text.chars (takeText n s)).length ≤ n := by
  simp only [takeText, Text.chars_eq_toList, String.toList_ofList, List.length_take]
  omega

theorem sha256_length {P : Platform} (hP : P.HexDigests) (text : List Char) :
    (Text.chars (P.sha256 text)).length = 64 := by
  have hd := hP text
  simp only [isDigest, Bool.and_eq_true, beq_iff_eq] at hd
  exact hd.1

theorem changesetEventId_length (P : Platform) (basis : Fields) :
    (Text.chars (changesetEventId P basis)).length ≤ 46 := by
  have hprefix : (Text.chars "evt_changeset_").length = 14 := by decide
  rw [chars_changesetEventId, List.length_append, List.length_take, hprefix]
  omega

/-- The time of an accepted changeset is no longer than the changeset. -/
theorem generatedAt_length (h : documentReasons P S policy value = []) :
    Value.utf8Length (Value.quote value.generatedAt) ≤ 512 * 1024 := by
  unfold documentReasons at h
  simp only [List.append_eq_nil_iff, reasonCodes_eq_nil, and_assoc] at h
  obtain ⟨_, _, _, hinspect, _⟩ := h
  have hsize := (inspectPersistable_eq_nil.1 hinspect).1
  have hm : ("generated_at", Value.str value.generatedAt) ∈ value.toDict := by
    simp [ChangeSet.toDict]
  have hsum := List.single_le_sum (fun _ _ => Nat.zero_le _) _
    (List.mem_map_of_mem (f := Value.fieldLength) hm)
  rw [Value.utf8Length_dump_dict, Value.utf8Length_dumpFields] at hsize
  simp only [Value.fieldLength, Value.dump] at hsum
  omega

/-- The names of a built event are short. -/
theorem builtFor_short (hb : BuiltBy P changeset events) (he : e ∈ builtFor P changeset events) :
    (Text.chars e.eventId).length ≤ 46 ∧ (Text.chars e.eventType).length ≤ 40 := by
  obtain ⟨st, hb⟩ := hb.built
  rcases List.mem_append.1 he with he | he
  · obtain ⟨i, operation, st', _, hof⟩ := buildEvents_mem hb he
    obtain ⟨type, payload, hp, rfl⟩ := hof.built
    have htype := (eventPayload_built hp).1
    have hshort : ∀ o : Operation, ∀ type ∈ permittedEventTypes o,
        (Text.chars type).length ≤ 40 := by
      intro o
      cases o <;> decide
    exact ⟨changesetEventId_length P _, hshort _ _ htype⟩
  · rw [List.mem_singleton.1 he]
    refine ⟨changesetEventId_length P _, ?_⟩
    simp only [markerEvent, changesetEvent]
    decide

theorem eventPath_of_month {id : String} (h : monthOf P time = some partition) :
    eventPath P S time id = .ok (S.eventDir ++ partition ++ [id ++ ".json"]) := by
  rw [monthOf, eventPartition] at h
  rw [eventPath, eventPartition]
  simp only at h ⊢
  cases hm : P.fromisoformat time with
  | none =>
    rw [hm] at h
    cases h
  | some moment =>
    rw [hm] at h
    cases h
    rfl

section

variable {P : Platform} {S : ChangesetSettings} {log : List (List String × Event)} {changeset : ChangeSet}
  {events : List Event} {q : List String × Event}

/-- A built event is found in the month of its changeset. -/
theorem eventPath_built (h : Represents P S.eventDir disk log)
    (hw : WrittenFor P changeset e) (hq : q ∈ log) (hentry : q.2.entry = e.entry) :
    eventPath P S changeset.generatedAt e.eventId = .ok q.1 := by
  have hs := sameEntry_of_entry hentry
  have hid : q.2.eventId = e.eventId := by
    apply hs.eventId
    rw [hs.schemaVersion, hw.schemaVersion]
    omega
  have hplace := (h.admitted q hq).2
  rw [placeOf_eq, hs.occurredAt, hw.occurredAt, hid] at hplace
  obtain ⟨partition, hm, hpath⟩ := Option.map_eq_some_iff.1 hplace
  rw [eventPath_of_month hm, ← hpath]

/-- The bounded reader reads every event of an accepted changeset. -/
theorem readEvent_built (hP : P.HexDigests) (hM : P.MachineDigest)
    (h : Represents P S.eventDir disk log) (hd : documentReasons P S policy changeset = [])
    (hb : BuiltBy P changeset events) (he : e ∈ builtFor P changeset events)
    (hw : WrittenFor P changeset e) (hq : q ∈ log) (hentry : q.2.entry = e.entry) :
    readEvent P true disk q.1 = .ok (readBack P q.2) := by
  have hs := sameEntry_of_entry hentry
  have hm := sameEntry_materialize P q.2
  have hversion : q.2.schemaVersion = 1 := by
    rw [hs.schemaVersion, hw.schemaVersion]
  have hid : q.2.eventId = e.eventId := by
    apply hs.eventId
    omega
  apply h.bounded hP hq
  rw [fileSize_eq (h.lookup_file hq)]
  have hfile := utf8Length_eventFile (h.admitted q hq).1 (by rw [materialize_schemaVersion, hversion])
  obtain ⟨heid, htype⟩ := builtFor_short hb he
  have htime := generatedAt_length hd
  have hactor : (Text.chars "external-intelligence").length = 21 := by decide
  obtain ⟨source, hmachine⟩ := hM
  have hmlength := takeText_length 12 (P.sha256 source)
  rw [materialize_occurredAt, materialize_eventId, hm.eventType, hm.actor, hm.machineId,
    digest_materialize, eventIntegrity, sha256_length hP, hs.occurredAt, hid,
    hs.eventType, hs.actor, hs.machineId, hw.occurredAt, hw.actor, hw.machineId, hactor,
    hmachine] at hfile
  generalize (Text.chars (takeText 12 (P.sha256 source))).length = machine at hfile hmlength
  generalize (Text.chars e.eventId).length = eventId at hfile heid
  generalize (Text.chars e.eventType).length = eventType at hfile htype
  generalize Value.utf8Length (Value.quote changeset.generatedAt) = time at hfile htime
  generalize Value.utf8Length (materialize P q.2).content.fileText = size at hfile ⊢
  simp only [boundedEventBytes, maxEventPayloadBytes] at hfile ⊢
  linarith

end

/-- What the id of an operation's event is a hash of. -/
def operationBasis (changesetId : String) (index : Nat) (operation : ChangeOperation) : Value :=
  .dict [("changeset_id", .str changesetId), ("index", .int index),
    ("operation", .dict operation.toDict)]

def operationBases (changeset : ChangeSet) : List Value :=
  changeset.operations.mapIdx (operationBasis changeset.changesetId)

/-- No two of the values have hashes that start alike. -/
def CollisionFree (P : Platform) (values : List Value) : Prop :=
  ∀ a ∈ values, ∀ b ∈ values,
    takeText 32 (stableHash P a) = takeText 32 (stableHash P b) → a.canonical = b.canonical

theorem string_append_left_cancel {a b c : String} (h : a ++ b = a ++ c) : b = c := by
  have hl := congrArg String.toList h
  rw [String.toList_append, String.toList_append, List.append_cancel_left_eq] at hl
  exact String.toList_inj.1 hl

theorem operationEventId_inj (h : CollisionFree P values)
    (ha : operationBasis id₁ i a ∈ values) (hb : operationBasis id₂ j b ∈ values)
    (he : changesetOperationEventId P id₁ i a = changesetOperationEventId P id₂ j b) :
    id₁ = id₂ ∧ i = j ∧ (Value.dict a.toDict).canonical = (Value.dict b.toDict).canonical := by
  have hhash : takeText 32 (stableHash P (operationBasis id₁ i a)) =
      takeText 32 (stableHash P (operationBasis id₂ j b)) := string_append_left_cancel he
  have hc := h _ ha _ hb hhash
  rw [operationBasis, operationBasis, Value.canonical_dict, Value.canonical_dict,
    Value.dict.injEq] at hc
  have hl : ∀ name, (List.lookup name [("changeset_id", Value.str id₁), ("index", .int i),
      ("operation", .dict a.toDict)]).map Value.canonical =
        (List.lookup name [("changeset_id", Value.str id₂), ("index", .int j),
          ("operation", .dict b.toDict)]).map Value.canonical := by
    intro name
    rw [← Value.lookup_canonicalObject (by simp [Dict.keys]),
      ← Value.lookup_canonicalObject (by simp [Dict.keys]), hc]
  refine ⟨?_, ?_, ?_⟩
  · simpa [Value.canonical_str] using hl "changeset_id"
  · simpa [Value.canonical] using hl "index"
  · simpa using hl "operation"

theorem operationIds_nodup (h : CollisionFree P (operationBases changeset)) :
    (changeset.operations.mapIdx (changesetOperationEventId P changeset.changesetId)).Nodup := by
  rw [List.Nodup, List.pairwise_iff_getElem]
  intro i j hi hj hij he
  rw [List.length_mapIdx] at hi hj
  rw [List.getElem_mapIdx, List.getElem_mapIdx] at he
  have hmem : ∀ k, (hk : k < changeset.operations.length) →
      operationBasis changeset.changesetId k changeset.operations[k] ∈
        operationBases changeset := by
    intro k hk
    rw [operationBases, List.mem_mapIdx]
    exact ⟨k, hk, rfl⟩
  have heq := (operationEventId_inj h (hmem i hi) (hmem j hj) he).2.1
  omega

theorem isApplicationMarkerId_changesetEventId (hP : P.HexDigests) (basis : Fields) :
    isApplicationMarkerId (changesetEventId P basis) = true := by
  have hd := hP (canonicalJson (.dict basis))
  simp only [isDigest, Bool.and_eq_true, beq_iff_eq, List.all_eq_true] at hd
  obtain ⟨hlength, hhex⟩ := hd
  have hprefix : (Text.chars "evt_changeset_").length = 14 := by decide
  rw [isApplicationMarkerId, chars_changesetEventId, List.drop_left' hprefix,
    List.take_left' hprefix]
  simp only [beq_self_eq_true, Bool.true_and, Bool.and_eq_true, beq_iff_eq, List.all_eq_true,
    List.length_take, hlength]
  refine ⟨by omega, fun c hc => ?_⟩
  exact hhex c (List.mem_of_mem_take hc)

theorem isHash_fingerprint (hP : P.HexDigests) (changeset : ChangeSet) :
    isHash (changeset.fingerprint P) = true :=
  isHash_of_isDigest (hP _)

/-- The reference that an application returns. -/
def refOf (P : Platform) (changeset : ChangeSet) (ids : List String) : AppliedMarkerRef :=
  ⟨(markerEvent P changeset ids).eventId, changeset.generatedAt, changeset.fingerprint P⟩

theorem applicationRef_markerEvent (hP : P.HexDigests) (h : WellFormed P changeset)
    (ids : List String) :
    applicationRef P (markerEvent P changeset ids) = some (refOf P changeset ids) := by
  obtain ⟨moment, hm⟩ := h.generatedAt
  have hhash : (markerEvent P changeset ids).payload.lookup "changeset_hash" =
      some (.str (changeset.fingerprint P)) := rfl
  have hid : isApplicationMarkerId (markerEvent P changeset ids).eventId = true :=
    isApplicationMarkerId_changesetEventId hP _
  have htime : (timestamp P (markerEvent P changeset ids).occurredAt).isOk = true :=
    congrArg Except.isOk hm
  rw [applicationRef, hhash]
  simp only [hid, htime, isHash_fingerprint hP, Bool.and_self, if_true]
  rfl

/-- A changeset whose marker and events are all in a journal. -/
structure Landed (P : Platform) (S : ChangesetSettings) (log : List (List String × Event))
    (changeset : ChangeSet) (events : List Event) : Prop where
  wellFormed : WellFormed P changeset
  attempt : ∃ existing st before, Attempt P S before changeset existing st events
  stored : ∀ e ∈ builtFor P changeset events, ∃ q ∈ log, q.2.entry = e.entry

theorem canonical_ofStrings (xs : List String) :
    (Value.ofStrings xs).canonical = .ofStrings xs := by
  rw [Value.ofStrings, Value.canonical_list, Value.map_canonical_str]

theorem markerPayload_distinct (P : Platform) (changeset : ChangeSet) (ids : List String) :
    (Dict.keys (markerPayload P changeset ids)).Nodup := by
  simp [markerPayload, Dict.keys]

theorem canonicalObject_markerPayload (P : Platform) (changeset : ChangeSet)
    (ids : List String) : Value.canonicalObject (markerPayload P changeset ids) =
      Value.sortFields (markerPayload P changeset ids) := by
  rw [Value.canonicalObject]
  simp only [markerPayload, List.map_cons, List.map_nil, canonical_ofStrings, Value.canonical_str,
    Value.canonical_int]

/-- The id of a marker does not depend on the order of its payload. -/
theorem markerId_canonicalObject (P : Platform) (changesetId : String) (payload : Fields) :
    changesetApplicationMarkerId P changesetId (Value.canonicalObject payload) =
      changesetApplicationMarkerId P changesetId payload := by
  have hc : (Value.dict [("changeset_id", .str changesetId),
      ("marker", .dict (Value.canonicalObject payload))]).canonical =
      (Value.dict [("changeset_id", .str changesetId), ("marker", .dict payload)]).canonical := by
    have hsorted : ∀ v, Value.canonicalObject [("changeset_id", .str changesetId), ("marker", v)] =
        Value.sortFields [("changeset_id", .str changesetId), ("marker", v.canonical)] :=
      fun _ => rfl
    rw [Value.canonical_dict, Value.canonical_dict, hsorted, hsorted, Value.canonical_dict,
      Value.canonical_dict, Value.canonicalObject_canonicalObject]
  have hs : stableHash P (.dict [("changeset_id", .str changesetId),
      ("marker", .dict (Value.canonicalObject payload))]) =
      stableHash P (.dict [("changeset_id", .str changesetId), ("marker", .dict payload)]) := by
    rw [stableHash, stableHash, canonicalJson, canonicalJson, hc]
    · simp
    · simp
  rw [changesetApplicationMarkerId, changesetApplicationMarkerId, changesetEventId,
    changesetEventId, hs]

section

variable {P : Platform} {S : ChangesetSettings} {log : List (List String × Event)}
  {changeset : ChangeSet} {events : List Event}

theorem Landed.builtBy (h : Landed P S log changeset events) : BuiltBy P changeset events := by
  obtain ⟨existing, st, before, hatt⟩ := h.attempt
  exact ⟨st, hatt.built⟩

theorem Landed.accepted (h : Landed P S log changeset events) :
    (∃ policy, documentReasons P S policy changeset = []) ∧
    ∀ operation ∈ changeset.operations, Sound P changeset operation := by
  obtain ⟨existing, st, before, hatt⟩ := h.attempt
  obtain ⟨result, hv, hvalid⟩ := hatt.valid
  obtain ⟨policy, _, _, _, _, _, _, hd, hrun⟩ := validateChangeset_valid hv hvalid
  refine ⟨⟨policy, hd⟩, fun operation ho => ?_⟩
  obtain ⟨loop, loop', hacc⟩ := hrun.accepts operation ho
  exact hacc.sound

/-- Every event of a changeset that landed is read where the proof looks for it. -/
theorem Landed.read (hP : P.HexDigests) (hM : P.MachineDigest)
    (hr : Represents P S.eventDir disk log) (h : Landed P S log changeset events)
    (he : e ∈ builtFor P changeset events) :
    ∃ path read, eventPath P S changeset.generatedAt e.eventId = .ok path ∧
      readEvent P true disk path = .ok read ∧ read.eventId = e.eventId ∧
      read.eventType = e.eventType ∧ read.occurredAt = changeset.generatedAt ∧
      read.actor = "external-intelligence" ∧
      read.payload = Value.canonicalObject e.payload := by
  obtain ⟨q, hq, hentry⟩ := h.stored e he
  obtain ⟨existing, st, before, hatt⟩ := h.attempt
  have hw := hatt.writtenFor hP e he
  obtain ⟨⟨policy, hd⟩, _⟩ := h.accepted
  have hs := sameEntry_of_entry hentry
  have hid : q.2.eventId = e.eventId := by
    apply hs.eventId
    rw [hs.schemaVersion, hw.schemaVersion]
    omega
  refine ⟨q.1, readBack P q.2, eventPath_built hr hw hq hentry,
    readEvent_built hP hM hr hd h.builtBy he hw hq hentry, ?_, ?_, ?_, ?_, ?_⟩
  · rw [readBack_eventId, hid]
  · rw [readBack_eventType, hs.eventType]
  · rw [readBack_occurredAt, hs.occurredAt, hw.occurredAt]
  · rw [readBack_actor, hs.actor, hw.actor]
  · rw [readBack_payload, hs.payload]

/-- The stored marker passes the checks, whatever time the changeset is given with. -/
theorem checkMarker_landed {read : Event} (h : Landed P S log changeset events)
    (hids : (changeset.operations.mapIdx
      (changesetOperationEventId P changeset.changesetId)).Nodup) (time : String)
    (hid : read.eventId = (markerEvent P changeset (events.map Event.eventId)).eventId)
    (htype : isMarker read) (htime : read.occurredAt = changeset.generatedAt)
    (hactor : read.actor = "external-intelligence")
    (hpayload : read.payload =
      Value.canonicalObject (markerPayload P changeset (events.map Event.eventId))) :
    checkMarker P { changeset with generatedAt := time }
      (refOf P changeset (events.map Event.eventId)) read = .ok () := by
  obtain ⟨st, hbuilt⟩ := h.builtBy.built
  have hbuilt' := buildEvents_mapIdx hbuilt
  have hlookup : read.payload.lookup "changeset_hash" =
      some (.str (changeset.fingerprint P)) := by
    rw [hpayload, Value.lookup_canonicalObject (markerPayload_distinct P changeset _)]
    simp [markerPayload, Value.canonical_str]
  have hset : Dict.set "changeset_hash" (.str (changeset.fingerprint P))
      (markerPayload P { changeset with generatedAt := time } (events.map Event.eventId)) =
        markerPayload P changeset (events.map Event.eventId) := by
    simp [markerPayload, Dict.set]
  have hfields : sameFields read.payload
      (markerPayload P changeset (events.map Event.eventId)) = true := by
    rw [sameFields, hpayload, canonicalObject_markerPayload, Value.sortFields_sortFields,
      beq_self_eq_true]
  have hmarkerId : changesetApplicationMarkerId P changeset.changesetId read.payload =
      read.eventId := by
    rw [hpayload, markerId_canonicalObject, hid]
    rfl
  rw [hbuilt'] at hids
  unfold checkMarker
  simp only [refOf, hbuilt', hlookup, hset, hfields, hmarkerId, htype, hid, htime, hactor,
    postInit_ok.2 h.wellFormed, refuse_bind_ok, ok_bind]
  simp [hids]

/-- The stored event of each operation passes the checks. -/
theorem checkOperation_landed (hP : P.HexDigests) (hM : P.MachineDigest)
    (hr : Represents P S.eventDir disk log) (h : Landed P S log changeset events) (time : String)
    (hi : changeset.operations[i]? = some operation) :
    checkOperation P S disk { changeset with generatedAt := time } changeset.generatedAt
      (operation, i) = .ok () := by
  obtain ⟨st, hbuilt⟩ := h.builtBy.built
  obtain ⟨hlength, hevents⟩ := buildEvents_events hbuilt
  have hlt : i < events.length := by
    rw [hlength]
    exact (List.getElem?_eq_some_iff.1 hi).1
  obtain ⟨st', hof⟩ := hevents i operation events[i] hi (List.getElem?_eq_getElem hlt)
  rw [Nat.zero_add] at hof
  obtain ⟨path, read, hpath, hread, hid, htype, htime, hactor, hpayload⟩ :=
    h.read hP hM hr (List.mem_append_left _ (List.getElem_mem hlt))
  rw [hof.eventId] at hpath hid
  obtain ⟨type, payload, hp, hevent⟩ := hof.built
  obtain ⟨htypes, hb⟩ := eventPayload_built hp
  obtain ⟨h₁, h₂, h₃, h₄, h₅, h₆⟩ := lookup_commonPayload P changeset operation
    ((targetState st' operation.targetId).getD [])
  rw [hevent] at htype hpayload
  simp only [changesetEvent] at htype hpayload
  have hfield : ∀ name ∈ operationFields, read.payload.lookup name =
      ((commonPayload P changeset operation
        ((targetState st' operation.targetId).getD [])).lookup name).map Value.canonical := by
    intro name hn
    rw [hpayload, Value.lookup_canonicalObject hb.distinct, hb.named name hn]
  unfold checkOperation
  simp only [hpath, hread, ok_bind]
  rw [checkOperationEvent, refuse_ok]
  simp only [hid, htime, hactor, htype, hfield "changeset_id" (by decide),
    hfield "candidate_id" (by decide), hfield "change_operation" (by decide),
    hfield "policy_version" (by decide), hfield "provider_id" (by decide),
    hfield "source_hashes" (by decide), h₁, h₂, h₃, h₄, h₅, h₆, Option.map_some,
    Value.canonical_str, canonical_ofStrings, List.contains_iff_mem.2 htypes]
  simp

/-- The proof of a changeset that landed verifies, whatever time the changeset is given with. -/
theorem verifyApplication_landed (hP : P.HexDigests) (hM : P.MachineDigest)
    (hr : Represents P S.eventDir disk log) (h : Landed P S log changeset events)
    (hc : CollisionFree P (operationBases changeset))
    (ht : timestamp P time = .ok moment) :
    verifyApplication P S disk { changeset with generatedAt := time }
      (refOf P changeset (events.map Event.eventId)) =
        .ok (events.map Event.eventId ++
          [(markerEvent P changeset (events.map Event.eventId)).eventId]) := by
  obtain ⟨st, hbuilt⟩ := h.builtBy.built
  have hids := operationIds_nodup hc
  have hbuilt' := buildEvents_mapIdx hbuilt
  obtain ⟨m, hgenerated⟩ := h.wellFormed.generatedAt
  obtain ⟨path, read, hpath, hread, hid, htype, htime, hactor, hpayload⟩ :=
    h.read hP hM hr (List.mem_append_right _ List.mem_cons_self)
  have hmapping : ChangeSet.fromMapping P
      (ChangeSet.toDict { changeset with generatedAt := time }) =
        .ok { changeset with generatedAt := time } := by
    apply fromMapping_toDict (h.wellFormed.at ht)
    intro operation ho
    have hs := h.accepted.2 operation ho
    exact ⟨hs.inspected, hs.target, hs.actor⟩
  have hmark : isMarker read = true := by
    rw [isMarker, htype]
    exact isMarker_markerEvent P changeset _
  have hchecked := checkMarker_landed h hids time hid hmark htime hactor hpayload
  have hoperations : changeset.operations.zipIdx.forM
      (checkOperation P S disk { changeset with generatedAt := time } changeset.generatedAt) =
        .ok () := by
    apply forM_ok
    rintro ⟨operation, i⟩ hm
    apply checkOperation_landed hP hM hr h time
    exact List.mk_mem_zipIdx_iff_getElem?.1 hm
  have hmarkerId : isApplicationMarkerId
      (refOf P changeset (events.map Event.eventId)).markerId = true :=
    isApplicationMarkerId_changesetEventId hP _
  have hhash : isHash (refOf P changeset (events.map Event.eventId)).changesetHash = true :=
    isHash_fingerprint hP changeset
  unfold verifyApplication
  simp only [hmapping, ok_bind, hmarkerId, hhash, Bool.not_true, Bool.or_self, refuse_false]
  have hgenerated' : timestamp P (refOf P changeset (events.map Event.eventId)).occurredAt =
      .ok m := hgenerated
  have hpath' : eventPath P S (refOf P changeset (events.map Event.eventId)).occurredAt
      (refOf P changeset (events.map Event.eventId)).markerId = .ok path := hpath
  simp only [hgenerated', hpath', ok_bind, hread, hchecked, htime, hoperations, hbuilt', hid]
  rfl

end

/-- What a successful call answers for: a changeset of its id that landed, itself if it is the
one that was applied. -/
structure Success (P : Platform) (S : ChangesetSettings) (log : List (List String × Event))
    (call first : ApplyCall P) (events : List Event) (result : ApplyResult) : Prop where
  landed : Landed P S log first.changeset events
  changesetId : first.changeset.changesetId = call.changeset.changesetId
  applied : result.reasonCode = "APPLIED" → first = call
  ref : result.applicationRef = some (refOf P first.changeset (events.map Event.eventId))

theorem Landed.append (h : Landed P S log changeset events) (added : List (List String × Event)) :
    Landed P S (log ++ added) changeset events := by
  refine ⟨h.wellFormed, h.attempt, fun e he => ?_⟩
  obtain ⟨q, hq, hentry⟩ := h.stored e he
  exact ⟨q, List.mem_append_left _ hq, hentry⟩

/-- The marker of a journal is that of a changeset that landed. -/
theorem Journalled.landed {P : Platform} {calls : List (ApplyCall P)}
    {log : List (List String × Event)} (h : Journalled P S calls disk log) (hp : p ∈ log)
    (hm : isMarker p.2) : ∃ call ∈ calls, ∃ events, Landed P S log call.changeset events ∧
      p.2 = markerEvent P call.changeset (events.map Event.eventId) := by
  obtain ⟨call, hc, events, _, ⟨existing, st, before, hatt⟩, he, hcov⟩ := h.complete p hp hm
  exact ⟨call, hc, events,
    ⟨postInit_ok.1 call.wellFormed, ⟨existing, st, before, hatt⟩, hcov⟩, he⟩

theorem applicationRef_readBack (hP : P.HexDigests) (h : WellFormed P changeset)
    (ids : List String) : applicationRef P (readBack P (markerEvent P changeset ids)) =
      some (refOf P changeset ids) := by
  have hl : (readBack P (markerEvent P changeset ids)).payload.lookup "changeset_hash" =
      (markerEvent P changeset ids).payload.lookup "changeset_hash" := by
    rw [lookup_readBack P (markerEvent_writtenFor hP changeset ids).distinct]
    simp [markerEvent, changesetEvent, markerPayload, Value.canonical_str]
  rw [← applicationRef_markerEvent hP h ids, applicationRef, applicationRef, hl, readBack_eventId,
    readBack_occurredAt]

theorem Journalled.success {P : Platform} {calls : List (ApplyCall P)} {call : ApplyCall P}
    {log added : List (List String × Event)} (hP : P.HexDigests)
    (h : Journalled P S calls disk log)
    (he : CallEffect P S disk log call.changeset added (.ok result))
    (ha : result.applied = true) :
    ∃ first ∈ calls ++ [call], ∃ events, Success P S (log ++ added) call first events result := by
  cases he with
  | kept hr =>
    obtain ⟨found, hrep⟩ := hr result rfl ha
    obtain ⟨existing, hj, hm⟩ := hrep.journal
    obtain ⟨ordered, _, hiter, _, hperm⟩ := h.represents.iterEvents hP
    rw [journalEvents, hiter] at hj
    cases hj
    have hin := List.mem_of_find?_eq_some hm
    rw [visibleEvents, List.mem_filter] at hin
    obtain ⟨p, hp, rfl⟩ := List.mem_map.1 (hperm.mem_iff.1 hin.1)
    have hfound := List.find?_some hm
    rw [Bool.and_eq_true, beq_iff_eq, isMarker, readBack_eventType,
      lookup_readBack P (h.represents.payloadKeys hp)] at hfound
    obtain ⟨first, hc, events, hl, hp'⟩ := h.landed hp hfound.1
    rw [hp', (markerEvent_writtenFor hP first.changeset _).changesetId] at hfound
    refine ⟨first, List.mem_append_left _ hc, events, hl.append [], ?_, ?_, ?_⟩
    · simpa [Value.canonical_str] using hfound.2
    · intro happlied
      rw [hrep.reason] at happlied
      exact absurd happlied (by decide)
    · rw [hrep.ref, hp', applicationRef_readBack hP hl.wellFormed]
  | wrote hatt hpre hmem hcov hok =>
    obtain ⟨hall, hreason, href⟩ := hok result rfl ha
    subst hall
    have hw := postInit_ok.1 call.wellFormed
    refine ⟨call, by simp, _, ⟨hw, ⟨_, _, _, hatt⟩, hcov⟩, rfl, fun _ => rfl, ?_⟩
    rw [href, applicationRef_markerEvent hP hw]

/-- A marker of the journal that a reader sees. -/
def HasMarker (P : Platform) (S : ChangesetSettings) (disk : Disk) (changesetId hash : String) : Prop :=
  ∃ events marker, iterEvents P S.eventDir disk false = .ok events ∧ marker ∈ events ∧
    isMarker marker ∧ marker.payload.lookup "changeset_id" = some (.str changesetId) ∧
    marker.payload.lookup "changeset_hash" = some (.str hash)

theorem Landed.hasMarker {P : Platform} {calls : List (ApplyCall P)}
    {log : List (List String × Event)} (hP : P.HexDigests) (hj : Journalled P S calls disk log)
    (h : Landed P S log changeset events) :
    HasMarker P S disk changeset.changesetId (changeset.fingerprint P) := by
  obtain ⟨ordered, _, hiter, _, hperm⟩ := hj.represents.iterEvents hP
  obtain ⟨q, hq, hentry⟩ := h.stored (markerEvent P changeset (events.map Event.eventId))
    (List.mem_append_right _ List.mem_cons_self)
  have hs := sameEntry_of_entry hentry
  have hmark : isMarker (readBack P q.2) = true := by
    rw [isMarker, readBack_eventType, hs.eventType]
    exact isMarker_markerEvent P changeset _
  have hlookup : ∀ name, (readBack P q.2).payload.lookup name =
      ((markerPayload P changeset (events.map Event.eventId)).lookup name).map
        Value.canonical := by
    intro name
    rw [readBack_payload, hs.payload]
    exact Value.lookup_canonicalObject (markerPayload_distinct P changeset _) name
  refine ⟨visibleEvents P ordered, readBack P q.2, hiter, ?_, hmark, ?_, ?_⟩
  · rw [visibleEvents, List.mem_filter]
    exact ⟨hperm.mem_iff.2 (List.mem_map.2 ⟨q, hq, rfl⟩), by rw [hmark, Bool.true_or]⟩
  · rw [hlookup]
    rfl
  · rw [hlookup]
    rfl

/-- The proof reader verifies a changeset under a reference. -/
def Verifies (P : Platform) (S : ChangesetSettings) (disk : Disk) (changeset : ChangeSet)
    (ref : AppliedMarkerRef) : Prop :=
  ∃ result, readApplicationProof P S disk changeset ref = .ok result ∧ result.applied = true ∧
    result.reasonCode = "APPLICATION_PROOF_VERIFIED"

theorem verifies_iff : Verifies P S disk changeset ref ↔
    ∃ ids, verifyApplication P S disk changeset ref = .ok ids := by
  rw [Verifies, readApplicationProof]
  cases verifyApplication P S disk changeset ref with
  | ok ids => simp
  | error error =>
    constructor
    · rintro ⟨result, hr, ha, _⟩
      simp only at hr
      split at hr
      · cases hr
      · cases hr
        cases ha
    · rintro ⟨ids, hids⟩
      cases hids

/-- What a verified changeset says is what the applied one said. -/
structure SameContent (changeset first : ChangeSet) : Prop where
  changesetId : changeset.changesetId = first.changesetId
  candidateId : changeset.candidateId = first.candidateId
  sourceHashes : changeset.sourceHashes = first.sourceHashes
  policyVersion : changeset.policyVersion = first.policyVersion
  providerId : changeset.providerId = first.providerId
  operations : (changeset.operations.map fun operation => (Value.dict operation.toDict).canonical) =
    first.operations.map fun operation => (Value.dict operation.toDict).canonical

theorem readEvent_of_log {log : List (List String × Event)} {read : Event} (hP : P.HexDigests)
    (h : Represents P root disk log) (hroot : root <+: path)
    (hr : readEvent P true disk path = .ok read) :
    ∃ p ∈ log, p.1 = path ∧ read = readBack P p.2 := by
  cases hf : disk.files.lookup path with
  | none => simp [readEvent, hf] at hr
  | some content =>
    have hfile := h.file path hroot
    rw [hf] at hfile
    obtain ⟨event, he, rfl⟩ := Option.map_eq_some_iff.1 hfile.symm
    have hm := Dict.mem_of_lookup he
    refine ⟨(path, event), hm, rfl, ?_⟩
    by_cases hsize : Value.utf8Length (materialize P event).content.fileText ≤ boundedEventBytes
    · rw [readEvent_bounded hP (h.admitted _ hm).1 hf hsize] at hr
      exact (Except.ok.inj hr).symm
    · have hlarge : decide (boundedEventBytes < Value.utf8Length
          (materialize P event).content.fileText) = true := decide_eq_true (by omega)
      simp [readEvent, hf, hlarge] at hr

/-- What the proof reader has compared with the marker it read. -/
structure MarkerChecked (P : Platform) (value : ChangeSet) (marker : Event) : Prop where
  kind : isMarker marker
  payload : ∃ hash, Value.sortFields marker.payload =
    Value.sortFields (Dict.set "changeset_hash" hash (markerPayload P value
      (value.operations.mapIdx (changesetOperationEventId P value.changesetId))))

theorem markerChecked_of_checkMarker {read : Event} (h : checkMarker P value ref read = .ok ()) :
    MarkerChecked P value read := by
  unfold checkMarker at h
  simp only [refuse_bind_ok, Bool.or_eq_false_iff, Bool.not_eq_false', sameFields, beq_iff_eq] at h
  obtain ⟨⟨⟨⟨⟨hm, _⟩, _⟩, _⟩, _⟩, _, hp, _⟩ := h
  exact ⟨hm, _, hp⟩

/-- A mapping that is accepted is read as the changeset it came from, but for its host. -/
theorem fromMapping_fields (h : ChangeSet.fromMapping P (ChangeSet.toDict changeset) = .ok value) :
    ∃ host, value = { changeset with host } := by
  unfold ChangeSet.fromMapping at h
  obtain ⟨_, _, h⟩ := Except.bind_eq_ok.1 h
  obtain ⟨operations, ho, h⟩ := Except.bind_eq_ok.1 h
  obtain ⟨_, _, h⟩ := Except.bind_eq_ok.1 h
  have hoperations : (fieldOf changeset.toDict "operations").items?.getD [] =
      changeset.operations.map fun operation => .dict operation.toDict := rfl
  have hhashes : (fieldOf changeset.toDict "source_hashes").strings = changeset.sourceHashes :=
    Value.strings_ofStrings changeset.sourceHashes
  rw [hoperations, mapM_fromMapping] at ho
  cases ho
  rw [hhashes] at h
  cases h
  exact ⟨_, rfl⟩

theorem lookup_sortFields {fields : Fields} (h : (Dict.keys fields).Nodup) (name : String) :
    (Value.sortFields fields).lookup name = fields.lookup name :=
  Dict.lookup_perm h (Value.sortFields_perm fields).symm name

/-- Markers that agree but for the hash are of changesets of one content. -/
theorem sameContent_of_markers {hash : Value} (hc : CollisionFree P values)
    (hv : ∀ basis ∈ operationBases value, basis ∈ values)
    (hf : ∀ basis ∈ operationBases first, basis ∈ values)
    (h : Value.sortFields (Value.canonicalObject (markerPayload P first
        (first.operations.mapIdx (changesetOperationEventId P first.changesetId)))) =
      Value.sortFields (Dict.set "changeset_hash" hash (markerPayload P value
        (value.operations.mapIdx (changesetOperationEventId P value.changesetId))))) :
    SameContent value first := by
  have hl : ∀ name, name ≠ "changeset_hash" →
      (markerPayload P first (first.operations.mapIdx
        (changesetOperationEventId P first.changesetId))).lookup name =
      (markerPayload P value (value.operations.mapIdx
        (changesetOperationEventId P value.changesetId))).lookup name := by
    intro name hne
    have hname := congrArg (List.lookup name) h
    rw [canonicalObject_markerPayload, Value.sortFields_sortFields,
      lookup_sortFields (markerPayload_distinct P first _),
      lookup_sortFields (Dict.keys_set_nodup (markerPayload_distinct P value _)),
      Dict.lookup_set_of_ne (Ne.symm hne)] at hname
    exact hname
  have hids : first.operations.mapIdx (changesetOperationEventId P first.changesetId) =
      value.operations.mapIdx (changesetOperationEventId P value.changesetId) := by
    have he := hl "event_ids" (by decide)
    simp only [markerPayload] at he
    have hs := congrArg (fun v => v.map Value.strings) he
    simpa using hs
  constructor
  case changesetId => simpa [markerPayload] using (hl "changeset_id" (by decide)).symm
  case candidateId => simpa [markerPayload] using (hl "candidate_id" (by decide)).symm
  case sourceHashes =>
    have he := congrArg (fun v => v.map Value.strings) (hl "source_hashes" (by decide))
    simpa [markerPayload] using he.symm
  case policyVersion => simpa [markerPayload] using (hl "policy_version" (by decide)).symm
  case providerId => simpa [markerPayload] using (hl "provider_id" (by decide)).symm
  case operations =>
    have hlength : first.operations.length = value.operations.length := by
      have := congrArg List.length hids
      simpa using this
    apply List.ext_getElem
    · simpa using hlength.symm
    · intro i hi hi'
      rw [List.length_map] at hi hi'
      rw [List.getElem_map, List.getElem_map]
      have hid := congrArg (fun ids => ids[i]?) hids
      simp only [List.getElem?_mapIdx, List.getElem?_eq_getElem hi, List.getElem?_eq_getElem hi',
        Option.map_some, Option.some.injEq] at hid
      have hmem : ∀ (changeset : ChangeSet) (hk : i < changeset.operations.length),
          operationBasis changeset.changesetId i changeset.operations[i] ∈
            operationBases changeset := by
        intro changeset hk
        rw [operationBases, List.mem_mapIdx]
        exact ⟨i, hk, rfl⟩
      exact (operationEventId_inj hc (hv _ (hmem value hi)) (hf _ (hmem first hi'))
        hid.symm).2.2

/-- A verified changeset has the content of one that landed. -/
theorem Journalled.verified {P : Platform} {calls : List (ApplyCall P)}
    {log : List (List String × Event)} (hP : P.HexDigests) (h : Journalled P S calls disk log)
    (hc : CollisionFree P
      (operationBases value ++ calls.flatMap fun call => operationBases call.changeset))
    (hv : Verifies P S disk value ref) :
    ∃ first ∈ calls, ∃ events, Landed P S log first.changeset events ∧
      SameContent value first.changeset := by
  obtain ⟨ids, hv⟩ := verifies_iff.1 hv
  unfold verifyApplication at hv
  obtain ⟨value', hmapping, hv⟩ := Except.bind_eq_ok.1 hv
  rw [refuse_bind_ok] at hv
  obtain ⟨_, hv⟩ := hv
  obtain ⟨_, _, hv⟩ := Except.bind_eq_ok.1 hv
  obtain ⟨path, hpath, hv⟩ := Except.bind_eq_ok.1 hv
  obtain ⟨read, hread, hv⟩ := Except.bind_eq_ok.1 hv
  obtain ⟨_, hchecked, _⟩ := Except.bind_eq_ok.1 hv
  have hroot : S.eventDir <+: path := by
    rw [eventPath] at hpath
    obtain ⟨partition, _, rfl⟩ := Except.map_eq_ok.1 hpath
    rw [List.append_assoc]
    exact List.prefix_append _ _
  obtain ⟨p, hp, _, rfl⟩ := readEvent_of_log hP h.represents hroot hread
  obtain ⟨hmark, hash, hpayload⟩ := markerChecked_of_checkMarker hchecked
  rw [isMarker, readBack_eventType] at hmark
  obtain ⟨first, hfirst, events, hl, hmarker⟩ := h.landed hp hmark
  obtain ⟨st, hbuilt⟩ := hl.builtBy.built
  obtain ⟨host, rfl⟩ := fromMapping_fields hmapping
  refine ⟨first, hfirst, events, hl, ?_⟩
  have hsame : SameContent { value with host } first.changeset := by
    rw [readBack_payload, hmarker, ← buildEvents_mapIdx hbuilt] at hpayload
    apply sameContent_of_markers hc _ _ hpayload
    · intro basis hb
      exact List.mem_append_left _ hb
    · intro basis hb
      exact List.mem_append_right _ (List.mem_flatMap.2 ⟨first, hfirst, hb⟩)
  exact ⟨hsame.changesetId, hsame.candidateId, hsame.sourceHashes, hsame.policyVersion,
    hsame.providerId, hsame.operations⟩

theorem changesets_output (P : Platform) (S : ChangesetSettings) (start : Disk) (calls : List (ApplyCall P))
    (call : ApplyCall P) : (changesets P S).output start calls call =
      (applyChangeset P S ((changesets P S).after start calls) call.changeset call.stops).1 :=
  rfl

theorem changesets_step (P : Platform) (S : ChangesetSettings) (disk : Disk) (call : ApplyCall P) :
    ((changesets P S).step disk call).1 = (applyChangeset P S disk call.changeset call.stops).2 :=
  rfl

/-- Success and the proof of it are about the changeset that was applied under the id. -/
theorem application_proofs {P : Platform} (hP : P.HexDigests) (hM : P.MachineDigest)
    (h : EmptyRoot S.eventDir start) (calls : List (ApplyCall P)) :
    (∀ call result, CollisionFree P ((calls ++ [call]).flatMap fun c =>
        operationBases c.changeset) →
      (changesets P S).output start calls call = .ok result → result.applied = true →
      ∃ first ∈ calls ++ [call], ∃ ref, result.applicationRef = some ref ∧
        first.changeset.changesetId = call.changeset.changesetId ∧
        (result.reasonCode = "APPLIED" → first = call) ∧
        ref.changesetHash = first.changeset.fingerprint P ∧
        HasMarker P S ((changesets P S).after start (calls ++ [call]))
          call.changeset.changesetId (first.changeset.fingerprint P) ∧
        ∀ time moment, timestamp P time = .ok moment →
          Verifies P S ((changesets P S).after start (calls ++ [call]))
            { first.changeset with generatedAt := time } ref) ∧
    ∀ value ref, CollisionFree P
        (operationBases value ++ calls.flatMap fun call => operationBases call.changeset) →
      Verifies P S ((changesets P S).after start calls) value ref →
      ∃ first ∈ calls, SameContent value first.changeset ∧
        HasMarker P S ((changesets P S).after start calls) value.changesetId
          (first.changeset.fingerprint P) := by
  obtain ⟨log, hj⟩ := Journalled.after (S := S) hP (h.represents P) calls
  constructor
  · intro call result hc hout ha
    obtain ⟨added, hj', heff⟩ := hj.step hP call
    rw [← changesets_output, hout] at heff
    obtain ⟨first, hfirst, events, hs⟩ := hj.success hP heff ha
    rw [Machine.after_concat]
    refine ⟨first, hfirst, _, hs.ref, hs.changesetId, hs.applied, rfl, ?_, ?_⟩
    · rw [← hs.changesetId]
      exact hs.landed.hasMarker hP hj'
    · intro time moment ht
      apply verifies_iff.2
      refine ⟨_, verifyApplication_landed hP hM hj'.represents hs.landed ?_ ht⟩
      intro a hma b hmb
      apply hc
      · exact List.mem_flatMap.2 ⟨first, hfirst, hma⟩
      · exact List.mem_flatMap.2 ⟨first, hfirst, hmb⟩
  · intro value ref hc hv
    obtain ⟨first, hfirst, events, hl, hsame⟩ := hj.verified hP hc hv
    refine ⟨first, hfirst, hsame, ?_⟩
    rw [hsame.changesetId]
    exact hl.hasMarker hP hj

def digestPlatform : Platform :=
  { samplePlatform with machineId := takeText 12 (samplePlatform.sha256 []) }

theorem digestPlatform_hexDigests : digestPlatform.HexDigests :=
  samplePlatform_hexDigests

/-- A changeset, and one of another candidate under its id. -/
def namedCreation (candidateId : String)
    (wellFormed : ChangeSet.postInit digestPlatform
      { sampleChangeset "create" "2026-07-01T00:00:00Z" [sampleOperation .createCandidate] with
        candidateId } = .ok ()) : ApplyCall digestPlatform where
  changeset :=
    { sampleChangeset "create" "2026-07-01T00:00:00Z" [sampleOperation .createCandidate] with
      candidateId }
  stops := none
  wellFormed
  distinct := by simp [sampleChangeset, sampleOperation, Dict.keys]

def firstCreation : ApplyCall digestPlatform :=
  namedCreation "candidate" (by decide)

def otherCreation : ApplyCall digestPlatform :=
  namedCreation "other" (by decide)

theorem otherCreation_run :
    ∃ result, (changesets digestPlatform {}).output {} [firstCreation] otherCreation = .ok result ∧
      result.applied = true ∧ result.reasonCode = "ALREADY_APPLIED" ∧
      result.applicationRef.isSome = true :=
  Except.exists_ok_of_decide (by decide +kernel)

theorem creations_collisionFree {calls : List (ApplyCall digestPlatform)}
    (h : ∀ call ∈ calls, call = firstCreation ∨ call = otherCreation) :
    CollisionFree digestPlatform (calls.flatMap fun call => operationBases call.changeset) := by
  have hbases : ∀ call ∈ calls, operationBases call.changeset =
      [operationBasis "create" 0 (sampleOperation .createCandidate)] := by
    intro call hc
    rcases h call hc with rfl | rfl <;> rfl
  intro a ha b hb _
  obtain ⟨c, hc, ha⟩ := List.mem_flatMap.1 ha
  obtain ⟨d, hd, hb⟩ := List.mem_flatMap.1 hb
  rw [hbases c hc, List.mem_singleton] at ha
  rw [hbases d hd, List.mem_singleton] at hb
  rw [ha, hb]

/-- A changeset of another candidate is answered with success, and its proof does not verify. -/
theorem otherCreation_unproved :
    ∃ result ref, (changesets digestPlatform {}).output {} [firstCreation] otherCreation =
        .ok result ∧ result.applied = true ∧ result.applicationRef = some ref ∧
      ¬ Verifies digestPlatform {} ((changesets digestPlatform {}).after {}
        ([firstCreation] ++ [otherCreation])) otherCreation.changeset ref := by
  obtain ⟨result, hout, ha, hreason, href⟩ := otherCreation_run
  obtain ⟨ref, href⟩ := Option.isSome_iff_exists.1 href
  refine ⟨result, ref, hout, ha, href, fun hv => ?_⟩
  rw [Machine.after_concat, changesets_step] at hv
  obtain ⟨log, hj⟩ := Journalled.after (S := {}) digestPlatform_hexDigests
    ((emptyRoot_empty _).represents digestPlatform) [firstCreation]
  obtain ⟨added, hj', heff⟩ := hj.step digestPlatform_hexDigests otherCreation
  rw [← changesets_output, hout] at heff
  cases heff with
  | wrote _ _ _ _ hok =>
    rw [(hok result rfl ha).2.1] at hreason
    exact absurd hreason (by decide)
  | kept _ =>
    -- the call wrote nothing, so only the first changeset can verify
    rw [List.append_nil] at hj'
    have hfirst : Journalled digestPlatform {} [firstCreation] _ log :=
      ⟨hj'.represents, hj.origin, hj.complete, hj.oneMarker⟩
    have hall : ∀ call ∈ [otherCreation, firstCreation],
        call = firstCreation ∨ call = otherCreation := by simp
    have hc : CollisionFree digestPlatform (operationBases otherCreation.changeset ++
        [firstCreation].flatMap fun call => operationBases call.changeset) :=
      creations_collisionFree hall
    obtain ⟨first, hm, _, _, hsame⟩ := hfirst.verified digestPlatform_hexDigests hc hv
    rw [List.mem_singleton.1 hm] at hsame
    exact absurd hsame.candidateId (by decide)

theorem application_proofs_otherCreation :
    ∃ result, (changesets digestPlatform {}).output {} [firstCreation] otherCreation = .ok result ∧
      ∃ first ∈ [firstCreation] ++ [otherCreation], ∃ ref, result.applicationRef = some ref ∧
        ref.changesetHash = first.changeset.fingerprint digestPlatform ∧
        Verifies digestPlatform {} ((changesets digestPlatform {}).after {}
          ([firstCreation] ++ [otherCreation])) first.changeset ref := by
  obtain ⟨result, hout, ha, _, _⟩ := otherCreation_run
  have hproofs := (application_proofs (S := {}) digestPlatform_hexDigests ⟨[], rfl⟩
    (emptyRoot_empty _) [firstCreation]).1 otherCreation result
      (creations_collisionFree (by simp)) hout ha
  obtain ⟨first, hfirst, ref, href, _, _, hhash, _, hverifies⟩ := hproofs
  obtain ⟨moment, ht⟩ := (postInit_ok.1 first.wellFormed).generatedAt
  exact ⟨result, hout, first, hfirst, ref, href, hhash, hverifies _ moment ht⟩

end ExternalIntelligence
