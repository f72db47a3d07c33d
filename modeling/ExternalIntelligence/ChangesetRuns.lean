import ExternalIntelligence.ChangesetEvents

namespace ExternalIntelligence
set_option autoImplicit true

theorem eventLe_total (a b : Event) : eventLe a b ∨ eventLe b a := by
  rcases lt_trichotomy a.occurredAt b.occurredAt with h | h | h
  · exact .inl (.inl h)
  · rcases le_total a.eventId b.eventId with hi | hi
    · exact .inl (.inr ⟨h, hi⟩)
    · exact .inr (.inr ⟨h.symm, hi⟩)
  · exact .inr (.inl h)

theorem eventLe_trans {a b c : Event} (hab : eventLe a b) (hbc : eventLe b c) : eventLe a c := by
  rcases hab with hab | ⟨hab, hi⟩
  · rcases hbc with hbc | ⟨hbc, _⟩
    · exact .inl (hab.trans hbc)
    · exact .inl (hbc ▸ hab)
  · rcases hbc with hbc | ⟨hbc, hj⟩
    · exact .inl (hab ▸ hbc)
    · exact .inr ⟨hab.trans hbc, hi.trans hj⟩

instance : Std.Total eventLe :=
  ⟨eventLe_total⟩

instance : IsTrans Event eventLe :=
  ⟨fun _ _ _ => eventLe_trans⟩

/-- What a reader gets of an event of a journal. -/
def readBack (P : Platform) (event : Event) : Event :=
  (materialize P event).stored

@[simp] theorem readBack_eventId (P : Platform) (event : Event) :
    (readBack P event).eventId = event.eventId := by
  rw [readBack, stored_eventId, materialize_eventId]

@[simp] theorem readBack_eventType (P : Platform) (event : Event) :
    (readBack P event).eventType = event.eventType := by
  rw [readBack, stored_eventType]
  exact (sameEntry_materialize P event).eventType

@[simp] theorem readBack_occurredAt (P : Platform) (event : Event) :
    (readBack P event).occurredAt = event.occurredAt := by
  rw [readBack, stored_occurredAt, materialize_occurredAt]

@[simp] theorem readBack_actor (P : Platform) (event : Event) :
    (readBack P event).actor = event.actor := by
  rw [readBack, stored_actor]
  exact (sameEntry_materialize P event).actor

@[simp] theorem readBack_payload (P : Platform) (event : Event) :
    (readBack P event).payload = Value.canonicalObject event.payload := by
  rw [readBack, stored_payload, materialize_payload]

theorem lookup_readBack (P : Platform) (h : (Dict.keys event.payload).Nodup) (name : String) :
    (readBack P event).payload.lookup name = (event.payload.lookup name).map Value.canonical := by
  rw [readBack_payload, Value.lookup_canonicalObject h]

section

variable {log : List (List String × Event)} (hP : P.HexDigests) (h : Represents P root disk log)
include hP h

theorem Represents.mapM_readBack (paths : List (List String))
    (hpaths : ∀ path ∈ paths, ∃ event, (path, event) ∈ log) :
    paths.mapM (readEvent P false disk) =
      .ok (paths.filterMap fun path => (log.lookup path).map (readBack P)) := by
  induction paths with
  | nil => rfl
  | cons path paths ih =>
    obtain ⟨event, he⟩ := hpaths path List.mem_cons_self
    rw [List.mapM_cons, h.read hP he, ok_bind,
      ih fun path hp => hpaths path (List.mem_cons_of_mem _ hp), List.filterMap_cons,
      Dict.lookup_of_mem h.paths he]
    rfl

/-- The events of a represented journal, in their order and as they are read. -/
theorem Represents.iterEvents : ∃ ordered, iterEvents P root disk true = .ok ordered ∧
    iterEvents P root disk false = .ok (visibleEvents P ordered) ∧
    ordered.Pairwise eventLe ∧ ordered.Perm (log.map fun p => readBack P p.2) := by
  have hm := h.mapM_readBack hP (jsonPaths root disk) fun path hp => h.mem_jsonPaths.1 hp
  have hperm : (jsonPaths root disk).Perm (Dict.keys log) := by
    apply (List.perm_ext_iff_of_nodup _ h.paths).2
    · intro path
      rw [h.mem_jsonPaths, Dict.keys, List.mem_map]
      constructor
      · rintro ⟨event, he⟩
        exact ⟨(path, event), he, rfl⟩
      · rintro ⟨p, hp, rfl⟩
        exact ⟨p.2, hp⟩
    · rw [jsonPaths, (List.perm_insertionSort _ _).nodup_iff]
      exact h.distinct.filter _
  have hlog : (Dict.keys log).filterMap (fun path => (log.lookup path).map (readBack P)) =
      log.map fun p => readBack P p.2 := by
    rw [Dict.keys, List.filterMap_map, ← List.filterMap_eq_map]
    apply List.filterMap_congr
    intro p hp
    rw [Function.comp_apply, Dict.lookup_of_mem h.paths hp]
    rfl
  have hread := hperm.filterMap fun path => (log.lookup path).map (readBack P)
  rw [hlog] at hread
  generalize (jsonPaths root disk).filterMap
    (fun path => (log.lookup path).map (readBack P)) = events at hm hread
  refine ⟨events.insertionSort eventLe, ?_, ?_, List.pairwise_insertionSort eventLe _,
    (List.perm_insertionSort eventLe _).trans hread⟩
  · rw [ExternalIntelligence.iterEvents, hm]
    rfl
  · rw [ExternalIntelligence.iterEvents, hm]
    rfl

end

/-- What every event written for a changeset has. -/
structure WrittenFor (P : Platform) (changeset : ChangeSet) (event : Event) : Prop where
  schemaVersion : event.schemaVersion = 1
  integrity : event.integrity = []
  occurredAt : event.occurredAt = changeset.generatedAt
  actor : event.actor = "external-intelligence"
  machineId : event.machineId = P.machineId
  changesetId : event.payload.lookup "changeset_id" = some (.str changeset.changesetId)
  distinct : (Dict.keys event.payload).Nodup
  noSlash : '/' ∉ Text.chars event.eventId

theorem chars_changesetEventId (P : Platform) (basis : Fields) :
    Text.chars (changesetEventId P basis) = Text.chars "evt_changeset_" ++
      (Text.chars (P.sha256 (canonicalJson (.dict basis)))).take 32 := by
  have hs : stableHash P (.dict basis) = P.sha256 (canonicalJson (.dict basis)) := rfl
  simp only [changesetEventId, takeText, hs, Text.chars_eq_toList, String.toList_append,
    String.toList_ofList]

theorem changesetEventId_noSlash (hP : P.HexDigests) (basis : Fields) :
    '/' ∉ Text.chars (changesetEventId P basis) := by
  have hd := hP (canonicalJson (.dict basis))
  simp only [isDigest, Bool.and_eq_true, List.all_eq_true] at hd
  rw [chars_changesetEventId, List.mem_append]
  rintro (hm | hm)
  · revert hm
    decide
  · have := hd.2 _ (List.mem_of_mem_take hm)
    revert this
    decide

theorem WrittenFor.plain (h : WrittenFor P changeset event) : event.Plain := by
  constructor
  · intro _
    exact h.noSlash
  · intro h2
    rw [h.schemaVersion] at h2
    omega

theorem writtenFor_changesetEvent (hP : P.HexDigests) (changeset : ChangeSet) (basis : Fields)
    (eventType : String) (hd : (Dict.keys payload).Nodup)
    (hc : payload.lookup "changeset_id" = some (.str changeset.changesetId)) :
    WrittenFor P changeset
      (changesetEvent P changeset (changesetEventId P basis) eventType payload) :=
  ⟨rfl, rfl, rfl, rfl, rfl, hc, hd, changesetEventId_noSlash hP basis⟩

/-- The event of the operation at an index, and the states it was merged with. -/
structure EventOf (P : Platform) (changeset : ChangeSet) (index : Nat)
    (operation : ChangeOperation) (st : StateMap) (event : Event) : Prop where
  built : ∃ type payload, eventPayload P changeset operation
      (targetState st operation.targetId) = .ok (type, payload) ∧
    event = changesetEvent P changeset
      (changesetOperationEventId P changeset.changesetId index operation) type payload

theorem EventOf.writtenFor (hP : P.HexDigests)
    (h : EventOf P changeset index operation st event) : WrittenFor P changeset event := by
  obtain ⟨type, payload, hp, rfl⟩ := h.built
  have hb := (eventPayload_built hp).2
  apply writtenFor_changesetEvent hP changeset _ type hb.distinct
  rw [hb.named "changeset_id" (by decide)]
  exact (lookup_commonPayload P changeset operation _).1

theorem EventOf.eventId (h : EventOf P changeset index operation st event) :
    event.eventId = changesetOperationEventId P changeset.changesetId index operation := by
  obtain ⟨type, payload, _, rfl⟩ := h.built
  rfl

theorem buildEvents_cons_ok :
    buildEvents P changeset index (operation :: later) st = .ok events ↔
      ∃ type payload st' rest,
        eventPayload P changeset operation (targetState st operation.targetId) =
          .ok (type, payload) ∧
        advance P st operation payload = .ok st' ∧
        buildEvents P changeset (index + 1) later st' = .ok rest ∧
        events = changesetEvent P changeset
          (changesetOperationEventId P changeset.changesetId index operation) type payload ::
            rest := by
  rw [buildEvents]
  constructor
  · intro h
    obtain ⟨⟨type, payload⟩, hp, h⟩ := Except.bind_eq_ok.1 h
    obtain ⟨st', hs, h⟩ := Except.bind_eq_ok.1 h
    obtain ⟨rest, hr, h⟩ := Except.bind_eq_ok.1 h
    cases h
    exact ⟨type, payload, st', rest, hp, hs, hr, rfl⟩
  · rintro ⟨type, payload, st', rest, hp, hs, hr, rfl⟩
    simp only [hp, hs, hr, ok_bind]
    rfl

/-- Each operation has its event, in the order of the operations. -/
theorem buildEvents_events (h : buildEvents P changeset index ops st = .ok events) :
    events.length = ops.length ∧ ∀ i operation event, ops[i]? = some operation →
      events[i]? = some event → ∃ st', EventOf P changeset (index + i) operation st' event := by
  induction ops generalizing index st events with
  | nil =>
    cases h
    refine ⟨rfl, fun i operation event hi => ?_⟩
    cases hi
  | cons operation later ih =>
    obtain ⟨type, payload, st', rest, hp, hs, hr, rfl⟩ := buildEvents_cons_ok.1 h
    obtain ⟨hl, hrest⟩ := ih hr
    refine ⟨by simp [hl], fun i op event hi he => ?_⟩
    cases i with
    | zero =>
      cases hi
      cases he
      exact ⟨st, ⟨type, payload, hp, rfl⟩⟩
    | succ i =>
      obtain ⟨st'', hof⟩ := hrest i op event hi he
      exact ⟨st'', by rwa [show index + (i + 1) = index + 1 + i from by omega]⟩

theorem buildEvents_mem (h : buildEvents P changeset index ops st = .ok events)
    (he : event ∈ events) : ∃ i operation st', ops[i]? = some operation ∧
      EventOf P changeset (index + i) operation st' event := by
  obtain ⟨hl, hall⟩ := buildEvents_events h
  obtain ⟨i, hi, rfl⟩ := List.getElem_of_mem he
  have hi' : i < ops.length := hl ▸ hi
  obtain ⟨st', hof⟩ := hall i ops[i] events[i] (List.getElem?_eq_getElem hi')
    (List.getElem?_eq_getElem hi)
  exact ⟨i, ops[i], st', List.getElem?_eq_getElem hi', hof⟩

theorem buildEvents_ids (h : buildEvents P changeset index ops st = .ok events) :
    events.map Event.eventId = (ops.zipIdx index).map fun p =>
      changesetOperationEventId P changeset.changesetId p.2 p.1 := by
  induction ops generalizing index st events with
  | nil =>
    cases h
    rfl
  | cons operation later ih =>
    obtain ⟨type, payload, st', rest, hp, hs, hr, rfl⟩ := buildEvents_cons_ok.1 h
    rw [List.map_cons, ih hr]
    rfl

theorem markerEvent_writtenFor (hP : P.HexDigests) (changeset : ChangeSet) (ids : List String) :
    WrittenFor P changeset (markerEvent P changeset ids) := by
  apply writtenFor_changesetEvent hP
  · simp [markerPayload, Dict.keys]
  · rfl

/-- A call that appends events adds those of a prefix of them to a represented journal. -/
theorem appendEvents_represents {log : List (List String × Event)} (hP : P.HexDigests)
    (h : Represents P root disk log) (hw : ∀ e ∈ events, WrittenFor P changeset e)
    (stops : Option Nat) :
    ∃ added written, Represents P root (appendEvents P root disk events stops).2 (log ++ added) ∧
      written <+: events ∧ (∀ p ∈ added, p.2 ∈ written) ∧
      (∀ e ∈ written, ∃ p ∈ log ++ added, p.2.entry = e.entry) ∧
      ((appendEvents P root disk events stops).1 = .ok () → written = events) := by
  induction events generalizing disk log stops with
  | nil =>
    exact ⟨[], [], by rwa [List.append_nil], List.prefix_rfl, by simp, by simp, fun _ => rfl⟩
  | cons event events ih =>
    have he := hw event List.mem_cons_self
    have happ := appendEvent_appends hP h he.distinct (by simp [he.integrity, Dict.keys]) he.plain
      (stops == some 0)
    have hrest : ∀ e ∈ events, WrittenFor P changeset e := fun e hm =>
      hw e (List.mem_cons_of_mem _ hm)
    rw [appendEvents]
    generalize appendEvent P root disk event (stops == some 0) = r at happ
    cases happ with
    | @refused disk' error hd =>
      refine ⟨[], [], ?_, List.nil_prefix, by simp, by simp, fun hok => ?_⟩
      · rw [List.append_nil]
        exact h.congr hd
      · cases hok
    | @held disk' p hp hentry hd =>
      obtain ⟨added, written, hr, hpre, hmem, hcov, hok⟩ := ih (h.congr hd) hrest
        (stops.map Nat.pred)
      refine ⟨added, event :: written, hr, (List.prefix_cons_inj event).2 hpre, ?_, ?_, ?_⟩
      · intro q hq
        exact List.mem_cons_of_mem _ (hmem q hq)
      · intro e hm
        rcases List.mem_cons.1 hm with rfl | hm
        · exact ⟨p, List.mem_append_left _ hp, hentry⟩
        · exact hcov e hm
      · intro h'
        rw [hok h']
    | @added path disk' hplace hnew hd hrep =>
      obtain ⟨added, written, hr, hpre, hmem, hcov, hok⟩ := ih hrep hrest (stops.map Nat.pred)
      rw [List.append_assoc] at hr hcov
      refine ⟨(path, event) :: added, event :: written, hr,
        (List.prefix_cons_inj event).2 hpre, ?_, ?_, ?_⟩
      · intro q hq
        rcases List.mem_cons.1 hq with rfl | hq
        · exact List.mem_cons_self
        · exact List.mem_cons_of_mem _ (hmem q hq)
      · intro e hm
        rcases List.mem_cons.1 hm with rfl | hm
        · exact ⟨(path, e), by simp, rfl⟩
        · obtain ⟨q, hq, hqe⟩ := hcov e hm
          exact ⟨q, by simpa using hq, hqe⟩
      · intro h'
        rw [hok h']

/-- The checks of a changeset passed and its events are built. -/
structure Attempt (P : Platform) (S : ChangesetSettings) (disk : Disk) (changeset : ChangeSet)
    (existing : List Event) (st : StateMap) (events : List Event) : Prop where
  journal : journalEvents P S disk = .ok existing
  unmarked : marker existing changeset.changesetId = none
  valid : ∃ result, validateChangeset P S disk changeset = .ok result ∧ result.valid = true
  states : states P existing = .ok st
  built : buildEvents P changeset 0 changeset.operations st = .ok events

/-- A call that reports success without writing: the marker is there. -/
structure Repeated (P : Platform) (S : ChangesetSettings) (disk : Disk) (changeset : ChangeSet)
    (found : Event) (result : ApplyResult) : Prop where
  journal : ∃ existing, journalEvents P S disk = .ok existing ∧
    marker existing changeset.changesetId = some found
  reason : result.reasonCode = "ALREADY_APPLIED"
  ref : result.applicationRef = applicationRef P found

/-- A call either leaves the disk as it is, and then it succeeds only where the marker is there
already, or writes the events it built. -/
theorem applyChangeset_cases (P : Platform) (S : ChangesetSettings) (disk : Disk) (changeset : ChangeSet)
    (stops : Option Nat) :
    ((applyChangeset P S disk changeset stops).2 = disk ∧
      ∀ result, (applyChangeset P S disk changeset stops).1 = .ok result →
        result.applied = true → ∃ found, Repeated P S disk changeset found result) ∨
    ∃ existing st events validation, Attempt P S disk changeset existing st events ∧
      applyChangeset P S disk changeset stops =
        (.ok (applyBuilt P S disk changeset validation events stops).1,
          (applyBuilt P S disk changeset validation events stops).2) := by
  unfold applyChangeset
  cases hj : journalEvents P S disk with
  | error reason =>
    refine .inl ⟨rfl, fun result hr ha => ?_⟩
    cases hr
    cases ha
  | ok existing =>
    cases hm : marker existing changeset.changesetId with
    | some found =>
      refine .inl ⟨by simp [hm], fun result hr _ => ?_⟩
      simp only [hm] at hr
      cases hr
      exact ⟨found, ⟨existing, hj, hm⟩, rfl, rfl⟩
    | none =>
      cases hv : validateChangeset P S disk changeset with
      | error error =>
        refine .inl ⟨by simp [hm], fun result hr _ => ?_⟩
        simp only [hm] at hr
        cases hr
      | ok validation =>
        by_cases hvalid : validation.valid = true
        · cases hb : (states P existing).bind
              (buildEvents P changeset 0 changeset.operations) with
          | error error =>
            refine .inl ⟨by simp [hm, hvalid, hb], fun result hr _ => ?_⟩
            simp [hm, hvalid, hb] at hr
          | ok events =>
            obtain ⟨st, hs, hbuilt⟩ := Except.bind_eq_ok.1 hb
            refine .inr ⟨existing, st, events, validation,
              ⟨hj, hm, ⟨validation, hv, hvalid⟩, hs, hbuilt⟩, ?_⟩
            simp [hm, hvalid, hb, Prod.map]
        · refine .inl ⟨by simp [hm, hvalid], fun result hr ha => ?_⟩
          simp only [hm, hvalid, Bool.not_false, if_true] at hr
          cases hr
          cases ha

theorem applyBuilt_disk (P : Platform) (S : ChangesetSettings) (disk : Disk) (changeset : ChangeSet)
    (validation : ValidationResult) (events : List Event) (stops : Option Nat) :
    (applyBuilt P S disk changeset validation events stops).2 =
      (appendEvents P S.eventDir disk
        (events ++ [markerEvent P changeset (events.map Event.eventId)]) stops).2 ∧
    ((applyBuilt P S disk changeset validation events stops).1.applied = true →
      (appendEvents P S.eventDir disk
        (events ++ [markerEvent P changeset (events.map Event.eventId)]) stops).1 = .ok ()) := by
  unfold applyBuilt
  simp only
  generalize appendEvents P S.eventDir disk
    (events ++ [markerEvent P changeset (events.map Event.eventId)]) stops = r
  obtain ⟨out, disk'⟩ := r
  cases out with
  | error error => exact ⟨rfl, fun ha => by cases ha⟩
  | ok u => exact ⟨rfl, fun _ => rfl⟩

/-- The events a call writes for its changeset. -/
def builtFor (P : Platform) (changeset : ChangeSet) (events : List Event) : List Event :=
  events ++ [markerEvent P changeset (events.map Event.eventId)]

theorem Attempt.writtenFor (hP : P.HexDigests) (h : Attempt P S disk changeset existing st events) :
    ∀ e ∈ builtFor P changeset events, WrittenFor P changeset e := by
  intro e he
  rcases List.mem_append.1 he with he | he
  · obtain ⟨i, operation, st', _, hof⟩ := buildEvents_mem h.built he
    exact hof.writtenFor hP
  · rw [List.mem_singleton.1 he]
    exact markerEvent_writtenFor hP changeset _

/-- What a call adds to a journal: nothing, or the events of a prefix of those it built, all of
them if it succeeds. -/
inductive CallEffect (P : Platform) (S : ChangesetSettings) (disk : Disk) (log : List (List String × Event))
    (changeset : ChangeSet) :
    List (List String × Event) → Except Raised ApplyResult → Prop
  | kept : (∀ result, out = .ok result → result.applied = true →
      ∃ found, Repeated P S disk changeset found result) →
      CallEffect P S disk log changeset [] out
  | wrote : Attempt P S disk changeset existing st events →
      written <+: builtFor P changeset events →
      (∀ p ∈ added, p.2 ∈ written) →
      (∀ e ∈ written, ∃ p ∈ log ++ added, p.2.entry = e.entry) →
      (∀ result, out = .ok result → result.applied = true →
        written = builtFor P changeset events ∧ result.reasonCode = "APPLIED" ∧
        result.applicationRef =
          applicationRef P (markerEvent P changeset (events.map Event.eventId))) →
      CallEffect P S disk log changeset added out

theorem applyBuilt_applied (h : (applyBuilt P S disk changeset validation events stops).1.applied) :
    (applyBuilt P S disk changeset validation events stops).1.reasonCode = "APPLIED" ∧
    (applyBuilt P S disk changeset validation events stops).1.applicationRef =
      applicationRef P (markerEvent P changeset (events.map Event.eventId)) := by
  unfold applyBuilt at h ⊢
  simp only at h ⊢
  generalize appendEvents P S.eventDir disk
    (events ++ [markerEvent P changeset (events.map Event.eventId)]) stops = r at h
  obtain ⟨out, disk'⟩ := r
  cases out with
  | error error => cases h
  | ok u => exact ⟨rfl, rfl⟩

theorem callEffect {log : List (List String × Event)} (hP : P.HexDigests)
    (h : Represents P S.eventDir disk log) (changeset : ChangeSet) (stops : Option Nat) :
    ∃ added, Represents P S.eventDir (applyChangeset P S disk changeset stops).2 (log ++ added) ∧
      CallEffect P S disk log changeset added (applyChangeset P S disk changeset stops).1 := by
  rcases applyChangeset_cases P S disk changeset stops with ⟨hd, hr⟩ |
    ⟨existing, st, events, validation, hatt, happ⟩
  · refine ⟨[], ?_, .kept hr⟩
    rw [hd, List.append_nil]
    exact h
  · obtain ⟨hdisk, hok⟩ := applyBuilt_disk P S disk changeset validation events stops
    obtain ⟨added, written, hrep, hpre, hmem, hcov, hall⟩ :=
      appendEvents_represents hP h (hatt.writtenFor hP) stops
    refine ⟨added, ?_, .wrote hatt hpre hmem hcov ?_⟩
    · rw [happ, hdisk]
      exact hrep
    · intro result hr ha
      rw [happ] at hr
      cases hr
      exact ⟨hall (hok ha), applyBuilt_applied ha⟩

/-- Where an event of the journal comes from: the call that built it. -/
structure BuiltBy (P : Platform) (changeset : ChangeSet) (events : List Event) : Prop where
  built : ∃ st, buildEvents P changeset 0 changeset.operations st = .ok events

/-- A journal that calls of apply_changeset have written. -/
structure Journalled (P : Platform) (S : ChangesetSettings) (calls : List (ApplyCall P)) (disk : Disk)
    (log : List (List String × Event)) : Prop where
  represents : Represents P S.eventDir disk log
  origin : ∀ p ∈ log, ∃ call ∈ calls, ∃ events, BuiltBy P call.changeset events ∧
    p.2 ∈ builtFor P call.changeset events
  complete : ∀ p ∈ log, isMarker p.2 → ∃ call ∈ calls, ∃ events,
    BuiltBy P call.changeset events ∧
    (∃ existing st before, Attempt P S before call.changeset existing st events) ∧
    p.2 = markerEvent P call.changeset (events.map Event.eventId) ∧
    ∀ e ∈ builtFor P call.changeset events, ∃ q ∈ log, q.2.entry = e.entry
  oneMarker : ∀ p ∈ log, ∀ q ∈ log, isMarker p.2 → isMarker q.2 →
    p.2.payload.lookup "changeset_id" = q.2.payload.lookup "changeset_id" → p = q

theorem not_isMarker_of_mem (h : BuiltBy P changeset events) (he : e ∈ events) :
    isMarker e = false := by
  obtain ⟨st, hb⟩ := h.built
  obtain ⟨i, operation, st', _, hof⟩ := buildEvents_mem hb he
  obtain ⟨type, payload, hp, rfl⟩ := hof.built
  have ht := (eventPayload_built hp).1
  have hm : ∀ o : Operation, "curation.changeset.applied" ∉ permittedEventTypes o := by
    intro o
    cases o <;> decide
  simp only [isMarker, changesetEvent, beq_eq_false_iff_ne]
  intro hc
  exact hm _ (hc ▸ ht)

theorem isMarker_markerEvent (P : Platform) (changeset : ChangeSet) (ids : List String) :
    isMarker (markerEvent P changeset ids) = true := by
  simp [isMarker, markerEvent, changesetEvent]

theorem marker_of_mem_builtFor (h : BuiltBy P changeset events)
    (he : e ∈ builtFor P changeset events) (hm : isMarker e) :
    e = markerEvent P changeset (events.map Event.eventId) := by
  rcases List.mem_append.1 he with he | he
  · rw [not_isMarker_of_mem h he] at hm
    cases hm
  · exact List.mem_singleton.1 he

/-- A journal that has written its marker has written everything before it. -/
theorem written_all (h : BuiltBy P changeset events) (hpre : written <+: builtFor P changeset events)
    (he : e ∈ written) (hm : isMarker e) : written = builtFor P changeset events := by
  rcases List.prefix_concat_iff.1 hpre with hall | hpre
  · exact hall
  · have := not_isMarker_of_mem h (hpre.subset he)
    rw [hm] at this
    cases this

theorem Represents.payloadKeys {log : List (List String × Event)} (h : Represents P root disk log)
    (hp : p ∈ log) : (Dict.keys p.2.payload).Nodup := by
  have := (h.admitted p hp).1.payloadKeys
  rwa [materialize_payload] at this

/-- The marker that a reader looks for is not in the journal. -/
theorem no_marker {log : List (List String × Event)} (hP : P.HexDigests)
    (h : Represents P S.eventDir disk log) (hj : journalEvents P S disk = .ok existing)
    (hm : marker existing changesetId = none) (hp : p ∈ log) (hmark : isMarker p.2) :
    p.2.payload.lookup "changeset_id" ≠ some (.str changesetId) := by
  intro hid
  obtain ⟨ordered, _, hiter, _, hperm⟩ := h.iterEvents hP
  rw [journalEvents, hiter] at hj
  cases hj
  have hin : readBack P p.2 ∈ ordered :=
    hperm.mem_iff.2 (List.mem_map.2 ⟨p, hp, rfl⟩)
  have hmark' : isMarker (readBack P p.2) = true := by
    rw [isMarker, readBack_eventType]
    exact hmark
  have hvis : readBack P p.2 ∈ visibleEvents P ordered := by
    rw [visibleEvents, List.mem_filter]
    exact ⟨hin, by rw [hmark', Bool.true_or]⟩
  have hnone := List.find?_eq_none.1 hm _ hvis
  rw [hmark', lookup_readBack P (h.payloadKeys hp), hid] at hnone
  simp [Value.canonical_str] at hnone

theorem journalled_nil (h : Represents P S.eventDir disk []) : Journalled P S [] disk [] := by
  constructor
  · exact h
  all_goals
    intro p hp
    cases hp

theorem Journalled.step {P : Platform} {calls : List (ApplyCall P)}
    {log : List (List String × Event)} (h : Journalled P S calls disk log) (hP : P.HexDigests)
    (call : ApplyCall P) :
    ∃ added, Journalled P S (calls ++ [call])
        (applyChangeset P S disk call.changeset call.stops).2 (log ++ added) ∧
      CallEffect P S disk log call.changeset added
        (applyChangeset P S disk call.changeset call.stops).1 := by
  obtain ⟨added, hrep, heff⟩ := callEffect hP h.represents call.changeset call.stops
  refine ⟨added, ?_, heff⟩
  generalize (applyChangeset P S disk call.changeset call.stops).2 = disk' at hrep
  generalize (applyChangeset P S disk call.changeset call.stops).1 = out at heff
  have horigin : ∀ p ∈ log, ∃ c ∈ calls ++ [call], ∃ events, BuiltBy P c.changeset events ∧
      p.2 ∈ builtFor P c.changeset events := by
    intro p hp
    obtain ⟨c, hc, events, hb, hin⟩ := h.origin p hp
    exact ⟨c, List.mem_append_left _ hc, events, hb, hin⟩
  have hcomplete : ∀ p ∈ log, isMarker p.2 → ∃ c ∈ calls ++ [call], ∃ events,
      BuiltBy P c.changeset events ∧
      (∃ existing st before, Attempt P S before c.changeset existing st events) ∧
      p.2 = markerEvent P c.changeset (events.map Event.eventId) ∧
      ∀ e ∈ builtFor P c.changeset events, ∃ q ∈ log ++ added, q.2.entry = e.entry := by
    intro p hp hm
    obtain ⟨c, hc, events, hb, hatt, he, hcov⟩ := h.complete p hp hm
    refine ⟨c, List.mem_append_left _ hc, events, hb, hatt, he, fun e hin => ?_⟩
    obtain ⟨q, hq, hqe⟩ := hcov e hin
    exact ⟨q, List.mem_append_left _ hq, hqe⟩
  cases heff with
  | kept _ =>
    rw [List.append_nil] at hrep hcomplete ⊢
    exact ⟨hrep, horigin, hcomplete, h.oneMarker⟩
  | @wrote existing st events written _ _ hatt hpre hmem hcov hok =>
    have hb : BuiltBy P call.changeset events := ⟨st, hatt.built⟩
    have hadded : ∀ p ∈ added, isMarker p.2 →
        p.2 = markerEvent P call.changeset (events.map Event.eventId) := by
      intro p hp hm
      exact marker_of_mem_builtFor hb (hpre.subset (hmem p hp)) hm
    have hnew : ∀ p ∈ log, ∀ q ∈ added, isMarker p.2 → isMarker q.2 →
        p.2.payload.lookup "changeset_id" ≠ q.2.payload.lookup "changeset_id" := by
      intro p hp q hq hmp hmq
      rw [hadded q hq hmq]
      exact no_marker hP h.represents hatt.journal hatt.unmarked hp hmp
    constructor
    case represents => exact hrep
    case origin =>
      intro p hp
      rcases List.mem_append.1 hp with hp | hp
      · exact horigin p hp
      · exact ⟨call, by simp, events, hb, hpre.subset (hmem p hp)⟩
    case complete =>
      intro p hp hm
      rcases List.mem_append.1 hp with hp | hp
      · exact hcomplete p hp hm
      · refine ⟨call, by simp, events, hb, ⟨existing, st, disk, hatt⟩, hadded p hp hm, ?_⟩
        intro e he
        apply hcov e
        rw [written_all hb hpre (hmem p hp) hm]
        exact he
    case oneMarker =>
      intro p hp q hq hmp hmq hid
      rcases List.mem_append.1 hp with hp' | hp'
      · rcases List.mem_append.1 hq with hq' | hq'
        · exact h.oneMarker p hp' q hq' hmp hmq hid
        · exact absurd hid (hnew p hp' q hq' hmp hmq)
      · rcases List.mem_append.1 hq with hq' | hq'
        · exact absurd hid.symm (hnew q hq' p hp' hmq hmp)
        · have he : p.2.entry = q.2.entry := by rw [hadded p hp' hmp, hadded q hq' hmq]
          exact hrep.eq_of_path hp hq (hrep.path_of_entry hp hq he)

theorem Journalled.after (hP : P.HexDigests) (h : Represents P S.eventDir start [])
    (calls : List (ApplyCall P)) :
    ∃ log, Journalled P S calls ((changesets P S).after start calls) log := by
  induction calls using List.reverseRecOn with
  | nil => exact ⟨[], journalled_nil h⟩
  | append_singleton calls call ih =>
    obtain ⟨log, hlog⟩ := ih
    obtain ⟨added, hnext, _⟩ := hlog.step hP call
    rw [Machine.after_concat]
    exact ⟨log ++ added, hnext⟩

def sampleHash : String :=
  "sha256:aaaaaaaaaaaaaaaaaaaaaaaaaaaaaaaaaaaaaaaaaaaaaaaaaaaaaaaaaaaaaaaa"

/-- An operation on a pattern that the checks accept. -/
def sampleOperation (operation : Operation) : ChangeOperation where
  operation
  targetId := some "pattern-a"
  payload := [("actor", .str "curator"), ("rule", .str "r"),
    ("provenances", .list [.str "a", .str sampleHash])]

def sampleChangeset (changesetId generatedAt : String) (operations : List ChangeOperation) :
    ChangeSet where
  changesetId
  candidateId := "candidate"
  operations
  sourceHashes := [sampleHash]
  policyVersion := "promotion-v1"
  generatedAt
  providerId := "curator"

end ExternalIntelligence
