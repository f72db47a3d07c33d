import ExternalIntelligence.PromotionGate

namespace ExternalIntelligence
set_option autoImplicit true

def belongs (changesetId : String) (event : Event) : Bool :=
  event.payload.lookup "changeset_id" == some (.str changesetId)

/-- Events are a marker and the ones it lists, each of them once. -/
def ExactlyListed (events : List Event) : Prop :=
  ∃ marker ∈ events, isMarker marker ∧ ∃ ids,
    marker.payload.lookup "event_ids" = some (.ofStrings ids) ∧
    (events.map Event.eventId).Perm (marker.eventId :: ids)

/-- A reader sees nothing of a changeset, or what its marker lists. -/
def AllOrNothing (P : Platform) (S : ChangesetSettings) (disk : Disk) (changesetId : String) : Prop :=
  ∃ events, iterEvents P S.eventDir disk false = .ok events ∧
    (events.filter (belongs changesetId) = [] ∨
      ExactlyListed (events.filter (belongs changesetId)))

/-- What stopped calls have left of a changeset that has no marker yet. -/
def leftovers (P : Platform) (S : ChangesetSettings) (disk : Disk) (changesetId : String) : List Event :=
  match iterEvents P S.eventDir disk true with
  | .error _ => []
  | .ok events =>
    let own := events.filter (belongs changesetId)
    if own.any isMarker then [] else own

/-- The directory of the month of a time. -/
def monthOf (P : Platform) (occurredAt : String) : Option (List String) :=
  (eventPartition P
    { eventId := "", eventType := "", occurredAt, actor := "", machineId := "",
      payload := [] }).toOption

/-- What is left of a changeset has ids of its operations and lies in its month. -/
def continues (P : Platform) (S : ChangesetSettings) (disk : Disk) (changeset : ChangeSet) : Bool :=
  let ids := changeset.operations.mapIdx (changesetOperationEventId P changeset.changesetId)
  decide ids.Nodup && (leftovers P S disk changeset.changesetId).all fun event =>
    ids.contains event.eventId &&
      monthOf P event.occurredAt == monthOf P changeset.generatedAt

/-- Every marker of a journal lists the events of its changeset. -/
def Listed (log : List (List String × Event)) : Prop :=
  ∀ p ∈ log, isMarker p.2 → ∀ changesetId, belongs changesetId p.2 → ∃ ids,
    p.2.payload.lookup "event_ids" = some (.ofStrings ids) ∧
    ((log.filter fun q => belongs changesetId q.2).map fun q => q.2.eventId).Perm
      (p.2.eventId :: ids)

theorem belongs_readBack {id : String} (P : Platform) (h : (Dict.keys event.payload).Nodup)
    (hid : event.payload.lookup "changeset_id" = some (.str id)) (changesetId : String) :
    belongs changesetId (readBack P event) = belongs changesetId event := by
  rw [belongs, belongs, lookup_readBack P h, hid, Option.map_some, Value.canonical_str]

theorem belongs_iff :
    belongs changesetId event ↔ event.payload.lookup "changeset_id" = some (.str changesetId) := by
  rw [belongs, beq_iff_eq]

theorem Journalled.belongs_readBack {log : List (List String × Event)}
    {calls : List (ApplyCall P)} (hP : P.HexDigests) (h : Journalled P S calls disk log)
    (hp : p ∈ log) : belongs changesetId (readBack P p.2) = belongs changesetId p.2 := by
  obtain ⟨id, _, hid⟩ := h.hasChangeset hP hp
  exact ExternalIntelligence.belongs_readBack P (h.represents.payloadKeys hp) hid changesetId

theorem filter_belongs_readBack {log : List (List String × Event)} {calls : List (ApplyCall P)}
    (hP : P.HexDigests) (h : Journalled P S calls disk log) (changesetId : String) :
    (log.map fun p => readBack P p.2).filter (belongs changesetId) =
      (log.filter fun p => belongs changesetId p.2).map fun p => readBack P p.2 := by
  rw [List.filter_map]
  apply congrArg
  apply List.filter_congr
  intro p hp
  exact h.belongs_readBack hP hp

/-- A reader sees an event where the journal has the marker of its changeset. -/
theorem Journalled.mem_visible {log : List (List String × Event)} {calls : List (ApplyCall P)}
    (hP : P.HexDigests) (h : Journalled P S calls disk log)
    (hperm : ordered.Perm (log.map fun p => readBack P p.2)) (hp : p ∈ log)
    (hb : belongs changesetId p.2) : readBack P p.2 ∈ visibleEvents P ordered ↔
      ∃ q ∈ log, isMarker q.2 ∧ belongs changesetId q.2 := by
  obtain ⟨id, hne, hid⟩ := h.hasChangeset hP hp
  cases Value.str.inj (Option.some.inj (hid.symm.trans (belongs_iff.1 hb)))
  have hin : readBack P p.2 ∈ ordered := hperm.mem_iff.2 (List.mem_map.2 ⟨p, hp, rfl⟩)
  have hmark : ∀ q : List String × Event, isMarker (readBack P q.2) = isMarker q.2 := by
    intro q
    rw [isMarker, readBack_eventType, isMarker]
  have hcommitted : changesetId ∈ committedChangesets P ordered ↔
      ∃ q ∈ log, isMarker q.2 ∧ belongs changesetId q.2 := by
    rw [committedChangesets, List.mem_filterMap]
    constructor
    · rintro ⟨e, he, hof⟩
      rw [List.mem_filter] at he
      obtain ⟨q, hq, rfl⟩ := List.mem_map.1 (hperm.mem_iff.1 he.1)
      obtain ⟨id', hne', hid'⟩ := h.hasChangeset hP hq
      rw [changesetOf_readBack (h.represents.payloadKeys hq) hne' hid', Option.some.injEq] at hof
      subst hof
      exact ⟨q, hq, hmark q ▸ he.2, belongs_iff.2 hid'⟩
    · rintro ⟨q, hq, hm, hbq⟩
      refine ⟨readBack P q.2, List.mem_filter.2 ⟨?_, ?_⟩, ?_⟩
      · exact hperm.mem_iff.2 (List.mem_map.2 ⟨q, hq, rfl⟩)
      · exact (hmark q).trans hm
      · exact changesetOf_readBack (h.represents.payloadKeys hq) hne (belongs_iff.1 hbq)
  rw [visibleEvents, List.mem_filter, hmark,
    changesetOf_readBack (h.represents.payloadKeys hp) hne hid]
  simp only [hin, true_and, Option.all_some, Bool.or_eq_true, List.contains_iff_mem, hcommitted]
  constructor
  · rintro (hm | hm)
    · exact ⟨p, hp, hm, hb⟩
    · exact hm
  · exact .inr

/-- Where every marker lists its events, a reader sees them exactly. -/
theorem Journalled.allOrNothing {log : List (List String × Event)} {calls : List (ApplyCall P)}
    (hP : P.HexDigests) (h : Journalled P S calls disk log) (hl : Listed log)
    (changesetId : String) : AllOrNothing P S disk changesetId := by
  obtain ⟨ordered, _, hiter, _, hperm⟩ := h.represents.iterEvents hP
  refine ⟨visibleEvents P ordered, hiter, ?_⟩
  by_cases hnone : (visibleEvents P ordered).filter (belongs changesetId) = []
  · exact .inl hnone
  right
  -- some event of the changeset is seen, so its marker is in the journal
  have hmark : ∃ q ∈ log, isMarker q.2 ∧ belongs changesetId q.2 := by
    obtain ⟨e, he⟩ := List.exists_mem_of_ne_nil _ hnone
    obtain ⟨hev, heb⟩ := List.mem_filter.1 he
    obtain ⟨p, hp, rfl⟩ := List.mem_map.1 (hperm.mem_iff.1 (List.mem_of_mem_filter hev))
    rw [h.belongs_readBack hP hp] at heb
    exact (h.mem_visible hP hperm hp heb).1 hev
  obtain ⟨q, hq, hqm, hqb⟩ := hmark
  obtain ⟨ids, hids, hlist⟩ := hl q hq hqm changesetId hqb
  have hall : (visibleEvents P ordered).filter (belongs changesetId) =
      ordered.filter (belongs changesetId) := by
    rw [visibleEvents, List.filter_filter]
    apply List.filter_congr
    intro e he
    obtain ⟨p, hp, rfl⟩ := List.mem_map.1 (hperm.mem_iff.1 he)
    by_cases hb : belongs changesetId (readBack P p.2)
    · have hb' := hb
      rw [h.belongs_readBack hP hp] at hb'
      have hvis := (h.mem_visible hP hperm hp hb').2 ⟨q, hq, hqm, hqb⟩
      rw [visibleEvents, List.mem_filter] at hvis
      rw [hb, Bool.true_and]
      exact hvis.2
    · rw [Bool.eq_false_iff.2 hb, Bool.false_and]
  have hown : (ordered.filter (belongs changesetId)).Perm
      ((log.filter fun p => belongs changesetId p.2).map fun p => readBack P p.2) := by
    rw [← filter_belongs_readBack hP h]
    exact hperm.filter _
  refine ⟨readBack P q.2, ?_, ?_, ids, ?_, ?_⟩
  · rw [hall, hown.mem_iff]
    exact List.mem_map.2 ⟨q, List.mem_filter.2 ⟨hq, hqb⟩, rfl⟩
  · rw [isMarker, readBack_eventType]
    exact hqm
  · rw [lookup_readBack P (h.represents.payloadKeys hq), hids]
    simp [Value.ofStrings, Value.canonical_list, Value.canonical_str]
  · rw [hall, readBack_eventId]
    apply (hown.map Event.eventId).trans
    rw [List.map_map]
    simpa [Function.comp_def] using hlist

theorem placeOf_eq (P : Platform) (root : List String) (event : Event) :
    placeOf P root event = (monthOf P event.occurredAt).map fun partition =>
      root ++ partition ++ [event.eventId ++ ".json"] := by
  have hm : monthOf P event.occurredAt = (eventPartition P event).toOption := rfl
  rw [placeOf, hm]
  cases eventPartition P event with
  | ok partition => rfl
  | error error => rfl

theorem buildEvents_mapIdx (h : buildEvents P changeset 0 changeset.operations st = .ok events) :
    changeset.operations.mapIdx (changesetOperationEventId P changeset.changesetId) =
      events.map Event.eventId := by
  rw [buildEvents_ids h, List.mapIdx_eq_zipIdx_map]

section

variable {P : Platform} {S : ChangesetSettings} {log added : List (List String × Event)}
  {calls calls' : List (ApplyCall P)} {changeset : ChangeSet} {existing events : List Event}

/-- What the journal has of a changeset before its marker is written. -/
theorem leftover_of_mem (hP : P.HexDigests) (h : Journalled P S calls disk log)
    (hatt : Attempt P S disk changeset existing st events) (hq : q ∈ log)
    (hb : belongs changeset.changesetId q.2) :
    readBack P q.2 ∈ leftovers P S disk changeset.changesetId := by
  obtain ⟨ordered, hall, _, _, hperm⟩ := h.represents.iterEvents hP
  have hnone : (ordered.filter (belongs changeset.changesetId)).any isMarker = false := by
    rw [List.any_eq_false]
    intro e he hm
    obtain ⟨hin, heb⟩ := List.mem_filter.1 he
    obtain ⟨p, hp, rfl⟩ := List.mem_map.1 (hperm.mem_iff.1 hin)
    rw [h.belongs_readBack hP hp, belongs_iff] at heb
    rw [isMarker, readBack_eventType] at hm
    exact no_marker hP h.represents hatt.journal hatt.unmarked hp hm heb
  rw [leftovers, hall]
  simp only
  rw [if_neg (by rw [hnone]; exact Bool.false_ne_true), List.mem_filter, h.belongs_readBack hP hq]
  exact ⟨hperm.mem_iff.2 (List.mem_map.2 ⟨q, hq, rfl⟩), hb⟩

/-- Every event of the changeset is named by one of its ids and lies in its month. -/
theorem owned (hP : P.HexDigests) (h : Journalled P S calls disk log)
    (hatt : Attempt P S disk changeset existing st events)
    (hc : continues P S disk changeset)
    (hmem : ∀ p ∈ added, p.2 ∈ builtFor P changeset events) (hq : q ∈ log ++ added)
    (hb : belongs changeset.changesetId q.2) :
    q.2.eventId ∈ (builtFor P changeset events).map Event.eventId ∧
    monthOf P q.2.occurredAt = monthOf P changeset.generatedAt := by
  rcases List.mem_append.1 hq with hq | hq
  · rw [continues, Bool.and_eq_true, List.all_eq_true] at hc
    have hleft := hc.2 _ (leftover_of_mem hP h hatt hq hb)
    rw [Bool.and_eq_true, List.contains_iff_mem, beq_iff_eq, buildEvents_mapIdx hatt.built,
      readBack_eventId, readBack_occurredAt] at hleft
    constructor
    · rw [builtFor, List.map_append]
      exact List.mem_append_left _ hleft.1
    · exact hleft.2
  · constructor
    · exact List.mem_map.2 ⟨q.2, hmem q hq, rfl⟩
    · rw [(hatt.writtenFor hP q.2 (hmem q hq)).occurredAt]

/-- A stored event of the changeset is known by its id. -/
theorem eq_of_eventId (hP : P.HexDigests) (h : Journalled P S calls disk log)
    (hatt : Attempt P S disk changeset existing st events)
    (hc : continues P S disk changeset) (h' : Journalled P S calls' disk' (log ++ added))
    (hmem : ∀ p ∈ added, p.2 ∈ builtFor P changeset events)
    (hp : p ∈ log ++ added) (hq : q ∈ log ++ added) (hbp : belongs changeset.changesetId p.2)
    (hbq : belongs changeset.changesetId q.2) (hi : p.2.eventId = q.2.eventId) : p = q := by
  have hmonth := (owned hP h hatt hc hmem hp hbp).2
  rw [← (owned hP h hatt hc hmem hq hbq).2] at hmonth
  have hplace : placeOf P S.eventDir p.2 = placeOf P S.eventDir q.2 := by
    rw [placeOf_eq, placeOf_eq, hmonth, hi]
  rw [(h'.represents.admitted p hp).2, (h'.represents.admitted q hq).2] at hplace
  exact h'.represents.eq_of_path hp hq (Option.some.inj hplace)

/-- A stored event that counts as one built for a changeset. -/
theorem stored_of_built (hP : P.HexDigests) (h' : Journalled P S calls' disk' (log ++ added))
    (hatt : Attempt P S disk changeset existing st events)
    (he : e ∈ builtFor P changeset events)
    (hcov : ∀ e ∈ builtFor P changeset events, ∃ p ∈ log ++ added, p.2.entry = e.entry) :
    ∃ q ∈ log ++ added, belongs changeset.changesetId q.2 ∧ q.2.eventId = e.eventId ∧
      isMarker q.2 = isMarker e := by
  obtain ⟨q, hq, hentry⟩ := hcov e he
  have hw := hatt.writtenFor hP e he
  have hs := sameEntry_of_entry hentry
  obtain ⟨id, _, hid⟩ := h'.hasChangeset hP hq
  have hsame := changesetId_of_entry (h'.represents.payloadKeys hq) hw.distinct hentry hid
    hw.changesetId
  refine ⟨q, hq, ?_, ?_, ?_⟩
  · rw [belongs_iff, hid, hsame]
  · apply hs.eventId
    rw [hs.schemaVersion, hw.schemaVersion]
    omega
  · rw [isMarker, hs.eventType, isMarker]

/-- A call that writes its marker over events it continues leaves every marker with its events. -/
theorem Listed.append (hP : P.HexDigests) (h : Journalled P S calls disk log) (hl : Listed log)
    (hatt : Attempt P S disk changeset existing st events)
    (hc : continues P S disk changeset) (h' : Journalled P S calls' disk' (log ++ added))
    (hpre : written <+: builtFor P changeset events) (hmem : ∀ p ∈ added, p.2 ∈ written)
    (hcov : ∀ e ∈ written, ∃ p ∈ log ++ added, p.2.entry = e.entry) : Listed (log ++ added) := by
  have hadded : ∀ p ∈ added, p.2 ∈ builtFor P changeset events := fun p hp =>
    hpre.subset (hmem p hp)
  have howner : ∀ p ∈ added, ∀ id, belongs id p.2 → id = changeset.changesetId := by
    intro p hp id hb
    have hid := (hatt.writtenFor hP p.2 (hadded p hp)).changesetId
    rw [belongs_iff, hid] at hb
    exact (Value.str.inj (Option.some.inj hb)).symm
  intro p hp hm id hb
  rcases List.mem_append.1 hp with hp' | hp'
  · -- the call found no marker of its changeset, so this one is another's
    have hne : id ≠ changeset.changesetId := by
      intro he
      exact no_marker hP h.represents hatt.journal hatt.unmarked hp' hm (he ▸ belongs_iff.1 hb)
    obtain ⟨ids, hids, hperm⟩ := hl p hp' hm id hb
    refine ⟨ids, hids, ?_⟩
    have hnone : (added.filter fun q => belongs id q.2) = [] := by
      rw [List.filter_eq_nil_iff]
      intro q hq hbq
      exact hne (howner q hq id hbq)
    rw [List.filter_append, hnone, List.append_nil]
    exact hperm
  · cases howner p hp' id hb
    have hbuilt : BuiltBy P changeset events := ⟨st, hatt.built⟩
    have hall := written_all hbuilt hpre (hmem p hp') hm
    subst hall
    have hmarker := marker_of_mem_builtFor hbuilt (hadded p hp') hm
    have hids : (builtFor P changeset events).map Event.eventId =
        events.map Event.eventId ++ [p.2.eventId] := by
      rw [builtFor, List.map_append, hmarker]
      rfl
    refine ⟨events.map Event.eventId, ?_, ?_⟩
    · rw [hmarker]
      simp [markerEvent, changesetEvent, markerPayload]
    · have hsort : (p.2.eventId :: events.map Event.eventId).Perm
          ((builtFor P changeset events).map Event.eventId) := by
        rw [hids]
        exact (List.perm_append_singleton _ _).symm
      apply List.Perm.trans _ hsort.symm
      rw [List.perm_ext_iff_of_nodup]
      · intro eventId
        rw [List.mem_map, List.mem_map]
        constructor
        · rintro ⟨q, hq, rfl⟩
          obtain ⟨hq, hbq⟩ := List.mem_filter.1 hq
          exact List.mem_map.1 (owned hP h hatt hc hadded hq hbq).1
        · rintro ⟨e, he, rfl⟩
          obtain ⟨q, hq, hbq, hi, _⟩ := stored_of_built hP h' hatt he hcov
          exact ⟨q, List.mem_filter.2 ⟨hq, hbq⟩, hi⟩
      · apply List.Nodup.map_on
        · intro a ha b hb' hi
          obtain ⟨ha, hba⟩ := List.mem_filter.1 ha
          obtain ⟨hb', hbb⟩ := List.mem_filter.1 hb'
          exact eq_of_eventId hP h hatt hc h' hadded ha hb' hba hbb hi
        · exact h'.represents.paths.of_map.filter _
      · rw [← hsort.nodup_iff, List.nodup_cons]
        constructor
        · intro hin
          obtain ⟨e, he, hi⟩ := List.mem_map.1 hin
          obtain ⟨q, hq, hbq, hqi, hqm⟩ := stored_of_built hP h' hatt
            (List.mem_append_left _ he) hcov
          have heq := eq_of_eventId hP h hatt hc h' hadded hq hp hbq hb (hqi.trans hi)
          rw [not_isMarker_of_mem hbuilt he, heq, hm] at hqm
          cases hqm
        · rw [continues, Bool.and_eq_true, decide_eq_true_eq, buildEvents_mapIdx hatt.built] at hc
          exact hc.1

end

/-- A run of calls each of which continues what is left of its changeset. -/
theorem allOrNothing_of_continues {calls : List (ApplyCall P)} (hP : P.HexDigests)
    (h : EmptyRoot S.eventDir start)
    (hrun : (changesets P S).Guarded (fun disk call => continues P S disk call.changeset) start
      calls) (changesetId : String) :
    AllOrNothing P S ((changesets P S).after start calls) changesetId := by
  have hinv : ∃ calls' log, Journalled P S calls' ((changesets P S).after start calls) log ∧
      Listed log := by
    apply Machine.guarded_invariant
      (I := fun disk => ∃ calls' log, Journalled P S calls' disk log ∧ Listed log)
      (changesets P S) _ _ hrun
    · rintro disk call ⟨calls', log, hj, hl⟩ hc
      obtain ⟨added, hj', heff⟩ := hj.step hP call
      refine ⟨_, log ++ added, hj', ?_⟩
      cases heff with
      | kept _ =>
        rw [List.append_nil]
        exact hl
      | wrote hatt hpre hmem hcov _ => exact hl.append hP hj hatt hc hj' hpre hmem hcov
    · exact ⟨[], [], journalled_nil (h.represents P), by simp [Listed]⟩
  obtain ⟨calls', log, hj, hl⟩ := hinv
  exact hj.allOrNothing hP hl changesetId

/-- A creation that stops before its marker, and its retry generated again in the next month. -/
def stoppedCreation : ApplyCall samplePlatform :=
  { createdCandidate with stops := some 1 }

def regeneratedCreation : ApplyCall samplePlatform where
  changeset := sampleChangeset "create" "2026-08-01T00:00:00Z" [sampleOperation .createCandidate]
  stops := none
  wellFormed := by decide
  distinct := by decide

theorem regeneratedCreation_run :
    let M := changesets samplePlatform {}
    let stopped := (M.step {} stoppedCreation).1
    continues samplePlatform {} {} stoppedCreation.changeset ∧
    continues samplePlatform {} stopped createdCandidate.changeset ∧
    isApplied (M.output {} [stoppedCreation] regeneratedCreation) ∧
    ((iterEvents samplePlatform ["events"] (M.after {} [stoppedCreation, regeneratedCreation])
      false).toOption.any fun events =>
        (events.filter (belongs "create")).length == 3 && events.all fun event =>
          !isMarker event || (fieldOf event.payload "event_ids").strings.length == 1) := by
  decide +kernel

/-- The retry makes the event of the stopped call visible beside the one its marker lists. -/
theorem orphan_visible :
    isApplied ((changesets samplePlatform {}).output {} [stoppedCreation] regeneratedCreation) ∧
    ¬ AllOrNothing samplePlatform {}
      ((changesets samplePlatform {}).after {} [stoppedCreation, regeneratedCreation]) "create" := by
  obtain ⟨_, _, happlied, hshown⟩ := regeneratedCreation_run
  refine ⟨happlied, ?_⟩
  rintro ⟨events, hiter, hnone | ⟨marker, hm, hmark, ids, hids, hperm⟩⟩
  all_goals
    have hiter' : iterEvents samplePlatform ["events"]
        ((changesets samplePlatform {}).after {} [stoppedCreation, regeneratedCreation]) false =
          .ok events := hiter
    rw [hiter'] at hshown
    simp only [Except.toOption, Option.any_some, Bool.and_eq_true, beq_iff_eq, List.all_eq_true,
      Bool.or_eq_true] at hshown
  · rw [hnone] at hshown
    exact absurd hshown.1 (by decide)
  · have hlength := hperm.length_eq
    rw [List.length_map, hshown.1, List.length_cons] at hlength
    rcases hshown.2 marker (List.mem_of_mem_filter hm) with hnot | hone
    · rw [hmark] at hnot
      cases hnot
    · rw [fieldOf, hids, Option.getD_some, Value.strings_ofStrings] at hone
      omega

theorem allOrNothing_of_continues_retried : AllOrNothing samplePlatform {}
    ((changesets samplePlatform {}).after {} [stoppedCreation, createdCandidate]) "create" := by
  obtain ⟨hstopped, hcontinues, _⟩ := regeneratedCreation_run
  apply allOrNothing_of_continues samplePlatform_hexDigests (emptyRoot_empty _)
  rw [Machine.guarded_cons, Machine.guarded_cons]
  exact ⟨hstopped, hcontinues, Machine.guarded_nil _⟩

end ExternalIntelligence
