import ExternalIntelligence.AppendRead
import ExternalIntelligence.ChangesetAccepted
import ExternalIntelligence.ChangesetRuns
import ExternalIntelligence.ReplayAgreement

namespace ExternalIntelligence
set_option autoImplicit true

/-- The status that `_states` gives a pattern of the journal. -/
def patternStatus (P : Platform) (S : ChangesetSettings) (disk : Disk) (patternId : String) :
    Option Value :=
  match journalEvents P S disk with
  | .error _ => none
  | .ok events =>
    if events.any (ofPattern patternId) then
      match states P events with
      | .ok st => statusOf (st.find patternId)
      | .error _ => none
    else none

/-- An operation that makes its target active: a promotion or a revision. -/
def ChangeOperation.activates (operation : ChangeOperation) (patternId : String) : Prop :=
  operation.targetId = some patternId ∧
    (operation.operation = .promotePattern ∨ operation.operation = .revisePattern)

/-- No target is a name that a pattern has only from its cluster. -/
def namesPatterns (P : Platform) (S : ChangesetSettings) (disk : Disk) (changeset : ChangeSet) : Bool :=
  match journalEvents P S disk with
  | .error _ => true
  | .ok events =>
    match states P events with
    | .error _ => true
    | .ok st => changeset.operations.all fun operation => operation.targetId.all fun target =>
        !(st.find target).isSome || events.any (ofPattern target)

theorem namesPatterns_target (h : namesPatterns P S disk changeset)
    (hj : journalEvents P S disk = .ok events) (hs : states P events = .ok st)
    (ho : operation ∈ changeset.operations) (ht : operation.targetId = some target)
    (hf : (st.find target).isSome) : events.any (ofPattern target) := by
  rw [namesPatterns, hj] at h
  simp only [hs, List.all_eq_true] at h
  have hall := h operation ho
  rw [ht, Option.all_some, hf] at hall
  simpa using hall

theorem patternIdOf_canonical (h : (Dict.keys payload).Nodup) :
    patternIdOf (Value.canonicalObject payload) = patternIdOf payload := by
  rw [patternIdOf, patternIdOf, Value.lookup_canonicalObject h]
  cases payload.lookup "pattern_id" with
  | none => rfl
  | some value => cases value <;> rfl

theorem ofPattern_readBack (P : Platform) (h : (Dict.keys event.payload).Nodup)
    (patternId : String) : ofPattern patternId (readBack P event) = ofPattern patternId event := by
  rw [ofPattern, ofPattern, readBack_payload, patternIdOf_canonical h, isPatternEvent,
    isPatternEvent, readBack_eventType]

theorem writtenStatus_readBack (P : Platform) (event : Event) :
    writtenStatus (readBack P event) = writtenStatus event := by
  rw [writtenStatus, writtenStatus, readBack_eventType]

theorem evidencePayload_pattern
    (h : evidencePayload P operation state common = .ok (type, payload)) :
    payload.lookup "pattern_id" = some (optionalText operation.targetId) ∧
    (type = "pattern.revised" → statusOf state = some (.str "active")) := by
  unfold evidencePayload at h
  obtain ⟨body, _, h⟩ := Except.bind_eq_ok.1 h
  obtain ⟨revision, _, h⟩ := Except.bind_eq_ok.1 h
  cases h
  constructor
  · rw [Dict.lookup_update_of_notMem (by simp [Dict.keys]), Dict.lookup_set_self]
  · intro ht
    by_cases ha : fieldOf (state.getD []) "status" = .str "active"
    · cases state with
      | none => simp [fieldOf] at ha
      | some state =>
        simp only [fieldOf, Option.getD_some] at ha
        cases hl : state.lookup "status" with
        | none => simp [hl] at ha
        | some value => simpa [statusOf, hl] using ha
    · rw [if_neg (by simpa using ha)] at ht
      exact absurd ht (by decide)

theorem updatePayload_pattern (h : updatePayload P operation state common = .ok payload) :
    payload.lookup "pattern_id" = some (optionalText operation.targetId) := by
  unfold updatePayload at h
  obtain ⟨body, _, h⟩ := Except.bind_eq_ok.1 h
  obtain ⟨revision, _, h⟩ := Except.bind_eq_ok.1 h
  cases h
  rw [Dict.lookup_update_of_notMem (by simp [Dict.keys, reasonFields]), Dict.lookup_set_self]

/-- An event that makes a pattern active names the target of its operation, and an evidence
operation writes it only for a target that is active. -/
theorem eventPayload_active (h : eventPayload P changeset operation state = .ok (type, payload))
    (ht : type = "pattern.promoted" ∨ type = "pattern.revised") :
    payload.lookup "pattern_id" = some (optionalText operation.targetId) ∧
    (operation.operation = .promotePattern ∨ operation.operation = .revisePattern ∨
      operation.operation = .attachEvidence ∧ statusOf state = some (.str "active")) := by
  have hp := (eventPayload_built h).1
  unfold eventPayload at h
  simp only at h hp
  split at h
  · cases h
  cases hop : operation.operation with
  | attachEvidence =>
    rw [hop] at h hp
    have hb := evidencePayload_pattern h
    have hr : type = "pattern.revised" := by
      rcases ht with rfl | rfl
      · simp [permittedEventTypes] at hp
      · rfl
    exact ⟨hb.1, .inr (.inr ⟨rfl, hb.2 hr⟩)⟩
  | promotePattern =>
    rw [hop] at h
    obtain ⟨payload', hp', he⟩ := Except.map_eq_ok.1 h
    cases he
    exact ⟨updatePayload_pattern hp', .inl rfl⟩
  | revisePattern =>
    rw [hop] at h
    obtain ⟨payload', hp', he⟩ := Except.map_eq_ok.1 h
    cases he
    exact ⟨updatePayload_pattern hp', .inr (.inl rfl)⟩
  | createObservation | createCandidate | deprecatePattern | tombstonePattern | redactReference
    | noChange =>
    rw [hop] at hp
    rcases ht with rfl | rfl <;> simp [permittedEventTypes] at hp

/-- No other of the targets stands for the state of a pattern. -/
structure Apart (st : StateMap) (patternId : String) (targets : List String) : Prop where
  bound : ∀ key i, st.keys.lookup key = some i → i < st.objects.length
  apart : ∀ target ∈ targets, target ≠ patternId → ∀ i, st.keys.lookup target = some i →
    st.keys.lookup patternId ≠ some i

theorem Apart.put (h : Apart st patternId targets) (key : String) (state : Fields) :
    Apart (st.put key state) patternId targets := by
  constructor
  · intro key' i hl
    simp only [StateMap.put, Dict.lookup_set, List.length_append, List.length_singleton] at hl ⊢
    split at hl
    · cases hl
      omega
    · have := h.bound key' i hl
      omega
  · intro target ht hne i hl hp
    simp only [StateMap.put, Dict.lookup_set] at hl hp
    split at hl
    · rename_i hk
      rw [if_neg (by rw [hk]; exact hne)] at hp
      cases hl
      exact absurd (h.bound patternId _ hp) (lt_irrefl _)
    · split at hp
      · cases hp
        exact absurd (h.bound target _ hl) (lt_irrefl _)
      · exact h.apart target ht hne i hl hp

theorem Apart.write (h : Apart st patternId targets) (key field : String) (value : Value) :
    Apart (st.write key field value) patternId targets := by
  unfold StateMap.write
  split
  · exact h
  · constructor
    · intro key' i hl
      simpa using h.bound key' i hl
    · exact h.apart

theorem find_put (st : StateMap) (key : String) (state : Fields)
    (h : ∀ key i, st.keys.lookup key = some i → i < st.objects.length) (key' : String) :
    (st.put key state).find key' = if key = key' then some state else st.find key' := by
  simp only [StateMap.find, StateMap.put, Dict.lookup_set]
  split
  · simp
  · cases hl : st.keys.lookup key' with
    | none => rfl
    | some i =>
      simp only [Option.bind_some]
      rw [List.getElem?_append_left (h key' i hl)]

theorem find_write_of_apart (h : Apart st patternId targets) (ht : target ∈ targets)
    (hne : target ≠ patternId) (field : String) (value : Value) :
    (st.write target field value).find patternId = st.find patternId := by
  unfold StateMap.write
  cases hl : st.keys.lookup target with
  | none => rfl
  | some i =>
    simp only [StateMap.find]
    cases hp : st.keys.lookup patternId with
    | none => rfl
    | some j =>
      have hij : i ≠ j := by
        intro he
        exact h.apart target ht hne i hl (he ▸ hp)
      simp [List.getElem?_modify, hij]

theorem find_write_self (st : StateMap) (key field : String) (value : Value) :
    (st.write key field value).find key = (st.find key).map (Dict.set field value) := by
  unfold StateMap.write
  cases hl : st.keys.lookup key with
  | none => simp [StateMap.find, hl]
  | some i => simp [StateMap.find, hl]

theorem statusOf_write (st : StateMap) (key : String) (status : String)
    (h : statusOf ((st.write key "status" (.str status)).find key) = some v) :
    v = .str status := by
  rw [find_write_self] at h
  cases hf : st.find key with
  | none => simp [hf, statusOf] at h
  | some state =>
    simp only [hf, Option.map_some, statusOf, Option.bind_some, Dict.lookup_set_self] at h
    exact (Option.some.inj h).symm

/-- Only an operation that activates a pattern makes its state active for the ones after it. -/
theorem advance_active (h : advance P st operation payload = .ok st')
    (hsep : Apart st patternId targets)
    (ht : ∀ target, operation.targetId = some target → target ∈ targets) :
    Apart st' patternId targets ∧
    (statusOf (st'.find patternId) = some (.str "active") →
      statusOf (st.find patternId) = some (.str "active") ∨ operation.activates patternId) := by
  unfold advance at h
  split at h
  · cases h
    exact ⟨hsep, .inl⟩
  · cases h
    exact ⟨hsep, .inl⟩
  · rename_i target _ htarget
    split at h
    · obtain ⟨provenances, _, rfl⟩ := Except.map_eq_ok.1 h
      refine ⟨hsep.put _ _, fun ha => ?_⟩
      rw [find_put _ _ _ hsep.bound] at ha
      split at ha
      · simp [statusOf] at ha
      · exact .inl ha
    · have hwrite : ∀ status, statusOf ((st.write target "status" (.str status)).find patternId) =
          some (.str "active") → statusOf (st.find patternId) = some (.str "active") ∨
            target = patternId ∧ status = "active" := by
        intro status ha
        by_cases he : target = patternId
        · subst he
          have := statusOf_write st target status ha
          simp only [Value.str.injEq] at this
          exact .inr ⟨rfl, this.symm⟩
        · rw [find_write_of_apart hsep (ht target htarget) he] at ha
          exact .inl ha
      simp only at h
      split at h
      · rename_i hop
        cases h
        refine ⟨hsep.write _ _ _, fun ha => ?_⟩
        rcases hwrite _ ha with ha | ⟨rfl, _⟩
        · exact .inl ha
        · exact .inr ⟨htarget, .inl hop⟩
      · rename_i hop
        cases h
        refine ⟨hsep.write _ _ _, fun ha => ?_⟩
        rcases hwrite _ ha with ha | ⟨rfl, _⟩
        · exact .inl ha
        · exact .inr ⟨htarget, .inr hop⟩
      · cases h
        refine ⟨hsep.write _ _ _, fun ha => ?_⟩
        rcases hwrite _ ha with ha | ⟨_, hs⟩
        · exact .inl ha
        · exact absurd hs (by decide)
      · cases h
        refine ⟨hsep.write _ _ _, fun ha => ?_⟩
        rcases hwrite _ ha with ha | ⟨_, hs⟩
        · exact .inl ha
        · exact absurd hs (by decide)
      · cases h
        exact ⟨hsep, .inl⟩

theorem type_of_active (h : writtenStatus event = "active") :
    event.eventType = "pattern.promoted" ∨ event.eventType = "pattern.revised" := by
  rw [writtenStatus] at h
  cases hl : statusOfType.lookup event.eventType with
  | none =>
    rw [hl] at h
    exact absurd h (by decide)
  | some status =>
    rw [hl, Option.getD_some] at h
    subst h
    have hm := Dict.mem_of_lookup hl
    simpa [statusOfType] using hm

theorem patternIdOf_eq_some (h : payload.lookup "pattern_id" = some (optionalText target))
    (hp : patternIdOf payload = some patternId) : target = some patternId ∧ patternId ≠ "" := by
  cases target with
  | none => simp [patternIdOf, h, optionalText] at hp
  | some t =>
    simp only [patternIdOf, h, optionalText] at hp
    split at hp
    · cases hp
    · rename_i hne
      cases hp
      exact ⟨rfl, hne⟩

/-- Where no operation activates a pattern that is not active, no event makes it active. -/
theorem buildEvents_active (h : buildEvents P changeset index ops st = .ok events)
    (hsep : Apart st patternId targets)
    (ht : ∀ operation ∈ ops, ∀ target, operation.targetId = some target → target ∈ targets)
    (hst : statusOf (st.find patternId) ≠ some (.str "active")) (he : e ∈ events)
    (hp : ofPattern patternId e) (ha : writtenStatus e = "active") :
    ∃ operation ∈ ops, operation.activates patternId := by
  induction ops generalizing index st events with
  | nil =>
    cases h
    cases he
  | cons operation later ih =>
    obtain ⟨type, payload, st', rest, hbuilt, hadv, hrest, rfl⟩ := buildEvents_cons_ok.1 h
    obtain ⟨hsep', hact⟩ := advance_active hadv hsep (ht operation List.mem_cons_self)
    rcases List.mem_cons.1 he with rfl | he
    · simp only [ofPattern, Bool.and_eq_true, beq_iff_eq] at hp
      obtain ⟨hpattern, hkind⟩ := eventPayload_active hbuilt (type_of_active ha)
      obtain ⟨htarget, hne⟩ := patternIdOf_eq_some hpattern hp.2
      refine ⟨operation, List.mem_cons_self, htarget, ?_⟩
      rcases hkind with hk | hk | ⟨_, hk⟩
      · exact .inl hk
      · exact .inr hk
      · rw [htarget, targetState, if_neg hne] at hk
        exact absurd hk hst
    · by_cases hst' : statusOf (st'.find patternId) = some (.str "active")
      · rcases hact hst' with ha' | ha'
        · exact absurd ha' hst
        · exact ⟨operation, List.mem_cons_self, ha'⟩
      · obtain ⟨o, ho, hoa⟩ := ih hrest hsep'
          (fun o ho => ht o (List.mem_cons_of_mem _ ho)) hst' he
        exact ⟨o, List.mem_cons_of_mem _ ho, hoa⟩

theorem getElem_of_lookup_zipIdx {keys : List String} (h : (keys.zipIdx n).lookup key = some i) :
    n ≤ i ∧ keys[i - n]? = some key := by
  induction keys generalizing n with
  | nil => cases h
  | cons k keys ih =>
    rw [List.zipIdx_cons, Dict.lookup_cons] at h
    split at h
    · rename_i hk
      cases h
      simp [hk]
    · obtain ⟨hn, hi⟩ := ih h
      refine ⟨by omega, ?_⟩
      rw [show i - n = i - (n + 1) + 1 from by omega, List.getElem?_cons_succ]
      exact hi

theorem nameCluster_bound {keys : List (String × Nat)}
    (h : ∀ key i, keys.lookup key = some i → i < n) (hs : state.2 < n) :
    ∀ key i, (nameCluster P keys state).lookup key = some i → i < n := by
  intro key i hl
  unfold nameCluster at hl
  simp only at hl
  split at hl
  · rw [Dict.lookup_set] at hl
    split at hl
    · cases hl
      exact hs
    · exact h key i hl
  · exact h key i hl

theorem nameClusters_bound {objects : List (Fields × Nat)} {keys : List (String × Nat)}
    (h : ∀ key i, keys.lookup key = some i → i < n) (ho : ∀ state ∈ objects, state.2 < n) :
    ∀ key i, (objects.foldl (nameCluster P) keys).lookup key = some i → i < n := by
  induction objects generalizing keys with
  | nil => exact h
  | cons state objects ih =>
    apply ih (nameCluster_bound h (ho state List.mem_cons_self))
    intro s hs
    exact ho s (List.mem_cons_of_mem _ hs)

theorem states_bound (h : states P events = .ok st) :
    ∀ key i, st.keys.lookup key = some i → i < st.objects.length := by
  unfold states at h
  obtain ⟨result, _, rfl⟩ := Except.map_eq_ok.1 h
  apply nameClusters_bound
  · intro key i hl
    obtain ⟨_, hi⟩ := getElem_of_lookup_zipIdx hl
    have := (List.getElem?_eq_some_iff.1 hi).1
    simpa [Dict.keys] using this
  · intro state hs
    have := (List.mem_zipIdx hs).2.1
    simpa using this

theorem find_isSome {st : StateMap} (h : ∀ key i, st.keys.lookup key = some i → i < st.objects.length)
    (hl : st.keys.lookup key = some i) : (st.find key).isSome := by
  simp [StateMap.find, hl, h key i hl]

/-- The place of a pattern among the states. -/
theorem index_of_pattern (h : states P events = .ok st) (hr : replay P events = .ok result)
    (hk : (result.lookup key).isSome) (hl : st.keys.lookup key = some i) :
    (Dict.keys result)[i]? = some key := by
  unfold states at h
  obtain ⟨_, hr', rfl⟩ := Except.map_eq_ok.1 h
  cases hr.symm.trans hr'
  rw [← (lookup_zipIdx result key 0).1] at hk
  obtain ⟨j, hj⟩ := Option.isSome_iff_exists.1 hk
  simp only [lookup_nameClusters P _ hj, Option.some.injEq] at hl
  subst hl
  exact (getElem_of_lookup_zipIdx hj).2

theorem states_apart (h : states P events = .ok st) (hr : replay P events = .ok result)
    (hown : ∀ target ∈ targets, (st.find target).isSome → (result.lookup target).isSome)
    (hp : (st.find patternId).isSome → (result.lookup patternId).isSome) :
    Apart st patternId targets := by
  have hbound := states_bound h
  constructor
  · exact hbound
  · intro target ht hne i hl hl'
    have htarget := index_of_pattern h hr (hown target ht (find_isSome hbound hl)) hl
    have hpattern := index_of_pattern h hr (hp (find_isSome hbound hl')) hl'
    rw [htarget] at hpattern
    exact hne (Option.some.inj hpattern)

theorem isPatternEvent_markerEvent (P : Platform) (changeset : ChangeSet) (ids : List String) :
    isPatternEvent (markerEvent P changeset ids) = false := by
  simp only [isPatternEvent, markerEvent, changesetEvent]
  decide

theorem isPatternEvent_kind (h : Journalled P S calls disk log) (hp : p ∈ log)
    (hpat : isPatternEvent p.2) : (statusOfType.lookup p.2.eventType).isSome := by
  obtain ⟨call, _, events, ⟨st, hb⟩, hin⟩ := h.origin p hp
  rcases List.mem_append.1 hin with hin | hin
  · obtain ⟨i, operation, st', _, hof⟩ := buildEvents_mem hb hin
    obtain ⟨type, payload, hbuilt, he⟩ := hof.built
    have ht := (eventPayload_built hbuilt).1
    rw [he] at hpat ⊢
    simp only [changesetEvent, isPatternEvent] at hpat ⊢
    generalize operation.operation = kind at ht
    cases kind <;> simp only [permittedEventTypes, List.mem_cons, List.not_mem_nil, or_false] at ht
    case attachEvidence =>
      rcases ht with rfl | rfl <;> decide
    all_goals
      subst ht
      revert hpat
      decide
  · rw [List.mem_singleton.1 hin, isPatternEvent_markerEvent] at hpat
    cases hpat

/-- The marker of every event is in the journal. -/
def Committed (log : List (List String × Event)) : Prop :=
  ∀ p ∈ log, ∃ q ∈ log, isMarker q.2 ∧
    q.2.payload.lookup "changeset_id" = p.2.payload.lookup "changeset_id"

theorem safeId_ne_empty {changeset : ChangeSet} (h : changeset.postInit P = .ok ()) :
    changeset.changesetId ≠ "" := by
  intro he
  unfold ChangeSet.postInit at h
  rw [he] at h
  have hs : isSafeId "" = false := by decide
  simp only [hs, refuse_bind_ok] at h
  exact absurd h.1 (by decide)

theorem Journalled.hasChangeset {P : Platform} {calls : List (ApplyCall P)} (hP : P.HexDigests)
    (h : Journalled P S calls disk log) (hp : p ∈ log) :
    ∃ id, id ≠ "" ∧ p.2.payload.lookup "changeset_id" = some (.str id) := by
  obtain ⟨call, _, events, ⟨st, hb⟩, hin⟩ := h.origin p hp
  refine ⟨call.changeset.changesetId, safeId_ne_empty call.wellFormed, ?_⟩
  rcases List.mem_append.1 hin with hin | hin
  · obtain ⟨i, operation, st', _, hof⟩ := buildEvents_mem hb hin
    exact (hof.writtenFor hP).changesetId
  · rw [List.mem_singleton.1 hin]
    exact (markerEvent_writtenFor hP call.changeset _).changesetId

theorem changesetOf_readBack {id : String} (hd : (Dict.keys event.payload).Nodup) (hne : id ≠ "")
    (h : event.payload.lookup "changeset_id" = some (.str id)) :
    changesetOf P (readBack P event) = some id := by
  rw [changesetOf, lookup_readBack P hd, h]
  simp [Value.canonical_str, Value.truthy, hne, pyStr]

/-- Where every event is committed, a reader sees all of them. -/
theorem Journalled.visible {P : Platform} {calls : List (ApplyCall P)} (hP : P.HexDigests)
    (h : Journalled P S calls disk log) (hc : Committed log) :
    ∃ events, journalEvents P S disk = .ok events ∧ events.Pairwise eventLe ∧
      events.Perm (log.map fun p => readBack P p.2) := by
  obtain ⟨ordered, _, hiter, hsorted, hperm⟩ := h.represents.iterEvents hP
  have hall : visibleEvents P ordered = ordered := by
    rw [visibleEvents, List.filter_eq_self]
    intro e he
    obtain ⟨p, hp, rfl⟩ := List.mem_map.1 (hperm.mem_iff.1 he)
    obtain ⟨q, hq, hm, hid⟩ := hc p hp
    obtain ⟨id, hne, hpid⟩ := h.hasChangeset hP hp
    have hmark : isMarker (readBack P q.2) = true := by
      rw [isMarker, readBack_eventType]
      exact hm
    have hmem : id ∈ committedChangesets P ordered := by
      rw [committedChangesets, List.mem_filterMap]
      refine ⟨readBack P q.2, List.mem_filter.2 ⟨?_, hmark⟩, ?_⟩
      · exact hperm.mem_iff.2 (List.mem_map.2 ⟨q, hq, rfl⟩)
      · exact changesetOf_readBack (h.represents.payloadKeys hq) hne (hid.trans hpid)
    rw [changesetOf_readBack (h.represents.payloadKeys hp) hne hpid]
    simp [hmem]
  rw [hall] at hiter
  exact ⟨ordered, by rw [journalEvents, hiter], hsorted, hperm⟩

theorem any_ofPattern_iff (hr : replay P events = .ok result)
    (hk : ∀ e ∈ events, isPatternEvent e → (statusOfType.lookup e.eventType).isSome)
    (hsorted : events.Pairwise eventLe) :
    events.any (ofPattern patternId) = true → (result.lookup patternId).isSome := by
  intro hany
  obtain ⟨e, he, hof⟩ := List.any_eq_true.1 hany
  obtain ⟨last, hl⟩ := lastEvent_isSome he hof
  have hs := replay_status hk hsorted hr patternId
  rw [hl] at hs
  cases hlook : result.lookup patternId with
  | none => simp [hlook, statusOf] at hs
  | some state => rfl

/-- A pattern of the journal has the status its last event writes. -/
theorem patternStatus_eq (hj : journalEvents P S disk = .ok events)
    (hk : ∀ e ∈ events, isPatternEvent e → (statusOfType.lookup e.eventType).isSome)
    (hsorted : events.Pairwise eventLe) (hs : states P events = .ok st) (patternId : String) :
    patternStatus P S disk patternId =
      (lastEvent (ofPattern patternId) events).map fun e => .str (writtenStatus e) := by
  have hs' := hs
  unfold states at hs'
  obtain ⟨result, hr, _⟩ := Except.map_eq_ok.1 hs'
  rw [patternStatus, hj]
  simp only
  by_cases hany : events.any (ofPattern patternId)
  · rw [if_pos hany, hs]
    simp only
    rw [find_states hs hr (any_ofPattern_iff hr hk hsorted hany),
      replay_status hk hsorted hr patternId]
  · rw [if_neg hany]
    cases hl : lastEvent (ofPattern patternId) events with
    | none => rfl
    | some last =>
      obtain ⟨hm, hof⟩ := mem_of_lastEvent hl
      exact absurd (List.any_eq_true.2 ⟨last, hm, hof⟩) hany

/-- A status that a reader finds is that of the last event of the pattern. -/
theorem patternStatus_some (hj : journalEvents P S disk = .ok events)
    (hk : ∀ e ∈ events, isPatternEvent e → (statusOfType.lookup e.eventType).isSome)
    (hsorted : events.Pairwise eventLe) (h : patternStatus P S disk patternId = some value) :
    ∃ last, lastEvent (ofPattern patternId) events = some last ∧
      value = .str (writtenStatus last) := by
  cases hs : states P events with
  | error error =>
    simp [patternStatus, hj, hs] at h
  | ok st =>
    rw [patternStatus_eq hj hk hsorted hs] at h
    obtain ⟨last, hl, rfl⟩ := Option.map_eq_some_iff.1 h
    exact ⟨last, hl, rfl⟩

theorem lastEvent_le {choose : Event → Bool} (hsorted : events.Pairwise eventLe)
    (hl : lastEvent choose events = some last) (he : e ∈ events) (hc : choose e) :
    eventLe e last := by
  rw [lastEvent] at hl
  have hf := hsorted.filter choose
  have hm : e ∈ events.filter choose := List.mem_filter.2 ⟨he, hc⟩
  obtain ⟨init, hinit⟩ := List.getLast?_eq_some_iff.1 hl
  rw [hinit] at hf hm
  rcases List.mem_append.1 hm with hm | hm
  · exact (List.pairwise_append.1 hf).2.2 e hm last (by simp)
  · rw [List.mem_singleton.1 hm]
    exact (eventLe_total last last).elim id id

theorem eventLe_antisymm (hab : eventLe a b) (hba : eventLe b a) :
    a.occurredAt = b.occurredAt ∧ a.eventId = b.eventId := by
  rcases hab with hab | ⟨hab, hi⟩
  · rcases hba with hba | ⟨hba, _⟩
    · exact absurd (hab.trans hba) (lt_irrefl _)
    · exact absurd (hba ▸ hab) (lt_irrefl _)
  · rcases hba with hba | ⟨_, hj⟩
    · exact absurd (hab ▸ hba) (lt_irrefl _)
    · exact ⟨hab, le_antisymm hi hj⟩

/-- Stored events with one time and one identifier are one. -/
theorem Represents.eq_of_key {log : List (List String × Event)} (h : Represents P root disk log)
    (hp : p ∈ log) (hq : q ∈ log) (ht : p.2.occurredAt = q.2.occurredAt)
    (hi : p.2.eventId = q.2.eventId) : p = q := by
  apply h.eq_of_path hp hq
  have hplace : placeOf P root p.2 = placeOf P root q.2 := by
    rw [placeOf, placeOf, eventPartition, eventPartition, ht, hi]
  rw [(h.admitted p hp).2, (h.admitted q hq).2] at hplace
  exact Option.some.inj hplace

theorem changesetId_of_entry (ha : (Dict.keys a.payload).Nodup) (hb : (Dict.keys b.payload).Nodup)
    (h : Event.entry a = Event.entry b)
    (hida : a.payload.lookup "changeset_id" = some (.str id₁))
    (hidb : b.payload.lookup "changeset_id" = some (.str id₂)) : id₁ = id₂ := by
  have hs := congrArg (List.lookup "changeset_id") (sameEntry_of_entry h).payload
  rw [Value.lookup_canonicalObject ha, Value.lookup_canonicalObject hb, hida, hidb] at hs
  simpa [Value.canonical_str] using hs

/-- Writing all events of a changeset leaves no event without its marker. -/
theorem Committed.append {P : Platform} {log added : List (List String × Event)}
    {calls : List (ApplyCall P)} (hP : P.HexDigests) (hc : Committed log)
    (h : Journalled P S calls disk (log ++ added))
    (hw : ∀ e ∈ builtFor P changeset events, WrittenFor P changeset e)
    (hmem : ∀ p ∈ added, p.2 ∈ builtFor P changeset events)
    (hcov : ∀ e ∈ builtFor P changeset events, ∃ p ∈ log ++ added, p.2.entry = e.entry) :
    Committed (log ++ added) := by
  intro p hp
  rcases List.mem_append.1 hp with hp | hp
  · obtain ⟨q, hq, hm, hid⟩ := hc p hp
    exact ⟨q, List.mem_append_left _ hq, hm, hid⟩
  · have hmarker : markerEvent P changeset (events.map Event.eventId) ∈
        builtFor P changeset events := List.mem_append_right _ List.mem_cons_self
    obtain ⟨q, hq, he⟩ := hcov _ hmarker
    obtain ⟨id, _, hqid⟩ := h.hasChangeset hP hq
    have hmid := (hw _ hmarker).changesetId
    have hid := changesetId_of_entry (h.represents.payloadKeys hq) (hw _ hmarker).distinct he
      hqid hmid
    refine ⟨q, hq, ?_, ?_⟩
    · rw [isMarker, (sameEntry_of_entry he).eventType]
      exact isMarker_markerEvent P changeset _
    · rw [hqid, (hw _ (hmem p hp)).changesetId, hid]

theorem Journalled.kinds {log : List (List String × Event)} {calls : List (ApplyCall P)}
    {events : List Event} (h : Journalled P S calls disk log)
    (hperm : events.Perm (log.map fun p => readBack P p.2)) :
    ∀ e ∈ events, isPatternEvent e → (statusOfType.lookup e.eventType).isSome := by
  intro e he hpat
  obtain ⟨p, hp, rfl⟩ := List.mem_map.1 (hperm.mem_iff.1 he)
  rw [isPatternEvent, readBack_eventType] at hpat
  rw [readBack_eventType]
  exact isPatternEvent_kind h hp hpat

/-- An event of a pattern that a call adds comes from an operation on that pattern, and where it
makes the pattern active, from one that activates it. -/
theorem activates_of_event {calls : List (ApplyCall P)} {log : List (List String × Event)}
    (hatt : Attempt P S disk changeset existing st events)
    (hj : Journalled P S calls disk log) (hsorted : existing.Pairwise eventLe)
    (hperm : existing.Perm (log.map fun p => readBack P p.2))
    (hnames : namesPatterns P S disk changeset) (he : e ∈ events) (hp : ofPattern patternId e)
    (ha : writtenStatus e = "active")
    (hbefore : patternStatus P S disk patternId ≠ some (.str "active")) :
    ∃ operation ∈ changeset.operations, operation.activates patternId := by
  have hkinds := hj.kinds hperm
  have hs := hatt.states
  unfold states at hs
  obtain ⟨result, hr, _⟩ := Except.map_eq_ok.1 hs
  -- the operation of the event has the pattern as its target, so the state is not an alias
  obtain ⟨i, operation, st', hi, hof⟩ := buildEvents_mem hatt.built he
  have hop : operation ∈ changeset.operations := List.mem_of_getElem? hi
  obtain ⟨type, payload, hbuilt, hevent⟩ := hof.built
  have htarget : operation.targetId = some patternId := by
    have hp' := hp
    rw [hevent] at hp' ha
    simp only [ofPattern, changesetEvent, Bool.and_eq_true, beq_iff_eq] at hp'
    exact (patternIdOf_eq_some (eventPayload_active hbuilt (type_of_active ha)).1 hp'.2).1
  have hown : ∀ target, (∃ o ∈ changeset.operations, o.targetId = some target) →
      (st.find target).isSome → (result.lookup target).isSome := by
    rintro target ⟨o, ho, hot⟩ hsome
    apply any_ofPattern_iff hr hkinds hsorted
    exact namesPatterns_target hnames hatt.journal hatt.states ho hot hsome
  have hnot : statusOf (st.find patternId) ≠ some (.str "active") := by
    intro hst
    apply hbefore
    have hsome : (st.find patternId).isSome := by
      cases hf : st.find patternId with
      | none => simp [hf, statusOf] at hst
      | some state => rfl
    rw [patternStatus, hatt.journal]
    simp only
    rw [if_pos (namesPatterns_target hnames hatt.journal hatt.states hop htarget hsome),
      hatt.states]
    exact hst
  have hsep : Apart st patternId (changeset.operations.filterMap ChangeOperation.targetId) := by
    apply states_apart hatt.states hr
    · intro target ht
      exact hown target (List.mem_filterMap.1 ht)
    · exact hown patternId ⟨operation, hop, htarget⟩
  apply buildEvents_active hatt.built hsep _ hnot he hp ha
  intro o ho target hot
  exact List.mem_filterMap.2 ⟨o, ho, hot⟩

/-- Where the calls write every event, a pattern becomes active only by an operation that
activates it. -/
theorem Journalled.active_step {P : Platform} {log added : List (List String × Event)}
    {calls calls' : List (ApplyCall P)} (hP : P.HexDigests) (h : Journalled P S calls disk log)
    (hc : Committed log) (hatt : Attempt P S disk changeset existing st events)
    (hnames : namesPatterns P S disk changeset)
    (h' : Journalled P S calls' disk' (log ++ added)) (hc' : Committed (log ++ added))
    (hmem : ∀ p ∈ added, p.2 ∈ builtFor P changeset events)
    (ha : patternStatus P S disk' patternId = some (.str "active")) :
    patternStatus P S disk patternId = some (.str "active") ∨
      ∃ operation ∈ changeset.operations, operation.activates patternId := by
  obtain ⟨old, hold, hsorted, hperm⟩ := h.visible hP hc
  obtain ⟨new, hnew, hsorted', hperm'⟩ := h'.visible hP hc'
  cases hatt.journal.symm.trans hold
  by_cases hbefore : patternStatus P S disk patternId = some (.str "active")
  · exact .inl hbefore
  right
  obtain ⟨last, hlast, hv⟩ := patternStatus_some hnew (h'.kinds hperm') hsorted' ha
  have hactive : writtenStatus last = "active" := (Value.str.inj hv).symm
  obtain ⟨hin, hof⟩ := mem_of_lastEvent hlast
  obtain ⟨q, hq, rfl⟩ := List.mem_map.1 (hperm'.mem_iff.1 hin)
  have hkeys := h'.represents.payloadKeys hq
  rw [ofPattern_readBack P hkeys] at hof
  rw [writtenStatus_readBack] at hactive
  rcases List.mem_append.1 hq with hqold | hqnew
  · -- the last event was there before, and was the last one then
    exfalso
    have hofq : ofPattern patternId (readBack P q.2) := by
      rwa [ofPattern_readBack P hkeys]
    have hinold : readBack P q.2 ∈ existing :=
      hperm.mem_iff.2 (List.mem_map.2 ⟨q, hqold, rfl⟩)
    obtain ⟨l, hl⟩ := lastEvent_isSome hinold hofq
    obtain ⟨hlin, hlof⟩ := mem_of_lastEvent hl
    obtain ⟨r, hr, rfl⟩ := List.mem_map.1 (hperm.mem_iff.1 hlin)
    have hrnew : readBack P r.2 ∈ new :=
      hperm'.mem_iff.2 (List.mem_map.2 ⟨r, List.mem_append_left _ hr, rfl⟩)
    have hle := lastEvent_le hsorted hl hinold hofq
    have hge := lastEvent_le hsorted' hlast hrnew hlof
    obtain ⟨ht, hi⟩ := eventLe_antisymm hle hge
    simp only [readBack_occurredAt, readBack_eventId] at ht hi
    cases h.represents.eq_of_key hqold hr ht hi
    apply hbefore
    rw [patternStatus_eq hold (h.kinds hperm) hsorted hatt.states, hl, Option.map_some,
      writtenStatus_readBack, hactive]
  · have hb : BuiltBy P changeset events := ⟨st, hatt.built⟩
    have hevent : q.2 ∈ events := by
      rcases List.mem_append.1 (hmem q hqnew) with hm | hm
      · exact hm
      · rw [List.mem_singleton.1 hm] at hof
        simp [ofPattern, isPatternEvent_markerEvent] at hof
    exact activates_of_event hatt h hsorted hperm hnames hevent hof hactive hbefore

def isApplied (out : Except Raised ApplyResult) : Bool :=
  match out with
  | .ok result => result.applied
  | .error _ => false

theorem isApplied_iff : isApplied out ↔ ∃ result, out = .ok result ∧ result.applied = true := by
  cases out with
  | ok result => simp [isApplied]
  | error error => simp [isApplied]

/-- A call that writes all its events, or none. -/
def Finishes (P : Platform) (S : ChangesetSettings) (disk : Disk) (call : ApplyCall P) : Prop :=
  ((changesets P S).step disk call).1 = disk ∨ isApplied ((changesets P S).step disk call).2

/-- A disk whose journal holds whole changesets. -/
def Whole (P : Platform) (S : ChangesetSettings) (disk : Disk) : Prop :=
  ∃ calls log, Journalled P S calls disk log ∧ Committed log

/-- A call that has made a pattern active by one of its operations. -/
structure Activated (P : Platform) (S : ChangesetSettings) (policy : PromotionPolicy) (disk : Disk)
    (call : ApplyCall P) (patternId : String) : Prop where
  applied : isApplied ((changesets P S).step disk call).2
  operation : ∃ operation ∈ call.changeset.operations, operation.activates patternId ∧
    (operation.operation = .promotePattern → PromotionChecked P policy operation.payload)

theorem Attempt.promotionChecked (h : Attempt P S disk changeset existing st events)
    (hpolicy : S.policy = .ok policy) (hm : operation ∈ changeset.operations)
    (hop : operation.operation = .promotePattern) :
    PromotionChecked P policy operation.payload := by
  obtain ⟨result, hv, hvalid⟩ := h.valid
  obtain ⟨policy', _, _, _, hp, _, _, _, hrun⟩ := validateChangeset_valid hv hvalid
  cases hpolicy.symm.trans hp
  obtain ⟨loop, loop', hacc⟩ := hrun.accepts operation hm
  exact hacc.promotionChecked hop

/-- A finished call keeps the journal whole, and what it makes active it has activated. -/
theorem Whole.step (hP : P.HexDigests) (h : Whole P S disk) (hpolicy : S.policy = .ok policy)
    (hf : Finishes P S disk call) (hnames : namesPatterns P S disk call.changeset) :
    Whole P S ((changesets P S).step disk call).1 ∧ ∀ patternId,
      patternStatus P S ((changesets P S).step disk call).1 patternId = some (.str "active") →
      patternStatus P S disk patternId = some (.str "active") ∨
        Activated P S policy disk call patternId := by
  obtain ⟨calls, log, hj, hc⟩ := h
  obtain ⟨added, hj', heff⟩ := hj.step hP call
  rcases hf with hkept | happlied
  · rw [hkept]
    exact ⟨⟨calls, log, hj, hc⟩, fun _ => .inl⟩
  · obtain ⟨result, hr, ha⟩ := isApplied_iff.1 happlied
    simp only [changesets] at hr ⊢
    rw [hr] at heff
    cases heff with
    | kept hrepeat =>
      obtain ⟨found, hrep⟩ := hrepeat result rfl ha
      obtain ⟨existing, hexisting, hfound⟩ := hrep.journal
      rcases applyChangeset_cases P S disk call.changeset call.stops with ⟨hsame, _⟩ |
        ⟨_, _, _, _, hatt, _⟩
      · rw [hsame]
        exact ⟨⟨calls, log, hj, hc⟩, fun _ => .inl⟩
      · cases hatt.journal.symm.trans hexisting
        rw [hatt.unmarked] at hfound
        cases hfound
    | wrote hatt hpre hmem hcov hok =>
      obtain ⟨hall, _⟩ := hok result rfl ha
      subst hall
      have hw := hatt.writtenFor hP
      have hc' := hc.append hP hj' hw hmem hcov
      refine ⟨⟨_, _, hj', hc'⟩, fun patternId hact => ?_⟩
      rcases hj.active_step hP hc hatt hnames hj' hc' hmem hact with hact | ⟨operation, ho, hact⟩
      · exact .inl hact
      · exact .inr ⟨happlied, operation, ho, hact, hatt.promotionChecked hpolicy ho⟩

/-- A pattern that is active after whole calls on an empty journal was promoted or revised by one
of them, and has been active since. -/
theorem active_since_activated {calls : List (ApplyCall P)} (hP : P.HexDigests)
    (h : EmptyRoot S.eventDir start) (hpolicy : S.policy = .ok policy)
    (hrun : (changesets P S).Guarded
      (fun disk call => Finishes P S disk call ∧ namesPatterns P S disk call.changeset) start calls)
    (hact : patternStatus P S ((changesets P S).after start calls) patternId =
      some (.str "active")) :
    ∃ earlier call later, calls = earlier ++ call :: later ∧
      Activated P S policy ((changesets P S).after start earlier) call patternId ∧
      ∀ later', later' <+: later →
        patternStatus P S ((changesets P S).after start (earlier ++ call :: later')) patternId =
          some (.str "active") := by
  have hwhole : ∀ calls, (changesets P S).Guarded (fun disk call =>
      Finishes P S disk call ∧ namesPatterns P S disk call.changeset) start calls →
      Whole P S ((changesets P S).after start calls) := by
    intro calls hrun
    apply Machine.guarded_invariant (I := Whole P S) (changesets P S) _ _ hrun
    · intro disk call hw hg
      exact (hw.step hP hpolicy hg.1 hg.2).1
    · exact ⟨[], [], journalled_nil (h.represents P), by simp [Committed]⟩
  induction calls using List.reverseRecOn with
  | nil =>
    have hnil : Journalled P S [] start [] := journalled_nil (h.represents P)
    obtain ⟨events, hj, _, hperm⟩ := hnil.visible hP (by simp [Committed])
    rw [List.map_nil, List.perm_nil] at hperm
    subst hperm
    simp [patternStatus, hj] at hact
  | append_singleton calls call ih =>
    have hearlier := hrun.of_append
    have hguard := hrun.last
    have hstep := (hwhole calls hearlier).step hP hpolicy hguard.1 hguard.2
    have hafter := (changesets P S).after_concat start calls call
    rw [hafter] at hact
    rcases hstep.2 patternId hact with hbefore | hactivated
    · obtain ⟨earlier, c, later, rfl, hc, hsince⟩ := ih hearlier hbefore
      refine ⟨earlier, c, later ++ [call], by simp, hc, fun later' hpre => ?_⟩
      rcases List.prefix_concat_iff.1 hpre with rfl | hpre
      · have he : earlier ++ c :: (later ++ [call]) = (earlier ++ c :: later) ++ [call] := by simp
        rw [he, hafter]
        exact hact
      · exact hsince later' hpre
    · refine ⟨calls, call, [], rfl, hactivated, fun later' hpre => ?_⟩
      rw [List.prefix_nil.1 hpre, hafter]
      exact hact

/-- A candidate, and a revision of it that no promotion goes before. -/
def createdCandidate : ApplyCall samplePlatform where
  changeset := sampleChangeset "create" "2026-07-01T00:00:00Z" [sampleOperation .createCandidate]
  stops := none
  wellFormed := by decide
  distinct := by decide

def revisedCandidateCall : ApplyCall samplePlatform where
  changeset := sampleChangeset "revise" "2026-07-02T00:00:00Z" [sampleOperation .revisePattern]
  stops := none
  wellFormed := by decide
  distinct := by decide

theorem revisedCandidate_run :
    let M := changesets samplePlatform {}
    let created := M.step {} createdCandidate
    isApplied created.2 ∧ namesPatterns samplePlatform {} {} createdCandidate.changeset ∧
    isApplied (M.step created.1 revisedCandidateCall).2 ∧
    namesPatterns samplePlatform {} created.1 revisedCandidateCall.changeset ∧
    patternStatus samplePlatform {} (M.after {} [createdCandidate, revisedCandidateCall])
      "pattern-a" = some (.str "active") := by
  decide +kernel

theorem emptyRoot_empty (root : List String) : EmptyRoot root {} := by
  constructor <;> simp [Dict.keys]

theorem revisedCandidate_guarded :
    (changesets samplePlatform {}).Guarded (fun disk call =>
      isApplied ((changesets samplePlatform {}).step disk call).2 ∧
        namesPatterns samplePlatform {} disk call.changeset)
      {} [createdCandidate, revisedCandidateCall] := by
  obtain ⟨hcreated, hnames, hrevised, hnames', _⟩ := revisedCandidate_run
  rw [Machine.guarded_cons, Machine.guarded_cons]
  exact ⟨⟨hcreated, hnames⟩, ⟨hrevised, hnames'⟩, Machine.guarded_nil _⟩

/-- A revision makes a candidate active that no operation has promoted. -/
theorem active_without_promotion :
    EmptyRoot ({} : ChangesetSettings).eventDir {} ∧
    (changesets samplePlatform {}).Guarded (fun disk call =>
      isApplied ((changesets samplePlatform {}).step disk call).2) {}
      [createdCandidate, revisedCandidateCall] ∧
    patternStatus samplePlatform {}
      ((changesets samplePlatform {}).after {} [createdCandidate, revisedCandidateCall])
      "pattern-a" = some (.str "active") ∧
    ∀ call ∈ [createdCandidate, revisedCandidateCall], ∀ operation ∈ call.changeset.operations,
      operation.operation ≠ .promotePattern := by
  obtain ⟨_, _, _, _, hactive⟩ := revisedCandidate_run
  refine ⟨emptyRoot_empty _, ?_, hactive, by decide⟩
  intro earlier call later he
  exact (revisedCandidate_guarded earlier call later he).1

theorem active_since_activated_revisedCandidate :
    ∃ earlier call later, [createdCandidate, revisedCandidateCall] = earlier ++ call :: later ∧
      Activated samplePlatform {} {} ((changesets samplePlatform {}).after {} earlier) call
        "pattern-a" ∧
      ∀ later', later' <+: later →
        patternStatus samplePlatform {}
          ((changesets samplePlatform {}).after {} (earlier ++ call :: later')) "pattern-a" =
            some (.str "active") := by
  obtain ⟨_, _, _, _, hactive⟩ := revisedCandidate_run
  refine active_since_activated (S := {}) samplePlatform_hexDigests (emptyRoot_empty _) rfl ?_
    hactive
  intro earlier call later he
  obtain ⟨happlied, hnames⟩ := revisedCandidate_guarded earlier call later he
  exact ⟨.inr happlied, hnames⟩

end ExternalIntelligence
