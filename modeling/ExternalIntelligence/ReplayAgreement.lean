import ExternalIntelligence.PatternReplay

namespace ExternalIntelligence
set_option autoImplicit true

/-- The events of one pattern. -/
def ofPattern (patternId : String) (event : Event) : Bool :=
  isPatternEvent event && patternIdOf event.payload == some patternId

def clusterOf (P : Platform) (event : Event) : String :=
  textOr P event.payload "cluster_id" ""

/-- The events that write the status of a cluster's record: a revision writes none. -/
def writesRecord (P : Platform) (clusterId : String) (event : Event) : Bool :=
  isPatternEvent event && clusterOf P event == clusterId && event.eventType != "pattern.revised"

/-- The status an event writes in the two replays by pattern. -/
def writtenStatus (event : Event) : String :=
  (statusOfType.lookup event.eventType).getD ""

def lastEvent (choose : Event → Bool) (events : List Event) : Option Event :=
  (events.filter choose).getLast?

/-- Pattern events are of the six lifecycle kinds and name a pattern and its one cluster. -/
structure Consistent (P : Platform) (events : List Event) : Prop where
  kinds : ∀ e ∈ events, isPatternEvent e → (statusOfType.lookup e.eventType).isSome
  named : ∀ e ∈ events, isPatternEvent e → (patternIdOf e.payload).isSome
  oneCluster : ∀ e ∈ events, ∀ e' ∈ events, isPatternEvent e → isPatternEvent e' →
    patternIdOf e.payload = patternIdOf e'.payload → clusterOf P e = clusterOf P e'

def statusOf (state : Option Fields) : Option Value :=
  state.bind (·.lookup "status")

def recordStatus (record : Option ClusterRecord) : Option Value :=
  record.map fun record => .str record.state.status

/-- Each pattern has one status in the three replays. -/
def ReplaysAgree (P : Platform) (events : List Event) (states : StateMap)
    (patterns : List (String × Fields)) (records : List (String × ClusterRecord)) : Prop :=
  ∀ e ∈ events, isPatternEvent e → ∀ patternId, patternIdOf e.payload = some patternId →
    statusOf (states.find patternId) = statusOf (patterns.lookup patternId) ∧
    statusOf (states.find patternId) = recordStatus (records.lookup (clusterOf P e))

/-- The last event of a pattern and the last event of its cluster that is no revision are of one
type, or a revision comes last and the other is a promotion. -/
def RevisionsFollowPromotions (P : Platform) (events : List Event) : Prop :=
  ∀ e ∈ events, isPatternEvent e → ∀ patternId, patternIdOf e.payload = some patternId →
    ∃ last ∈ lastEvent (ofPattern patternId) events,
    ∃ written ∈ lastEvent (writesRecord P (clusterOf P e)) events,
      last.eventType = written.eventType ∨
        last.eventType = "pattern.revised" ∧ written.eventType = "pattern.promoted"

theorem lookup_status_replayed (P : Platform) (state : Fields)
    (h : (statusOfType.lookup event.eventType).isSome) :
    (replayed P event state).lookup "status" = some (.str (writtenStatus event)) := by
  obtain ⟨status, hs⟩ := Option.isSome_iff_exists.1 h
  rw [replayed, Dict.lookup_set_self, writtenStatus]
  simp only [hs, Option.getD_some]

theorem statesStep_status (hk : isPatternEvent event → (statusOfType.lookup event.eventType).isSome)
    (h : statesStep P result event = .ok result') (patternId : String) :
    statusOf (result'.lookup patternId) =
      if ofPattern patternId event then some (.str (writtenStatus event))
      else statusOf (result.lookup patternId) := by
  unfold statesStep at h
  by_cases hp : isPatternEvent event
  · cases hid : patternIdOf event.payload with
    | none =>
      simp only [hp, hid, Bool.not_true, Bool.false_eq_true, if_false] at h
      cases h
      simp [ofPattern, hid]
    | some id =>
      simp only [hp, hid, Bool.not_true, Bool.false_eq_true, if_false] at h
      obtain ⟨initial, _, h⟩ := Except.bind_eq_ok.1 h
      cases h
      by_cases hi : id = patternId
      · subst hi
        simp [ofPattern, hp, hid, statusOf, lookup_status_replayed P _ (hk hp)]
      · simp [ofPattern, hp, hid, hi, Dict.lookup_set_of_ne hi]
  · simp only [hp, Bool.not_false, if_true] at h
    cases h
    simp [ofPattern, hp]

theorem lookup_zipIdx (d : List (String × α)) (key : String) (n : Nat) :
    (((Dict.keys d).zipIdx n).lookup key).isSome = (d.lookup key).isSome ∧
    ∀ i, ((Dict.keys d).zipIdx n).lookup key = some i →
      n ≤ i ∧ (d.map Prod.snd)[i - n]? = d.lookup key := by
  induction d generalizing n with
  | nil => simp [Dict.keys]
  | cons p d ih =>
    obtain ⟨k, v⟩ := p
    have hk : Dict.keys ((k, v) :: d) = k :: Dict.keys d := rfl
    obtain ⟨hs, hi⟩ := ih (n + 1)
    rw [hk, List.zipIdx_cons, Dict.lookup_cons, Dict.lookup_cons]
    by_cases he : k = key
    · simp [he]
    · simp only [he, if_false]
      constructor
      · exact hs
      · intro i h
        obtain ⟨hn, hl⟩ := hi i h
        constructor
        · omega
        · rw [← hl, List.map_cons, show i - n = i - (n + 1) + 1 from by omega,
            List.getElem?_cons_succ]

theorem lookup_nameCluster {keys : List (String × Nat)} (h : keys.lookup key = some i)
    (P : Platform) (state : Fields × Nat) : (nameCluster P keys state).lookup key = some i := by
  unfold nameCluster
  simp only
  split
  · rename_i hc
    rw [Dict.lookup_set_of_ne, h]
    intro he
    rw [he, h] at hc
    cases hc.2
  · exact h

theorem lookup_nameClusters (P : Platform) (objects : List (Fields × Nat))
    {keys : List (String × Nat)} (h : keys.lookup key = some i) :
    (objects.foldl (nameCluster P) keys).lookup key = some i := by
  induction objects generalizing keys with
  | nil => exact h
  | cons state objects ih => exact ih (lookup_nameCluster h P state)

/-- A pattern that an event named stands for its own state. -/
theorem find_states (h : states P events = .ok st) (hr : replay P events = .ok result)
    (hk : (result.lookup key).isSome) : st.find key = result.lookup key := by
  unfold states at h
  obtain ⟨_, hr', rfl⟩ := Except.map_eq_ok.1 h
  cases hr.symm.trans hr'
  obtain ⟨hs, hi⟩ := lookup_zipIdx result key 0
  rw [hk] at hs
  obtain ⟨i, hl⟩ := Option.isSome_iff_exists.1 hs
  obtain ⟨_, hl'⟩ := hi i hl
  simp only [StateMap.find, lookup_nameClusters P _ hl, Option.bind_some]
  rw [← hl', Nat.sub_zero]

theorem lookup_status_projectLifecycle
    (hk : (statusOfType.lookup event.eventType).isSome)
    (h : projectLifecycle P event current = .ok current') :
    current'.lookup "status" = some (.str (writtenStatus event)) := by
  unfold projectLifecycle at h
  simp only at h
  split at h
  · rename_i ht
    cases h
    rw [Dict.lookup_set_self, writtenStatus, ht]
    rfl
  split at h
  · rename_i ht
    cases h
    rw [Dict.lookup_set_self, writtenStatus, ht]
    rfl
  split at h
  · rename_i ht
    obtain ⟨revision, _, rfl⟩ := Except.map_eq_ok.1 h
    rw [Dict.lookup_set_of_ne (by decide), Dict.lookup_set_self, writtenStatus, ht]
    rfl
  split at h
  · rename_i ht
    cases h
    rw [Dict.lookup_set_of_ne (by decide), Dict.lookup_set_self, writtenStatus, ht]
    rfl
  split at h
  · rename_i ht
    cases h
    rw [Dict.lookup_set_of_ne (by decide), Dict.lookup_set_self, writtenStatus, ht]
    rfl
  split at h
  · rename_i ht
    cases h
    rw [Dict.lookup_set_of_ne (by decide), Dict.lookup_set_self, writtenStatus, ht]
    rfl
  · rw [Dict.lookup_isSome_iff] at hk
    simp_all [statusOfType, Dict.keys]

theorem projectStep_status (hk : isPatternEvent event → (statusOfType.lookup event.eventType).isSome)
    (h : projectStep P patterns event = .ok patterns') (patternId : String) :
    statusOf (patterns'.lookup patternId) =
      if ofPattern patternId event then some (.str (writtenStatus event))
      else statusOf (patterns.lookup patternId) := by
  unfold projectStep at h
  split at h
  · cases h
  · by_cases hp : isPatternEvent event
    · rw [if_pos hp, applyPatternEvent] at h
      cases hid : patternIdOf event.payload with
      | none =>
        simp only [hid] at h
        cases h
        simp [ofPattern, hid]
      | some id =>
        simp only [hid] at h
        obtain ⟨initial, _, h⟩ := Except.bind_eq_ok.1 h
        obtain ⟨current, hl, h⟩ := Except.bind_eq_ok.1 h
        cases h
        by_cases hi : id = patternId
        · subst hi
          simp [ofPattern, hp, hid, statusOf, lookup_status_projectLifecycle (hk hp) hl]
        · simp [ofPattern, hp, hid, hi, Dict.lookup_set_of_ne hi]
    · rw [if_neg hp] at h
      cases h
      simp [ofPattern, hp]

theorem isPatternEvent_of_kind (h : (statusOfType.lookup event.eventType).isSome) :
    isPatternEvent event := by
  rw [Dict.lookup_isSome_iff] at h
  simp only [statusOfType, Dict.keys, List.map_cons, List.map_nil, List.mem_cons,
    List.not_mem_nil, or_false] at h
  rw [isPatternEvent]
  rcases h with h | h | h | h | h | h
  all_goals
    rw [h]
    decide

theorem applyToRecord_status (h : applyToRecord P event record = .ok record') :
    record'.state.status =
      if (statusOfType.lookup event.eventType).isSome ∧ event.eventType ≠ "pattern.revised" then
        writtenStatus event
      else record.state.status := by
  unfold applyToRecord at h
  obtain ⟨changed, hc, rfl⟩ := Except.map_eq_ok.1 h
  simp only [writtenStatus]
  unfold changeRecord at hc
  simp only at hc
  split at hc
  · rename_i ht
    obtain ⟨state, _, rfl⟩ := Except.map_eq_ok.1 hc
    simp [ht, statusOfType, namePattern]
  split at hc
  · rename_i ht
    obtain ⟨state, _, rfl⟩ := Except.map_eq_ok.1 hc
    simp [ht, statusOfType, namePattern]
  split at hc
  · rename_i ht
    obtain ⟨revision, _, hc⟩ := Except.bind_eq_ok.1 hc
    obtain ⟨state, hd, hc⟩ := Except.bind_eq_ok.1 hc
    obtain ⟨host, _, rfl⟩ := Except.map_eq_ok.1 hd
    cases hc
    simp [ht]
  split at hc
  · rename_i ht
    cases hc
    simp [ht, statusOfType]
  split at hc
  · rename_i ht
    cases hc
    simp [ht, statusOfType]
  split at hc
  · rename_i ht
    cases hc
    simp [ht, statusOfType]
  · cases hc
    rw [if_neg]
    rintro ⟨hk, _⟩
    rw [Dict.lookup_isSome_iff] at hk
    simp_all [statusOfType, Dict.keys]

theorem step_recordStatus (hk : isPatternEvent event → (statusOfType.lookup event.eventType).isSome)
    (hr : (r.records.lookup clusterId).isSome)
    (h : LifecycleReplay.step P r event = .ok r') :
    (r'.records.lookup clusterId).isSome ∧
    recordStatus (r'.records.lookup clusterId) =
      if writesRecord P clusterId event then some (.str (writtenStatus event))
      else recordStatus (r.records.lookup clusterId) := by
  unfold LifecycleReplay.step at h
  simp only at h
  cases hl : r.records.lookup (textOr P event.payload "cluster_id" "") with
  | none =>
    rw [hl] at h
    cases h
    have hne : clusterOf P event ≠ clusterId := by
      intro he
      rw [← he, clusterOf, hl] at hr
      cases hr
    simp [writesRecord, hne, hr]
  | some record =>
    rw [hl] at h
    simp only at h
    split at h
    · rename_i ht
      cases h
      have hp : isPatternEvent event = false := by
        apply Bool.eq_false_iff.2
        intro hp
        have hs := hk hp
        rw [Dict.lookup_isSome_iff] at hs
        rcases ht with ht | ht <;> simp [ht, statusOfType, Dict.keys] at hs
      simp [writesRecord, hp, hr]
    · obtain ⟨record', ha, rfl⟩ := Except.map_eq_ok.1 h
      have hs := applyToRecord_status ha
      by_cases hc : clusterOf P event = clusterId
      · have hc' : textOr P event.payload "cluster_id" "" = clusterId := hc
        rw [hc'] at hl
        simp only [hc', Dict.lookup_set_self, Option.isSome_some, true_and, recordStatus,
          Option.map_some, hs, hl, writesRecord, hc, beq_self_eq_true, Bool.and_true]
        by_cases hkind : (statusOfType.lookup event.eventType).isSome
        · by_cases hrev : event.eventType = "pattern.revised"
          · simp [hrev]
          · simp [hkind, hrev, isPatternEvent_of_kind hkind]
        · have hp : isPatternEvent event = false := by
            apply Bool.eq_false_iff.2
            intro hp
            exact hkind (hk hp)
          simp [hkind, hp]
      · have hc' : textOr P event.payload "cluster_id" "" ≠ clusterId := hc
        simp only [Dict.lookup_set_of_ne hc']
        simp [writesRecord, hc, hr]

/-- The observations leave every record with the status it starts from. -/
theorem clusterObservations_raw (h : clusterObservations P events = .ok c) :
    ∀ clusterId record, c.records.lookup clusterId = some record → record.state.status = "raw" := by
  unfold clusterObservations at h
  apply Except.foldlM_invariant (I := fun c => ∀ clusterId record,
    c.records.lookup clusterId = some record → record.state.status = "raw") _ _ h
  · intro c event _ c' hI hc
    unfold Clustering.step at hc
    split at hc
    · obtain ⟨o, _, hc⟩ := Except.bind_eq_ok.1 hc
      obtain ⟨place, _, rfl⟩ := Except.map_eq_ok.1 hc
      intro clusterId record hl
      simp only [Clustering.place, Dict.lookup_set] at hl
      split at hl
      · cases hl
        cases hr : c.records.lookup place.1 with
        | none => rfl
        | some record => exact hI _ record hr
      · exact hI _ _ hl
    · cases hc
      exact hI
  · intro clusterId record hl
    cases hl

theorem applyPatternEvents_status (hlog : Consistent P events)
    (hc : clusterObservations P events = .ok c) (hrec : (c.records.lookup clusterId).isSome)
    (h : applyPatternEvents P c.records events = .ok records) :
    recordStatus (records.lookup clusterId) =
      ((lastEvent (writesRecord P clusterId) events).map
        fun e => some (.str (writtenStatus e))).getD (some (.str "raw")) := by
  unfold applyPatternEvents at h
  obtain ⟨r, hr, rfl⟩ := Except.map_eq_ok.1 h
  have he : recordStatus ((r.records.map fun entry => (entry.1, r.expose entry.2)).lookup clusterId)
      = recordStatus (r.records.lookup clusterId) := by
    rw [Dict.lookup_map]
    cases r.records.lookup clusterId with
    | none => rfl
    | some record =>
      simp only [recordStatus, Option.map_some, LifecycleReplay.expose]
      split <;> rfl
  rw [he]
  have hlast := Except.foldlM_last (I := fun r => (r.records.lookup clusterId).isSome)
    (w := writesRecord P clusterId)
    (r := fun r : LifecycleReplay => recordStatus (r.records.lookup clusterId))
    (v := fun e => some (.str (writtenStatus e)))
    (fun r e he r' hI hr => step_recordStatus (hlog.kinds e he) hI hr) hrec hr
  rw [hlast]
  obtain ⟨record, hl⟩ := Option.isSome_iff_exists.1 hrec
  simp only [hl, recordStatus, Option.map_some, clusterObservations_raw hc _ _ hl]
  rfl

/-- The status of a pattern is the one its last event writes. -/
theorem replay_status
    (hk : ∀ e ∈ events, isPatternEvent e → (statusOfType.lookup e.eventType).isSome)
    (hsorted : events.Pairwise eventLe) (h : replay P events = .ok result) (patternId : String) :
    statusOf (result.lookup patternId) =
      (lastEvent (ofPattern patternId) events).map fun e => .str (writtenStatus e) := by
  rw [replay, hsorted.insertionSort_eq] at h
  have hlast := Except.foldlM_last (I := fun _ => True) (w := ofPattern patternId)
    (r := fun result : List (String × Fields) => statusOf (result.lookup patternId))
    (v := fun e => some (.str (writtenStatus e)))
    (fun r e he r' _ hr => ⟨trivial, statesStep_status (hk e he) hr patternId⟩) trivial h
  rw [hlast, lastEvent]
  cases (events.filter (ofPattern patternId)).getLast? with
  | none => rfl
  | some last => rfl

theorem states_status (hlog : Consistent P events) (hsorted : events.Pairwise eventLe)
    (h : states P events = .ok st) (hl : lastEvent (ofPattern patternId) events = some last) :
    statusOf (st.find patternId) = some (.str (writtenStatus last)) := by
  have hs := h
  unfold states at hs
  obtain ⟨result, hr, _⟩ := Except.map_eq_ok.1 hs
  have hlast := replay_status hlog.kinds hsorted hr patternId
  rw [hl] at hlast
  rw [find_states h hr, hlast]
  · rfl
  · cases hk : result.lookup patternId with
    | none => simp [hk, statusOf] at hlast
    | some state => rfl

theorem projectPatterns_status (hlog : Consistent P events) (hsorted : events.Pairwise eventLe)
    (h : projectPatterns P events = .ok patterns)
    (hl : lastEvent (ofPattern patternId) events = some last) :
    statusOf (patterns.lookup patternId) = some (.str (writtenStatus last)) := by
  rw [projectPatterns, hsorted.insertionSort_eq] at h
  have hlast := Except.foldlM_last (I := fun _ => True) (w := ofPattern patternId)
    (r := fun result : List (String × Fields) => statusOf (result.lookup patternId))
    (v := fun e => some (.str (writtenStatus e)))
    (fun r e he r' _ hr => ⟨trivial, projectStep_status (hlog.kinds e he) hr patternId⟩) trivial h
  rw [lastEvent] at hl
  rw [hl] at hlast
  exact hlast

theorem lastEvent_isSome {choose : Event → Bool} (he : e ∈ events) (hc : choose e) :
    ∃ last, lastEvent choose events = some last := by
  cases hl : lastEvent choose events with
  | some last => exact ⟨last, rfl⟩
  | none =>
    rw [lastEvent, List.getLast?_eq_none_iff, List.filter_eq_nil_iff] at hl
    exact absurd hc (hl e he)

theorem mem_of_lastEvent {choose : Event → Bool} (h : lastEvent choose events = some last) :
    last ∈ events ∧ choose last := by
  have hm := List.mem_of_getLast? h
  exact List.mem_filter.1 hm

theorem writtenStatus_ne_raw (h : (statusOfType.lookup event.eventType).isSome) :
    writtenStatus event ≠ "raw" := by
  obtain ⟨status, hs⟩ := Option.isSome_iff_exists.1 h
  rw [writtenStatus, hs, Option.getD_some]
  have hm := Dict.mem_of_lookup hs
  intro he
  subst he
  simp [statusOfType] at hm

/-- Two kinds write one status only if they are one kind, or a promotion and a revision. -/
theorem writtenStatus_eq_iff (hl : (statusOfType.lookup last.eventType).isSome)
    (hw : (statusOfType.lookup written.eventType).isSome)
    (hr : written.eventType ≠ "pattern.revised") :
    writtenStatus last = writtenStatus written ↔ last.eventType = written.eventType ∨
      last.eventType = "pattern.revised" ∧ written.eventType = "pattern.promoted" := by
  rw [Dict.lookup_isSome_iff] at hl hw
  rw [writtenStatus, writtenStatus]
  generalize last.eventType = t at hl
  generalize written.eventType = u at hw hr
  simp only [statusOfType, Dict.keys, List.map_cons, List.map_nil, List.mem_cons,
    List.not_mem_nil, or_false] at hl hw
  rcases hl with rfl | rfl | rfl | rfl | rfl | rfl
  all_goals
    rcases hw with rfl | rfl | rfl | rfl | rfl | rfl
    all_goals first
      | exact absurd rfl hr
      | decide

/-- The replays give every pattern one status if and only if revisions follow promotions. -/
theorem replays_agree_iff (hlog : Consistent P events) (hsorted : events.Pairwise eventLe)
    (hc : clusterObservations P events = .ok c)
    (hrec : ∀ e ∈ events, isPatternEvent e → (c.records.lookup (clusterOf P e)).isSome)
    (hs : states P events = .ok st) (hp : projectPatterns P events = .ok patterns)
    (hr : applyPatternEvents P c.records events = .ok records) :
    ReplaysAgree P events st patterns records ↔ RevisionsFollowPromotions P events := by
  apply forall_congr'
  intro e
  apply forall_congr'
  intro he
  apply forall_congr'
  intro hpat
  apply forall_congr'
  intro patternId
  apply forall_congr'
  intro hid
  have hof : ofPattern patternId e := by simp [ofPattern, hpat, hid]
  obtain ⟨last, hl⟩ := lastEvent_isSome he hof
  obtain ⟨hlast, hlastof⟩ := mem_of_lastEvent hl
  have hkl := hlog.kinds last hlast (by simp_all [ofPattern])
  rw [states_status hlog hsorted hs hl, projectPatterns_status hlog hsorted hp hl,
    applyPatternEvents_status hlog hc (hrec e he hpat) hr]
  simp only [true_and, hl, Option.mem_def, Option.some.injEq, exists_eq_left']
  cases hw : lastEvent (writesRecord P (clusterOf P e)) events with
  | none =>
    simp only [Option.map_none, Option.getD_none, Option.some.injEq, Value.str.injEq, reduceCtorEq,
      false_and, exists_false, iff_false]
    exact writtenStatus_ne_raw hkl
  | some written =>
    obtain ⟨hwritten, hwof⟩ := mem_of_lastEvent hw
    simp only [writesRecord, Bool.and_eq_true, bne_iff_ne] at hwof
    simp only [Option.map_some, Option.getD_some, Option.some.injEq, Value.str.injEq,
      exists_eq_left']
    exact writtenStatus_eq_iff hkl (hlog.kinds written hwritten hwof.1.1) hwof.2

/-- An observation, the candidate of its cluster, and a revision of that candidate. -/
def revisedCandidate : List Event :=
  let event (eventId eventType occurredAt : String) (payload : Fields) : Event :=
    { eventId, eventType, occurredAt, actor := "external-intelligence", machineId := "machine",
      payload }
  let pattern : Fields := [("pattern_id", .str "pat_1"),
    ("cluster_id", .str "cluster_ca7ed663b68210de2c51")]
  [event "evt_1" "observation.recorded" "2026-01-01T00:00:00Z"
      [("observation_id", .str "obs_1"), ("claim", .str "always check the return code")],
    event "evt_2" "pattern.candidate_created" "2026-01-02T00:00:00Z" pattern,
    event "evt_3" "pattern.revised" "2026-01-03T00:00:00Z" pattern]

theorem consistent_revisedCandidate : Consistent samplePlatform revisedCandidate :=
  ⟨by decide, by decide, by decide⟩

theorem replays_disagree : Consistent samplePlatform revisedCandidate ∧
    revisedCandidate.Pairwise eventLe ∧
    ∃ c st patterns records, clusterObservations samplePlatform revisedCandidate = .ok c ∧
      (∀ e ∈ revisedCandidate, isPatternEvent e →
        (c.records.lookup (clusterOf samplePlatform e)).isSome) ∧
      states samplePlatform revisedCandidate = .ok st ∧
      projectPatterns samplePlatform revisedCandidate = .ok patterns ∧
      applyPatternEvents samplePlatform c.records revisedCandidate = .ok records ∧
      ¬ ReplaysAgree samplePlatform revisedCandidate st patterns records := by
  obtain ⟨c, hc, hrec⟩ : ∃ c, clusterObservations samplePlatform revisedCandidate = .ok c ∧
      ∀ e ∈ revisedCandidate, isPatternEvent e →
        (c.records.lookup (clusterOf samplePlatform e)).isSome :=
    Except.exists_ok_of_decide (by decide +kernel)
  obtain ⟨records, hr, hcandidate⟩ : ∃ records,
      ((clusterObservations samplePlatform revisedCandidate).bind fun c =>
        applyPatternEvents samplePlatform c.records revisedCandidate) = .ok records ∧
      recordStatus (records.lookup "cluster_ca7ed663b68210de2c51") = some (.str "candidate") :=
    Except.exists_ok_of_decide (by decide +kernel)
  obtain ⟨st, hs, hactive⟩ : ∃ st, states samplePlatform revisedCandidate = .ok st ∧
      statusOf (st.find "pat_1") = some (.str "active") :=
    Except.exists_ok_of_decide (by decide)
  obtain ⟨patterns, hp⟩ := Except.exists_ok_of_isOk
    (x := projectPatterns samplePlatform revisedCandidate) (by decide)
  rw [hc] at hr
  refine ⟨consistent_revisedCandidate, by decide, c, st, patterns, records, hc, hrec, hs, hp, hr, ?_⟩
  intro hagree
  obtain ⟨e, he, hpat, hid, hcluster⟩ : ∃ e ∈ revisedCandidate, isPatternEvent e ∧
      patternIdOf e.payload = some "pat_1" ∧
      clusterOf samplePlatform e = "cluster_ca7ed663b68210de2c51" := by decide
  have h := (hagree e he hpat "pat_1" hid).2
  rw [hactive, hcluster, hcandidate] at h
  exact absurd h (by decide)

theorem replays_agree_iff_revisedCandidate :
    ∃ c st patterns records, clusterObservations samplePlatform revisedCandidate = .ok c ∧
      states samplePlatform revisedCandidate = .ok st ∧
      projectPatterns samplePlatform revisedCandidate = .ok patterns ∧
      applyPatternEvents samplePlatform c.records revisedCandidate = .ok records ∧
      (ReplaysAgree samplePlatform revisedCandidate st patterns records ↔
        RevisionsFollowPromotions samplePlatform revisedCandidate) := by
  obtain ⟨c, hc, hrec, hr⟩ : ∃ c, clusterObservations samplePlatform revisedCandidate = .ok c ∧
      (∀ e ∈ revisedCandidate, isPatternEvent e →
        (c.records.lookup (clusterOf samplePlatform e)).isSome) ∧
      (applyPatternEvents samplePlatform c.records revisedCandidate).isOk = true :=
    Except.exists_ok_of_decide (by decide +kernel)
  obtain ⟨records, hr⟩ := Except.exists_ok_of_isOk hr
  obtain ⟨st, hs⟩ := Except.exists_ok_of_isOk
    (x := states samplePlatform revisedCandidate) (by decide)
  obtain ⟨patterns, hp⟩ := Except.exists_ok_of_isOk
    (x := projectPatterns samplePlatform revisedCandidate) (by decide)
  exact ⟨c, st, patterns, records, hc, hs, hp, hr,
    replays_agree_iff consistent_revisedCandidate (by decide) hc hrec hs hp hr⟩

end ExternalIntelligence
