import ExternalIntelligence.ChangesetRuns
import ExternalIntelligence.LifecycleRegistry

namespace ExternalIntelligence
set_option autoImplicit true

/-- A run gets to its end if every step can be made where the invariant holds. -/
theorem foldlM_total {step : σ → α → Except ε σ} {Inv : σ → Prop} (items : List α)
    (hstep : ∀ state item, item ∈ items → Inv state → ∃ next, step state item = .ok next ∧ Inv next)
    {state : σ} (hinv : Inv state) : ∃ final, items.foldlM step state = .ok final ∧ Inv final := by
  induction items generalizing state with
  | nil => exact ⟨state, rfl, hinv⟩
  | cons item items ih =>
    obtain ⟨next, hnext, hkept⟩ := hstep state item (List.mem_cons_self ..) hinv
    obtain ⟨final, hfinal, hlast⟩ :=
      ih (fun state item hitem => hstep state item (List.mem_cons_of_mem _ hitem)) hkept
    refine ⟨final, ?_, hlast⟩
    rw [List.foldlM_cons, hnext]
    exact hfinal

/-- Every item of a run that gets to its end was stepped on where the invariant holds. -/
theorem foldlM_stepped {step : σ → α → Except ε σ} {Inv : σ → Prop} (items : List α)
    (hstep : ∀ state, ∀ item ∈ items, ∀ next, Inv state → step state item = .ok next → Inv next)
    {state final : σ} (hinv : Inv state) (h : items.foldlM step state = .ok final) :
    ∀ item ∈ items, ∃ before after, Inv before ∧ step before item = .ok after := by
  induction items generalizing state with
  | nil =>
    intro item hitem
    cases hitem
  | cons first items ih =>
    rw [List.foldlM_cons] at h
    obtain ⟨next, hnext, hrest⟩ := Except.bind_eq_ok.1 h
    intro item hitem
    cases List.mem_cons.1 hitem with
    | inl he =>
      rw [he]
      exact ⟨state, next, hinv, hnext⟩
    | inr hmem =>
      apply ih (fun state item hitem => hstep state item (List.mem_cons_of_mem _ hitem)) _ hrest item
        hmem
      exact hstep state first (List.mem_cons_self ..) next hinv hnext

theorem Storable.reasonCode {event : Event} (h : Storable P event)
    (hissue : issue ∈ walkFields P (eventClassification P event) (some eventPayloadFields) []
      event.payload ∨ issue ∈ hostContractIssues (.dict event.payload)) :
    issue.reasonCode ∉ registryCodes := by
  unfold Storable inspectEventPayload inspectPersistable at h
  dsimp only at h
  rw [walk_object] at h
  cases hissue with
  | inl hwalk =>
    have hmapped := h (if issue.pointer.isEmpty then { issue with pointer := ['/'] } else issue) (by
      rw [List.mem_eraseDups, List.mem_append, List.mem_append]
      exact .inl (.inr (List.mem_map_of_mem hwalk)))
    split at hmapped
    · exact hmapped
    · exact hmapped
  | inr hhost =>
    apply h issue
    rw [List.mem_eraseDups, List.mem_append]
    exact .inr hhost

/-- The fields that a storable event has are fields of the registry. -/
theorem Storable.lookup_none {event : Event} (h : Storable P event)
    (hunknown : eventPayloadFields.lookup name = none) : event.payload.lookup name = none := by
  cases hlookup : event.payload.lookup name with
  | none => rfl
  | some value =>
    have hissue : (⟨pointerTo [] (Text.chars name), "UNKNOWN_FIELD"⟩ : PersistableIssue) ∈
        walkFields P (eventClassification P event) (some eventPayloadFields) [] event.payload := by
      rw [walkFields_eq, List.mem_flatMap]
      refine ⟨(name, value), Dict.mem_of_lookup hlookup, ?_⟩
      unfold fieldIssues
      simp only [hunknown]
      exact List.mem_append_right _ (List.mem_singleton_self _)
    exact absurd (show "UNKNOWN_FIELD" ∈ registryCodes by decide) (h.reasonCode (.inl hissue))

/-- The host fields of a storable event are a valid host. -/
theorem Storable.host {event : Event} (h : Storable P event)
    (hhas : hasHostField event.payload = true) (legacy : Bool) :
    ∃ host, hostApplicabilityFields event.payload legacy true = .ok host ∧ HostValid host := by
  have hvalid : (validateHostApplicabilityMapping event.payload false true).isOk = true := by
    by_contra hinvalid
    have hissue : (⟨Text.chars "/applicability_scope", "HOST_APPLICABILITY_INVALID"⟩ :
        PersistableIssue) ∈ hostContractIssues (.dict event.payload) := by
      unfold hostContractIssues
      dsimp only
      rw [hhas, Bool.eq_false_of_not_eq_true hinvalid]
      exact List.mem_singleton_self _
    exact absurd (show "HOST_APPLICABILITY_INVALID" ∈ registryCodes by decide)
      (h.reasonCode (.inr hissue))
  have hlegacy : validateHostApplicabilityMapping event.payload legacy true =
      validateHostApplicabilityMapping event.payload false true := by
    unfold validateHostApplicabilityMapping
    rw [hhas]
    rfl
  obtain ⟨scope, hscope⟩ := Except.exists_ok_of_isOk hvalid
  have hfields : ∃ host, hostApplicabilityFields event.payload legacy true = .ok host := by
    unfold hostApplicabilityFields
    rw [hlegacy, hscope]
    exact ⟨_, rfl⟩
  obtain ⟨host, hhost⟩ := hfields
  exact ⟨host, hhost, hostValid_of_fields hhas hhost⟩

/-- The observation of a storable event has a settled host. -/
theorem Storable.observation {event : Event} (h : Storable P event) :
    ∃ observation, observationState event = .ok observation ∧ HostSettled observation.host := by
  unfold observationState
  dsimp only
  cases hhas : hasHostField event.payload with
  | false =>
    have hlegacy : hostApplicabilityFields event.payload true true = .ok {} := by
      unfold hostApplicabilityFields validateHostApplicabilityMapping
      rw [hhas]
      rfl
    rw [hlegacy]
    exact ⟨_, rfl, .inl (.inl rfl)⟩
  | true =>
    obtain ⟨host, hhost, hvalid⟩ := h.host hhas true
    rw [hhost]
    exact ⟨_, rfl, .inr hvalid⟩


def AllSettled (records : List (String × ClusterRecord)) : Prop :=
  ∀ entry ∈ records, entry.2.state.Settled

theorem AllSettled.set {records : List (String × ClusterRecord)} (h : AllSettled records)
    (hrecord : record.state.Settled) : AllSettled (Dict.set clusterId record records) := by
  intro entry hentry
  cases Dict.mem_of_mem_set hentry with
  | inl he =>
    rw [he]
    exact hrecord
  | inr hmem => exact h entry hmem

theorem newRecord_settled (hhost : HostSettled observation.host) :
    (newRecord P clusterId observation lastUsedAt).state.Settled := by
  constructor
  · exact hhost
  · exact fun hactive => absurd hactive (show "raw" ≠ "active" by decide)
  · rfl

theorem extendRecord_settled {record : ClusterRecord} (h : record.state.Settled)
    (hhost : HostSettled observation.host) :
    (extendRecord P record observation lastUsedAt).state.Settled := by
  constructor
  · unfold extendRecord
    dsimp only
    split
    · exact hhost
    · exact h.host
  · exact h.named
  · exact h.unreplaced

theorem Clustering.add_settled {c next : Clustering} {observation : ObservationState}
    (hhost : HostSettled observation.host) (h : AllSettled c.records)
    (hadd : c.add P observation occurredAt = .ok next) : AllSettled next.records := by
  unfold Clustering.add at hadd
  obtain ⟨place, _, hnext⟩ := Except.map_eq_ok.1 hadd
  rw [← hnext]
  unfold Clustering.place
  dsimp only
  apply h.set
  cases hfound : c.records.lookup place.1 with
  | none =>
    have hrecord : (newRecord P place.1 observation occurredAt).state.Settled :=
      newRecord_settled hhost
    exact ⟨hrecord.host, hrecord.named, hrecord.unreplaced⟩
  | some record =>
    have hrecord : (extendRecord P record observation
        (max ((c.observationTimes.lookup place.1).getD "") occurredAt)).state.Settled :=
      extendRecord_settled (h _ (Dict.mem_of_lookup hfound)) hhost
    exact ⟨hrecord.host, hrecord.named, hrecord.unreplaced⟩

/-- The records that storable events amount to before any lifecycle event are settled. -/
theorem clusterObservations_settled (hstored : ∀ event ∈ events, Storable P event)
    (h : clusterObservations P events = .ok c) : AllSettled c.records := by
  have hstep : ∀ state : Clustering, ∀ event ∈ events, ∀ next : Clustering,
      AllSettled state.records → state.step P event = .ok next → AllSettled next.records := by
    intro state event hevent next hsettled hnext
    unfold Clustering.step at hnext
    split at hnext
    · obtain ⟨observation, hobservation, hhost⟩ := (hstored event hevent).observation
      rw [hobservation] at hnext
      exact Clustering.add_settled hhost hsettled hnext
    · cases hnext
      exact hsettled
  apply Except.foldlM_invariant hstep _ h
  intro entry hentry
  cases hentry

theorem replayedHost_ok {event : Event} (hs : Storable P event) (hhost : HostSettled host) :
    ∃ next, replayedHost event.payload host = .ok next ∧ HostSettled next := by
  unfold replayedHost
  cases hhas : hasHostField event.payload with
  | false => exact ⟨host, rfl, hhost⟩
  | true =>
    obtain ⟨next, hnext, hvalid⟩ := hs.host hhas false
    exact ⟨next, hnext, .inr hvalid⟩

theorem describe_ok {event : Event} {state : ClusterState} (hs : Storable P event)
    (h : state.Settled) :
    ∃ next, describe P event.payload state = .ok next ∧ next.Settled ∧
      next.status = state.status := by
  obtain ⟨host, hhost, hsettled⟩ := replayedHost_ok hs h.host
  unfold describe
  rw [hhost]
  exact ⟨_, rfl, ⟨hsettled, h.named, h.unreplaced⟩, rfl⟩

/-- A storable event that a replay can follow changes a settled record into a settled one. -/
theorem changeRecord_ok {event : Event} {record : ClusterRecord} (hs : Storable P event)
    (hf : Followed P event) (h : record.state.Settled) :
    ∃ changed, changeRecord P event record = .ok changed ∧ changed.state.Settled := by
  obtain ⟨described, hdescribed, hsettled, _⟩ := describe_ok hs h
  unfold changeRecord
  dsimp only
  split
  · rw [hdescribed]
    refine ⟨_, rfl, hsettled.host, ?_, hsettled.unreplaced⟩
    exact fun hactive => absurd hactive (show "candidate" ≠ "active" by decide)
  · split
    · rw [hdescribed]
      exact ⟨_, rfl, hsettled.host, fun _ => rfl, hsettled.unreplaced⟩
    · split
      · rename_i htype
        obtain ⟨revision, hrevision⟩ := Except.exists_ok_of_isOk (hf htype)
        rw [hrevision, hdescribed]
        exact ⟨_, rfl, hsettled⟩
      · split
        · refine ⟨_, rfl, h.host, ?_, h.unreplaced⟩
          exact fun hactive => absurd hactive (show "deprecated" ≠ "active" by decide)
        · split
          · refine ⟨_, rfl, h.host, ?_, ?_⟩
            · exact fun hactive => absurd hactive (show "superseded" ≠ "active" by decide)
            · have hunknown : eventPayloadFields.lookup "replacement_active" = none := by
                decide
              show (getOr event.payload "replacement_active" (.bool false)).truthy = false
              rw [getOr, hs.lookup_none hunknown]
              rfl
          · split
            · refine ⟨_, rfl, h.host, ?_, h.unreplaced⟩
              exact fun hactive => absurd hactive (show "tombstoned" ≠ "active" by decide)
            · exact ⟨record, rfl, h⟩

theorem changeRecord_followed (h : changeRecord P event record = .ok changed) :
    Followed P event := by
  intro htype
  unfold changeRecord at h
  dsimp only at h
  rw [if_neg, if_neg, if_pos htype] at h
  · obtain ⟨revision, hrevision, _⟩ := Except.bind_eq_ok.1 h
    cases hread : pyInt P (getOr event.payload "revision" (.int 0)) with
    | ok _ => rfl
    | error raised =>
      rw [hread] at hrevision
      cases hrevision
  · rw [htype]
    decide
  · rw [htype]
    decide


/-- Whether an event is about one of some clusters. -/
def Touches (P : Platform) (clusterIds : List String) (event : Event) : Prop :=
  textOr P event.payload "cluster_id" "" ∈ clusterIds

/-- The loop variables of a replay over records of some clusters. -/
structure LifecycleReplay.Settled (r : LifecycleReplay) (clusterIds : List String) : Prop where
  records : AllSettled r.records
  keys : Dict.keys r.records = clusterIds

namespace LifecycleReplay

theorem step_followed {r : LifecycleReplay} {event : Event} (hstep : r.step P event = .ok next)
    (htouches : Touches P (Dict.keys r.records) event) : Followed P event := by
  unfold LifecycleReplay.step at hstep
  dsimp only at hstep
  split at hstep
  · rename_i hnone
    exact absurd htouches (Dict.lookup_eq_none_iff.1 hnone)
  · split at hstep
    · rename_i hexposed
      intro htype
      rw [htype] at hexposed
      exact absurd hexposed (by decide)
    · obtain ⟨record, hrecord, _⟩ := Except.map_eq_ok.1 hstep
      unfold applyToRecord at hrecord
      obtain ⟨changed, hchanged, _⟩ := Except.map_eq_ok.1 hrecord
      exact changeRecord_followed hchanged

theorem Settled.step {r : LifecycleReplay} {event : Event} (h : r.Settled clusterIds)
    (hs : Storable P event) (hf : Touches P clusterIds event → Followed P event) :
    ∃ next, r.step P event = .ok next ∧ next.Settled clusterIds := by
  unfold LifecycleReplay.step
  dsimp only
  split
  · exact ⟨r, rfl, h⟩
  · rename_i record hrecord
    have hmem := Dict.lookup_isSome_iff.1 (Option.isSome_iff_exists.2 ⟨record, hrecord⟩)
    split
    · exact ⟨_, rfl, h.records, h.keys⟩
    · have hfollowed : Followed P event := by
        apply hf
        rw [← h.keys]
        exact hmem
      obtain ⟨changed, hchanged, hsettled⟩ :=
        changeRecord_ok hs hfollowed (h.records _ (Dict.mem_of_lookup hrecord))
      unfold applyToRecord
      rw [hchanged]
      refine ⟨_, rfl, ?_, ?_⟩
      · apply h.records.set
        exact ⟨hsettled.host, hsettled.named, hsettled.unreplaced⟩
      · exact (Dict.keys_set_of_mem hmem).trans h.keys

theorem Settled.next {r next : LifecycleReplay} {event : Event} (h : r.Settled clusterIds)
    (hs : Storable P event) (hstep : r.step P event = .ok next) : next.Settled clusterIds := by
  obtain ⟨final, hfinal, hsettled⟩ := h.step hs fun htouches =>
    step_followed hstep (h.keys ▸ htouches)
  rw [hstep] at hfinal
  cases hfinal
  exact hsettled

theorem expose_settled (r : LifecycleReplay) {record : ClusterRecord}
    (h : record.state.Settled) : (r.expose record).state.Settled := by
  unfold LifecycleReplay.expose
  split
  · exact h
  · exact h
  · exact ⟨h.host, h.named, h.unreplaced⟩

theorem Settled.exposed {r : LifecycleReplay} (h : r.Settled clusterIds) :
    AllSettled (r.records.map fun entry => (entry.1, r.expose entry.2)) := by
  intro entry hentry
  obtain ⟨old, hold, he⟩ := List.mem_map.1 hentry
  rw [← he]
  exact r.expose_settled (h.records old hold)

end LifecycleReplay

theorem applyPatternEvents_settled {records : List (String × ClusterRecord)}
    (hstored : ∀ event ∈ events, Storable P event) (hrecords : AllSettled records)
    (h : applyPatternEvents P records events = .ok final) :
    AllSettled final ∧ ∀ event ∈ events, Touches P (Dict.keys records) event → Followed P event := by
  unfold applyPatternEvents at h
  obtain ⟨r, hr, hfinal⟩ := Except.map_eq_ok.1 h
  have hstep : ∀ state : LifecycleReplay, ∀ event ∈ events, ∀ next : LifecycleReplay,
      state.Settled (Dict.keys records) → state.step P event = .ok next →
      next.Settled (Dict.keys records) :=
    fun state event hevent next hsettled hnext => hsettled.next (hstored event hevent) hnext
  have hstart : LifecycleReplay.Settled { records } (Dict.keys records) := ⟨hrecords, rfl⟩
  constructor
  · rw [← hfinal]
    exact (Except.foldlM_invariant hstep hstart hr).exposed
  · intro event hevent htouches
    obtain ⟨before, after, hsettled, hafter⟩ := foldlM_stepped events hstep hstart hr event hevent
    apply LifecycleReplay.step_followed hafter
    rw [hsettled.keys]
    exact htouches

theorem applyPatternEvents_ok {records : List (String × ClusterRecord)}
    (hstored : ∀ event ∈ events, Storable P event) (hrecords : AllSettled records)
    (hf : ∀ event ∈ events, Touches P (Dict.keys records) event → Followed P event) :
    ∃ final, applyPatternEvents P records events = .ok final ∧ AllSettled final := by
  unfold applyPatternEvents
  have hstart : LifecycleReplay.Settled { records } (Dict.keys records) := ⟨hrecords, rfl⟩
  obtain ⟨r, hr, hsettled⟩ := foldlM_total events (fun state event hevent h =>
    LifecycleReplay.Settled.step h (hstored event hevent) (hf event hevent)) hstart
  rw [hr]
  exact ⟨_, rfl, hsettled.exposed⟩

theorem replayRecords_settled (hstored : ∀ event ∈ events, Storable P event)
    (h : replayRecords P events = .ok records) : AllSettled records := by
  unfold replayRecords at h
  obtain ⟨c, hc, happlied⟩ := Except.bind_eq_ok.1 h
  exact (applyPatternEvents_settled hstored (clusterObservations_settled hstored hc) happlied).1

/-- Only the observations of a journal decide what its clusters are. -/
theorem clusterObservations_filter (P : Platform) (events : List Event) :
    clusterObservations P events = clusterObservations P (events.filter isObservation) := by
  unfold clusterObservations
  generalize ({} : Clustering) = c
  induction events generalizing c with
  | nil => rfl
  | cons event events ih =>
    rw [List.foldlM_cons]
    by_cases hobservation : isObservation event = true
    · rw [List.filter_cons_of_pos hobservation, List.foldlM_cons]
      congr 1
      funext next
      exact ih next
    · rw [List.filter_cons_of_neg hobservation, Clustering.step, if_neg hobservation]
      exact ih c

/-- Events that are no observations leave the order of the observations alone. -/
theorem orderedEvents_observations {current created : List Event}
    (hcreated : ∀ event ∈ created, isObservation event = false) :
    (orderedEvents (orderedEvents current ++ created)).filter isObservation =
      (orderedEvents current).filter isObservation := by
  have hnone : created.filter isObservation = [] := by
    rw [List.filter_eq_nil_iff]
    intro event hevent
    rw [hcreated event hevent]
    exact Bool.false_ne_true
  have hsorted : ((orderedEvents current).filter isObservation).Pairwise eventLe :=
    (List.pairwise_insertionSort eventLe current).filter _
  have hsub : ((orderedEvents current).filter isObservation).Sublist
      (orderedEvents (orderedEvents current ++ created)) := by
    apply List.sublist_insertionSort hsorted
    exact List.filter_sublist.trans (List.sublist_append_left _ _)
  have hperm : ((orderedEvents (orderedEvents current ++ created)).filter isObservation).Perm
      (((orderedEvents current) ++ created).filter isObservation) :=
    (List.perm_insertionSort eventLe _).filter _
  rw [List.filter_append, hnone, List.append_nil] at hperm
  have hfiltered := hsub.filter isObservation
  rw [List.filter_filter] at hfiltered
  simp only [Bool.and_self] at hfiltered
  exact (hfiltered.eq_of_length hperm.length_eq.symm).symm


theorem mapM_total {f : α → Except ε β} {Good : β → Prop} (items : List α)
    (h : ∀ item ∈ items, ∃ made, f item = .ok made ∧ Good made) :
    ∃ all, items.mapM f = .ok all ∧ ∀ made ∈ all, Good made := by
  induction items with
  | nil => exact ⟨[], rfl, fun _ hmade => absurd hmade List.not_mem_nil⟩
  | cons item items ih =>
    obtain ⟨first, hfirst, hgood⟩ := h item (List.mem_cons_self ..)
    obtain ⟨rest, hrest, hall⟩ := ih fun item hitem => h item (List.mem_cons_of_mem _ hitem)
    refine ⟨first :: rest, ?_, ?_⟩
    · rw [List.mapM_cons, hfirst, hrest]
      rfl
    · intro made hmade
      cases List.mem_cons.1 hmade with
      | inl he =>
        rw [he]
        exact hgood
      | inr hmem => exact hall made hmem

theorem mem_orderedEvents {events : List Event} : event ∈ orderedEvents events ↔ event ∈ events :=
  List.mem_insertionSort eventLe

section

variable {P : Platform} (hP : P.HexDigests) (hT : P.PlainTexts)
include hP hT

/-- A reconciliation of a journal that replays gets to its end, with events that are stored. -/
theorem reconcileEvents_storable (hstored : ∀ event ∈ events, Storable P event)
    (h : replayRecords P (orderedEvents events) = .ok records) (policy : LifecyclePolicy)
    (nowText : String) :
    ∃ made, reconcileEvents P policy events nowText = .ok made ∧
      ∀ event ∈ made, Storable P event := by
  have hcurrent : ∀ event ∈ orderedEvents events, Storable P event :=
    fun event hevent => hstored event (mem_orderedEvents.1 hevent)
  have hrecords := replayRecords_settled hcurrent h
  obtain ⟨generated, hgenerated, hgood⟩ := mapM_total records fun entry hentry =>
    generateEvent_ok hP hT (hrecords entry hentry) policy (orderedEvents events) nowText
  let created := generated.flatten.filter fun event =>
    !((orderedEvents events).map (·.eventId)).contains event.eventId
  have hcreated : ∀ event ∈ created, Generated P event := by
    intro event hevent
    obtain ⟨made, hmade, hin⟩ := List.mem_flatten.1 (List.mem_of_mem_filter hevent)
    exact hgood made hmade event hin
  have hmember : ∀ event ∈ orderedEvents (orderedEvents events ++ created),
      event ∈ orderedEvents events ∨ event ∈ created :=
    fun event hevent => List.mem_append.1 (mem_orderedEvents.1 hevent)
  have hstoredAll : ∀ event ∈ orderedEvents (orderedEvents events ++ created),
      Storable P event := by
    intro event hevent
    cases hmember event hevent with
    | inl hold => exact hcurrent event hold
    | inr hnew => exact (hcreated event hnew).storable
  have hagain : ∃ updated, replayRecords P (orderedEvents (orderedEvents events ++ created)) =
      .ok updated ∧ AllSettled updated := by
    unfold replayRecords at h ⊢
    obtain ⟨c, hc, happlied⟩ := Except.bind_eq_ok.1 h
    have hsettled := clusterObservations_settled hcurrent hc
    have hfollowed := (applyPatternEvents_settled hcurrent hsettled happlied).2
    have hsame : clusterObservations P (orderedEvents (orderedEvents events ++ created)) = .ok c := by
      rw [clusterObservations_filter, orderedEvents_observations fun event hevent =>
        (hcreated event hevent).notObservation, ← clusterObservations_filter, hc]
    rw [hsame]
    apply applyPatternEvents_ok hstoredAll hsettled
    intro event hevent htouches
    cases hmember event hevent with
    | inl hold => exact hfollowed event hold htouches
    | inr hnew => exact (hcreated event hnew).followed
  obtain ⟨updated, hupdated, hsettled⟩ := hagain
  refine ⟨created ++ updated.flatMap fun entry =>
    evaluateLifecycle P policy entry.2.state (.text nowText), ?_, ?_⟩
  · apply Except.bind_eq_ok.2
    refine ⟨records, h, ?_⟩
    apply Except.bind_eq_ok.2
    refine ⟨generated, hgenerated, ?_⟩
    apply Except.bind_eq_ok.2
    exact ⟨updated, hupdated, rfl⟩
  · intro event hevent
    cases List.mem_append.1 hevent with
    | inl hnew => exact (hcreated event hnew).storable
    | inr hdue =>
      obtain ⟨entry, hentry, hmade⟩ := List.mem_flatMap.1 hdue
      exact evaluateLifecycle_storable hP hT (hsettled entry hentry) policy (.text nowText) hmade

end

/-- A transition is stored unless it turns a meaning around. -/
theorem applyLifecycleTransition_storable (P : Platform) (policy : LifecyclePolicy)
    (state : ClusterState) (event : Event) :
    (∀ made ∈ applyLifecycleTransition P policy state event, Storable P made) ↔
      event.eventType = "pattern.promoted" ∧ (promotionEligibility policy state).valid = false ∨
        meaningReversing event = false ∧ Storable P event := by
  unfold applyLifecycleTransition
  by_cases hrefused : event.eventType = "pattern.promoted" ∧
      (promotionEligibility policy state).valid = false
  · have hif : (event.eventType == "pattern.promoted" &&
        !(promotionEligibility policy state).valid) = true := by
      rw [hrefused.1, hrefused.2]
      rfl
    rw [if_pos hif]
    constructor
    · exact fun _ => .inl hrefused
    · exact fun _ made hmade => absurd hmade List.not_mem_nil
  · have hif : ¬(event.eventType == "pattern.promoted" &&
        !(promotionEligibility policy state).valid) = true := by
      rw [Bool.and_eq_true, beq_iff_eq, Bool.not_eq_true']
      exact hrefused
    rw [if_neg hif]
    cases hreversing : meaningReversing event with
    | true =>
      rw [if_pos rfl]
      dsimp only
      constructor
      · intro hall
        have hunknown : eventPayloadFields.lookup "replaces_pattern_id" = none := by
          decide
        have hreplacement := hall _ (List.mem_cons_self ..)
        have hnone := hreplacement.lookup_none hunknown
        unfold lifecycleEvent at hnone
        dsimp only at hnone
        rw [lookup_contentEvent _ _ (by decide) (by decide), Dict.lookup_update] at hnone
        · cases hnone
        · show ["pattern_id", "rule", "classification", "relation", "replaces_pattern_id"].Nodup
          decide
      · intro h
        cases h with
        | inl hpromoted => exact absurd hpromoted hrefused
        | inr hplain => exact absurd hplain.1 Bool.noConfusion
    | false =>
      rw [if_neg Bool.false_ne_true]
      constructor
      · exact fun hall => .inr ⟨rfl, hall event (List.mem_singleton_self event)⟩
      · intro h made hmade
        rw [List.mem_singleton.1 hmade]
        cases h with
        | inl hpromoted => exact absurd hpromoted hrefused
        | inr hplain => exact hplain.2

/-- Whatever the lifecycle makes of a replayed record is stored, unless a revision that reverses
the meaning of its pattern is to be applied, or an event that is not storable itself. -/
theorem lifecycle_stored {P : Platform} (hP : P.HexDigests) (hT : P.PlainTexts)
    (hstored : ∀ event ∈ events, Storable P event)
    (hreplayed : replayRecords P (orderedEvents events) = .ok records) (hentry : entry ∈ records)
    (policy : LifecyclePolicy) (nowUtc : NowUtc) (nowText : String) (event : Event) :
    ((∀ made ∈ evaluateLifecycle P policy entry.2.state nowUtc, Storable P made) ∧
      (∃ made, generateEvent P policy (orderedEvents events) nowText entry.2 = .ok made ∧
        ∀ event ∈ made, Storable P event) ∧
      (∃ made, reconcileEvents P policy events nowText = .ok made ∧
        ∀ event ∈ made, Storable P event) ∧
      ∀ made ∈ applyLifecycleTransition P policy entry.2.state event, Storable P made) ↔
    event.eventType = "pattern.promoted" ∧
        (promotionEligibility policy entry.2.state).valid = false ∨
      meaningReversing event = false ∧ Storable P event := by
  have hsettled : entry.2.state.Settled := by
    apply replayRecords_settled _ hreplayed entry hentry
    exact fun event hevent => hstored event (mem_orderedEvents.1 hevent)
  rw [← applyLifecycleTransition_storable]
  constructor
  · intro h
    exact h.2.2.2
  · intro happly
    obtain ⟨made, hmade, hgenerated⟩ :=
      generateEvent_ok hP hT hsettled policy (orderedEvents events) nowText
    refine ⟨?_, ⟨made, hmade, ?_⟩, ?_, happly⟩
    · exact fun event hevent => evaluateLifecycle_storable hP hT hsettled policy nowUtc hevent
    · exact fun event hevent => (hgenerated event hevent).storable
    · exact reconcileEvents_storable hP hT hstored hreplayed policy nowText

/-- A journal with one observation, whose pattern was promoted. -/
def promotedRule : List Event :=
  let event (eventId eventType occurredAt : String) (payload : Fields) : Event :=
    { eventId, eventType, occurredAt, actor := "external-intelligence", machineId := "machine",
      payload }
  let host : Fields := HostFields.toPayload { sourceHostId := "desk", sourceHostFamily := "editor" }
  [event "evt_1" "observation.recorded" "2026-01-01T00:00:00Z"
      ([("observation_id", .str "obs_1"), ("claim", .str "always check the return code")] ++ host),
    event "evt_2" "pattern.promoted" "2026-01-02T00:00:00Z"
      [("pattern_id", .str "pat_1"), ("cluster_id", .str "cluster_ca7ed663b68210de2c51_f80893cc92b1")]]

/-- A revision that turns the meaning of a pattern around. -/
def reversal : Event :=
  { eventId := "evt_3"
    eventType := "pattern.revised"
    occurredAt := "2026-01-03T00:00:00Z"
    actor := "external-intelligence"
    machineId := "machine"
    payload := [("rule", .str "never check the return code"), ("meaning_reversing", .bool true)] }


instance (P : Platform) (event : Event) : Decidable (Storable P event) :=
  inferInstanceAs (Decidable (∀ issue ∈ inspectEventPayload P (.dict event.payload)
    (eventClassification P event), issue.reasonCode ∉ registryCodes))

theorem promotedRule_storable : ∀ event ∈ promotedRule, Storable samplePlatform event := by
  decide +kernel

theorem lifecycle_stored_promotedRule :
    ∃ records, replayRecords samplePlatform (orderedEvents promotedRule) = .ok records ∧
      ∀ entry ∈ records, ∀ nowUtc nowText,
        (∀ made ∈ evaluateLifecycle samplePlatform {} entry.2.state nowUtc,
          Storable samplePlatform made) ∧
        (∃ made, generateEvent samplePlatform {} (orderedEvents promotedRule) nowText entry.2 =
          .ok made ∧ ∀ event ∈ made, Storable samplePlatform event) ∧
        (∃ made, reconcileEvents samplePlatform {} promotedRule nowText = .ok made ∧
          ∀ event ∈ made, Storable samplePlatform event) ∧
        ∀ made ∈ applyLifecycleTransition samplePlatform {} entry.2.state
          { reversal with payload := [("rule", .str "check it twice")] },
          Storable samplePlatform made := by
  obtain ⟨records, hrecords⟩ := Except.exists_ok_of_isOk
    (show (replayRecords samplePlatform (orderedEvents promotedRule)).isOk = true by decide +kernel)
  refine ⟨records, hrecords, ?_⟩
  intro entry hentry nowUtc nowText
  apply (lifecycle_stored samplePlatform_hexDigests samplePlatform_plainTexts
    promotedRule_storable hrecords hentry {} nowUtc nowText _).2
  exact .inr (by decide)

/-- The replacement of an active pattern has a field that the registry does not know. -/
theorem reversal_not_stored : (∀ event ∈ promotedRule, Storable samplePlatform event) ∧
    ∃ records, replayRecords samplePlatform (orderedEvents promotedRule) = .ok records ∧
      ∃ entry ∈ records, entry.2.state.status = "active" ∧
        ∃ made ∈ applyLifecycleTransition samplePlatform {} entry.2.state reversal,
          ⟨Text.chars "/relation", "UNKNOWN_FIELD"⟩ ∈ inspectEventPayload samplePlatform
            (.dict made.payload) (eventClassification samplePlatform made) := by
  refine ⟨by decide +kernel, ?_⟩
  exact Except.exists_ok_of_decide (by decide +kernel)

end ExternalIntelligence
