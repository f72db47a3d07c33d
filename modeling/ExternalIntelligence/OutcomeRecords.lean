import ExternalIntelligence.MeasurementRecords

namespace Except
set_option autoImplicit true

/-- A map that succeeds makes each item of what it gives from one of its items. -/
theorem mapM_eq_ok {f : α → Except ε β} {items : List α} {made : List β} :
    items.mapM f = .ok made ↔ List.Forall₂ (fun item one => f item = .ok one) items made := by
  induction items generalizing made with
  | nil =>
    rw [List.mapM_nil, List.forall₂_nil_left_iff]
    constructor
    · intro h
      cases h
      rfl
    · intro h
      rw [h]
      rfl
  | cons item items ih =>
    rw [List.mapM_cons, List.forall₂_cons_left_iff]
    constructor
    · intro h
      obtain ⟨one, hone, h⟩ := Except.bind_eq_ok.1 h
      obtain ⟨rest, hrest, h⟩ := Except.bind_eq_ok.1 h
      cases h
      exact ⟨one, rest, hone, ih.1 hrest, rfl⟩
    · intro h
      obtain ⟨one, rest, hone, hrest, he⟩ := h
      rw [hone, ih.2 hrest, he]
      rfl

end Except

namespace ExternalIntelligence
set_option autoImplicit true

theorem exists_left_of_mem_right {R : α → β → Prop} (h : List.Forall₂ R left right)
    (hmem : b ∈ right) : ∃ a ∈ left, R a b := by
  induction h with
  | nil => cases hmem
  | @cons a other left right hhead _ ih =>
    cases List.mem_cons.1 hmem with
    | inl he => exact ⟨a, List.mem_cons_self .., he ▸ hhead⟩
    | inr hrest =>
      obtain ⟨found, hfound, hrel⟩ := ih hrest
      exact ⟨found, List.mem_cons_of_mem _ hfound, hrel⟩

section Sources

variable {P : Platform}

/-- A source of a metric, as it is taken over. -/
def SourceKept (P : Platform) (field : String × Value) : Prop :=
  metricNames.contains field.1 = true ∧
    ∃ text, field.2 = .str text ∧ safeLabel P (.str text) (field.1 ++ "_source") "" = .ok text

structure SourcesKept (P : Platform) (sources : Fields) : Prop where
  nodup : (Dict.keys sources).Nodup
  sorted : Value.sortFields sources = sources
  label : ∀ field ∈ sources, SourceKept P field

theorem safeSources_kept (h : safeSources P value = .ok sources) : SourcesKept P sources := by
  unfold safeSources at h
  split at h
  · cases h
    constructor
    · exact List.nodup_nil
    · rfl
    · exact fun _ hfield => absurd hfield List.not_mem_nil
  · obtain ⟨kept, hkept, he⟩ := Except.map_eq_ok.1 h
    have hinv : (Dict.keys kept).Nodup ∧ ∀ field ∈ kept, SourceKept P field := by
      apply Except.foldlM_invariant (I := fun kept : Fields =>
        (Dict.keys kept).Nodup ∧ ∀ field ∈ kept, SourceKept P field) _ _ hkept
      · intro before field _ after hbefore hstep
        split at hstep
        · rename_i hname
          obtain ⟨text, htext, hset⟩ := Except.map_eq_ok.1 hstep
          rw [← hset]
          constructor
          · exact Dict.keys_set_nodup hbefore.1
          · intro other hother
            cases Dict.mem_of_mem_set hother with
            | inl he =>
              rw [he]
              exact ⟨hname, text, rfl, safeLabel_again htext⟩
            | inr hold => exact hbefore.2 other hold
        · cases hstep
          exact hbefore
      · exact ⟨List.nodup_nil, fun _ hfield => absurd hfield List.not_mem_nil⟩
    have hperm := Value.sortFields_perm kept
    rw [← he]
    constructor
    · exact (Dict.keys_perm hperm).nodup_iff.2 hinv.1
    · exact Value.sortFields_sortFields kept
    · exact fun field hfield => hinv.2 field (hperm.mem_iff.1 hfield)
  · cases h

theorem foldlM_sources {done rest : Fields} (hnodup : (Dict.keys (done ++ rest)).Nodup)
    (hlabel : ∀ field ∈ rest, SourceKept P field) :
    rest.foldlM (fun (result : Fields) field =>
      if metricNames.contains field.1 then
        (safeLabel P field.2 (field.1 ++ "_source") "").map fun source =>
          Dict.set field.1 (.str source) result
      else .ok result) done = .ok (done ++ rest) := by
  induction rest generalizing done with
  | nil => exact congrArg Except.ok (List.append_nil done).symm
  | cons field rest ih =>
    obtain ⟨name, source⟩ := field
    obtain ⟨hname, text, hsource, hlabelled⟩ := hlabel _ (List.mem_cons_self ..)
    have hnew : name ∉ Dict.keys done := by
      rw [Dict.keys, List.map_append, List.map_cons] at hnodup
      exact fun hmem => List.disjoint_of_nodup_append hnodup hmem (List.mem_cons_self ..)
    dsimp only at hname hsource hlabelled
    rw [List.foldlM_cons]
    dsimp only
    rw [if_pos hname, hsource, hlabelled]
    show List.foldlM _ (Dict.set name (.str text) done) rest = _
    rw [Dict.set_of_notMem hnew, ih]
    · rw [List.append_assoc]
      rfl
    · rw [List.append_assoc, ← hsource]
      exact hnodup
    · exact fun field hfield => hlabel field (List.mem_cons_of_mem _ hfield)

theorem SourcesKept.again (h : SourcesKept P sources) :
    safeSources P (.dict sources) = .ok sources := by
  have hfold := @foldlM_sources P [] sources h.nodup h.label
  unfold safeSources
  dsimp only
  rw [hfold]
  exact congrArg Except.ok h.sorted

theorem SourcesKept.readable (h : SourcesKept P sources) (real : String → String) :
    Json.Readable real (.dict sources) ∧ (Value.dict sources).canonical = .dict sources := by
  constructor
  · constructor
    · exact h.nodup
    · apply readableFields_of_forall
      intro field hfield
      obtain ⟨_, text, htext, _⟩ := h.label field hfield
      rw [htext]
      trivial
  · have hsame : sources.map (fun field => (field.1, field.2.canonical)) = sources := by
      apply (List.map_congr_left _).trans (List.map_id sources)
      intro field hfield
      obtain ⟨_, text, htext, _⟩ := h.label field hfield
      obtain ⟨name, source⟩ := field
      dsimp only at htext ⊢
      rw [htext]
      rfl
    rw [Value.canonical_dict, Value.canonicalObject, hsame, h.sorted]

end Sources

namespace OutcomeRecord

/-- A record that its own fields are normalised to. -/
structure Normal (M : MeasurementPlatform) (r : OutcomeRecord) : Prop where
  experiment : (r.experimentId == "") = false
  session : hashIdentifier M.toPlatform r.sessionIdHash "session_id_hash" false =
    .ok r.sessionIdHash
  task : ∀ observed, taskIdentifier M.toPlatform r.taskIdHash r.experimentId r.sessionIdHash
    observed = .ok r.taskIdHash
  exposure : hashIdentifier M.toPlatform r.exposureId "exposure_id" true = .ok r.exposureId
  observed : ∀ later, measurementTimestamp M.toPlatform later r.observedAt = .ok r.observedAt
  retries : measurementNumber M (.int r.retryCount) "retry_count" false =
    .ok (.int r.retryCount)
  sources : SourcesKept M.toPlatform r.metricSources
  metrics : List.Forall₂ (fun name metric => metric.1 = name ∧ Metric M metric) measuredNames
    r.metrics
  provenance : ∀ item ∈ r.provenance, item ≠ "" ∧
    hashIdentifier M.toPlatform item "provenance" false = .ok item
  provenanceSorted : sortedSet r.provenance = r.provenance
  host : safeLabel M.toPlatform (.str r.hostId) "host_id" "unknown" = .ok r.hostId
  hostInstance : hashIdentifier M.toPlatform r.hostInstanceHash "host_instance_hash" true =
    .ok r.hostInstanceHash
  model : safeLabel M.toPlatform (.str r.modelFamily) "model_family" "unknown" =
    .ok r.modelFamily
  domain : safeLabel M.toPlatform (.str r.domain) "domain" "" = .ok r.domain
  source : safeLabel M.toPlatform (.str r.source) "source" "direct_outcome_events" = .ok r.source

theorem normalise_normal {M : MeasurementPlatform} {r : OutcomeRecord} (hM : M.Lawful)
    (hclock : M.ReadsClock now) (h : normalise M now a = .ok r) : r.Normal M := by
  unfold normalise at h
  simp only [refuse_bind_ok] at h
  obtain ⟨hexperiment, h⟩ := h
  obtain ⟨session, hsession, h⟩ := Except.bind_eq_ok.1 h
  obtain ⟨task, htask, h⟩ := Except.bind_eq_ok.1 h
  obtain ⟨exposure, hexposure, h⟩ := Except.bind_eq_ok.1 h
  obtain ⟨observed, hobserved, h⟩ := Except.bind_eq_ok.1 h
  obtain ⟨retries, hretries, h⟩ := Except.bind_eq_ok.1 h
  obtain ⟨sources, hsources, h⟩ := Except.bind_eq_ok.1 h
  obtain ⟨metrics, hmetrics, h⟩ := Except.bind_eq_ok.1 h
  obtain ⟨items, _, h⟩ := Except.bind_eq_ok.1 h
  obtain ⟨provenance, hprovenance, h⟩ := Except.bind_eq_ok.1 h
  obtain ⟨host, hhost, h⟩ := Except.bind_eq_ok.1 h
  obtain ⟨hostInstance, hhostInstance, h⟩ := Except.bind_eq_ok.1 h
  obtain ⟨model, hmodel, h⟩ := Except.bind_eq_ok.1 h
  obtain ⟨domain, hdomain, h⟩ := Except.bind_eq_ok.1 h
  obtain ⟨source, hsource, h⟩ := Except.bind_eq_ok.1 h
  cases h
  constructor
  case experiment => exact hexperiment
  case session => exact hashIdentifier_again hM.hexDigests hsession
  case task => exact taskIdentifier_again hM.hexDigests htask
  case exposure => exact hashIdentifier_again hM.hexDigests hexposure
  case observed => exact fun later => (measurementTimestamp_again hM hclock hobserved later).2
  case retries => exact measurementNumber_required hM hretries _
  case sources => exact safeSources_kept hsources
  case metrics =>
    apply (Except.mapM_eq_ok.1 hmetrics).imp
    intro name metric hmetric
    exact ⟨normalMetric_name hmetric, normalMetric_metric hM hmetric⟩
  case provenance =>
    intro item hitem
    obtain ⟨given, _, hgiven⟩ := exists_left_of_mem_right
      (Except.mapM_eq_ok.1 hprovenance) (mem_sortedSet.1 hitem)
    have hhashed := hashItem_ok hgiven
    exact ⟨hashIdentifier_nonempty hhashed hM.hexDigests,
      hashIdentifier_again hM.hexDigests hhashed⟩
  case provenanceSorted => exact sortedSet_sortedSet provenance
  case host => exact safeLabel_again hhost
  case hostInstance => exact hashIdentifier_again hM.hexDigests hhostInstance
  case model => exact safeLabel_again hmodel
  case domain => exact safeLabel_again hdomain
  case source => exact safeLabel_again hsource

def baseNames : List String :=
  ["schema_version", "outcome_id", "experiment_id", "session_id_hash", "task_id_hash",
    "exposure_id", "observed_at", "host_id", "host_instance_hash", "model_family", "domain",
    "retry_count", "metric_sources", "provenance", "source", "contamination"]

/-- The names that the row of an outcome may have. -/
def names : List String :=
  baseNames ++ measuredNames.flatMap fun name => [name, name ++ "_source"]

theorem mem_metricFields (h : field ∈ metricFields sources metric) :
    field = metric ∧ metric.2 ≠ .none ∨ field = (metric.1 ++ "_source",
      getOr sources metric.1 .none) ∧ (getOr sources metric.1 .none).truthy = true := by
  unfold metricFields at h
  split at h
  · cases h
  · rename_i hvalue
    dsimp only at h
    cases List.mem_cons.1 h with
    | inl he => exact .inl ⟨he, hvalue⟩
    | inr hrest =>
      split at hrest
      · rename_i htruthy
        exact .inr ⟨List.mem_singleton.1 hrest, htruthy⟩
      · cases hrest

theorem keys_metricFields (sources : Fields) (metric : String × Value) :
    List.Sublist (Dict.keys (metricFields sources metric))
      [metric.1, metric.1 ++ "_source"] := by
  unfold metricFields
  dsimp only
  split
  · exact List.nil_sublist _
  · split
    · exact List.Sublist.refl _
    · exact (List.nil_sublist _).cons_cons _

theorem keys_metricRow (sources metrics : Fields) :
    List.Sublist (Dict.keys (metrics.flatMap (metricFields sources)))
      ((Dict.keys metrics).flatMap fun name => [name, name ++ "_source"]) := by
  induction metrics with
  | nil => exact List.Sublist.refl _
  | cons metric metrics ih =>
    rw [List.flatMap_cons, Dict.keys, List.map_append]
    exact (keys_metricFields sources metric).append ih

section Row

variable {M : MeasurementPlatform} {r : OutcomeRecord}

theorem Normal.keys_metrics (h : r.Normal M) : Dict.keys r.metrics = measuredNames := by
  have hzip := h.metrics
  generalize measuredNames = measured at hzip ⊢
  generalize r.metrics = metrics at hzip ⊢
  induction hzip with
  | nil => rfl
  | cons hhead _ ih =>
    rw [Dict.keys, List.map_cons, hhead.1]
    exact congrArg _ ih

theorem Normal.keys_toDict (h : r.Normal M) : List.Sublist (Dict.keys r.toDict) names := by
  have hrow := keys_metricRow r.metricSources r.metrics
  rw [h.keys_metrics] at hrow
  unfold toDict
  rw [Dict.keys, List.map_append]
  exact (List.Sublist.refl baseNames).append hrow

theorem mem_toDict (h : (name, value) ∈ r.toDict) : name ∈ baseNames ∨
    ∃ metric ∈ r.metrics, (name, value) ∈ metricFields r.metricSources metric := by
  unfold toDict at h
  cases List.mem_append.1 h with
  | inl hbase => exact .inl (List.mem_map_of_mem (f := Prod.fst) hbase)
  | inr hrest => exact .inr (List.mem_flatMap.1 hrest)

theorem Normal.mem_metrics (h : r.Normal M) (hmetric : metric ∈ r.metrics) :
    metric.1 ∈ measuredNames ∧ Metric M metric := by
  obtain ⟨name, hname, he, hkept⟩ := exists_left_of_mem_right h.metrics hmetric
  rw [he]
  exact ⟨hname, hkept⟩

theorem Normal.nodup_toDict (h : r.Normal M) : (Dict.keys r.toDict).Nodup :=
  (show names.Nodup by decide).sublist h.keys_toDict

/-- A field under the name of a metric is the metric's. -/
theorem Normal.value_of_mem (h : r.Normal M) (hmetric : (name, value) ∈ r.metrics)
    (hmem : (name, found) ∈ r.toDict) : found = value ∧ value ≠ .none := by
  have hname := (h.mem_metrics hmetric).1
  dsimp only at hname
  cases mem_toDict hmem with
  | inl hbase =>
    exact absurd hbase ((show ∀ name ∈ measuredNames, name ∉ baseNames by decide) name hname)
  | inr hrest =>
    obtain ⟨metric, hother, hfield⟩ := hrest
    cases mem_metricFields hfield with
    | inl hsame =>
      obtain ⟨he, hne⟩ := hsame
      rw [← he] at hother hne
      have hnodup : (Dict.keys r.metrics).Nodup := by
        rw [h.keys_metrics]
        decide
      have hvalue := (Dict.lookup_of_mem hnodup hother).symm.trans
        (Dict.lookup_of_mem hnodup hmetric)
      cases hvalue
      exact ⟨rfl, hne⟩
    | inr hsource =>
      have he : name = metric.1 ++ "_source" := congrArg Prod.fst hsource.1
      exact absurd he ((show ∀ name ∈ measuredNames, ∀ other ∈ measuredNames,
        name ≠ other ++ "_source" by decide) name hname metric.1 (h.mem_metrics hother).1)

theorem Normal.getOr_metric (h : r.Normal M) (hmetric : (name, value) ∈ r.metrics) :
    getOr r.toDict name .none = value := by
  unfold getOr
  cases hfound : r.toDict.lookup name with
  | some found => exact (h.value_of_mem hmetric (Dict.mem_of_lookup hfound)).1
  | none =>
    by_contra hne
    have hvalue : value ≠ .none := fun he => hne he.symm
    have hmem : (name, value) ∈ r.toDict := by
      apply List.mem_append_right
      apply List.mem_flatMap_of_mem hmetric
      unfold metricFields
      rw [if_neg hvalue]
      exact List.mem_cons_self ..
    rw [Dict.lookup_of_mem h.nodup_toDict hmem] at hfound
    cases hfound

/-- A field under the name of a source is the source that the record has. -/
theorem Normal.source_of_lookup (h : r.Normal M) (hname : name ∈ measuredNames)
    (hfound : r.toDict.lookup (name ++ "_source") = some found) :
    r.metricSources.lookup name = some found := by
  cases mem_toDict (Dict.mem_of_lookup hfound) with
  | inl hbase =>
    exact absurd hbase
      ((show ∀ name ∈ measuredNames, name ++ "_source" ∉ baseNames by decide) name hname)
  | inr hrest =>
    obtain ⟨metric, hmetric, hfield⟩ := hrest
    have hmeasured := (h.mem_metrics hmetric).1
    cases mem_metricFields hfield with
    | inl hsame =>
      have he : name ++ "_source" = metric.1 := congrArg Prod.fst hsame.1
      exact absurd he.symm ((show ∀ name ∈ measuredNames, ∀ other ∈ measuredNames,
        name ≠ other ++ "_source" by decide) metric.1 hmeasured name hname)
    | inr hsource =>
      obtain ⟨he, htruthy⟩ := hsource
      have hsame : name = metric.1 := (show ∀ name ∈ measuredNames, ∀ other ∈ measuredNames,
        name ++ "_source" = other ++ "_source" → name = other by decide) name hname metric.1
        hmeasured (congrArg Prod.fst he)
      have hvalue : found = getOr r.metricSources name .none := by
        rw [hsame]
        exact congrArg Prod.snd he
      rw [← hsame, ← hvalue] at htruthy
      unfold getOr at hvalue
      cases hlookup : r.metricSources.lookup name with
      | some kept =>
        rw [hlookup] at hvalue
        exact congrArg some hvalue.symm
      | none =>
        rw [hlookup] at hvalue
        rw [hvalue] at htruthy
        cases htruthy

theorem set_of_lookup {fields : Fields} (h : fields.lookup name = some value) :
    Dict.set name value fields = fields := by
  induction fields with
  | nil => cases h
  | cons field fields ih =>
    obtain ⟨other, kept⟩ := field
    rw [Dict.lookup_cons] at h
    rw [Dict.set]
    split
    · rename_i he
      rw [if_pos he] at h
      cases h
      rw [he]
    · rename_i hne
      rw [if_neg hne] at h
      rw [ih h]

/-- A fold whose steps leave its start as it is ends with it. -/
theorem foldl_fixed_of_mem {f : β → α → β} {start : β} {items : List α}
    (h : ∀ item ∈ items, f start item = start) : items.foldl f start = start := by
  induction items with
  | nil => rfl
  | cons item items ih =>
    rw [List.forall_mem_cons] at h
    rw [List.foldl_cons, h.1]
    exact ih h.2

theorem Normal.mappedSources_toDict (h : r.Normal M) : mappedSources r.toDict = r.metricSources := by
  rw [mappedSources]
  apply foldl_fixed_of_mem
  intro name hname
  cases hfound : r.toDict.lookup (name ++ "_source") with
  | none => rfl
  | some source => exact set_of_lookup (h.source_of_lookup hname hfound)

/-- The metrics that a mapping gives, as they are looked up. -/
theorem getOr_measured (value : Fields) (hname : name ∈ measuredNames) :
    getOr (measuredNames.filterMap fun name =>
      (value.lookup name).map fun metric => (name, metric)) name .none =
      getOr value name .none := by
  have hlookup : ∀ measured : List String, name ∈ measured →
      (measured.filterMap fun name =>
        (value.lookup name).map fun metric => (name, metric)).lookup name = value.lookup name := by
    intro measured hmem
    induction measured with
    | nil => cases hmem
    | cons other measured ih =>
      by_cases hsame : other = name
      · subst hsame
        cases hfound : value.lookup other with
        | some metric =>
          rw [List.filterMap_cons, hfound]
          exact (Dict.lookup_cons ..).trans (if_pos rfl)
        | none =>
          rw [List.filterMap_cons, hfound]
          by_cases hrest : other ∈ measured
          · exact (ih hrest).trans hfound
          · apply Dict.lookup_eq_none_iff.2
            intro hkey
            obtain ⟨field, hfield, he⟩ := List.mem_map.1 hkey
            obtain ⟨found, hin, hmade⟩ := List.mem_filterMap.1 hfield
            obtain ⟨metric, _, hpair⟩ := Option.map_eq_some_iff.1 hmade
            rw [← he, ← hpair] at hrest
            exact hrest hin
      · have hin := (List.mem_cons.1 hmem).resolve_left (Ne.symm hsame)
        cases hfound : value.lookup other with
        | none =>
          rw [List.filterMap_cons, hfound]
          exact ih hin
        | some metric =>
          rw [List.filterMap_cons, hfound]
          exact (Dict.lookup_cons ..).trans ((if_neg hsame).trans (ih hin))
  unfold getOr
  rw [hlookup measuredNames hname]

theorem Normal.mapM_metrics (h : r.Normal M) :
    measuredNames.mapM (normalMetric M (measuredNames.filterMap fun name =>
      (r.toDict.lookup name).map fun metric => (name, metric))) = .ok r.metrics := by
  apply Except.mapM_eq_ok.2
  have hkeys := h.metrics
  have hvalues : ∀ metric ∈ r.metrics,
      normalMetric M (measuredNames.filterMap fun name =>
        (r.toDict.lookup name).map fun metric => (name, metric)) metric.1 = .ok metric := by
    intro metric hmetric
    obtain ⟨hname, hkept⟩ := h.mem_metrics hmetric
    apply hkept.again
    rw [getOr_measured r.toDict hname]
    exact h.getOr_metric hmetric
  generalize r.metrics = metrics at hkeys hvalues
  generalize normalMetric M _ = f at hvalues ⊢
  generalize measuredNames = measured at hkeys
  induction hkeys with
  | nil => exact .nil
  | cons hhead _ ih =>
    rw [List.forall_mem_cons] at hvalues
    exact .cons (hhead.1 ▸ hvalues.1) (ih hvalues.2)

theorem arguments_congr (P : Platform) {a b : Fields} (h : ∀ name, a.lookup name = b.lookup name) :
    arguments P a = arguments P b := by
  simp only [arguments, mappedSources, textOr, getOr, h]

/-- The arguments that the row of a record gives: all that it was made from but its identifier. -/
theorem arguments_toDict (P : Platform) (r : OutcomeRecord) : arguments P r.toDict =
    { experimentId := r.experimentId
      sessionIdHash := r.sessionIdHash
      taskIdHash := r.taskIdHash
      exposureId := r.exposureId
      observedAt := r.observedAt
      hostId := r.hostId
      hostInstanceHash := r.hostInstanceHash
      modelFamily := r.modelFamily
      domain := r.domain
      retryCount := .int r.retryCount
      metrics := measuredNames.filterMap fun name =>
        (r.toDict.lookup name).map fun metric => (name, metric)
      metricSources := .dict (mappedSources r.toDict)
      provenance := .ofStrings r.provenance
      source := r.source
      contamination := r.contamination } :=
  rfl

theorem Normal.mapM_provenance (h : r.Normal M) :
    (((r.provenance.map Value.str).filter fun item => pyStr M.toPlatform item ≠ "").mapM fun item =>
      hashItem M.toPlatform item "provenance") = .ok r.provenance := by
  rw [List.filter_eq_self.2]
  · apply Except.mapM_eq_ok.2
    apply List.forall₂_map_left_iff.2
    apply List.forall₂_same.2
    intro item hitem
    rw [hashItem, if_neg fun h => Value.noConfusion h]
    exact (h.provenance item hitem).2
  · rw [List.forall_mem_map]
    intro item hitem
    exact decide_eq_true (h.provenance item hitem).1

/-- A normal record is what its row is normalised to, but for its identifier. -/
theorem Normal.normalise_toDict (h : r.Normal M) (later : Int) :
    normalise M later (arguments M.toPlatform r.toDict) = .ok { r with outcomeId := "" } := by
  have hitems : pyList (.ofStrings r.provenance) = .ok (r.provenance.map Value.str) := rfl
  rw [arguments_toDict]
  simp only [normalise, h.experiment, h.session, h.task, h.exposure, h.observed, h.retries,
    h.mappedSources_toDict, h.sources.again, h.mapM_metrics, hitems, h.mapM_provenance,
    h.provenanceSorted, h.host, h.hostInstance, h.model, h.domain, h.source, refuse_false,
    ok_bind, wholeOf]
  rfl

theorem Normal.logRow_toDict (h : r.Normal M) : LogRow M r.toDict := by
  constructor
  case nodup => exact h.nodup_toDict
  case readable =>
    unfold toDict
    intro field hfield
    cases List.mem_append.1 hfield with
    | inl hbase =>
      have hsources := h.sources.readable M.real
      clear hfield
      revert field
      simp only [List.forall_mem_cons, (readable_ofStrings _ _).1,
        (readable_ofStrings M.real _).2, hsources.1, hsources.2]
      simp only [Json.Readable, Value.canonical, and_self, true_and]
      exact fun _ h => absurd h List.not_mem_nil
    | inr hrest =>
      obtain ⟨metric, hmetric, hmem⟩ := List.mem_flatMap.1 hrest
      cases mem_metricFields hmem with
      | inl hsame =>
        have hkept := (h.mem_metrics hmetric).2
        rw [hsame.1]
        exact ⟨hkept.readable, hkept.canonical⟩
      | inr hsource =>
        obtain ⟨he, htruthy⟩ := hsource
        rw [he]
        unfold getOr at htruthy ⊢
        cases hfound : r.metricSources.lookup metric.1 with
        | none =>
          rw [hfound] at htruthy
          cases htruthy
        | some found =>
          obtain ⟨_, text, htext, _⟩ := h.sources.label _ (Dict.mem_of_lookup hfound)
          dsimp only at htext ⊢
          rw [Option.getD_some, htext]
          exact ⟨trivial, rfl⟩
  case plain =>
    intro key hkey
    exact (show ∀ key ∈ names, ((Text.chars key).all fun c =>
      isPrintable c && Text.asciiLower c == c) = true by decide) key (h.keys_toDict.subset hkey)
  case accepted =>
    intro key hkey
    exact (show ∀ key ∈ names, (texts rawMeasurementFields).contains (Text.chars key) = false by
      decide) key (h.keys_toDict.subset hkey)

theorem create_normal (hM : M.Lawful) (hclock : M.ReadsClock now) (h : create M now a = .ok r) :
    r.Normal M := by
  obtain ⟨normal, hnormal, hidentified⟩ := Except.bind_eq_ok.1 h
  have hkept := normalise_normal hM hclock hnormal
  unfold identified at hidentified
  split at hidentified
  · cases hidentified
    cases hkept
    constructor <;> assumption
  · split at hidentified
    · cases hidentified
    · cases hidentified
      exact hkept

/-- A record that was made is read from its row, with the identifier of its content. -/
theorem fromMapping_create (hM : M.Lawful) (hclock : M.ReadsClock now)
    (h : create M now a = .ok r) (later : Int) :
    fromMapping M later (Value.canonicalObject r.toDict) =
      .ok { r with outcomeId := r.contentId M.toPlatform } := by
  have hnormal := create_normal hM hclock h
  have hrow := hnormal.logRow_toDict
  unfold fromMapping
  rw [hrow.rejectRawMapping hM, ok_bind, arguments_congr M.toPlatform hrow.lookup, create,
    hnormal.normalise_toDict later]
  rfl

end Row

end OutcomeRecord

end ExternalIntelligence
