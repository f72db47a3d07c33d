import ExternalIntelligence.MeasurementLog

namespace ExternalIntelligence
set_option autoImplicit true

def rawTextNames : List String :=
  ["prompt", "query", "query_text", "raw_query", "raw_prompt", "context", "additional_context",
    "response"]

/-- Nothing was given for a list. -/
def isUnset (value : Value) : Bool :=
  value == .none || value == .tuple [] || value == .list [] || value == .str ""

/-- The items of a list or a tuple; a text or another value has none. -/
def exposureItems (value : Value) (code : String) : Except Raised (List Value) :=
  match value.items? with
  | none => .error (valueError code)
  | some items => .ok items

def exposureScopes (P : Platform) (raw : Value) (count : Nat) (code : String) :
    Except Raised (List String) :=
  if isUnset raw then .ok (List.replicate count "personal")
  else
    (exposureItems raw code).bind fun items =>
      let values := items.map (pyStr P)
      if values.length ≠ count ∨ values.any (fun item => !knowledgeScopes.contains item) then
        .error (valueError code)
      else .ok values

def exposureIds (P : Platform) (items : List Value) : List String :=
  sortedSet ((items.map (pyStr P)).filter (· ≠ ""))

/-- The scopes of the selected ids, which are those of the candidates unless there are own ones. -/
def selectedExposureScopes (P : Platform) (raw : Value) (selectedIds : List String)
    (scopeById : List (String × String)) : Except Raised (List String) :=
  if isUnset raw then
    .ok (selectedIds.map fun item => (scopeById.lookup item).getD "personal")
  else exposureScopes P raw selectedIds.length "EXPOSURE_SELECTED_SCOPES_INVALID"

/-- A count of a row, which is what int makes of it. -/
def exposureMetric (P : Platform) (value : Value) : Except Raised Value :=
  match pyInt P (valueOr value (.int 0)) with
  | .error raised =>
    if raised.type = "TypeError" ∨ raised.type = "ValueError" then
      .error (valueError "EXPOSURE_METRIC_INVALID")
    else .error raised
  | .ok i => if i < 0 then .error (valueError "EXPOSURE_METRIC_INVALID") else .ok (.int i)

def exposureRecordedAt (P : Platform) (now : Int) (value : Value) : Except Raised Value :=
  if !value.truthy then .ok (.str (P.isoformat now))
  else if value.isStr then .ok value
  else .error (valueError "EXPOSURE_TIMESTAMP_INVALID")

/-- The row that an exposure is recorded as for recall. -/
def exposureDict (P : Platform) (now : Int) (source : Fields) : Except Raised Fields := do
  refuse (rawTextNames.any (Dict.keys source).contains)
    (valueError "EXPOSURE_RAW_TEXT_FORBIDDEN")
  refuse (!(["exposure_id", "query_fingerprint"].all fun key =>
    (getOr source key .none).strOr "" != "")) (valueError "EXPOSURE_FIELDS_INVALID")
  let selected := getOr source "selected_ids" (getOr source "selected_pattern_ids" (.tuple []))
  let selectedItems ← exposureItems selected "EXPOSURE_SELECTED_IDS_INVALID"
  let candidateItems ← exposureItems (valueOr (getOr source "candidate_ids" .none) selected)
    "EXPOSURE_CANDIDATE_IDS_INVALID"
  let candidateIds := exposureIds P candidateItems
  let selectedIds := exposureIds P selectedItems
  let candidateScopes ← exposureScopes P (getOr source "candidate_scopes" .none)
    candidateIds.length "EXPOSURE_CANDIDATE_SCOPES_INVALID"
  let explicitSelected := getOr source "selected_scopes" .none
  let selectedScopes ← selectedExposureScopes P explicitSelected selectedIds
    (candidateIds.zip candidateScopes)
  let scope := pyStr P (valueOr (getOr source "scope" .none) (.str (commonScope candidateScopes)))
  refuse (!(["personal", "team", "mixed"].contains scope)) (valueError "EXPOSURE_SCOPE_INVALID")
  let injected ← exposureMetric P (getOr source "injection_chars" (.str ""))
  let latency ← exposureMetric P (getOr source "retrieval_latency_ms" (.str ""))
  let recorded ← exposureRecordedAt P now (getOr source "recorded_at" (.str ""))
  let given (name : String) : Value := getOr source name (.str "")
  pure
    [("arm", given "arm"), ("candidate_ids", .ofStrings candidateIds),
      ("candidate_scopes", .ofStrings candidateScopes),
      ("empty_result", .bool (getOr source "empty_result" (.bool candidateIds.isEmpty)).truthy),
      ("experiment_id", given "experiment_id"), ("exposure_id", given "exposure_id"),
      ("host_id", given "host_id"), ("injection_chars", injected),
      ("query_fingerprint", given "query_fingerprint"), ("recorded_at", recorded),
      ("retrieval_latency_ms", latency), ("scope", .str scope),
      ("selected_ids", .ofStrings selectedIds), ("selected_scopes", .ofStrings selectedScopes),
      ("session_id_hash", given "session_id_hash"),
      ("team_unavailable", .bool (getOr source "team_unavailable" (.bool false)).truthy)]

/-- Candidates with the scopes they are given with, and those of them that are selected, which may
be given scopes of their own. -/
structure ScopedExposure where
  candidates : List (String × String)
  selected : List String
  selectedScopes : Option (List String)
  distinct : (candidates.map Prod.fst).Nodup
  chosen : selected.Nodup ∧ ∀ id ∈ selected, id ∈ candidates.map Prod.fst
  parallel : ∀ scopes, selectedScopes = some scopes → scopes.length = selected.length

namespace ScopedExposure

/-- The selected candidates with the scopes they are to have. -/
def chosenPairs (e : ScopedExposure) : List (String × String) :=
  match e.selectedScopes with
  | some scopes => e.selected.zip scopes
  | none => e.selected.map fun id => (id, (e.candidates.lookup id).getD "personal")

/-- The four lists of an exposure, as they are given. -/
structure Given (e : ScopedExposure) (ids selected scopes selectedScopes : Value) : Prop where
  ids : ids.items? = some ((e.candidates.map Prod.fst).map .str)
  selected : selected.items? = some (e.selected.map .str)
  scopes : scopes.items? = some ((e.candidates.map Prod.snd).map .str)
  supplied : ∀ own, e.selectedScopes = some own → selectedScopes.items? = some (own.map .str)
  unset : e.selectedScopes = none → isUnset selectedScopes = true

end ScopedExposure

/-- Pairs in the order of their ids. -/
def byId (pairs : List (String × String)) : List (String × String) :=
  pairs.insertionSort fun p q => p.1 ≤ q.1

/-- The scopes are given as they are in the order of the ids. -/
def InStep (pairs : List (String × String)) : Prop :=
  (byId pairs).map Prod.snd = pairs.map Prod.snd

instance (pairs : List (String × String)) : Decidable (InStep pairs) :=
  inferInstanceAs (Decidable (_ = _))

def ScopedExposure.InStep (e : ScopedExposure) : Prop :=
  ExternalIntelligence.InStep e.candidates ∧
    ∀ scopes, e.selectedScopes = some scopes →
      ExternalIntelligence.InStep (e.selected.zip scopes)

section Pairs

variable {pairs : List (String × String)}

theorem byId_perm (pairs : List (String × String)) : (byId pairs).Perm pairs :=
  List.perm_insertionSort _ _

theorem byId_pairwise (h : (pairs.map Prod.fst).Nodup) :
    (byId pairs).Pairwise fun p q => p.1 < q.1 := by
  have : Std.Total fun p q : String × String => p.1 ≤ q.1 := ⟨fun p q => le_total p.1 q.1⟩
  have : IsTrans (String × String) fun p q => p.1 ≤ q.1 := ⟨fun _ _ _ => le_trans⟩
  have hsorted : (byId pairs).Pairwise fun p q => p.1 ≤ q.1 := List.pairwise_insertionSort _ _
  have hnodup : (byId pairs).Pairwise fun p q => p.1 ≠ q.1 := by
    rw [← List.pairwise_map (f := Prod.fst) (R := fun a b : String => a ≠ b)]
    exact ((byId_perm pairs).map Prod.fst).nodup_iff.2 h
  exact (hsorted.and hnodup).imp fun hpq => lt_of_le_of_ne hpq.1 hpq.2

theorem byId_ids (h : (pairs.map Prod.fst).Nodup) :
    (byId pairs).map Prod.fst = sortedSet (pairs.map Prod.fst) := by
  apply eq_of_same_members _ (sortedSet_pairwise _)
  · intro id
    rw [mem_sortedSet, ((byId_perm pairs).map Prod.fst).mem_iff]
  · exact List.pairwise_map.2 (byId_pairwise h)

theorem zip_map_fst_snd (pairs : List (String × String)) :
    (pairs.map Prod.fst).zip (pairs.map Prod.snd) = pairs := by
  induction pairs with
  | nil => rfl
  | cons p pairs ih =>
    rw [List.map_cons, List.map_cons, List.zip_cons_cons, ih]

/-- Sorted ids keep the scopes of their pairs just when the scopes are in step. -/
theorem zip_sorted_perm_iff (h : (pairs.map Prod.fst).Nodup) :
    ((sortedSet (pairs.map Prod.fst)).zip (pairs.map Prod.snd)).Perm pairs ↔ InStep pairs := by
  rw [← byId_ids h]
  have hlength : ((byId pairs).map Prod.fst).length = (pairs.map Prod.snd).length := by
    rw [List.length_map, List.length_map, (byId_perm pairs).length_eq]
  constructor
  · intro hperm
    have hfst : (((byId pairs).map Prod.fst).zip (pairs.map Prod.snd)).map Prod.fst =
        (byId pairs).map Prod.fst := List.map_fst_zip (le_of_eq hlength)
    have hzip : (((byId pairs).map Prod.fst).zip (pairs.map Prod.snd)).Pairwise
        fun p q => p.1 < q.1 := by
      rw [← List.pairwise_map (f := Prod.fst) (R := fun a b : String => a < b), hfst]
      exact List.pairwise_map.2 (byId_pairwise h)
    have hsame : ((byId pairs).map Prod.fst).zip (pairs.map Prod.snd) = byId pairs := by
      apply (hperm.trans (byId_perm pairs).symm).eq_of_pairwise _ hzip (byId_pairwise h)
      intro a b _ _ hab hba
      exact absurd hab (lt_asymm hba)
    have hsnd := congrArg (List.map Prod.snd) hsame
    rw [List.map_snd_zip (le_of_eq hlength.symm)] at hsnd
    exact hsnd.symm
  · intro hstep
    rw [← hstep, zip_map_fst_snd]
    exact byId_perm pairs

end Pairs

/-- The lists of ids and scopes that an exposure is recorded with. -/
structure ScopeLists where
  candidateIds : List String
  candidateScopes : List String
  selectedIds : List String
  selectedScopes : List String
deriving DecidableEq

/-- The lists of a row. -/
def rowLists (row : Fields) : ScopeLists where
  candidateIds := (getOr row "candidate_ids" .none).strings
  candidateScopes := (getOr row "candidate_scopes" .none).strings
  selectedIds := (getOr row "selected_ids" .none).strings
  selectedScopes := (getOr row "selected_scopes" .none).strings

/-- A row has these lists. -/
structure HasLists (row : Fields) (lists : ScopeLists) : Prop where
  candidateIds : row.lookup "candidate_ids" = some (.ofStrings lists.candidateIds)
  candidateScopes : row.lookup "candidate_scopes" = some (.ofStrings lists.candidateScopes)
  selectedIds : row.lookup "selected_ids" = some (.ofStrings lists.selectedIds)
  selectedScopes : row.lookup "selected_scopes" = some (.ofStrings lists.selectedScopes)

theorem HasLists.rowLists (h : HasLists row lists) : rowLists row = lists := by
  unfold ExternalIntelligence.rowLists getOr
  rw [h.candidateIds, h.candidateScopes, h.selectedIds, h.selectedScopes]
  simp only [Option.getD_some, Value.strings_ofStrings]

namespace ScopedExposure

/-- Ids are put in order, and scopes stay in the order they are given in. -/
def lists (e : ScopedExposure) : ScopeLists where
  candidateIds := sortedSet (e.candidates.map Prod.fst)
  candidateScopes := e.candidates.map Prod.snd
  selectedIds := sortedSet e.selected
  selectedScopes := e.selectedScopes.getD ((sortedSet e.selected).map fun item =>
    (((sortedSet (e.candidates.map Prod.fst)).zip (e.candidates.map Prod.snd)).lookup item).getD
      "personal")

end ScopedExposure

theorem sortedSet_perm {values : List String} (h : values.Nodup) :
    (sortedSet values).Perm values := by
  apply (List.perm_ext_iff_of_nodup _ h).2
  · intro v
    exact mem_sortedSet
  · exact (sortedSet_pairwise values).imp fun hlt => ne_of_lt hlt

theorem length_sortedSet {values : List String} (h : values.Nodup) :
    (sortedSet values).length = values.length :=
  (sortedSet_perm h).length_eq

theorem items?_cases {value : Value} (h : value.items? = some items) :
    value = .list items ∨ value = .tuple items := by
  cases value with
  | list xs =>
    cases h
    exact .inl rfl
  | tuple xs =>
    cases h
    exact .inr rfl
  | none | bool | int | float | str | dict => cases h

theorem truthy_of_items? {value : Value} (h : value.items? = some items) :
    value.truthy = !items.isEmpty := by
  obtain rfl | rfl := items?_cases h
  · rfl
  · rfl

theorem isUnset_of_items? {value : Value} (h : value.items? = some items) :
    isUnset value = items.isEmpty := by
  obtain rfl | rfl := items?_cases h
  · cases items with
    | nil => rfl
    | cons item items => rfl
  · cases items with
    | nil => rfl
    | cons item items => rfl

section Lists

variable {P : Platform} {value : Value} {texts : List String}

theorem exposureItems_ok (h : value.items? = some items) :
    exposureItems value code = .ok items := by
  unfold exposureItems
  rw [h]

theorem exposureIds_texts (h : ∀ text ∈ texts, text ≠ "") :
    exposureIds P (texts.map .str) = sortedSet texts := by
  unfold exposureIds
  rw [map_pyStr_strs, List.filter_eq_self.2]
  intro text htext
  exact decide_eq_true (h text htext)

theorem exposureScopes_count (hitems : value.items? = some (texts.map .str)) (hne : texts ≠ [])
    (h : exposureScopes P value count code = .ok scopes) : count = texts.length := by
  unfold exposureScopes at h
  have hset : isUnset value = false := by
    rw [isUnset_of_items? hitems, List.isEmpty_eq_false_iff]
    intro hnil
    exact hne (List.map_eq_nil_iff.1 hnil)
  rw [hset, if_neg Bool.false_ne_true, exposureItems_ok hitems] at h
  dsimp only [Except.bind] at h
  rw [map_pyStr_strs] at h
  split at h
  · cases h
  · rename_i hvalid
    exact (not_ne_iff.1 (not_or.1 hvalid).1).symm

/-- Ids that are given with scopes are not empty. -/
theorem named_of_exposureScopes {pairs : List (String × String)}
    (hdistinct : (pairs.map Prod.fst).Nodup)
    (hitems : value.items? = some ((pairs.map Prod.snd).map .str))
    (h : exposureScopes P value (exposureIds P ((pairs.map Prod.fst).map .str)).length code =
      .ok scopes) :
    ∀ id ∈ pairs.map Prod.fst, id ≠ "" := by
  by_cases hpairs : pairs = []
  · rw [hpairs]
    intro id hid
    exact absurd hid List.not_mem_nil
  · have hcount := exposureScopes_count hitems (fun hnil => hpairs (List.map_eq_nil_iff.1 hnil)) h
    unfold exposureIds at hcount
    rw [map_pyStr_strs, length_sortedSet (hdistinct.filter _), List.length_map,
      ← show (pairs.map Prod.fst).length = pairs.length from List.length_map _] at hcount
    intro id hid
    exact of_decide_eq_true (List.length_filter_eq_length_iff.1 hcount id hid)

theorem exposureScopes_kept (hitems : value.items? = some (texts.map .str))
    (hcount : count = texts.length) (h : exposureScopes P value count code = .ok scopes) :
    scopes = texts := by
  unfold exposureScopes at h
  rw [isUnset_of_items? hitems] at h
  cases texts with
  | nil =>
    rw [hcount] at h
    cases h
    rfl
  | cons text texts =>
    rw [List.map_cons, List.isEmpty_cons, if_neg Bool.false_ne_true,
      exposureItems_ok hitems] at h
    dsimp only [Except.bind] at h
    rw [map_pyStr_strs] at h
    split at h
    · cases h
    · cases h
      rfl

theorem safeIdList_kept (hitems : value.items? = some (texts.map .str))
    (h : safeIdList P value = .ok ids) : ids = sortedSet texts := by
  have hlist : safeIdList P value = if ((texts.map Value.str).map (pyStr P)).all isMeasurementId
      then .ok (sortedSet ((texts.map Value.str).map (pyStr P)))
      else .error (measurementError "knowledge_id" "INVALID") := by
    obtain rfl | rfl := items?_cases hitems
    · rfl
    · rfl
  rw [hlist, map_pyStr_strs] at h
  split at h
  · cases h
    rfl
  · cases h

theorem safeScopeList_kept (hitems : value.items? = some (texts.map .str))
    (h : safeScopeList P value count field = .ok scopes) : scopes = texts := by
  cases texts with
  | nil =>
    obtain rfl | rfl := items?_cases hitems
    · cases h
      rfl
    · cases h
      rfl
  | cons text texts =>
    have hlist : safeScopeList P value count field =
        let values := ((text :: texts).map Value.str).map (pyStr P)
        if values.length ≠ count ∨ !values.all knowledgeScopes.contains then
          .error (measurementError field "INVALID")
        else .ok values := by
      obtain rfl | rfl := items?_cases hitems
      · rfl
      · rfl
    rw [hlist, map_pyStr_strs] at h
    dsimp only at h
    split at h
    · cases h
    · cases h
      rfl

theorem safeScopeList_unset (hunset : isUnset value = true)
    (h : safeScopeList P value count field = .ok scopes) : scopes = [] := by
  simp only [isUnset, Bool.or_eq_true, beq_iff_eq] at hunset
  obtain ((rfl | rfl) | rfl) | rfl := hunset
  all_goals
    cases h
    rfl

end Lists

namespace ScopedExposure

variable {e : ScopedExposure}

theorem selected_nil_of_candidates_nil (h : e.candidates = []) : e.selected = [] := by
  apply List.eq_nil_iff_forall_not_mem.2
  intro id hid
  have hcandidate := e.chosen.2 id hid
  rw [h] at hcandidate
  exact List.not_mem_nil hcandidate

theorem length_candidateIds (e : ScopedExposure) :
    (sortedSet (e.candidates.map Prod.fst)).length = (e.candidates.map Prod.snd).length := by
  rw [length_sortedSet e.distinct, List.length_map, List.length_map]

/-- Each candidate and each selected candidate has the scope in the lists that it is to have. -/
def Keeps (e : ScopedExposure) (kept : ScopeLists) : Prop :=
  (kept.candidateIds.zip kept.candidateScopes).Perm e.candidates ∧
    (kept.selectedIds.zip kept.selectedScopes).Perm e.chosenPairs

/-- The scopes that are looked up are those that the candidates have in the lists. -/
theorem looked_up_perm (hscopes : e.selectedScopes = none)
    (hkept : ((sortedSet (e.candidates.map Prod.fst)).zip (e.candidates.map Prod.snd)).Perm
      e.candidates) :
    (e.lists.selectedIds.zip e.lists.selectedScopes).Perm e.chosenPairs := by
  have hkeys : (Dict.keys ((sortedSet (e.candidates.map Prod.fst)).zip
      (e.candidates.map Prod.snd))).Nodup :=
    (hkept.map Prod.fst).nodup_iff.2 e.distinct
  have hlookup : e.lists.selectedScopes = (sortedSet e.selected).map fun item =>
      (e.candidates.lookup item).getD "personal" := by
    unfold lists
    rw [hscopes]
    apply List.map_congr_left
    intro item _
    rw [Dict.lookup_perm hkeys hkept]
  have hchosen : e.chosenPairs = e.selected.map fun item =>
      (item, (e.candidates.lookup item).getD "personal") := by
    unfold chosenPairs
    rw [hscopes]
  rw [hlookup, hchosen]
  have hzip : ∀ (ids : List String) (f : String → String),
      ids.zip (ids.map f) = ids.map fun item => (item, f item) := by
    intro ids f
    induction ids with
    | nil => rfl
    | cons item ids ih => rw [List.map_cons, List.zip_cons_cons, ih, List.map_cons]
  show ((sortedSet e.selected).zip _).Perm _
  rw [hzip]
  exact (sortedSet_perm e.chosen.1).map _

theorem keeps_lists_iff (e : ScopedExposure) : e.Keeps e.lists ↔ e.InStep := by
  have hcandidates := zip_sorted_perm_iff e.distinct
  unfold Keeps ScopedExposure.InStep
  rw [show e.lists.candidateIds.zip e.lists.candidateScopes =
    (sortedSet (e.candidates.map Prod.fst)).zip (e.candidates.map Prod.snd) from rfl, hcandidates]
  apply and_congr_right
  intro hstep
  cases hown : e.selectedScopes with
  | none =>
    apply iff_of_true
    · exact looked_up_perm hown (hcandidates.2 hstep)
    · intro scopes hscopes
      cases hscopes
  | some own =>
    have hids : (e.selected.zip own).map Prod.fst = e.selected :=
      List.map_fst_zip (le_of_eq (e.parallel own hown).symm)
    have hscopes : (e.selected.zip own).map Prod.snd = own :=
      List.map_snd_zip (le_of_eq (e.parallel own hown))
    have hdistinct : ((e.selected.zip own).map Prod.fst).Nodup := by
      rw [hids]
      exact e.chosen.1
    have hpairs := zip_sorted_perm_iff hdistinct
    rw [hids, hscopes] at hpairs
    have hkept : e.lists.selectedIds.zip e.lists.selectedScopes = (sortedSet e.selected).zip own := by
      unfold lists
      rw [hown]
      rfl
    have hchosen : e.chosenPairs = e.selected.zip own := by
      unfold chosenPairs
      rw [hown]
    rw [hkept, hchosen, hpairs]
    constructor
    · intro h scopes hsome
      cases hsome
      exact h
    · intro h
      exact h own rfl

end ScopedExposure

namespace ScopedExposure

variable {e : ScopedExposure} {P : Platform}

theorem Given.candidateItems {ids selected scopes own : Value}
    (h : e.Given ids selected scopes own) :
    (valueOr ids selected).items? = some ((e.candidates.map Prod.fst).map .str) := by
  unfold valueOr
  rw [truthy_of_items? h.ids]
  by_cases hcandidates : e.candidates = []
  · have hselected := h.selected
    rw [selected_nil_of_candidates_nil hcandidates] at hselected
    rw [hcandidates]
    exact hselected
  · rw [if_pos]
    · exact h.ids
    · rw [Bool.not_eq_true', List.isEmpty_eq_false_iff]
      intro hnil
      exact hcandidates (List.map_eq_nil_iff.1 (List.map_eq_nil_iff.1 hnil))

/-- Scopes that are given for the selected ids are kept, and others are looked up. -/
theorem Given.selectedScopes {ids selected scopes own : Value}
    (h : e.Given ids selected scopes own)
    (hrow : selectedExposureScopes P own (sortedSet e.selected) scopeById = .ok kept) :
    kept = e.selectedScopes.getD
      ((sortedSet e.selected).map fun item => (scopeById.lookup item).getD "personal") := by
  unfold selectedExposureScopes at hrow
  cases hown : e.selectedScopes with
  | none =>
    rw [if_pos (h.unset hown)] at hrow
    cases hrow
    rfl
  | some texts =>
    have hcount := e.parallel texts hown
    have hitems := h.supplied texts hown
    rw [← length_sortedSet e.chosen.1] at hcount
    rw [isUnset_of_items? hitems] at hrow
    cases texts with
    | nil =>
      cases hrow
      rw [List.eq_nil_of_length_eq_zero hcount.symm]
      rfl
    | cons text texts =>
      rw [List.map_cons, List.isEmpty_cons, if_neg Bool.false_ne_true] at hrow
      exact exposureScopes_kept hitems hcount.symm hrow

theorem hasLists_exposureDict (hgiven : e.Given (getOr source "candidate_ids" .none)
      (getOr source "selected_ids" (getOr source "selected_pattern_ids" (.tuple [])))
      (getOr source "candidate_scopes" .none) (getOr source "selected_scopes" .none))
    (h : exposureDict P now source = .ok row) : HasLists row e.lists := by
  unfold exposureDict at h
  simp only [refuse_bind_ok] at h
  obtain ⟨_, _, h⟩ := h
  rw [exposureItems_ok hgiven.selected, ok_bind, exposureItems_ok hgiven.candidateItems,
    ok_bind] at h
  obtain ⟨scopes, hscopes, h⟩ := Except.bind_eq_ok.1 h
  have hnamed := named_of_exposureScopes e.distinct hgiven.scopes hscopes
  rw [exposureIds_texts hnamed] at h hscopes
  rw [exposureIds_texts fun id hid => hnamed id (e.chosen.2 id hid),
    exposureScopes_kept hgiven.scopes e.length_candidateIds hscopes] at h
  obtain ⟨own, hown, h⟩ := Except.bind_eq_ok.1 h
  simp only [refuse_bind_ok] at h
  obtain ⟨_, h⟩ := h
  obtain ⟨injected, _, h⟩ := Except.bind_eq_ok.1 h
  obtain ⟨latency, _, h⟩ := Except.bind_eq_ok.1 h
  obtain ⟨recorded, _, h⟩ := Except.bind_eq_ok.1 h
  cases h
  rw [hgiven.selectedScopes hown]
  exact ⟨rfl, rfl, rfl, rfl⟩

end ScopedExposure

/-- The lists of a record. -/
def ExposureRecord.lists (r : ExposureRecord) : ScopeLists where
  candidateIds := r.candidateIds
  candidateScopes := r.candidateScopes
  selectedIds := r.selectedIds
  selectedScopes := r.selectedScopes

theorem ExposureRecord.hasLists_toDict (r : ExposureRecord) : HasLists r.toDict r.lists :=
  ⟨rfl, rfl, rfl, rfl⟩

theorem ExposureRecord.lists_of_create
    (h : ExposureRecord.create M now a = .ok record) :
    ∃ normal, ExposureRecord.normalise M now a = .ok normal ∧ record.lists = normal.lists := by
  unfold ExposureRecord.create at h
  obtain ⟨normal, hnormal, h⟩ := Except.bind_eq_ok.1 h
  unfold ExposureRecord.identified at h
  refine ⟨normal, hnormal, ?_⟩
  split at h
  · cases h
    rfl
  · split at h
    · cases h
    · cases h
      rfl

namespace ScopedExposure

variable {e : ScopedExposure} {M : MeasurementPlatform}

theorem valueOr_items? {value : Value} (h : value.items? = some items) :
    (valueOr value (.tuple [])).items? = some items := by
  unfold valueOr
  rw [truthy_of_items? h]
  cases items with
  | nil => rfl
  | cons item items => exact h

/-- Scopes that a record is given for its selected ids are kept, and others are looked up. -/
theorem Given.settledScopes {P : Platform} {ids selected scopes own : Value}
    {looked : List String} (h : e.Given ids selected scopes own)
    (hlooked : looked.length = e.selected.length)
    (hown : safeScopeList P own count field = .ok kept) :
    (if kept.isEmpty then looked else kept) = e.selectedScopes.getD looked := by
  cases hsupplied : e.selectedScopes with
  | none =>
    rw [safeScopeList_unset (h.unset hsupplied) hown]
    rfl
  | some texts =>
    rw [safeScopeList_kept (h.supplied texts hsupplied) hown]
    apply ExposureRecord.isEmpty_scopes
    rw [hlooked, e.parallel texts hsupplied]

theorem lists_normalise {normal : ExposureRecord}
    (hgiven : e.Given a.candidateIds a.selectedIds a.candidateScopes a.selectedScopes)
    (hcandidate : a.candidateKnowledgeIds = .tuple [])
    (hselected : a.selectedKnowledgeIds = .tuple [])
    (h : ExposureRecord.normalise M now a = .ok normal) : normal.lists = e.lists := by
  unfold ExposureRecord.normalise at h
  simp only [refuse_bind_ok] at h
  obtain ⟨_, _, h⟩ := h
  obtain ⟨session, _, h⟩ := Except.bind_eq_ok.1 h
  obtain ⟨task, _, h⟩ := Except.bind_eq_ok.1 h
  obtain ⟨query, _, h⟩ := Except.bind_eq_ok.1 h
  obtain ⟨candidates, hcandidates, h⟩ := Except.bind_eq_ok.1 h
  obtain ⟨selected, hchosen, h⟩ := Except.bind_eq_ok.1 h
  obtain ⟨givenScopes, hgivenScopes, h⟩ := Except.bind_eq_ok.1 h
  obtain ⟨givenSelected, hgivenSelected, h⟩ := Except.bind_eq_ok.1 h
  rw [hcandidate] at hcandidates
  rw [hselected] at hchosen
  rw [safeIdList_kept (valueOr_items? hgiven.ids) hcandidates,
    safeIdList_kept (valueOr_items? hgiven.selected) hchosen,
    safeScopeList_kept hgiven.scopes hgivenScopes,
    ExposureRecord.isEmpty_scopes (by
      rw [List.length_replicate]
      exact e.length_candidateIds),
    hgiven.settledScopes (by
      rw [List.length_map]
      exact length_sortedSet e.chosen.1) hgivenSelected] at h
  simp only [refuse_bind_ok] at h
  obtain ⟨_, _, h⟩ := h
  obtain ⟨injected, _, h⟩ := Except.bind_eq_ok.1 h
  obtain ⟨latency, _, h⟩ := Except.bind_eq_ok.1 h
  obtain ⟨observed, _, h⟩ := Except.bind_eq_ok.1 h
  obtain ⟨hostInstance, _, h⟩ := Except.bind_eq_ok.1 h
  obtain ⟨protocol, _, h⟩ := Except.bind_eq_ok.1 h
  obtain ⟨origin, _, h⟩ := Except.bind_eq_ok.1 h
  obtain ⟨host, _, h⟩ := Except.bind_eq_ok.1 h
  obtain ⟨model, _, h⟩ := Except.bind_eq_ok.1 h
  obtain ⟨domain, _, h⟩ := Except.bind_eq_ok.1 h
  cases h
  rfl

theorem hasLists_create
    (hgiven : e.Given a.candidateIds a.selectedIds a.candidateScopes a.selectedScopes)
    (hcandidate : a.candidateKnowledgeIds = .tuple [])
    (hselected : a.selectedKnowledgeIds = .tuple [])
    (h : ExposureRecord.create M now a = .ok record) : HasLists record.toDict e.lists := by
  obtain ⟨normal, hnormal, hlists⟩ := ExposureRecord.lists_of_create h
  rw [← lists_normalise hgiven hcandidate hselected hnormal, ← hlists]
  exact record.hasLists_toDict

theorem listed_ids (e : ScopedExposure) :
    (e.lists.candidateIds.zip e.lists.candidateScopes).map Prod.fst =
      sortedSet (e.candidates.map Prod.fst) :=
  List.map_fst_zip (le_of_eq e.length_candidateIds)

theorem length_selectedScopes (e : ScopedExposure) :
    e.lists.selectedScopes.length = (sortedSet e.selected).length := by
  show (e.selectedScopes.getD _).length = _
  cases hown : e.selectedScopes with
  | none => exact List.length_map _
  | some own =>
    rw [length_sortedSet e.chosen.1]
    exact e.parallel own hown

/-- The exposure whose ids are in order already. -/
def sorted (e : ScopedExposure) : ScopedExposure where
  candidates := e.lists.candidateIds.zip e.lists.candidateScopes
  selected := sortedSet e.selected
  selectedScopes := some e.lists.selectedScopes
  distinct := by
    rw [listed_ids]
    exact (sortedSet_pairwise _).imp fun hlt => ne_of_lt hlt
  chosen := by
    rw [listed_ids]
    constructor
    · exact (sortedSet_pairwise _).imp fun hlt => ne_of_lt hlt
    · intro id hid
      exact mem_sortedSet.2 (e.chosen.2 id (mem_sortedSet.1 hid))
  parallel := by
    intro scopes hscopes
    cases hscopes
    exact e.length_selectedScopes

theorem lists_sorted (e : ScopedExposure) : e.sorted.lists = e.lists := by
  have hscopes : e.sorted.candidates.map Prod.snd = e.lists.candidateScopes :=
    List.map_snd_zip (le_of_eq e.length_candidateIds.symm)
  have hcandidates : sortedSet (sortedSet (e.candidates.map Prod.fst)) = e.lists.candidateIds :=
    sortedSet_sortedSet _
  have hselected : sortedSet (sortedSet e.selected) = e.lists.selectedIds := sortedSet_sortedSet _
  show ScopeLists.mk (sortedSet (e.sorted.candidates.map Prod.fst))
    (e.sorted.candidates.map Prod.snd) (sortedSet (sortedSet e.selected))
    e.lists.selectedScopes = e.lists
  rw [show e.sorted.candidates.map Prod.fst = _ from e.listed_ids, hscopes, hcandidates, hselected]

end ScopedExposure

namespace ScopedExposure

variable {e : ScopedExposure}

theorem items?_ofStrings (texts : List String) :
    (Value.ofStrings texts).items? = some (texts.map .str) :=
  rfl

/-- A row of an exposure gives its lists again. -/
theorem given_sorted (h : HasLists row e.lists) :
    e.sorted.Given (getOr row "candidate_ids" b) (getOr row "selected_ids" c)
      (getOr row "candidate_scopes" d) (getOr row "selected_scopes" d') := by
  have hids := e.listed_ids
  have hscopes : e.sorted.candidates.map Prod.snd = e.lists.candidateScopes :=
    List.map_snd_zip (le_of_eq e.length_candidateIds.symm)
  unfold getOr
  rw [h.candidateIds, h.candidateScopes, h.selectedIds, h.selectedScopes]
  constructor
  case ids => exact hids ▸ items?_ofStrings _
  case selected => exact items?_ofStrings _
  case scopes => exact hscopes ▸ items?_ofStrings _
  case supplied =>
    intro own hown
    cases hown
    exact items?_ofStrings _
  case unset =>
    intro hnone
    cases hnone

theorem hasLists_fromMapping (hrow : HasLists row e.lists)
    (h : ExposureRecord.fromMapping M now row = .ok record) : HasLists record.toDict e.lists := by
  unfold ExposureRecord.fromMapping at h
  obtain ⟨_, _, hcreate⟩ := Except.bind_eq_ok.1 h
  rw [← lists_sorted]
  exact hasLists_create (given_sorted hrow) rfl rfl hcreate

/-- A row keeps the scopes of an exposure. -/
def KeepsScopes (e : ScopedExposure) (row : Fields) : Prop :=
  e.Keeps (rowLists row)

theorem keepsScopes_iff (h : HasLists row e.lists) : e.KeepsScopes row ↔ e.InStep := by
  unfold KeepsScopes
  rw [h.rowLists]
  exact keeps_lists_iff e

end ScopedExposure

/-- Rows and records of an exposure keep every id with its scope just when the scopes are given in
the order of the ids. -/
theorem exposure_keeps_scopes_iff {M : MeasurementPlatform} {e : ScopedExposure} :
    (∀ now source row, e.Given (getOr source "candidate_ids" .none)
        (getOr source "selected_ids" (getOr source "selected_pattern_ids" (.tuple [])))
        (getOr source "candidate_scopes" .none) (getOr source "selected_scopes" .none) →
      exposureDict M.toPlatform now source = .ok row →
      (e.KeepsScopes row ↔ e.InStep) ∧
        ∀ later record, ExposureRecord.fromMapping M later row = .ok record →
          (e.KeepsScopes record.toDict ↔ e.InStep)) ∧
    ∀ now a record, e.Given a.candidateIds a.selectedIds a.candidateScopes a.selectedScopes →
      a.candidateKnowledgeIds = .tuple [] → a.selectedKnowledgeIds = .tuple [] →
      ExposureRecord.create M now a = .ok record →
      (e.KeepsScopes record.toDict ↔ e.InStep) := by
  constructor
  · intro now source row hgiven hrow
    have hlisted := ScopedExposure.hasLists_exposureDict hgiven hrow
    constructor
    · exact ScopedExposure.keepsScopes_iff hlisted
    · intro later record hrecord
      exact ScopedExposure.keepsScopes_iff (ScopedExposure.hasLists_fromMapping hlisted hrecord)
  · intro now a record hgiven hcandidate hselected hrecord
    exact ScopedExposure.keepsScopes_iff
      (ScopedExposure.hasLists_create hgiven hcandidate hselected hrecord)

def orderedExposure : ScopedExposure where
  candidates := [("k1", "personal"), ("k2", "team")]
  selected := ["k2"]
  selectedScopes := none
  distinct := by decide
  chosen := by decide
  parallel := by simp

/-- The same exposure with its candidates in the order that they are found in. -/
def foundExposure : ScopedExposure where
  candidates := [("k2", "team"), ("k1", "personal")]
  selected := ["k2"]
  selectedScopes := none
  distinct := by decide
  chosen := by decide
  parallel := by simp

/-- The mapping that the lists of an exposure are given in. -/
def exposureSource (e : ScopedExposure) : Fields :=
  [("exposure_id", .str "exp_1"), ("experiment_id", .str "trial"), ("arm", .str "treatment"),
    ("session_id_hash", .str "session"), ("query_fingerprint", .str "query"),
    ("recorded_at", .str "2026-01-01T00:00:00Z"), ("candidate_ids", .ofStrings (e.candidates.map Prod.fst)),
    ("selected_ids", .ofStrings e.selected),
    ("candidate_scopes", .ofStrings (e.candidates.map Prod.snd))]

def exposureArguments (e : ScopedExposure) : ExposureArguments :=
  { experimentId := "trial"
    sessionIdHash := "session"
    candidateIds := .ofStrings (e.candidates.map Prod.fst)
    selectedIds := .ofStrings e.selected
    candidateScopes := .ofStrings (e.candidates.map Prod.snd) }

theorem given_exposureSource {e : ScopedExposure} (h : e.selectedScopes = none)
    (hown : isUnset own = true) :
    e.Given (.ofStrings (e.candidates.map Prod.fst)) (.ofStrings e.selected)
      (.ofStrings (e.candidates.map Prod.snd)) own := by
  constructor
  case ids => rfl
  case selected => rfl
  case scopes => rfl
  case supplied =>
    intro scopes hscopes
    rw [h] at hscopes
    cases hscopes
  case unset => exact fun _ => hown

theorem exposure_keeps_scopes_ordered : ∃ row record made,
    exposureDict sampleMeasurements.toPlatform 0 (exposureSource orderedExposure) = .ok row ∧
    ExposureRecord.fromMapping sampleMeasurements 0 row = .ok record ∧
    ExposureRecord.create sampleMeasurements 0 (exposureArguments orderedExposure) = .ok made ∧
    orderedExposure.KeepsScopes row ∧ orderedExposure.KeepsScopes record.toDict ∧
    orderedExposure.KeepsScopes made.toDict := by
  have hstep : orderedExposure.InStep :=
    ⟨by decide, fun scopes hscopes => by cases hscopes⟩
  obtain ⟨record, hchained⟩ : ∃ record, (exposureDict sampleMeasurements.toPlatform 0
      (exposureSource orderedExposure)).bind (ExposureRecord.fromMapping sampleMeasurements 0) =
        .ok record :=
    Except.exists_ok_of_isOk (by decide)
  obtain ⟨row, hrow, hrecord⟩ := Except.bind_eq_ok.1 hchained
  obtain ⟨made, hmade⟩ : ∃ made, ExposureRecord.create sampleMeasurements 0
      (exposureArguments orderedExposure) = .ok made :=
    Except.exists_ok_of_isOk (by decide)
  have hkeeps := exposure_keeps_scopes_iff (M := sampleMeasurements) (e := orderedExposure)
  have hkept := hkeeps.1 0 _ row (given_exposureSource rfl rfl) hrow
  exact ⟨row, record, made, hrow, hrecord, hmade, hkept.1.2 hstep,
    (hkept.2 0 record hrecord).2 hstep,
    (hkeeps.2 0 _ made (given_exposureSource rfl rfl) rfl rfl hmade).2 hstep⟩

/-- Candidates that are not given in the order of their ids swap their scopes. -/
theorem exposure_swaps_scopes : ∃ row record made,
    exposureDict sampleMeasurements.toPlatform 0 (exposureSource foundExposure) = .ok row ∧
    ExposureRecord.fromMapping sampleMeasurements 0 row = .ok record ∧
    ExposureRecord.create sampleMeasurements 0 (exposureArguments foundExposure) = .ok made ∧
    rowLists row = ⟨["k1", "k2"], ["team", "personal"], ["k2"], ["personal"]⟩ ∧
    ¬ foundExposure.KeepsScopes row ∧ ¬ foundExposure.KeepsScopes record.toDict ∧
    ¬ foundExposure.KeepsScopes made.toDict := by
  have hstep : ¬ foundExposure.InStep := by
    intro hstep
    exact absurd hstep.1 (by decide)
  obtain ⟨record, hchained⟩ : ∃ record, (exposureDict sampleMeasurements.toPlatform 0
      (exposureSource foundExposure)).bind (ExposureRecord.fromMapping sampleMeasurements 0) =
        .ok record :=
    Except.exists_ok_of_isOk (by decide)
  obtain ⟨row, hrow, hrecord⟩ := Except.bind_eq_ok.1 hchained
  obtain ⟨made, hmade⟩ : ∃ made, ExposureRecord.create sampleMeasurements 0
      (exposureArguments foundExposure) = .ok made :=
    Except.exists_ok_of_isOk (by decide)
  have hlisted := ScopedExposure.hasLists_exposureDict (given_exposureSource rfl rfl) hrow
  have hlists : foundExposure.lists =
      ⟨["k1", "k2"], ["team", "personal"], ["k2"], ["personal"]⟩ := by
    decide
  have hmadeListed := ScopedExposure.hasLists_create
    (given_exposureSource (e := foundExposure) rfl rfl) rfl rfl hmade
  refine ⟨row, record, made, hrow, hrecord, hmade, hlisted.rowLists.trans hlists, ?_, ?_, ?_⟩
  · rw [ScopedExposure.keepsScopes_iff hlisted]
    exact hstep
  · rw [ScopedExposure.keepsScopes_iff (ScopedExposure.hasLists_fromMapping hlisted hrecord)]
    exact hstep
  · rw [ScopedExposure.keepsScopes_iff hmadeListed]
    exact hstep

end ExternalIntelligence
