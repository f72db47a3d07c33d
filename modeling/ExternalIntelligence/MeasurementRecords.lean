import ExternalIntelligence.Measurement
import ExternalIntelligence.PlainTexts

namespace ExternalIntelligence
set_option autoImplicit true

/-- What is relied on of the runtime: digests are hexadecimal, ASCII names fold to themselves, a
timestamp that was written is read as the instant it was written for, the int of a float and a
float's own text are read as the float. -/
structure MeasurementPlatform.Lawful (M : MeasurementPlatform) : Prop where
  hexDigests : M.HexDigests
  plainTexts : M.PlainTexts
  stamps : ∀ text moment, M.fromisoformat text = some moment → moment.aware = true →
    zulu M.toPlatform moment.instant ≠ "" ∧
      ∃ again, M.fromisoformat (zulu M.toPlatform moment.instant) = some again ∧
        again.aware = true ∧ again.instant = moment.instant
  floats : ∀ value number, M.float value = .ok number → M.float (.float number) = .ok number
  wholes : ∀ value number, M.float value = .ok number → isFinite number = true →
    M.isNegative number = false → ∃ again, M.float (.int (M.trunc number)) = .ok again ∧
      isFinite again = true ∧ M.isNegative again = false ∧ M.isInteger again = true ∧
      M.trunc again = M.trunc number
  texts : ∀ value number, M.float value = .ok number → isFinite number = true →
    M.isNegative number = false → Json.RealText number ∧ M.real number = number

/-- The time that a call takes from its clock is read as that time. -/
def MeasurementPlatform.ReadsClock (M : MeasurementPlatform) (now : Int) : Prop :=
  zulu M.toPlatform now ≠ "" ∧ ∃ moment, M.fromisoformat (zulu M.toPlatform now) = some moment ∧
    moment.aware = true ∧ moment.instant = now

theorem isMeasurementHash_of_isHash (h : isHash text = true) : isMeasurementHash text = true := by
  unfold isHash at h
  unfold isMeasurementHash
  simp only [Bool.and_eq_true, beq_iff_eq, decide_eq_true_eq] at h ⊢
  obtain ⟨⟨hstart, hlength⟩, hdigits⟩ := h
  exact ⟨⟨⟨hstart, by omega⟩, by omega⟩, hdigits⟩

theorem isLowerHex_label {c : Char} (h : isLowerHex c = true) :
    (isAsciiLetter c || Text.isDigit c || (Text.chars "_.:-").contains c) = true := by
  rw [isLowerHex, Bool.or_eq_true, Bool.and_eq_true, decide_eq_true_eq, decide_eq_true_eq] at h
  cases h with
  | inl hdigit =>
    rw [hdigit, Bool.or_true, Bool.true_or]
  | inr hletter =>
    have hmost : c ≤ 'z' := le_trans hletter.2 (by decide)
    rw [isAsciiLetter, Text.isLower, decide_eq_true hletter.1, decide_eq_true hmost, Bool.and_self,
      Bool.or_true, Bool.true_or, Bool.true_or]

/-- An identifier made of three letters, an underscore and the start of a digest. -/
theorem isMeasurementId_digest (start : String) (h : isDigest digest = true)
    (hstart : (Text.chars start).length = 4 ∧ (Text.chars start).all (fun c =>
      isAsciiLetter c || Text.isDigit c || (Text.chars "_.:-").contains c) = true) :
    isMeasurementId (start ++ takeText 24 digest) = true ∧ start ++ takeText 24 digest ≠ "" := by
  rw [isDigest, Bool.and_eq_true, beq_iff_eq] at h
  have hchars : Text.chars (start ++ takeText 24 digest) =
      Text.chars start ++ (Text.chars digest).take 24 := by
    rw [Text.chars_eq_toList, String.toList_append, takeText, String.toList_ofList,
      Text.chars_eq_toList start]
  have hlength : (Text.chars start ++ (Text.chars digest).take 24).length = 28 := by
    rw [List.length_append, List.length_take, h.1, hstart.1]
    rfl
  constructor
  · unfold isMeasurementId
    dsimp only
    rw [hchars, hlength, List.all_append, hstart.2]
    have hdigits : ((Text.chars digest).take 24).all (fun c =>
        isAsciiLetter c || Text.isDigit c || (Text.chars "_.:-").contains c) = true := by
      rw [List.all_eq_true]
      intro c hc
      exact isLowerHex_label (List.all_eq_true.1 h.2 c (List.mem_of_mem_take hc))
    rw [hdigits]
    have hne : (Text.chars start ++ (Text.chars digest).take 24).isEmpty = false := by
      rw [List.isEmpty_eq_false_iff]
      intro he
      rw [he] at hlength
      cases hlength
    rw [hne]
    rfl
  · intro he
    rw [he] at hchars
    rw [← hchars] at hlength
    cases hlength

section Parts

variable {P : Platform}

theorem hashIdentifier_again (hP : P.HexDigests)
    (h : hashIdentifier P value field allowEmpty = .ok found) :
    hashIdentifier P found field allowEmpty = .ok found := by
  unfold hashIdentifier at h
  split at h
  · split at h
    · rename_i hallowed
      cases h
      unfold hashIdentifier
      rw [if_pos rfl, if_pos hallowed]
    · cases h
  · rename_i hne
    split at h
    · rename_i hkept
      cases h
      unfold hashIdentifier
      rw [if_neg hne, if_pos hkept]
    · cases h
      have hhash : isMeasurementHash (fingerprint P (.str value)) = true :=
        isMeasurementHash_of_isHash (isHash_of_isDigest (hP _))
      have hnonempty : fingerprint P (.str value) ≠ "" := by
        intro he
        rw [he] at hhash
        exact absurd hhash (by decide)
      unfold hashIdentifier
      rw [if_neg hnonempty, hhash, Bool.true_or, if_pos rfl]

theorem hashItem_ok (h : hashItem P item field = .ok found) :
    hashIdentifier P (pyStr P item) field false = .ok found := by
  rw [hashItem] at h
  split at h
  · cases h
  · exact h

theorem hashIdentifier_nonempty (h : hashIdentifier P value field false = .ok found)
    (hP : P.HexDigests) : found ≠ "" := by
  intro he
  have hagain := hashIdentifier_again hP h
  rw [he, hashIdentifier, if_pos rfl, if_neg Bool.false_ne_true] at hagain
  cases hagain

/-- A task of a record names one from then on. -/
theorem taskIdentifier_again (hP : P.HexDigests)
    (h : taskIdentifier P task experiment session observed = .ok found) (other : String) :
    taskIdentifier P found experiment session other = .ok found := by
  have hkept : ∀ {allowEmpty : Bool},
      hashIdentifier P found "task_id_hash" allowEmpty = .ok found → found ≠ "" →
      taskIdentifier P found experiment session other = .ok found := by
    intro allowEmpty hfound hne
    have hempty : hashIdentifier P found "task_id_hash" true = .ok found := by
      unfold hashIdentifier at hfound ⊢
      rw [if_neg hne] at hfound ⊢
      exact hfound
    unfold taskIdentifier
    rw [hempty]
    exact if_neg hne
  unfold taskIdentifier at h
  obtain ⟨first, hfirst, h⟩ := Except.bind_eq_ok.1 h
  split at h
  · exact hkept (hashIdentifier_again hP h) (hashIdentifier_nonempty h hP)
  · rename_i hne
    cases h
    exact hkept (hashIdentifier_again hP hfirst) hne

theorem safeLabel_again (h : safeLabel P value field fallback = .ok label) :
    safeLabel P (.str label) field fallback = .ok label := by
  unfold safeLabel at h
  generalize htext : (if value = .none ∨ pyStr P value = "" then fallback else pyStr P value) = text
    at h
  dsimp only at h
  split at h
  · cases h
  · rename_i hsafe
    cases h
    have hsame : (if Value.str label = .none ∨ pyStr P (.str label) = "" then fallback
        else pyStr P (.str label)) = label := by
      show (if Value.str label = .none ∨ label = "" then fallback else label) = label
      split
      · rename_i hempty
        have he : label = "" := hempty.resolve_left Value.noConfusion
        split at htext
        · exact htext
        · rename_i hne
          exact absurd (htext.trans he) fun hv => hne (.inr hv)
      · rfl
    unfold safeLabel
    rw [hsame]
    exact if_neg hsafe

theorem map_pyStr_strs (P : Platform) (texts : List String) :
    (texts.map Value.str).map (pyStr P) = texts := by
  rw [List.map_map]
  exact List.map_id texts

theorem sortedSet_sortedSet (values : List String) :
    sortedSet (sortedSet values) = sortedSet values := by
  apply eq_of_same_members (sortedSet_pairwise _) (sortedSet_pairwise _)
  intro v
  exact mem_sortedSet

theorem safeIdList_again (h : safeIdList P value = .ok ids) :
    safeIdList P (.ofStrings ids) = .ok ids := by
  have hlist : ∀ items : List Value, (items.map (pyStr P)).all isMeasurementId = true →
      safeIdList P (.ofStrings (sortedSet (items.map (pyStr P)))) =
        .ok (sortedSet (items.map (pyStr P))) := by
    intro items hids
    unfold safeIdList Value.ofStrings
    dsimp only
    rw [map_pyStr_strs, if_pos, sortedSet_sortedSet]
    rw [List.all_eq_true] at hids ⊢
    intro id hid
    exact hids id (mem_sortedSet.1 hid)
  unfold safeIdList at h
  split at h
  · cases h
    rfl
  · split at h
    · rename_i hids
      cases h
      exact hlist _ hids
    · cases h
  · split at h
    · rename_i hids
      cases h
      exact hlist _ hids
    · cases h
  · cases h

theorem safeIdList_valueOr (h : safeIdList P (.ofStrings ids) = .ok ids) :
    safeIdList P (valueOr (.ofStrings ids) (.tuple [])) = .ok ids := by
  cases ids with
  | nil => rfl
  | cons id ids => exact h

theorem safeScopeList_scopes {scopes : List String} (hcount : scopes.length = count)
    (hscopes : scopes.all knowledgeScopes.contains = true) :
    safeScopeList P (.ofStrings scopes) count field = .ok scopes := by
  cases scopes with
  | nil => rfl
  | cons scope scopes =>
    show (if (((scope :: scopes).map Value.str).map (pyStr P)).length ≠ count ∨
        !(((scope :: scopes).map Value.str).map (pyStr P)).all knowledgeScopes.contains then
      Except.error (measurementError field "INVALID")
      else .ok (((scope :: scopes).map Value.str).map (pyStr P))) = _
    rw [map_pyStr_strs, if_neg]
    rw [hscopes, not_or]
    exact ⟨fun hne => hne hcount, fun hno => absurd hno Bool.noConfusion⟩

theorem safeScopeList_ok (h : safeScopeList P value count field = .ok scopes) :
    scopes.isEmpty = true ∨ scopes.length = count ∧
      scopes.all knowledgeScopes.contains = true := by
  have hlist : ∀ items : List Value,
      (if (items.map (pyStr P)).length ≠ count ∨
          !(items.map (pyStr P)).all knowledgeScopes.contains then
        Except.error (measurementError field "INVALID") else .ok (items.map (pyStr P))) =
        .ok scopes → scopes.length = count ∧ scopes.all knowledgeScopes.contains = true := by
    intro items hitems
    split at hitems
    · cases hitems
    · rename_i hgood
      cases hitems
      rw [not_or, not_not, Bool.not_eq_true, Bool.not_eq_false'] at hgood
      exact hgood
  unfold safeScopeList at h
  split at h
  · cases h
    exact .inl rfl
  · cases h
    exact .inl rfl
  · cases h
    exact .inl rfl
  · cases h
    exact .inl rfl
  · exact .inr (hlist _ h)
  · exact .inr (hlist _ h)
  · cases h

end Parts


section Numbers

variable {M : MeasurementPlatform} (hM : M.Lawful)
include hM

theorem measurementTimestamp_again (hclock : M.ReadsClock now)
    (h : measurementTimestamp M.toPlatform now value = .ok stamp) (later : Int) :
    stamp ≠ "" ∧ measurementTimestamp M.toPlatform later stamp = .ok stamp := by
  have hread : ∀ moment : Moment, M.fromisoformat stamp = some moment → moment.aware = true →
      zulu M.toPlatform moment.instant = stamp → stamp ≠ "" →
      measurementTimestamp M.toPlatform later stamp = .ok stamp := by
    intro moment hmoment haware hinstant hne
    unfold measurementTimestamp
    rw [if_neg hne, hmoment]
    dsimp only
    rw [if_pos haware, hinstant]
  unfold measurementTimestamp at h
  split at h
  · cases h
    obtain ⟨hne, moment, hmoment, haware, hinstant⟩ := hclock
    exact ⟨hne, hread moment hmoment haware (by rw [hinstant]) hne⟩
  · split at h
    · cases h
    · rename_i moment hmoment
      split at h
      · rename_i haware
        cases h
        obtain ⟨hne, again, hagain, hawareAgain, hinstant⟩ := hM.stamps _ moment hmoment haware
        exact ⟨hne, hread again hagain hawareAgain (by rw [hinstant]) hne⟩
      · cases h

/-- A number that was taken over is taken over again. -/
theorem measurementNumber_again (h : measurementNumber M value field allowNone = .ok number) :
    number = .none ∧ (value = .none ∨ value = .str "") ∨
      (∀ other allow, measurementNumber M number other allow = .ok number) ∧
      ∀ other allow, measurementNumber M (.int (wholeOf M number)) other allow =
        .ok (.int (wholeOf M number)) := by
  have hread : ∀ given text : Value, ∀ float, M.float given = .ok float → isFinite float = true →
      M.isNegative float = false → given ≠ .none → given ≠ .str "" →
      text = (if M.isInteger float then .int (M.trunc float) else .float float) →
      ∀ other allow, measurementNumber M given other allow = .ok text := by
    intro given text float hfloat hfinite hpositive hnone hempty htext other allow
    unfold measurementNumber
    rw [if_neg (not_or.2 ⟨hnone, hempty⟩), hfloat]
    dsimp only
    rw [hfinite, hpositive, if_neg (by decide), htext]
  unfold measurementNumber at h
  split at h
  · rename_i hmissing
    split at h
    · cases h
      exact .inl ⟨rfl, hmissing⟩
    · cases h
  · split at h
    · split at h
      · cases h
      · cases h
    · rename_i float hfloat
      split at h
      · cases h
      · rename_i hgood
        cases h
        rw [Bool.or_eq_true, Bool.not_eq_true', not_or, Bool.not_eq_false,
          Bool.not_eq_true] at hgood
        obtain ⟨hfinite, hpositive⟩ := hgood
        obtain ⟨again, hagain, hfiniteAgain, hpositiveAgain, hinteger, htrunc⟩ :=
          hM.wholes value float hfloat hfinite hpositive
        have hwhole : ∀ other allow, measurementNumber M (.int (M.trunc float)) other allow =
            .ok (.int (M.trunc float)) := by
          apply hread _ _ again hagain hfiniteAgain hpositiveAgain Value.noConfusion
            Value.noConfusion
          rw [if_pos hinteger, htrunc]
        right
        split
        · exact ⟨hwhole, hwhole⟩
        · rename_i hfraction
          refine ⟨?_, hwhole⟩
          apply hread _ _ float (hM.floats value float hfloat) hfinite hpositive Value.noConfusion
            Value.noConfusion
          rw [if_neg hfraction]

theorem measurementNumber_required (h : measurementNumber M value field false = .ok number)
    (other : String) : measurementNumber M (.int (wholeOf M number)) other false =
      .ok (.int (wholeOf M number)) := by
  cases measurementNumber_again hM h with
  | inl hnone =>
    unfold measurementNumber at h
    rw [if_pos hnone.2, if_neg Bool.false_ne_true] at h
    cases h
  | inr hnumber => exact hnumber.2 other false

/-- A number is kept in the log as a text that JSON has for numbers. -/
theorem measurementNumber_readable (h : measurementNumber M value field allowNone = .ok number) :
    Json.Readable M.real number ∧ number.canonical = number := by
  unfold measurementNumber at h
  split at h
  · split at h
    · cases h
      exact ⟨trivial, rfl⟩
    · cases h
  · split at h
    · split at h
      · cases h
      · cases h
    · rename_i float hfloat
      split at h
      · cases h
      · rename_i hgood
        cases h
        rw [Bool.or_eq_true, Bool.not_eq_true', not_or, Bool.not_eq_false,
          Bool.not_eq_true] at hgood
        split
        · exact ⟨trivial, rfl⟩
        · exact ⟨hM.texts value float hfloat hgood.1 hgood.2, rfl⟩

/-- What the metrics of a record have. -/
structure Metric (M : MeasurementPlatform) (metric : String × Value) : Prop where
  again : ∀ given : Fields, getOr given metric.1 .none = metric.2 →
    OutcomeRecord.normalMetric M given metric.1 = .ok metric
  readable : Json.Readable M.real metric.2
  canonical : metric.2.canonical = metric.2

omit hM in
theorem normalMetric_name (h : OutcomeRecord.normalMetric M given name = .ok metric) :
    metric.1 = name := by
  unfold OutcomeRecord.normalMetric at h
  obtain ⟨number, _, he⟩ := Except.map_eq_ok.1 h
  rw [← he]

theorem normalMetric_metric (h : OutcomeRecord.normalMetric M given name = .ok metric) :
    Metric M metric := by
  unfold OutcomeRecord.normalMetric at h
  dsimp only at h
  generalize hvalue : getOr given name .none = value at h
  obtain ⟨number, hnumber, he⟩ := Except.map_eq_ok.1 h
  have hreadable := measurementNumber_readable hM hnumber
  rw [← he]
  cases measurementNumber_again hM hnumber with
  | inl hnone =>
    obtain ⟨hnone, hmissing⟩ := hnone
    rw [hnone] at hnumber
    rw [if_pos hnone]
    constructor
    · intro again hagain
      unfold OutcomeRecord.normalMetric
      dsimp only at hagain ⊢
      rw [hagain, hnumber]
      rfl
    · cases hmissing with
      | inl hm =>
        rw [hm]
        trivial
      | inr hm =>
        rw [hm]
        trivial
    · cases hmissing with
      | inl hm =>
        rw [hm]
        rfl
      | inr hm =>
        rw [hm]
        rfl
  | inr hagain =>
    have hnone : number ≠ .none := by
      intro hn
      have hrefused := hagain.1 name false
      rw [hn] at hrefused
      cases hrefused
    rw [if_neg hnone]
    constructor
    · intro other hother
      unfold OutcomeRecord.normalMetric
      dsimp only at hother ⊢
      rw [hother, hagain.1 name true]
      show Except.ok (name, if number = .none then number else number) = _
      rw [if_neg hnone]
    · exact hreadable.1
    · exact hreadable.2

end Numbers


section Rows

/-- What the mapping of a record has, so that its line is read as the mapping. -/
structure LogRow (M : MeasurementPlatform) (row : Fields) : Prop where
  nodup : (Dict.keys row).Nodup
  readable : ∀ field ∈ row, Json.Readable M.real field.2 ∧ field.2.canonical = field.2
  plain : ∀ key ∈ Dict.keys row,
    ((Text.chars key).all fun c => isPrintable c && Text.asciiLower c == c) = true
  accepted : ∀ key ∈ Dict.keys row,
    (texts rawMeasurementFields).contains (Text.chars key) = false

theorem readableFields_of_forall {fields : Fields}
    (h : ∀ field ∈ fields, Json.Readable real field.2) : Json.ReadableFields real fields := by
  induction fields with
  | nil => trivial
  | cons field fields ih =>
    rw [List.forall_mem_cons] at h
    exact ⟨h.1, ih h.2⟩

theorem readable_ofStrings (real : String → String) (items : List String) :
    Json.Readable real (.ofStrings items) ∧ (Value.ofStrings items).canonical =
      .ofStrings items := by
  constructor
  · unfold Value.ofStrings
    rw [Json.Readable]
    induction items with
    | nil => trivial
    | cons item items ih => exact ⟨trivial, ih⟩
  · rw [Value.ofStrings, Value.canonical_list, List.map_map]
    rfl

variable {M : MeasurementPlatform} {row : Fields}

theorem LogRow.canonical_readable (h : LogRow M row) :
    Json.Readable M.real (.dict (Value.canonicalObject row)) := by
  constructor
  · exact (Value.keys_canonicalObject row).nodup_iff.2 h.nodup
  · apply readableFields_of_forall
    intro field hfield
    obtain ⟨given, hgiven, he⟩ := Value.mem_canonicalObject.1 hfield
    have hreadable := h.readable given hgiven
    rw [← he]
    dsimp only
    rw [hreadable.2]
    exact hreadable.1

theorem LogRow.loads (h : LogRow M row) : Json.loads M.real (canonicalJson (.dict row)) =
    some (.dict (Value.canonicalObject row)) := by
  rw [canonicalJson, Value.canonical_dict]
  exact Json.loads_dump h.canonical_readable

theorem LogRow.lookup (h : LogRow M row) (name : String) :
    (Value.canonicalObject row).lookup name = row.lookup name := by
  rw [Value.lookup_canonicalObject h.nodup]
  cases hfound : row.lookup name with
  | none => rfl
  | some value => exact congrArg some (h.readable _ (Dict.mem_of_lookup hfound)).2

theorem LogRow.rejectRawMapping (hM : M.Lawful) (h : LogRow M row) :
    rejectRawMapping M.toPlatform (Value.canonicalObject row) = .ok () := by
  apply refuse_ok.2
  rw [List.any_eq_false]
  intro key hkey
  have hrow : key ∈ Dict.keys row := (Value.keys_canonicalObject row).mem_iff.1 hkey
  rw [hM.plainTexts.casefold _ (h.plain key hrow), h.accepted key hrow]
  exact Bool.false_ne_true

end Rows


namespace ExposureRecord

/-- A record that its own fields are normalised to. -/
structure Normal (M : MeasurementPlatform) (r : ExposureRecord) : Prop where
  experiment : (r.experimentId == "" || 160 < (Text.chars r.experimentId).length) = false
  arm : ["control", "treatment"].contains r.arm = true
  session : hashIdentifier M.toPlatform r.sessionIdHash "session_id_hash" false =
    .ok r.sessionIdHash
  task : ∀ observed, taskIdentifier M.toPlatform r.taskIdHash r.experimentId r.sessionIdHash
    observed = .ok r.taskIdHash
  query : hashIdentifier M.toPlatform r.queryFingerprint "query_fingerprint" true =
    .ok r.queryFingerprint
  candidates : safeIdList M.toPlatform (.ofStrings r.candidateIds) = .ok r.candidateIds
  selected : safeIdList M.toPlatform (.ofStrings r.selectedIds) = .ok r.selectedIds
  candidateCount : r.candidateScopes.length = r.candidateIds.length
  candidateScopes : r.candidateScopes.all knowledgeScopes.contains = true
  selectedCount : r.selectedScopes.length = r.selectedIds.length
  selectedScopes : r.selectedScopes.all knowledgeScopes.contains = true
  scope : ["personal", "team", "mixed"].contains r.scope = true
  chosen : r.selectedIds.all r.candidateIds.contains = true
  injected : measurementNumber M (.int r.injectedChars) "injected_chars" false =
    .ok (.int r.injectedChars)
  latency : measurementNumber M (.int r.retrievalLatencyMs) "retrieval_latency_ms" false =
    .ok (.int r.retrievalLatencyMs)
  observed : ∀ later, measurementTimestamp M.toPlatform later r.observedAt = .ok r.observedAt
  hostInstance : hashIdentifier M.toPlatform r.hostInstanceHash "host_instance_hash" true =
    .ok r.hostInstanceHash
  protocol : safeLabel M.toPlatform (.str r.protocolHash) "protocol_hash" "" = .ok r.protocolHash
  source : safeLabel M.toPlatform (.str r.source) "source" "recall" = .ok r.source
  host : safeLabel M.toPlatform (.str r.hostId) "host_id" "unknown" = .ok r.hostId
  model : safeLabel M.toPlatform (.str r.modelFamily) "model_family" "unknown" =
    .ok r.modelFamily
  domain : safeLabel M.toPlatform (.str r.domain) "domain" "" = .ok r.domain
  contaminated : (r.arm == "control" && (!r.selectedIds.isEmpty || 0 < r.injectedChars ||
    r.contextInjected)) = true → r.contamination = true

theorem scopes_settled {given rest : List String} (hrest : rest.length = count)
    (hscopes : rest.all knowledgeScopes.contains = true)
    (h : safeScopeList P value count field = .ok given) :
    (if given.isEmpty then rest else given).length = count ∧
      (if given.isEmpty then rest else given).all knowledgeScopes.contains = true := by
  cases safeScopeList_ok h with
  | inl hempty =>
    rw [if_pos hempty]
    exact ⟨hrest, hscopes⟩
  | inr hgiven =>
    split
    · exact ⟨hrest, hscopes⟩
    · exact hgiven

theorem replicate_scopes (n : Nat) :
    (List.replicate n "personal").all knowledgeScopes.contains = true := by
  rw [List.all_eq_true]
  intro scope hscope
  rw [List.eq_of_mem_replicate hscope]
  decide

theorem looked_up_scopes (items candidates : List String) {scopes : List String}
    (h : scopes.all knowledgeScopes.contains = true) :
    (items.map fun item => ((candidates.zip scopes).lookup item).getD "personal").all
      knowledgeScopes.contains = true := by
  rw [List.all_eq_true] at h ⊢
  intro scope hscope
  obtain ⟨item, _, he⟩ := List.mem_map.1 hscope
  rw [← he]
  cases hfound : (candidates.zip scopes).lookup item with
  | none => decide
  | some found => exact h found (List.of_mem_zip (Dict.mem_of_lookup hfound)).2

theorem normalise_normal {M : MeasurementPlatform} {r : ExposureRecord} (hM : M.Lawful)
    (hclock : M.ReadsClock now) (h : normalise M now a = .ok r) : r.Normal M := by
  unfold normalise at h
  simp only [refuse_bind_ok] at h
  obtain ⟨hexperiment, harm, h⟩ := h
  obtain ⟨session, hsession, h⟩ := Except.bind_eq_ok.1 h
  obtain ⟨task, htask, h⟩ := Except.bind_eq_ok.1 h
  obtain ⟨query, hquery, h⟩ := Except.bind_eq_ok.1 h
  obtain ⟨candidates, hcandidates, h⟩ := Except.bind_eq_ok.1 h
  obtain ⟨selected, hselected, h⟩ := Except.bind_eq_ok.1 h
  obtain ⟨givenScopes, hgivenScopes, h⟩ := Except.bind_eq_ok.1 h
  obtain ⟨givenSelected, hgivenSelected, h⟩ := Except.bind_eq_ok.1 h
  have hcandidateScopes := scopes_settled List.length_replicate
    (replicate_scopes candidates.length) hgivenScopes
  have hselectedScopes := scopes_settled (List.length_map _)
    (looked_up_scopes selected candidates hcandidateScopes.2) hgivenSelected
  generalize (if givenScopes.isEmpty then List.replicate candidates.length "personal"
    else givenScopes) = candidateScopes at h hcandidateScopes hselectedScopes
  generalize (if givenSelected.isEmpty then selected.map fun item =>
    ((candidates.zip candidateScopes).lookup item).getD "personal"
    else givenSelected) = selectedScopes at h hselectedScopes
  simp only [refuse_bind_ok] at h
  obtain ⟨hscope, hchosen, h⟩ := h
  obtain ⟨injected, hinjected, h⟩ := Except.bind_eq_ok.1 h
  obtain ⟨latency, hlatency, h⟩ := Except.bind_eq_ok.1 h
  obtain ⟨observed, hobserved, h⟩ := Except.bind_eq_ok.1 h
  obtain ⟨hostInstance, hhostInstance, h⟩ := Except.bind_eq_ok.1 h
  obtain ⟨protocol, hprotocol, h⟩ := Except.bind_eq_ok.1 h
  obtain ⟨source, hsource, h⟩ := Except.bind_eq_ok.1 h
  obtain ⟨host, hhost, h⟩ := Except.bind_eq_ok.1 h
  obtain ⟨model, hmodel, h⟩ := Except.bind_eq_ok.1 h
  obtain ⟨domain, hdomain, h⟩ := Except.bind_eq_ok.1 h
  cases h
  rw [Bool.not_eq_false'] at harm hscope hchosen
  constructor
  case experiment => exact hexperiment
  case arm => exact harm
  case session => exact hashIdentifier_again hM.hexDigests hsession
  case task => exact taskIdentifier_again hM.hexDigests htask
  case query => exact hashIdentifier_again hM.hexDigests hquery
  case candidates => exact safeIdList_again hcandidates
  case selected => exact safeIdList_again hselected
  case candidateCount => exact hcandidateScopes.1
  case candidateScopes => exact hcandidateScopes.2
  case selectedCount => exact hselectedScopes.1
  case selectedScopes => exact hselectedScopes.2
  case scope => exact hscope
  case chosen => exact hchosen
  case injected => exact measurementNumber_required hM hinjected _
  case latency => exact measurementNumber_required hM hlatency _
  case observed => exact fun later => (measurementTimestamp_again hM hclock hobserved later).2
  case hostInstance => exact hashIdentifier_again hM.hexDigests hhostInstance
  case protocol => exact safeLabel_again hprotocol
  case source => exact safeLabel_again hsource
  case host => exact safeLabel_again hhost
  case model => exact safeLabel_again hmodel
  case domain => exact safeLabel_again hdomain
  case contaminated =>
    intro hviolates
    dsimp only at hviolates ⊢
    rw [hviolates, Bool.or_true]

theorem isEmpty_scopes {scopes rest : List String} (h : rest.length = scopes.length) :
    (if scopes.isEmpty then rest else scopes) = scopes := by
  cases scopes with
  | nil =>
    rw [List.eq_nil_of_length_eq_zero h]
    rfl
  | cons scope scopes => rfl

/-- The arguments that the row of a record gives. -/
theorem arguments_toDict (P : Platform) (r : ExposureRecord) : arguments P r.toDict =
    { experimentId := r.experimentId
      sessionIdHash := r.sessionIdHash
      queryFingerprint := r.queryFingerprint
      arm := r.arm
      candidateIds := .ofStrings r.candidateIds
      selectedIds := .ofStrings r.selectedIds
      injectedChars := .int r.injectedChars
      retrievalLatencyMs := .int r.retrievalLatencyMs
      hostId := r.hostId
      observedAt := r.observedAt
      protocolHash := r.protocolHash
      taskIdHash := r.taskIdHash
      modelFamily := r.modelFamily
      domain := r.domain
      eligible := r.eligible
      shadowRetrieval := r.shadowRetrieval
      contextInjected := r.contextInjected
      contamination := r.contamination
      source := r.source
      hostInstanceHash := r.hostInstanceHash
      exposureId := r.exposureId
      candidateScopes := .ofStrings r.candidateScopes
      selectedScopes := .ofStrings r.selectedScopes
      emptyResult := r.emptyResult
      teamUnavailable := r.teamUnavailable
      scope := r.scope } :=
  rfl

/-- A normal record is what its row is normalised to. -/
theorem Normal.normalise_toDict {M : MeasurementPlatform} {r : ExposureRecord} (h : r.Normal M)
    (later : Int) : normalise M later (arguments M.toPlatform r.toDict) = .ok r := by
  have hcandidateScopes : (if r.candidateScopes.isEmpty then
      List.replicate r.candidateIds.length "personal" else r.candidateScopes) =
      r.candidateScopes :=
    isEmpty_scopes (List.length_replicate.trans h.candidateCount.symm)
  have hselectedScopes : (if r.selectedScopes.isEmpty then r.selectedIds.map fun item =>
      ((r.candidateIds.zip r.candidateScopes).lookup item).getD "personal"
      else r.selectedScopes) = r.selectedScopes :=
    isEmpty_scopes ((List.length_map _).trans h.selectedCount.symm)
  have hscope : orElse r.scope (commonScope r.candidateScopes) = r.scope := by
    apply if_neg
    intro hempty
    have hscope := h.scope
    rw [hempty] at hscope
    exact absurd hscope (by decide)
  have hcontaminated : (r.contamination || (r.arm == "control" && (!r.selectedIds.isEmpty ||
      0 < r.injectedChars || r.contextInjected))) = r.contamination := by
    cases hviolates : (r.arm == "control" && (!r.selectedIds.isEmpty ||
      0 < r.injectedChars || r.contextInjected)) with
    | true => rw [h.contaminated hviolates, Bool.or_true]
    | false => rw [Bool.or_false]
  rw [arguments_toDict]
  simp only [normalise, h.experiment, h.arm, h.session, h.task, h.query,
    safeIdList_valueOr h.candidates, safeIdList_valueOr h.selected,
    safeScopeList_scopes h.candidateCount h.candidateScopes,
    safeScopeList_scopes h.selectedCount h.selectedScopes, hcandidateScopes, hselectedScopes,
    hscope, h.scope, h.chosen, h.injected, h.latency, h.observed, h.hostInstance, h.protocol,
    h.source, h.host, h.model, h.domain, Bool.not_true, refuse_false, ok_bind, wholeOf]
  apply congrArg Except.ok
  exact congrArg (fun contamination => { r with contamination }) hcontaminated

theorem arguments_congr (P : Platform) {a b : Fields} (h : ∀ name, a.lookup name = b.lookup name) :
    arguments P a = arguments P b := by
  simp only [arguments, textOr, getOr, h]

def names : List String :=
  ["schema_version", "exposure_id", "experiment_id", "protocol_hash", "session_id_hash",
    "task_id_hash", "query_fingerprint", "arm", "variant", "candidate_ids", "selected_ids",
    "injected_chars", "retrieval_latency_ms", "host_id", "host_instance_hash", "model_family",
    "domain", "observed_at", "eligible", "shadow_retrieval", "context_injected", "contamination",
    "source", "candidate_scopes", "selected_scopes", "empty_result", "team_unavailable", "scope"]

theorem keys_toDict (r : ExposureRecord) : Dict.keys r.toDict = names :=
  rfl

theorem logRow_toDict (M : MeasurementPlatform) (r : ExposureRecord) : LogRow M r.toDict := by
  constructor
  case nodup =>
    rw [keys_toDict]
    decide
  case readable =>
    unfold toDict
    simp only [List.forall_mem_cons, (readable_ofStrings _ _).1, (readable_ofStrings M.real _).2,
      Json.Readable, Value.canonical, and_self, true_and]
    exact fun _ h => absurd h List.not_mem_nil
  case plain =>
    rw [keys_toDict]
    decide
  case accepted =>
    rw [keys_toDict]
    decide

theorem identified_of_id (P : Platform) {r : ExposureRecord} (hne : r.exposureId ≠ "")
    (hid : isMeasurementId r.exposureId = true) : identified P r = .ok r := by
  unfold identified
  rw [if_neg hne, hid, Bool.not_true, if_neg Bool.false_ne_true]

/-- A record keeps the identifier that it got. -/
theorem identified_again {P : Platform} {r : ExposureRecord} (hP : P.HexDigests)
    (h : identified P r = .ok found) :
    ∃ exposureId, found = { r with exposureId } ∧ identified P found = .ok found := by
  unfold identified at h
  split at h
  · have hid := isMeasurementId_digest "exp_" (hP (canonicalJson r.material)) (by decide)
    cases h
    exact ⟨_, rfl, identified_of_id P hid.2 hid.1⟩
  · rename_i hne
    split at h
    · cases h
    · rename_i hvalid
      rw [Bool.not_eq_true, Bool.not_eq_false'] at hvalid
      cases h
      exact ⟨_, rfl, identified_of_id P hne hvalid⟩

theorem Normal.reidentified {r : ExposureRecord} (h : r.Normal M) (exposureId : String) :
    Normal M { r with exposureId } := by
  cases h
  constructor <;> assumption

/-- A record that was made is read from its row. -/
theorem fromMapping_create {M : MeasurementPlatform} {r : ExposureRecord} (hM : M.Lawful)
    (hclock : M.ReadsClock now) (h : create M now a = .ok r) (later : Int) :
    fromMapping M later (Value.canonicalObject r.toDict) = .ok r := by
  obtain ⟨normal, hnormal, hidentified⟩ := Except.bind_eq_ok.1 h
  obtain ⟨exposureId, hr, hagain⟩ := identified_again hM.hexDigests hidentified
  have hnormalised : r.Normal M := by
    rw [hr]
    exact (normalise_normal hM hclock hnormal).reidentified exposureId
  have hrow := logRow_toDict M r
  unfold fromMapping
  rw [hrow.rejectRawMapping hM, ok_bind, arguments_congr M.toPlatform hrow.lookup, create,
    hnormalised.normalise_toDict later]
  exact hagain

end ExposureRecord

end ExternalIntelligence
