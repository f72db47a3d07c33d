import ExternalIntelligence.ChangesetValidation
import ExternalIntelligence.PersistableFlat

namespace ExternalIntelligence
set_option autoImplicit true

@[simp] theorem reasonIf_eq_nil : reasonIf bad reason = [] ↔ bad = false := by
  cases bad <;> simp [reasonIf]

theorem reasonCodes_eq_nil : reasonCodes issues = [] ↔ issues = [] := by
  rw [reasonCodes, eraseDups_eq_nil, List.map_eq_nil_iff]

/-- A step of the validation only adds reasons. -/
theorem validateKind_reasons (h : validateKind P S policy operation loop = .ok loop') :
    loop.reasons <+: loop'.reasons := by
  unfold validateKind at h
  cases hop : operation.operation with
  | createObservation =>
    rw [hop] at h
    cases h
    exact List.prefix_rfl
  | attachEvidence | redactReference | noChange =>
    rw [hop] at h
    cases h
    exact List.prefix_append _ _
  | createCandidate =>
    rw [hop] at h
    simp only [validateCandidate] at h
    split at h
    · cases h
      exact List.prefix_append _ _
    · cases h
      exact List.prefix_append _ _
    · split at h
      · cases h
        exact List.prefix_append _ _
      split at h
      · cases h
        exact List.prefix_append _ _
      · obtain ⟨state, _, rfl⟩ := Except.map_eq_ok.1 h
        exact List.prefix_rfl
  | promotePattern =>
    rw [hop] at h
    simp only [validatePromotion] at h
    obtain ⟨contradiction, _, rfl⟩ := Except.map_eq_ok.1 h
    simp only [List.append_assoc]
    exact List.prefix_append _ _
  | revisePattern =>
    rw [hop] at h
    cases h
    simp only [validateRevision, List.append_assoc]
    exact List.prefix_append _ _
  | deprecatePattern | tombstonePattern =>
    rw [hop] at h
    cases h
    exact List.prefix_append _ _

theorem validateOperation_ok (h : validateOperation P S policy value loop operation = .ok loop') :
    ∃ reasons, commonReasons P value operation = .ok reasons ∧
      validateKind P S policy operation
        (loop.add (reasons ++ contentReasons policy operation)) = .ok loop' ∧
      loop.reasons ++ (reasons ++ contentReasons policy operation) <+: loop'.reasons := by
  obtain ⟨reasons, hc, hk⟩ := Except.bind_eq_ok.1 h
  exact ⟨reasons, hc, hk, validateKind_reasons hk⟩

/-- An operation is checked without a reason to refuse it. -/
structure Accepts (P : Platform) (S : ChangesetSettings) (policy : PromotionPolicy) (value : ChangeSet)
    (loop : ValidationLoop) (operation : ChangeOperation) (loop' : ValidationLoop) : Prop where
  clear : loop.reasons = []
  common : commonReasons P value operation = .ok []
  content : contentReasons policy operation = []
  kind : validateKind P S policy operation loop = .ok loop'
  clear' : loop'.reasons = []

theorem accepts_of_validateOperation
    (h : validateOperation P S policy value loop operation = .ok loop')
    (hr : loop'.reasons = []) : Accepts P S policy value loop operation loop' := by
  obtain ⟨reasons, hc, hk, hpre⟩ := validateOperation_ok h
  rw [hr, List.prefix_nil, List.append_eq_nil_iff, List.append_eq_nil_iff] at hpre
  obtain ⟨hl, rfl, hcontent⟩ := hpre
  have hadd : loop.add ([] ++ contentReasons policy operation) = loop := by
    simp only [ValidationLoop.add, hcontent, List.append_nil]
  rw [hadd] at hk
  exact ⟨hl, hc, hcontent, hk, hr⟩

/-- A run of the loop that ends without a reason accepts every operation on its way. -/
inductive AcceptedRun (P : Platform) (S : ChangesetSettings) (policy : PromotionPolicy)
    (value : ChangeSet) : ValidationLoop → List ChangeOperation → ValidationLoop → Prop
  | done : loop.reasons = [] → AcceptedRun P S policy value loop [] loop
  | step : Accepts P S policy value loop operation loop' →
      AcceptedRun P S policy value loop' later last →
      AcceptedRun P S policy value loop (operation :: later) last

theorem AcceptedRun.clear (h : AcceptedRun P S policy value loop ops last) : loop.reasons = [] := by
  cases h with
  | done hr => exact hr
  | step hacc _ => exact hacc.clear

theorem acceptedRun_of_foldlM {ops : List ChangeOperation}
    (h : ops.foldlM (validateOperation P S policy value) loop = .ok last)
    (hr : last.reasons = []) : AcceptedRun P S policy value loop ops last := by
  induction ops generalizing loop with
  | nil =>
    cases h
    exact .done hr
  | cons operation later ih =>
    obtain ⟨loop', hl, hrest⟩ := Except.foldlM_cons_ok.1 h
    have hrun := ih hrest
    apply AcceptedRun.step _ hrun
    exact accepts_of_validateOperation hl hrun.clear

theorem AcceptedRun.accepts (h : AcceptedRun P S policy value loop ops last) :
    ∀ operation ∈ ops, ∃ loop loop', Accepts P S policy value loop operation loop' := by
  induction h with
  | done _ =>
    intro operation hm
    cases hm
  | step hacc _ ih =>
    intro operation hm
    rcases List.mem_cons.1 hm with rfl | hm
    · exact ⟨_, _, hacc⟩
    · exact ih operation hm

/-- What it means that a changeset is valid. -/
theorem validateChangeset_valid (h : validateChangeset P S disk value = .ok result)
    (hv : result.valid = true) :
    ∃ policy events existing last, S.policy = .ok policy ∧
      journalEvents P S disk = .ok events ∧ states P events = .ok existing ∧
      documentReasons P S policy value = [] ∧
      AcceptedRun P S policy value ⟨existing.copies, []⟩ value.operations last := by
  unfold validateChangeset at h
  split at h
  · cases h
    cases hv
  · cases h
    cases hv
  · rename_i policy events hp hj
    obtain ⟨existing, hs, h⟩ := Except.bind_eq_ok.1 h
    obtain ⟨last, hl, h⟩ := Except.bind_eq_ok.1 h
    cases h
    rw [List.isEmpty_iff] at hv
    have hrun := acceptedRun_of_foldlM hl hv
    have hd : documentReasons P S policy value = [] := hrun.clear
    rw [hd] at hrun
    exact ⟨policy, events, existing, last, hp, hj, hs, hd, hrun⟩

/-- What the common checks of an accepted operation found. -/
structure Sound (P : Platform) (value : ChangeSet) (operation : ChangeOperation) : Prop where
  inspected : inspectChangesetPayload P operation.payload
    (pyStr P (getOr operation.payload "classification" (.str "private-reusable"))) = []
  target : safeTarget operation.targetId = true
  actor : ∃ actor, operation.payload.lookup "actor" = some (.str actor) ∧ isSafeLabel actor = true

theorem Accepts.sound (h : Accepts P S policy value loop operation loop') :
    Sound P value operation := by
  have hc := h.common
  unfold commonReasons at hc
  obtain ⟨reasons, _, hc⟩ := Except.map_eq_ok.1 hc
  simp only [List.append_eq_nil_iff, reasonIf_eq_nil, reasonCodes_eq_nil, and_assoc] at hc
  obtain ⟨hi, ht, _, _, ha, _⟩ := hc
  constructor
  · exact hi
  · simpa using ht
  · simp only [fieldOf, Bool.or_eq_false_iff, Bool.not_eq_false'] at ha
    cases hl : operation.payload.lookup "actor" with
    | none => simp [hl, Value.isStr] at ha
    | some actor =>
      rw [hl] at ha
      cases actor with
      | str actor => exact ⟨actor, rfl, ha.2⟩
      | _ => simp [Value.isStr] at ha

/-- What the checks of an accepted promotion found in its payload. -/
structure PromotionChecked (P : Platform) (policy : PromotionPolicy) (payload : Fields) :
    Prop where
  contradiction : ∃ known count,
    pyInt P (valueOr (getOr payload "contradiction_count" known) (.int 0)) = .ok count ∧
      count ≤ policy.maxUnresolvedContradictions
  precondition : hasText payload "precondition" = true
  failureMode : hasText payload "failure_mode" = true
  applicability : ∃ item ∈ (getOr payload "applicability" (.tuple [])).items?.getD [],
    Text.strip (Text.chars (pyStr P item)) ≠ []

theorem Accepts.promotionChecked (h : Accepts P S policy value loop operation loop')
    (hop : operation.operation = .promotePattern) :
    PromotionChecked P policy operation.payload := by
  have hk := h.kind
  rw [validateKind, hop] at hk
  simp only [validatePromotion] at hk
  obtain ⟨count, hcount, rfl⟩ := Except.map_eq_ok.1 hk
  have hr := h.clear'
  simp only [List.append_eq_nil_iff, reasonIf_eq_nil, and_assoc, decide_eq_false_iff_not, not_lt,
    Bool.not_eq_false', List.any_eq_true, Bool.not_eq_true', gt_iff_lt] at hr
  obtain ⟨_, _, hle, hp, hf, item, hm, hstrip⟩ := hr
  constructor
  · exact ⟨_, count, hcount, hle⟩
  · exact hp
  · exact hf
  · refine ⟨item, hm, ?_⟩
    intro he
    rw [he] at hstrip
    cases hstrip

end ExternalIntelligence
