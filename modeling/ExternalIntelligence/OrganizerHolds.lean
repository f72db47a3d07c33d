import ExternalIntelligence.JournalReading
import ExternalIntelligence.OrganizerRecovery

namespace ExternalIntelligence
set_option autoImplicit true

/-- The state asks for action, so its provider is held. -/
def Held (file : Option OrganizerState) : Prop :=
  ∃ state, file = some state ∧ state.needsAction = true

def OrganizerAnswer.invocation : OrganizerAnswer → Option Invocation
  | .ran report => report.invocation
  | _ => none

/-- A retry request that was persisted. -/
def OrganizerAnswer.Accepted (answer : OrganizerAnswer) : Prop :=
  ∃ result, answer = .requested result ∧ result.status = "RETRY_REQUESTED"

/-- Verified authentication, or a fingerprint other than the saved one. -/
def Evidence (file : Option OrganizerState) : OrganizerCall → Prop
  | .recover handle _ verifiedAuth fingerprint => verifiedAuth = true ∨
      ∃ state f, readOrganizer handle file = .ok state ∧ state.configFingerprint ≠ "" ∧
        fingerprint = some f ∧ f ≠ state.configFingerprint
  | _ => False

theorem readOrganizer_some {state : OrganizerState}
    (h : readOrganizer handle (some state) = .ok next) : next = state := by
  rw [readOrganizer] at h
  split at h <;> cases h
  rfl

/-- What a run that may invoke its operation has checked. -/
structure Admission (handle : OrganizerRecovery) (state : OrganizerState) (now : Int)
    (retryProvider : Option ProviderView) : Prop where
  due : ∀ due, state.nextEligibleAt = some due → due ≤ now
  held : state.needsAction = true → state.retryRequest.isSome ∧
    handle.configFingerprint = state.configFingerprint ∧
    ∃ provider, retryProvider = some provider ∧ provider.providerId = some handle.providerId ∧
      provider.enabled ≠ some false

theorem due_of_not_any {due : Option Int} (h : ¬(due.any (now < ·)) = true) :
    ∀ d, due = some d → d ≤ now := by
  rintro d rfl
  simpa using h

theorem admission_ok {handle : OrganizerRecovery} {state : OrganizerState}
    (h : admission handle state now retryProvider = .ok retry) :
    Admission handle state now retryProvider ∧ retry = state.needsAction := by
  simp only [admission] at h
  split at h
  · rename_i hneeds
    split at h
    · cases h
    · rename_i hgranted
      split at h
      · cases h
      · rename_i hdue
        cases h
        simp only [Bool.or_eq_true, not_or, Bool.not_eq_true, Bool.not_eq_false',
          Option.isNone_eq_false_iff] at hgranted
        obtain ⟨⟨⟨hrequest, henabled⟩, hbinding⟩, _⟩ := hgranted
        refine ⟨⟨due_of_not_any hdue, fun _ => ⟨hrequest, ?_, ?_⟩⟩, hneeds.symm⟩
        · simp only [Bool.and_eq_true, beq_iff_eq] at hbinding
          rcases hbinding with ⟨hs, hh⟩ | ⟨_, he⟩
          · rw [hs, hh]
          · exact he
        · cases retryProvider with
          | none => simp at henabled
          | some provider =>
            simp only [Option.any_some, Bool.and_eq_true, beq_iff_eq, bne_iff_ne] at henabled
            exact ⟨provider, rfl, henabled.1, henabled.2⟩
  · rename_i hneeds
    split at h
    · cases h
    · rename_i hdue
      cases h
      refine ⟨⟨due_of_not_any hdue, fun hh => absurd hh hneeds⟩, ?_⟩
      simpa using hneeds

/-- What a run does: nothing, or it writes its cooldown and then ends by its outcome. -/
theorem run_cases {handle : OrganizerRecovery}
    (h : handle.run file now retryProvider outcome = .ok (report, next)) :
    (report.invocation = none ∧ next = file) ∨
      ∃ state, readOrganizer handle file = .ok state ∧ Admission handle state now retryProvider ∧
        ((report.invocation = none ∧ next = some (state.begun now state.needsAction)) ∨
          (report.invocation = some ⟨state.needsAction, true⟩ ∧ next = some state) ∨
          (report.invocation = some ⟨state.needsAction, false⟩ ∧
            (next = some (state.begun now state.needsAction) ∨ ∃ result,
              next = some ((state.begun now state.needsAction).finished handle now
                state.needsAction result)))) := by
  rw [OrganizerRecovery.run] at h
  obtain ⟨state, hread, h⟩ := Except.bind_eq_ok.1 h
  split at h
  · cases h
    exact .inl ⟨rfl, rfl⟩
  · rename_i retry hadmission
    obtain ⟨hok, rfl⟩ := admission_ok hadmission
    refine .inr ⟨state, hread, hok, ?_⟩
    cases outcome with
    | interrupted invoked =>
      cases h
      cases invoked with
      | false => exact .inl ⟨rfl, rfl⟩
      | true => exact .inr (.inr ⟨rfl, .inl rfl⟩)
    | completed result admissionRefused =>
      dsimp only at h
      split at h
      · cases h
        exact .inr (.inl ⟨rfl, rfl⟩)
      · cases h
        exact .inr (.inr ⟨rfl, .inr ⟨result, rfl⟩⟩)

theorem retryRequestResult_some {handle : OrganizerRecovery} {fingerprint : Option String}
    (h : retryRequestResult handle state provider now fingerprint = (result, some next)) :
    state.needsAction = true ∧ result.status = "RETRY_REQUESTED" ∧ ∃ request binding,
      next = { state with retryRequest := some request, configFingerprint := binding } := by
  simp only [retryRequestResult] at h
  iterate 5
    split at h
    · cases h
  split at h
  · split at h <;> cases h
  · split at h
    · cases h
    · rename_i hneeds
      split at h
      · cases h
      · cases h
        exact ⟨by simpa using hneeds, rfl, _, _, rfl⟩

/-- What a retry request does: nothing, or it adds a request to a held state. -/
theorem requestAuthRetry_cases {handle : OrganizerRecovery} {fingerprint : Option String}
    (h : handle.requestAuthRetry file provider now fingerprint = (result, next)) :
    next = file ∨ ∃ state request binding, file = some state ∧ state.needsAction = true ∧
      result.status = "RETRY_REQUESTED" ∧
      next = some { state with retryRequest := some request, configFingerprint := binding } := by
  rw [OrganizerRecovery.requestAuthRetry] at h
  split at h
  · cases h
    exact .inl rfl
  · rename_i state hread
    cases hr : retryRequestResult handle state provider now fingerprint with
    | mk answer written =>
      rw [hr] at h
      cases written with
      | none =>
        cases h
        exact .inl rfl
      | some written =>
        cases h
        obtain ⟨hneeds, hstatus, request, binding, he⟩ := retryRequestResult_some hr
        cases file with
        | none =>
          cases hread
          cases hneeds
        | some stored =>
          cases readOrganizer_some hread
          exact .inr ⟨state, request, binding, rfl, hneeds, hstatus, by rw [he]; rfl⟩

/-- What a recovery does: it keeps a held state held and its request, or it has evidence. -/
theorem recover_cases {handle : OrganizerRecovery} {fingerprint : Option String}
    (h : handle.recover file provider verifiedAuth fingerprint = .ok (released, next)) :
    (released = false ∧ (next = file ∨ ∃ state binding, readOrganizer handle file = .ok state ∧
        next = some { state with configFingerprint := binding })) ∨
      (released = true ∧
        Evidence file (.recover handle provider verifiedAuth fingerprint) ∧
        ∃ state, next = some state ∧ state.needsAction = false ∧ state.retryRequest = none) := by
  simp only [OrganizerRecovery.recover, refuse_bind_ok] at h
  obtain ⟨_, _, h⟩ := h
  obtain ⟨state, hread, h⟩ := Except.bind_eq_ok.1 h
  split at h
  · left
    split at h
    · cases h
      exact ⟨rfl, .inr ⟨state, _, hread, rfl⟩⟩
    · cases h
      exact ⟨rfl, .inl rfl⟩
  · rename_i hevidence
    cases h
    refine .inr ⟨rfl, ?_, _, rfl, rfl, rfl⟩
    cases verifiedAuth with
    | true => exact .inl rfl
    | false =>
      right
      cases fingerprint with
      | none => simp at hevidence
      | some f =>
        simp only [Bool.not_false, Option.any_some, Bool.true_and, Bool.not_eq_true',
          Bool.not_eq_false, Bool.and_eq_true, bne_iff_ne] at hevidence
        exact ⟨state, f, hread, hevidence.1, rfl, hevidence.2⟩

@[simp] theorem begun_needsAction (state : OrganizerState) (now : Int) (retry : Bool) :
    (state.begun now retry).needsAction = state.needsAction :=
  rfl

theorem begun_request (state : OrganizerState) (now : Int) (retry : Bool) :
    (state.begun now retry).retryRequest = if retry then none else state.retryRequest :=
  rfl

theorem finished_request (state : OrganizerState) (handle : OrganizerRecovery) (now : Int)
    (retry : Bool) (result : GateDecision) :
    (state.finished handle now retry result).retryRequest =
      if result.semantic then none else state.retryRequest := by
  rw [OrganizerState.finished]
  split <;> simp_all

/-- A held state stays held until the operation is invoked or a recovery with evidence. -/
theorem held_step (h : Held file) :
    Held (organizerMachine.step file call).1 ∨
      (organizerMachine.step file call).2.invocation ≠ none ∨
      ((organizerMachine.step file call).2 = .recovered true ∧ Evidence file call) := by
  obtain ⟨state, rfl, hneeds⟩ := h
  cases call with
  | run handle now retryProvider outcome =>
    cases hrun : handle.run (some state) now retryProvider outcome with
    | error e =>
      left
      simp only [organizerMachine, organizerStep, hrun]
      exact ⟨state, rfl, hneeds⟩
    | ok answer =>
      obtain ⟨report, next⟩ := answer
      simp only [organizerMachine, organizerStep, hrun, OrganizerAnswer.invocation]
      rcases run_cases hrun with ⟨_, rfl⟩ | ⟨stored, hread, _, hcase⟩
      · exact .inl ⟨state, rfl, hneeds⟩
      · cases readOrganizer_some hread
        rcases hcase with ⟨_, rfl⟩ | ⟨hi, _⟩ | ⟨hi, _⟩
        · exact .inl ⟨_, rfl, hneeds⟩
        · exact .inr (.inl (by simp [hi]))
        · exact .inr (.inl (by simp [hi]))
  | requestAuthRetry handle provider now fingerprint =>
    left
    cases hr : handle.requestAuthRetry (some state) provider now fingerprint with
    | mk result next =>
      simp only [organizerMachine, organizerStep, hr]
      rcases requestAuthRetry_cases hr with rfl | ⟨stored, _, _, he, hn, _, rfl⟩
      · exact ⟨state, rfl, hneeds⟩
      · exact ⟨_, rfl, hn⟩
  | recover handle provider verifiedAuth fingerprint =>
    cases hr : handle.recover (some state) provider verifiedAuth fingerprint with
    | error e =>
      left
      simp only [organizerMachine, organizerStep, hr]
      exact ⟨state, rfl, hneeds⟩
    | ok answer =>
      obtain ⟨released, next⟩ := answer
      simp only [organizerMachine, organizerStep, hr]
      rcases recover_cases hr with ⟨_, rfl | ⟨stored, _, hread, rfl⟩⟩ | ⟨rfl, he, _⟩
      · exact .inl ⟨state, rfl, hneeds⟩
      · cases readOrganizer_some hread
        exact .inl ⟨_, rfl, hneeds⟩
      · exact .inr (.inr ⟨rfl, he⟩)

def HasRequest (file : Option OrganizerState) : Prop :=
  ∃ state, file = some state ∧ state.retryRequest.isSome = true

/-- A retry spends its request when it begins. -/
theorem begun_hasRequest {state : OrganizerState}
    (h : HasRequest (some (state.begun now state.needsAction))) :
    state.needsAction = false ∧ state.retryRequest.isSome = true := by
  obtain ⟨_, he, hr⟩ := h
  cases he
  rw [begun_request] at hr
  cases hn : state.needsAction with
  | true =>
    rw [hn] at hr
    cases hr
  | false =>
    rw [hn] at hr
    exact ⟨rfl, hr⟩

theorem finished_hasRequest {state : OrganizerState} {handle : OrganizerRecovery}
    (h : HasRequest (some ((state.begun now state.needsAction).finished handle now
      state.needsAction result))) :
    state.needsAction = false ∧ state.retryRequest.isSome = true := by
  obtain ⟨_, he, hr⟩ := h
  cases he
  rw [finished_request] at hr
  split at hr
  · cases hr
  · exact begun_hasRequest ⟨_, rfl, hr⟩

/-- A retry that was not refused admission. -/
def Spends (answer : OrganizerAnswer) : Prop :=
  answer.invocation = some ⟨true, false⟩

/-- A request that a step leaves was accepted by it, or was there before and is not spent. -/
theorem request_step (h : HasRequest (organizerMachine.step file call).1) :
    (organizerMachine.step file call).2.Accepted ∨
      (HasRequest file ∧ ¬Spends (organizerMachine.step file call).2) := by
  cases call with
  | run handle now retryProvider outcome =>
    right
    cases hrun : handle.run file now retryProvider outcome with
    | error e =>
      simp only [organizerMachine, organizerStep, hrun] at h ⊢
      exact ⟨h, by simp [Spends, OrganizerAnswer.invocation]⟩
    | ok answer =>
      obtain ⟨report, next⟩ := answer
      simp only [organizerMachine, organizerStep, hrun, Spends, OrganizerAnswer.invocation] at h ⊢
      rcases run_cases hrun with ⟨hi, rfl⟩ | ⟨state, hread, hadmission, hcase⟩
      · exact ⟨h, by simp [hi]⟩
      · have hbefore : state.retryRequest.isSome = true → HasRequest file := by
          intro hr
          cases file with
          | none =>
            cases hread
            cases hr
          | some stored =>
            cases readOrganizer_some hread
            exact ⟨state, rfl, hr⟩
        rcases hcase with ⟨hi, rfl⟩ | ⟨hi, rfl⟩ | ⟨hi, hnext⟩
        · exact ⟨hbefore (begun_hasRequest h).2, by simp [hi]⟩
        · obtain ⟨_, he, hr⟩ := h
          cases he
          exact ⟨hbefore hr, by simp [hi]⟩
        · have hkept : state.needsAction = false ∧ state.retryRequest.isSome = true := by
            rcases hnext with rfl | ⟨result, rfl⟩
            · exact begun_hasRequest h
            · exact finished_hasRequest h
          exact ⟨hbefore hkept.2, by simp [hi, hkept.1]⟩
  | requestAuthRetry handle provider now fingerprint =>
    cases hr : handle.requestAuthRetry file provider now fingerprint with
    | mk result next =>
      simp only [organizerMachine, organizerStep, hr] at h ⊢
      rcases requestAuthRetry_cases hr with rfl | ⟨_, _, _, _, _, hstatus, _⟩
      · exact .inr ⟨h, by simp [Spends, OrganizerAnswer.invocation]⟩
      · exact .inl ⟨result, rfl, hstatus⟩
  | recover handle provider verifiedAuth fingerprint =>
    right
    cases hr : handle.recover file provider verifiedAuth fingerprint with
    | error e =>
      simp only [organizerMachine, organizerStep, hr] at h ⊢
      exact ⟨h, by simp [Spends, OrganizerAnswer.invocation]⟩
    | ok answer =>
      obtain ⟨released, next⟩ := answer
      simp only [organizerMachine, organizerStep, hr] at h ⊢
      refine ⟨?_, by simp [Spends, OrganizerAnswer.invocation]⟩
      rcases recover_cases hr with ⟨_, rfl | ⟨state, _, hread, rfl⟩⟩ | ⟨_, _, state, rfl, _, hnone⟩
      · exact h
      · obtain ⟨_, he, hsome⟩ := h
        cases he
        cases file with
        | none =>
          cases hread
          cases hsome
        | some stored =>
          cases readOrganizer_some hread
          exact ⟨state, rfl, hsome⟩
      · obtain ⟨_, he, hsome⟩ := h
        cases he
        rw [hnone] at hsome
        cases hsome

/-- Some earlier call was an accepted retry request, and no retry has spent it since. -/
def Granted (calls : List OrganizerCall) : Prop :=
  ∃ earlier call later, calls = earlier ++ call :: later ∧
    (organizerMachine.output none earlier call).Accepted ∧
    ∀ before other after, later = before ++ other :: after →
      ¬Spends (organizerMachine.output none (earlier ++ call :: before) other)

/-- A request in the state was accepted and is not spent. -/
theorem request_granted {calls : List OrganizerCall}
    (h : HasRequest (organizerMachine.after none calls)) : Granted calls := by
  induction calls using List.reverseRecOn with
  | nil =>
    obtain ⟨_, he, _⟩ := h
    cases he
  | append_singleton calls last ih =>
    rw [Machine.after_concat] at h
    rcases request_step h with haccepted | ⟨hbefore, hspends⟩
    · refine ⟨calls, last, [], rfl, haccepted, ?_⟩
      intro before other after he
      simp at he
    · obtain ⟨earlier, call, later, rfl, haccepted, hlater⟩ := ih hbefore
      refine ⟨earlier, call, later ++ [last], by simp, haccepted, ?_⟩
      intro before other after he
      cases after using List.reverseRecOn with
      | nil =>
        obtain ⟨rfl, hlast⟩ := List.append_inj' he rfl
        cases hlast
        exact hspends
      | append_singleton after final =>
        have he' : later ++ [last] = (before ++ other :: after) ++ [final] := by simp [he]
        obtain ⟨rfl, _⟩ := List.append_inj' he' rfl
        exact hlater before other after rfl

/-- From a held state on, the state is held, or the operation was invoked, or a recovery had
evidence. -/
theorem held_after (file : Option OrganizerState) (later : List OrganizerCall) (h : Held file) :
    Held (organizerMachine.after file later) ∨
      ∃ before call after, later = before ++ call :: after ∧
        ((organizerMachine.output file before call).invocation ≠ none ∨
          (organizerMachine.output file before call = .recovered true ∧
            Evidence (organizerMachine.after file before) call)) := by
  induction later using List.reverseRecOn with
  | nil => exact .inl h
  | append_singleton later last ih =>
    rcases ih with hheld | ⟨before, call, after, rfl, hout⟩
    · rw [Machine.after_concat]
      rcases held_step hheld with hnext | hout
      · exact .inl hnext
      · exact .inr ⟨later, last, [], rfl, hout⟩
    · exact .inr ⟨before, call, after ++ [last], by simp, hout⟩

/-- What an invocation in a held state has: a matching and enabled provider, the saved
fingerprint, and a request that is not spent and that it spends unless it is refused. -/
structure RetryGranted (handle : OrganizerRecovery) (retryProvider : Option ProviderView)
    (calls : List OrganizerCall) (refused : Bool) (next : Option OrganizerState) : Prop where
  provider : ∃ provider, retryProvider = some provider ∧
    provider.providerId = some handle.providerId ∧ provider.enabled ≠ some false
  fingerprint : ∃ state, organizerMachine.after none calls = some state ∧
    state.configFingerprint = handle.configFingerprint
  request : Granted calls
  restored : refused = true → next = organizerMachine.after none calls
  spent : refused = false → ¬HasRequest next

theorem run_step {handle : OrganizerRecovery}
    (h : handle.run file now retryProvider outcome = .ok (report, next)) :
    organizerMachine.step file (.run handle now retryProvider outcome) = (next, .ran report) := by
  simp only [organizerMachine, organizerStep, h]

theorem run_step_error {handle : OrganizerRecovery}
    (h : handle.run file now retryProvider outcome = .error e) :
    organizerMachine.step file (.run handle now retryProvider outcome) = (file, .raised e) := by
  simp only [organizerMachine, organizerStep, h]

/-- An invocation is never early, and after any calls that ever held the provider it is a granted
retry or there was an earlier invocation or a recovery with evidence. -/
theorem invocation_respects_hold (calls : List OrganizerCall) {handle : OrganizerRecovery}
    {now : Int} {retryProvider : Option ProviderView} {outcome : RunOutcome}
    (h : (organizerMachine.output none calls
      (.run handle now retryProvider outcome)).invocation = some invocation) :
    (∀ state due, organizerMachine.after none calls = some state →
      state.nextEligibleAt = some due → due ≤ now) ∧
    ((Held (organizerMachine.after none calls) →
      RetryGranted handle retryProvider calls invocation.refused
        (organizerMachine.after none (calls ++ [.run handle now retryProvider outcome]))) ∧
    ∀ earlier later, calls = earlier ++ later → Held (organizerMachine.after none earlier) →
      Held (organizerMachine.after none calls) ∨
        ∃ before call after, later = before ++ call :: after ∧
          ((organizerMachine.output none (earlier ++ before) call).invocation ≠ none ∨
            (organizerMachine.output none (earlier ++ before) call = .recovered true ∧
              Evidence (organizerMachine.after none (earlier ++ before)) call))) := by
  rw [Machine.output] at h
  cases hrun : handle.run (organizerMachine.after none calls) now retryProvider outcome with
  | error e =>
    rw [run_step_error hrun] at h
    cases h
  | ok answer =>
    obtain ⟨report, next⟩ := answer
    rw [run_step hrun] at h
    have hreport : report.invocation = some invocation := h
    have hnext : organizerMachine.after none
        (calls ++ [.run handle now retryProvider outcome]) = next := by
      rw [Machine.after_concat, run_step hrun]
    rcases run_cases hrun with ⟨hi, _⟩ | ⟨state, hread, hadmission, hcase⟩
    · rw [hi] at hreport
      cases hreport
    · refine ⟨?_, ?_, ?_⟩
      · intro stored due hs hdue
        rw [hs] at hread
        cases readOrganizer_some hread
        exact hadmission.due due hdue
      · rintro ⟨stored, hs, hneeds⟩
        rw [hs] at hread
        cases readOrganizer_some hread
        obtain ⟨hrequest, hfingerprint, hprovider⟩ := hadmission.held hneeds
        refine ⟨hprovider, ⟨state, hs, hfingerprint.symm⟩,
          request_granted ⟨state, hs, hrequest⟩, ?_, ?_⟩
        · intro hrefused
          rcases hcase with ⟨hi, _⟩ | ⟨_, rfl⟩ | ⟨hi, _⟩
          · rw [hi] at hreport
            cases hreport
          · rw [hnext, hs]
          · rw [hi] at hreport
            cases hreport
            cases hrefused
        · intro hrefused hrequest
          rw [hnext] at hrequest
          have hkept : state.needsAction = false := by
            rcases hcase with ⟨hi, _⟩ | ⟨hi, _⟩ | ⟨_, rfl | ⟨result, rfl⟩⟩
            · rw [hi] at hreport
              cases hreport
            · rw [hi] at hreport
              cases hreport
              cases hrefused
            · exact (begun_hasRequest hrequest).1
            · exact (finished_hasRequest hrequest).1
          rw [hneeds] at hkept
          cases hkept
      · rintro earlier later rfl hheld
        rw [Machine.after_append]
        rcases held_after (organizerMachine.after none earlier) later hheld with
          hh | ⟨before, call, after, he, hout⟩
        · exact .inl hh
        · refine .inr ⟨before, call, after, he, ?_⟩
          rw [Machine.output, Machine.after_append]
          exact hout

def sampleOrganizer : OrganizerRecovery where
  providerId := "local"

def sampleProvider : ProviderView :=
  ⟨some "local", some true⟩

/-- An authentication failure, and the request to retry it. -/
def sampleHold : List OrganizerCall :=
  [.run sampleOrganizer 0 none
    (.completed { decision := .failed, reasonCode := "AUTH_FAILED" } false),
    .requestAuthRetry sampleOrganizer sampleProvider 1 none]

theorem invocation_respects_hold_sample :
    Held (organizerMachine.after none sampleHold) ∧
      RetryGranted sampleOrganizer (some sampleProvider) sampleHold false
        (organizerMachine.after none (sampleHold ++ [.run sampleOrganizer 300000000
          (some sampleProvider) (.interrupted true)])) := by
  have hheld : Held (organizerMachine.after none sampleHold) := ⟨_, rfl, by decide⟩
  have hinvoked : (organizerMachine.output none sampleHold (.run sampleOrganizer 300000000
      (some sampleProvider) (.interrupted true))).invocation = some ⟨true, false⟩ := by
    decide
  have h := invocation_respects_hold sampleHold hinvoked
  exact ⟨hheld, h.2.1 hheld⟩

end ExternalIntelligence
