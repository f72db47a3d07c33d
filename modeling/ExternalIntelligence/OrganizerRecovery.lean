import ExternalIntelligence.BudgetLedger

namespace ExternalIntelligence
set_option autoImplicit true

inductive Verdict where
  | yes
  | no
  | deferred
  | failed
deriving DecidableEq, Repr

/-- What the recovery reads and writes of a gate decision. -/
structure GateDecision where
  decision : Verdict
  reasonCode : String
  providerId : String := ""
  retryAfterSeconds : Option Nat := none
  nextEligibleAt : Option Int := none
deriving DecidableEq, Repr

def GateDecision.semantic (result : GateDecision) : Bool :=
  result.decision == .yes || result.decision == .no

structure RetryRequest where
  providerId : String
  requestedAt : Int
  configFingerprint : String
deriving DecidableEq, Repr

/-- The hold state of one organizer; its times are instants in microseconds. -/
structure OrganizerState where
  providerId : String
  attempts : Nat := 0
  malformedAttempts : Nat := 0
  needsAction : Bool := false
  reasonCode : String := "READY"
  nextEligibleAt : Option Int := none
  configFingerprint : String
  retryRequest : Option RetryRequest := none
  retryConsumed : Bool := false
deriving DecidableEq, Repr

/-- One handle on the state file. -/
structure OrganizerRecovery where
  providerId : String
  malformedLimit : Int := 3
  configFingerprint : String := ""
deriving DecidableEq, Repr

/-- The attributes of a provider object, each possibly absent. -/
structure ProviderView where
  providerId : Option String
  enabled : Option Bool
deriving DecidableEq, Repr

/-- `[A-Za-z0-9_.:-]{1,96}` -/
def isReasonText (s : String) : Bool :=
  decide (1 ≤ (Text.chars s).length ∧ (Text.chars s).length ≤ 96) &&
    (Text.chars s).all fun c =>
      isAsciiLetter c || Text.isDigit c || (Text.chars "_.:-").contains c

def isFingerprint (s : String) : Bool :=
  s == "" || isHash s

/-- The checks `_read` makes of a stored state. -/
def OrganizerState.valid (handle : OrganizerRecovery) (state : OrganizerState) : Bool :=
  state.providerId == handle.providerId && isReasonText state.reasonCode &&
    isFingerprint state.configFingerprint &&
    state.retryRequest.all fun request =>
      request.providerId == handle.providerId && isFingerprint request.configFingerprint &&
        request.configFingerprint == state.configFingerprint

def readOrganizer (handle : OrganizerRecovery) (file : Option OrganizerState) :
    Except Raised OrganizerState :=
  match file with
  | none => .ok
    { providerId := handle.providerId
      configFingerprint := handle.configFingerprint }
  | some state =>
    if state.valid handle then .ok state else .error (valueError "ORGANIZER_STATE_INVALID")

/-- The number of seconds to wait after an attempt. -/
def retryDelay (attempt : Nat) : Int :=
  [300, 900, 3600, 21600].getD (min (attempt - 1) 3) 21600

def nextRetry (now : Int) (attempt : Nat) (deadline : Option Int) : Int :=
  let due := now + 1000000 * retryDelay attempt
  match deadline with
  | none => due
  | some d => max due d

/-- Whether a run may invoke its operation, and then whether it is a retry; or its deferral. -/
def admission (handle : OrganizerRecovery) (state : OrganizerState) (now : Int)
    (retryProvider : Option ProviderView) : Except GateDecision Bool :=
  let due := state.nextEligibleAt
  let defer (next : Option Int) : GateDecision :=
    { decision := .deferred
      reasonCode := state.reasonCode
      providerId := handle.providerId
      nextEligibleAt := next }
  if state.needsAction then
    let sameProvider := retryProvider.any fun p => p.providerId == some handle.providerId
    let enabled := sameProvider && retryProvider.any fun p => p.enabled != some false
    let sameBinding := (state.configFingerprint == "" && handle.configFingerprint == "") ||
      (state.configFingerprint != "" && handle.configFingerprint == state.configFingerprint)
    let eligible := state.reasonCode == "AUTH_FAILED" || state.retryConsumed
    if state.retryRequest.isNone || !enabled || !sameBinding || !eligible then
      .error (defer (if state.retryRequest.isSome then due
        else some (max (due.getD now) (nextRetry now 4 none))))
    else if due.any (now < ·) then .error (defer due)
    else .ok true
  else if due.any (now < ·) then .error (defer due)
  else .ok false

/-- The state a run writes before it invokes its operation. -/
def OrganizerState.begun (state : OrganizerState) (now : Int) (retry : Bool) : OrganizerState :=
  { state with
    attempts := state.attempts + 1
    retryRequest := if retry then none else state.retryRequest
    retryConsumed := retry || state.retryConsumed
    reasonCode := "PROVIDER_INTERRUPTED"
    nextEligibleAt := some (nextRetry now (state.attempts + 1) none) }

/-- The state a run writes for the result of its operation. -/
def OrganizerState.finished (state : OrganizerState) (handle : OrganizerRecovery) (now : Int)
    (retry : Bool) (result : GateDecision) : OrganizerState :=
  if result.semantic then
    { state with
      attempts := 0
      malformedAttempts := 0
      needsAction := false
      reasonCode := "READY"
      nextEligibleAt := none
      retryRequest := none
      retryConsumed := false }
  else
    let reason := if isReasonText result.reasonCode then result.reasonCode else "PROVIDER_FAILED"
    let malformed := state.malformedAttempts + if reason = "MALFORMED_RESPONSE" then 1 else 0
    let needsAction := retry || reason == "AUTH_FAILED" || decide (handle.malformedLimit ≤ malformed)
    let deadline := match result.retryAfterSeconds with
      | none => result.nextEligibleAt
      | some seconds => some (max (result.nextEligibleAt.getD now) (now + 1000000 * seconds))
    { state with
      reasonCode := reason
      malformedAttempts := malformed
      needsAction
      retryConsumed := needsAction && state.retryConsumed
      nextEligibleAt := some (nextRetry now state.attempts deadline) }

/-- What becomes of a run once it has written its cooldown: it ends before or after the operation
is invoked and writes nothing more, or the operation completes, perhaps by a refused admission. -/
inductive RunOutcome where
  | interrupted (invoked : Bool)
  | completed (result : GateDecision) (admissionRefused : Bool)
deriving DecidableEq, Repr

structure Invocation where
  retry : Bool
  refused : Bool
deriving DecidableEq, Repr

/-- The decision of a run that returns one, and its invocation of the operation, if any. -/
structure RunReport where
  decision : Option GateDecision
  invocation : Option Invocation
deriving DecidableEq, Repr

def OrganizerRecovery.run (handle : OrganizerRecovery) (file : Option OrganizerState) (now : Int)
    (retryProvider : Option ProviderView) (outcome : RunOutcome) :
    Except Raised (RunReport × Option OrganizerState) := do
  let state ← readOrganizer handle file
  match admission handle state now retryProvider with
  | .error deferral => pure (⟨some deferral, none⟩, file)
  | .ok retry =>
    let begun := state.begun now retry
    match outcome with
    | .interrupted invoked =>
      pure (⟨none, if invoked then some ⟨retry, false⟩ else none⟩, some begun)
    | .completed result admissionRefused =>
      if !result.semantic && admissionRefused then
        pure (⟨some result, some ⟨retry, true⟩⟩, some state)
      else
        let finished := begun.finished handle now retry result
        let returned := if result.semantic then result
          else { result with nextEligibleAt := finished.nextEligibleAt }
        pure (⟨some returned, some ⟨retry, false⟩⟩, some finished)

structure RetryResult where
  status : String
  reasonCode : String
  providerId : String
  nextEligibleAt : Option Int
deriving DecidableEq, Repr

def retryResult (handle : OrganizerRecovery) (state : OrganizerState) (status reason : String) :
    RetryResult where
  status
  reasonCode := reason
  providerId := handle.providerId
  nextEligibleAt := state.nextEligibleAt

/-- The answer to a retry request, and the state it persists if it is accepted. -/
def retryRequestResult (handle : OrganizerRecovery) (state : OrganizerState)
    (provider : ProviderView) (now : Int) (fingerprint : Option String) :
    RetryResult × Option OrganizerState :=
  let refuseWith (status reason : String) : RetryResult × Option OrganizerState :=
    (retryResult handle state status reason, none)
  let saved := state.configFingerprint
  let binding := fingerprint.getD saved
  if provider.providerId ≠ some handle.providerId then
    refuseWith "UNAVAILABLE" "ORGANIZER_PROVIDER_MISMATCH"
  else if provider.enabled = some false then refuseWith "DISABLED" "PROVIDER_DISABLED"
  else if fingerprint.any fun f => !isHash f then
    refuseWith "UNAVAILABLE" "ORGANIZER_BINDING_INVALID"
  else if saved ≠ "" ∧ fingerprint = none then
    refuseWith "UNAVAILABLE" "ORGANIZER_BINDING_UNAVAILABLE"
  else if saved ≠ "" ∧ binding ≠ saved then
    refuseWith "UNAVAILABLE" "ORGANIZER_BINDING_MISMATCH"
  else
    match state.retryRequest with
    | some request =>
      if fingerprint ≠ none ∧ request.configFingerprint ≠ binding then
        refuseWith "UNAVAILABLE" "ORGANIZER_BINDING_MISMATCH"
      else refuseWith "ALREADY_REQUESTED" "AUTH_RETRY_ALREADY_REQUESTED"
    | none =>
      if !state.needsAction then refuseWith "NO_ACTION" "ORGANIZER_READY"
      else if !(state.reasonCode == "AUTH_FAILED" || state.retryConsumed) then
        refuseWith "NO_ACTION" "AUTH_RETRY_NOT_APPLICABLE"
      else
        (retryResult handle state "RETRY_REQUESTED" "AUTH_RETRY_REQUESTED",
          some { state with
            retryRequest := some ⟨handle.providerId, now, binding⟩
            configFingerprint := if saved = "" then binding else saved })

def OrganizerRecovery.requestAuthRetry (handle : OrganizerRecovery) (file : Option OrganizerState)
    (provider : ProviderView) (now : Int) (fingerprint : Option String) :
    RetryResult × Option OrganizerState :=
  match readOrganizer handle file with
  | .error _ => (⟨"UNAVAILABLE", "ORGANIZER_STATE_INVALID", handle.providerId, none⟩, file)
  | .ok state =>
    let (result, written) := retryRequestResult handle state provider now fingerprint
    (result, written.or file)

/-- Whether a recovery released the organizer, and the file after it. -/
def OrganizerRecovery.recover (handle : OrganizerRecovery) (file : Option OrganizerState)
    (provider : ProviderView) (verifiedAuth : Bool) (fingerprint : Option String) :
    Except Raised (Bool × Option OrganizerState) := do
  refuse (provider.providerId != some handle.providerId)
    (valueError "ORGANIZER_RECOVERY_PROVIDER_MISMATCH")
  refuse (fingerprint.any fun f => !isHash f) (valueError "ORGANIZER_RECOVERY_EVIDENCE_INVALID")
  let state ← readOrganizer handle file
  let changed := state.configFingerprint != "" &&
    fingerprint.any fun f => f != state.configFingerprint
  if !verifiedAuth && !changed then
    if fingerprint.isSome && state.configFingerprint == "" then
      pure (false, some { state with configFingerprint := fingerprint.getD "" })
    else pure (false, file)
  else
    pure (true, some
      { state with
        needsAction := false
        nextEligibleAt := none
        attempts := 0
        malformedAttempts := 0
        reasonCode := if verifiedAuth then "AUTH_VERIFIED" else "CONFIG_CHANGED_RETRY"
        retryRequest := none
        retryConsumed := false
        configFingerprint := fingerprint.getD state.configFingerprint })

/-- A call on the state file, each by a handle of its own. -/
inductive OrganizerCall where
  | run (handle : OrganizerRecovery) (now : Int) (retryProvider : Option ProviderView)
      (outcome : RunOutcome)
  | requestAuthRetry (handle : OrganizerRecovery) (provider : ProviderView) (now : Int)
      (fingerprint : Option String)
  | recover (handle : OrganizerRecovery) (provider : ProviderView) (verifiedAuth : Bool)
      (fingerprint : Option String)
deriving DecidableEq, Repr

inductive OrganizerAnswer where
  | raised (error : Raised)
  | ran (report : RunReport)
  | requested (result : RetryResult)
  | recovered (released : Bool)
deriving DecidableEq, Repr

def organizerStep (file : Option OrganizerState) :
    OrganizerCall → Option OrganizerState × OrganizerAnswer
  | .run handle now retryProvider outcome =>
    match handle.run file now retryProvider outcome with
    | .error e => (file, .raised e)
    | .ok (report, next) => (next, .ran report)
  | .requestAuthRetry handle provider now fingerprint =>
    let (result, next) := handle.requestAuthRetry file provider now fingerprint
    (next, .requested result)
  | .recover handle provider verifiedAuth fingerprint =>
    match handle.recover file provider verifiedAuth fingerprint with
    | .error e => (file, .raised e)
    | .ok (released, next) => (next, .recovered released)

def organizerMachine : Machine (Option OrganizerState) OrganizerCall OrganizerAnswer where
  step := organizerStep

end ExternalIntelligence
