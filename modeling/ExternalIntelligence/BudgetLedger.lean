import ExternalIntelligence.Changeset
import ExternalIntelligence.Machine

namespace ExternalIntelligence
set_option autoImplicit true

/-- A finite decimal number, or none for an infinity or a NaN. -/
structure Decimal where
  coefficient : Int
  exponent : Int
deriving DecidableEq, Repr

/-- The quotient rounded to the nearest integer, ties to even. -/
def halfEven (n : Int) (d : Nat) : Int :=
  let q := n / d
  let r := n % d
  if 2 * r < d then q else if d < 2 * r then q + 1 else if q % 2 = 0 then q else q + 1

/-- A number in units of 0.00000001. -/
def quantize (value : Decimal) : Int :=
  if -8 ≤ value.exponent then value.coefficient * 10 ^ (value.exponent + 8).toNat
  else halfEven value.coefficient (10 ^ (-8 - value.exponent).toNat)

/-- A cost has at most 28 digits, the precision of the decimal context. -/
def costLimit : Int :=
  10 ^ 28

/-- `decimal_cost` of a cost that is a number of units. -/
def unitCost (units : Int) : Except Raised Int :=
  if units < 0 then .error (valueError "COST_INVALID")
  else if costLimit ≤ units then .error ⟨"InvalidOperation", ""⟩
  else .ok units

def decimalCost : Option Decimal → Except Raised Int
  | none => .error (valueError "COST_INVALID")
  | some value =>
    if value.coefficient < 0 then .error (valueError "COST_INVALID")
    else unitCost (quantize value)

structure DateTime where
  instant : Int
  aware : Bool
deriving DecidableEq, Repr

def requireAware (moment : DateTime) : Except Raised Int :=
  if moment.aware then .ok moment.instant else .error (valueError "DATETIME_TIMEZONE_REQUIRED")

/-- The date of the UTC text of an instant. -/
def utcDay (P : Platform) (instant : Int) : String :=
  takeText 10 (P.isoformat instant)

/-- Tokens and a cost in units of 0.00000001. -/
structure Usage where
  inputTokens : Int
  outputTokens : Int
  cost : Int
deriving DecidableEq, Repr

structure Counter where
  inputTokens : Int
  outputTokens : Int
  cost : Int
  day : String
deriving DecidableEq, Repr

def newCounter : Counter where
  inputTokens := 0
  outputTokens := 0
  cost := 0
  day := ""

/-- `_add`: a counter with a usage added on a day. -/
def Counter.add (counter : Counter) (usage : Usage) (day : String) : Except Raised Counter :=
  (unitCost (counter.cost + usage.cost)).map fun cost =>
    { inputTokens := counter.inputTokens + usage.inputTokens
      outputTokens := counter.outputTokens + usage.outputTokens
      cost
      day }

structure BudgetPolicy where
  perRunInputTokens : Int := 20000
  perRunOutputTokens : Int := 4000
  perRunCost : Int := 0
  perDayInputTokens : Int := 100000
  perDayOutputTokens : Int := 20000
  perDayCost : Int := 0
  perCandidateInputTokens : Int := 12000
  perCandidateOutputTokens : Int := 3000
  perCandidateCost : Int := 0
  retryLimit : Nat := 4
  cloudApiEnabled : Bool := false
  cloudSpendCap : Int := 0
deriving DecidableEq, Repr

/-- One handle on a ledger file. -/
structure BudgetLedger where
  policy : BudgetPolicy := {}
  runId : String
  candidateId : String := ""
  purpose : String := "inheritance-gate"
  disabledProviders : List String := []
deriving DecidableEq, Repr

structure Reservation where
  providerId : String
  day : String
  entryKey : String
  runKey : String
  candidateKey : String
  reserved : Usage
  settled : Bool
deriving DecidableEq, Repr

/-- What a ledger file holds. -/
structure LedgerData where
  entries : List (String × Counter) := []
  runs : List (String × Counter) := []
  candidates : List (String × Counter) := []
  reservations : List (String × Reservation) := []
deriving DecidableEq, Repr

structure BudgetResult where
  allowed : Bool
  reasonCode : String
  providerId : String
  purpose : String
  usage : Usage
  runInputTokens : Int
  dayInputTokens : Int
  candidateInputTokens : Int
  runCost : Int
  dayCost : Int
  candidateCost : Int
  remaining : List (String × Value)

def safeId (value : String) : Except Raised String :=
  if value = "" ∨ 200 < value.length then .error (valueError "BUDGET_ID_INVALID") else .ok value

def schemaInvalidLedger : Raised :=
  valueError "BUDGET_LEDGER_SCHEMA_INVALID"

def checkCounter (p : String × Counter) : Except Raised Unit := do
  refuse (decide (p.2.inputTokens < 0)) schemaInvalidLedger
  refuse (decide (p.2.outputTokens < 0)) schemaInvalidLedger
  let _ ← unitCost p.2.cost
  pure ()

/-- `_read`: the data of a ledger file, empty when there is none. -/
def readLedger : Option LedgerData → Except Raised LedgerData
  | none => .ok {}
  | some data => do
    data.entries.forM checkCounter
    data.runs.forM checkCounter
    data.candidates.forM checkCounter
    pure data

/-- `_counter`: a stored counter of the day, or a new one. -/
def counterOf (stored : Option Counter) (day : String) : Except Raised Counter :=
  match stored with
  | none => .ok newCounter
  | some counter =>
    if counter.day ≠ day then .ok newCounter
    else (unitCost counter.cost).map fun cost => { counter with cost }

/-- The arguments of `consume`. -/
structure ConsumeCall where
  providerId : String
  inputTokens : Int
  outputTokens : Int
  cost : Option Decimal
  now : DateTime
  purpose : Option String := none
  candidateId : Option String := none
  runId : Option String := none
  deadlineMs : Option Int := none
  attemptId : Option String := none
deriving DecidableEq, Repr

/-- A consume call whose arguments have passed their checks. -/
structure Request where
  providerId : String
  usage : Usage
  purpose : String
  runId : String
  candidateId : String
  day : String
  attemptId : Option String
deriving DecidableEq, Repr

def Request.entryKey (request : Request) : String :=
  request.providerId ++ "|" ++ request.day ++ "|" ++ request.purpose

def Request.runKey (request : Request) : String :=
  request.runId ++ "|" ++ request.providerId ++ "|" ++ request.purpose

def Request.candidateKey (P : Platform) (request : Request) : String :=
  P.sha256 (Text.chars (orElse request.candidateId "<none>"))

/-- The row that reserves a request. -/
def Request.reservation (P : Platform) (request : Request) : Reservation where
  providerId := request.providerId
  day := request.day
  entryKey := request.entryKey
  runKey := request.runKey
  candidateKey := request.candidateKey P
  reserved := request.usage
  settled := false

def Request.result (request : Request) (allowed : Bool) (reason : String)
    (run day candidate : Counter) (remaining : List (String × Value)) : BudgetResult where
  allowed
  reasonCode := reason
  providerId := request.providerId
  purpose := request.purpose
  usage := request.usage
  runInputTokens := run.inputTokens
  dayInputTokens := day.inputTokens
  candidateInputTokens := candidate.inputTokens
  runCost := run.cost
  dayCost := day.cost
  candidateCost := candidate.cost
  remaining

/-- The checks of a call's arguments. -/
def ConsumeCall.request (P : Platform) (ledger : BudgetLedger) (call : ConsumeCall) :
    Except Raised Request := do
  refuse (call.providerId == "" || decide (100 < call.providerId.length))
    (valueError "PROVIDER_ID_INVALID")
  refuse (decide (call.inputTokens < 0) || decide (call.outputTokens < 0))
    (valueError "TOKEN_COUNT_INVALID")
  let moment ← requireAware call.now
  let amount ← decimalCost call.cost
  let purpose ← safeId (orElse (call.purpose.getD "") ledger.purpose)
  let runId ← safeId (orElse (call.runId.getD "") ledger.runId)
  let candidateId := call.candidateId.getD ledger.candidateId
  refuse (decide (200 < candidateId.length)) (valueError "BUDGET_CANDIDATE_INVALID")
  pure
    { providerId := call.providerId
      usage := ⟨call.inputTokens, call.outputTokens, amount⟩
      purpose
      runId
      candidateId
      day := utcDay P moment
      attemptId := call.attemptId }

/-- The usage of all counters of a list, added on a day. -/
def totalOf (counters : List (String × Counter)) (day : String) : Except Raised Counter :=
  counters.foldlM (fun total p =>
    total.add ⟨p.2.inputTokens, p.2.outputTokens, p.2.cost⟩ day) newCounter

/-- Why a policy refuses a request that would leave these totals, and the scope of the cap. -/
def refusal (policy : BudgetPolicy) (request : Request) (capped : Bool)
    (run day candidate : Counter) : Option (String × Option String) :=
  if capped then some ("ATTEMPT_CAP_EXCEEDED", none)
  else if policy.perRunInputTokens < run.inputTokens ∨
      policy.perRunOutputTokens < run.outputTokens then
    some ("TOKEN_CAP_EXCEEDED", some "per_run")
  else if policy.perDayInputTokens < day.inputTokens ∨
      policy.perDayOutputTokens < day.outputTokens then
    some ("TOKEN_CAP_EXCEEDED", some "per_day")
  else if policy.perCandidateInputTokens < candidate.inputTokens ∨
      policy.perCandidateOutputTokens < candidate.outputTokens then
    some ("TOKEN_CAP_EXCEEDED", some "per_candidate")
  else if policy.perRunCost < run.cost then some ("COST_CAP_EXCEEDED", some "per_run")
  else if policy.perDayCost < day.cost then some ("COST_CAP_EXCEEDED", some "per_day")
  else if policy.perCandidateCost < candidate.cost then
    some ("COST_CAP_EXCEEDED", some "per_candidate")
  else if request.providerId = "cloud-api" ∧ (policy.cloudApiEnabled = false ∨
      policy.cloudSpendCap < request.usage.cost ∨ policy.cloudSpendCap < day.cost) then
    some ("PROVIDER_DISABLED", some "cloud_api")
  else none

/-- The data a request is charged on: its entry, run and candidate counters and its row. -/
def LedgerData.charged (P : Platform) (data : LedgerData) (request : Request)
    (entry run candidate : Counter) : LedgerData where
  entries := Dict.set request.entryKey entry data.entries
  runs := Dict.set request.runKey run data.runs
  candidates := Dict.set (request.candidateKey P) candidate data.candidates
  reservations :=
    match request.attemptId with
    | none => data.reservations
    | some attemptId => Dict.set attemptId (request.reservation P) data.reservations

/-- The part of `consume` under the lock: its result, and the data it writes when it admits. -/
def consumeLocked (P : Platform) (policy : BudgetPolicy) (file : Option LedgerData)
    (request : Request) : Except Raised (BudgetResult × Option LedgerData) := do
  let data ← readLedger file
  let day := request.day
  if (request.attemptId.bind fun attemptId => data.reservations.lookup attemptId).isSome then
    pure (request.result false "ATTEMPT_ALREADY_RESERVED" newCounter newCounter newCounter [], none)
  else do
    let entry ← counterOf (data.entries.lookup request.entryKey) day
    let run := (data.runs.lookup request.runKey).getD newCounter
    let candidate ← counterOf (data.candidates.lookup (request.candidateKey P)) day
    let totalDay ← totalOf (data.entries.filter fun p => p.2.day = day) day
    let totalRun ← totalOf (data.runs.filter fun p =>
      (Text.chars (request.runId ++ "|")).isPrefixOf (Text.chars p.1)) day
    let nextRun ← totalRun.add request.usage day
    let nextDay ← totalDay.add request.usage day
    let nextCandidate ← candidate.add request.usage day
    let attempts := data.reservations.countP fun p =>
      p.2.day = day ∧ p.2.candidateKey = request.candidateKey P
    let capped := request.attemptId.isSome && decide (policy.retryLimit ≤ attempts)
    match refusal policy request capped nextRun nextDay nextCandidate with
    | some (reason, scope) =>
      pure (request.result false reason run entry candidate
        (scope.toList.map fun s => ("scope", .str s)), none)
    | none => do
      let entry ← entry.add request.usage day
      let run ← run.add request.usage day
      let remaining := [
        ("per_run_input_tokens", .int (max 0 (policy.perRunInputTokens - nextRun.inputTokens))),
        ("per_day_input_tokens", .int (max 0 (policy.perDayInputTokens - nextDay.inputTokens))),
        ("per_candidate_input_tokens",
          .int (max 0 (policy.perCandidateInputTokens - nextCandidate.inputTokens)))]
      pure (request.result true "ALLOW" nextRun nextDay nextCandidate remaining,
        some (data.charged P request entry run nextCandidate))

def consume (P : Platform) (ledger : BudgetLedger) (file : Option LedgerData)
    (call : ConsumeCall) : Except Raised (BudgetResult × Option LedgerData) := do
  let request ← call.request P ledger
  if ledger.disabledProviders.contains request.providerId then
    pure (request.result false "PROVIDER_DISABLED" newCounter newCounter newCounter [], none)
  else if call.deadlineMs.any (· ≤ 0) then
    pure (request.result false "DEADLINE_EXCEEDED" newCounter newCounter newCounter [], none)
  else consumeLocked P ledger.policy file request

/-- A budget of one attempt; its token counts and cost were checked when it was made. -/
structure InferenceBudget where
  maxInputTokens : Nat
  maxOutputTokens : Nat
  maxCost : Option Decimal
  deadlineMs : Nat
  purpose : String
  candidateId : String
  runId : String
deriving DecidableEq, Repr

/-- The consume call that `reserve` makes once the attempt's id is checked. -/
def reserveCall (ledger : BudgetLedger) (attemptId providerId : String) (budget : InferenceBudget)
    (now : DateTime) : ConsumeCall where
  providerId
  inputTokens := budget.maxInputTokens
  outputTokens := budget.maxOutputTokens
  cost := budget.maxCost
  now
  purpose := some budget.purpose
  candidateId := some budget.candidateId
  runId := some (orElse budget.runId ledger.runId)
  deadlineMs := some budget.deadlineMs
  attemptId := some attemptId

def reserve (P : Platform) (ledger : BudgetLedger) (file : Option LedgerData)
    (attemptId providerId : String) (budget : InferenceBudget) (now : DateTime) :
    Except Raised (BudgetResult × Option LedgerData) := do
  let attemptId ← safeId attemptId
  consume P ledger file (reserveCall ledger attemptId providerId budget now)

/-- A provider's result; a cost it has is a valid cost. -/
structure ProviderResult where
  providerId : String
  ok : Bool
  inputTokens : Nat
  outputTokens : Nat
  cost : Nat
  usageKnown : Bool
  costKnown : Bool
  costValid : (cost : Int) < costLimit
deriving DecidableEq

/-- What a reservation is settled to: unless the usage is known, no less than was reserved. -/
def ProviderResult.actual (result : ProviderResult) (reserved : Usage) : Usage :=
  let known := result.ok && result.usageKnown
  { inputTokens := if known then result.inputTokens else max result.inputTokens reserved.inputTokens
    outputTokens :=
      if known then result.outputTokens else max result.outputTokens reserved.outputTokens
    cost := if known && result.costKnown then result.cost else max result.cost reserved.cost }

inductive Section where
  | entries
  | runs
  | candidates
deriving DecidableEq, Repr

def LedgerData.counters (data : LedgerData) : Section → List (String × Counter)
  | .entries => data.entries
  | .runs => data.runs
  | .candidates => data.candidates

def LedgerData.setCounter (data : LedgerData) (key : String) (counter : Counter) :
    Section → LedgerData
  | .entries => { data with entries := Dict.set key counter data.entries }
  | .runs => { data with runs := Dict.set key counter data.runs }
  | .candidates => { data with candidates := Dict.set key counter data.candidates }

def Reservation.key (row : Reservation) : Section → String
  | .entries => row.entryKey
  | .runs => row.runKey
  | .candidates => row.candidateKey

/-- Corrects one counter of a reservation, unless its section is kept by day and the counter is
of another day. -/
def settleSection (row : Reservation) (actual : Usage) (data : LedgerData) (part : Section) :
    Except Raised LedgerData :=
  match (data.counters part).lookup (row.key part) with
  | none => .error ⟨"KeyError", row.key part⟩
  | some counter =>
    if part ≠ .runs ∧ counter.day ≠ row.day then .ok data
    else
      (counter.add
        { inputTokens := actual.inputTokens - row.reserved.inputTokens
          outputTokens := actual.outputTokens - row.reserved.outputTokens
          cost := actual.cost - row.reserved.cost } row.day).map fun counter =>
        data.setCounter (row.key part) counter part

/-- The data `settle` writes, if any. -/
def settle (file : Option LedgerData) (attemptId : String) (result : ProviderResult)
    (now : DateTime) : Except Raised (Option LedgerData) := do
  let _ ← requireAware now
  let data ← readLedger file
  match data.reservations.lookup attemptId with
  | none => .error (valueError "BUDGET_RESERVATION_MISMATCH")
  | some row =>
    if row.providerId ≠ result.providerId then
      .error (valueError "BUDGET_RESERVATION_MISMATCH")
    else if row.settled then pure none
    else do
      let data ← [.entries, .runs, .candidates].foldlM
        (settleSection row (result.actual row.reserved)) data
      pure (some { data with
        reservations := Dict.set attemptId { row with settled := true } data.reservations })

inductive BudgetCall where
  | consume (ledger : BudgetLedger) (call : ConsumeCall)
  | reserve (ledger : BudgetLedger) (attemptId providerId : String) (budget : InferenceBudget)
      (now : DateTime)
  | settle (attemptId : String) (result : ProviderResult) (now : DateTime)

inductive BudgetAnswer where
  | result (result : BudgetResult)
  | settled

/-- The ledger file under calls of any of its handles; a call that raises writes nothing. -/
def budgetStep (P : Platform) (file : Option LedgerData) :
    BudgetCall → Option LedgerData × Except Raised BudgetAnswer
  | .consume ledger call => answer (consume P ledger file call)
  | .reserve ledger attemptId providerId budget now =>
    answer (ExternalIntelligence.reserve P ledger file attemptId providerId budget now)
  | .settle attemptId result now =>
    match ExternalIntelligence.settle file attemptId result now with
    | .error e => (file, .error e)
    | .ok written => (written.or file, .ok .settled)
where
  answer : Except Raised (BudgetResult × Option LedgerData) →
      Option LedgerData × Except Raised BudgetAnswer
    | .error e => (file, .error e)
    | .ok (result, written) => (written.or file, .ok (.result result))

def budgetMachine (P : Platform) :
    Machine (Option LedgerData) BudgetCall (Except Raised BudgetAnswer) where
  step := budgetStep P

end ExternalIntelligence
