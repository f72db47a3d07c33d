import ExternalIntelligence.BudgetLedger
import ExternalIntelligence.JournalReading
import Mathlib.Algebra.Order.BigOperators.Group.List

namespace ExternalIntelligence
set_option autoImplicit true

/-- An admitted call: the counters it is charged on and what it is charged. -/
structure Charge where
  attemptId : Option String
  row : Reservation
  settled : Option Usage
deriving DecidableEq, Repr

/-- The reserved amount, once settled the settled one. -/
def Charge.amount (charge : Charge) : Usage :=
  charge.settled.getD charge.row.reserved

/-- Run counters are kept over days, the others by day. -/
def dayOf (part : Section) (day : String) : String :=
  match part with
  | .runs => ""
  | _ => day

/-- The charges on a counter after one more: they start over when the day changes. -/
def extend (part : Section) (block : List Charge) (charge : Charge) : List Charge :=
  if ∀ other ∈ block, dayOf part other.row.day = dayOf part charge.row.day then block ++ [charge]
  else [charge]

/-- The charges on the counter a key has now. -/
def chargesUnder (part : Section) (key : String) (charges : List Charge) : List Charge :=
  charges.foldl (fun block charge =>
    if charge.row.key part = key then extend part block charge else block) []

/-- The sum of what is charged. -/
def totals (charges : List Charge) : Usage where
  inputTokens := (charges.map (·.amount.inputTokens)).sum
  outputTokens := (charges.map (·.amount.outputTokens)).sum
  cost := (charges.map (·.amount.cost)).sum

def Counter.usage (counter : Counter) : Usage :=
  ⟨counter.inputTokens, counter.outputTokens, counter.cost⟩

def Request.charge (P : Platform) (request : Request) : Charge where
  attemptId := request.attemptId
  row := request.reservation P
  settled := none

/-- The charge of an attempt once it is settled. -/
def Charge.settle (attemptId : String) (result : ProviderResult) (charge : Charge) : Charge :=
  if charge.attemptId = some attemptId ∧ charge.settled = none then
    { charge with settled := some (result.actual charge.row.reserved) }
  else charge

/-- What a call that was answered adds to the charges. -/
def recordCharge (P : Platform) (charges : List Charge) (call : BudgetCall)
    (answer : Except Raised BudgetAnswer) : List Charge :=
  match call, answer with
  | .consume ledger call, .ok (.result result) => admitted ledger call result
  | .reserve ledger attemptId providerId budget now, .ok (.result result) =>
    admitted ledger (reserveCall ledger attemptId providerId budget now) result
  | .settle attemptId result _, .ok .settled => charges.map (Charge.settle attemptId result)
  | _, _ => charges
where
  admitted (ledger : BudgetLedger) (call : ConsumeCall) (result : BudgetResult) : List Charge :=
    match result.allowed, call.request P ledger with
    | true, .ok request => charges ++ [request.charge P]
    | _, _ => charges

/-- A ledger file and the charges of the calls that were admitted. -/
structure Book where
  file : Option LedgerData
  charges : List Charge

/-- The ledger's machine, with the charges written down beside it. -/
def bookMachine (P : Platform) : Machine Book BudgetCall (Except Raised BudgetAnswer) where
  step book call :=
    let next := (budgetMachine P).step book.file call
    (⟨next.1, recordCharge P book.charges call next.2⟩, next.2)

def emptyBook : Book :=
  ⟨none, []⟩

def Book.data (book : Book) : LedgerData :=
  book.file.getD {}

theorem bookMachine_file (P : Platform) (book : Book) (calls : List BudgetCall) :
    ((bookMachine P).after book calls).file = (budgetMachine P).after book.file calls := by
  induction calls using List.reverseRecOn with
  | nil => rfl
  | append_singleton calls call ih =>
    rw [Machine.after_concat, Machine.after_concat, ← ih]
    rfl

/-- A charge whose counter was replaced, and whose day the counter has again. -/
def Displaced (charges : List Charge) (charge : Charge) (part : Section) : Prop :=
  charge ∉ chargesUnder part (charge.row.key part) charges ∧
    ∀ other ∈ chargesUnder part (charge.row.key part) charges,
      dayOf part other.row.day = dayOf part charge.row.day

/-- No call settles a charge on a counter that was replaced and brought back to its day. -/
def Book.Careful (book : Book) : BudgetCall → Prop
  | .settle attemptId _ _ => ∀ charge ∈ book.charges, charge.attemptId = some attemptId →
      charge.settled = none → ∀ part, ¬Displaced book.charges charge part
  | _ => True

theorem chargesUnder_concat (part : Section) (key : String) (charges : List Charge) (charge : Charge) :
    chargesUnder part key (charges ++ [charge]) =
      if charge.row.key part = key then extend part (chargesUnder part key charges) charge
      else chargesUnder part key charges := by
  rw [chargesUnder, List.foldl_append]
  rfl

theorem mem_extend {block : List Charge} (h : charge ∈ extend part block last) :
    charge ∈ block ∨ charge = last := by
  rw [extend] at h
  split at h
  · simpa using h
  · exact .inr (by simpa using h)

theorem last_mem_extend (part : Section) (block : List Charge) (last : Charge) :
    last ∈ extend part block last := by
  rw [extend]
  split <;> simp

theorem mem_chargesUnder {charges : List Charge} (h : charge ∈ chargesUnder part key charges) :
    charge ∈ charges ∧ charge.row.key part = key := by
  induction charges using List.reverseRecOn with
  | nil => simp [chargesUnder] at h
  | append_singleton charges last ih =>
    rw [chargesUnder_concat] at h
    split at h
    · rename_i hk
      rcases mem_extend h with h | rfl
      · exact ⟨List.mem_append_left _ (ih h).1, (ih h).2⟩
      · exact ⟨by simp, hk⟩
    · exact ⟨List.mem_append_left _ (ih h).1, (ih h).2⟩

theorem chargesUnder_sublist (part : Section) (key : String) (charges : List Charge) :
    (chargesUnder part key charges).Sublist charges := by
  induction charges using List.reverseRecOn with
  | nil => exact List.Sublist.refl _
  | append_singleton charges last ih =>
    rw [chargesUnder_concat]
    split
    · rw [extend]
      split
      · exact ih.append (List.Sublist.refl _)
      · exact (List.nil_sublist charges).append (List.Sublist.refl [last])
    · exact ih.trans (List.sublist_append_left _ _)

/-- A key that was charged has charges on the counter it has now. -/
theorem chargesUnder_ne_nil {charges : List Charge} (h : charge ∈ charges) (part : Section) :
    chargesUnder part (charge.row.key part) charges ≠ [] := by
  induction charges using List.reverseRecOn with
  | nil => cases h
  | append_singleton charges last ih =>
    rw [chargesUnder_concat]
    split
    · exact List.ne_nil_of_mem (last_mem_extend _ _ _)
    · rename_i hkey
      cases List.mem_append.1 h with
      | inl h => exact ih h
      | inr h =>
        rw [List.mem_singleton] at h
        exact (hkey (h ▸ rfl)).elim

theorem extend_map (f : Charge → Charge) (hf : ∀ charge, (f charge).row = charge.row)
    (part : Section) (block : List Charge) (last : Charge) :
    extend part (block.map f) (f last) = (extend part block last).map f := by
  simp only [extend, List.forall_mem_map, hf]
  split <;> simp

/-- What keeps the row of every charge keeps the blocks. -/
theorem chargesUnder_map (f : Charge → Charge) (hf : ∀ charge, (f charge).row = charge.row)
    (part : Section) (key : String) (charges : List Charge) :
    chargesUnder part key (charges.map f) = (chargesUnder part key charges).map f := by
  induction charges using List.reverseRecOn with
  | nil => rfl
  | append_singleton charges last ih =>
    rw [List.map_append, List.map_cons, List.map_nil, chargesUnder_concat, chargesUnder_concat, ih, hf,
      extend_map f hf]
    split <;> rfl

@[simp] theorem settle_row (attemptId : String) (result : ProviderResult) (charge : Charge) :
    (charge.settle attemptId result).row = charge.row := by
  rw [Charge.settle]
  split <;> rfl

@[simp] theorem settle_attemptId (attemptId : String) (result : ProviderResult)
    (charge : Charge) : (charge.settle attemptId result).attemptId = charge.attemptId := by
  rw [Charge.settle]
  split <;> rfl

theorem settle_of_ne {charge : Charge} (h : charge.attemptId ≠ some attemptId) :
    charge.settle attemptId result = charge :=
  if_neg fun hc => h hc.1

theorem unitCost_ok : unitCost units = .ok cost ↔ 0 ≤ units ∧ units < costLimit ∧ cost = units := by
  rw [unitCost]
  split
  · rename_i h
    simp only [reduceCtorEq, false_iff]
    omega
  · split
    · rename_i h
      simp only [reduceCtorEq, false_iff]
      omega
    · constructor
      · intro h
        cases h
        exact ⟨by omega, by omega, rfl⟩
      · rintro ⟨_, _, rfl⟩
        rfl

theorem Counter.add_ok {counter next : Counter} {usage : Usage} {day : String} (h : counter.add usage day = .ok next) :
    next.inputTokens = counter.inputTokens + usage.inputTokens ∧
      next.outputTokens = counter.outputTokens + usage.outputTokens ∧
      next.cost = counter.cost + usage.cost ∧ next.day = day ∧ next.cost < costLimit := by
  obtain ⟨cost, hc, rfl⟩ := Except.map_eq_ok.1 h
  obtain ⟨_, hlt, rfl⟩ := unitCost_ok.1 hc
  exact ⟨rfl, rfl, rfl, rfl, hlt⟩

/-- The counter a charge is added to. -/
def baseCounter (part : Section) (stored : Option Counter) (day : String) : Counter :=
  match stored with
  | none => newCounter
  | some counter => if dayOf part counter.day = dayOf part day then counter else newCounter

theorem counterOf_ok (hp : part ≠ .runs) (h : counterOf stored day = .ok counter) :
    counter = baseCounter part stored day := by
  have hday : ∀ d, dayOf part d = d := by
    intro d
    cases part with
    | runs => exact absurd rfl hp
    | entries => rfl
    | candidates => rfl
  cases stored with
  | none =>
    cases h
    rfl
  | some c =>
    rw [counterOf] at h
    simp only [baseCounter, hday]
    by_cases hd : c.day = day
    · rw [if_neg (not_not.2 hd)] at h
      obtain ⟨cost, hc, rfl⟩ := Except.map_eq_ok.1 h
      obtain ⟨_, _, rfl⟩ := unitCost_ok.1 hc
      rw [if_pos hd]
    · rw [if_pos hd] at h
      cases h
      rw [if_neg hd]

theorem baseCounter_runs (stored : Option Counter) (day : String) :
    baseCounter .runs stored day = stored.getD newCounter := by
  cases stored with
  | none => rfl
  | some c => rfl

theorem charged_counters (P : Platform) (data : LedgerData) (request : Request)
    (next : Section → Counter) (part : Section) :
    (data.charged P request (next .entries) (next .runs) (next .candidates)).counters part =
      Dict.set ((request.reservation P).key part) (next part) (data.counters part) := by
  cases part <;> rfl

/-- A counter for each part. -/
def partCounter (entry run candidate : Counter) : Section → Counter
  | .entries => entry
  | .runs => run
  | .candidates => candidate

/-- What a consume call under the lock does: nothing, or charge all three counters. -/
theorem consumeLocked_cases (h : consumeLocked P policy file request = .ok (result, written)) :
    (written = none ∧ result.allowed = false) ∨
      ∃ data, ∃ next : Section → Counter, readLedger file = .ok data ∧ result.allowed = true ∧
        (∀ attemptId, request.attemptId = some attemptId →
          data.reservations.lookup attemptId = none) ∧
        (∀ part, (baseCounter part ((data.counters part).lookup
          ((request.reservation P).key part)) request.day).add request.usage request.day =
            .ok (next part)) ∧
        written = some (data.charged P request (next .entries) (next .runs) (next .candidates)) := by
  rw [consumeLocked] at h
  obtain ⟨data, hread, h⟩ := Except.bind_eq_ok.1 h
  split at h
  · cases h
    exact .inl ⟨rfl, rfl⟩
  · rename_i hnew
    obtain ⟨entry, hentry, h⟩ := Except.bind_eq_ok.1 h
    obtain ⟨candidate, hcandidate, h⟩ := Except.bind_eq_ok.1 h
    obtain ⟨totalDay, _, h⟩ := Except.bind_eq_ok.1 h
    obtain ⟨totalRun, _, h⟩ := Except.bind_eq_ok.1 h
    obtain ⟨nextRun, _, h⟩ := Except.bind_eq_ok.1 h
    obtain ⟨nextDay, _, h⟩ := Except.bind_eq_ok.1 h
    obtain ⟨nextCandidate, hnextc, h⟩ := Except.bind_eq_ok.1 h
    dsimp only at h
    split at h
    · cases h
      exact .inl ⟨rfl, rfl⟩
    · obtain ⟨entry', hentry', h⟩ := Except.bind_eq_ok.1 h
      obtain ⟨run', hrun', h⟩ := Except.bind_eq_ok.1 h
      cases h
      right
      refine ⟨data, partCounter entry' run' nextCandidate, hread, rfl, ?_, ?_, rfl⟩
      · intro attemptId ha
        rw [ha] at hnew
        exact Option.not_isSome_iff_eq_none.1 hnew
      · intro part
        cases part with
        | entries =>
          have hb : entry = baseCounter .entries (data.entries.lookup request.entryKey)
              request.day := counterOf_ok (by simp) hentry
          rw [hb] at hentry'
          exact hentry'
        | runs =>
          rw [baseCounter_runs]
          exact hrun'
        | candidates =>
          have hb : candidate = baseCounter .candidates
              (data.candidates.lookup (request.candidateKey P)) request.day :=
            counterOf_ok (by simp) hcandidate
          rw [hb] at hnextc
          exact hnextc

/-- What settling a row does to the counters of one part. -/
def SettledPart (row : Reservation) (actual : Usage) (part : Section)
    (before after : List (String × Counter)) : Prop :=
  ∃ counter, before.lookup (row.key part) = some counter ∧
    ((dayOf part counter.day ≠ dayOf part row.day ∧ after = before) ∨
      (dayOf part counter.day = dayOf part row.day ∧ ∃ next,
        counter.add
          { inputTokens := actual.inputTokens - row.reserved.inputTokens
            outputTokens := actual.outputTokens - row.reserved.outputTokens
            cost := actual.cost - row.reserved.cost } row.day = .ok next ∧
        after = Dict.set (row.key part) next before))

theorem skips_iff (part : Section) (a b : String) :
    (part ≠ .runs ∧ a ≠ b) ↔ dayOf part a ≠ dayOf part b := by
  cases part <;> simp [dayOf]

theorem setCounter_counters (data : LedgerData) (key : String) (counter : Counter)
    (part other : Section) :
    (data.setCounter key counter part).counters other =
      if other = part then Dict.set key counter (data.counters other) else data.counters other := by
  cases part <;> cases other <;> rfl

theorem settleSection_cases (h : settleSection row actual data part = .ok next) :
    SettledPart row actual part (data.counters part) (next.counters part) ∧
      (∀ other, other ≠ part → next.counters other = data.counters other) ∧
      next.reservations = data.reservations := by
  rw [settleSection] at h
  split at h
  · cases h
  · rename_i counter hl
    split at h
    · rename_i hskip
      cases h
      exact ⟨⟨counter, hl, .inl ⟨(skips_iff part _ _).1 hskip, rfl⟩⟩, fun _ _ => rfl, rfl⟩
    · rename_i hskip
      obtain ⟨corrected, hc, rfl⟩ := Except.map_eq_ok.1 h
      refine ⟨⟨counter, hl, .inr ⟨?_, corrected, hc, ?_⟩⟩, ?_, ?_⟩
      · exact not_not.1 (mt (skips_iff part _ _).2 hskip)
      · rw [setCounter_counters, if_pos rfl]
      · intro other hne
        rw [setCounter_counters, if_neg hne]
      · cases part <;> rfl

/-- What a settle call does: nothing to a settled row, or correct all three counters. -/
theorem settle_cases (h : settle file attemptId result now = .ok written) :
    ∃ data row, readLedger file = .ok data ∧ data.reservations.lookup attemptId = some row ∧
      ((row.settled = true ∧ written = none) ∨
        (row.settled = false ∧ ∃ next, written = some next ∧
          (∀ part, SettledPart row (result.actual row.reserved) part (data.counters part)
            (next.counters part)) ∧
          next.reservations =
            Dict.set attemptId { row with settled := true } data.reservations)) := by
  rw [settle] at h
  obtain ⟨_, _, h⟩ := Except.bind_eq_ok.1 h
  obtain ⟨data, hread, h⟩ := Except.bind_eq_ok.1 h
  split at h
  · cases h
  · rename_i row hrow
    refine ⟨data, row, hread, hrow, ?_⟩
    split at h
    · cases h
    · split at h
      · rename_i hs
        cases h
        exact .inl ⟨hs, rfl⟩
      · rename_i hs
        obtain ⟨last, hfold, h⟩ := Except.bind_eq_ok.1 h
        cases h
        obtain ⟨first, h₁, hfold⟩ := Except.foldlM_cons_ok.1 hfold
        obtain ⟨second, h₂, hfold⟩ := Except.foldlM_cons_ok.1 hfold
        obtain ⟨third, h₃, hfold⟩ := Except.foldlM_cons_ok.1 hfold
        cases hfold
        obtain ⟨hp₁, ho₁, hr₁⟩ := settleSection_cases h₁
        obtain ⟨hp₂, ho₂, hr₂⟩ := settleSection_cases h₂
        obtain ⟨hp₃, ho₃, hr₃⟩ := settleSection_cases h₃
        right
        refine ⟨by simpa using hs, _, rfl, ?_, by simp only [hr₃, hr₂, hr₁]⟩
        intro part
        cases part with
        | entries =>
          change SettledPart _ _ _ _ (last.counters .entries)
          rw [ho₃ .entries (by simp), ho₂ .entries (by simp)]
          exact hp₁
        | runs =>
          change SettledPart _ _ _ _ (last.counters .runs)
          rw [ho₃ .runs (by simp), ← ho₁ .runs (by simp)]
          exact hp₂
        | candidates =>
          change SettledPart _ _ _ _ (last.counters .candidates)
          rw [← ho₁ .candidates (by simp), ← ho₂ .candidates (by simp)]
          exact hp₃

/-- A stored counter holds the charges of a block, all of the counter's day. -/
def Tracks (part : Section) (block : List Charge) : Option Counter → Prop
  | none => block = []
  | some counter =>
    block ≠ [] ∧ (∀ charge ∈ block, dayOf part charge.row.day = dayOf part counter.day) ∧
      counter.usage = totals block ∧ counter.cost < costLimit

def Usage.Nonnegative (usage : Usage) : Prop :=
  0 ≤ usage.inputTokens ∧ 0 ≤ usage.outputTokens ∧ 0 ≤ usage.cost

/-- The row a ledger stores of a charge. -/
def Charge.stored (charge : Charge) : Reservation :=
  { charge.row with settled := charge.settled.isSome }

/-- The ledger file agrees with the charges. -/
structure Book.Conserved (book : Book) : Prop where
  keys : ∀ part, (Dict.keys (book.data.counters part)).Nodup
  tracks : ∀ part key,
    Tracks part (chargesUnder part key book.charges) ((book.data.counters part).lookup key)
  attempts : (book.charges.filterMap (·.attemptId)).Nodup
  rows : ∀ attemptId row, book.data.reservations.lookup attemptId = some row ↔
    ∃ charge ∈ book.charges, charge.attemptId = some attemptId ∧ row = charge.stored
  amounts : ∀ charge ∈ book.charges, charge.amount.Nonnegative

theorem emptyBook_conserved : emptyBook.Conserved where
  keys part := by cases part <;> exact List.nodup_nil
  tracks part key := by cases part <;> rfl
  attempts := List.nodup_nil
  rows attemptId row := by simp [emptyBook, Book.data]
  amounts := by simp [emptyBook]

theorem readLedger_data (h : readLedger file = .ok data) : data = file.getD {} := by
  cases file with
  | none =>
    cases h
    rfl
  | some stored =>
    obtain ⟨_, _, h⟩ := Except.bind_eq_ok.1 h
    obtain ⟨_, _, h⟩ := Except.bind_eq_ok.1 h
    obtain ⟨_, _, h⟩ := Except.bind_eq_ok.1 h
    cases h
    rfl

theorem totals_concat (block : List Charge) (charge : Charge) :
    totals (block ++ [charge]) =
      ⟨(totals block).inputTokens + charge.amount.inputTokens,
        (totals block).outputTokens + charge.amount.outputTokens,
        (totals block).cost + charge.amount.cost⟩ := by
  simp [totals]

/-- Adding a charge to the counter of its key keeps the counter true to its block. -/
theorem tracks_extend {block : List Charge} {charge : Charge} {stored : Option Counter}
    (h : Tracks part block stored) (hs : charge.settled = none)
    (hadd : (baseCounter part stored charge.row.day).add charge.row.reserved charge.row.day =
      .ok next) : Tracks part (extend part block charge) (some next) := by
  obtain ⟨hi, ho, hc, hd, hlt⟩ := Counter.add_ok hadd
  have hamount : charge.amount = charge.row.reserved := by simp [Charge.amount, hs]
  have hone : extend part block charge = [charge] → baseCounter part stored charge.row.day =
      newCounter → Tracks part (extend part block charge) (some next) := by
    intro he hb
    rw [he]
    rw [hb] at hi ho hc
    refine ⟨by simp, by simp [hd], ?_, hlt⟩
    simp [Counter.usage, totals, hamount, hi, ho, hc, newCounter]
  cases stored with
  | none =>
    cases h
    exact hone (by simp [extend]) rfl
  | some counter =>
    obtain ⟨hne, hdays, husage, _⟩ := h
    by_cases hsame : dayOf part counter.day = dayOf part charge.row.day
    · have hall : ∀ other ∈ block, dayOf part other.row.day = dayOf part charge.row.day :=
        fun other hother => (hdays other hother).trans hsame
      rw [extend, if_pos hall]
      rw [baseCounter, if_pos hsame] at hi ho hc
      refine ⟨by simp, ?_, ?_, hlt⟩
      · intro other hother
        rw [hd]
        rcases List.mem_append.1 hother with hother | hother
        · exact hall other hother
        · rw [List.mem_singleton.1 hother]
      · rw [totals_concat, ← husage, hamount]
        simp [Counter.usage, hi, ho, hc]
    · obtain ⟨other, hother⟩ := List.exists_mem_of_ne_nil _ hne
      apply hone
      · rw [extend, if_neg]
        intro hall
        exact hsame ((hdays other hother).symm.trans (hall other hother))
      · rw [baseCounter, if_neg hsame]

theorem request_nonnegative (h : ConsumeCall.request P ledger call = .ok request) :
    request.usage.Nonnegative := by
  rw [ConsumeCall.request] at h
  simp only [refuse_bind_ok] at h
  obtain ⟨_, htokens, h⟩ := h
  obtain ⟨moment, _, h⟩ := Except.bind_eq_ok.1 h
  obtain ⟨amount, hcost, h⟩ := Except.bind_eq_ok.1 h
  obtain ⟨purpose, _, h⟩ := Except.bind_eq_ok.1 h
  obtain ⟨runId, _, h⟩ := Except.bind_eq_ok.1 h
  simp only [refuse_bind_ok] at h
  obtain ⟨_, h⟩ := h
  cases h
  have hamount : 0 ≤ amount := by
    cases hv : call.cost with
    | none =>
      rw [hv] at hcost
      cases hcost
    | some value =>
      rw [hv, decimalCost] at hcost
      split at hcost
      · cases hcost
      · obtain ⟨hle, _, rfl⟩ := unitCost_ok.1 hcost
        exact hle
  simp only [Bool.or_eq_false_iff, decide_eq_false_iff_not, not_lt] at htokens
  exact ⟨htokens.1, htokens.2, hamount⟩

/-- An admitted request keeps the ledger true to the charges. -/
theorem Book.Conserved.charged {book : Book} (h : book.Conserved)
    (hr : request.usage.Nonnegative)
    (hnew : ∀ attemptId, request.attemptId = some attemptId →
      book.data.reservations.lookup attemptId = none)
    {next : Section → Counter}
    (hadd : ∀ part, (baseCounter part ((book.data.counters part).lookup
      ((request.reservation P).key part)) request.day).add request.usage request.day =
        .ok (next part)) :
    Book.Conserved
      ⟨some (book.data.charged P request (next .entries) (next .runs) (next .candidates)),
        book.charges ++ [request.charge P]⟩ where
  keys part := by
    change (Dict.keys ((book.data.charged P request _ _ _).counters part)).Nodup
    rw [charged_counters]
    exact Dict.keys_set_nodup (h.keys part)
  tracks part key := by
    change Tracks part _ (((book.data.charged P request _ _ _).counters part).lookup key)
    have hrow : (request.charge P).row = request.reservation P := rfl
    rw [charged_counters, Dict.lookup_set, chargesUnder_concat, hrow]
    by_cases hk : (request.reservation P).key part = key
    · subst hk
      rw [if_pos rfl, if_pos rfl]
      exact tracks_extend (h.tracks part _) rfl (hadd part)
    · rw [if_neg hk, if_neg hk]
      exact h.tracks part key
  attempts := by
    rw [List.filterMap_append]
    cases ha : request.attemptId with
    | none => simpa [Request.charge, ha] using h.attempts
    | some attemptId =>
      have hout : attemptId ∉ book.charges.filterMap (·.attemptId) := by
        intro hin
        obtain ⟨charge, hc, hid⟩ := List.mem_filterMap.1 hin
        have hrow := (h.rows attemptId charge.stored).2 ⟨charge, hc, hid, rfl⟩
        rw [hnew attemptId ha] at hrow
        cases hrow
      have hone : [request.charge P].filterMap (·.attemptId) = [attemptId] := by
        simp [Request.charge, ha]
      rw [hone, List.nodup_append]
      refine ⟨h.attempts, List.nodup_singleton _, ?_⟩
      intro a ha' b hb
      rw [List.mem_singleton] at hb
      rintro rfl
      exact hout (hb ▸ ha')
  rows attemptId row := by
    have hcharge : (request.charge P).stored = request.reservation P := rfl
    have hdata : (Book.data ⟨some (book.data.charged P request (next .entries) (next .runs)
        (next .candidates)), book.charges ++ [request.charge P]⟩).reservations =
        (book.data.charged P request (next .entries) (next .runs)
          (next .candidates)).reservations := rfl
    have hsplit : (∃ charge ∈ book.charges ++ [request.charge P],
        charge.attemptId = some attemptId ∧ row = charge.stored) ↔
        (∃ charge ∈ book.charges, charge.attemptId = some attemptId ∧ row = charge.stored) ∨
          (request.attemptId = some attemptId ∧ row = request.reservation P) := by
      simp only [List.mem_append, List.mem_singleton, or_and_right, exists_or, exists_eq_left,
        hcharge]
      rfl
    rw [hdata, hsplit, ← h.rows attemptId row, LedgerData.charged]
    cases ha : request.attemptId with
    | none => simp
    | some attempt =>
      simp only [Dict.lookup_set, Option.some.injEq]
      by_cases he : attempt = attemptId
      · subst he
        simp [hnew attempt ha, eq_comm]
      · simp [he]
  amounts charge hc := by
    rcases List.mem_append.1 hc with hc | hc
    · exact h.amounts charge hc
    · rw [List.mem_singleton.1 hc]
      exact hr

/-- An attempt has one charge. -/
theorem attempt_unique {charges : List Charge} (h : (charges.filterMap (·.attemptId)).Nodup)
    (ha : a ∈ charges) (hb : b ∈ charges) (hia : a.attemptId = some attemptId)
    (hib : b.attemptId = some attemptId) : a = b := by
  induction charges with
  | nil => simp at ha
  | cons first charges ih =>
    have hrest : (charges.filterMap (·.attemptId)).Nodup :=
      h.sublist ((List.sublist_cons_self first charges).filterMap _)
    have hout (c : Charge) (hc : c ∈ charges) (hic : c.attemptId = some attemptId) :
        first.attemptId ≠ some attemptId := by
      intro hif
      rw [List.filterMap_cons_some hif] at h
      exact (List.nodup_cons.1 h).1 (List.mem_filterMap.2 ⟨c, hc, hic⟩)
    rcases List.mem_cons.1 ha with rfl | ha'
    · rcases List.mem_cons.1 hb with rfl | hb'
      · rfl
      · exact absurd hia (hout b hb' hib)
    · rcases List.mem_cons.1 hb with rfl | hb'
      · exact absurd hib (hout a ha' hia)
      · exact ih hrest ha' hb'

theorem map_settle_of_fixed {block : List Charge}
    (h : ∀ charge ∈ block, charge.attemptId = some attemptId → charge.settled ≠ none) :
    block.map (Charge.settle attemptId result) = block := by
  induction block with
  | nil => rfl
  | cons first block ih =>
    rw [List.map_cons, ih fun charge hc => h charge (List.mem_cons_of_mem _ hc)]
    exact congrArg (· :: block) (if_neg fun hs => h first List.mem_cons_self hs.1 hs.2)

/-- Settling a charge of a block changes the block's sum by what its amount changes. -/
theorem sum_settle {block : List Charge} (g : Usage → Int)
    (h : (block.filterMap (·.attemptId)).Nodup) (hc : charge ∈ block)
    (ha : charge.attemptId = some attemptId) (hs : charge.settled = none) :
    ((block.map (Charge.settle attemptId result)).map fun c => g c.amount).sum =
      (block.map fun c => g c.amount).sum +
        (g (result.actual charge.row.reserved) - g charge.row.reserved) := by
  induction block with
  | nil => simp at hc
  | cons first block ih =>
    have hrest : (block.filterMap (·.attemptId)).Nodup :=
      h.sublist ((List.sublist_cons_self first block).filterMap _)
    rw [List.map_cons, List.map_cons, List.map_cons, List.sum_cons, List.sum_cons]
    by_cases he : charge = first
    · subst he
      have hout : ∀ other ∈ block, other.attemptId = some attemptId → other.settled ≠ none := by
        intro other hother hid
        rw [List.filterMap_cons_some ha] at h
        exact absurd (List.mem_filterMap.2 ⟨other, hother, hid⟩) (List.nodup_cons.1 h).1
      rw [map_settle_of_fixed hout]
      simp only [Charge.settle, ha, hs, and_self, if_true, Charge.amount, Option.getD_some,
        Option.getD_none]
      omega
    · have hin : charge ∈ block := (List.mem_cons.1 hc).resolve_left he
      have hfirst : first.attemptId ≠ some attemptId := by
        intro hid
        exact he (attempt_unique h hc List.mem_cons_self ha hid)
      rw [settle_of_ne hfirst, ih hrest hin]
      omega

theorem totals_settle {block : List Charge} (h : (block.filterMap (·.attemptId)).Nodup)
    (hc : charge ∈ block) (ha : charge.attemptId = some attemptId) (hs : charge.settled = none) :
    totals (block.map (Charge.settle attemptId result)) =
      { inputTokens := (totals block).inputTokens +
          ((result.actual charge.row.reserved).inputTokens - charge.row.reserved.inputTokens)
        outputTokens := (totals block).outputTokens +
          ((result.actual charge.row.reserved).outputTokens - charge.row.reserved.outputTokens)
        cost := (totals block).cost +
          ((result.actual charge.row.reserved).cost - charge.row.reserved.cost) } := by
  rw [totals, sum_settle Usage.inputTokens h hc ha hs, sum_settle Usage.outputTokens h hc ha hs,
    sum_settle Usage.cost h hc ha hs]
  rfl

theorem actual_nonnegative (result : ProviderResult) (reserved : Usage) :
    (result.actual reserved).Nonnegative := by
  refine ⟨?_, ?_, ?_⟩
  all_goals
    simp only [ProviderResult.actual]
    split <;> omega

/-- Correcting the counters of a charge that is not displaced keeps them true to their blocks. -/
theorem Book.Conserved.tracks_settle {book : Book} (h : book.Conserved)
    (hc : charge ∈ book.charges) (ha : charge.attemptId = some attemptId)
    (hs : charge.settled = none) (hd : ¬Displaced book.charges charge part)
    (hpart : SettledPart charge.stored (result.actual charge.row.reserved) part
      (book.data.counters part) counters) (key : String) :
    Tracks part (chargesUnder part key (book.charges.map (Charge.settle attemptId result)))
      (counters.lookup key) := by
  rw [chargesUnder_map _ (settle_row attemptId result)]
  have hout : charge ∉ chargesUnder part key book.charges →
      (chargesUnder part key book.charges).map (Charge.settle attemptId result) =
        chargesUnder part key book.charges := by
    intro hnot
    apply map_settle_of_fixed
    intro other hother hid
    exact absurd (attempt_unique h.attempts (mem_chargesUnder hother).1 hc hid ha ▸ hother) hnot
  have hold := h.tracks part key
  obtain ⟨counter, hl, hcase⟩ := hpart
  by_cases hk : charge.row.key part = key
  · subst hk
    have hkey : charge.stored.key part = charge.row.key part := by cases part <;> rfl
    rw [hkey] at hl hcase
    rw [hl] at hold
    obtain ⟨hne, hdays, husage, hlt⟩ := hold
    rcases hcase with ⟨hday, rfl⟩ | ⟨hday, next, hadd, rfl⟩
    · rw [hl, hout fun hin => hday (hdays charge hin).symm]
      exact ⟨hne, hdays, husage, hlt⟩
    · have hin : charge ∈ chargesUnder part (charge.row.key part) book.charges := by
        by_contra hnot
        exact hd ⟨hnot, fun other hother => (hdays other hother).trans hday⟩
      obtain ⟨hi, ho, hcost, hnday, hnlt⟩ := Counter.add_ok hadd
      have hnodup : ((chargesUnder part (charge.row.key part) book.charges).filterMap
          (·.attemptId)).Nodup :=
        h.attempts.sublist ((chargesUnder_sublist _ _ _).filterMap _)
      rw [Dict.lookup_set_self]
      refine ⟨by simpa using hne, ?_, ?_, hnlt⟩
      · intro other hother
        obtain ⟨before, hbefore, rfl⟩ := List.mem_map.1 hother
        rw [settle_row, hnday]
        exact (hdays before hbefore).trans hday
      · rw [totals_settle hnodup hin ha hs, ← husage, Counter.usage, hi, ho, hcost]
        rfl
  · have hkey : charge.stored.key part ≠ key := by
      intro he
      apply hk
      rw [← he]
      cases part <;> rfl
    have hsame : counters.lookup key = (book.data.counters part).lookup key := by
      rcases hcase with ⟨_, rfl⟩ | ⟨_, next, _, rfl⟩
      · rfl
      · exact Dict.lookup_set_of_ne hkey _ _
    rw [hsame, hout fun hin => hk (mem_chargesUnder hin).2]
    exact hold

theorem SettledPart.nodup (h : SettledPart row actual part before after)
    (hd : (Dict.keys before).Nodup) : (Dict.keys after).Nodup := by
  obtain ⟨counter, _, ⟨_, rfl⟩ | ⟨_, next, _, rfl⟩⟩ := h
  · exact hd
  · exact Dict.keys_set_nodup hd

theorem settle_some {charge : Charge} (ha : charge.attemptId = some attemptId)
    (hs : charge.settled = none) : charge.settle attemptId result =
      { charge with settled := some (result.actual charge.row.reserved) } :=
  if_pos ⟨ha, hs⟩

/-- Settling a charge that is not displaced keeps the ledger true to the charges. -/
theorem Book.Conserved.settled {book : Book} (h : book.Conserved) (hc : charge ∈ book.charges)
    (ha : charge.attemptId = some attemptId) (hs : charge.settled = none)
    (hd : ∀ part, ¬Displaced book.charges charge part) {next : LedgerData}
    (hparts : ∀ part, SettledPart charge.stored (result.actual charge.row.reserved) part
      (book.data.counters part) (next.counters part))
    (hrows : next.reservations =
      Dict.set attemptId { charge.stored with settled := true } book.data.reservations) :
    Book.Conserved ⟨some next, book.charges.map (Charge.settle attemptId result)⟩ where
  keys part := (hparts part).nodup (h.keys part)
  tracks part key := h.tracks_settle hc ha hs (hd part) (hparts part) key
  attempts := by
    rw [List.filterMap_map]
    simpa [Function.comp_def] using h.attempts
  rows other row := by
    change next.reservations.lookup other = some row ↔ _
    rw [hrows, Dict.lookup_set]
    by_cases he : attemptId = other
    · subst he
      rw [if_pos rfl]
      constructor
      · intro hrow
        cases hrow
        refine ⟨_, List.mem_map.2 ⟨charge, hc, rfl⟩, by simp [ha], ?_⟩
        rw [settle_some ha hs]
        rfl
      · rintro ⟨_, hin, hid, rfl⟩
        obtain ⟨before, hbefore, rfl⟩ := List.mem_map.1 hin
        rw [settle_attemptId] at hid
        cases attempt_unique h.attempts hbefore hc hid ha
        rw [settle_some ha hs]
        rfl
    · rw [if_neg he, h.rows]
      constructor
      · rintro ⟨before, hbefore, hid, rfl⟩
        have hne : before.attemptId ≠ some attemptId := by
          rw [hid]
          exact fun hh => he (Option.some.inj hh).symm
        exact ⟨before, List.mem_map.2 ⟨before, hbefore, settle_of_ne hne⟩, hid, rfl⟩
      · rintro ⟨_, hin, hid, rfl⟩
        obtain ⟨before, hbefore, rfl⟩ := List.mem_map.1 hin
        rw [settle_attemptId] at hid
        have hne : before.attemptId ≠ some attemptId := by
          rw [hid]
          exact fun hh => he (Option.some.inj hh).symm
        rw [settle_of_ne hne]
        exact ⟨before, hbefore, hid, rfl⟩
  amounts other hother := by
    obtain ⟨before, hbefore, rfl⟩ := List.mem_map.1 hother
    rw [Charge.settle]
    split
    · exact actual_nonnegative _ _
    · exact h.amounts before hbefore

theorem settle_fixed {charges : List Charge} {row : Reservation}
    (h : ∀ charge ∈ charges, charge.attemptId = some attemptId → charge.stored = row)
    (hs : row.settled = true) : charges.map (Charge.settle attemptId result) = charges := by
  apply map_settle_of_fixed
  intro charge hc ha hnone
  rw [← h charge hc ha, Charge.stored, hnone] at hs
  cases hs

theorem Book.Conserved.consumed {book : Book} (h : book.Conserved)
    (hok : consume P ledger book.file call = .ok (result, written)) :
    Book.Conserved ⟨written.or book.file,
      recordCharge.admitted P book.charges ledger call result⟩ := by
  have hkeep : written = none → result.allowed = false → Book.Conserved ⟨written.or book.file,
      recordCharge.admitted P book.charges ledger call result⟩ := by
    intro hw ha
    rw [hw, recordCharge.admitted, ha]
    exact h
  rw [consume] at hok
  obtain ⟨request, hrequest, hok⟩ := Except.bind_eq_ok.1 hok
  split at hok
  · cases hok
    exact hkeep rfl rfl
  · split at hok
    · cases hok
      exact hkeep rfl rfl
    · rcases consumeLocked_cases hok with ⟨hw, ha⟩ | ⟨data, next, hread, ha, hnew, hadd, hw⟩
      · exact hkeep hw ha
      · cases readLedger_data hread
        rw [hw, recordCharge.admitted, ha, hrequest]
        exact h.charged (request_nonnegative hrequest) hnew hadd

@[simp] theorem recordCharge_error (P : Platform) (charges : List Charge) (call : BudgetCall)
    (e : Raised) : recordCharge P charges call (.error e) = charges := by
  cases call <;> rfl

/-- A careful call keeps the ledger true to the charges. -/
theorem bookMachine_conserved (P : Platform) {book : Book} {call : BudgetCall}
    (h : book.Conserved) (hcareful : book.Careful call) :
    ((bookMachine P).step book call).1.Conserved := by
  cases call with
  | consume ledger call =>
    cases hok : consume P ledger book.file call with
    | error e => simpa [bookMachine, budgetMachine, budgetStep, budgetStep.answer, hok] using h
    | ok answer =>
      simpa [bookMachine, budgetMachine, budgetStep, budgetStep.answer, hok, recordCharge] using
        h.consumed hok
  | reserve ledger attemptId providerId budget now =>
    cases hok : reserve P ledger book.file attemptId providerId budget now with
    | error e => simpa [bookMachine, budgetMachine, budgetStep, budgetStep.answer, hok] using h
    | ok answer =>
      obtain ⟨attempt, hid, hconsume⟩ := Except.bind_eq_ok.1 hok
      have hattempt : attempt = attemptId := by
        rw [safeId] at hid
        split at hid <;> cases hid
        rfl
      subst hattempt
      simpa [bookMachine, budgetMachine, budgetStep, budgetStep.answer, hok, recordCharge] using
        h.consumed hconsume
  | settle attemptId result now =>
    cases hok : settle book.file attemptId result now with
    | error e => simpa [bookMachine, budgetMachine, budgetStep, hok] using h
    | ok written =>
      obtain ⟨data, row, hread, hrow, hcase⟩ := settle_cases hok
      cases readLedger_data hread
      obtain ⟨charge, hc, ha, rfl⟩ := (h.rows attemptId row).1 hrow
      have hstep : ((bookMachine P).step book (.settle attemptId result now)).1 =
          ⟨written.or book.file, book.charges.map (Charge.settle attemptId result)⟩ := by
        simp [bookMachine, budgetMachine, budgetStep, hok, recordCharge]
      rw [hstep]
      rcases hcase with ⟨hs, rfl⟩ | ⟨hs, next, rfl, hparts, hrows⟩
      · rw [settle_fixed (fun other hother hid => by
          rw [attempt_unique h.attempts hother hc hid ha]) hs]
        exact h
      · have hnone : charge.settled = none := by
          simpa [Charge.stored] using hs
        exact h.settled hc ha hnone (hcareful charge hc ha hnone) hparts hrows

theorem sum_nonneg_of {block : List Charge} {g : Charge → Int} (h : ∀ charge ∈ block, 0 ≤ g charge) :
    0 ≤ (block.map g).sum := by
  apply List.sum_nonneg
  intro n hn
  obtain ⟨charge, hc, rfl⟩ := List.mem_map.1 hn
  exact h charge hc

/-- What the ledger stores of a counter is the sum of what it was charged for. -/
theorem Book.Conserved.stored {book : Book} {counter : Counter} (h : book.Conserved)
    (hc : (key, counter) ∈ book.data.counters part) :
    counter.usage = totals (chargesUnder part key book.charges) ∧ counter.usage.Nonnegative ∧
      counter.cost < costLimit := by
  have htracks := h.tracks part key
  rw [Dict.lookup_of_mem (h.keys part) hc] at htracks
  obtain ⟨_, _, husage, hlt⟩ := htracks
  refine ⟨husage, ?_, hlt⟩
  have hamount : ∀ charge ∈ chargesUnder part key book.charges, charge.amount.Nonnegative :=
    fun charge hin => h.amounts charge (mem_chargesUnder hin).1
  rw [husage]
  exact ⟨sum_nonneg_of fun charge hin => (hamount charge hin).1,
    sum_nonneg_of fun charge hin => (hamount charge hin).2.1,
    sum_nonneg_of fun charge hin => (hamount charge hin).2.2⟩

theorem Book.Conserved.reads {book : Book} (h : book.Conserved) :
    readLedger book.file = .ok book.data := by
  have hpart (part : Section) : (book.data.counters part).forM checkCounter = .ok () := by
    apply forM_ok
    intro p hp
    obtain ⟨_, ⟨hi, ho, hcost⟩, hlt⟩ := h.stored hp
    have hi : decide (p.2.inputTokens < 0) = false := decide_eq_false (not_lt.2 hi)
    have ho : decide (p.2.outputTokens < 0) = false := decide_eq_false (not_lt.2 ho)
    have hunit : unitCost p.2.cost = .ok p.2.cost := unitCost_ok.2 ⟨hcost, hlt, rfl⟩
    rw [checkCounter, hi, ho, refuse_false, ok_bind, ok_bind, hunit]
    rfl
  cases hf : book.file with
  | none => rw [Book.data, hf]; rfl
  | some data =>
    have hdata : book.data = data := by rw [Book.data, hf]; rfl
    rw [hdata] at hpart ⊢
    rw [readLedger]
    rw [show data.entries.forM checkCounter = .ok () from hpart .entries,
      show data.runs.forM checkCounter = .ok () from hpart .runs,
      show data.candidates.forM checkCounter = .ok () from hpart .candidates]
    rfl

theorem Book.Conserved.counted {book : Book} (h : book.Conserved) (hcharge : charge ∈ book.charges)
    (part : Section) : ((book.data.counters part).lookup (charge.row.key part)).isSome := by
  have htracks := h.tracks part (charge.row.key part)
  cases hstored : (book.data.counters part).lookup (charge.row.key part) with
  | none =>
    rw [hstored] at htracks
    exact (chargesUnder_ne_nil hcharge part htracks).elim
  | some counter => rfl

/-- After any careful calls every stored counter is the sum of what it was charged for, none is
negative, a key that was charged has a counter, and the ledger can be read. -/
theorem ledger_conserved (P : Platform) {calls : List BudgetCall}
    (h : (bookMachine P).Guarded Book.Careful emptyBook calls) :
    let book := (bookMachine P).after emptyBook calls
    readLedger ((budgetMachine P).after none calls) = .ok book.data ∧
      (∀ part key counter, (key, counter) ∈ book.data.counters part →
        0 ≤ counter.inputTokens ∧ 0 ≤ counter.outputTokens ∧ 0 ≤ counter.cost ∧
          counter.usage = totals (chargesUnder part key book.charges)) ∧
      ∀ part, ∀ charge ∈ book.charges,
        ((book.data.counters part).lookup (charge.row.key part)).isSome := by
  have hbook : ((bookMachine P).after emptyBook calls).Conserved :=
    Machine.guarded_invariant (I := Book.Conserved) _
      (fun _ _ hb hc => bookMachine_conserved P hb hc) emptyBook_conserved h
  refine ⟨?_, ?_, fun part charge hcharge => hbook.counted hcharge part⟩
  · rw [← hbook.reads, bookMachine_file]
    rfl
  · intro part key counter hc
    obtain ⟨husage, ⟨hi, ho, hcost⟩, _⟩ := hbook.stored hc
    exact ⟨hi, ho, hcost, husage⟩

instance : Decidable (Displaced charges charge part) :=
  inferInstanceAs (Decidable (_ ∧ _))

/-- A platform that knows the texts of the first two days of 1970. -/
def twoDays : Platform :=
  { samplePlatform with
    isoformat := fun instant =>
      if instant < 86400000000 then "1970-01-01T00:00:00+00:00" else "1970-01-02T00:00:00+00:00" }

def firstDay : DateTime :=
  ⟨0, true⟩

def secondDay : DateTime :=
  ⟨86400000000, true⟩

def sampleHandle : BudgetLedger where
  runId := "run"

def reserveSample : BudgetCall :=
  .reserve sampleHandle "attempt" "local"
    { maxInputTokens := 1000
      maxOutputTokens := 100
      maxCost := some ⟨0, 0⟩
      deadlineMs := 1000
      purpose := "gate"
      candidateId := "candidate"
      runId := "" } firstDay

def consumeSample (now : DateTime) : BudgetCall :=
  .consume sampleHandle
    { providerId := "local"
      inputTokens := 10
      outputTokens := 10
      cost := some ⟨0, 0⟩
      now
      candidateId := some "candidate" }

def settleSample (now : DateTime) : BudgetCall :=
  .settle "attempt"
    { providerId := "local"
      ok := true
      inputTokens := 0
      outputTokens := 0
      cost := 0
      usageKnown := true
      costKnown := true
      costValid := by decide } now

theorem ledger_conserved_sample :
    let book := (bookMachine twoDays).after emptyBook
      [reserveSample, consumeSample secondDay, settleSample secondDay]
    book.charges.length = 2 ∧ readLedger book.file = .ok book.data := by
  have hcareful : ∀ charge ∈ ((bookMachine twoDays).after emptyBook
      [reserveSample, consumeSample secondDay]).charges, ∀ part ∈ [.entries, .runs, .candidates],
        ¬Displaced ((bookMachine twoDays).after emptyBook
          [reserveSample, consumeSample secondDay]).charges charge part := by
    decide
  have hrun : (bookMachine twoDays).Guarded Book.Careful emptyBook
      [reserveSample, consumeSample secondDay, settleSample secondDay] := by
    rw [Machine.guarded_cons, Machine.guarded_cons, Machine.guarded_cons]
    refine ⟨trivial, trivial, ?_, Machine.guarded_nil _⟩
    intro charge hc _ _ part
    exact hcareful charge hc part (by cases part <;> simp)
  have h := ledger_conserved twoDays hrun
  refine ⟨by decide, ?_⟩
  rw [bookMachine_file]
  exact h.1

/-- Going back to the first day re-creates the candidate's counter without the reservation, and
settling it then makes the counter negative. -/
theorem ledger_not_conserved :
    let calls := [reserveSample, consumeSample secondDay, consumeSample firstDay,
      settleSample firstDay]
    (((budgetMachine twoDays).after none calls).bind fun data =>
        (data.candidates.head?.map fun p => p.2.inputTokens)) = some (-990) ∧
      readLedger ((budgetMachine twoDays).after none calls) = .error schemaInvalidLedger := by
  decide

end ExternalIntelligence
