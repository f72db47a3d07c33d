import ExternalIntelligence.Changeset
import ExternalIntelligence.Reconciliation

namespace ExternalIntelligence
set_option autoImplicit true

inductive CaptureState where
  | waiting
  | secured
  | evaluatedNone
  | unavailable
  | unknown
deriving DecidableEq, Repr

structure CloseoutProofRef where
  recordId : String
  targetSetHash : String
  contentHash : String
  bindingDigest : String
  resultDigest : String
deriving DecidableEq, Repr

/-- What is known of one capture; the time is an instant in UTC. -/
structure CaptureReceipt where
  captureId : String
  state : CaptureState
  candidateIds : List String
  coveredTargetIds : List String
  reasonCode : String
  updatedAt : Int
  candidateHashes : List (String × String) := []
  closeoutProofs : List CloseoutProofRef := []
deriving DecidableEq, Repr

/-- A prefix and hexadecimal digits. -/
def isPrefixedHex (start : String) (digits : Nat) (s : String) : Bool :=
  let rest := (Text.chars s).drop (Text.chars start).length
  (Text.chars start).isPrefixOf (Text.chars s) && rest.length == digits && rest.all isLowerHex

def isQueueId (s : String) : Bool :=
  isPrefixedHex "queue_" 32 s

def isCuratorCandidateId (s : String) : Bool :=
  isPrefixedHex "cand_" 20 s

def isCloseoutId (s : String) : Bool :=
  isPrefixedHex "co_" 64 s

def isCandidateId (s : String) : Bool :=
  isHash s || isQueueId s || isEventId s || isCuratorCandidateId s

/-- `[A-Z][A-Z0-9_]{0,63}` -/
def isReasonCode (s : String) : Bool :=
  let isUpper (c : Char) : Bool := 'A' ≤ c && c ≤ 'Z'
  match Text.chars s with
  | [] => false
  | c :: cs =>
    isUpper c && decide (cs.length ≤ 63) &&
      cs.all fun d => isUpper d || Text.isDigit d || d == '_'

/-- Checks one proof of a receipt after those whose records are given. -/
def checkProof (seen : List String) (proof : CloseoutProofRef) : Except Raised (List String) := do
  let name := "capture-receipt"
  refuse (!isCloseoutId proof.recordId || seen.contains proof.recordId)
    (schemaError name "closeout_proofs.record_id")
  refuse (!isHash proof.targetSetHash) (schemaError name "closeout_proofs.target_set_hash")
  refuse (!isHash proof.contentHash) (schemaError name "closeout_proofs.content_hash")
  refuse (!isHash proof.bindingDigest) (schemaError name "closeout_proofs.binding_digest")
  refuse (!isHash proof.resultDigest) (schemaError name "closeout_proofs.result_digest")
  pure (proof.recordId :: seen)

/-- The checks of the capture-receipt schema on a serialized receipt. Its keys are fixed and its
time is serialized in UTC, so the checks of keys, types and the time cannot fail. -/
def validateCaptureReceipt (receipt : CaptureReceipt) : Except Raised Unit := do
  let name := "capture-receipt"
  refuse (!isHash receipt.captureId) (schemaError name "capture_id")
  refuse (!receipt.candidateIds.all isCandidateId) (schemaError name "candidate_ids")
  refuse (decide ¬receipt.candidateIds.Nodup) (schemaError name "candidate_ids")
  refuse (!receipt.coveredTargetIds.all isHash) (schemaError name "covered_target_ids")
  refuse (decide ¬receipt.coveredTargetIds.Nodup) (schemaError name "covered_target_ids")
  refuse (receipt.state == .secured && receipt.candidateIds.isEmpty)
    (schemaError name "candidate_ids")
  refuse (!isReasonCode receipt.reasonCode) (schemaError name "reason_code")
  refuse (!receipt.candidateHashes.all fun p =>
    isCandidateId p.1 && isHash p.2 && receipt.candidateIds.contains p.1)
    (schemaError name "candidate_hashes")
  refuse (decide ¬(Dict.keys receipt.candidateHashes).Nodup) (schemaError name "candidate_hashes")
  refuse (decide (8 < receipt.closeoutProofs.length)) (schemaError name "closeout_proofs")
  let _ ← receipt.closeoutProofs.foldlM checkProof []
  pure ()

/-- Python's sorted of a set of texts. -/
def sortedSet (values : List String) : List String :=
  sortedText values.dedup

@[simp] theorem mem_sortedSet {values : List String} : v ∈ sortedSet values ↔ v ∈ values := by
  rw [sortedSet, sortedText, List.mem_insertionSort, List.mem_dedup]

theorem sortedSet_pairwise (values : List String) : (sortedSet values).Pairwise (· < ·) := by
  have hle : (sortedSet values).Pairwise (· ≤ ·) := List.pairwise_insertionSort _ _
  have hne : (sortedSet values).Nodup :=
    (List.perm_insertionSort _ _).nodup_iff.2 (List.nodup_dedup values)
  apply (hle.and hne).imp
  rintro a b ⟨hab, hn⟩
  exact lt_of_le_of_ne hab hn

/-- Two lists in strict order with the same members are equal. -/
theorem eq_of_same_members {xs ys : List String} (hx : xs.Pairwise (· < ·))
    (hy : ys.Pairwise (· < ·)) (h : ∀ v, v ∈ xs ↔ v ∈ ys) : xs = ys := by
  have hperm : xs.Perm ys :=
    (List.perm_ext_iff_of_nodup (hx.imp fun hab => ne_of_lt hab)
      (hy.imp fun hab => ne_of_lt hab)).2 h
  apply hperm.eq_of_pairwise _ hx hy
  intro a b _ _ hab hba
  exact absurd hab (lt_asymm hba)

/-- The order of pairs of texts: by the first, then by the second. -/
def pairLe (p q : String × String) : Prop :=
  p.1 < q.1 ∨ (p.1 = q.1 ∧ p.2 ≤ q.2)

instance : DecidableRel pairLe := fun p q =>
  inferInstanceAs (Decidable (p.1 < q.1 ∨ (p.1 = q.1 ∧ p.2 ≤ q.2)))

/-- Adds a pair to a map whose keys keep their values. -/
def addKeyed [DecidableEq α] (conflict : String) (merged : List (String × α)) (p : String × α) :
    Except Raised (List (String × α)) :=
  if (merged.lookup p.1).any (· ≠ p.2) then .error (valueError conflict)
  else .ok (Dict.set p.1 p.2 merged)

def mergeKeyed [DecidableEq α] (conflict : String) (old new : List (String × α)) :
    Except Raised (List (String × α)) :=
  new.foldlM (addKeyed conflict) (Dict.update [] old)

def keyedProofs (proofs : List CloseoutProofRef) : List (String × CloseoutProofRef) :=
  proofs.map fun proof => (proof.recordId, proof)

def pendingExpired : String :=
  "PENDING_EXPIRED"

def mergeReceipt (old new : CaptureReceipt) : Except Raised CaptureReceipt := do
  refuse (old.captureId != new.captureId) (valueError "CAPTURE_ID_CONFLICT")
  if old.state = .unknown then .ok old
  else do
    let hashes ← mergeKeyed "CAPTURE_CONTENT_CONFLICT" old.candidateHashes new.candidateHashes
    let proofs ← mergeKeyed "CAPTURE_CLOSEOUT_PROOF_CONFLICT" (keyedProofs old.closeoutProofs)
      (keyedProofs new.closeoutProofs)
    let candidates := sortedSet (old.candidateIds ++ new.candidateIds)
    let covered := sortedSet (old.coveredTargetIds ++ new.coveredTargetIds)
    let candidateHashes := hashes.insertionSort pairLe
    let updatedAt := max old.updatedAt new.updatedAt
    if old.reasonCode = pendingExpired ∨ new.reasonCode = pendingExpired then
      .ok { old with
        state := .unavailable
        reasonCode := pendingExpired
        candidateIds := candidates
        coveredTargetIds := covered
        updatedAt
        candidateHashes }
    else
      .ok { new with
        state :=
          if candidates ≠ [] then .secured
          else if new.state = .waiting then old.state else new.state
        candidateIds := candidates
        coveredTargetIds := covered
        updatedAt
        candidateHashes
        closeoutProofs := (sortedText (Dict.keys proofs)).filterMap fun key => proofs.lookup key }

/-- What the ledger stores for a receipt, given what it has stored for the capture. -/
def recordReceipt (stored : Option CaptureReceipt) (receipt : CaptureReceipt) :
    Except Raised CaptureReceipt := do
  validateCaptureReceipt receipt
  let merged ← match stored with
    | some old => mergeReceipt old receipt
    | none => .ok receipt
  validateCaptureReceipt merged
  pure merged

end ExternalIntelligence
