import ExternalIntelligence.Changeset

namespace ExternalIntelligence
set_option autoImplicit true

def writableClassifications : List String :=
  ["public", "private-reusable"]

def pathKeys : List String :=
  ["path", "file", "file_path", "target_path", "relative_path", "repository_path"]

def payloadTextFields : List String :=
  ["title", "claim", "rule", "precondition", "failure_mode", "benefit", "exception", "scope",
    "version_constraint"]

mutual

/-- Whether a key of a value may not be stored. -/
def forbidden (P : Platform) : Value → Bool
  | .dict fields => forbiddenFields P fields
  | .list items | .tuple items => forbiddenItems P items
  | _ => false

def forbiddenItems (P : Platform) : List Value → Bool
  | [] => false
  | item :: items => forbidden P item || forbiddenItems P items

def forbiddenFields (P : Platform) : Fields → Bool
  | [] => false
  | (key, nested) :: fields =>
    (texts forbiddenKeys).contains (P.casefold (Text.chars key)) || forbidden P nested ||
      forbiddenFields P fields

end

mutual

/-- The hashes among the texts of a value. -/
def hashesIn : Value → List String
  | .str s => if isHash s then [s] else []
  | .dict fields => hashesInFields fields
  | .list items | .tuple items => hashesInItems items
  | _ => []

def hashesInItems : List Value → List String
  | [] => []
  | item :: items => hashesIn item ++ hashesInItems items

def hashesInFields : Fields → List String
  | [] => []
  | (_, nested) :: fields => hashesIn nested ++ hashesInFields fields

end

mutual

/-- The JSON text of a value with the default separators. -/
def dumpSpaced : Value → List Char
  | .list xs | .tuple xs => ['['] ++ dumpSpacedItems xs ++ [']']
  | .dict fs => ['\x7b'] ++ dumpSpacedFields fs ++ ['\x7d']
  | v => v.dump

def dumpSpacedItems : List Value → List Char
  | [] => []
  | [x] => dumpSpaced x
  | x :: xs => dumpSpaced x ++ [',', ' '] ++ dumpSpacedItems xs

def dumpSpacedFields : Fields → List Char
  | [] => []
  | [(k, x)] => Value.quote k ++ [':', ' '] ++ dumpSpaced x
  | (k, x) :: fs =>
    Value.quote k ++ [':', ' '] ++ dumpSpaced x ++ [',', ' '] ++ dumpSpacedFields fs

end

def safeTarget : Option String → Bool
  | none => true
  | some target =>
    isSafeId target && !(Text.chars target).contains '/' && !(Text.chars target).contains '\\' &&
      !Text.contains ['.', '.'] (Text.chars target)

def badPath : Value → Bool
  | .str value => isPathLike (Text.chars value)
  | _ => false

def payloadText (payload : Fields) : List Char :=
  let values := payloadTextFields.flatMap fun field =>
    match fieldOf payload field with
    | .str value => [value]
    | value => value.strings
  ['\n'].intercalate (values.map Text.chars)

mutual

/-- Whether a value can be a member of a set. -/
def hashable : Value → Bool
  | .list _ | .dict _ => false
  | .tuple items => hashableItems items
  | _ => true

def hashableItems : List Value → Bool
  | [] => true
  | item :: items => hashable item && hashableItems items

end

def reasonIf (bad : Bool) (reason : String) : List String :=
  if bad then [reason] else []

def reasonCodes (issues : List PersistableIssue) : List String :=
  (issues.map PersistableIssue.reasonCode).eraseDups

/-- The checks of the classification of a payload, and of its texts under it. -/
def classificationReasons (P : Platform) (payload : Fields) : Except Raised (List String) :=
  let classification := getOr payload "classification" (.str "private-reusable")
  if !hashable classification then .error ⟨"TypeError", "unhashable type"⟩
  else if !(writableClassifications.map Value.str).contains classification then
    .ok ["CLASSIFICATION_NOT_SYNCABLE"]
  else
    let privacy := inspectText P (payloadText payload) (pyStr P classification)
      (Text.chars "change-set")
    .ok (reasonIf (privacy.reasonCode != "CLASSIFIED" &&
      privacy.reasonCode != "GENERALIZATION_VERIFIED") "PRIVACY_REJECTED")

/-- The checks that every operation gets before its kind is looked at. -/
def commonReasons (P : Platform) (value : ChangeSet) (operation : ChangeOperation) :
    Except Raised (List String) :=
  let payload := operation.payload
  let classification := getOr payload "classification" (.str "private-reusable")
  let actor := fieldOf payload "actor"
  let provider := getOr payload "provider_id" (.str value.providerId)
  let found := hashesIn (.dict payload)
  (classificationReasons P payload).map fun classificationReasons =>
    reasonCodes (inspectChangesetPayload P payload (pyStr P classification)) ++
      reasonIf (!safeTarget operation.targetId) "PATH_TRAVERSAL" ++
      reasonIf (forbidden P (.dict payload)) "RAW_CONTENT_FORBIDDEN" ++
      (payload.flatMap fun field =>
        reasonIf ((texts pathKeys).contains (P.casefold (Text.chars field.1)) && badPath field.2)
          "PATH_TRAVERSAL") ++
      reasonIf (!actor.isStr || !isSafeLabel (actor.strOr "")) "ACTOR_INVALID" ++
      reasonIf (provider != .str value.providerId || !isSafeLabel value.providerId)
        "PROVIDER_MISMATCH" ++
      classificationReasons ++
      reasonIf (!found.any value.sourceHashes.contains) "SOURCE_HASH_MISMATCH" ++
      reasonIf (operation.operation != .noChange && found.isEmpty) "SOURCE_HASH_MISSING"

def textLength (value : Value) : Int :=
  (Text.chars (value.strOr "")).length

/-- The checks of the texts that an observation and a rule are made of. -/
def contentReasons (policy : PromotionPolicy) (operation : ChangeOperation) : List String :=
  let title := fieldOf operation.payload "title"
  let claim := fieldOf operation.payload "claim"
  let rule := fieldOf operation.payload "rule"
  (if operation.operation = .createObservation then
    reasonIf (!title.isStr || textLength title == 0 || textLength title > 160)
        "OBSERVATION_TITLE_INVALID" ++
      reasonIf (!claim.isStr || textLength claim < 20 || textLength claim > 1200)
        "OBSERVATION_CLAIM_INVALID"
  else []) ++
  if rule.isStr then
    if textLength rule > policy.alwaysOnHardCapChars then ["RULE_HARD_CAP_EXCEEDED"]
    else reasonIf (decide (textLength rule > policy.maxRuleChars)) "RULE_LENGTH_INVALID"
  else
    reasonIf ([.createCandidate, .promotePattern, .revisePattern].contains operation.operation)
      "RULE_MISSING"

/-- The loop variables of `validate_changeset`. -/
structure ValidationLoop where
  projected : List (String × Fields)
  reasons : List String
deriving DecidableEq, Repr

def ValidationLoop.add (loop : ValidationLoop) (reasons : List String) : ValidationLoop :=
  { loop with reasons := loop.reasons ++ reasons }

/-- The projected state of a target. -/
def projectedState (projected : List (String × Fields)) : Option String → Option Fields
  | none => none
  | some target => if target = "" then none else projected.lookup target

def hasStatus (state : Option Fields) (statuses : List String) : Bool :=
  state.any fun state => (statuses.map Value.str).contains (fieldOf state "status")

/-- Sets fields of the projected state of a target, if it has one. -/
def updateProjected (projected : List (String × Fields)) (target : Option String)
    (fields : Fields) : List (String × Fields) :=
  match target, projectedState projected target with
  | some target, some state => Dict.set target (Dict.update state fields) projected
  | _, _ => projected

/-- The state that a new candidate is projected with. -/
def projectedCandidate (P : Platform) (target : String) (payload : Fields) :
    Except Raised Fields := do
  let orText (name default : String) : Value :=
    .str (pyStr P (valueOr (getOr payload name (.str default)) (.str default)))
  let items (name : String) := pyList (getOr payload name (.tuple []))
  let count (name : String) := pyInt P (valueOr (getOr payload name (.int 0)) (.int 0))
  let provenances ← pyList
    (getOr payload "provenances" (getOr payload "evidence_refs" (.tuple [])))
  let scopes ← items "scopes"
  let applicability ← items "applicability"
  let benefitCount ← count "benefit_count"
  let contradictionCount ← count "contradiction_count"
  let applicableHostIds ← items "applicable_host_ids"
  let applicableHostFamilies ← items "applicable_host_families"
  pure
    [("pattern_id", .str target),
      ("cluster_id", .str (pyStr P (getOr payload "cluster_id" (.str target)))),
      ("status", .str "candidate"), ("rule", .str (pyStr P (getOr payload "rule" (.str "")))),
      ("classification",
        .str (pyStr P (getOr payload "classification" (.str "private-reusable")))),
      ("provenances", .list provenances), ("scopes", .list scopes),
      ("applicability", .list applicability), ("benefit_count", .int benefitCount),
      ("contradiction_count", .int contradictionCount), ("revision", .int 0),
      ("source_host_id", orText "source_host_id" ""),
      ("source_host_family", orText "source_host_family" ""),
      ("applicability_scope", orText "applicability_scope" "universal"),
      ("applicable_host_ids", .list applicableHostIds),
      ("applicable_host_families", .list applicableHostFamilies)]

def validateCandidate (P : Platform) (policy : PromotionPolicy) (operation : ChangeOperation)
    (loop : ValidationLoop) : Except Raised ValidationLoop :=
  let payload := operation.payload
  let provenances := getOr payload "provenances" (getOr payload "evidence_refs" (.tuple []))
  let count : Int := (provenances.items?.getD []).length
  match operation.targetId with
  | none | some "" => .ok (loop.add ["TARGET_ALREADY_EXISTS"])
  | some target =>
    if (loop.projected.lookup target).isSome then .ok (loop.add ["TARGET_ALREADY_EXISTS"])
    else if count < policy.independentProvenanceCount then
      .ok (loop.add ["CANDIDATE_POLICY_INELIGIBLE"])
    else
      (projectedCandidate P target payload).map fun state =>
        { loop with projected := Dict.set target state loop.projected }

/-- A text that is there and not empty. -/
def hasText (payload : Fields) (name : String) : Bool :=
  (fieldOf payload name).isStr && (fieldOf payload name).strOr "" != ""

def validatePromotion (P : Platform) (policy : PromotionPolicy) (operation : ChangeOperation)
    (loop : ValidationLoop) : Except Raised ValidationLoop :=
  let payload := operation.payload
  let state := projectedState loop.projected operation.targetId
  let known := match state with
    | some state => getOr state "contradiction_count" (.int 0)
    | none => .int 0
  let applicability := (getOr payload "applicability" (.tuple [])).items?.getD []
  (pyInt P (valueOr (getOr payload "contradiction_count" known) (.int 0))).map
    fun contradiction =>
      { projected := updateProjected loop.projected operation.targetId [("status", .str "active")]
        reasons := loop.reasons ++
          reasonIf (!hasStatus state ["candidate"]) "INVALID_LIFECYCLE_TRANSITION" ++
          reasonIf (decide (contradiction > policy.maxUnresolvedContradictions))
            "UNRESOLVED_CONTRADICTION" ++
          reasonIf (!hasText payload "precondition") "PRECONDITION_MISSING" ++
          reasonIf (!hasText payload "failure_mode") "FAILURE_MODE_MISSING" ++
          reasonIf (!applicability.any fun item =>
            !(Text.strip (Text.chars (pyStr P item))).isEmpty) "APPLICABILITY_MISSING" }

def validateRevision (S : ChangesetSettings) (operation : ChangeOperation) (loop : ValidationLoop) :
    ValidationLoop :=
  let payload := operation.payload
  let state := projectedState loop.projected operation.targetId
  let rule := getOr payload "rule" (getOr (state.getD []) "rule" (.str ""))
  { projected := updateProjected loop.projected operation.targetId
      [("status", .str "active"), ("rule", rule)]
    reasons := loop.reasons ++
      reasonIf (!hasStatus state ["active", "candidate"]) "INVALID_LIFECYCLE_TRANSITION" ++
      reasonIf ((fieldOf payload "proposal_only").truthy && !S.allowProposalApply)
        "REVIEW_REQUIRED" }

/-- A change of status that the projected status must allow. -/
def validateTransition (operation : ChangeOperation) (loop : ValidationLoop)
    (allowed : List String) (status : String) : ValidationLoop :=
  let state := projectedState loop.projected operation.targetId
  { projected := updateProjected loop.projected operation.targetId [("status", .str status)]
    reasons := loop.reasons ++
      reasonIf (!hasStatus state allowed) "INVALID_LIFECYCLE_TRANSITION" }

/-- The part of the loop that depends on the kind of the operation. -/
def validateKind (P : Platform) (S : ChangesetSettings) (policy : PromotionPolicy)
    (operation : ChangeOperation) (loop : ValidationLoop) : Except Raised ValidationLoop :=
  let payload := operation.payload
  match operation.operation with
  | .createObservation => .ok loop
  | .attachEvidence =>
    .ok (loop.add (reasonIf
      (!hasStatus (projectedState loop.projected operation.targetId) ["active", "candidate"])
      "TARGET_STATE_INVALID"))
  | .createCandidate => validateCandidate P policy operation loop
  | .promotePattern => validatePromotion P policy operation loop
  | .revisePattern => .ok (validateRevision S operation loop)
  | .deprecatePattern => .ok (validateTransition operation loop ["active"] "deprecated")
  | .tombstonePattern =>
    .ok (validateTransition operation loop ["deprecated", "superseded"] "tombstoned")
  | .redactReference =>
    .ok (loop.add (reasonIf (!S.allowRedaction ||
      !((fieldOf payload "approval_identity_hash").truthy ||
        (fieldOf payload "approved_by").truthy)) "REDACTION_REQUIRES_APPROVAL"))
  | .noChange =>
    let reason := fieldOf payload "reason_code"
    .ok (loop.add (reasonIf (reason != .none && !isSafeLabel (pyStr P reason))
      "REASON_CODE_INVALID"))

def validateOperation (P : Platform) (S : ChangesetSettings) (policy : PromotionPolicy)
    (value : ChangeSet) (loop : ValidationLoop) (operation : ChangeOperation) :
    Except Raised ValidationLoop :=
  (commonReasons P value operation).bind fun reasons =>
    validateKind P S policy operation (loop.add (reasons ++ contentReasons policy operation))

/-- The checks of the changeset as a whole. -/
def documentReasons (P : Platform) (S : ChangesetSettings) (policy : PromotionPolicy)
    (value : ChangeSet) : List String :=
  let document := Value.dict value.toDict
  reasonIf (value.policyVersion != policy.policyVersion) "STALE_POLICY" ++
    reasonIf (!isSafeLabel value.providerId) "PROVIDER_ID_INVALID" ++
    reasonIf (forbidden P document) "RAW_CONTENT_FORBIDDEN" ++
    reasonCodes (inspectPersistable P document "private-reusable" none (512 * 1024)) ++
    reasonIf (S.sourceHashes.any fun configured => !value.sourceHashes.all configured.contains)
      "STALE_SOURCE_HASH" ++
    reasonIf (decide (512 * 1024 < Value.utf8Length (dumpSpaced document))) "CHANGESET_TOO_LARGE"

/-- Copies of the states, one under each key. -/
def StateMap.copies (states : StateMap) : List (String × Fields) :=
  states.keys.filterMap fun entry =>
    (states.objects[entry.2]?).map fun state => (entry.1, state)

/-- The events a reader of the journal gets, or the reason there is none. -/
def journalEvents (P : Platform) (S : ChangesetSettings) (disk : Disk) : Except String (List Event) :=
  match iterEvents P S.eventDir disk false with
  | .ok events => .ok events
  | .error _ => .error "JOURNAL_CORRUPT"

def validateChangeset (P : Platform) (S : ChangesetSettings) (disk : Disk) (value : ChangeSet) :
    Except Raised ValidationResult :=
  match S.policy, journalEvents P S disk with
  | .error reason, _ => .ok ⟨false, [reason]⟩
  | .ok _, .error reason => .ok ⟨false, [reason]⟩
  | .ok policy, .ok events => do
    let existing ← states P events
    let loop ← value.operations.foldlM (validateOperation P S policy value)
      ⟨existing.copies, documentReasons P S policy value⟩
    pure ⟨loop.reasons.isEmpty, loop.reasons.eraseDups⟩

end ExternalIntelligence
