import ExternalIntelligence.DeliveryDiscipline
import ExternalIntelligence.EventFileSize
import ExternalIntelligence.TeamRouting

namespace Text
set_option autoImplicit true

theorem dropWhile_rdropWhile_of_head {p : Char → Bool} {s : List Char}
    (h : ∀ c cs, s = c :: cs → p c = false) :
    (s.rdropWhile p).dropWhile p = s.rdropWhile p := by
  cases hs : s.rdropWhile p with
  | nil => rfl
  | cons c cs =>
    obtain ⟨rest, hrest⟩ := List.rdropWhile_prefix p s
    rw [hs, List.cons_append] at hrest
    rw [List.dropWhile_cons_of_neg]
    rw [h c _ hrest.symm]
    exact Bool.false_ne_true

/-- A stripped text is stripped already. -/
theorem strip_strip (s : List Char) : strip (strip s) = strip s := by
  rw [strip, strip, dropWhile_rdropWhile_of_head, List.rdropWhile_idempotent]
  intro c cs hc
  have hne : s.dropWhile isSpace ≠ [] := by
    rw [hc]
    exact List.cons_ne_nil _ _
  have hhead := List.head_dropWhile_not isSpace hne
  simp only [hc, List.head_cons] at hhead
  exact hhead

theorem length_strip_le (s : List Char) : (strip s).length ≤ s.length :=
  le_trans (List.rdropWhile_prefix isSpace _).length_le (List.dropWhile_suffix isSpace).length_le

end Text

namespace List
set_option autoImplicit true

variable {α : Type} [DecidableEq α]

theorem eraseDups_of_nodup : ∀ {l : List α}, l.Nodup → l.eraseDups = l
  | [], _ => rfl
  | a :: l, h => by
    obtain ⟨hnot, hnodup⟩ := nodup_cons.1 h
    have hfilter : l.filter (fun b => !b == a) = l := by
      rw [filter_eq_self]
      intro b hb
      have hne : b ≠ a := fun he => hnot (he ▸ hb)
      simp [hne]
    rw [eraseDups_cons, hfilter, eraseDups_of_nodup hnodup]

theorem mem_eraseDups_iff {a : α} (l : List α) : a ∈ l.eraseDups ↔ a ∈ l := by
  match l with
  | [] => rw [eraseDups_nil]
  | b :: l =>
    have ih := mem_eraseDups_iff (a := a) (l.filter fun c => !c == b)
    rw [eraseDups_cons, mem_cons, ih, mem_filter, mem_cons]
    by_cases he : a = b
    · simp [he]
    · simp [he]
termination_by l.length
decreasing_by exact Nat.lt_succ_of_le (length_filter_le _ _)

theorem nodup_of_eraseDups (l : List α) : l.eraseDups.Nodup := by
  match l with
  | [] =>
    rw [eraseDups_nil]
    exact nodup_nil
  | b :: l =>
    have ih := nodup_of_eraseDups (l.filter fun c => !c == b)
    rw [eraseDups_cons, nodup_cons, mem_eraseDups_iff, mem_filter]
    exact ⟨by simp, ih⟩
termination_by l.length
decreasing_by exact Nat.lt_succ_of_le (length_filter_le _ _)

end List

namespace ExternalIntelligence
set_option autoImplicit true

/-- What becomes of a provider's output. -/
def decideProviderOutput (P : Platform) (personalEventHash storeId : String)
    (output : List (String × Value)) : TeamRoutingDecision :=
  match validateRoutingPayload P output with
  | .ok payload =>
    { status := .eligible
      reasonCode := "TEAM_ELIGIBLE"
      personalEventHash
      teamStoreId := storeId
      normalizedPayload := some payload }
  | .error error =>
    { status := .failed, reasonCode := error.text, personalEventHash, teamStoreId := storeId }

def freezeDecision (binding : TeamBinding) (status : RoutingStatus) (reasonCode stamp : String)
    (normalizedPayload : Option (List (String × Value))) : PreparedTeamRouting :=
  { status
    reasonCode
    normalizedPayload
    teamStoreId := binding.teamStoreId
    teamMemberId := binding.teamMemberId
    writerId := binding.writerId
    teamRootHash := binding.teamRootHash
    actorHash := binding.actorHash
    machineHash := binding.machineHash
    preparedAt := stamp }

/-- A decision must pass its own check once it is frozen. -/
def checkPrepared (P : Platform) (prepared : PreparedTeamRouting) :
    Except Raised PreparedTeamRouting :=
  if validatePreparedTeamRouting P prepared then .ok prepared
  else .error (teamError "TEAM_PREPARE_INVALID")

/-- Freezes what was decided for the team store, at an instant in UTC. -/
def prepareTeamRouting (P : Platform) (settings : TeamSettings) (now : Int)
    (decide : TeamDescriptor → TeamRoutingDecision) : Except Raised PreparedTeamRouting := do
  let stamp := P.isoformat now
  let binding ← bindingFields P settings settings.team
  match settings.team with
  | none => checkPrepared P (freezeDecision binding .notEligible "TEAM_DISABLED" stamp none)
  | some descriptor =>
    if !descriptor.enabled then
      checkPrepared P (freezeDecision binding .notEligible "TEAM_DISABLED" stamp none)
    else if binding.teamStoreId = "" then
      .ok (freezeDecision binding .failed "TEAM_IDENTITY_REQUIRED" stamp none)
    else
      let decision := decide descriptor
      let reason :=
        if isReasonCode decision.reasonCode then decision.reasonCode else "TEAM_ROUTING_FAILED"
      checkPrepared P
        (freezeDecision binding decision.status reason stamp decision.normalizedPayload)

def textOf (value : List (String × Value)) (name : String) : String :=
  (fieldOf value name).strOr ""

/-- The payload that texts and lists of a provider's output make. -/
def routingResult (value : List (String × Value)) (scope preconditions failureModes : List Value) :
    List (String × Value) :=
  [("scope", .list scope), ("preconditions", .list preconditions),
    ("failure_modes", .list failureModes), ("title", .str (stripText (textOf value "title"))),
    ("claim", .str (stripText (textOf value "claim"))),
    ("benefit", .str (stripText (textOf value "benefit"))),
    ("classification", .str (textOf value "classification"))]

/-- The text that the last check of a payload reads. -/
def joinedTexts (value : List (String × Value)) : List Char :=
  Text.chars (textOf value "title") ++ ['\n'] ++ Text.chars (textOf value "claim") ++ ['\n'] ++
    Text.chars (textOf value "benefit")

/-- What a provider's output is checked for, and the payload it is accepted as. -/
structure AcceptedOutput (P : Platform) (value : List (String × Value))
    (scope preconditions failureModes : List Value) : Prop where
  keys : hasKeys value routingFields = true
  title : nonemptyText (fieldOf value "title") = true
  titleLength : (Text.chars (textOf value "title")).length ≤ 160
  claim : (fieldOf value "claim").isStr = true
  claimLeast : 20 ≤ (Text.chars (textOf value "claim")).length
  claimMost : (Text.chars (textOf value "claim")).length ≤ 1200
  scopeTexts : routingTexts (fieldOf value "scope") = some scope
  preconditionTexts : routingTexts (fieldOf value "preconditions") = some preconditions
  failureTexts : routingTexts (fieldOf value "failure_modes") = some failureModes
  benefit : nonemptyText (fieldOf value "benefit") = true
  classification : ["public", "private-reusable"].contains (textOf value "classification") = true
  inspected : inspectPersistable P (.dict (routingResult value scope preconditions failureModes))
    (textOf value "classification") none (512 * 1024) = []
  privacy : ["CLASSIFIED", "GENERALIZATION_VERIFIED"].contains
    (inspectText P (joinedTexts (routingResult value scope preconditions failureModes))
      (textOf value "classification") (Text.chars "team-routing")).reasonCode = true

/-- One list field of a payload. -/
def routingList (value : List (String × Value)) (name : String) : Except Raised (String × Value) :=
  match routingTexts (fieldOf value name) with
  | some items => .ok (name, Value.list items)
  | none => .error (teamError "TEAM_ROUTING_RESPONSE_INVALID")

theorem routingList_ok : routingList value name = .ok item ↔
    ∃ items, routingTexts (fieldOf value name) = some items ∧ item = (name, .list items) := by
  rw [routingList]
  constructor
  · intro h
    split at h
    · rename_i items hitems
      cases h
      exact ⟨items, hitems, rfl⟩
    · cases h
  · rintro ⟨items, hitems, rfl⟩
    rw [hitems]

theorem routingLists_ok :
    ["scope", "preconditions", "failure_modes"].mapM (routingList value) = .ok lists ↔
    ∃ scope preconditions failureModes, routingTexts (fieldOf value "scope") = some scope ∧
      routingTexts (fieldOf value "preconditions") = some preconditions ∧
      routingTexts (fieldOf value "failure_modes") = some failureModes ∧
      lists = [("scope", .list scope), ("preconditions", .list preconditions),
        ("failure_modes", .list failureModes)] := by
  rw [List.mapM_cons, List.mapM_cons, List.mapM_cons, List.mapM_nil]
  constructor
  · intro h
    obtain ⟨first, hfirst, h⟩ := Except.bind_eq_ok.1 h
    obtain ⟨rest, hrest, h⟩ := Except.bind_eq_ok.1 h
    obtain ⟨second, hsecond, hrest⟩ := Except.bind_eq_ok.1 hrest
    obtain ⟨last, hlast, hrest⟩ := Except.bind_eq_ok.1 hrest
    obtain ⟨third, hthird, hlast⟩ := Except.bind_eq_ok.1 hlast
    cases hlast
    cases hrest
    cases h
    obtain ⟨scope, hscope, rfl⟩ := routingList_ok.1 hfirst
    obtain ⟨preconditions, hpreconditions, rfl⟩ := routingList_ok.1 hsecond
    obtain ⟨failureModes, hfailureModes, rfl⟩ := routingList_ok.1 hthird
    exact ⟨scope, preconditions, failureModes, hscope, hpreconditions, hfailureModes, rfl⟩
  · rintro ⟨scope, preconditions, failureModes, hscope, hpreconditions, hfailureModes, rfl⟩
    rw [routingList_ok.2 ⟨scope, hscope, rfl⟩, routingList_ok.2 ⟨preconditions, hpreconditions, rfl⟩,
      routingList_ok.2 ⟨failureModes, hfailureModes, rfl⟩]
    rfl

/-- The last checks of a payload. -/
def inspectRouting (P : Platform) (result : List (String × Value)) (classification : String) :
    Except Raised (List (String × Value)) := do
  match inspectPersistable P (.dict result) classification none (512 * 1024) with
    | issue :: _ => .error (teamError issue.reasonCode)
    | [] => pure ()
  let privacy := inspectText P (joinedTexts result) classification (Text.chars "team-routing")
  refuse (!(["CLASSIFIED", "GENERALIZATION_VERIFIED"].contains privacy.reasonCode))
    (teamError "TEAM_ROUTING_PRIVACY_REJECTED")
  pure result

theorem inspectRouting_ok : inspectRouting P result classification = .ok payload ↔
    inspectPersistable P (.dict result) classification none (512 * 1024) = [] ∧
    ["CLASSIFIED", "GENERALIZATION_VERIFIED"].contains
      (inspectText P (joinedTexts result) classification
        (Text.chars "team-routing")).reasonCode = true ∧
    payload = result := by
  unfold inspectRouting
  cases hinspect : inspectPersistable P (.dict result) classification none (512 * 1024) with
  | cons issue issues =>
    constructor
    · intro h
      cases h
    · rintro ⟨h, _⟩
      cases h
  | nil =>
    dsimp only
    rw [refuse_bind_ok, Bool.not_eq_false']
    constructor
    · rintro ⟨hprivacy, h⟩
      cases h
      exact ⟨rfl, hprivacy, rfl⟩
    · rintro ⟨_, hprivacy, rfl⟩
      exact ⟨hprivacy, rfl⟩

theorem validateRoutingPayload_eq : validateRoutingPayload P value = (do
    let error := teamError "TEAM_ROUTING_RESPONSE_INVALID"
    refuse (!hasKeys value routingFields) error
    refuse (!nonemptyText (fieldOf value "title") ||
      160 < (Text.chars (textOf value "title")).length) error
    refuse (!(fieldOf value "claim").isStr || (Text.chars (textOf value "claim")).length < 20 ||
      1200 < (Text.chars (textOf value "claim")).length) error
    let lists ← ["scope", "preconditions", "failure_modes"].mapM (routingList value)
    refuse (!nonemptyText (fieldOf value "benefit") ||
      !(["public", "private-reusable"].contains (textOf value "classification"))) error
    inspectRouting P (lists ++ [("title", .str (stripText (textOf value "title"))),
      ("claim", .str (stripText (textOf value "claim"))),
      ("benefit", .str (stripText (textOf value "benefit"))),
      ("classification", .str (textOf value "classification"))])
      (textOf value "classification")) :=
  rfl

theorem validateRoutingPayload_ok : validateRoutingPayload P value = .ok payload ↔
    ∃ scope preconditions failureModes,
      AcceptedOutput P value scope preconditions failureModes ∧
      payload = routingResult value scope preconditions failureModes := by
  rw [validateRoutingPayload_eq]
  dsimp only
  simp only [refuse_bind_ok, Bool.or_eq_false_iff, Bool.not_eq_false', decide_eq_false_iff_not,
    Nat.not_lt]
  constructor
  · rintro ⟨hkeys, ⟨htitle, htitleLength⟩, ⟨⟨hclaim, hleast⟩, hmost⟩, h⟩
    obtain ⟨lists, hlists, h⟩ := Except.bind_eq_ok.1 h
    obtain ⟨hrest, h⟩ := refuse_bind_ok.1 h
    simp only [Bool.or_eq_false_iff, Bool.not_eq_false'] at hrest
    obtain ⟨hbenefit, hclassification⟩ := hrest
    obtain ⟨scope, preconditions, failureModes, hscope, hpreconditions, hfailureModes, rfl⟩ :=
      routingLists_ok.1 hlists
    obtain ⟨hinspected, hprivacy, rfl⟩ := inspectRouting_ok.1 h
    exact ⟨scope, preconditions, failureModes,
      ⟨hkeys, htitle, htitleLength, hclaim, hleast, hmost, hscope, hpreconditions, hfailureModes,
        hbenefit, hclassification, hinspected, hprivacy⟩, rfl⟩
  · rintro ⟨scope, preconditions, failureModes, h, rfl⟩
    refine ⟨h.keys, ⟨h.title, h.titleLength⟩, ⟨⟨h.claim, h.claimLeast⟩, h.claimMost⟩, ?_⟩
    apply Except.bind_eq_ok.2
    refine ⟨_, routingLists_ok.2 ⟨scope, preconditions, failureModes, h.scopeTexts,
      h.preconditionTexts, h.failureTexts, rfl⟩, ?_⟩
    apply refuse_bind_ok.2
    constructor
    · rw [h.benefit, h.classification]
      rfl
    · rw [List.cons_append, List.cons_append, List.cons_append, List.nil_append, inspectRouting_ok]
      exact ⟨h.inspected, h.privacy, rfl⟩

section Normal

variable {value : List (String × Value)} {scope preconditions failureModes : List Value}

@[simp] theorem fieldOf_routingResult_scope :
    fieldOf (routingResult value scope preconditions failureModes) "scope" = .list scope := by
  simp [routingResult, fieldOf]

@[simp] theorem fieldOf_routingResult_preconditions :
    fieldOf (routingResult value scope preconditions failureModes) "preconditions" =
      .list preconditions := by
  simp [routingResult, fieldOf, List.lookup]

@[simp] theorem fieldOf_routingResult_failureModes :
    fieldOf (routingResult value scope preconditions failureModes) "failure_modes" =
      .list failureModes := by
  simp [routingResult, fieldOf, List.lookup]

@[simp] theorem fieldOf_routingResult_title :
    fieldOf (routingResult value scope preconditions failureModes) "title" =
      .str (stripText (textOf value "title")) := by
  simp [routingResult, fieldOf, List.lookup]

@[simp] theorem fieldOf_routingResult_claim :
    fieldOf (routingResult value scope preconditions failureModes) "claim" =
      .str (stripText (textOf value "claim")) := by
  simp [routingResult, fieldOf, List.lookup]

@[simp] theorem fieldOf_routingResult_benefit :
    fieldOf (routingResult value scope preconditions failureModes) "benefit" =
      .str (stripText (textOf value "benefit")) := by
  simp [routingResult, fieldOf, List.lookup]

@[simp] theorem fieldOf_routingResult_classification :
    fieldOf (routingResult value scope preconditions failureModes) "classification" =
      .str (textOf value "classification") := by
  simp [routingResult, fieldOf, List.lookup]

theorem stripText_stripText (s : String) : stripText (stripText s) = stripText s := by
  rw [stripText, stripText, Text.chars_eq_toList (String.ofList _), String.toList_ofList,
    Text.strip_strip]

theorem chars_stripText (s : String) : Text.chars (stripText s) = Text.strip (Text.chars s) := by
  rw [stripText, Text.chars_eq_toList (String.ofList _), String.toList_ofList]

/-- The texts of an accepted list: stripped, not blank, each once. -/
theorem routingTexts_some (h : routingTexts v = some items) :
    items ≠ [] ∧ items.Nodup ∧ ∀ item ∈ items, ∃ text, item = .str (stripText text) ∧
      stripText text ≠ "" := by
  unfold routingTexts at h
  obtain ⟨given, _, h⟩ := Option.bind_eq_some_iff.1 h
  split at h
  · cases h
  · rename_i hok
    cases h
    rw [Bool.not_eq_true, Bool.or_eq_false_iff, Bool.not_eq_false', List.all_eq_true] at hok
    obtain ⟨hnonempty, hall⟩ := hok
    refine ⟨?_, List.nodup_of_eraseDups _, ?_⟩
    · rw [ne_eq, eraseDups_eq_nil, List.map_eq_nil_iff]
      intro he
      rw [he] at hnonempty
      cases hnonempty
    · intro item hitem
      rw [List.mem_eraseDups_iff, List.mem_map] at hitem
      obtain ⟨source, hsource, rfl⟩ := hitem
      have hblank := hall source hsource
      rw [Bool.and_eq_true, bne_iff_ne] at hblank
      exact ⟨_, rfl, hblank.2⟩

/-- An accepted list is accepted again as it is. -/
theorem routingTexts_again (h : routingTexts v = some items) :
    routingTexts (.list items) = some items := by
  obtain ⟨hne, hnodup, htexts⟩ := routingTexts_some h
  have hall : items.all (fun item => item.isStr && stripText (item.strOr "") != "") = true := by
    rw [List.all_eq_true]
    intro item hitem
    obtain ⟨text, rfl, hblank⟩ := htexts item hitem
    rw [Bool.and_eq_true, bne_iff_ne]
    refine ⟨rfl, ?_⟩
    rw [Value.strOr, stripText_stripText]
    exact hblank
  have hmap : items.map (fun item => Value.str (stripText (item.strOr ""))) = items := by
    apply (List.map_congr_left _).trans (List.map_id items)
    intro item hitem
    obtain ⟨text, rfl, _⟩ := htexts item hitem
    rw [Value.strOr, stripText_stripText]
    rfl
  have hempty : items.isEmpty = false := by
    cases items with
    | nil => exact absurd rfl hne
    | cons => rfl
  rw [routingTexts, Value.items?, Option.bind_eq_bind, Option.bind_some, hempty, hall, hmap,
    List.eraseDups_of_nodup hnodup]
  rfl

/-- The payload of an output is what it is accepted as again. -/
theorem routingResult_again : routingResult (routingResult value scope preconditions failureModes)
    scope preconditions failureModes = routingResult value scope preconditions failureModes := by
  rw [routingResult, textOf, textOf, textOf, textOf, fieldOf_routingResult_title,
    fieldOf_routingResult_claim, fieldOf_routingResult_benefit,
    fieldOf_routingResult_classification, Value.strOr, Value.strOr, Value.strOr, Value.strOr,
    stripText_stripText, stripText_stripText, stripText_stripText]
  rfl

/-- An accepted output is accepted again as its payload just if no text of it is too short once
it is stripped. -/
theorem accepted_again (h : AcceptedOutput P value scope preconditions failureModes) :
    AcceptedOutput P (routingResult value scope preconditions failureModes) scope preconditions
      failureModes ↔
    stripText (textOf value "title") ≠ "" ∧
      20 ≤ (Text.strip (Text.chars (textOf value "claim"))).length ∧
      stripText (textOf value "benefit") ≠ "" := by
  constructor
  · intro hagain
    have htitle := hagain.title
    have hclaim := hagain.claimLeast
    have hbenefit := hagain.benefit
    rw [fieldOf_routingResult_title, nonemptyText, Bool.and_eq_true, bne_iff_ne] at htitle
    rw [textOf, fieldOf_routingResult_claim, Value.strOr, chars_stripText] at hclaim
    rw [fieldOf_routingResult_benefit, nonemptyText, Bool.and_eq_true, bne_iff_ne] at hbenefit
    exact ⟨htitle.2, hclaim, hbenefit.2⟩
  · rintro ⟨htitle, hclaim, hbenefit⟩
    have hlength : ∀ name, (Text.chars (stripText (textOf value name))).length ≤
        (Text.chars (textOf value name)).length := by
      intro name
      rw [chars_stripText]
      exact Text.length_strip_le _
    have hclassification : textOf (routingResult value scope preconditions failureModes)
        "classification" = textOf value "classification" := by
      rw [textOf, fieldOf_routingResult_classification]
      rfl
    have htextTitle : textOf (routingResult value scope preconditions failureModes) "title" =
        stripText (textOf value "title") := by
      rw [textOf, fieldOf_routingResult_title]
      rfl
    have htextClaim : textOf (routingResult value scope preconditions failureModes) "claim" =
        stripText (textOf value "claim") := by
      rw [textOf, fieldOf_routingResult_claim]
      rfl
    constructor
    · rfl
    · rw [fieldOf_routingResult_title, nonemptyText, Bool.and_eq_true, bne_iff_ne]
      exact ⟨rfl, htitle⟩
    · rw [htextTitle]
      exact le_trans (hlength "title") h.titleLength
    · rw [fieldOf_routingResult_claim]
      rfl
    · rw [htextClaim, chars_stripText]
      exact hclaim
    · rw [htextClaim]
      exact le_trans (hlength "claim") h.claimMost
    · rw [fieldOf_routingResult_scope]
      exact routingTexts_again h.scopeTexts
    · rw [fieldOf_routingResult_preconditions]
      exact routingTexts_again h.preconditionTexts
    · rw [fieldOf_routingResult_failureModes]
      exact routingTexts_again h.failureTexts
    · rw [fieldOf_routingResult_benefit, nonemptyText, Bool.and_eq_true, bne_iff_ne]
      exact ⟨rfl, hbenefit⟩
    · rw [hclassification]
      exact h.classification
    · rw [routingResult_again, hclassification]
      exact h.inspected
    · rw [routingResult_again, hclassification]
      exact h.privacy

end Normal

theorem isHash_of_domainHash {digest : String} (hP : P.HexDigests)
    (h : domainHash P value domain = .ok digest) : isHash digest = true := by
  unfold domainHash at h
  dsimp only at h
  split at h
  · cases h
  · cases h
    exact isHash_of_isDigest (hP _)

/-- A binding with a store has all of its parts. -/
structure FullBinding (binding : TeamBinding) : Prop where
  store : isTeamStoreId binding.teamStoreId = true
  member : isTeamMemberId binding.teamMemberId = true
  writer : isTeamWriterId binding.writerId = true
  rootHash : ∃ digest, binding.teamRootHash = some digest ∧ isHash digest = true
  actorHash : ∃ digest, binding.actorHash = some digest ∧ isHash digest = true
  machineHash : ∃ digest, binding.machineHash = some digest ∧ isHash digest = true

theorem fullBinding_of_bindingFields (hP : P.HexDigests)
    (h : bindingFields P settings descriptor = .ok binding) (hstore : binding.teamStoreId ≠ "") :
    FullBinding binding := by
  unfold bindingFields at h
  split at h
  · cases h
    exact absurd rfl hstore
  · dsimp only at h
    split at h
    · cases h
      exact absurd rfl hstore
    · rename_i rootHash hroot
      split at h
      · rename_i hvalid
        obtain ⟨actorHash, hactor, h⟩ := Except.bind_eq_ok.1 h
        obtain ⟨machineHash, hmachine, h⟩ := Except.bind_eq_ok.1 h
        cases h
        simp only [Bool.and_eq_true] at hvalid
        obtain ⟨⟨⟨hid, hmember⟩, hwriter⟩, _⟩ := hvalid
        obtain ⟨root, _, hroot⟩ := Option.bind_eq_some_iff.1 hroot
        have hrootHash : isHash rootHash = true := by
          cases hdomain : teamRootHash P root with
          | error e =>
            rw [hdomain] at hroot
            cases hroot
          | ok digest =>
            rw [hdomain] at hroot
            cases hroot
            exact isHash_of_domainHash hP hdomain
        exact ⟨hid, hmember, hwriter, ⟨_, rfl, hrootHash⟩,
          ⟨_, rfl, isHash_of_domainHash hP hactor⟩, ⟨_, rfl, isHash_of_domainHash hP hmachine⟩⟩
      · cases h
        exact absurd rfl hstore

theorem ne_empty_of_isTeamToken (h : isTeamToken start s = true) : s ≠ "" := by
  rintro rfl
  have hnil : Text.chars "" = [] := by decide
  simp only [isTeamToken, hnil, List.drop_nil, Bool.and_eq_true, decide_eq_true_eq] at h
  obtain ⟨⟨⟨_, hleast⟩, _⟩, _⟩ := h
  cases hleast

theorem ne_empty_of_isTeamMemberId (h : isTeamMemberId s = true) : s ≠ "" := by
  rintro rfl
  have hnil : Text.chars "" = [] := by decide
  rw [isTeamMemberId, hnil] at h
  cases h

theorem sameFields_refl (payload : List (String × Value)) : sameFields payload payload = true := by
  rw [sameFields, beq_self_eq_true]

/-- A frozen payload passes the check of the decision just if it is accepted again as it is. -/
theorem validatePrepared_eligible (hbinding : FullBinding binding)
    (hstamp : (preparedMoment P stamp).isSome = true)
    (hagain : ∀ again, validateRoutingPayload P payload = .ok again → again = payload) :
    validatePreparedTeamRouting P
      (freezeDecision binding .eligible "TEAM_ELIGIBLE" stamp (some payload)) = true ↔
    validateRoutingPayload P payload = .ok payload := by
  obtain ⟨rootHash, hroot, hrootHash⟩ := hbinding.rootHash
  obtain ⟨actorHash, hactor, hactorHash⟩ := hbinding.actorHash
  obtain ⟨machineHash, hmachine, hmachineHash⟩ := hbinding.machineHash
  have hreason : isReasonCode "TEAM_ELIGIBLE" = true := by decide
  have hstore := ne_empty_of_isTeamToken hbinding.store
  have hmember := ne_empty_of_isTeamMemberId hbinding.member
  have hwriter := ne_empty_of_isTeamToken hbinding.writer
  have hidentity : (binding.teamStoreId != "" && binding.teamMemberId != "" &&
      binding.writerId != "") = true := by
    simp [hstore, hmember, hwriter]
  rw [validatePreparedTeamRouting, freezeDecision]
  dsimp only
  rw [hidentity, hroot, hactor, hmachine, hreason, hbinding.store, hbinding.member, hbinding.writer,
    hstamp]
  simp only [List.all_cons, List.all_nil, Option.all_some, hrootHash, hactorHash, hmachineHash,
    Option.isSome_some, Bool.and_true, Bool.true_and, Bool.not_true, Bool.false_or,
    beq_self_eq_true]
  constructor
  · intro h
    cases hok : validateRoutingPayload P payload with
    | ok again => rw [hagain again hok]
    | error e =>
      rw [hok] at h
      cases h
  · intro h
    rw [h]
    exact sameFields_refl payload

end ExternalIntelligence
