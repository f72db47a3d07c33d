import ExternalIntelligence.JournalRuns
import ExternalIntelligence.TeamOutbox

namespace ExternalIntelligence
set_option autoImplicit true

theorem fromDict_ok {found : Event} (h : Event.fromDict data = .ok found) :
    found.integritySha256 = (fieldOf data "integrity_sha256").strOr "" ∧
      (data.lookup "idempotency_key").getD (.str "") = .str found.idempotencyKey ∧
      fieldOf data "payload" = .dict found.payload := by
  unfold Event.fromDict at h
  obtain ⟨_, h⟩ := refuse_bind_ok.1 h
  dsimp only at h
  split at h
  · obtain ⟨_, _, h⟩ := Except.bind_eq_ok.1 h
    obtain ⟨_, _, h⟩ := Except.bind_eq_ok.1 h
    split at h
    · rename_i payload hpayload
      rw [pure_bind] at h
      split at h
      · rw [pure_bind] at h
        obtain ⟨_, h⟩ := refuse_bind_ok.1 h
        split at h
        · rw [pure_bind] at h
          split at h
          · rename_i key hkey
            cases h
            exact ⟨rfl, hkey, hpayload⟩
          · cases h
        · cases h
      · cases h
    · cases h
  · cases h
theorem readEvent_ok (h : readEvent P bounded disk path = .ok found) :
    ∃ fields, disk.files.lookup path = some (.dict fields) ∧
      Event.fromDict fields = .ok found := by
  rw [readEvent] at h
  split at h
  · cases h
  · rename_i content hcontent
    split at h
    · cases h
    · cases content with
      | dict fields =>
        refine ⟨fields, hcontent, ?_⟩
        unfold readMapping at h
        obtain ⟨_, _, h⟩ := Except.bind_eq_ok.1 h
        obtain ⟨e, hread, h⟩ := Except.bind_eq_ok.1 h
        obtain ⟨_, _, h⟩ := Except.bind_eq_ok.1 h
        cases h
        cases hf : Event.fromDict fields with
        | error error =>
          rw [hf] at hread
          cases hread
        | ok e =>
          rw [hf] at hread
          cases hread
          rfl
      | _ => cases h

/-- An event of version 2 is what its own mapping is read as. -/
theorem fromDict_toDict (event : Event) {found : Event} (h : event.schemaVersion = 2)
    (hr : Event.fromDict event.toDict = .ok found) :
    found = event := by
  obtain ⟨id, type, occurred, actor, machine, payload, version, digest, key, provenance,
    integrity⟩ := event
  cases h
  simp only [Event.fromDict, Event.toDict, Event.canonicalDict, eventTextFields, fieldOf] at hr
  simp [Value.isStr, Value.strOr, Value.items?, List.lookup] at hr
  obtain ⟨_, _, rfl⟩ := Except.map_eq_ok.1 hr
  rfl

/-- The event with its digest. -/
def sealedEvent (T : TeamPlatform) (event : Event) : Event :=
  { event with integritySha256 := eventIntegrity T.toPlatform event }

theorem validateTeamEventMapping_ok (h : validateTeamEventMapping T value = .ok event) :
    isTeamEventId ((fieldOf value "event_id").strOr "") = true ∧
      Event.fromDict value = .ok event := by
  unfold validateTeamEventMapping at h
  obtain ⟨_, h⟩ := refuse_bind_ok.1 h
  obtain ⟨_, h⟩ := refuse_bind_ok.1 h
  obtain ⟨hid, h⟩ := refuse_bind_ok.1 h
  obtain ⟨_, h⟩ := refuse_bind_ok.1 h
  obtain ⟨_, _, h⟩ := Except.bind_eq_ok.1 h
  obtain ⟨_, h⟩ := refuse_bind_ok.1 h
  obtain ⟨_, h⟩ := refuse_bind_ok.1 h
  obtain ⟨_, _, h⟩ := Except.bind_eq_ok.1 h
  obtain ⟨_, h⟩ := refuse_bind_ok.1 h
  obtain ⟨_, _, h⟩ := Except.bind_eq_ok.1 h
  obtain ⟨_, h⟩ := refuse_bind_ok.1 h
  obtain ⟨_, h⟩ := refuse_bind_ok.1 h
  obtain ⟨_, _, h⟩ := Except.bind_eq_ok.1 h
  obtain ⟨_, _, h⟩ := Except.bind_eq_ok.1 h
  obtain ⟨_, h⟩ := refuse_bind_ok.1 h
  obtain ⟨_, h⟩ := refuse_bind_ok.1 h
  obtain ⟨found, hfound, h⟩ := Except.bind_eq_ok.1 h
  obtain ⟨_, h⟩ := refuse_bind_ok.1 h
  obtain ⟨_, _, h⟩ := Except.bind_eq_ok.1 h
  cases h
  constructor
  · simp only [Bool.or_eq_false_iff, Bool.not_eq_false'] at hid
    exact hid.2
  · cases hread : Event.fromDict value with
    | error e =>
      rw [hread] at hfound
      cases hfound
    | ok e =>
      rw [hread] at hfound
      cases hfound
      rfl

theorem materializeTeamEvent_ok (h : materializeTeamEvent T event = .ok m) :
    m = sealedEvent T event ∧ isTeamEventId event.eventId = true ∧ event.schemaVersion = 2 := by
  unfold materializeTeamEvent at h
  obtain ⟨hv, h⟩ := refuse_bind_ok.1 h
  obtain ⟨_, h⟩ := refuse_bind_ok.1 h
  obtain ⟨_, h⟩ := refuse_bind_ok.1 h
  obtain ⟨hid, hread⟩ := validateTeamEventMapping_ok h
  have hversion : event.schemaVersion = 2 := by simpa using hv
  refine ⟨fromDict_toDict (sealedEvent T event) hversion hread, ?_, hversion⟩
  simpa [Event.toDict, Event.canonicalDict, fieldOf, List.lookup, Value.strOr] using hid

/-- Where an event of a member's writer is stored, if its time can be read. -/
def eventTarget (T : TeamPlatform) (member writer : String) (event : Event) : List String :=
  match teamEventPartition T event with
  | .ok partition => teamEventDirectory member writer partition ++ [event.eventId ++ ".json"]
  | .error _ => []

theorem placeTeamEvent_ok (h : placeTeamEvent T member writer event = .ok (m, directory)) :
    m = sealedEvent T event ∧ isTeamEventId event.eventId = true ∧ event.schemaVersion = 2 ∧
      directory ++ [m.eventId ++ ".json"] = eventTarget T member writer event := by
  unfold placeTeamEvent at h
  obtain ⟨_, h⟩ := refuse_bind_ok.1 h
  obtain ⟨_, h⟩ := refuse_bind_ok.1 h
  obtain ⟨m', hm, h⟩ := Except.bind_eq_ok.1 h
  obtain ⟨_, h⟩ := refuse_bind_ok.1 h
  obtain ⟨partition, hp, h⟩ := Except.bind_eq_ok.1 h
  cases h
  obtain ⟨rfl, hid, hversion⟩ := materializeTeamEvent_ok hm
  refine ⟨rfl, hid, hversion, ?_⟩
  have hpart : teamEventPartition T event = .ok partition := hp
  rw [eventTarget, hpart]
  rfl

/-- A name that a temporary file may have. -/
def isTemporary (path : List String) : Bool :=
  (Text.chars ".partial").isPrefixOf (Text.chars (path.getLastD ""))

theorem isTemporary_concat (directory : List String) (name : String) :
    isTemporary (directory ++ [name]) = (Text.chars ".partial").isPrefixOf name.toList := by
  rw [isTemporary, List.getLastD_concat, Text.chars_eq_toList name]

theorem isTemporary_temporary (directory : List String) (uuid : String) :
    isTemporary (directory ++ [temporaryPrefix ++ uuid]) = true := by
  rw [isTemporary_concat, Text.chars_eq_toList, String.toList_append]
  rfl

theorem isTemporary_event {name : String} (h : name.toList.head? = some 'e') :
    isTemporary (directory ++ [name]) = false := by
  have hp : Text.chars ".partial" = ['.', 'p', 'a', 'r', 't', 'i', 'a', 'l'] := by decide
  rw [isTemporary_concat, hp]
  cases hn : name.toList with
  | nil => rfl
  | cons c cs =>
    rw [hn] at h
    cases h
    rfl

theorem head_of_isTeamEventId (h : isTeamEventId name = true) : name.toList.head? = some 'e' := by
  have hp : Text.chars "evt_" = ['e', 'v', 't', '_'] := by decide
  rw [isTeamEventId] at h
  split at h
  · cases h
  · simp only [Bool.and_eq_true, hp, List.isPrefixOf_iff_prefix] at h
    obtain ⟨rest, hrest⟩ := h.1.1.1
    rw [← Text.chars_eq_toList, ← hrest]
    rfl

theorem isTemporary_eventTarget (h : event.eventId.toList.head? = some 'e') :
    isTemporary (eventTarget T member writer event) = false := by
  rw [eventTarget]
  split
  · apply isTemporary_event
    rw [String.toList_append, List.head?_append, h]
    rfl
  · decide

/-- Whether a file holds an event with a key, at its top or in its payload. -/
def Carries (key : String) (content : Value) : Prop :=
  ∃ fields event, content = .dict fields ∧ Event.fromDict fields = .ok event ∧
    (event.idempotencyKey = key ∨ fieldOf event.payload "idempotency_key" = .str key)

theorem eq_str_of_canonical {v : Value} (h : v.canonical = .str text) : v = .str text := by
  cases v with
  | str s => exact h
  | dict fields => rw [Value.canonical_dict] at h; cases h
  | list items => rw [Value.canonical_list] at h; cases h
  | tuple items => rw [Value.canonical_tuple] at h; cases h
  | _ => cases h

theorem not_carries_content {event : Event} (h2 : event.schemaVersion = 2)
    (hd : (Dict.keys event.payload).Nodup) (hk : event.idempotencyKey ≠ key)
    (hp : fieldOf event.payload "idempotency_key" ≠ .str key) : ¬Carries key event.content := by
  rintro ⟨fields, found, hfields, hread, hcarries⟩
  rw [Event.content, Value.canonical_dict, Value.dict.injEq] at hfields
  have hm := mappingOf_content event
  rw [hfields] at hm
  obtain ⟨_, hkey, hpayload⟩ := fromDict_ok hread
  rw [hm.idempotencyKey, h2, if_pos (le_refl _), Option.getD_some, Value.str.injEq] at hkey
  rw [fieldOf, hm.payload, Option.getD_some, Value.dict.injEq] at hpayload
  rcases hcarries with hc | hc
  · exact hk (hkey.trans hc)
  · apply hp
    rw [← hpayload, fieldOf, Value.lookup_canonicalObject hd] at hc
    rw [fieldOf]
    cases hl : event.payload.lookup "idempotency_key" with
    | none => rw [hl] at hc; cases hc
    | some v =>
      rw [hl] at hc
      exact eq_str_of_canonical hc

/-- A decision and the personal event it is delivered for, with the event they determine. -/
structure FrozenDelivery (T : TeamPlatform) where
  prepared : PreparedTeamRouting
  personalEventHash : String
  event : Event
  frozen : preparedEvent T prepared personalEventHash = .ok event

namespace FrozenDelivery

variable {T : TeamPlatform} (F : FrozenDelivery T)

def key : String :=
  F.event.idempotencyKey

/-- The file of the event. -/
def content : Value :=
  (sealedEvent T F.event).content

def target : List String :=
  eventTarget T F.prepared.teamMemberId F.prepared.writerId F.event

def receiptId : String :=
  outboxReceiptId T F.personalEventHash F.prepared.teamStoreId F.key

def spoolId : String :=
  outboxSpoolId F.receiptId

def payload : Value :=
  (Value.dict (outboxPayload F.prepared F.event)).canonical

def Stored (w : TeamWorld) : Prop :=
  w.team.files.lookup F.target = some F.content

/-- The body is there or was removed. -/
def Kept (w : TeamWorld) : Prop :=
  (w.bodies.lookup F.spoolId).isSome = true ∨ ∃ cause, .removed F.spoolId cause ∈ w.trace

/-- The receipt of the decision as the outbox may have it. -/
structure Own (receipt : OutboxReceipt) : Prop where
  receiptId : receipt.receiptId = F.receiptId
  waits : receipt.status ≠ .delivered
  body : ∃ ref, receipt.spoolRef = some ref ∧ ref.spoolId = F.spoolId

/-- A receipt of other work. -/
structure Foreign (receipt : OutboxReceipt) : Prop where
  receiptId : receipt.receiptId ≠ F.receiptId
  key : receipt.idempotencyKey ≠ F.key
  body : ∀ ref, receipt.spoolRef = some ref → ref.spoolId ≠ F.spoolId
  unnamed : receipt.receiptId ≠ F.spoolId

/-- A body of other work: its event has another key and another place. -/
structure ForeignEvent (member writer : String) (event : Event) : Prop where
  key : event.idempotencyKey ≠ F.key
  distinct : (Dict.keys event.payload).Nodup
  payloadKey : fieldOf event.payload "idempotency_key" ≠ .str F.key
  target : eventTarget T member writer event ≠ F.target

def ForeignBody (payload : Value) : Prop :=
  ∀ value fields event member writer, payload = .dict value →
    fieldOf value "event" = .dict fields → Event.fromDict fields = .ok event →
    fieldOf value "member_id" = .str member → fieldOf value "writer_id" = .str writer →
    F.ForeignEvent member writer event

/-- What is true of the store and the outbox at any time. -/
structure Holds (w : TeamWorld) : Prop where
  keyed : ∀ path content, w.team.files.lookup path = some content → isTemporary path = false →
    Carries F.key content → path = F.target ∧ content = F.content
  own : ∀ receipt, w.receipts.lookup F.receiptId = some receipt →
    F.Own receipt ∧ F.Kept w ∧ .receipt F.receiptId receipt.status ∈ w.trace
  foreign : ∀ id receipt, w.receipts.lookup id = some receipt → id ≠ F.receiptId →
    F.Foreign receipt
  body : ∀ body, w.bodies.lookup F.spoolId = some body → body.payload = F.payload
  foreignBody : ∀ id body, w.bodies.lookup id = some body → id ≠ F.spoolId →
    F.ForeignBody body.payload
  removals : ∀ cause, .removed F.spoolId cause ∈ w.trace →
    ∃ expiresAt readAt, cause = .expired expiresAt readAt ∧ expiresAt ≤ readAt

/-- What a later moment keeps. The content of a temporary file is its writer's alone. -/
structure Leads (s t : TeamWorld) : Prop where
  stored : F.Stored s → F.Stored t
  kept : F.Kept s → F.Kept t
  drawn : s.drawn ≤ t.drawn
  temporaries : ∀ n directory content, n < s.drawn →
    t.team.files.lookup (directory ++ [temporaryPrefix ++ T.uuid n]) = some content →
    s.team.files.lookup (directory ++ [temporaryPrefix ++ T.uuid n]) = some content

def discipline : Discipline TeamWorld where
  Holds := F.Holds
  Leads := F.Leads
  refl _ := ⟨id, id, le_refl _, fun _ _ _ _ h => h⟩
  trans h h' := ⟨h'.stored ∘ h.stored, h'.kept ∘ h.kept, h.drawn.trans h'.drawn,
    fun n directory content hn hl =>
      h.temporaries n directory content hn
        (h'.temporaries n directory content (hn.trans_le h.drawn) hl)⟩

/-- A step keeps the discipline. -/
def Keeps (s t : TeamWorld) : Prop :=
  F.Holds t ∧ F.Leads s t

theorem event_fields : F.event.eventId.toList.head? = some 'e' ∧ F.event.schemaVersion = 2 ∧
    F.event.integritySha256 = "" ∧ teamIdempotencyKey T.toPlatform F.personalEventHash
      F.prepared.teamStoreId = .ok F.key := by
  obtain ⟨prepared, hash, event, frozen⟩ := F
  unfold preparedEvent at frozen
  obtain ⟨_, _, h⟩ := Except.bind_eq_ok.1 frozen
  obtain ⟨_, _, h⟩ := Except.bind_eq_ok.1 h
  obtain ⟨_, hkey, h⟩ := Except.bind_eq_ok.1 h
  obtain ⟨_, _, h⟩ := Except.bind_eq_ok.1 h
  cases h
  refine ⟨?_, rfl, rfl, hkey⟩
  simp only [String.toList_append, List.head?_append]
  rfl

theorem isTemporary_target : isTemporary F.target = false :=
  isTemporary_eventTarget F.event_fields.1

/-- A step that leaves the files, the receipts, the bodies and the trace as they are. -/
theorem keeps_calm {F : FrozenDelivery T} (h : F.Holds s) (hf : t.team.files = s.team.files)
    (hr : t.receipts = s.receipts) (hb : t.bodies = s.bodies) (ht : t.trace = s.trace)
    (hd : t.drawn = s.drawn) : F.Keeps s t := by
  have hk : F.Kept t ↔ F.Kept s := by rw [Kept, Kept, hb, ht]
  constructor
  · constructor
    · rw [hf]
      exact h.keyed
    · rw [hr, hk, ht]
      exact h.own
    · rw [hr]
      exact h.foreign
    · rw [hb]
      exact h.body
    · rw [hb]
      exact h.foreignBody
    · rw [ht]
      exact h.removals
  · constructor
    · rw [Stored, Stored, hf]
      exact id
    · exact hk.2
    · rw [hd]
    · rw [hf]
      exact fun _ _ _ _ h => h

/-- A step on the files alone. -/
theorem keeps_files {F : FrozenDelivery T} (h : F.Holds s) (hr : t.receipts = s.receipts)
    (hb : t.bodies = s.bodies) (ht : t.trace = s.trace) (hd : s.drawn ≤ t.drawn)
    (hkeyed : ∀ path content, t.team.files.lookup path = some content →
      isTemporary path = false → Carries F.key content → path = F.target ∧ content = F.content)
    (hstored : F.Stored s → F.Stored t)
    (htemp : ∀ n directory content, n < s.drawn →
      t.team.files.lookup (directory ++ [temporaryPrefix ++ T.uuid n]) = some content →
      s.team.files.lookup (directory ++ [temporaryPrefix ++ T.uuid n]) = some content) :
    F.Keeps s t := by
  have hk : F.Kept t ↔ F.Kept s := by rw [Kept, Kept, hb, ht]
  constructor
  · constructor
    · exact hkeyed
    · rw [hr, hk, ht]
      exact h.own
    · rw [hr]
      exact h.foreign
    · rw [hb]
      exact h.body
    · rw [hb]
      exact h.foreignBody
    · rw [ht]
      exact h.removals
  · exact ⟨hstored, hk.2, hd, htemp⟩

theorem keeps_writeTemporary {F : FrozenDelivery T} {content : Value} (hT : Function.Injective T.uuid)
    (h : F.Holds s) : F.Keeps s (({ s with drawn := s.drawn + 1 } : TeamWorld).setTeam
      (directory ++ [temporaryPrefix ++ T.uuid s.drawn]) content) := by
  apply keeps_files h
  · rfl
  · rfl
  · rfl
  · exact Nat.le_succ _
  · intro path found hl htemp
    rw [TeamWorld.setTeam, Dict.lookup_set] at hl
    split at hl
    · rename_i he
      rw [← he, isTemporary_temporary] at htemp
      cases htemp
    · exact h.keyed path found hl htemp
  · intro hs
    rw [Stored, TeamWorld.setTeam, Dict.lookup_set_of_ne]
    · exact hs
    · intro he
      have htemp := F.isTemporary_target
      rw [← he, isTemporary_temporary] at htemp
      cases htemp
  · intro n directory' found hn hl
    rw [TeamWorld.setTeam, Dict.lookup_set_of_ne] at hl
    · exact hl
    · intro he
      have hname := (List.append_inj' he rfl).2
      have huuid : T.uuid s.drawn = T.uuid n := by
        have hcancel := congrArg String.toList (List.cons.inj hname).1
        rw [String.toList_append, String.toList_append, List.append_cancel_left_eq] at hcancel
        exact String.toList_inj.1 hcancel
      have hsame := hT huuid
      omega

theorem keeps_drawn {F : FrozenDelivery T} (h : F.Holds s) :
    F.Keeps s { s with drawn := s.drawn + 1 } := by
  apply keeps_files h
  · rfl
  · rfl
  · rfl
  · exact Nat.le_succ _
  · exact h.keyed
  · exact id
  · intro n directory content _ hl
    exact hl

theorem keeps_dropTemporary {F : FrozenDelivery T} (h : F.Holds s)
    (htemp : isTemporary path = true) : F.Keeps s (s.dropTeam path) := by
  have hlookup : ∀ path' content, (s.dropTeam path).team.files.lookup path' = some content →
      s.team.files.lookup path' = some content := by
    intro path' content hl
    rw [TeamWorld.dropTeam, Dict.lookup_erase] at hl
    split at hl
    · cases hl
    · exact hl
  apply keeps_files h
  · rfl
  · rfl
  · rfl
  · exact le_refl _
  · intro path' content hl
    exact h.keyed path' content (hlookup path' content hl)
  · intro hs
    rw [Stored, TeamWorld.dropTeam, Dict.lookup_erase, if_neg]
    · exact hs
    · intro he
      have hno := F.isTemporary_target
      rw [he, htemp] at hno
      cases hno
  · intro n directory content _ hl
    exact hlookup _ content hl

/-- What may be written in the place of an event: the event of the decision in its own place, and
no event with its key elsewhere. -/
def MayHold (path : List String) (content : Value) : Prop :=
  path = F.target ∧ content = F.content ∨ path ≠ F.target ∧ ¬Carries F.key content

theorem keeps_setTeam {F : FrozenDelivery T} {content : Value} (h : F.Holds s) (htemp : isTemporary path = false)
    (hm : F.MayHold path content) : F.Keeps s (s.setTeam path content) := by
  apply keeps_files h
  · rfl
  · rfl
  · rfl
  · exact le_refl _
  · intro path' content' hl hno hc
    rw [TeamWorld.setTeam, Dict.lookup_set] at hl
    split at hl
    · rename_i he
      cases hl
      rcases hm with ⟨rfl, rfl⟩ | ⟨_, hnot⟩
      · exact ⟨he.symm, rfl⟩
      · exact absurd hc hnot
    · exact h.keyed path' content' hl hno hc
  · intro hs
    rw [Stored, TeamWorld.setTeam, Dict.lookup_set]
    split
    · rename_i he
      rcases hm with ⟨_, rfl⟩ | ⟨hne, _⟩
      · rfl
      · exact absurd he hne
    · exact hs
  · intro n directory content' _ hl
    rw [TeamWorld.setTeam, Dict.lookup_set_of_ne] at hl
    · exact hl
    · intro he
      rw [he, isTemporary_temporary] at htemp
      cases htemp

theorem Keeps.trans {F : FrozenDelivery T} (h : F.Keeps s t) (h' : F.Keeps t u) : F.Keeps s u :=
  ⟨h'.1, F.discipline.trans h.2 h'.2⟩

theorem keeps_putBody {F : FrozenDelivery T} (h : F.Holds s) {body : SpoolBody}
    (hp : body.payload = F.payload) : F.Keeps s (s.putBody F.spoolId body) := by
  have hk : F.Kept (s.putBody F.spoolId body) := by
    left
    rw [TeamWorld.putBody, Dict.lookup_set_self]
    rfl
  constructor
  · constructor
    · exact h.keyed
    · intro receipt hl
      obtain ⟨hown, _, htrace⟩ := h.own receipt hl
      exact ⟨hown, hk, htrace⟩
    · exact h.foreign
    · intro body' hl
      rw [TeamWorld.putBody, Dict.lookup_set_self] at hl
      cases hl
      exact hp
    · intro id body' hl hne
      rw [TeamWorld.putBody, Dict.lookup_set_of_ne (Ne.symm hne)] at hl
      exact h.foreignBody id body' hl hne
    · exact h.removals
  · exact ⟨id, fun _ => hk, le_refl _, fun _ _ _ _ hl => hl⟩

/-- A body of other work is removed, or the decision's after a read found it expired. -/
theorem keeps_removeBody {F : FrozenDelivery T} {spoolId : String} (h : F.Holds s)
    (hc : spoolId = F.spoolId →
      ∃ expiresAt readAt, cause = .expired expiresAt readAt ∧ expiresAt ≤ readAt) :
    F.Keeps s (s.removeBody spoolId cause) := by
  have hlookup : ∀ id body, (s.removeBody spoolId cause).bodies.lookup id = some body →
      s.bodies.lookup id = some body := by
    intro id body hl
    rw [TeamWorld.removeBody, Dict.lookup_erase] at hl
    split at hl
    · cases hl
    · exact hl
  have hk : F.Kept s → F.Kept (s.removeBody spoolId cause) := by
    rintro (hs | ⟨earlier, he⟩)
    · by_cases heq : F.spoolId = spoolId
      · exact .inr ⟨cause, by simp [TeamWorld.removeBody, heq]⟩
      · left
        rw [TeamWorld.removeBody, Dict.lookup_erase, if_neg heq]
        exact hs
    · exact .inr ⟨earlier, List.mem_append_left _ he⟩
  constructor
  · constructor
    · exact h.keyed
    · intro receipt hl
      obtain ⟨hown, hkept, htrace⟩ := h.own receipt hl
      exact ⟨hown, hk hkept, List.mem_append_left _ htrace⟩
    · exact h.foreign
    · intro body hl
      exact h.body body (hlookup _ body hl)
    · intro id body hl
      exact h.foreignBody id body (hlookup id body hl)
    · intro earlier he
      rcases List.mem_append.1 he with he | he
      · exact h.removals earlier he
      · rw [List.mem_singleton] at he
        cases he
        exact hc rfl
  · exact ⟨id, hk, le_refl _, fun _ _ _ _ hl => hl⟩

/-- A receipt that may be written: the decision's once its body was kept, or one of other work. -/
def MayWrite (receipt : OutboxReceipt) (w : TeamWorld) : Prop :=
  F.Own receipt ∧ F.Kept w ∨ F.Foreign receipt

theorem keeps_putReceipt {F : FrozenDelivery T} (h : F.Holds s) (hm : F.MayWrite receipt s) :
    F.Keeps s (s.putReceipt receipt) := by
  have hremoved : ∀ cause, .removed F.spoolId cause ∈ (s.putReceipt receipt).trace →
      .removed F.spoolId cause ∈ s.trace := by
    intro cause hc
    rcases List.mem_append.1 hc with hc | hc
    · exact hc
    · rw [List.mem_singleton] at hc
      cases hc
  have hk : F.Kept s → F.Kept (s.putReceipt receipt) := by
    rintro (hs | ⟨cause, hc⟩)
    · exact .inl hs
    · exact .inr ⟨cause, List.mem_append_left _ hc⟩
  constructor
  · constructor
    · exact h.keyed
    · intro found hl
      rw [TeamWorld.putReceipt, Dict.lookup_set] at hl
      split at hl
      · rename_i he
        cases hl
        rcases hm with ⟨hown, hkept⟩ | hforeign
        · refine ⟨hown, hk hkept, ?_⟩
          apply List.mem_append_right
          rw [he]
          exact List.mem_singleton_self _
        · exact absurd he hforeign.receiptId
      · obtain ⟨hown, hkept, htrace⟩ := h.own found hl
        exact ⟨hown, hk hkept, List.mem_append_left _ htrace⟩
    · intro id found hl hne
      rw [TeamWorld.putReceipt, Dict.lookup_set] at hl
      split at hl
      · rename_i he
        cases hl
        rcases hm with ⟨hown, _⟩ | hforeign
        · exact absurd (he.symm.trans hown.receiptId) hne
        · exact hforeign
      · exact h.foreign id found hl hne
    · exact h.body
    · exact h.foreignBody
    · intro cause hc
      exact h.removals cause (hremoved cause hc)
  · exact ⟨id, hk, le_refl _, fun _ _ _ _ hl => hl⟩

end FrozenDelivery

end ExternalIntelligence
