import ExternalIntelligence.DeliveryDiscipline

namespace ExternalIntelligence
set_option autoImplicit true

namespace FrozenDelivery

open Discipline

variable {T : TeamPlatform} {F : FrozenDelivery T} {s : TeamWorld}

/-- A program keeps the discipline, whatever it returns. -/
def Tame (F : FrozenDelivery T) (call : TeamCall α) (s : TeamWorld) : Prop :=
  F.discipline.Answers (fun _ _ => True) call s

theorem Tame.andThen {call : TeamCall α} {next : α → TeamCall β} (h : F.Tame call s)
    (hnext : ∀ a t, F.Leads s t → F.Holds t → F.discipline.Answers R (next a) t) :
    F.discipline.Answers R (call >>= next) s :=
  Answers.andThen h fun a t hl ht _ => hnext a t hl ht

theorem tame_look {f : TeamWorld → Except Raised α} : F.Tame (Call.look f) s :=
  answers_look fun _ _ _ _ _ _ _ _ => trivial

theorem tame_pure {a : α} : F.Tame (pure a) s :=
  answers_pure fun _ _ _ => trivial

theorem tame_ofExcept {result : Except Raised α} : F.Tame (Call.ofExcept result) s :=
  answers_ofExcept fun _ _ _ _ _ => trivial

theorem tame_atomic {f : TeamWorld → Except Raised α × TeamWorld}
    (h : ∀ t, F.Leads s t → F.Holds t → F.Keeps t (f t).2) : F.Tame (Call.atomic f) s :=
  answers_atomic fun t hl ht => ⟨h t hl ht, fun _ _ _ _ _ => trivial⟩

theorem Answers.tame {call : TeamCall α} (h : F.discipline.Answers R call s) : F.Tame call s :=
  h.mono fun _ _ _ _ _ => trivial

theorem Tame.attempt {call : TeamCall α} (h : F.Tame call s) : F.Tame call.attempt s :=
  (Discipline.Answers.attempt h).mono fun _ _ _ _ _ => trivial

theorem keeps_refl (h : F.Holds s) : F.Keeps s s :=
  ⟨h, F.discipline.refl s⟩

section Store

variable {path target temporary : List String} {event : Event} {content : Value}

theorem tame_ensureDirectories (paths : List (List String)) :
    F.Tame (ensureDirectories paths) s := by
  induction paths generalizing s with
  | nil => exact tame_pure
  | cons path paths ih =>
    apply Tame.andThen
    · apply tame_atomic
      intro t _ ht
      split
      · exact keeps_refl ht
      · apply keeps_calm ht
        · rw [TeamWorld.makeTeamDirectory]; split <;> rfl
        · rw [TeamWorld.makeTeamDirectory]; split <;> rfl
        · rw [TeamWorld.makeTeamDirectory]; split <;> rfl
        · rw [TeamWorld.makeTeamDirectory]; split <;> rfl
        · rw [TeamWorld.makeTeamDirectory]; split <;> rfl
    · intro _ t _ _
      exact ih

/-- A temporary file has what its writer wrote, or is gone. -/
def Owns (T : TeamPlatform) (path : List String) (content : Value) (w : TeamWorld) : Prop :=
  ∃ directory n, path = directory ++ [temporaryPrefix ++ T.uuid n] ∧ n < w.drawn ∧
    ∀ found, w.team.files.lookup path = some found → found = content

theorem Owns.later (h : Owns T path content t) (hl : F.Leads t u) :
    Owns T path content u := by
  obtain ⟨directory, n, rfl, hn, hfound⟩ := h
  refine ⟨directory, n, rfl, hn.trans_le hl.drawn, ?_⟩
  intro found hf
  exact hfound found (hl.temporaries n directory found hn hf)

theorem Owns.isTemporary (h : Owns T path content t) :
    isTemporary path = true := by
  obtain ⟨directory, n, rfl, _, _⟩ := h
  exact isTemporary_temporary directory _

theorem writeTemporary_owns (hT : Function.Injective T.uuid) (directory : List String)
    (content : Value) :
    F.discipline.Answers (fun path t => Owns T path content t)
      (writeTemporary T directory content) s := by
  apply answers_atomic
  intro t _ ht
  dsimp only
  split
  · refine ⟨keeps_drawn ht, ?_⟩
    intro a ha
    cases ha
  · refine ⟨keeps_writeTemporary hT ht, ?_⟩
    intro path hpath u hu _
    cases hpath
    apply Owns.later _ hu
    refine ⟨directory, t.drawn, rfl, Nat.lt_succ_self _, ?_⟩
    intro found hf
    rw [TeamWorld.setTeam, Dict.lookup_set_self] at hf
    exact (Option.some.inj hf).symm

theorem tame_replaceTarget (hown : Owns T temporary content s)
    (htarget : isTemporary target = false) (hm : F.MayHold target content) :
    F.Tame (replaceTarget temporary target) s := by
  apply tame_atomic
  intro t hl ht
  split
  · exact keeps_refl ht
  · rename_i found hfound
    split
    · exact keeps_refl ht
    · have hdrop := keeps_dropTemporary ht hown.isTemporary
      obtain ⟨_, _, _, _, hcontent⟩ := hown.later hl
      rw [hcontent found hfound]
      exact hdrop.trans (keeps_setTeam hdrop.1 htarget hm)

theorem tame_unlinkTemporary (htemp : isTemporary temporary = true) :
    F.Tame (unlinkTemporary temporary) s := by
  apply tame_atomic
  intro t _ ht
  dsimp only
  split
  · exact keeps_dropTemporary ht htemp
  · exact keeps_refl ht

theorem tame_publishTarget (hown : Owns T temporary content s)
    (htarget : isTemporary target = false) (hm : F.MayHold target content) :
    F.Tame (publishTarget T bounded temporary target expected) s := by
  apply Tame.andThen tame_look
  intro stands t hl _
  split
  · exact tame_pure
  · apply Tame.andThen (tame_replaceTarget (hown.later hl) htarget hm)
    intro _ u _ _
    exact tame_look

theorem appendTeamEvent_answers (hT : Function.Injective T.uuid)
    (hm : ∀ m directory, placeTeamEvent T member writer event = .ok (m, directory) →
      F.MayHold (directory ++ [m.eventId ++ ".json"]) m.content) :
    F.discipline.Answers (fun target _ => isTemporary target = false)
      (appendTeamEvent T bounded member writer event) s := by
  apply Tame.andThen tame_look
  intro _ t _ _
  apply Answers.andThen (Q := fun place _ => placeTeamEvent T member writer event = .ok place)
  · apply answers_ofExcept
    intro place hplace _ _ _
    exact hplace
  rintro ⟨m, directory⟩ u _ _ hplace
  have hmay := hm m directory hplace
  obtain ⟨rfl, hid, _, htarget⟩ := placeTeamEvent_ok hplace
  have hno : isTemporary (directory ++ [(sealedEvent T event).eventId ++ ".json"]) = false := by
    rw [htarget]
    exact isTemporary_eventTarget (head_of_isTeamEventId hid)
  apply Tame.andThen (tame_ensureDirectories _)
  intro _ v _ _
  apply Tame.andThen tame_look
  intro stands w _ _
  split
  · exact answers_pure fun _ _ _ => hno
  · apply Answers.andThen
    · apply Answers.recover (writeTemporary_owns hT directory _)
      intro e t _ _
      exact answers_throw
    · intro temporary t _ _ hown
      apply Tame.andThen
      · apply Answers.recover (tame_publishTarget hown hno hmay)
        intro e t' _ _
        apply Tame.andThen (tame_unlinkTemporary hown.isTemporary)
        intro _ _ _ _
        exact answers_throw
      · intro _ t' _ _
        apply Tame.andThen (tame_unlinkTemporary hown.isTemporary)
        intro _ _ _ _
        exact answers_pure fun _ _ _ => hno

theorem tame_scanFiles (found : List (Except String (List String))) (scan : TeamScan) :
    F.Tame (scanFiles T bounded found scan) s := by
  induction found generalizing scan s with
  | nil => exact tame_pure
  | cons entry found ih =>
    cases entry with
    | error code => exact ih _
    | ok path =>
      apply Tame.andThen tame_look
      intro result t _ _
      cases result with
      | error code => exact ih _
      | ok event => exact ih _

theorem tame_scanTeamEvents : F.Tame (scanTeamEvents T bounded) s := by
  apply Tame.andThen tame_look
  intro layout t _ _
  cases layout with
  | error e => exact tame_pure
  | ok found =>
    apply Tame.andThen (tame_scanFiles found _)
    intro scan u _ _
    exact tame_pure

theorem tame_alreadyRecorded (key : String) : F.Tame (alreadyRecorded T bounded key) s := by
  apply Tame.andThen tame_scanTeamEvents
  intro scan t _ _
  apply Tame.andThen tame_ofExcept
  intro found u _ _
  cases found with
  | some event => exact tame_pure
  | none =>
    dsimp only
    split
    · exact tame_pure
    · exact answers_throw

end Store

section Spool

variable {spoolId : String} {cause : Removal} {settings : TeamSettings} {content : SpoolContent}
  {payload : Value}

theorem tame_deleteSpool (hc : spoolId = F.spoolId →
    ∃ expiresAt readAt, cause = .expired expiresAt readAt ∧ expiresAt ≤ readAt) :
    F.Tame (deleteSpool spoolId cause) s := by
  apply tame_atomic
  intro t _ ht
  split
  · exact keeps_refl ht
  · split
    · exact keeps_removeBody ht hc
    · exact keeps_refl ht

/-- What may be read under an identifier of the spool. -/
def MayRead (F : FrozenDelivery T) (spoolId : String) (payload : Value) : Prop :=
  (spoolId = F.spoolId → payload = F.payload) ∧ (spoolId ≠ F.spoolId → F.ForeignBody payload)

theorem mayRead_body (ht : F.Holds t) (hb : t.bodies.lookup spoolId = some body) :
    F.MayRead spoolId body.payload := by
  constructor
  · rintro rfl
    exact ht.body body hb
  · exact ht.foreignBody spoolId body hb

theorem openSpool_answers (reference : Option SpoolRef) (given : Option Int) :
    F.discipline.Answers (fun found _ => match found with
      | .inl payload => F.MayRead spoolId payload
      | .inr (body, readAt) => body.expiresAt.instant ≤ readAt)
      (openSpool spoolId reference given) s := by
  apply answers_look
  intro t _ ht found hf u _ _
  split at hf
  · cases hf
  · rename_i body hb
    split at hf
    · cases hf
    · split at hf
      · rename_i hexpired
        cases hf
        exact hexpired
      · split at hf
        · cases hf
        · cases hf
          exact mayRead_body ht hb

theorem readSpool_answers (reference : Option SpoolRef) (given : Option Int) :
    F.discipline.Answers (fun payload _ => F.MayRead spoolId payload)
      (readSpool spoolId reference given) s := by
  apply Answers.andThen (openSpool_answers reference given)
  intro found t _ _ hfound
  cases found with
  | inl payload => exact answers_pure fun _ _ _ => hfound
  | inr expired =>
    obtain ⟨body, readAt⟩ := expired
    dsimp only
    split
    · apply Tame.andThen (tame_deleteSpool fun _ => ⟨_, _, rfl, hfound⟩)
      intro _ u _ _
      exact answers_throw
    · exact answers_throw

theorem Kept.later (h : F.Kept t) (hl : F.Leads t u) : F.Kept u :=
  hl.kept h

theorem spoolContent_ok (h : spoolContent T payload classification spoolId = .ok content) :
    content.spoolId = spoolId ∧ content.payload = payload.canonical := by
  unfold spoolContent at h
  obtain ⟨_, h⟩ := refuse_bind_ok.1 h
  obtain ⟨_, h⟩ := refuse_bind_ok.1 h
  obtain ⟨_, h⟩ := refuse_bind_ok.1 h
  cases h
  exact ⟨rfl, rfl⟩

theorem enterSpool_answers (hid : content.spoolId = F.spoolId) (given : Option Int) :
    F.discipline.Answers (fun entered t => ∀ ref, entered = .inl ref →
      ref.spoolId = F.spoolId ∧ F.Kept t) (enterSpool T settings content given) s := by
  apply answers_atomic
  intro t _ ht
  dsimp only
  split
  · exact ⟨keeps_refl ht, fun a ha => by cases ha⟩
  · split
    · rename_i body hb
      split
      · split
        · exact ⟨keeps_refl ht, fun a ha => by cases ha⟩
        · refine ⟨keeps_calm ht rfl rfl rfl rfl rfl, ?_⟩
          intro entered hentered u hu _ ref href
          cases hentered
          cases href
          refine ⟨hid, hu.kept (.inl ?_)⟩
          rw [hid] at hb
          change (t.bodies.lookup F.spoolId).isSome = true
          rw [hb]
          rfl
      · exact ⟨keeps_refl ht, fun a ha => by cases ha⟩
    · split
      · exact ⟨keeps_refl ht, fun a ha => by cases ha⟩
      · split
        · exact ⟨keeps_refl ht, fun a ha => by cases ha⟩
        · refine ⟨keeps_calm ht rfl rfl rfl rfl rfl, ?_⟩
          intro entered hentered u _ _ ref href
          cases hentered
          cases href

theorem writeSpool_answers (hp : payload.canonical = F.payload) (classification : String)
    (given : Option Int) :
    F.discipline.Answers (fun ref t => ref.spoolId = F.spoolId ∧ F.Kept t)
      (writeSpool T settings payload classification F.spoolId given) s := by
  apply Answers.andThen (Q := fun content _ =>
    content.spoolId = F.spoolId ∧ content.payload = F.payload)
  · apply answers_ofExcept
    intro content hcontent _ _ _
    rw [← hp]
    exact spoolContent_ok hcontent
  rintro content t _ _ ⟨hid, hpayload⟩
  apply Answers.andThen (enterSpool_answers hid given)
  intro entered u _ _ hentered
  cases entered with
  | inl ref =>
    obtain ⟨href, hkept⟩ := hentered ref rfl
    exact answers_pure fun v hv _ => ⟨href, hv.kept hkept⟩
  | inr stamps =>
    obtain ⟨createdAt, expiresAt⟩ := stamps
    apply Answers.andThen (Q := fun _ v => F.Kept v)
    · apply answers_atomic
      intro v _ hv
      split
      · exact ⟨keeps_refl hv, fun a ha => by cases ha⟩
      · refine ⟨keeps_putBody hv hpayload, ?_⟩
        intro _ _ w hw _
        apply hw.kept
        left
        rw [TeamWorld.putBody, Dict.lookup_set_self]
        rfl
    · intro _ v _ _ hkept
      apply Tame.andThen
      · apply tame_atomic
        intro w _ hw
        split
        · exact keeps_refl hw
        · exact keeps_calm hw rfl rfl rfl rfl rfl
      · intro _ w hw _
        exact answers_pure fun x hx _ => ⟨hid, hx.kept (hw.kept hkept)⟩

end Spool

section Outbox

variable {receipt record : OutboxReceipt} {settings : TeamSettings} {id : String} {event : Event}

theorem MayWrite.later (h : F.MayWrite receipt t) (hl : F.Leads t u) : F.MayWrite receipt u :=
  h.imp_left fun hown => ⟨hown.1, hl.kept hown.2⟩

theorem mayWrite_lookup (ht : F.Holds t) (hr : t.receipts.lookup id = some receipt) :
    F.MayWrite receipt t := by
  by_cases hid : id = F.receiptId
  · rw [hid] at hr
    obtain ⟨hown, hkept, _⟩ := ht.own receipt hr
    exact .inl ⟨hown, hkept⟩
  · exact .inr (ht.foreign id receipt hr hid)

theorem lookReceipt_answers (id : String) :
    F.discipline.Answers (fun found t => ∀ receipt, found = some receipt → F.MayWrite receipt t)
      (Call.look fun w => if w.runtimeUp then .ok (w.receipts.lookup id) else .error (osError ""))
      s := by
  apply answers_look
  intro t _ ht found hf u hu _ receipt hr
  split at hf
  · cases hf
    exact (mayWrite_lookup ht hr).later hu
  · cases hf

theorem readReceipts_answers (ids : List String) :
    F.discipline.Answers (fun records t => ∀ receipt ∈ records, F.MayWrite receipt t)
      (readReceipts ids) s := by
  induction ids generalizing s with
  | nil => exact answers_pure fun _ _ _ _ hr => by cases hr
  | cons id ids ih =>
    apply Answers.andThen (lookReceipt_answers id)
    intro found t _ _ hfound
    apply Answers.andThen ih
    intro rest u hu _ hrest
    apply answers_pure
    intro v hv _ receipt hr
    rcases List.mem_append.1 hr with hr | hr
    · exact ((hfound receipt (Option.mem_toList.1 hr)).later hu).later hv
    · exact (hrest receipt hr).later hv

theorem outboxRecords_answers :
    F.discipline.Answers (fun records t => ∀ receipt ∈ records, F.MayWrite receipt t)
      outboxRecords s := by
  apply Tame.andThen tame_look
  intro ids t _ _
  exact readReceipts_answers ids

theorem tame_updateReceipt (hm : F.MayWrite receipt s) : F.Tame (updateReceipt receipt) s := by
  apply tame_atomic
  intro t hl ht
  split
  · exact keeps_putReceipt ht (hm.later hl)
  · exact keeps_refl ht

theorem tame_bindingError (rootHash : String) : F.Tame (bindingError T record rootHash) s := by
  rw [bindingError]
  split
  · exact tame_pure
  · exact tame_look

theorem readReceiptBody_answers (given : Option Int) :
    F.discipline.Answers (fun payload _ =>
      (F.Own record → payload = F.payload) ∧ (F.Foreign record → F.ForeignBody payload))
      (readReceiptBody record given) s := by
  rw [readReceiptBody]
  split
  · rename_i ref href
    apply (readSpool_answers (some ref) given).mono
    intro payload t _ _ hread
    constructor
    · intro hown
      obtain ⟨ref', href', hid⟩ := hown.body
      cases href.symm.trans href'
      exact hread.1 hid
    · intro hforeign
      exact hread.2 (hforeign.body ref href)
  · rename_i hnone
    apply (readSpool_answers none given).mono
    intro payload t _ _ hread
    constructor
    · intro hown
      obtain ⟨ref, href, _⟩ := hown.body
      cases hnone.symm.trans href
    · intro hforeign
      exact hread.2 hforeign.unnamed

theorem tame_spooledIdentityMatches (given : Option Int) :
    F.Tame (spooledIdentityMatches T record given) s := by
  rw [spooledIdentityMatches]
  split
  · exact tame_pure
  · apply Tame.andThen (Answers.tame (readReceiptBody_answers given))
    intro payload t _ _
    split
    · split
      · exact tame_ofExcept
      · exact tame_pure
    · exact tame_pure

theorem tame_bodyPresent : F.Tame (bodyPresent T record) s := by
  apply Tame.andThen (tame_spooledIdentityMatches none).attempt
  intro result t _ _
  split
  · exact tame_pure
  · exact answers_throw
  · split
    · exact tame_pure
    · exact answers_throw

theorem tame_releaseDelivered (hf : F.Foreign record) (rootHash : String) :
    F.Tame (releaseDelivered T bounded record rootHash) s := by
  rw [releaseDelivered]
  split
  · exact tame_pure
  · rename_i ref href
    apply Tame.andThen (tame_bindingError rootHash)
    intro code t _ _
    split
    · exact answers_throw
    · apply Tame.andThen tame_bodyPresent
      intro present u _ _
      apply Tame.andThen (tame_alreadyRecorded _)
      intro existing v _ _
      split
      · exact answers_throw
      · apply Tame.andThen
        · rw [releaseBody]
          split
          · apply tame_deleteSpool
            intro he
            exact absurd he (hf.body ref href)
          · exact tame_pure
        · intro _ w _ _
          apply tame_updateReceipt
          exact .inr ⟨hf.receiptId, hf.key, fun _ hr => by (cases hr), hf.unnamed⟩

theorem tame_tryReleaseDelivered (hf : F.Foreign record) (rootHash : String) :
    F.Tame (tryReleaseDelivered T bounded record rootHash) s := by
  apply Tame.andThen (tame_releaseDelivered hf rootHash).attempt
  intro result t _ _
  split
  · exact tame_pure
  · split
    · exact answers_throw
    · exact tame_pure

/-- A failed attempt changes nothing of a receipt that matters here. -/
theorem MayWrite.attempted (h : F.MayWrite record t) (hs : status ≠ .delivered) (attempts : Nat)
    (code : Option String) :
    F.MayWrite { record with status, attempts, lastErrorCode := code } t := by
  rcases h with ⟨hown, hkept⟩ | hforeign
  · exact .inl ⟨⟨hown.receiptId, hs, hown.body⟩, hkept⟩
  · exact .inr ⟨hforeign.receiptId, hforeign.key, hforeign.body, hforeign.unnamed⟩

theorem tame_recordFailure (hm : F.MayWrite record s) (receiptHash : String) (tally : DrainTally)
    (error : Raised) : F.Tame (recordFailure record receiptHash tally error) s := by
  rw [recordFailure]
  split
  · exact answers_throw
  · dsimp only
    split
    · apply Tame.andThen (tame_updateReceipt (hm.attempted (by decide) _ _))
      intro _ t _ _
      exact tame_pure
    · apply Tame.andThen (tame_updateReceipt (hm.attempted (by decide) _ _))
      intro _ t _ _
      exact tame_pure

theorem spooledEvent_foreign {payload : Value} (hf : F.ForeignBody payload)
    (h : spooledEvent T record payload = .ok (event, member, writer)) :
    F.ForeignEvent member writer event := by
  unfold spooledEvent at h
  split at h
  · rename_i value
    split at h
    · rename_i fields hfields
      obtain ⟨_, h⟩ := refuse_bind_ok.1 h
      obtain ⟨found, hread, h⟩ := Except.bind_eq_ok.1 h
      obtain ⟨_, h⟩ := refuse_bind_ok.1 h
      split at h
      · rename_i hmember hwriter
        obtain ⟨_, _, h⟩ := Except.bind_eq_ok.1 h
        obtain ⟨_, h⟩ := refuse_bind_ok.1 h
        cases h
        exact hf value fields _ _ _ rfl hfields hread hmember hwriter
      · cases h
    · cases h
  · cases h

theorem fieldOf_payload : ∃ value, F.payload = .dict value ∧
    fieldOf value "event" = .dict (Value.canonicalObject F.event.toDict) := by
  refine ⟨_, Value.canonical_dict _, ?_⟩
  have hd : (Dict.keys (outboxPayload F.prepared F.event)).Nodup := by
    simp [outboxPayload, Dict.keys]
  rw [fieldOf, Value.lookup_canonicalObject hd]
  simp [outboxPayload, Value.canonical_dict]

/-- The event of the decision carries no digest, so its body is never delivered. -/
theorem spooledEvent_own (hP : T.HexDigests) :
    ∀ result, spooledEvent T record F.payload ≠ .ok result := by
  intro result h
  obtain ⟨value, hvalue, hevent⟩ := fieldOf_payload (F := F)
  unfold spooledEvent at h
  rw [hvalue] at h
  dsimp only at h
  rw [hevent] at h
  dsimp only at h
  obtain ⟨_, h⟩ := refuse_bind_ok.1 h
  obtain ⟨found, hread, h⟩ := Except.bind_eq_ok.1 h
  obtain ⟨hdigest, _⟩ := refuse_bind_ok.1 h
  have hnone : found.integritySha256 = "" := by
    rw [(fromDict_ok hread).1, fieldOf, (mappingOf_content F.event).integritySha256,
      F.event_fields.2.2.1]
    rfl
  rw [hnone, bne_eq_false_iff_eq] at hdigest
  have hhex := hP (canonicalJson (.dict found.canonicalDict))
  rw [eventIntegrity] at hdigest
  rw [hdigest] at hhex
  exact absurd hhex (by decide)

theorem deliverBody_answers (hT : Function.Injective T.uuid) (hP : T.HexDigests)
    (hm : F.MayWrite record s) (given : Option Int) :
    F.discipline.Answers (fun completed _ => F.Foreign completed)
      (deliverBody T bounded record given) s := by
  apply Tame.andThen tame_look
  intro _ t hst _
  apply Answers.andThen (readReceiptBody_answers given)
  rintro payload u htu _ ⟨hown, hforeign⟩
  rcases hm with ⟨hrecord, _⟩ | hrecord
  · apply Answers.andThen (Q := fun _ _ => False)
    · apply answers_ofExcept
      intro result hresult _ _ _
      rw [hown hrecord] at hresult
      exact spooledEvent_own hP result hresult
    · intro _ _ _ _ hfalse
      exact hfalse.elim
  · apply Answers.andThen (Q := fun result _ => spooledEvent T record payload = .ok result)
    · apply answers_ofExcept
      intro result hresult _ _ _
      exact hresult
    rintro ⟨event, member, writer⟩ v _ _ hresult
    have hevent := spooledEvent_foreign (hforeign hrecord) hresult
    apply Tame.andThen (tame_alreadyRecorded _)
    intro existing w _ _
    apply Tame.andThen
    · rw [appendUnlessRecorded]
      split
      · apply Answers.tame (appendTeamEvent_answers hT _)
        intro m directory hplace
        obtain ⟨rfl, _, hversion, htarget⟩ := placeTeamEvent_ok hplace
        right
        rw [htarget]
        exact ⟨hevent.target, not_carries_content hversion hevent.distinct hevent.key
          hevent.payloadKey⟩
      · exact tame_pure
    · intro _ x _ _
      apply Tame.andThen tame_look
      intro deliveredAt y _ _
      have hcompleted : F.Foreign { record with
          status := .delivered, attempts := record.attempts + 1, deliveredAt := some deliveredAt
          finalEventHash := some (eventIntegrity T.toPlatform (existing.getD event))
          lastErrorCode := none } :=
        ⟨hrecord.receiptId, hrecord.key, hrecord.body, hrecord.unnamed⟩
      apply Tame.andThen (tame_updateReceipt (.inr hcompleted))
      intro _ z _ _
      exact answers_pure fun _ _ _ => hcompleted

theorem tame_drainPending (hT : Function.Injective T.uuid) (hP : T.HexDigests)
    (hm : F.MayWrite record s) (rootHash receiptHash : String) (given : Option Int)
    (tally : DrainTally) :
    F.Tame (drainPending T bounded rootHash given record receiptHash tally) s := by
  apply Tame.andThen (tame_bindingError rootHash).attempt
  intro result t hst _
  have hmt := hm.later hst
  split
  · exact tame_recordFailure hmt _ _ _
  · apply Tame.andThen (tame_updateReceipt (hmt.attempted (by decide) _ _)).attempt
    intro updated u htu _
    split
    · exact tame_pure
    · exact tame_recordFailure (hmt.later htu) _ _ _
  · apply Answers.andThen (deliverBody_answers hT hP hmt given).attempt
    intro delivered u htu _ hdelivered
    split
    · exact tame_recordFailure (hmt.later htu) _ _ _
    · rename_i completed
      apply Tame.andThen (tame_tryReleaseDelivered (hdelivered completed rfl) rootHash)
      intro released v _ _
      exact tame_pure

theorem tame_drainDelivered (hf : F.Foreign record) (rootHash receiptHash : String)
    (given : Option Int) (tally : DrainTally) :
    F.Tame (drainDelivered T bounded rootHash given record receiptHash tally) s := by
  apply Tame.andThen (tame_bindingError rootHash)
  intro code t _ _
  have hrelease : ∀ u, F.Tame (do
      let released ← tryReleaseDelivered T bounded record rootHash
      pure (if released then tally
        else tally.blame receiptHash "TEAM_DELIVERY_CLEANUP_PENDING")) u := by
    intro u
    apply Tame.andThen (tame_tryReleaseDelivered hf rootHash)
    intro released v _ _
    exact tame_pure
  split
  · exact tame_pure
  · apply Tame.andThen (tame_spooledIdentityMatches given).attempt
    intro result u _ _
    split
    · exact hrelease u
    · exact tame_pure
    · split
      · exact answers_throw
      · split
        · exact hrelease u
        · split
          · exact tame_pure
          · exact answers_throw

theorem tame_drainRecords (hT : Function.Injective T.uuid) (hP : T.HexDigests)
    (rootHash : String) (maxItems : Nat) (given : Option Int) (records : List OutboxReceipt)
    (hm : ∀ record ∈ records, F.MayWrite record s) (tally : DrainTally) :
    F.Tame (drainRecords T bounded rootHash maxItems given records tally) s := by
  induction records generalizing s tally with
  | nil => exact tame_pure
  | cons record records ih =>
    have hrest : ∀ t, F.Leads s t → ∀ r ∈ records, F.MayWrite r t := by
      intro t hst r hr
      exact (hm r (List.mem_cons_of_mem _ hr)).later hst
    have hrecord := hm record List.mem_cons_self
    apply Tame.andThen tame_ofExcept
    intro receiptHash t hst _
    split
    · rename_i hdelivered
      have hf : F.Foreign record := by
        rcases hrecord with ⟨hown, _⟩ | hf
        · simp only [Bool.and_eq_true, beq_iff_eq] at hdelivered
          exact absurd hdelivered.1 hown.waits
        · exact hf
      apply Tame.andThen (tame_drainDelivered hf _ _ _ _)
      intro next u htu _
      exact ih (hrest u (F.discipline.trans hst htu)) next
    · split
      · exact ih (hrest t hst) tally
      · apply Tame.andThen (tame_drainPending hT hP (hrecord.later hst) _ _ _ _)
        intro next u htu _
        exact ih (hrest u (F.discipline.trans hst htu)) next

theorem tame_drainTeamOutbox (hT : Function.Injective T.uuid) (hP : T.HexDigests)
    (maxItems : Nat) (given : Option Int) :
    F.Tame (drainTeamOutbox T bounded settings maxItems given) s := by
  apply Tame.andThen tame_ofExcept
  intro _ t _ _
  split
  · exact tame_pure
  · apply Tame.andThen tame_ofExcept
    intro rootHash u _ _
    apply Answers.andThen outboxRecords_answers
    intro records v _ _ hrecords
    apply Tame.andThen (tame_drainRecords hT hP rootHash maxItems given records hrecords _)
    intro tally w _ _
    apply Tame.andThen (Answers.tame outboxRecords_answers)
    intro left x _ _
    exact tame_pure

end Outbox

section Deliver

variable {settings : TeamSettings}

/-- A decision that reports a recorded event reports the one that is stored. -/
def Honest (F : FrozenDelivery T) (decision : TeamRoutingDecision) (w : TeamWorld) : Prop :=
  decision.reasonCode = "TEAM_EVENT_RECORDED" → F.Stored w ∧
    decision.deliveryEventId = some F.event.eventId ∧
    decision.deliveryEventHash = some (eventIntegrity T.toPlatform F.event)

theorem honest_of_ne {decision : TeamRoutingDecision}
    (h : decision.reasonCode ≠ "TEAM_EVENT_RECORDED") : F.Honest decision w :=
  fun he => absurd he h

/-- An event that is read with the key of the decision is the one that is stored. -/
theorem readTeamEvent_answers {target : List String} (htarget : isTemporary target = false) :
    F.discipline.Answers (fun stored t => stored.idempotencyKey = F.key → F.Stored t)
      (readTeamEvent T bounded target) s := by
  apply answers_look
  intro t _ ht stored hread u hu _ hkey
  split at hread
  · obtain ⟨fields, hl, hfields⟩ := readEvent_ok hread
    obtain ⟨rfl, hcontent⟩ := ht.keyed target _ hl htarget ⟨fields, stored, rfl, hfields, .inl hkey⟩
    rw [hcontent] at hl
    exact hu.stored hl
  · cases hread

theorem mayHold_own (hplace : placeTeamEvent T F.prepared.teamMemberId F.prepared.writerId
    F.event = .ok (m, directory)) : F.MayHold (directory ++ [m.eventId ++ ".json"]) m.content := by
  obtain ⟨rfl, _, _, htarget⟩ := placeTeamEvent_ok hplace
  exact .inl ⟨htarget, rfl⟩

theorem deliverDirect_answers (hT : Function.Injective T.uuid) :
    F.discipline.Answers (fun direct t => ∀ decision, direct = some decision →
        F.Honest decision t)
      (deliverDirect T bounded F.prepared F.personalEventHash F.event) s := by
  apply Answers.andThen (Q := fun result t => ∀ stored, result = .ok stored →
    stored.idempotencyKey = F.key → F.Stored t)
  · apply Answers.attempt
    apply Tame.andThen tame_look
    intro _ t _ _
    apply Answers.andThen (appendTeamEvent_answers hT fun m directory => mayHold_own)
    intro target u _ _ htarget
    exact readTeamEvent_answers htarget
  · intro result t _ _ hresult
    split
    · rename_i stored
      split
      · apply answers_pure
        intro u _ _ decision hd
        cases hd
        exact honest_of_ne (by simp [undelivered])
      · rename_i hsame
        apply answers_pure
        intro u hu _ decision hd _
        cases hd
        simp only [Bool.or_eq_true, bne_iff_ne, not_or, not_not] at hsame
        exact ⟨hu.stored (hresult stored rfl hsame.1.2), rfl, rfl⟩
    · have hfailed : ∀ code, code ≠ "TEAM_EVENT_RECORDED" → F.discipline.Answers
          (fun direct t => ∀ decision, direct = some decision → F.Honest decision t)
          (pure (some (undelivered F.prepared F.personalEventHash .failed code)) :
            TeamCall (Option TeamRoutingDecision)) t := by
        intro code hcode
        apply answers_pure
        intro u _ _ decision hd
        cases hd
        exact honest_of_ne hcode
      have hnone : F.discipline.Answers
          (fun direct t => ∀ decision, direct = some decision → F.Honest decision t)
          (pure none : TeamCall (Option TeamRoutingDecision)) t := by
        apply answers_pure
        intro u _ _ decision hd
        cases hd
      split
      · exact answers_throw
      · split
        · split
          · exact hfailed _ (by decide)
          · split
            · exact hfailed _ (by decide)
            · exact hnone
        · split
          · exact hnone
          · exact answers_throw

theorem tryDirect_answers (hT : Function.Injective T.uuid) :
    F.discipline.Answers (fun direct t => ∀ decision, direct = some decision →
        F.Honest decision t)
      (tryDirect T bounded F.prepared F.personalEventHash F.event) s := by
  apply Tame.andThen tame_look
  intro up t _ _
  split
  · exact deliverDirect_answers hT
  · apply answers_pure
    intro u _ _ decision hd
    cases hd

theorem admitOutbox_key {key : String} (h : admitOutbox T (outboxPayload F.prepared F.event)
    F.personalEventHash F.prepared.teamStoreId = .ok (classification, key)) : key = F.key := by
  unfold admitOutbox at h
  obtain ⟨_, h⟩ := refuse_bind_ok.1 h
  obtain ⟨_, h⟩ := refuse_bind_ok.1 h
  dsimp only at h
  split at h
  · cases h
  · obtain ⟨found, hfound, h⟩ := Except.bind_eq_ok.1 h
    cases h
    have hown : outboxIdempotencyKey T (outboxPayload F.prepared F.event) F.personalEventHash
        F.prepared.teamStoreId = .ok F.key := F.event_fields.2.2.2
    rw [hown] at hfound
    cases hfound
    rfl

theorem newOutboxReceipt_own {ref : SpoolRef} {receipt : OutboxReceipt}
    {payload : List (String × Value)} (href : ref.spoolId = F.spoolId)
    (h : newOutboxReceipt T payload F.personalEventHash F.prepared.teamStoreId memberId writerId
      F.key ref createdAt = .ok receipt) : F.Own receipt := by
  unfold newOutboxReceipt at h
  obtain ⟨_, _, h⟩ := Except.bind_eq_ok.1 h
  obtain ⟨_, _, h⟩ := Except.bind_eq_ok.1 h
  obtain ⟨_, _, h⟩ := Except.bind_eq_ok.1 h
  cases h
  exact ⟨rfl, by simp, ref, rfl, href⟩

/-- The rest of a call that found no receipt. -/
theorem tame_spoolEvent {payload : List (String × Value)} {spoolId : String}
    (hp : (Value.dict payload).canonical = F.payload) (hid : spoolId = F.spoolId)
    (memberId writerId : String) (given : Option Int) :
    F.Tame (do
      let ref ← writeSpool T settings (.dict payload) classification spoolId given
      let createdAt ← Call.look fun w => .ok (w.now given)
      let receipt ← Call.ofExcept (newOutboxReceipt T payload F.personalEventHash
        F.prepared.teamStoreId memberId writerId F.key ref createdAt)
      updateReceipt receipt
      pure receipt) s := by
  subst hid
  apply Answers.andThen (writeSpool_answers hp classification given)
  rintro ref v _ _ ⟨href, hkept⟩
  apply Tame.andThen tame_look
  intro createdAt w hvw _
  apply Answers.andThen (Q := fun receipt _ => F.Own receipt)
  · apply answers_ofExcept
    intro receipt hreceipt _ _ _
    exact newOutboxReceipt_own href hreceipt
  · intro receipt x hwx _ hown
    apply Tame.andThen
    · apply tame_updateReceipt
      exact .inl ⟨hown, hwx.kept (hvw.kept hkept)⟩
    · intro _ y _ _
      exact tame_pure

theorem tame_enqueueTeamEvent (memberId writerId : String) (given : Option Int) :
    F.Tame (enqueueTeamEvent T settings (outboxPayload F.prepared F.event) F.personalEventHash
      F.prepared.teamStoreId memberId writerId given) s := by
  apply Answers.andThen (Q := fun admitted _ => admitted.2 = F.key)
  · apply answers_ofExcept
    rintro ⟨classification, key⟩ hadmitted _ _ _
    exact admitOutbox_key hadmitted
  rintro ⟨classification, key⟩ t _ _ rfl
  apply Tame.andThen (Answers.tame outboxRecords_answers)
  intro records u _ _
  split
  · exact tame_pure
  · exact tame_spoolEvent (by rw [payload]) rfl memberId writerId given

theorem receiptMatches_key {prepared : PreparedTeamRouting} {personalEventHash : String}
    {event : Event} {receipt : OutboxReceipt}
    (h : receiptMatches T prepared personalEventHash event receipt = .ok true) :
    receipt.idempotencyKey = event.idempotencyKey := by
  unfold receiptMatches at h
  obtain ⟨_, _, h⟩ := Except.bind_eq_ok.1 h
  obtain ⟨_, _, h⟩ := Except.bind_eq_ok.1 h
  obtain ⟨_, _, h⟩ := Except.bind_eq_ok.1 h
  have hall := Except.ok.inj h
  simp only [Bool.and_eq_true, beq_iff_eq] at hall
  exact hall.1.2

theorem deliverDeferred_answers :
    F.discipline.Answers F.Honest
      (deliverDeferred T settings F.prepared F.personalEventHash F.event) s := by
  apply Tame.andThen (tame_enqueueTeamEvent _ _ none)
  intro accepted t _ _
  apply Answers.andThen (lookReceipt_answers accepted.receiptId)
  intro found u _ _ hfound
  split
  · exact answers_pure fun _ _ _ => honest_of_ne (by simp [undelivered])
  · rename_i receipt
    have hmay := hfound receipt rfl
    apply Answers.andThen (Q := fun matching _ =>
      matching = true → receipt.idempotencyKey = F.key)
    · apply answers_ofExcept
      rintro matching hmatching _ _ _ rfl
      exact receiptMatches_key hmatching
    · intro matching v _ _ hkey
      dsimp only
      split
      · exact answers_pure fun _ _ _ => honest_of_ne (by simp [undelivered])
      · rename_i hmatching
        split
        · apply Tame.andThen (Answers.tame (readSpool_answers _ none))
          intro cached w _ _
          split
          · exact answers_pure fun _ _ _ => honest_of_ne (by simp [undelivered])
          · exact answers_pure fun _ _ _ => honest_of_ne (by simp [delivery])
        · split
          · rename_i hdelivered
            simp only [Bool.and_eq_true, beq_iff_eq] at hdelivered
            rcases hmay with ⟨hown, _⟩ | hforeign
            · exact absurd hdelivered.1 hown.waits
            · exact absurd (hkey (by simpa using hmatching)) hforeign.key
          · exact answers_pure fun _ _ _ => honest_of_ne (by simp [undelivered])

theorem deliverPreparedTeamRouting_answers (hT : Function.Injective T.uuid)
    (hs : F.prepared.status = .eligible) (eventIds : List String) :
    F.discipline.Answers F.Honest
      (deliverPreparedTeamRouting T bounded settings F.prepared F.personalEventHash eventIds)
      s := by
  have hanswer : ∀ code t, code ≠ "TEAM_EVENT_RECORDED" → F.discipline.Answers F.Honest
      (pure (undelivered F.prepared F.personalEventHash .failed code) :
        TeamCall TeamRoutingDecision) t := by
    intro code t hcode
    exact answers_pure fun _ _ _ => honest_of_ne hcode
  unfold deliverPreparedTeamRouting
  dsimp only
  split
  · exact hanswer _ s (by decide)
  · split
    · exact hanswer _ s (by decide)
    · rw [hs, if_neg (by decide)]
      apply Tame.andThen tame_ofExcept
      intro matching t _ _
      split
      · exact hanswer _ t (by decide)
      · apply Answers.andThen (Q := fun event _ => event = F.event)
        · apply answers_ofExcept
          intro event hevent _ _ _
          rw [F.frozen] at hevent
          exact (Except.ok.inj hevent).symm
        · rintro event u _ _ rfl
          apply Answers.andThen (tryDirect_answers hT)
          intro direct v _ _ hdirect
          split
          · rename_i decision
            apply answers_pure
            intro w hw _ hrecorded
            obtain ⟨hstored, hrest⟩ := hdirect decision rfl hrecorded
            exact ⟨hw.stored hstored, hrest⟩
          · apply Answers.andThen (Answers.attempt deliverDeferred_answers)
            intro result w _ _ hresult
            split
            · rename_i decision
              apply answers_pure
              intro x hx _ hrecorded
              obtain ⟨hstored, hrest⟩ := hresult decision rfl hrecorded
              exact ⟨hx.stored hstored, hrest⟩
            · split
              · exact answers_throw
              · exact hanswer _ w (by decide)

end Deliver

end FrozenDelivery

end ExternalIntelligence
