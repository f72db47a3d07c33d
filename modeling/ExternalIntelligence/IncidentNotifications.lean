import ExternalIntelligence.IncidentHistory

namespace ExternalIntelligence
set_option autoImplicit true

namespace IncidentCall

variable {P : Platform} {uuid : Nat → String} {id : String}

/-- A call of a run settles or aborts a send on a channel of an incident. -/
def ClosesAfter (P : Platform) (uuid : Nat → String) (calls : List IncidentCall)
    (call : IncidentCall) (id : String) (channel : Channel) : Prop :=
  Closes id channel call (answers P uuid calls call)

/-- Two claims of which neither settled nor aborted send comes between are an hour apart. -/
theorem claims_spaced {earlier middle : List IncidentCall} {now laterNow : Int}
    (hfirst : answers P uuid earlier (.claim id channel sessionHash now) = .lease (some lease))
    (hsecond : answers P uuid (earlier ++ .claim id channel sessionHash now :: middle)
      (.claim id channel laterSession laterNow) = .lease (some laterLease))
    (hopen : ∀ a call b, middle = a ++ call :: b →
      ¬ClosesAfter P uuid (earlier ++ .claim id channel sessionHash now :: a) call id channel) :
    now + hourMicroseconds ≤ laterNow := by
  obtain ⟨v, _, _, hcall, _, _, _, hclaimed⟩ := leased hfirst
  cases hcall
  obtain ⟨t, _, _, hcall, ht, hdue, _, _⟩ := leased hsecond
  obtain ⟨hid, hchannel, _, hnow⟩ := IncidentCall.claim.inj hcall
  rw [← hid] at ht
  rw [← hchannel, ← hnow] at hdue
  obtain ⟨w, hw, hwaiting⟩ := stored_since middle
    ⟨_, hclaimed, waiting_claim v _ _ sessionHash now⟩ fun a call b he v after hv heffect =>
      heffect.waiting (hopen a call b he) hv
  rw [ht] at hw
  cases hw
  exact hwaiting.due hdue

/-- Generations never decrease. -/
theorem generations_grow {earlier : List IncidentCall} (h : stored P uuid earlier id = some v)
    (later : List IncidentCall) :
    ∃ t, stored P uuid (earlier ++ later) id = some t ∧
      Grown v.notificationGeneration v.occurrenceGeneration t := by
  have hrecorded := recorded_stored P uuid earlier id .os v h
  apply stored_run ⟨v, h, le_refl _, le_refl _, hrecorded.ordered⟩
  intro _ _ _ _ w after hw heffect
  exact heffect.keeps (fun _ _ hg ht => hg.turn ht) (fun _ _ _ hg => hg.setDelivery _ _) hw

/-- A settled or aborted lease changes its incident only if it is the last that was claimed on its
channel, and the generations have stayed as they were. -/
theorem lease_fenced (huuid : Function.Injective uuid) {earlier middle : List IncidentCall}
    (hlease : answers P uuid earlier claimed = .lease (some lease))
    (hcall : call.lease? = some lease)
    (hchanges : stored P uuid (earlier ++ claimed :: middle ++ [call]) lease.incidentId ≠
      stored P uuid (earlier ++ claimed :: middle) lease.incidentId) :
    (∀ a later b other, middle = a ++ later :: b →
      answers P uuid (earlier ++ claimed :: a) later = .lease (some other) →
      ¬(other.incidentId = lease.incidentId ∧ other.channel = lease.channel)) ∧
    ∀ a b, middle = a ++ b → ∃ v,
      stored P uuid (earlier ++ claimed :: a) lease.incidentId = some v ∧
      v.notificationGeneration = lease.notificationGeneration ∧
      v.occurrenceGeneration = lease.occurrenceGeneration := by
  obtain ⟨v, sessionHash, now, _, hv, _, hmade, hclaimed⟩ := leased hlease
  obtain ⟨w, persisted, _, hw, hmatches, _, _⟩ := closed hcall (.inl hchanges)
  have htoken : lease.token = uuid earlier.length := by rw [hmade]; rfl
  have hrecorded := recorded_stored P uuid earlier lease.incidentId .os v hv
  constructor
  · rintro a later b other rfl hlater ⟨hid, hchannel⟩
    obtain ⟨t, laterSession, laterNow, _, _, _, _, hsuperseding⟩ := leased hlater
    rw [hid, hchannel] at hsuperseding
    have hsuperseded : ∃ v, stored P uuid (earlier ++ claimed :: a ++ later :: b)
        lease.incidentId = some v ∧ Superseded uuid lease.channel earlier.length v := by
      apply stored_since _ ⟨_, hsuperseding, superseded_claim _ t laterSession laterNow⟩
      · intro c _ _ _ x after hx heffect
        apply heffect.superseded _ hx
        simp only [List.length_append, List.length_cons]
        omega
      · simp only [List.length_append, List.length_cons]
        omega
    obtain ⟨x, hx, hsuperseded⟩ := hsuperseded
    have he : earlier ++ claimed :: a ++ later :: b = earlier ++ claimed :: (a ++ later :: b) := by
      simp
    rw [he, hw] at hx
    cases hx
    obtain ⟨number, hnumber, hother⟩ := hsuperseded persisted hmatches.stored
    rw [hmatches.token, htoken] at hother
    have hsame := huuid hother
    omega
  · rintro a b rfl
    have hgenerations : lease.notificationGeneration = v.notificationGeneration ∧
        lease.occurrenceGeneration = v.occurrenceGeneration := by
      rw [hmade]
      exact ⟨rfl, rfl⟩
    obtain ⟨t, ht, hgrown⟩ := generations_grow hv (claimed :: a)
    obtain ⟨x, hx, hlater⟩ := generations_grow ht b
    have he : earlier ++ claimed :: a ++ b = earlier ++ claimed :: (a ++ b) := by
      simp
    rw [he, hw] at hx
    cases hx
    have hnotification := hmatches.notificationGeneration
    have hoccurrence := hmatches.occurrenceGeneration
    have hfirst := hgrown.notification
    have hsecond := hlater.notification
    have hthird := hgrown.occurrence
    have hfourth := hlater.occurrence
    exact ⟨t, ht, by omega, by omega⟩

/-- A recovery is claimed only once a send of the occurrence has settled as sent. -/
theorem recovery_after_sent (hlease : answers P uuid calls claimed = .lease (some lease))
    (hrecovered : lease.recovered = true) :
    Sent P uuid calls lease.incidentId lease.channel lease.occurrenceGeneration := by
  obtain ⟨v, sessionHash, now, _, hv, hdue, hmade, _⟩ := leased hlease
  have hresolved : v.status = .resolved := by
    rw [hmade] at hrecovered
    exact eq_of_beq hrecovered
  have hoccurrence : lease.occurrenceGeneration = v.occurrenceGeneration := by rw [hmade]; rfl
  obtain ⟨_, hgeneration⟩ := due_parts hdue
  rw [generationDue, if_pos hresolved, Except.ok.injEq] at hgeneration
  simp only [Bool.and_eq_true, decide_eq_true_eq] at hgeneration
  rw [hoccurrence]
  exact (recorded_stored P uuid calls lease.incidentId lease.channel v hv).current.success
    hgeneration.1.2

/-- An incident stays resolved as long as its generation does. -/
structure StaysResolved (generation : Nat) (v : Incident) : Prop where
  grown : generation ≤ v.notificationGeneration
  resolved : v.notificationGeneration = generation → v.status = .resolved

theorem StaysResolved.turn (h : StaysResolved generation v) (hturn : Incident.Turn v t) :
    StaysResolved generation t := by
  have hgrown := h.grown
  cases hturn with
  | stands hstatus hunresolved hnotification _ _ =>
    constructor
    · omega
    · intro he
      exact absurd (h.resolved (by omega)) hunresolved
  | resolves _ hresolved hnotification _ _ =>
    constructor
    · omega
    · exact fun _ => hresolved
  | reopens _ _ hnotification _ _ _ _ =>
    constructor
    · omega
    · intro he
      omega

theorem StaysResolved.setDelivery (h : StaysResolved generation v) (channel : Channel)
    (delivery : Delivery) : StaysResolved generation (v.setDelivery channel delivery) := by
  constructor
  · rw [Incident.setDelivery_notificationGeneration]
    exact h.grown
  · rw [Incident.setDelivery_notificationGeneration, Incident.setDelivery_status]
    exact h.resolved

/-- After a recovery was settled as sent, no lease of that occurrence settles on the channel. -/
theorem recovery_settles_once {earlier middle later : List IncidentCall}
    (hlease : answers P uuid earlier claimed = .lease (some lease))
    (hrecovered : lease.recovered = true)
    (hfirst : answers P uuid (earlier ++ claimed :: middle) (.settle lease result now) =
      .changed true) (hsent : result.status = .sent)
    (hsecond : answers P uuid (earlier ++ claimed :: middle ++ .settle lease result now :: later)
      (.settle other laterResult laterNow) = .changed true)
    (hid : other.incidentId = lease.incidentId) (hchannel : other.channel = lease.channel) :
    other.occurrenceGeneration ≠ lease.occurrenceGeneration := by
  intro hsame
  obtain ⟨v, sessionHash, _, _, _, _, hmade, hclaimed⟩ := leased hlease
  have hstays : ∃ v, stored P uuid (earlier ++ claimed :: middle) lease.incidentId = some v ∧
      StaysResolved lease.notificationGeneration v := by
    apply stored_since _ ⟨_, hclaimed, _⟩
    · intro _ _ _ _ w after hw heffect
      exact heffect.keeps (fun _ _ h ht => h.turn ht) (fun _ _ _ h => h.setDelivery _ _) hw
    · apply StaysResolved.setDelivery
      constructor
      · rw [hmade]
        exact le_refl _
      · intro _
        rw [hmade] at hrecovered
        exact eq_of_beq hrecovered
  obtain ⟨w, persisted, snapshot, hw, hmatches, hsettled, hsnapshot⟩ := closed rfl (.inr hfirst)
  obtain ⟨x, hx, hresolved⟩ := hstays
  rw [hw] at hx
  cases hx
  have hstatus := hresolved.resolved hmatches.notificationGeneration
  have hordered := (recorded_stored P uuid _ _ lease.channel w hw).ordered
  have hsuccess := settledSnapshot_of_sent (hsnapshot result now rfl) hsent
  have hstart : Recovered lease.channel lease.occurrenceGeneration
      (w.setDelivery lease.channel { snapshot }) := by
    constructor
    · apply Grown.setDelivery
      have hoccurrence := hmatches.occurrenceGeneration
      constructor <;> omega
    · intro _
      rw [Incident.setDelivery_status, Incident.setDelivery_delivery,
        Incident.setDelivery_notificationGeneration]
      refine ⟨hstatus, rfl, ?_⟩
      rw [hsuccess, hmatches.notificationGeneration]
  have hrun : ∃ v, stored P uuid (earlier ++ claimed :: middle ++ .settle lease result now :: later)
      lease.incidentId = some v ∧ Recovered lease.channel lease.occurrenceGeneration v := by
    apply stored_since _ ⟨_, hsettled, hstart⟩
    intro _ _ _ _ y after hy heffect
    exact heffect.recovered hy
  obtain ⟨y, hy, hrecoveredRun⟩ := hrun
  obtain ⟨z, _, _, hz, hlater, _, _⟩ := closed rfl (.inr hsecond)
  rw [hid] at hz
  rw [hz] at hy
  cases hy
  rw [← hchannel] at hrecoveredRun
  exact hrecoveredRun.not_matches hlater (hlater.occurrenceGeneration.trans hsame)

/-- No success of an earlier occurrence keeps the first notification of the present one back. -/
theorem first_notification_due {calls : List IncidentCall}
    (hv : stored P uuid calls id = some v) (hunresolved : v.status ≠ .resolved)
    (hsevere : v.severity ≠ .info)
    (hunsent : ¬Sent P uuid calls id channel v.occurrenceGeneration)
    (hsession : channel = .cli → ∃ session, sessionHash = some session ∧
      isIncidentLabel session = true)
    (hretry : inRetryWindow (v.delivery channel).snapshot now = .ok false) :
    notificationDue P v channel sessionHash now = .ok true := by
  have hrecorded := recorded_stored P uuid calls id channel v hv
  have hsuccess : (v.delivery channel).snapshot.successGeneration < v.occurrenceGeneration := by
    by_contra hnot
    exact hunsent (hrecorded.current.success (Nat.le_of_not_lt hnot))
  have hgeneration : generationDue v channel (v.delivery channel).snapshot now = .ok true := by
    rw [generationDue, if_neg hunresolved, if_neg hsevere, if_pos]
    exact lt_of_lt_of_le hsuccess hrecorded.ordered
  have hsessions : ¬(channel = .cli ∧ sessionHash.any
      ((v.delivery channel).snapshot.successfulSessions.contains ·) = true) := by
    rintro ⟨hcli, hany⟩
    have hempty : (v.delivery channel).snapshot.successfulSessions = [] := by
      by_contra hne
      exact hunsent (hrecorded.current.session hcli hne)
    rw [hempty] at hany
    cases sessionHash with
    | none => cases hany
    | some session => cases hany
  have hdue : channelDue v channel sessionHash now = .ok true := by
    rw [channelDue, if_neg hsessions, hretry]
    exact hgeneration
  have hvalid : validateIncident P v = .ok () := by
    rw [validateIncident, valid_stored calls id v hv]
    rfl
  rw [notificationDue, hvalid, ok_bind]
  cases channel with
  | os =>
    have hos : ¬(Channel.os = .cli ∧ sessionHash = none) := by
      intro h
      cases h.1
    rw [if_neg hos]
    exact hdue
  | cli =>
    obtain ⟨session, rfl, hlabel⟩ := hsession rfl
    have hcheck : (Channel.cli == Channel.cli && !(some session).all isIncidentLabel) = false := by
      rw [Option.all_some, hlabel]
      rfl
    have hnone : ¬(Channel.cli = .cli ∧ some session = none) := by
      intro h
      cases h.2
    rw [if_neg hnone, hcheck, refuse_false]
    exact hdue

/-- What holds of every run of the calls: claims are spaced, leases are fenced, generations grow,
and a recovery is told once, after a send of its occurrence. -/
structure NotifiesOnce (P : Platform) (uuid : Nat → String) : Prop where
  spaced : ∀ earlier middle id channel sessionHash laterSession now laterNow lease laterLease,
    answers P uuid earlier (.claim id channel sessionHash now) = .lease (some lease) →
    answers P uuid (earlier ++ .claim id channel sessionHash now :: middle)
      (.claim id channel laterSession laterNow) = .lease (some laterLease) →
    (∀ a call b, middle = a ++ call :: b →
      ¬ClosesAfter P uuid (earlier ++ .claim id channel sessionHash now :: a) call id channel) →
    now + hourMicroseconds ≤ laterNow
  fenced : ∀ earlier claimed middle call lease,
    answers P uuid earlier claimed = .lease (some lease) → call.lease? = some lease →
    stored P uuid (earlier ++ claimed :: middle ++ [call]) lease.incidentId ≠
      stored P uuid (earlier ++ claimed :: middle) lease.incidentId →
    (∀ a later b other, middle = a ++ later :: b →
      answers P uuid (earlier ++ claimed :: a) later = .lease (some other) →
      ¬(other.incidentId = lease.incidentId ∧ other.channel = lease.channel)) ∧
    ∀ a b, middle = a ++ b → ∃ v,
      stored P uuid (earlier ++ claimed :: a) lease.incidentId = some v ∧
      v.notificationGeneration = lease.notificationGeneration ∧
      v.occurrenceGeneration = lease.occurrenceGeneration
  grows : ∀ earlier later id v, stored P uuid earlier id = some v →
    ∃ t, stored P uuid (earlier ++ later) id = some t ∧
      v.notificationGeneration ≤ t.notificationGeneration
  recovery : ∀ calls claimed lease, answers P uuid calls claimed = .lease (some lease) →
    lease.recovered = true →
    Sent P uuid calls lease.incidentId lease.channel lease.occurrenceGeneration
  recoveredOnce : ∀ earlier claimed middle lease result now later other laterResult laterNow,
    answers P uuid earlier claimed = .lease (some lease) → lease.recovered = true →
    answers P uuid (earlier ++ claimed :: middle) (.settle lease result now) = .changed true →
    result.status = .sent →
    answers P uuid (earlier ++ claimed :: middle ++ .settle lease result now :: later)
      (.settle other laterResult laterNow) = .changed true →
    other.incidentId = lease.incidentId → other.channel = lease.channel →
    other.occurrenceGeneration ≠ lease.occurrenceGeneration
  renewed : ∀ calls id channel v sessionHash now, stored P uuid calls id = some v →
    v.status ≠ .resolved → v.severity ≠ .info →
    ¬Sent P uuid calls id channel v.occurrenceGeneration →
    (channel = .cli → ∃ session, sessionHash = some session ∧ isIncidentLabel session = true) →
    inRetryWindow (v.delivery channel).snapshot now = .ok false →
    notificationDue P v channel sessionHash now = .ok true

theorem notifications_once (huuid : Function.Injective uuid) : NotifiesOnce P uuid where
  spaced _ _ _ _ _ _ _ _ _ _ hfirst hsecond hopen := claims_spaced hfirst hsecond hopen
  fenced _ _ _ _ _ hlease hcall hchanges := lease_fenced huuid hlease hcall hchanges
  grows _ later _ _ hv := by
    obtain ⟨t, ht, hgrown⟩ := generations_grow hv later
    exact ⟨t, ht, hgrown.notification⟩
  recovery _ _ _ hlease hrecovered := recovery_after_sent hlease hrecovered
  recoveredOnce _ _ _ _ _ _ _ _ _ _ hlease hrecovered hfirst hsent hsecond hid hchannel :=
    recovery_settles_once hlease hrecovered hfirst hsent hsecond hid hchannel
  renewed _ _ _ _ _ _ hv hunresolved hsevere hunsent hsession hretry :=
    first_notification_due hv hunresolved hsevere hunsent hsession hretry

/-- Tokens of hexadecimal digits, as the first calls draw them. -/
def sampleLeaseToken (n : Nat) : String :=
  String.ofList (List.replicate n '0' ++ '1' :: List.replicate (31 - n) '0')

theorem sampleLeaseToken_injective : Function.Injective sampleLeaseToken := by
  have hposition : ∀ n, (sampleLeaseToken n).toList.idxOf '1' = n := by
    intro n
    rw [sampleLeaseToken, String.toList_ofList, List.idxOf_append_of_notMem, List.idxOf_cons_self,
      List.length_replicate, Nat.add_zero]
    intro hmem
    cases List.eq_of_mem_replicate hmem
  intro n m h
  rw [← hposition n, h, hposition m]

def sampleIssue : HealthIssue where
  reasonCode := "SCHEDULER_STOPPED"
  componentId := "scheduler"
  severity := .error
  pendingCount := none
  pendingCountStatus := .unknown
  counted := by decide

def sampleSent : DeliveryResult where
  status := .sent
  reasonCode := "OS_ACCEPTED"
  deliveryId := none
  valid := by decide

def sampleIncident : String :=
  "inc_5d1f6d67351140d68d1870e6a4377abb"

/-- The lease of the first notification. -/
def openedLease : NotificationLease where
  incidentId := sampleIncident
  channel := .os
  token := sampleLeaseToken 1
  notificationGeneration := 1
  occurrenceGeneration := 1
  sessionHash := none
  reasonCode := "SCHEDULER_STOPPED"
  pendingCount := none
  recovered := false
  pendingCountStatus := .unknown

/-- The lease of the recovery's notification, which is of the same occurrence. -/
def recoveredLease : NotificationLease :=
  { openedLease with token := sampleLeaseToken 4, notificationGeneration := 2, recovered := true }

/-- The lease of the notification once the incident is open again. -/
def reopenedLease : NotificationLease :=
  { openedLease with
    token := sampleLeaseToken 8
    notificationGeneration := 3
    occurrenceGeneration := 3 }

/-- What the calls of a run answer, those that update the incidents left out. -/
def answersFrom (P : Platform) (uuid : Nat → String) :
    IncidentWorld → List IncidentCall → List IncidentAnswer
  | _, [] => []
  | w, call :: calls =>
    let next := (incidentMachine P uuid).step w call
    match next.2 with
    | .incidents _ => answersFrom P uuid next.1 calls
    | answer => answer :: answersFrom P uuid next.1 calls

def sampleCalls : List IncidentCall :=
  [.update [sampleIssue] 1 [], .claim sampleIncident .os none 2, .settle openedLease sampleSent 3,
    .update [] 4 [sampleIncident], .claim sampleIncident .os none 5,
    .settle recoveredLease sampleSent 6, .claim sampleIncident .os none 7,
    .update [sampleIssue] 8 [], .claim sampleIncident .os none 9]

/-- An incident is notified, its recovery is once, and it is again after it is open again. -/
theorem notifications_once_sample :
    NotifiesOnce samplePlatform sampleLeaseToken ∧
      answersFrom samplePlatform sampleLeaseToken {} sampleCalls =
        [.lease (some openedLease), .changed true, .lease (some recoveredLease), .changed true,
          .lease none, .lease (some reopenedLease)] :=
  ⟨notifications_once sampleLeaseToken_injective, by decide +kernel⟩

end IncidentCall

end ExternalIntelligence
