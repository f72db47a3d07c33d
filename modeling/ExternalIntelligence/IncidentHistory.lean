import ExternalIntelligence.IncidentRuns

namespace ExternalIntelligence
set_option autoImplicit true

open Relation (ReflTransGen)
open Incident (Fresh Turn Turns)

namespace IncidentCall

section Steps

variable {P : Platform} {token identifier : String} {call : IncidentCall}
  {answer : IncidentAnswer} {J : Incident → Prop}

/-- What new incidents meet and turns keep. -/
theorem turns_reach (hfresh : ∀ t, Fresh t → J t) (hturn : ∀ v t, J v → Turn v t → J t)
    (h : ReflTransGen Turns before after) (hbefore : ∀ v, before = some v → J v) :
    ∀ t, after = some t → J t := by
  induction h with
  | refl => exact hbefore
  | tail _ hlast ih =>
    intro t ht
    cases hlast with
    | born hnew =>
      cases ht
      exact hfresh _ hnew
    | turn hstep =>
      cases ht
      exact hturn _ _ (ih _ rfl) hstep

theorem turns_keep (hturn : ∀ v t, J v → Turn v t → J t)
    (h : ReflTransGen Turns (some v) after) (hv : J v) : ∃ t, after = some t ∧ J t := by
  induction h with
  | refl => exact ⟨v, rfl, hv⟩
  | tail _ hlast ih =>
    obtain ⟨t, rfl, ht⟩ := ih
    cases hlast with
    | turn hstep => exact ⟨_, rfl, hturn _ _ ht hstep⟩

/-- What turns keep and no delivery touches is kept by every call. -/
theorem Effect.keeps (h : Effect P token identifier call answer (some v) after)
    (hturn : ∀ v t, J v → Turn v t → J t)
    (hdelivery : ∀ v channel delivery, J v → J (v.setDelivery channel delivery)) (hv : J v) :
    ∃ t, after = some t ∧ J t := by
  cases h with
  | unchanged => exact ⟨v, rfl, hv⟩
  | turned _ _ h => exact turns_keep hturn h hv
  | claimed => exact ⟨_, rfl, hdelivery _ _ _ hv⟩
  | settled => exact ⟨_, rfl, hdelivery _ _ _ hv⟩
  | aborted => exact ⟨_, rfl, hdelivery _ _ _ hv⟩

/-- The generations of an incident from a moment on. -/
structure Grown (notification occurrence : Nat) (v : Incident) : Prop where
  notification : notification ≤ v.notificationGeneration
  occurrence : occurrence ≤ v.occurrenceGeneration
  ordered : v.occurrenceGeneration ≤ v.notificationGeneration

theorem Grown.turn (h : Grown n o v) (hturn : Turn v t) : Grown n o t := by
  obtain ⟨hn, ho, hordered⟩ := h
  cases hturn with
  | stands _ _ hnotification hoccurrence _ => constructor <;> omega
  | resolves _ _ hnotification hoccurrence _ => constructor <;> omega
  | reopens _ _ hnotification hoccurrence _ _ _ => constructor <;> omega

theorem Grown.setDelivery (h : Grown n o v) (channel : Channel) (delivery : Delivery) :
    Grown n o (v.setDelivery channel delivery) := by
  constructor
  · rw [Incident.setDelivery_notificationGeneration]
    exact h.notification
  · rw [Incident.setDelivery_occurrenceGeneration]
    exact h.occurrence
  · rw [Incident.setDelivery_notificationGeneration, Incident.setDelivery_occurrenceGeneration]
    exact h.ordered

theorem Turn.attempt (h : Turn v t) (channel : Channel) :
    (t.delivery channel).snapshot.lastAttemptAt = (v.delivery channel).snapshot.lastAttemptAt ∧
    (t.delivery channel).snapshot.lastResult = (v.delivery channel).snapshot.lastResult := by
  cases h with
  | stands _ _ _ _ hdelivery => rw [hdelivery]; exact ⟨rfl, rfl⟩
  | resolves _ _ _ _ hdelivery => rw [hdelivery]; exact ⟨rfl, rfl⟩
  | reopens _ _ _ _ hos _ hcli =>
    cases channel with
    | os =>
      change t.os.snapshot.lastAttemptAt = v.os.snapshot.lastAttemptAt ∧
        t.os.snapshot.lastResult = v.os.snapshot.lastResult
      rw [hos]
      exact ⟨rfl, rfl⟩
    | cli =>
      change t.cli.snapshot.lastAttemptAt = v.cli.snapshot.lastAttemptAt ∧
        t.cli.snapshot.lastResult = v.cli.snapshot.lastResult
      rw [hcli]
      exact ⟨rfl, rfl⟩

theorem Turn.lease (h : Turn v t) (channel : Channel) :
    (t.delivery channel).lease = (v.delivery channel).lease := by
  cases h with
  | stands _ _ _ _ hdelivery => rw [hdelivery]
  | resolves _ _ _ _ hdelivery => rw [hdelivery]
  | reopens _ _ _ _ hos hlease _ =>
    cases channel with
    | os =>
      change t.os.lease = v.os.lease
      rw [hos]
    | cli => exact hlease

/-- What a claim was due for. -/
theorem due_parts (h : notificationDue P v channel sessionHash now = .ok true) :
    inRetryWindow (v.delivery channel).snapshot now = .ok false ∧
      generationDue v channel (v.delivery channel).snapshot now = .ok true := by
  obtain ⟨_, _, h⟩ := Except.bind_eq_ok.1 h
  split at h
  · cases h
  · obtain ⟨_, h⟩ := refuse_bind_ok.1 h
    rw [channelDue] at h
    split at h
    · cases h
    · obtain ⟨waiting, hwaiting, h⟩ := Except.bind_eq_ok.1 h
      cases waiting with
      | true => cases h
      | false => exact ⟨hwaiting, h⟩

/-- An attempt that has not settled since a moment. -/
def Waiting (channel : Channel) (since : Int) (v : Incident) : Prop :=
  ∃ attemptAt, (v.delivery channel).snapshot.lastAttemptAt = some attemptAt ∧
    (v.delivery channel).snapshot.lastResult = some .unknown ∧ since ≤ attemptAt

theorem Waiting.due (h : Waiting channel since v)
    (hdue : notificationDue P v channel sessionHash now = .ok true) :
    since + hourMicroseconds ≤ now := by
  obtain ⟨attemptAt, hattempt, hresult, hsince⟩ := h
  obtain ⟨hretry, _⟩ := due_parts hdue
  rw [inRetryWindow, hattempt, hresult] at hretry
  dsimp only at hretry
  rw [if_pos (.inr rfl)] at hretry
  obtain ⟨retryAt, hretryAt, hretry⟩ := Except.bind_eq_ok.1 hretry
  rw [hoursAfter] at hretryAt
  split at hretryAt
  · cases hretryAt
    have hnot := of_decide_eq_false (Except.ok.inj hretry)
    omega
  · cases hretryAt

theorem Waiting.turn (h : Waiting channel since v) (hturn : Turn v t) : Waiting channel since t := by
  obtain ⟨attemptAt, hattempt, hresult, hsince⟩ := h
  obtain ⟨hsame, hsameResult⟩ := Turn.attempt hturn channel
  exact ⟨attemptAt, hsame.trans hattempt, hsameResult.trans hresult, hsince⟩

theorem waiting_claim (v : Incident) (token : String) (channel : Channel)
    (sessionHash : Option String) (now : Int) :
    Waiting channel now (v.claim token channel sessionHash now) := by
  refine ⟨now, ?_⟩
  rw [Incident.claim, Incident.setDelivery_delivery]
  exact ⟨rfl, rfl, le_refl _⟩

/-- A call settles or aborts a send of an incident on a channel. -/
def Closes (id : String) (channel : Channel) (call : IncidentCall) (answer : IncidentAnswer) :
    Prop :=
  answer = .changed true ∧ ∃ lease, call.lease? = some lease ∧ lease.incidentId = id ∧
    lease.channel = channel

theorem Effect.waiting (h : Effect P token identifier call answer (some v) after)
    (hopen : ¬Closes identifier channel call answer) (hv : Waiting channel since v) :
    ∃ t, after = some t ∧ Waiting channel since t := by
  cases h with
  | unchanged => exact ⟨v, rfl, hv⟩
  | turned _ _ h => exact turns_keep (fun _ _ hw ht => Waiting.turn hw ht) h hv
  | claimed hcall hanswer hdue =>
    rename_i other sessionHash now
    refine ⟨_, rfl, ?_⟩
    by_cases he : channel = other
    · subst he
      have hlater := hv.due hdue
      obtain ⟨attemptAt, hattempt, hresult, hnow⟩ := waiting_claim v token channel sessionHash now
      refine ⟨attemptAt, hattempt, hresult, ?_⟩
      rw [hourMicroseconds] at hlater
      omega
    · rw [Waiting, Incident.claim, Incident.setDelivery_other he]
      exact hv
  | settled hcall hid hanswer hmatches hsnapshot =>
    rename_i lease result now persisted snapshot
    refine ⟨_, rfl, ?_⟩
    have he : channel ≠ lease.channel := by
      rintro rfl
      exact hopen ⟨hanswer, lease, by rw [hcall]; rfl, hid, rfl⟩
    rw [Waiting, Incident.setDelivery_other he]
    exact hv
  | aborted hcall hid hanswer hmatches hprevious =>
    rename_i lease persisted previous
    refine ⟨_, rfl, ?_⟩
    have he : channel ≠ lease.channel := by
      rintro rfl
      exact hopen ⟨hanswer, lease, by rw [hcall]; rfl, hid, rfl⟩
    rw [Waiting, Incident.setDelivery_other he]
    exact hv

/-- On a channel an older lease has given way to one that was drawn later. -/
def Superseded (uuid : Nat → String) (channel : Channel) (number : Nat) (v : Incident) : Prop :=
  ∀ lease, (v.delivery channel).lease = some lease → ∃ later, number < later ∧
    lease.token = uuid later

theorem Superseded.turn (h : Superseded uuid channel number v) (hturn : Turn v t) :
    Superseded uuid channel number t := by
  intro lease hlease
  rw [Turn.lease hturn channel] at hlease
  exact h lease hlease

theorem superseded_claim (hnumber : number < drawn) (v : Incident) (sessionHash : Option String)
    (now : Int) :
    Superseded uuid channel number (v.claim (uuid drawn) channel sessionHash now) := by
  intro lease hlease
  rw [Incident.claim, Incident.setDelivery_delivery] at hlease
  cases hlease
  exact ⟨drawn, hnumber, rfl⟩

/-- A channel without a lease. -/
theorem superseded_setDelivery (h : Superseded uuid channel number v) (other : Channel)
    (snapshot : DeliverySnapshot) :
    Superseded uuid channel number (v.setDelivery other { snapshot }) := by
  intro lease hlease
  by_cases he : channel = other
  · subst he
    rw [Incident.setDelivery_delivery] at hlease
    cases hlease
  · rw [Incident.setDelivery_other he] at hlease
    exact h lease hlease

theorem Effect.superseded (h : Effect P (uuid drawn) identifier call answer (some v) after)
    (hnumber : number < drawn) (hv : Superseded uuid channel number v) :
    ∃ t, after = some t ∧ Superseded uuid channel number t := by
  cases h with
  | unchanged => exact ⟨v, rfl, hv⟩
  | turned _ _ h => exact turns_keep (fun _ _ hw ht => Superseded.turn hw ht) h hv
  | claimed hcall hanswer hdue =>
    rename_i other sessionHash now
    refine ⟨_, rfl, ?_⟩
    by_cases he : channel = other
    · subst he
      exact superseded_claim hnumber v sessionHash now
    · intro lease hlease
      rw [Incident.claim, Incident.setDelivery_other he] at hlease
      exact hv lease hlease
  | settled => exact ⟨_, rfl, superseded_setDelivery hv _ _⟩
  | aborted => exact ⟨_, rfl, superseded_setDelivery hv _ _⟩

/-- An occurrence that was recovered from and said so on a channel, unless another one began. -/
structure Recovered (channel : Channel) (occurrence : Nat) (v : Incident) : Prop where
  grown : Grown occurrence occurrence v
  told : v.occurrenceGeneration = occurrence → v.status = .resolved ∧
    (v.delivery channel).lease = none ∧
    v.notificationGeneration ≤ (v.delivery channel).snapshot.successGeneration

theorem Recovered.turn (h : Recovered channel occurrence v) (hturn : Turn v t) :
    Recovered channel occurrence t := by
  refine ⟨h.grown.turn hturn, ?_⟩
  intro he
  cases hturn with
  | stands _ hunresolved _ hoccurrence _ =>
    exact absurd (h.told (hoccurrence ▸ he)).1 hunresolved
  | resolves hopened _ _ hoccurrence _ =>
    have hresolved := (h.told (hoccurrence ▸ he)).1
    rw [hopened] at hresolved
    cases hresolved
  | reopens _ _ _ hoccurrence _ _ _ =>
    have hgrown := h.grown.notification
    omega

/-- Nothing is due on a channel that has told of the recovery. -/
theorem Recovered.not_due (h : Recovered channel occurrence v)
    (hdue : notificationDue P v channel sessionHash now = .ok true) :
    v.occurrenceGeneration ≠ occurrence := by
  intro he
  obtain ⟨hresolved, _, hsuccess⟩ := h.told he
  obtain ⟨_, hgeneration⟩ := due_parts hdue
  rw [generationDue, if_pos hresolved, Except.ok.injEq] at hgeneration
  simp only [Bool.and_eq_true, decide_eq_true_eq] at hgeneration
  omega

theorem Recovered.not_matches (h : Recovered lease.channel occurrence v)
    (hmatches : Matches v lease persisted) : v.occurrenceGeneration ≠ occurrence := by
  intro he
  have hnone := (h.told he).2.1
  rw [hmatches.stored] at hnone
  cases hnone

/-- A delivery on a channel matters only while the occurrence lasts. -/
theorem Recovered.setDelivery (h : Recovered channel occurrence v) {delivery : Delivery}
    (hnot : other = channel → v.occurrenceGeneration ≠ occurrence) :
    Recovered channel occurrence (v.setDelivery other delivery) := by
  refine ⟨h.grown.setDelivery other delivery, ?_⟩
  intro he
  rw [Incident.setDelivery_occurrenceGeneration] at he
  have hother : channel ≠ other := fun hsame => hnot hsame.symm he
  rw [Incident.setDelivery_status, Incident.setDelivery_other hother,
    Incident.setDelivery_notificationGeneration]
  exact h.told he

theorem Effect.recovered (h : Effect P token identifier call answer (some v) after)
    (hv : Recovered channel occurrence v) :
    ∃ t, after = some t ∧ Recovered channel occurrence t := by
  cases h with
  | unchanged => exact ⟨v, rfl, hv⟩
  | turned _ _ h => exact turns_keep (fun _ _ hw ht => Recovered.turn hw ht) h hv
  | claimed _ _ hdue =>
    refine ⟨_, rfl, hv.setDelivery ?_⟩
    rintro rfl
    exact hv.not_due hdue
  | settled _ _ _ hmatches _ =>
    refine ⟨_, rfl, hv.setDelivery ?_⟩
    rintro rfl
    exact hv.not_matches hmatches
  | aborted _ _ _ hmatches _ =>
    refine ⟨_, rfl, hv.setDelivery ?_⟩
    rintro rfl
    exact hv.not_matches hmatches

/-- What is kept of the successes on a channel goes back to a send of the occurrence. -/
structure Accounted (sent : Prop) (channel : Channel) (v : Incident) (item : DeliverySnapshot) :
    Prop where
  bounded : item.successGeneration ≤ v.notificationGeneration
  success : v.occurrenceGeneration ≤ item.successGeneration → sent
  session : channel = .cli → item.successfulSessions ≠ [] → sent

structure Recorded (sent : Nat → Prop) (channel : Channel) (v : Incident) : Prop where
  positive : 1 ≤ v.occurrenceGeneration
  ordered : v.occurrenceGeneration ≤ v.notificationGeneration
  current : Accounted (sent v.occurrenceGeneration) channel v (v.delivery channel).snapshot
  leased : ∀ lease, (v.delivery channel).lease = some lease →
    lease.occurrenceGeneration ≤ v.occurrenceGeneration
  restored : ∀ lease previous, (v.delivery channel).lease = some lease →
    lease.occurrenceGeneration = v.occurrenceGeneration → lease.previousDelivery = some previous →
    Accounted (sent v.occurrenceGeneration) channel v previous

theorem Accounted.grow {sent : Nat → Prop}
    (h : Accounted (sent v.occurrenceGeneration) channel v item)
    (hnotification : v.notificationGeneration ≤ t.notificationGeneration)
    (hoccurrence : t.occurrenceGeneration = v.occurrenceGeneration) :
    Accounted (sent t.occurrenceGeneration) channel t item := by
  constructor
  · exact le_trans h.bounded hnotification
  · rw [hoccurrence]
    exact h.success
  · rw [hoccurrence]
    exact h.session

theorem Recorded.grow (h : Recorded sent channel v)
    (hnotification : v.notificationGeneration ≤ t.notificationGeneration)
    (hoccurrence : t.occurrenceGeneration = v.occurrenceGeneration)
    (hdelivery : t.delivery channel = v.delivery channel) : Recorded sent channel t := by
  constructor
  · rw [hoccurrence]
    exact h.positive
  · rw [hoccurrence]
    exact le_trans h.ordered hnotification
  · rw [hdelivery]
    exact h.current.grow hnotification hoccurrence
  · rw [hdelivery, hoccurrence]
    exact h.leased
  · intro lease previous hlease hsame hprevious
    rw [hdelivery] at hlease
    rw [hoccurrence] at hsame
    exact (h.restored lease previous hlease hsame hprevious).grow hnotification hoccurrence

/-- Nothing of an earlier occurrence counts for the new one. -/
theorem Recorded.reopen (h : Recorded sent channel v)
    (hnotification : t.notificationGeneration = v.notificationGeneration + 1)
    (hoccurrence : t.occurrenceGeneration = v.notificationGeneration + 1)
    (hsuccess : (t.delivery channel).snapshot.successGeneration =
      (v.delivery channel).snapshot.successGeneration)
    (hsessions : channel = .cli → (t.delivery channel).snapshot.successfulSessions = [])
    (hlease : (t.delivery channel).lease = (v.delivery channel).lease) :
    Recorded sent channel t := by
  have hordered := h.ordered
  have hbounded := h.current.bounded
  constructor
  · omega
  · omega
  · constructor
    · omega
    · intro hle
      omega
    · intro hcli hne
      exact absurd (hsessions hcli) hne
  · intro lease hl
    have hleased := h.leased lease (hlease ▸ hl)
    omega
  · intro lease previous hl hsame _
    have hleased := h.leased lease (hlease ▸ hl)
    omega

theorem Recorded.turn (h : Recorded sent channel v) (hturn : Turn v t) :
    Recorded sent channel t := by
  cases hturn with
  | stands _ _ hnotification hoccurrence hdelivery =>
    exact h.grow hnotification hoccurrence (hdelivery channel)
  | resolves _ _ hnotification hoccurrence hdelivery =>
    apply h.grow _ hoccurrence (hdelivery channel)
    rw [hnotification]
    exact Nat.le_succ _
  | reopens hresolved hopened hnotification hoccurrence hos hlease hcli =>
    have hturn : Turn v t := .reopens hresolved hopened hnotification hoccurrence hos hlease hcli
    apply h.reopen hnotification hoccurrence _ _ (Turn.lease hturn channel)
    · cases channel with
      | os =>
        change t.os.snapshot.successGeneration = v.os.snapshot.successGeneration
        rw [hos]
      | cli =>
        change t.cli.snapshot.successGeneration = v.cli.snapshot.successGeneration
        rw [hcli]
    · rintro rfl
      change t.cli.snapshot.successfulSessions = []
      rw [hcli]

theorem recorded_fresh (h : Fresh t) : Recorded sent channel t := by
  have hdelivery := h.delivery channel
  constructor
  · rw [h.occurrence]
  · rw [h.occurrence, h.notification]
  · rw [hdelivery]
    constructor
    · exact Nat.zero_le _
    · rw [h.occurrence]
      intro hle
      exact absurd hle (by decide)
    · intro _ hne
      exact absurd rfl hne
  · rw [hdelivery]
    intro lease hlease
    cases hlease
  · rw [hdelivery]
    intro lease previous hlease
    cases hlease

theorem Recorded.mono {later : Nat → Prop} (h : Recorded sent channel v)
    (hsent : ∀ occurrence, sent occurrence → later occurrence) : Recorded later channel v := by
  have haccounted : ∀ item, Accounted (sent v.occurrenceGeneration) channel v item →
      Accounted (later v.occurrenceGeneration) channel v item := by
    intro item hitem
    exact ⟨hitem.bounded, fun hle => hsent _ (hitem.success hle),
      fun hcli hne => hsent _ (hitem.session hcli hne)⟩
  constructor
  · exact h.positive
  · exact h.ordered
  · exact haccounted _ h.current
  · exact h.leased
  · intro lease previous hlease hsame hprevious
    exact haccounted _ (h.restored lease previous hlease hsame hprevious)

/-- A delivery on the channel whose sends are accounted for. -/
theorem Recorded.setDelivery (h : Recorded sent channel v)
    (hitem : Accounted (sent v.occurrenceGeneration) channel v item)
    (hlease : ∀ lease, stored = some lease →
      lease.occurrenceGeneration = v.occurrenceGeneration ∧
      ∀ previous, lease.previousDelivery = some previous →
        Accounted (sent v.occurrenceGeneration) channel v previous) :
    Recorded sent channel (v.setDelivery channel ⟨item, stored⟩) := by
  have haccounted : ∀ kept, Accounted (sent v.occurrenceGeneration) channel v kept →
      Accounted (sent (v.setDelivery channel ⟨item, stored⟩).occurrenceGeneration) channel
        (v.setDelivery channel ⟨item, stored⟩) kept := by
    intro kept hkept
    apply hkept.grow
    · rw [Incident.setDelivery_notificationGeneration]
    · rw [Incident.setDelivery_occurrenceGeneration]
  constructor
  · rw [Incident.setDelivery_occurrenceGeneration]
    exact h.positive
  · rw [Incident.setDelivery_occurrenceGeneration, Incident.setDelivery_notificationGeneration]
    exact h.ordered
  · rw [Incident.setDelivery_delivery]
    exact haccounted item hitem
  · intro lease hl
    rw [Incident.setDelivery_delivery] at hl
    rw [Incident.setDelivery_occurrenceGeneration]
    exact le_of_eq (hlease lease hl).1
  · intro lease previous hl _ hprevious
    rw [Incident.setDelivery_delivery] at hl
    exact haccounted previous ((hlease lease hl).2 previous hprevious)

theorem Recorded.elsewhere (h : Recorded sent channel v) (hother : channel ≠ other)
    (delivery : Delivery) : Recorded sent channel (v.setDelivery other delivery) := by
  apply h.grow
  · rw [Incident.setDelivery_notificationGeneration]
  · rw [Incident.setDelivery_occurrenceGeneration]
  · rw [Incident.setDelivery_other hother]

theorem settledSnapshot_of_not_sent (h : settledSnapshot item lease result now = .ok snapshot)
    (hnot : result.status ≠ .sent) : snapshot = item.settle result := by
  rw [settledSnapshot, if_neg hnot] at h
  exact (Except.ok.inj h).symm

theorem settledSnapshot_of_sent (h : settledSnapshot item lease result now = .ok snapshot)
    (hsent : result.status = .sent) :
    snapshot.successGeneration = lease.notificationGeneration := by
  rw [settledSnapshot, if_pos hsent] at h
  obtain ⟨stamp, _, h⟩ := Except.bind_eq_ok.1 h
  cases h
  rfl

theorem Recorded.settle (h : Recorded sent lease.channel v) (hmatches : Matches v lease persisted)
    (hsnapshot : settledSnapshot (v.delivery lease.channel).snapshot lease result now =
      .ok snapshot) (hsent : result.status = .sent → sent lease.occurrenceGeneration) :
    Recorded sent lease.channel (v.setDelivery lease.channel { snapshot }) := by
  apply h.setDelivery
  · by_cases hstatus : result.status = .sent
    · have hnow : sent v.occurrenceGeneration := by
        rw [hmatches.occurrenceGeneration]
        exact hsent hstatus
      constructor
      · rw [settledSnapshot_of_sent hsnapshot hstatus, hmatches.notificationGeneration]
      · exact fun _ => hnow
      · exact fun _ _ => hnow
    · rw [settledSnapshot_of_not_sent hsnapshot hstatus]
      exact ⟨h.current.bounded, h.current.success, h.current.session⟩
  · intro persisted hnone
    cases hnone

theorem Effect.recorded {later : Nat → Prop}
    (h : Effect P token identifier call answer before after)
    (hbefore : ∀ v, before = some v → Recorded sent channel v)
    (hmono : ∀ occurrence, sent occurrence → later occurrence)
    (hsettle : ∀ lease result now, call = .settle lease result now → answer = .changed true →
      lease.incidentId = identifier → lease.channel = channel → result.status = .sent →
      later lease.occurrenceGeneration) :
    ∀ t, after = some t → Recorded later channel t := by
  have hlater : ∀ v, before = some v → Recorded later channel v :=
    fun v hv => (hbefore v hv).mono hmono
  cases h with
  | unchanged => exact hlater
  | turned _ _ h =>
    exact turns_reach (fun _ ht => recorded_fresh ht) (fun _ _ hw ht => Recorded.turn hw ht) h hlater
  | claimed hcall hanswer hdue =>
    rename_i other sessionHash now v
    intro t ht
    cases ht
    have hv := hlater v rfl
    by_cases he : channel = other
    · subst he
      apply hv.setDelivery
      · exact ⟨hv.current.bounded, hv.current.success, hv.current.session⟩
      · intro lease hlease
        cases hlease
        refine ⟨rfl, ?_⟩
        intro previous hprevious
        cases hprevious
        exact hv.current
    · exact hv.elsewhere he _
  | settled hcall hid hanswer hmatches hsnapshot =>
    rename_i lease result now v persisted snapshot
    intro t ht
    cases ht
    have hv := hlater v rfl
    by_cases he : channel = lease.channel
    · subst he
      exact hv.settle hmatches hsnapshot (hsettle lease result now hcall hanswer hid rfl)
    · exact hv.elsewhere he _
  | aborted hcall hid hanswer hmatches hprevious =>
    rename_i lease v persisted previous
    intro t ht
    cases ht
    have hv := hlater v rfl
    by_cases he : channel = lease.channel
    · subst he
      apply hv.setDelivery
      · exact hv.restored persisted previous hmatches.stored hmatches.occurrence hprevious
      · intro other hnone
        cases hnone
    · exact hv.elsewhere he _

end Steps

section Runs

variable {P : Platform} {uuid : Nat → String} {id : String}

/-- What is stored under an id after some calls. -/
def stored (P : Platform) (uuid : Nat → String) (calls : List IncidentCall) (id : String) :
    Option Incident :=
  ((incidentMachine P uuid).after {} calls).incidents.lookup id

def answers (P : Platform) (uuid : Nat → String) (calls : List IncidentCall) (call : IncidentCall) :
    IncidentAnswer :=
  (incidentMachine P uuid).output {} calls call

theorem drawn_after (P : Platform) (uuid : Nat → String) (calls : List IncidentCall) :
    ((incidentMachine P uuid).after {} calls).drawn = calls.length := by
  induction calls using List.reverseRecOn with
  | nil => rfl
  | append_singleton calls call ih =>
    rw [Machine.after_concat, step_drawn, ih, List.length_append, List.length_singleton]

theorem stored_concat (P : Platform) (uuid : Nat → String) (calls : List IncidentCall)
    (call : IncidentCall) (id : String) :
    Effect P (uuid calls.length) id call (answers P uuid calls call) (stored P uuid calls id)
      (stored P uuid (calls ++ [call]) id) := by
  rw [stored, stored, Machine.after_concat, ← drawn_after P uuid calls]
  exact step_effect P uuid _ call id

/-- What every call of a run keeps of an incident, the run keeps. -/
theorem stored_run {J : Incident → Prop} (hstart : ∃ v, stored P uuid earlier id = some v ∧ J v)
    (hstep : ∀ a call b, middle = a ++ call :: b → ∀ v after, J v →
      Effect P (uuid (earlier ++ a).length) id call (answers P uuid (earlier ++ a) call) (some v)
        after → ∃ t, after = some t ∧ J t) :
    ∃ v, stored P uuid (earlier ++ middle) id = some v ∧ J v := by
  induction middle using List.reverseRecOn with
  | nil =>
    rw [List.append_nil]
    exact hstart
  | append_singleton middle call ih =>
    obtain ⟨v, hv, hJ⟩ := ih fun a c b he => hstep a c (b ++ [call]) (by rw [he]; simp)
    have heffect := stored_concat P uuid (earlier ++ middle) call id
    rw [hv] at heffect
    rw [← List.append_assoc]
    exact hstep middle call [] rfl v _ hJ heffect

/-- What holds after a call and every later one keeps. -/
theorem stored_since {J : Incident → Prop} (middle : List IncidentCall)
    (hstart : ∃ v, stored P uuid (earlier ++ [first]) id = some v ∧ J v)
    (hstep : ∀ a call b, middle = a ++ call :: b → ∀ v after, J v →
      Effect P (uuid (earlier ++ first :: a).length) id call
        (answers P uuid (earlier ++ first :: a) call) (some v) after → ∃ t, after = some t ∧ J t) :
    ∃ v, stored P uuid (earlier ++ first :: middle) id = some v ∧ J v := by
  rw [← List.singleton_append, ← List.append_assoc]
  apply stored_run hstart
  intro a call b he
  rw [List.append_assoc, List.singleton_append]
  exact hstep a call b he

/-- A call that answers a lease is a claim that was due. -/
theorem leased (h : answers P uuid calls call = .lease (some lease)) :
    ∃ v sessionHash now, call = .claim lease.incidentId lease.channel sessionHash now ∧
      stored P uuid calls lease.incidentId = some v ∧
      notificationDue P v lease.channel sessionHash now = .ok true ∧
      lease = v.lease lease.incidentId (uuid calls.length) lease.channel sessionHash ∧
      stored P uuid (calls ++ [call]) lease.incidentId =
        some (v.claim (uuid calls.length) lease.channel sessionHash now) := by
  have heffect := stored_concat P uuid calls call lease.incidentId
  generalize stored P uuid calls lease.incidentId = before at heffect ⊢
  generalize stored P uuid (calls ++ [call]) lease.incidentId = after at heffect ⊢
  cases heffect with
  | unchanged hlease hchanged => exact absurd rfl (hlease lease h)
  | turned hcall hanswer hturns =>
    rw [hanswer] at h
    cases h
  | claimed hcall hanswer hdue =>
    rw [hanswer] at h
    have hlease := Option.some.inj (IncidentAnswer.lease.inj h)
    have hchannel := congrArg NotificationLease.channel hlease
    subst hchannel
    exact ⟨_, _, _, hcall, rfl, hdue, hlease.symm, rfl⟩
  | settled hcall hid hanswer hmatches hsnapshot =>
    rw [hanswer] at h
    cases h
  | aborted hcall hid hanswer hmatches hprevious =>
    rw [hanswer] at h
    cases h

/-- A call that settles or aborts a lease finds it stored, and leaves none. -/
theorem closed (hlease : call.lease? = some lease)
    (h : stored P uuid (calls ++ [call]) lease.incidentId ≠ stored P uuid calls lease.incidentId ∨
      answers P uuid calls call = .changed true) :
    ∃ v persisted snapshot, stored P uuid calls lease.incidentId = some v ∧
      Matches v lease persisted ∧
      stored P uuid (calls ++ [call]) lease.incidentId =
        some (v.setDelivery lease.channel { snapshot }) ∧
      ∀ result now, call = .settle lease result now →
        settledSnapshot (v.delivery lease.channel).snapshot lease result now = .ok snapshot := by
  have heffect := stored_concat P uuid calls call lease.incidentId
  generalize stored P uuid calls lease.incidentId = before at heffect h ⊢
  generalize stored P uuid (calls ++ [call]) lease.incidentId = after at heffect h ⊢
  cases heffect with
  | unchanged hnot hchanged =>
    rcases h with hne | hanswer
    · exact absurd rfl hne
    · exact absurd rfl (hchanged lease hlease hanswer)
  | turned hcall _ _ =>
    rw [hcall] at hlease
    cases hlease
  | claimed hcall _ _ =>
    rw [hcall] at hlease
    cases hlease
  | settled hcall hid hanswer hmatches hsnapshot =>
    rw [hcall] at hlease
    cases hlease
    refine ⟨_, _, _, rfl, hmatches, rfl, ?_⟩
    intro result now he
    rw [hcall] at he
    cases he
    exact hsnapshot
  | aborted hcall hid hanswer hmatches hprevious =>
    rw [hcall] at hlease
    cases hlease
    refine ⟨_, _, _, rfl, hmatches, rfl, ?_⟩
    intro result now he
    rw [hcall] at he
    cases he

/-- A send of an occurrence was settled as sent on a channel. -/
def Sent (P : Platform) (uuid : Nat → String) (calls : List IncidentCall) (id : String)
    (channel : Channel) (occurrence : Nat) : Prop :=
  ∃ earlier lease result now later, calls = earlier ++ .settle lease result now :: later ∧
    answers P uuid earlier (.settle lease result now) = .changed true ∧ result.status = .sent ∧
    lease.incidentId = id ∧ lease.channel = channel ∧ lease.occurrenceGeneration = occurrence

theorem Sent.concat (h : Sent P uuid calls id channel occurrence) (call : IncidentCall) :
    Sent P uuid (calls ++ [call]) id channel occurrence := by
  obtain ⟨earlier, lease, result, now, later, he, hsent⟩ := h
  refine ⟨earlier, lease, result, now, later ++ [call], ?_, hsent⟩
  rw [he, List.append_assoc, List.cons_append]

/-- What is stored of the sends on a channel, as the calls account for it. -/
theorem recorded_stored (P : Platform) (uuid : Nat → String) (calls : List IncidentCall) (id : String)
    (channel : Channel) :
    ∀ v, stored P uuid calls id = some v → Recorded (Sent P uuid calls id channel) channel v := by
  induction calls using List.reverseRecOn with
  | nil =>
    intro v hv
    cases hv
  | append_singleton calls call ih =>
    apply Effect.recorded (stored_concat P uuid calls call id) ih
    · exact fun _ h => h.concat call
    · rintro lease result now rfl hanswer hid hchannel hsent
      exact ⟨calls, lease, result, now, [], rfl, hanswer, hsent, hid, hchannel, rfl⟩

theorem ok_of_forM_ok {f : α → Except Raised Unit} {items : List α} (h : items.forM f = .ok ()) :
    ∀ a ∈ items, f a = .ok () := by
  induction items with
  | nil =>
    intro a ha
    cases ha
  | cons b items ih =>
    obtain ⟨_, hb, h⟩ := Except.bind_eq_ok.1 h
    intro a ha
    rcases List.mem_cons.1 ha with rfl | ha
    · exact hb
    · exact ih h a ha

theorem valid_of_validateIncidents (h : validateIncidents P incidents = .ok ()) :
    ∀ v, incidents.lookup id = some v → validIncident P v = true := by
  intro v hv
  have hitem := ok_of_forM_ok h (id, v) (Dict.mem_of_lookup hv)
  simpa [validateIncident] using hitem

theorem valid_set (hv : validIncident P v = true)
    (h : ∀ v, incidents.lookup id = some v → validIncident P v = true) :
    ∀ t, (Dict.set identifier v incidents).lookup id = some t → validIncident P t = true := by
  intro t ht
  rw [Dict.lookup_set] at ht
  split at ht
  · cases ht
    exact hv
  · exact h t ht

/-- What a call writes is valid if what it read was. -/
theorem perform_valid {call : IncidentCall} {before after : Incidents}
    (h : call.perform P token before = .ok (answer, after))
    (hbefore : ∀ v, before.lookup id = some v → validIncident P v = true) :
    ∀ v, after.lookup id = some v → validIncident P v = true := by
  cases call with
  | update issues now verified =>
    obtain ⟨incidents, hincidents, he⟩ := Except.map_eq_ok.1 h
    cases he
    obtain ⟨_, _, h⟩ := Except.bind_eq_ok.1 hincidents
    obtain ⟨_, _, h⟩ := Except.bind_eq_ok.1 h
    obtain ⟨_, _, h⟩ := Except.bind_eq_ok.1 h
    obtain ⟨_, hvalid, h⟩ := Except.bind_eq_ok.1 h
    cases h
    exact valid_of_validateIncidents hvalid
  | claim identifier channel sessionHash now =>
    obtain ⟨result, hresult, he⟩ := Except.map_eq_ok.1 h
    split at he
    · cases he
      exact hbefore
    · cases he
      obtain ⟨_, _, _, _, hvalid, rfl⟩ := claimNotification_ok hresult
      exact valid_set hvalid hbefore
  | settle lease result now =>
    obtain ⟨outcome, houtcome, he⟩ := Except.map_eq_ok.1 h
    split at he
    · cases he
      exact hbefore
    · cases he
      obtain ⟨_, _, _, _, _, _, hvalid, rfl⟩ := settleNotification_ok houtcome
      exact valid_set hvalid hbefore
  | abort lease =>
    obtain ⟨outcome, houtcome, he⟩ := Except.map_eq_ok.1 h
    split at he
    · cases he
      exact hbefore
    · cases he
      obtain ⟨_, _, _, _, _, _, hvalid, rfl⟩ := abortNotification_ok houtcome
      exact valid_set hvalid hbefore

/-- Every incident that is stored is valid. -/
theorem valid_stored (calls : List IncidentCall) (id : String) :
    ∀ v, stored P uuid calls id = some v → validIncident P v = true := by
  rw [stored]
  apply Machine.invariant (incidentMachine P uuid)
    (I := fun w => ∀ v, w.incidents.lookup id = some v → validIncident P v = true)
  · intro w call hw
    rw [incidentMachine]
    dsimp only
    split
    · rename_i answer incidents hperform
      exact perform_valid hperform hw
    · exact hw
  · intro v hv
    cases hv

end Runs

end IncidentCall

end ExternalIntelligence
