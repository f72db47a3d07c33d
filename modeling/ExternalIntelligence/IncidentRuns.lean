import ExternalIntelligence.Incidents
import ExternalIntelligence.JournalReading

namespace ExternalIntelligence
set_option autoImplicit true

open Relation (ReflTransGen)

namespace Incident

@[simp] theorem setDelivery_delivery (value : Incident) (channel : Channel) (d : Delivery) :
    (value.setDelivery channel d).delivery channel = d := by
  cases channel <;> rfl

theorem setDelivery_other {channel other : Channel} (h : other ≠ channel) (value : Incident)
    (d : Delivery) : (value.setDelivery channel d).delivery other = value.delivery other := by
  cases channel <;> cases other
  · exact absurd rfl h
  · rfl
  · rfl
  · exact absurd rfl h

@[simp] theorem setDelivery_notificationGeneration (value : Incident) (channel : Channel)
    (d : Delivery) :
    (value.setDelivery channel d).notificationGeneration = value.notificationGeneration := by
  cases channel <;> rfl

@[simp] theorem setDelivery_occurrenceGeneration (value : Incident) (channel : Channel)
    (d : Delivery) :
    (value.setDelivery channel d).occurrenceGeneration = value.occurrenceGeneration := by
  cases channel <;> rfl

@[simp] theorem setDelivery_status (value : Incident) (channel : Channel) (d : Delivery) :
    (value.setDelivery channel d).status = value.status := by
  cases channel <;> rfl

/-- What the health of the system makes of an incident. -/
inductive Turn (v t : Incident) : Prop where
  | stands (hstatus : t.status = v.status) (hunresolved : v.status ≠ .resolved)
      (hnotification : v.notificationGeneration ≤ t.notificationGeneration)
      (hoccurrence : t.occurrenceGeneration = v.occurrenceGeneration)
      (hdelivery : ∀ channel, t.delivery channel = v.delivery channel)
  | resolves (hopened : v.status = .opened) (hresolved : t.status = .resolved)
      (hnotification : t.notificationGeneration = v.notificationGeneration + 1)
      (hoccurrence : t.occurrenceGeneration = v.occurrenceGeneration)
      (hdelivery : ∀ channel, t.delivery channel = v.delivery channel)
  | reopens (hresolved : v.status = .resolved) (hopened : t.status = .opened)
      (hnotification : t.notificationGeneration = v.notificationGeneration + 1)
      (hoccurrence : t.occurrenceGeneration = v.notificationGeneration + 1)
      (hos : t.os = v.os) (hlease : t.cli.lease = v.cli.lease)
      (hcli : t.cli.snapshot = { v.cli.snapshot with successfulSessions := [] })

/-- An incident that has just been detected. -/
structure Fresh (t : Incident) : Prop where
  unresolved : t.status ≠ .resolved
  notification : t.notificationGeneration = 1
  occurrence : t.occurrenceGeneration = 1
  delivery : ∀ channel, t.delivery channel = {}

/-- What the health of the system makes of what is stored under an id. -/
inductive Turns : Option Incident → Option Incident → Prop where
  | born (h : Fresh t) : Turns none (some t)
  | turn (h : Turn v t) : Turns (some v) (some t)

theorem turn_merge (h : mergeObservation v issue reason now = .ok t) : Turn v t := by
  obtain ⟨stamp, _, h⟩ := Except.bind_eq_ok.1 h
  split at h
  · rename_i hresolved
    cases h
    apply Turn.reopens hresolved
    · rfl
    · rfl
    · rfl
    · rfl
    · rfl
    · rfl
  · rename_i hunresolved
    cases h
    have hescalate : (v.escalate issue reason).status = v.status ∧
        v.notificationGeneration ≤ (v.escalate issue reason).notificationGeneration ∧
        (v.escalate issue reason).occurrenceGeneration = v.occurrenceGeneration ∧
        ∀ channel, (v.escalate issue reason).delivery channel = v.delivery channel := by
      have hgeneration : v.notificationGeneration ≤
          if v.severity.rank < issue.severity.rank then v.notificationGeneration + 1
          else v.notificationGeneration := by
        split
        · exact Nat.le_succ _
        · exact Nat.le_refl _
      rw [escalate]
      split
      · refine ⟨rfl, hgeneration, rfl, ?_⟩
        intro channel
        cases channel <;> rfl
      · refine ⟨rfl, hgeneration, rfl, ?_⟩
        intro channel
        cases channel <;> rfl
    obtain ⟨hstatus, hnotification, hoccurrence, hdelivery⟩ := hescalate
    apply Turn.stands
    · exact hstatus
    · exact hunresolved
    · exact hnotification
    · exact hoccurrence
    · intro channel
      rw [← hdelivery channel]
      cases channel <;> rfl

theorem fresh_new (h : newIncident P issue reason now = .ok t) : Fresh t := by
  obtain ⟨stamp, _, h⟩ := Except.bind_eq_ok.1 h
  obtain ⟨identifier, _, h⟩ := Except.bind_eq_ok.1 h
  cases h
  constructor
  · dsimp only
    split <;> exact nofun
  · rfl
  · rfl
  · intro channel
    cases channel <;> rfl

theorem turn_resolve (h : v.status = .opened) : Turn v (v.resolve stamp) := by
  apply Turn.resolves h
  · rfl
  · rfl
  · rfl
  · intro channel
    cases channel <;> rfl

end Incident

open Incident (Fresh Turn Turns turn_merge fresh_new turn_resolve)

theorem observeIssue_turns (h : observeIssue P now incidents issue = .ok after) (id : String) :
    ReflTransGen Turns (incidents.lookup id) (after.lookup id) := by
  obtain ⟨identifier, _, h⟩ := Except.bind_eq_ok.1 h
  split at h
  · rename_i existing hexisting
    obtain ⟨merged, hmerged, h⟩ := Except.bind_eq_ok.1 h
    cases h
    rw [Dict.lookup_set]
    split
    · rename_i he
      rw [← he, hexisting]
      exact .single (.turn (turn_merge hmerged))
    · exact .refl
  · rename_i hnone
    obtain ⟨created, hcreated, h⟩ := Except.bind_eq_ok.1 h
    cases h
    rw [Dict.lookup_set]
    split
    · rename_i he
      rw [← he, hnone]
      exact .single (.born (fresh_new hcreated))
    · exact .refl

theorem resolveIncident_turns (h : resolveIncident now incidents identifier = .ok after)
    (id : String) : ReflTransGen Turns (incidents.lookup id) (after.lookup id) := by
  rw [resolveIncident] at h
  split at h
  · cases h
    exact .refl
  · rename_i existing hexisting
    split at h
    · rename_i hopened
      obtain ⟨stamp, _, h⟩ := Except.bind_eq_ok.1 h
      cases h
      rw [Dict.lookup_set]
      split
      · rename_i he
        rw [← he, hexisting]
        exact .single (.turn (turn_resolve hopened))
      · exact .refl
    · cases h
      exact .refl

theorem updateIncidents_turns (h : updateIncidents P stored issues now verified = .ok incidents)
    (id : String) : ReflTransGen Turns (stored.lookup id) (incidents.lookup id) := by
  obtain ⟨_, _, h⟩ := Except.bind_eq_ok.1 h
  obtain ⟨observed, hobserved, h⟩ := Except.bind_eq_ok.1 h
  obtain ⟨after, hafter, h⟩ := Except.bind_eq_ok.1 h
  obtain ⟨_, _, h⟩ := Except.bind_eq_ok.1 h
  cases h
  have hissues : ReflTransGen Turns (stored.lookup id) (observed.lookup id) := by
    apply Except.foldlM_invariant (I := fun s => ReflTransGen Turns (stored.lookup id) (s.lookup id))
      _ .refl hobserved
    intro s issue _ t hs ht
    exact hs.trans (observeIssue_turns ht id)
  apply Except.foldlM_invariant (I := fun s => ReflTransGen Turns (stored.lookup id) (s.lookup id))
    _ hissues hafter
  intro s identifier _ t hs ht
  exact hs.trans (resolveIncident_turns ht id)

/-- The lease stored on a channel is the one that was handed out, in its generations. -/
structure Matches (value : Incident) (lease : NotificationLease) (persisted : PersistedLease) :
    Prop where
  stored : (value.delivery lease.channel).lease = some persisted
  token : persisted.token = lease.token
  occurrence : persisted.occurrenceGeneration = value.occurrenceGeneration
  notificationGeneration : value.notificationGeneration = lease.notificationGeneration
  occurrenceGeneration : value.occurrenceGeneration = lease.occurrenceGeneration

theorem matches_of_matchingLease (h : matchingLease value lease = some persisted) :
    Matches value lease persisted := by
  rw [matchingLease] at h
  split at h
  · cases h
  · rename_i stored hstored
    split at h
    · rename_i hall
      cases h
      obtain ⟨htoken, _, hoccurrence, _, hnow, hthen⟩ := hall
      exact ⟨hstored, htoken, hoccurrence.trans hthen.symm, hnow, hthen⟩
    · cases h

namespace IncidentCall

/-- The lease that a call settles or aborts. -/
def lease? : IncidentCall → Option NotificationLease
  | settle lease _ _ => some lease
  | abort lease => some lease
  | _ => none

/-- What a call makes of what is stored under an id. -/
inductive Effect (P : Platform) (token identifier : String) (call : IncidentCall)
    (answer : IncidentAnswer) : Option Incident → Option Incident → Prop where
  | unchanged (hlease : ∀ lease, answer = .lease (some lease) → lease.incidentId ≠ identifier)
      (hchanged : ∀ lease, call.lease? = some lease → answer = .changed true →
        lease.incidentId ≠ identifier) :
      Effect P token identifier call answer before before
  | turned (hcall : call = .update issues now verified) (hanswer : answer = .incidents copied)
      (h : ReflTransGen Turns before after) :
      Effect P token identifier call answer before after
  | claimed (hcall : call = .claim identifier channel sessionHash now)
      (hanswer : answer = .lease (some (value.lease identifier token channel sessionHash)))
      (hdue : notificationDue P value channel sessionHash now = .ok true) :
      Effect P token identifier call answer (some value)
        (some (value.claim token channel sessionHash now))
  | settled (hcall : call = .settle lease result now) (hid : lease.incidentId = identifier)
      (hanswer : answer = .changed true) (hmatches : Matches value lease persisted)
      (hsnapshot : settledSnapshot (value.delivery lease.channel).snapshot lease result now =
        .ok snapshot) :
      Effect P token identifier call answer (some value)
        (some (value.setDelivery lease.channel { snapshot }))
  | aborted (hcall : call = .abort lease) (hid : lease.incidentId = identifier)
      (hanswer : answer = .changed true) (hmatches : Matches value lease persisted)
      (hprevious : persisted.previousDelivery = some previous) :
      Effect P token identifier call answer (some value)
        (some (value.setDelivery lease.channel { snapshot := previous }))

theorem claimNotification_ok (h : claimNotification P token stored identifier channel sessionHash
    now = .ok (some (lease, incidents))) : ∃ value, stored.lookup identifier = some value ∧
      notificationDue P value channel sessionHash now = .ok true ∧
      lease = value.lease identifier token channel sessionHash ∧
      validIncident P (value.claim token channel sessionHash now) = true ∧
      incidents = Dict.set identifier (value.claim token channel sessionHash now) stored := by
  obtain ⟨_, h⟩ := refuse_bind_ok.1 h
  obtain ⟨_, h⟩ := refuse_bind_ok.1 h
  obtain ⟨_, _, h⟩ := Except.bind_eq_ok.1 h
  split at h
  · cases h
  · rename_i value hvalue
    obtain ⟨due, hdue, h⟩ := Except.bind_eq_ok.1 h
    split at h
    · rename_i htrue
      obtain ⟨stamp, hstamp, h⟩ := Except.bind_eq_ok.1 h
      obtain ⟨hvalid, h⟩ := refuse_bind_ok.1 h
      rw [incidentTimestamp] at hstamp
      split at hstamp
      · cases hstamp
        cases h
        rw [htrue] at hdue
        exact ⟨value, hvalue, hdue, rfl, by simpa using hvalid, rfl⟩
      · cases hstamp
    · cases h

theorem settleNotification_ok (h : settleNotification P stored lease result now =
    .ok (some incidents)) : ∃ value persisted snapshot, stored.lookup lease.incidentId = some value ∧
      Matches value lease persisted ∧
      settledSnapshot (value.delivery lease.channel).snapshot lease result now = .ok snapshot ∧
      validIncident P (value.setDelivery lease.channel { snapshot }) = true ∧
      incidents = Dict.set lease.incidentId (value.setDelivery lease.channel { snapshot })
        stored := by
  obtain ⟨_, _, h⟩ := Except.bind_eq_ok.1 h
  split at h
  · cases h
  · rename_i value hvalue
    split at h
    · rename_i hmatching
      obtain ⟨persisted, hpersisted⟩ := Option.isSome_iff_exists.1 hmatching
      obtain ⟨_, h⟩ := refuse_bind_ok.1 h
      obtain ⟨_, h⟩ := refuse_bind_ok.1 h
      obtain ⟨snapshot, hsnapshot, h⟩ := Except.bind_eq_ok.1 h
      obtain ⟨hvalid, h⟩ := refuse_bind_ok.1 h
      cases h
      exact ⟨value, persisted, snapshot, hvalue, matches_of_matchingLease hpersisted, hsnapshot,
        by simpa using hvalid, rfl⟩
    · cases h

theorem abortNotification_ok (h : abortNotification P stored lease = .ok (some incidents)) :
    ∃ value persisted previous, stored.lookup lease.incidentId = some value ∧
      Matches value lease persisted ∧ persisted.previousDelivery = some previous ∧
      validIncident P (value.setDelivery lease.channel { snapshot := previous }) = true ∧
      incidents = Dict.set lease.incidentId
        (value.setDelivery lease.channel { snapshot := previous }) stored := by
  obtain ⟨_, _, h⟩ := Except.bind_eq_ok.1 h
  split at h
  · cases h
  · rename_i value hvalue
    split at h
    · cases h
    · rename_i previous hprevious
      obtain ⟨persisted, hpersisted, hprevious⟩ := Option.bind_eq_some_iff.1 hprevious
      obtain ⟨hvalid, h⟩ := refuse_bind_ok.1 h
      cases h
      exact ⟨value, persisted, previous, hvalue, matches_of_matchingLease hpersisted, hprevious,
        by simpa using hvalid, rfl⟩

theorem perform_effect (h : call.perform P token stored = .ok (answer, incidents)) (id : String) :
    Effect P token id call answer (stored.lookup id) (incidents.lookup id) := by
  cases call with
  | update issues now verified =>
    obtain ⟨after, hafter, he⟩ := Except.map_eq_ok.1 h
    cases he
    exact .turned rfl rfl (updateIncidents_turns hafter id)
  | claim identifier channel sessionHash now =>
    obtain ⟨result, hresult, he⟩ := Except.map_eq_ok.1 h
    split at he
    · cases he
      apply Effect.unchanged
      · intro _ he
        cases he
      · intro _ he
        cases he
    · rename_i lease after
      cases he
      obtain ⟨value, hvalue, hdue, rfl, _, rfl⟩ := claimNotification_ok hresult
      rw [Dict.lookup_set]
      split
      · rename_i hid
        subst hid
        rw [hvalue]
        exact .claimed rfl rfl hdue
      · rename_i hid
        apply Effect.unchanged
        · intro lease he
          cases he
          exact hid
        · intro _ he
          cases he
  | settle lease result now =>
    obtain ⟨outcome, houtcome, he⟩ := Except.map_eq_ok.1 h
    split at he
    · cases he
      apply Effect.unchanged
      · intro _ he
        cases he
      · intro _ _ he
        cases he
    · cases he
      obtain ⟨value, persisted, snapshot, hvalue, hmatches, hsnapshot, _, rfl⟩ :=
        settleNotification_ok houtcome
      rw [Dict.lookup_set]
      split
      · rename_i hid
        subst hid
        rw [hvalue]
        exact .settled rfl rfl rfl hmatches hsnapshot
      · rename_i hid
        apply Effect.unchanged
        · intro _ he
          cases he
        · intro _ he _
          cases he
          exact hid
  | abort lease =>
    obtain ⟨outcome, houtcome, he⟩ := Except.map_eq_ok.1 h
    split at he
    · cases he
      apply Effect.unchanged
      · intro _ he
        cases he
      · intro _ _ he
        cases he
    · cases he
      obtain ⟨value, persisted, previous, hvalue, hmatches, hprevious, _, rfl⟩ :=
        abortNotification_ok houtcome
      rw [Dict.lookup_set]
      split
      · rename_i hid
        subst hid
        rw [hvalue]
        exact .aborted rfl rfl rfl hmatches hprevious
      · rename_i hid
        apply Effect.unchanged
        · intro _ he
          cases he
        · intro _ he _
          cases he
          exact hid

/-- Every call, whatever it answers, has such an effect. -/
theorem step_effect (P : Platform) (uuid : Nat → String) (w : IncidentWorld) (call : IncidentCall)
    (id : String) : Effect P (uuid w.drawn) id call ((incidentMachine P uuid).step w call).2
      (w.incidents.lookup id) (((incidentMachine P uuid).step w call).1.incidents.lookup id) := by
  rw [incidentMachine]
  dsimp only
  split
  · rename_i answer incidents hperform
    exact perform_effect hperform id
  · apply Effect.unchanged
    · intro _ he
      cases he
    · intro _ _ he
      cases he

theorem step_drawn (P : Platform) (uuid : Nat → String) (w : IncidentWorld) (call : IncidentCall) :
    ((incidentMachine P uuid).step w call).1.drawn = w.drawn + 1 := by
  rw [incidentMachine]
  dsimp only
  split <;> rfl

end IncidentCall

end ExternalIntelligence
