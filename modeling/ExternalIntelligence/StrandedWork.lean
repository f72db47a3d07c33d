import ExternalIntelligence.QueueInvariants

namespace ExternalIntelligence
set_option autoImplicit true

/-- What the schema asks of the parts of an item that calls replace. -/
structure QueueItem.GoodParts (item : QueueItem) : Prop where
  result : item.validatedResultRef.all (fun r => validateSpoolRef r && r.purpose == .validatedResult)
  payload : item.payloadRef.all validateSpoolRef
  providers : item.providerPreference.all (· != "")
  owner : item.leaseOwner ≠ some ""
  error : item.lastErrorCode ≠ some ""

theorem readable_parts {item : QueueItem} (h : item.readable = true) :
    item.GoodParts := by
  unfold QueueItem.readable validateQueueItem at h
  simp only [Bool.and_eq_true, bne_iff_ne] at h
  exact ⟨by tauto, by tauto, by tauto, by tauto, by tauto⟩

/-- An item stays readable when only the replaced parts change and these are good. -/
theorem readable_of_parts (current : QueueItem) (h : current.readable = true)
    (hg : ({ current with
      state, attempts, nextEligibleAt, payloadRef, providerPreference := providers, leaseOwner,
      leaseExpiresAt, lastErrorCode, validatedResultRef } : QueueItem).GoodParts) :
    ({ current with
      state, attempts, nextEligibleAt, payloadRef, providerPreference := providers, leaseOwner,
      leaseExpiresAt, lastErrorCode, validatedResultRef } : QueueItem).readable = true := by
  obtain ⟨hresult, hpayload, hproviders, howner, herror⟩ := hg
  unfold QueueItem.readable validateQueueItem at h ⊢
  simp only [Bool.and_eq_true, bne_iff_ne] at h ⊢
  tauto

/-- A ready organizer names its provider. -/
def Settings.Named (settings : Settings) : Prop :=
  ∀ organizer, settings.organizer = some organizer → organizer.status = "READY" →
    organizer.providerId ≠ some ""

theorem Settings.Named.providers {settings : Settings} (h : settings.Named)
    (explicit : Option (List String)) :
    (providerPreference settings explicit).all (· != "") = true := by
  rw [providerPreference]
  split
  · rename_i organizer ho
    split
    · rename_i hr
      have hne := h organizer ho hr
      cases hp : organizer.providerId with
      | none => rfl
      | some provider =>
        rw [hp] at hne
        simpa using hne
    · rfl
  · rw [List.all_eq_true]
    intro provider hm
    simpa using (List.mem_filter.1 (List.mem_of_mem_take hm)).2

theorem readable_claimed (h : current.readable = true) (hw : worker ≠ "")
    (hn : Settings.Named settings)
    (hc : claimedItem settings worker moment lease current = some updated) :
    updated.readable = true := by
  have hg := readable_parts h
  rw [claimedItem_eq hc]
  exact readable_of_parts current h
    ⟨hg.result, hg.payload, hn.providers _, fun he => hw (Option.some.inj he), nofun⟩

theorem readable_transitioned (h : current.readable = true) (hn : Settings.Named call.settings)
    (hr : call.reasonCode ≠ some "") : (transitionedItem call current).readable = true := by
  have hg := readable_parts h
  refine readable_of_parts current h ⟨hg.result, hg.payload, hn.providers _, ?_, ?_⟩
  all_goals dsimp only
  · split
    · exact hg.owner
    · nofun
  · split
    · exact hr
    · split
      · exact hg.error
      · nofun

theorem readable_cleared (h : current.readable = true) (moment : Int) (field : RefField) :
    (clearedItem moment field current).readable = true := by
  have hg := readable_parts h
  cases field with
  | payload => exact readable_of_parts current h ⟨hg.result, rfl, hg.providers, hg.owner, hg.error⟩
  | validatedResult =>
    exact readable_of_parts current h ⟨rfl, hg.payload, hg.providers, hg.owner, hg.error⟩

/-- A section a job may still run: a cleanup keeps an item finished, a scan has a worker. -/
def CriticalSection.Sane : CriticalSection → Prop
  | .store call => call.target ∈ QueueState.finished ∧ call.reasonCode ≠ some "" ∧
      call.settings.Named
  | .scan call _ => call.worker ≠ "" ∧ call.settings.Named
  | _ => True

def Job.Sane (job : Job) : Prop :=
  ∀ critical ∈ job.todo, CriticalSection.Sane critical

/-- An item that a claim can hand out again when it is under a lease. -/
structure QueueItem.Held (item : QueueItem) : Prop where
  readable : item.readable = true
  leased : item.state ∈ QueueState.leased →
    item.leaseOwner.isSome = true ∧ item.leaseExpiresAt.isSome = true

structure QueueWorld.Tended (P : Platform) (w : QueueWorld) : Prop where
  sound : QueueStore.Sound P w.queue
  registered : ∀ row ∈ w.queue.rows, row.2.registered = true
  held : ∀ row ∈ w.queue.rows, row.2.item.Held
  emergency : w.emergency.rows = []
  sections : ∀ job ∈ w.jobs, job.Sane

/-- What callers have to keep to: queue writes are not interrupted, the schema accepts the values
they pass, and no transition takes an item without a lease into a leased state. -/
def Careful (w : QueueWorld) : QueueAction → Prop
  | .enqueue _ fault => fault = .none
  | .claim call _ => call.settings.Named
  | .transition state args item =>
    args.reasonCode ≠ some "" ∧ args.settings.Named ∧
      ∀ target current, QueueState.target state = some target → target ∈ QueueState.leased →
        w.queue.read item.queueId = .ok current → admits { args with target } current = true →
        current.state ∈ QueueState.leased
  | .attach _ ref => validateSpoolRef ref = true
  | _ => True

theorem fromFile_eq_self {item : QueueItem} (hr : item.readable = true)
    (hf : item.state ≠ .failed) : item.fromFile = some item := by
  rw [QueueItem.fromFile, hr, if_neg hf]
  rfl

theorem QueueItem.Held.fromFile {item : QueueItem} (h : item.Held)
    (hf : item.fromFile = some back) : back.Held := by
  rw [QueueItem.fromFile, h.readable] at hf
  simp only [Bool.not_true, Bool.false_eq_true, if_false] at hf
  split at hf
  · cases hf
    obtain ⟨hresult, hpayload, hproviders, howner, herror⟩ := readable_parts h.readable
    exact ⟨readable_of_parts item h.readable ⟨hresult, hpayload, hproviders, howner, herror⟩,
      fun hl => absurd hl (by simp [QueueState.leased])⟩
  · cases hf
    exact h

theorem Receipt.newItem_readable {receipt : Receipt} (h : receipt.newItem P = .ok item) :
    item.readable = true ∧ item.state = .ready := by
  rw [Receipt.newItem] at h
  split at h
  · cases h
  · rename_i fields hf
    simp only [] at h
    split at h
    · rename_i hv
      cases h
      have hpair : fields.sourceHostId ≠ "" ∧ fields.sourceHostFamily ≠ "" := by
        unfold eventFields at hf
        split at hf
        · split at hf
          · cases hf
          · cases hf
            rename_i hne
            exact not_or.1 hne
        · simp only [] at hf
          split at hf
          · cases hf
          · cases hf
            rename_i hne
            exact not_or.1 hne
      refine ⟨?_, rfl⟩
      rw [QueueItem.readable, hv]
      simp [receiptItem, hpair.1, hpair.2]
    · cases h

theorem QueueWorld.Tended.next {w : QueueWorld} (hw : w.Tended P)
    (hj : NextSection w index job critical) : CriticalSection.Sane critical := by
  obtain ⟨hi, todo, ht⟩ := hj
  refine hw.sections job (List.mem_of_getElem? hi) critical ?_
  rw [ht]
  exact List.mem_cons_self

/-- The item an update writes is held again. -/
theorem Updates.held (h : Updates w a current updated) (hc : current.Held) (hw : w.Tended P)
    (ha : Careful w a) : updated.Held := by
  cases h with
  | claim hworker hclaimed =>
    refine ⟨readable_claimed hc.readable hworker ha hclaimed, fun _ => ?_⟩
    rw [claimedItem_eq hclaimed]
    exact ⟨rfl, rfl⟩
  | transition ht hread hadm =>
    obtain ⟨hreason, hnamed, htarget⟩ := ha
    refine ⟨readable_transitioned hc.readable hnamed hreason, fun hl => ?_⟩
    have hlease := hc.leased (htarget _ _ ht hl hread hadm)
    simp only [transitionedItem] at hl ⊢
    rw [if_pos hl, if_pos hl]
    exact hlease
  | @attach current ref hp hs =>
    have hg := readable_parts hc.readable
    refine ⟨readable_of_parts current hc.readable
      ⟨?_, hg.payload, hg.providers, hg.owner, hg.error⟩, hc.leased⟩
    have hv : validateSpoolRef ref = true := ha
    simp [hv, hp]
  | store hj hadm =>
    obtain ⟨hfinished, hreason, hnamed⟩ := hw.next hj
    refine ⟨readable_transitioned hc.readable hnamed hreason, fun hl => ?_⟩
    have hdisjoint : ∀ state ∈ QueueState.finished, state ∉ QueueState.leased := by decide
    exact absurd hl (hdisjoint _ hfinished)
  | @clean _ job field current _ hj hs =>
    refine ⟨readable_cleared hc.readable _ _, fun hl => ?_⟩
    cases field with
    | payload => exact hc.leased hl
    | validatedResult => exact hc.leased hl
  | scan hj hclaimed =>
    obtain ⟨hworker, hnamed⟩ := hw.next hj
    refine ⟨readable_claimed hc.readable hworker hnamed hclaimed, fun _ => ?_⟩
    rw [claimedItem_eq hclaimed]
    exact ⟨rfl, rfl⟩

theorem QueueStore.pending_eq_nil {s : QueueStore}
    (h : ∀ row ∈ s.rows, row.2.registered = true) : s.pending = [] := by
  simpa [QueueStore.pending] using h

theorem QueueStore.write_of_registered {s : QueueStore}
    (h : ∀ row ∈ s.rows, row.2.registered = true) (item : QueueItem) :
    s.write item .none =
      ({ s with rows := Dict.set item.queueId ⟨item, true⟩ s.rows }, .ok ()) := by
  have hp := QueueStore.pending_eq_nil h
  have hres : s.reserved item.queueId = false := by
    rw [QueueStore.reserved]
    cases hl : s.rows.lookup item.queueId with
    | none => rfl
    | some row =>
      have hr : row.registered = true := h _ (Dict.mem_of_lookup hl)
      simp [hr]
  simp [QueueStore.write, QueueStore.catalog, hp, hres]

theorem reservedItem_of_registered {s : QueueStore}
    (h : ∀ row ∈ s.rows, row.2.registered = true) (item : QueueItem) :
    reservedItem s item = item := by
  rw [reservedItem]
  split
  · rename_i hl
    cases h _ (Dict.mem_of_lookup hl)
  · rfl

/-- The part of a tended world that is about its queue. -/
structure QueueStore.Tended (P : Platform) (s : QueueStore) : Prop where
  sound : QueueStore.Sound P s
  registered : ∀ row ∈ s.rows, row.2.registered = true
  held : ∀ row ∈ s.rows, row.2.item.Held

theorem QueueStore.Tended.put {s : QueueStore} (hs : s.Tended P) (hitem : item.Held)
    (hsound : QueueStore.Sound P
      { s with rows := Dict.set item.queueId ⟨item, true⟩ s.rows }) :
    QueueStore.Tended P { s with rows := Dict.set item.queueId ⟨item, true⟩ s.rows } := by
  refine ⟨hsound, ?_, ?_⟩
  · rintro ⟨j, row⟩ hm
    rcases (Dict.mem_set hs.sound.keys).1 hm with ⟨_, rfl⟩ | ⟨_, hm⟩
    · rfl
    · exact hs.registered _ hm
  · rintro ⟨j, row⟩ hm
    rcases (Dict.mem_set hs.sound.keys).1 hm with ⟨_, rfl⟩ | ⟨_, hm⟩
    · exact hitem
    · exact hs.held _ hm

theorem QueueStore.Tended.read {s : QueueStore} (hs : s.Tended P) (hr : s.read i = .ok item) :
    item.Held := by
  obtain ⟨stored, hl, hf⟩ := QueueStore.read_eq_ok_iff.1 hr
  exact (hs.held _ (Dict.mem_of_lookup hl)).fromFile hf

theorem QueueWorld.Tended.queue {w : QueueWorld} (hw : w.Tended P) : w.queue.Tended P :=
  ⟨hw.sound, hw.registered, hw.held⟩

theorem QueueChange.tended (h : QueueChange P w a s s') (hw : w.Tended P) (ha : Careful w a)
    (hs : s.Tended P) : s'.Tended P := by
  have hsound := h.sound hs.sound
  cases h with
  | cursor => exact ⟨hsound, hs.registered, hs.held⟩
  | @create item registered _ hc hn =>
    cases hc with
    | @enqueue _ fault _ fresh hfresh hf =>
      have hfault : fault = .none := ha
      have hreg : registered = true := by
        by_contra hfalse
        cases hfault.symm.trans (hf (by simpa using hfalse))
      subst hreg
      rw [reservedItem_of_registered hw.registered] at hsound ⊢
      obtain ⟨hr, hready⟩ := Receipt.newItem_readable hfresh
      refine hs.put ⟨hr, fun hl => ?_⟩ hsound
      rw [hready] at hl
      exact absurd hl (by decide)
    | recover he => simp [hw.emergency] at he
  | @update queueId current updated _ hr hu =>
    exact hs.put (hu.held (hs.read hr) hw ha) hsound

theorem claimScan_cleanup (h : (claimScan call paths s).2 = .cleanup item rest) :
    ∃ i, s.read i = .ok item ∧ cleanupDue call.moment item = true := by
  induction paths generalizing s with
  | nil => cases h
  | cons path paths ih =>
    rw [claimScan] at h
    split at h
    · obtain ⟨i, hr, hd⟩ := ih h
      exact ⟨i, hr, hd⟩
    · rename_i hr
      split at h
      · rename_i hd
        cases h
        simp only [Bool.and_eq_true] at hd
        exact ⟨path, hr, hd.2⟩
      · split at h
        · obtain ⟨i, hr, hd⟩ := ih h
          exact ⟨i, hr, hd⟩
        · split at h <;> cases h

/-- The job a scan leaves behind for a cleanup. -/
theorem afterScan_jobs (call : ClaimCall) (w : QueueWorld) (jobs : List Job)
    (r : QueueStore × ClaimOutcome) : (afterScan call w jobs r).1.jobs = jobs ∨
      ∃ item rest, r.2 = .cleanup item rest ∧ (afterScan call w jobs r).1.jobs = jobs ++
        [{ target := item.state
           moment := call.moment
           updated := item
           todo := [.store
               { target := item.state
                 settings := call.settings
                 moment := call.moment
                 reasonCode := item.lastErrorCode
                 nextEligibleAt := some (call.moment + cleanupDelay) },
             .clean .payload, .clean .validatedResult, .advance,
             .scan { call with cleanupAttempted := true } rest] }] := by
  obtain ⟨queue, outcome⟩ := r
  cases outcome with
  | cleanup item rest => exact .inr ⟨item, rest, rfl, rfl⟩
  | claimed => exact .inl rfl
  | exhausted => exact .inl rfl
  | failed => exact .inl rfl

/-- The jobs a scan leaves behind are sane when its store is tended. -/
theorem afterScan_sane {s : QueueStore} (hs : s.Tended P) (hnamed : call.settings.Named)
    (hjobs : ∀ job ∈ jobs, Job.Sane job)
    (hr : ∀ item rest, r.2 = .cleanup item rest → call.worker ≠ "" ∧
      ∃ i, s.read i = .ok item ∧ cleanupDue call.moment item = true) :
    ∀ job ∈ (afterScan call w jobs r).1.jobs, job.Sane := by
  rcases afterScan_jobs call w jobs r with he | ⟨item, rest, hc, he⟩
  · rw [he]
    exact hjobs
  · rw [he]
    intro job hm
    rcases List.mem_append.1 hm with hm | hm
    · exact hjobs job hm
    · rw [List.mem_singleton] at hm
      subst hm
      obtain ⟨hworker, i, hread, hdue⟩ := hr item rest hc
      have hfinished : item.state ∈ QueueState.finished := by
        simp only [cleanupDue, decide_eq_true_eq] at hdue
        exact hdue.1
      intro critical hsec
      simp only [List.mem_cons, List.not_mem_nil, or_false] at hsec
      rcases hsec with rfl | rfl | rfl | rfl | rfl
      · exact ⟨hfinished, (readable_parts (hs.read hread).readable).error, hnamed⟩
      · trivial
      · trivial
      · trivial
      · exact ⟨hworker, hnamed⟩

theorem afterSection_sane (hjobs : ∀ job ∈ jobs, Job.Sane job) (hnext : Job.Sane next) :
    ∀ job ∈ (afterSection w jobs queue next answer).1.jobs, job.Sane := by
  rw [afterSection]
  split
  · exact hjobs
  · intro job hm
    rcases List.mem_append.1 hm with hm | hm
    · exact hjobs job hm
    · rw [List.mem_singleton] at hm
      rw [hm]
      exact hnext

theorem Job.Sane.fail {job : Job} (h : job.Sane) : job.fail.Sane :=
  fun critical hm => h critical (List.dropWhile_subset _ hm)

theorem Job.Sane.tail {job : Job} {todo : List CriticalSection} (h : job.Sane)
    (ht : job.todo = critical :: todo) :
    ∀ updated, Job.Sane { job with updated, todo } := by
  intro updated section' hm
  exact h section' (ht ▸ List.mem_cons_of_mem _ hm)

theorem runSection_sane {w : QueueWorld} (hw : w.Tended P) (hj : job.Sane)
    (hjobs : ∀ job ∈ jobs, Job.Sane job) :
    ∀ job' ∈ (runSection job jobs deleted w).1.jobs, job'.Sane := by
  rw [runSection]
  split
  · exact hjobs
  · rename_i call todo ht
    split
    · exact afterSection_sane hjobs (hj.tail ht _)
    · exact afterSection_sane hjobs hj.fail
  · rename_i field todo ht
    split
    · exact afterSection_sane hjobs (hj.tail ht _)
    · split
      · exact afterSection_sane hjobs hj.fail
      · split
        · exact afterSection_sane hjobs (hj.tail ht _)
        · exact afterSection_sane hjobs hj.fail
  · rename_i todo ht
    exact afterSection_sane hjobs (hj.tail ht _)
  · rename_i call rest todo ht
    obtain ⟨hworker, hnamed⟩ : CriticalSection.Sane (.scan call rest) :=
      hj _ (ht ▸ List.mem_cons_self)
    exact afterScan_sane hw.queue hnamed hjobs fun item rest' hc =>
      ⟨hworker, claimScan_cleanup hc⟩

theorem enqueueReceipt_rest (P : Platform) (receipt : Receipt) {w : QueueWorld}
    (h : ∀ row ∈ w.queue.rows, row.2.registered = true) :
    (enqueueReceipt P receipt .none w).1.emergency = w.emergency ∧
      (enqueueReceipt P receipt .none w).1.jobs = w.jobs := by
  rw [enqueueReceipt]
  split
  · exact ⟨rfl, rfl⟩
  · split
    · exact ⟨rfl, rfl⟩
    · split <;> exact ⟨rfl, rfl⟩
    · rw [storeReceipt, QueueStore.write_of_registered h]
      exact ⟨rfl, rfl⟩

theorem recoverEmergencySpool_empty {w : QueueWorld} (h : w.emergency.rows = []) :
    recoverEmergencySpool P settings moment limit w = (w, .items []) := by
  have hpage : w.emergency.page limit = [] := by
    simp [EmergencyStore.page, pageIds, h]
  rw [recoverEmergencySpool, hpage]
  rfl

theorem afterScan_emergency (call : ClaimCall) (w : QueueWorld) (jobs : List Job)
    (r : QueueStore × ClaimOutcome) : (afterScan call w jobs r).1.emergency = w.emergency := by
  obtain ⟨queue, outcome⟩ := r
  cases outcome <;> rfl

theorem afterSection_emergency (w : QueueWorld) (jobs : List Job) (queue : QueueStore)
    (next : Job) (answer : Response) :
    (afterSection w jobs queue next answer).1.emergency = w.emergency := by
  rw [afterSection]
  split <;> rfl

theorem runSection_emergency (job : Job) (jobs : List Job) (deleted : Bool) (w : QueueWorld) :
    (runSection job jobs deleted w).1.emergency = w.emergency := by
  rw [runSection]
  split
  · rfl
  · split <;> exact afterSection_emergency _ _ _ _ _
  · split
    · exact afterSection_emergency _ _ _ _ _
    · split
      · exact afterSection_emergency _ _ _ _ _
      · split <;> exact afterSection_emergency _ _ _ _ _
  · exact afterSection_emergency _ _ _ _ _
  · exact afterScan_emergency _ _ _ _

theorem claimStart_cleanup (h : (claimStart call limit s).2 = .cleanup item rest) :
    call.worker ≠ "" ∧ (claimScan call (s.page limit) s).2 = .cleanup item rest := by
  rw [claimStart] at h
  split at h
  · cases h
  · rename_i hworker
    split at h
    · cases h
    · split at h
      · cases h
      · split at h
        · cases h
        · exact ⟨fun he => hworker (.inl he), h⟩

/-- The jobs and envelopes of a tended world stay as they have to be. -/
theorem queueStep_rest {w : QueueWorld} (hw : w.Tended P) (ha : Careful w a) :
    (queueStep P w a).1.emergency.rows = [] ∧ ∀ job ∈ (queueStep P w a).1.jobs, job.Sane := by
  cases a with
  | enqueue receipt fault =>
    have hfault : fault = .none := ha
    subst hfault
    obtain ⟨he, hj⟩ := enqueueReceipt_rest P receipt hw.registered
    rw [queueStep, he, hj]
    exact ⟨hw.emergency, hw.sections⟩
  | claim call limit =>
    refine ⟨?_, ?_⟩
    · rw [queueStep, claimQueueItem, afterScan_emergency]
      exact hw.emergency
    · refine afterScan_sane hw.queue ha hw.sections fun item rest hc => ?_
      obtain ⟨hworker, hscan⟩ := claimStart_cleanup hc
      obtain ⟨i, hread, hdue⟩ := claimScan_cleanup hscan
      exact ⟨hworker, i, hread, hdue⟩
  | transition state args item =>
    rw [queueStep]
    split
    · exact ⟨hw.emergency, hw.sections⟩
    · rw [transitionQueueItem]
      split
      · exact ⟨hw.emergency, hw.sections⟩
      · split
        · refine ⟨hw.emergency, fun job hm => ?_⟩
          rcases List.mem_append.1 hm with hm | hm
          · exact hw.sections job hm
          · rw [List.mem_singleton] at hm
            rw [hm]
            intro critical hsec
            simp only [List.mem_cons, List.not_mem_nil, or_false] at hsec
            rcases hsec with rfl | rfl <;> trivial
        · exact ⟨hw.emergency, hw.sections⟩
  | attach item ref =>
    rw [queueStep]
    split <;> exact ⟨hw.emergency, hw.sections⟩
  | run index deleted =>
    rw [queueStep]
    split
    · exact ⟨hw.emergency, hw.sections⟩
    · rename_i job hj
      refine ⟨(runSection_emergency _ _ _ _).symm ▸ hw.emergency, ?_⟩
      exact runSection_sane hw (hw.sections job (List.mem_of_getElem? hj))
        fun job' hm => hw.sections job' (List.mem_of_mem_eraseIdx hm)
  | abandon index =>
    exact ⟨hw.emergency, fun job hm => hw.sections job (List.mem_of_mem_eraseIdx hm)⟩
  | recover settings moment limit =>
    rw [queueStep, recoverEmergencySpool_empty hw.emergency]
    exact ⟨hw.emergency, hw.sections⟩

/-- Careful callers keep the queue tended. -/
theorem queueMachine_tended (P : Platform) (hrun : (queueMachine P).Guarded Careful {} run) :
    ((queueMachine P).after {} run).Tended P := by
  apply Machine.guarded_invariant (queueMachine P) (I := fun w => w.Tended P) ?_ ?_ hrun
  · intro w a hw ha
    have hq : QueueStore.Tended P (queueStep P w a).1.queue :=
      (queueStep_changes P w a).invariant (fun _ _ hc => hc.tended hw ha) hw.queue
    obtain ⟨he, hj⟩ := queueStep_rest hw ha
    exact ⟨hq.sound, hq.registered, hq.held, he, hj⟩
  · exact ⟨queueMachine_sound P [], by simp, by simp, rfl, by simp⟩

/-- A scan goes on after an id whose item is unreadable, or neither cleaned up nor handed out. -/
def QueueStore.PassesOver (s : QueueStore) (call : ClaimCall) (i : String) : Prop :=
  ∀ item, s.read i = .ok item →
    (call.cleanupAttempted = true ∨ cleanupDue call.moment item = false) ∧
      claimedItem call.settings call.worker call.moment call.lease item = none

/-- The call and the ids of a scan an action runs: the page of a claim, or what is left of it. -/
inductive Scans (w : QueueWorld) : QueueAction → ClaimCall → List String → Prop where
  | claim (hne : call.worker ≠ "") (hlen : call.worker.length ≤ 120) (hlease : 0 < call.lease) :
      Scans w (.claim call limit) { call with cleanupAttempted := false } (w.queue.page limit)
  | run (hj : NextSection w index job (.scan call rest)) : Scans w (.run index deleted) call rest

theorem claimScan_reaches {s : QueueStore} (hreg : ∀ row ∈ s.rows, row.2.registered = true)
    (hbefore : ∀ j ∈ before, s.PassesOver call j) (hr : s.read i = .ok item)
    (hd : cleanupDue call.moment item = false)
    (hc : claimedItem call.settings call.worker call.moment call.lease item = some claimed) :
    (claimScan call (before ++ i :: after) s).2 = .claimed claimed := by
  induction before generalizing s with
  | nil =>
    rw [List.nil_append, claimScan, hr]
    simp only [hd, Bool.and_false, Bool.false_eq_true, if_false, hc]
    rw [QueueStore.write_of_registered hreg]
  | cons j before ih =>
    have hnext : (claimScan call (before ++ i :: after) (s.advance j)).2 = .claimed claimed :=
      ih hreg (fun k hk => hbefore k (List.mem_cons_of_mem _ hk)) hr
    rw [List.cons_append, claimScan]
    split
    · exact hnext
    · rename_i passed hp
      obtain ⟨hclean, hnone⟩ := hbefore j List.mem_cons_self passed hp
      have hskip : (!call.cleanupAttempted && cleanupDue call.moment passed) = false := by
        rcases hclean with h | h <;> simp [h]
      simp only [hskip, Bool.false_eq_true, if_false, hnone]
      exact hnext

theorem claimedItem_stale (hs : current.state ∈ QueueState.leased)
    (he : current.leaseExpiresAt = some expiry) (hm : expiry ≤ moment)
    (hn : current.nextEligibleAt.all (· ≤ moment) = true)
    (hp : ∀ ref, current.payloadRef = some ref → ref.purpose = .pending →
      moment < ref.expiresAt.instant) :
    ∃ claimed, claimedItem settings worker moment lease current = some claimed := by
  have hterminal : current.state ∉ QueueState.terminal := by
    have hdisjoint : ∀ state ∈ QueueState.leased, state ∉ QueueState.terminal := by decide
    exact hdisjoint _ hs
  have hpending : (current.payloadRef.any fun ref =>
      ref.purpose == .pending && ref.expiresAt.instant ≤ moment) = false := by
    cases hr : current.payloadRef with
    | none => rfl
    | some ref =>
      by_cases hpurpose : ref.purpose = .pending
      · have hlt := hp ref hr hpurpose
        simp [hpurpose, hlt]
      · simp [hpurpose]
  have hdue : (current.nextEligibleAt.any (moment < ·)) = false := by
    cases hr : current.nextEligibleAt with
    | none => rfl
    | some eligible =>
      rw [hr] at hn
      simpa using hn
  rw [claimedItem]
  simp only [hpending, hdue, he]
  simp [hs, hterminal, hm]

/-- The action that scans to an item hands it out when the scan does. -/
theorem Scans.claimed {w : QueueWorld} {claimed : QueueItem}
    (h : Scans w a call (before ++ i :: after))
    (hreg : ∀ row ∈ w.queue.rows, row.2.registered = true)
    (hs : (claimScan call (before ++ i :: after) w.queue).2 = .claimed claimed) :
    (queueStep P w a).2 = .claimed claimed := by
  have hanswer : ∀ call jobs r, r.2 = .claimed claimed →
      (afterScan call w jobs r).2 = .claimed claimed := by
    rintro call jobs ⟨queue, outcome⟩ rfl
    rfl
  generalize hpaths : before ++ i :: after = paths at h hs
  cases h with
  | @claim call limit hne hlen hlease =>
    apply hanswer
    have hlimit : limit ≠ 0 := by
      rintro rfl
      simp [QueueStore.page, pageIds] at hpaths
    have hopen : w.queue.catalog none = .ok () := by
      rw [QueueStore.catalog, if_pos (.inl (QueueStore.pending_eq_nil hreg))]
    rw [claimStart, if_neg (by simp [hne, hlen]), if_neg (by simpa using hlease), if_neg hlimit,
      hopen]
    exact hs
  | run hj =>
    obtain ⟨hi, todo, ht⟩ := hj
    simp only [queueStep, hi, runSection, ht]
    exact hanswer _ _ _ hs

/-- While callers are careful, every item in a leased state has a lease, and every late enough
scan that gets to it before its pending body expires hands it out again. -/
theorem leased_handedOut (P : Platform) (run : List QueueAction)
    (hrun : (queueMachine P).Guarded Careful {} run) :
    let w := (queueMachine P).after {} run
    ∀ i stored, w.queue.rows.lookup i = some ⟨stored, true⟩ → stored.state ∈ QueueState.leased →
      stored.leaseOwner.isSome = true ∧ stored.leaseExpiresAt.isSome = true ∧
        ∃ late, ∀ a call before after, Scans w a call (before ++ i :: after) →
          late ≤ call.moment → (∀ j ∈ before, w.queue.PassesOver call j) →
          (∀ ref, stored.payloadRef = some ref → ref.purpose = .pending →
            call.moment < ref.expiresAt.instant) →
          ∃ claimed, claimed.queueId = i ∧ (queueStep P w a).2 = .claimed claimed := by
  intro w i stored hl hstate
  have hw : w.Tended P := queueMachine_tended P hrun
  have hheld := hw.held _ (Dict.mem_of_lookup hl)
  obtain ⟨howner, hexpiry⟩ := hheld.leased hstate
  refine ⟨howner, hexpiry, ?_⟩
  obtain ⟨expiry, he⟩ := Option.isSome_iff_exists.1 hexpiry
  refine ⟨max expiry (stored.nextEligibleAt.getD expiry), ?_⟩
  intro a call before after hscan hlate hbefore hpending
  have hread : w.queue.read i = .ok stored := by
    refine QueueStore.read_eq_ok_iff.2 ⟨stored, hl, fromFile_eq_self hheld.readable ?_⟩
    intro hf
    rw [hf] at hstate
    exact absurd hstate (by decide)
  have hdue : cleanupDue call.moment stored = false := by
    have hdisjoint : ∀ state ∈ QueueState.leased, state ∉ QueueState.finished := by decide
    simp [cleanupDue, hdisjoint _ hstate]
  have heligible : stored.nextEligibleAt.all (· ≤ call.moment) = true := by
    cases hn : stored.nextEligibleAt with
    | none => rfl
    | some eligible =>
      rw [hn, Option.getD_some] at hlate
      simpa using (le_max_right _ _).trans hlate
  obtain ⟨claimed, hc⟩ : ∃ claimed,
      claimedItem call.settings call.worker call.moment call.lease stored = some claimed :=
    claimedItem_stale hstate he ((le_max_left _ _).trans hlate) heligible hpending
  refine ⟨claimed, ?_, ?_⟩
  · rw [claimedItem_eq hc]
    exact hw.sound.ids hl
  · exact hscan.claimed hw.registered
      (claimScan_reaches hw.registered hbefore hread hdue hc)

/-- A worker claims the sample item. -/
def claimSampleItem : List QueueAction :=
  [.enqueue sampleReceipt .none, .claim (sampleClaim "worker" 0) 64]

theorem claimSampleItem_careful : (queueMachine samplePlatform).Guarded Careful {}
    claimSampleItem := by
  simp only [claimSampleItem, Machine.guarded_cons, Machine.guarded_nil, and_true]
  refine ⟨rfl, ?_⟩
  intro binding hbinding
  cases hbinding

theorem leased_handedOut_sample :
    let w := (queueMachine samplePlatform).after {} claimSampleItem
    (sampleClaimed "worker" 0).leaseOwner.isSome = true ∧
      (sampleClaimed "worker" 0).leaseExpiresAt.isSome = true ∧
        ∃ late, ∀ a call before after,
          Scans w a call (before ++ sampleItem.queueId :: after) → late ≤ call.moment →
          (∀ j ∈ before, w.queue.PassesOver call j) →
          (∀ ref, (sampleClaimed "worker" 0).payloadRef = some ref → ref.purpose = .pending →
            call.moment < ref.expiresAt.instant) →
          ∃ claimed, claimed.queueId = sampleItem.queueId ∧
            (queueStep samplePlatform w a).2 = .claimed claimed :=
  leased_handedOut samplePlatform claimSampleItem claimSampleItem_careful sampleItem.queueId
    (sampleClaimed "worker" 0) (by decide +kernel) (by decide +kernel)

/-- The table takes a ready item to a leased state, and no claim ever hands it out again. -/
theorem started_without_lease :
    ∃ stored, ((queueMachine samplePlatform).after {} [.enqueue sampleReceipt .none,
        .transition "IN_PROGRESS" (sampleArgs 0) sampleItem]).queue.rows.lookup
          sampleItem.queueId = some ⟨stored, true⟩ ∧
      stored.state ∈ QueueState.leased ∧ stored.leaseOwner = none ∧
      stored.leaseExpiresAt = none ∧
      ∀ settings worker moment lease, claimedItem settings worker moment lease stored = none := by
  refine ⟨{ sampleItem with state := .inProgress }, by decide +kernel, by decide, rfl, rfl, ?_⟩
  intro settings worker moment lease
  simp [claimedItem, sampleItem, receiptItem]

end ExternalIntelligence
