import ExternalIntelligence.QueueInvariants

namespace ExternalIntelligence
set_option autoImplicit true

/-- The moment at which an action would claim an item. -/
def QueueWorld.claimMoment (w : QueueWorld) : QueueAction → Option Int
  | .claim call _ => some call.moment
  | .run index _ =>
    match (w.jobs[index]?).bind fun job => job.todo.head? with
    | some (.scan call _) => some call.moment
    | _ => none
  | _ => none

/-- After a run, `held` is a claimed item whose lease ran out and which was claimed again, and
the lease of the second claim is not over. -/
def StaleHandle (P : Platform) (run : List QueueAction) (held : QueueItem) (now : Int) : Prop :=
  ∃ before first between second after taken moment expired lease,
    run = before ++ first :: (between ++ second :: after) ∧
    (queueMachine P).output {} before first = .claimed held ∧
    (queueMachine P).output {} (before ++ first :: between) second = .claimed taken ∧
    taken.queueId = held.queueId ∧
    ((queueMachine P).after {} (before ++ first :: between)).claimMoment second = some moment ∧
    held.leaseExpiresAt = some expired ∧ expired ≤ moment ∧
    taken.leaseExpiresAt = some lease ∧ now < lease

/-- A state text, a key, a table or an incomplete inventory that stops a transition. -/
def QueueStore.Refuses (s : QueueStore) (state : String) (args : TransitionArgs)
    (held : QueueItem) : Prop :=
  ∀ target, QueueState.target state = some target → ∀ current, s.read held.queueId = .ok current →
    current.idempotencyKey ≠ held.idempotencyKey ∨
      admits { args with target } current = false ∨ s.pending ≠ []

/-- A transition that raises and changes nothing. -/
def Fenced (P : Platform) (w : QueueWorld) (state : String) (args : TransitionArgs)
    (held : QueueItem) : Prop :=
  ∃ e, queueStep P w (.transition state args held) = (w, .error e)

theorem claimScan_claimed (h : (claimScan call paths s).2 = .claimed item) :
    ∃ current, claimedItem call.settings call.worker call.moment call.lease current =
      some item := by
  induction paths generalizing s with
  | nil => cases h
  | cons path rest ih =>
    rw [claimScan] at h
    split at h
    · exact ih h
    · split at h
      · cases h
      · split at h
        · exact ih h
        · rename_i hc
          split at h
          · cases h
            exact ⟨_, hc⟩
          · cases h

theorem afterScan_claimed (h : (afterScan call w jobs r).2 = .claimed item) :
    r.2 = .claimed item := by
  obtain ⟨queue, outcome⟩ := r
  cases outcome <;> cases h
  rfl

theorem afterSection_answer (w : QueueWorld) (jobs : List Job) (queue : QueueStore) (next : Job)
    (answer : Response) : (afterSection w jobs queue next answer).2 = answer ∨
      (afterSection w jobs queue next answer).2 = .working := by
  rw [afterSection]
  split
  · exact .inl rfl
  · exact .inr rfl

/-- Only a scan of the queue hands out items. -/
theorem runSection_claimed (h : (runSection job jobs deleted w).2 = .claimed item) :
    ∃ call rest todo, job.todo = .scan call rest :: todo ∧
      (claimScan call rest w.queue).2 = .claimed item := by
  rw [runSection] at h
  split at h
  · cases h
  · split at h
    all_goals
      rcases afterSection_answer _ _ _ _ _ with he | he <;> rw [he] at h <;> cases h
  · split at h
    · rcases afterSection_answer _ _ _ _ _ with he | he <;> rw [he] at h <;> cases h
    · split at h
      · rcases afterSection_answer _ _ _ _ _ with he | he <;> rw [he] at h <;> cases h
      · split at h
        all_goals
          rcases afterSection_answer _ _ _ _ _ with he | he <;> rw [he] at h <;> cases h
  · rcases afterSection_answer _ _ _ _ _ with he | he <;> rw [he] at h <;> cases h
  · exact ⟨_, _, _, ‹_›, afterScan_claimed h⟩

theorem claimStart_claimed (h : (claimStart call limit s).2 = .claimed item) :
    (claimScan call (s.page limit) s).2 = .claimed item := by
  rw [claimStart] at h
  split at h
  · cases h
  · split at h
    · cases h
    · split at h
      · cases h
      · split at h
        · cases h
        · exact h

theorem enqueueReceipt_claimed : (enqueueReceipt P receipt fault w).2 ≠ .claimed item := by
  intro h
  rw [enqueueReceipt] at h
  split at h
  · cases h
  · split at h
    · cases h
    · split at h <;> cases h
    · rw [storeReceipt] at h
      split at h
      · cases h
      · cases h
      · cases h
      · split at h <;> cases h

theorem claimed_inProgress {P : Platform} (h : (queueStep P w a).2 = .claimed item) :
    item.state = .inProgress := by
  have hscan : ∀ {call paths s}, (claimScan call paths s).2 = .claimed item →
      item.state = .inProgress := by
    intro call paths s hs
    obtain ⟨current, hc⟩ := claimScan_claimed hs
    rw [claimedItem_eq hc]
  cases a with
  | claim call limit => exact hscan (claimStart_claimed (afterScan_claimed h))
  | run index deleted =>
    rw [queueStep] at h
    split at h
    · cases h
    · obtain ⟨call, rest, todo, _, hs⟩ := runSection_claimed h
      exact hscan hs
  | enqueue receipt fault => exact absurd h enqueueReceipt_claimed
  | transition state args item =>
    rw [queueStep] at h
    split at h
    · cases h
    · rw [transitionQueueItem] at h
      split at h
      · cases h
      · split at h <;> cases h
  | attach item ref =>
    rw [queueStep] at h
    split at h <;> cases h
  | abandon index => cases h
  | recover settings moment limit => cases h

/-- The table lets a claimed item go to every state a caller can ask for. -/
theorem target_admitted (h : QueueState.target state = some target) :
    target = .inProgress ∨ target ∈ QueueState.allowedTransitions .inProgress := by
  unfold QueueState.target at h
  split at h
  all_goals cases h
  all_goals decide

theorem QueueStore.write_registered {s : QueueStore} {stored : QueueItem} (item : QueueItem)
    (hl : s.rows.lookup item.queueId = some ⟨stored, true⟩) :
    s.write item .none = if s.pending = [] then
        ({ s with rows := Dict.set item.queueId ⟨item, true⟩ s.rows }, .ok ())
      else (s, .error (.queue "QUEUE_INVENTORY_PARTIAL")) := by
  have hres : s.reserved item.queueId = false := by
    simp [QueueStore.reserved, hl]
  rw [QueueStore.write, QueueStore.catalog]
  simp only [Option.map_some, Option.getD_some, hres, Bool.false_eq_true, or_false, false_and,
    if_false]
  split
  · rename_i hp
    split at hp
    · cases hp
    · rename_i hne
      rw [if_neg hne]
      cases hp
      rfl
  · rename_i hp
    split at hp
    · rename_i he
      simp [he]
    · cases hp

theorem admits_held {args : TransitionArgs} (hheld : held.state = .inProgress)
    (ht : QueueState.target state = some target) :
    admits { args with target } held = true := by
  rcases target_admitted ht with rfl | hm
  · simp [admits, hheld]
  · simp [admits, hheld, hm]

/-- A stored item is replaced by its transition unless the store refuses it. -/
theorem transitionStored_admitted {s : QueueStore} (hs : QueueStore.Sound P s)
    (hc : admits call held = true) (hr : s.read held.queueId = .ok current)
    (hk : current.idempotencyKey = held.idempotencyKey) (ha : admits call current = true)
    (hp : s.pending = []) :
    transitionStored call held s =
      ({ s with rows := Dict.set held.queueId ⟨transitionedItem call current, true⟩ s.rows },
        .ok (transitionedItem call current)) := by
  obtain ⟨stored, hl, hf⟩ := QueueStore.read_eq_ok_iff.1 hr
  have hid : (transitionedItem call current).queueId = held.queueId :=
    (fromFile_sameReceipt hf).queueId.trans (hs.ids hl)
  have hw := QueueStore.write_registered (transitionedItem call current) (hid ▸ hl)
  rw [if_pos hp, hid] at hw
  simp [transitionStored, hc, hr, hk, ha, hw]

theorem transitionStored_refused {s : QueueStore} (call : TransitionCall)
    (hs : QueueStore.Sound P s)
    (h : ∀ current, s.read held.queueId = .ok current →
      current.idempotencyKey ≠ held.idempotencyKey ∨ admits call current = false ∨
        s.pending ≠ []) :
    ∃ e, transitionStored call held s = (s, .error e) := by
  rw [transitionStored]
  split
  · exact ⟨_, rfl⟩
  · split
    · exact ⟨_, rfl⟩
    · rename_i current hr
      split
      · exact ⟨_, rfl⟩
      · rename_i hk
        split
        · exact ⟨_, rfl⟩
        · rename_i ha
          obtain ⟨stored, hl, hf⟩ := QueueStore.read_eq_ok_iff.1 hr
          have hid : (transitionedItem call current).queueId = held.queueId :=
            (fromFile_sameReceipt hf).queueId.trans (hs.ids hl)
          have hw := QueueStore.write_registered (transitionedItem call current) (hid ▸ hl)
          have hp : s.pending ≠ [] := by
            rcases h current hr with hne | hna | hp
            · exact absurd (not_not.1 hk) hne
            · simp [hna] at ha
            · exact hp
          rw [if_neg hp] at hw
          rw [hw]
          exact ⟨_, rfl⟩

/-- A transition of an item held since its claim raises exactly when the store refuses it. -/
theorem fenced_iff (hs : QueueStore.Sound P w.queue) (hheld : held.state = .inProgress) :
    Fenced P w state args held ↔ w.queue.Refuses state args held := by
  rw [Fenced, queueStep]
  cases ht : QueueState.target state with
  | none => simp [QueueStore.Refuses, ht]
  | some target =>
    have hc : admits { args with target } held = true := admits_held hheld ht
    simp only [transitionQueueItem]
    constructor
    · rintro ⟨e, he⟩ target' ht' current hr
      cases ht.symm.trans ht'
      by_contra hno
      simp only [not_or, not_not, Bool.not_eq_false] at hno
      rw [transitionStored_admitted hs hc hr hno.1 hno.2.1 hno.2.2] at he
      simp only [] at he
      split at he <;> cases (Prod.mk.inj he).2
    · intro h
      obtain ⟨e, he⟩ := transitionStored_refused { args with target } hs fun current hr =>
        h target ht current hr
      rw [he]
      exact ⟨e, rfl⟩

/-- Along every run, the transitions with a stale handle all raise and change nothing exactly
when the store refuses each of them. -/
theorem staleTransitions_fenced_iff (P : Platform) (run : List QueueAction) :
    (∀ earlier state args held later, run = earlier ++ .transition state args held :: later →
      StaleHandle P earlier held args.moment →
      Fenced P ((queueMachine P).after {} earlier) state args held) ↔
    (∀ earlier state args held later, run = earlier ++ .transition state args held :: later →
      StaleHandle P earlier held args.moment →
      ((queueMachine P).after {} earlier).queue.Refuses state args held) := by
  have hstep : ∀ earlier state args held, StaleHandle P earlier held args.moment →
      (Fenced P ((queueMachine P).after {} earlier) state args held ↔
        ((queueMachine P).after {} earlier).queue.Refuses state args held) := by
    rintro earlier state args held ⟨before, first, _, _, _, _, _, _, _, _, hfirst, _⟩
    exact fenced_iff (queueMachine_sound P earlier) (claimed_inProgress hfirst)
  constructor
  · intro h earlier state args held later he hstale
    exact (hstep earlier state args held hstale).1 (h earlier state args held later he hstale)
  · intro h earlier state args held later he hstale
    exact (hstep earlier state args held hstale).2 (h earlier state args held later he hstale)

/-- A worker claims the sample item, and a second one claims it when the lease is over. -/
def reclaimSampleItem : List QueueAction :=
  [.enqueue sampleReceipt .none, .claim (sampleClaim "worker" 0) 64,
    .claim (sampleClaim "second" 300000000) 64]

/-- The sample item as the second claim hands it out. -/
def sampleReclaimed : QueueItem :=
  (claimedItem {} "second" 300000000 cleanupDelay (sampleClaimed "worker" 0)).getD sampleItem

theorem reclaimSampleItem_stale :
    StaleHandle samplePlatform reclaimSampleItem (sampleClaimed "worker" 0) 300000000 := by
  refine ⟨[.enqueue sampleReceipt .none], .claim (sampleClaim "worker" 0) 64, [],
    .claim (sampleClaim "second" 300000000) 64, [], sampleReclaimed, 300000000, 300000000,
    600000000, rfl, ?_⟩
  decide +kernel

/-- The first worker returns the item of the second one to the queue. -/
theorem stale_worker_releases :
    ¬ ∀ earlier state args held, StaleHandle samplePlatform earlier held args.moment →
      Fenced samplePlatform ((queueMachine samplePlatform).after {} earlier) state args held := by
  intro h
  obtain ⟨e, he⟩ := h reclaimSampleItem "READY" (sampleArgs 300000000) (sampleClaimed "worker" 0)
    reclaimSampleItem_stale
  have hready : (queueMachine samplePlatform).output {} reclaimSampleItem
      (.transition "READY" (sampleArgs 300000000) (sampleClaimed "worker" 0)) =
        .item { sampleReclaimed with
          state := .ready
          leaseOwner := none
          leaseExpiresAt := none } := by
    decide +kernel
  rw [Machine.output] at hready
  cases (congrArg Prod.snd he).symm.trans hready

end ExternalIntelligence
