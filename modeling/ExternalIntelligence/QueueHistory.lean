import ExternalIntelligence.EnqueueReplay
import ExternalIntelligence.StrandedWork

namespace ExternalIntelligence
set_option autoImplicit true

/-- The state a stored item may have next: what the table admits, the expiry of a quarantined item,
a claim of a stale lease, and the state that the legacy one is read back as. -/
def QueueState.MayFollow (s t : QueueState) : Prop :=
  t ∈ s.allowedTransitions ∨ (s = .quarantined ∧ t = .failedNeedsAttention) ∨
    (s ∈ QueueState.leased ∧ t = .inProgress) ∨ (s = .failed ∧ t = .failedNeedsAttention)

abbrev QueueState.Leads : QueueState → QueueState → Prop :=
  Relation.ReflTransGen QueueState.MayFollow

theorem QueueState.Leads.of_finished (h : QueueState.Leads s t) (hs : s ∈ QueueState.finished) :
    t = s := by
  induction h with
  | refl => rfl
  | @tail mid last _ hstep ih =>
    subst ih
    simp only [QueueState.finished, List.mem_cons, List.not_mem_nil, or_false] at hs
    obtain rfl | rfl := hs
    · simp [QueueState.MayFollow, QueueState.allowedTransitions, QueueState.leased] at hstep
    · simp [QueueState.MayFollow, QueueState.allowedTransitions, QueueState.leased] at hstep

/-- How a stored item may differ from the item that was stored for the same receipt before. -/
structure QueueItem.Evolves (item later : QueueItem) : Prop where
  receipt : item.SameReceipt later
  attempts : item.attempts ≤ later.attempts
  states : item.state.Leads later.state
  body : later.payloadRef ≠ item.payloadRef → later.state ∈ QueueState.finished
  result : item.validatedResultRef.isSome = true → later.validatedResultRef = none →
    later.state ∈ QueueState.finished

namespace QueueItem.Evolves

theorem refl (item : QueueItem) : item.Evolves item where
  receipt := .refl item
  attempts := Nat.le_refl _
  states := .refl
  body h := absurd rfl h
  result hs hn := by simp [hn] at hs

theorem trans (h : QueueItem.Evolves a b) (h' : QueueItem.Evolves b c) : a.Evolves c where
  receipt := h.receipt.trans h'.receipt
  attempts := Nat.le_trans h.attempts h'.attempts
  states := h.states.trans h'.states
  body hne := by
    by_cases hb : b.payloadRef = a.payloadRef
    · exact h'.body (hb ▸ hne)
    · have hfinished := h.body hb
      exact h'.states.of_finished hfinished ▸ hfinished
  result hs hn := by
    cases hb : b.validatedResultRef with
    | none =>
      have hfinished := h.result hs hb
      exact h'.states.of_finished hfinished ▸ hfinished
    | some ref => exact h'.result (hb ▸ rfl) hn

end QueueItem.Evolves

theorem fromFile_evolves {item : QueueItem} (h : item.fromFile = some back) :
    item.Evolves back := by
  obtain ⟨he, hstate⟩ := fromFile_eq h
  have hback : back.payloadRef = item.payloadRef ∧
      back.validatedResultRef = item.validatedResultRef ∧ back.attempts = item.attempts := by
    rw [he]
    exact ⟨rfl, rfl, rfl⟩
  constructor
  case receipt => exact fromFile_sameReceipt h
  case attempts => exact hback.2.2.ge
  case states =>
    rw [QueueItem.fromFile] at h
    split at h
    · cases h
    · split at h
      · rename_i hfailed
        cases h
        rw [hfailed]
        exact .single (.inr (.inr (.inr ⟨rfl, rfl⟩)))
      · cases h
        exact .refl
  case body =>
    intro hne
    exact absurd hback.1 hne
  case result =>
    intro hs hn
    rw [← hback.2.1, hn] at hs
    cases hs

theorem admits_leads (h : admits call current = true) : current.state.Leads call.target := by
  simp only [admits, expiryOfQuarantined, decide_eq_true_eq] at h
  obtain he | hallowed | hexpired := h
  · rw [he]
  · exact .single (.inl hallowed)
  · exact .single (.inr (.inl ⟨hexpired.1, hexpired.2.1⟩))

theorem transitioned_evolves (h : admits call current = true) :
    current.Evolves (transitionedItem call current) where
  receipt := ⟨rfl, rfl, rfl, rfl, rfl, rfl, rfl, .inl rfl⟩
  attempts := Nat.le_refl _
  states := admits_leads h
  body hne := absurd rfl hne
  result hs hn := by
    have hkept : (transitionedItem call current).validatedResultRef = current.validatedResultRef :=
      rfl
    rw [← hkept, hn] at hs
    cases hs

theorem claimed_evolves
    (h : claimedItem settings worker moment lease current = some updated) :
    current.Evolves updated := by
  have hstates : current.state.Leads .inProgress := by
    simp only [claimedItem, Option.ite_none_left_eq_some, not_or, Bool.not_eq_true',
      Bool.not_eq_false, Bool.or_eq_true, decide_eq_true_eq] at h
    obtain hstale | hopen := h.1.2.2.1
    · exact .single (.inr (.inr (.inl ⟨hstale.1, rfl⟩)))
    · simp only [List.mem_cons, List.not_mem_nil, or_false] at hopen
      apply Relation.ReflTransGen.single
      left
      obtain he | he | he := hopen
      all_goals
        rw [he]
        decide
  rw [claimedItem_eq h]
  exact ⟨⟨rfl, rfl, rfl, rfl, rfl, rfl, rfl, .inl rfl⟩, Nat.le_succ _, hstates,
    fun hne => absurd rfl hne, fun hs hn => by simp_all⟩

theorem cleared_evolves {current : QueueItem} (hs : current.state ∈ QueueState.finished)
    (moment : Int) (field : RefField) : current.Evolves (clearedItem moment field current) := by
  have hstate : (clearedItem moment field current).state = current.state := by
    cases field <;> rfl
  constructor
  case receipt => exact clearedItem_sameReceipt _ _ _
  case attempts => cases field <;> exact Nat.le_refl _
  case states => rw [hstate]
  case body =>
    intro _
    exact hstate ▸ hs
  case result =>
    intro _ _
    exact hstate ▸ hs

/-- A job clears references of finished items only. -/
def Job.Tidy (job : Job) : Prop :=
  ∀ field, CriticalSection.clean field ∈ job.todo → job.target ∈ QueueState.finished

/-- An item is what became of one of some receipts. -/
def MadeFor (P : Platform) (asked : Receipt → Prop) (item : QueueItem) : Prop :=
  ∃ receipt fresh, asked receipt ∧ receipt.newItem P = .ok fresh ∧
    fresh.queueId = item.queueId ∧ fresh.idempotencyKey = item.idempotencyKey ∧
    fresh.sourceHostId = item.sourceHostId

/-- No two of some receipts have one queue id but different keys or hosts. -/
def Distinguished (P : Platform) (asked : Receipt → Prop) : Prop :=
  ∀ r r' item item', asked r → asked r' → r.newItem P = .ok item → r'.newItem P = .ok item' →
    item.queueId = item'.queueId →
    item.idempotencyKey = item'.idempotencyKey ∧ item.sourceHostId = item'.sourceHostId

/-- Everything that a world holds comes from some receipts. -/
structure QueueWorld.Accounted (P : Platform) (asked : Receipt → Prop) (w : QueueWorld) :
    Prop where
  sound : QueueStore.Sound P w.queue
  rows : ∀ {i row}, w.queue.rows.lookup i = some row → MadeFor P asked row.item
  envelopes : ∀ row ∈ w.emergency.rows, MadeFor P asked row.2.item
  jobs : ∀ job ∈ w.jobs, job.Tidy

/-- Every row with a file is still there, with an item that evolved from the one before. -/
def QueueStore.Evolves (s s' : QueueStore) : Prop :=
  ∀ i item, s.rows.lookup i = some ⟨item, true⟩ →
    ∃ later, s'.rows.lookup i = some ⟨later, true⟩ ∧ item.Evolves later

theorem QueueStore.Evolves.refl (s : QueueStore) : s.Evolves s :=
  fun _ item h => ⟨item, h, .refl item⟩

theorem QueueStore.Evolves.trans (h : QueueStore.Evolves s t) (h' : QueueStore.Evolves t u) :
    s.Evolves u := by
  intro i item hi
  obtain ⟨mid, hmid, he⟩ := h i item hi
  obtain ⟨later, hlater, he'⟩ := h' i mid hmid
  exact ⟨later, hlater, he.trans he'⟩

theorem MadeFor.congr (h : MadeFor P asked item) (hid : later.queueId = item.queueId)
    (hkey : later.idempotencyKey = item.idempotencyKey)
    (hhost : later.sourceHostId = item.sourceHostId) : MadeFor P asked later := by
  obtain ⟨receipt, fresh, hr, hn, hid', hkey', hhost'⟩ := h
  exact ⟨receipt, fresh, hr, hn, hid'.trans hid.symm, hkey'.trans hkey.symm,
    hhost'.trans hhost.symm⟩

theorem Updates.evolves (h : Updates w a current updated) (hjobs : ∀ job ∈ w.jobs, Job.Tidy job) :
    current.Evolves updated := by
  cases h with
  | claim _ hc => exact claimed_evolves hc
  | transition _ _ ha => exact transitioned_evolves ha
  | attach _ hs =>
    exact ⟨⟨rfl, rfl, rfl, rfl, rfl, rfl, rfl, .inl rfl⟩, Nat.le_refl _, .refl,
      fun hne => absurd rfl hne, fun _ hn => by cases hn⟩
  | store _ ha => exact transitioned_evolves ha
  | clean hj hs =>
    obtain ⟨hjob, todo, htodo⟩ := hj
    have hfinished := hjobs _ (List.mem_of_getElem? hjob) _ (htodo ▸ List.mem_cons_self)
    exact cleared_evolves (hs ▸ hfinished) _ _
  | scan _ hc => exact claimed_evolves hc

theorem Creates.madeFor {w : QueueWorld} (h : Creates P w a item registered)
    (hw : w.Accounted P asked) (ha : ∀ receipt fault, a = .enqueue receipt fault → asked receipt) :
    MadeFor P asked item := by
  cases h with
  | enqueue hn _ =>
    refine ⟨_, _, ha _ _ rfl, hn, ?_⟩
    rw [reservedItem]
    split <;> exact ⟨rfl, rfl, rfl⟩
  | recover he hf =>
    obtain ⟨row, hrow, hitem⟩ := List.mem_map.1 he
    have hmade := hw.envelopes row hrow
    rw [hitem] at hmade
    have hsame := fromFile_sameReceipt hf
    exact hmade.congr hsame.queueId hsame.idempotencyKey hsame.sourceHostId

theorem QueueChange.evolves {w : QueueWorld} (h : QueueChange P w a s s')
    (hs : QueueStore.Sound P s) (hmade : ∀ {i row}, s.rows.lookup i = some row →
      MadeFor P asked row.item) (hapart : Distinguished P asked) (hw : w.Accounted P asked)
    (ha : ∀ receipt fault, a = .enqueue receipt fault → asked receipt) : s.Evolves s' := by
  cases h with
  | cursor => exact .refl s
  | @create item registered _ hc hn =>
    intro i stored hi
    by_cases hid : i = item.queueId
    · -- the stored item has the new item's key and host, so that it would have been found
      obtain ⟨r, fresh, hr, hfresh, hids, hkeys, hhosts⟩ := hc.madeFor hw ha
      obtain ⟨r', fresh', hr', hfresh', hids', hkeys', hhosts'⟩ := hmade hi
      have hsame : fresh.queueId = fresh'.queueId :=
        hids.trans (hid.symm.trans ((hs.ids hi).symm.trans hids'.symm))
      obtain ⟨hkey, hhost⟩ := hapart r r' fresh fresh' hr hr' hfresh hfresh' hsame
      have htag : QueueStore.rowTag P ⟨stored, true⟩ =
          queueTag P item.idempotencyKey item.sourceHostId := by
        rw [QueueStore.rowTag, ← hkeys, ← hhosts, hkey, hhost, hkeys', hhosts']
      obtain ⟨_, hreserved⟩ := QueueStore.existing_none hn i _ hi htag
      cases hreserved
    · exact ⟨stored, (Dict.lookup_set_of_ne (Ne.symm hid) _ _).trans hi, .refl stored⟩
  | @update queueId current updated _ hr hu =>
    obtain ⟨stored, hl, hf⟩ := QueueStore.read_eq_ok_iff.1 hr
    have he := (fromFile_evolves hf).trans (hu.evolves hw.jobs)
    have hid : updated.queueId = queueId := he.receipt.queueId.trans (hs.ids hl)
    intro i item hi
    by_cases heq : i = queueId
    · subst heq
      rw [hl] at hi
      cases hi
      exact ⟨updated, hid ▸ Dict.lookup_set_self _ _ _, he⟩
    · exact ⟨item, (Dict.lookup_set_of_ne (hid ▸ Ne.symm heq) _ _).trans hi, .refl item⟩

theorem QueueChange.madeFor {w : QueueWorld} (h : QueueChange P w a s s')
    (hmade : ∀ {i row}, s.rows.lookup i = some row →
      MadeFor P asked row.item) (hw : w.Accounted P asked)
    (ha : ∀ receipt fault, a = .enqueue receipt fault → asked receipt) :
    ∀ {i row}, s'.rows.lookup i = some row → MadeFor P asked row.item := by
  intro i row hi
  cases h with
  | cursor => exact hmade hi
  | create _ hc _ =>
    rw [Dict.lookup_set] at hi
    split at hi
    · cases hi
      exact hc.madeFor hw ha
    · exact hmade hi
  | update _ hr hu =>
    rw [Dict.lookup_set] at hi
    split at hi
    · cases hi
      obtain ⟨stored, hl, hf⟩ := QueueStore.read_eq_ok_iff.1 hr
      have hsame := (fromFile_sameReceipt hf).trans hu.sameReceipt
      exact (hmade hl).congr hsame.queueId hsame.idempotencyKey hsame.sourceHostId
    · exact hmade hi

/-- What an action does to the queue: the rows are still sound and made for receipts, and those
that were there have evolved. -/
theorem queueStep_evolves {w : QueueWorld} (hw : w.Accounted P asked)
    (hapart : Distinguished P asked)
    (ha : ∀ receipt fault, a = .enqueue receipt fault → asked receipt) :
    QueueStore.Sound P (queueStep P w a).1.queue ∧
      (∀ {i row}, (queueStep P w a).1.queue.rows.lookup i = some row →
        MadeFor P asked row.item) ∧
      w.queue.Evolves (queueStep P w a).1.queue := by
  have hchanges := queueStep_changes P w a
  generalize (queueStep P w a).1.queue = s' at hchanges
  induction hchanges with
  | refl => exact ⟨hw.sound, hw.rows, .refl _⟩
  | tail _ hc ih =>
    obtain ⟨hs, hmade, he⟩ := ih
    exact ⟨hc.sound hs, hc.madeFor hmade hw ha,
      he.trans (hc.evolves hs hmade hapart hw ha)⟩

theorem afterScan_tidy (hjobs : ∀ job ∈ jobs, Job.Tidy job)
    (hr : ∀ item rest, r.2 = .cleanup item rest → item.state ∈ QueueState.finished) :
    ∀ job ∈ (afterScan call w jobs r).1.jobs, job.Tidy := by
  obtain he | ⟨item, rest, hc, he⟩ := afterScan_jobs call w jobs r
  · rw [he]
    exact hjobs
  · rw [he]
    intro job hm
    obtain hm | hm := List.mem_append.1 hm
    · exact hjobs job hm
    · rw [List.mem_singleton] at hm
      rw [hm]
      intro _ _
      exact hr item rest hc

theorem claimScan_finished (h : (claimScan call paths s).2 = .cleanup item rest) :
    item.state ∈ QueueState.finished := by
  obtain ⟨_, _, hdue⟩ := claimScan_cleanup h
  simp only [cleanupDue, decide_eq_true_eq] at hdue
  exact hdue.1

theorem afterSection_tidy (hjobs : ∀ job ∈ jobs, Job.Tidy job) (hnext : Job.Tidy next) :
    ∀ job ∈ (afterSection w jobs queue next answer).1.jobs, job.Tidy := by
  rw [afterSection]
  split
  · exact hjobs
  · intro job hm
    obtain hm | hm := List.mem_append.1 hm
    · exact hjobs job hm
    · rw [List.mem_singleton] at hm
      rw [hm]
      exact hnext

theorem Job.Tidy.fail {job : Job} (h : job.Tidy) : job.fail.Tidy :=
  fun field hm => h field (List.dropWhile_subset _ hm)

theorem Job.Tidy.tail {job : Job} {todo : List CriticalSection} (h : job.Tidy)
    (ht : job.todo = critical :: todo) : ∀ updated, Job.Tidy { job with updated, todo } := by
  intro updated field hm
  exact h field (ht ▸ List.mem_cons_of_mem _ hm)

theorem runSection_tidy (hj : Job.Tidy job) (hjobs : ∀ job ∈ jobs, Job.Tidy job) :
    ∀ job' ∈ (runSection job jobs deleted w).1.jobs, job'.Tidy := by
  rw [runSection]
  split
  · exact hjobs
  · rename_i call todo ht
    split
    · exact afterSection_tidy hjobs (hj.tail ht _)
    · exact afterSection_tidy hjobs hj.fail
  · rename_i field todo ht
    split
    · exact afterSection_tidy hjobs (hj.tail ht _)
    · split
      · exact afterSection_tidy hjobs hj.fail
      · split
        · exact afterSection_tidy hjobs (hj.tail ht _)
        · exact afterSection_tidy hjobs hj.fail
  · rename_i todo ht
    exact afterSection_tidy hjobs (hj.tail ht _)
  · exact afterScan_tidy hjobs fun item rest => claimScan_finished

theorem enqueueReceipt_jobs (P : Platform) (receipt : Receipt) (fault : WriteFault)
    (w : QueueWorld) : (enqueueReceipt P receipt fault w).1.jobs = w.jobs := by
  rw [enqueueReceipt]
  split
  · rfl
  · split
    · rfl
    · split <;> rfl
    · rw [storeReceipt]
      split
      · rfl
      · rfl
      · rfl
      · split <;> rfl

theorem recoverPage_jobs (ids : List String) (v : QueueWorld) (recovered : List QueueItem) :
    (recoverPage P settings moment ids v recovered).1.jobs = v.jobs := by
  induction ids generalizing v recovered with
  | nil => rfl
  | cons id rest ih =>
    rw [recoverPage]
    split
    · rfl
    · split
      · rfl
      · exact ih _ _

theorem queueStep_tidy {w : QueueWorld} (hw : ∀ job ∈ w.jobs, Job.Tidy job) (a : QueueAction) :
    ∀ job ∈ (queueStep P w a).1.jobs, job.Tidy := by
  cases a with
  | enqueue receipt fault =>
    rw [queueStep, enqueueReceipt_jobs]
    exact hw
  | claim call limit =>
    apply afterScan_tidy hw
    intro item rest hc
    exact claimScan_finished (claimStart_cleanup hc).2
  | transition state args item =>
    rw [queueStep]
    split
    · exact hw
    · rw [transitionQueueItem]
      split
      · exact hw
      · split
        · rename_i hfinished
          intro job hm
          obtain hm | hm := List.mem_append.1 hm
          · exact hw job hm
          · rw [List.mem_singleton] at hm
            rw [hm]
            intro _ _
            exact hfinished
        · exact hw
  | attach item ref =>
    rw [queueStep]
    split <;> exact hw
  | run index deleted =>
    rw [queueStep]
    split
    · exact hw
    · rename_i job hj
      apply runSection_tidy (hw job (List.mem_of_getElem? hj))
      intro job' hm
      exact hw job' (List.mem_of_mem_eraseIdx hm)
  | abandon index =>
    intro job hm
    exact hw job (List.mem_of_mem_eraseIdx hm)
  | recover settings moment limit =>
    rw [queueStep, recoverEmergencySpool, recoverPage_jobs]
    exact hw

theorem writeEmergencyEnvelope_rows
    (h : writeEmergencyEnvelope P settings item reasonCode now s = (s', r)) :
    ∀ row ∈ s'.rows, row ∈ s.rows ∨ row.2.item = item := by
  intro row hm
  rw [writeEmergencyEnvelope] at h
  split at h
  · split at h
    all_goals
      cases h
      exact .inl hm
  · dsimp only at h
    split at h
    · cases h
      exact .inl hm
    · cases h
      obtain hm | hm := List.mem_append.1 hm
      · exact .inl hm
      · rw [List.mem_singleton] at hm
        rw [hm]
        exact .inr rfl

theorem recoverPage_envelopes (ids : List String) (v : QueueWorld) (recovered : List QueueItem) :
    ∀ row ∈ (recoverPage P settings moment ids v recovered).1.emergency.rows,
      row ∈ v.emergency.rows := by
  induction ids generalizing v recovered with
  | nil => exact fun _ hm => hm
  | cons id rest ih =>
    rw [recoverPage]
    split
    · exact fun _ hm => hm
    · split
      · exact fun _ hm => hm
      · intro row hm
        exact List.mem_of_mem_filter (ih _ _ row hm)

theorem queueStep_envelopes {w : QueueWorld} (hw : w.Accounted P asked)
    (ha : ∀ receipt fault, a = .enqueue receipt fault → asked receipt) :
    ∀ row ∈ (queueStep P w a).1.emergency.rows, MadeFor P asked row.2.item := by
  cases a with
  | enqueue receipt fault =>
    rw [queueStep, enqueueReceipt]
    split
    · exact hw.envelopes
    · rename_i fresh hn
      split
      · exact hw.envelopes
      · split <;> exact hw.envelopes
      · have hcreates : Creates P w (.enqueue receipt fault) (reservedItem w.queue fresh) true :=
          .enqueue hn fun h => by cases h
        have hmade := hcreates.madeFor hw ha
        rw [storeReceipt]
        split
        · exact hw.envelopes
        · exact hw.envelopes
        · exact hw.envelopes
        · split
          all_goals
            rename_i he
            intro row hm
            obtain hold | hnew := writeEmergencyEnvelope_rows he row hm
            · exact hw.envelopes row hold
            · rw [hnew]
              exact hmade
  | claim call limit =>
    rw [queueStep, claimQueueItem, afterScan_emergency]
    exact hw.envelopes
  | transition state args item =>
    rw [queueStep]
    split
    · exact hw.envelopes
    · rw [transitionQueueItem]
      split
      · exact hw.envelopes
      · split <;> exact hw.envelopes
  | attach item ref =>
    rw [queueStep]
    split <;> exact hw.envelopes
  | run index deleted =>
    rw [queueStep]
    split
    · exact hw.envelopes
    · rw [runSection_emergency]
      exact hw.envelopes
  | abandon index => exact hw.envelopes
  | recover settings moment limit =>
    intro row hm
    exact hw.envelopes row (recoverPage_envelopes _ _ _ row hm)

/-- The receipts that a run enqueues. -/
def asks (run : List QueueAction) (receipt : Receipt) : Prop :=
  ∃ fault, QueueAction.enqueue receipt fault ∈ run

theorem queueStep_accounted {w : QueueWorld} (hw : w.Accounted P asked)
    (hapart : Distinguished P asked)
    (ha : ∀ receipt fault, a = .enqueue receipt fault → asked receipt) :
    (queueStep P w a).1.Accounted P asked := by
  obtain ⟨hs, hmade, _⟩ := queueStep_evolves hw hapart ha
  exact ⟨hs, hmade, queueStep_envelopes hw ha, queueStep_tidy hw.jobs a⟩

theorem queueMachine_evolves {w : QueueWorld} (hw : w.Accounted P asked)
    (hapart : Distinguished P asked) (run : List QueueAction)
    (hrun : ∀ receipt fault, QueueAction.enqueue receipt fault ∈ run → asked receipt) :
    ((queueMachine P).after w run).Accounted P asked ∧
      w.queue.Evolves ((queueMachine P).after w run).queue := by
  induction run generalizing w with
  | nil => exact ⟨hw, .refl _⟩
  | cons a run ih =>
    have ha : ∀ receipt fault, a = .enqueue receipt fault → asked receipt := by
      intro receipt fault he
      exact hrun receipt fault (he ▸ List.mem_cons_self)
    obtain ⟨_, _, hstep⟩ := queueStep_evolves hw hapart ha
    have hrest := ih (queueStep_accounted hw hapart ha) fun receipt fault hm =>
      hrun receipt fault (List.mem_cons_of_mem _ hm)
    exact ⟨hrest.1, hstep.trans hrest.2⟩

theorem sampleRun_distinguished :
    Distinguished samplePlatform (asks ([.enqueue sampleReceipt .none] ++ finishSampleItem)) := by
  have hone : ∀ r, asks ([.enqueue sampleReceipt .none] ++ finishSampleItem) r →
      r = sampleReceipt := by
    intro r hasked
    obtain ⟨fault, hm⟩ := hasked
    simp only [finishSampleItem, List.singleton_append, List.mem_cons, List.not_mem_nil, or_false,
      QueueAction.enqueue.injEq, reduceCtorEq] at hm
    exact hm.1
  intro r r' item item' hr hr' hn hn' _
  rw [hone r hr] at hn
  rw [hone r' hr', hn] at hn'
  cases hn'
  exact ⟨rfl, rfl⟩

end ExternalIntelligence
