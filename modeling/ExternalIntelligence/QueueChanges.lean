import Mathlib.Logic.Relation
import ExternalIntelligence.QueueMachine

namespace ExternalIntelligence
set_option autoImplicit true

/-- What no call changes of an item once it is stored. -/
structure QueueItem.SameReceipt (current updated : QueueItem) : Prop where
  queueId : updated.queueId = current.queueId
  eventId : updated.eventId = current.eventId
  idempotencyKey : updated.idempotencyKey = current.idempotencyKey
  sourceHash : updated.sourceHash = current.sourceHash
  hostId : updated.hostId = current.hostId
  captureId : updated.captureId = current.captureId
  sourceHostId : updated.sourceHostId = current.sourceHostId
  payloadRef : updated.payloadRef = current.payloadRef ∨ updated.payloadRef = none

theorem QueueItem.SameReceipt.refl (item : QueueItem) : item.SameReceipt item :=
  ⟨rfl, rfl, rfl, rfl, rfl, rfl, rfl, .inl rfl⟩

theorem QueueItem.SameReceipt.trans {a b c : QueueItem} (h : a.SameReceipt b)
    (h' : b.SameReceipt c) : a.SameReceipt c where
  queueId := h'.queueId.trans h.queueId
  eventId := h'.eventId.trans h.eventId
  idempotencyKey := h'.idempotencyKey.trans h.idempotencyKey
  sourceHash := h'.sourceHash.trans h.sourceHash
  hostId := h'.hostId.trans h.hostId
  captureId := h'.captureId.trans h.captureId
  sourceHostId := h'.sourceHostId.trans h.sourceHostId
  payloadRef := by
    rcases h'.payloadRef with he | he
    · rw [he]
      exact h.payloadRef
    · exact .inr he

theorem fromFile_readable {item : QueueItem} (h : item.fromFile = some back) :
    item.readable = true := by
  rw [QueueItem.fromFile] at h
  split at h
  · cases h
  · rename_i hr
    simpa only [Bool.not_eq_true, Bool.not_eq_false', Bool.not_eq_false] using hr

theorem fromFile_eq {item : QueueItem} (h : item.fromFile = some back) :
    back = { item with state := back.state } ∧
      (back.state = item.state ∨ back.state = .failedNeedsAttention) := by
  rw [QueueItem.fromFile] at h
  split at h
  · cases h
  · split at h <;> cases h
    · exact ⟨rfl, .inr rfl⟩
    · exact ⟨rfl, .inl rfl⟩

theorem fromFile_sameReceipt {item : QueueItem} (h : item.fromFile = some back) :
    item.SameReceipt back := by
  rw [(fromFile_eq h).1]
  exact ⟨rfl, rfl, rfl, rfl, rfl, rfl, rfl, .inl rfl⟩

namespace QueueStore

theorem read_eq_ok_iff {s : QueueStore} : s.read queueId = .ok item ↔
    ∃ stored, s.rows.lookup queueId = some ⟨stored, true⟩ ∧ stored.fromFile = some item := by
  rw [read]
  split
  · rename_i stored hl
    rw [hl]
    cases hf : stored.fromFile <;> simp [hf]
  · rename_i hl
    constructor
    · intro h
      cases h
    · rintro ⟨stored, hs, _⟩
      exact absurd hs (hl stored)

/-- A write without a fault raises and leaves the store, or puts the item's row. -/
theorem write_cases (s : QueueStore) (item : QueueItem) :
    (∃ e, s.write item .none = (s, .error e)) ∨
      s.write item .none =
        ({ s with rows := Dict.set item.queueId ⟨item, true⟩ s.rows }, .ok ()) := by
  rw [write]
  split
  · exact .inl ⟨_, rfl⟩
  · simp only []
    split
    · exact .inl ⟨_, rfl⟩
    · split
      · exact .inl ⟨_, rfl⟩
      · exact .inr rfl

/-- With any fault, a write leaves the store or puts the row, as a reservation only when it was
interrupted before its file and there was no row. -/
theorem write_fault_cases (s : QueueStore) (item : QueueItem) (fault : WriteFault) :
    (s.write item fault).1 = s ∨
      ∃ registered, (s.write item fault).1 =
        { s with rows := Dict.set item.queueId ⟨item, registered⟩ s.rows } ∧
        (registered = false → fault = .afterReservation) := by
  rw [write]
  split
  · exact .inl rfl
  · simp only []
    split
    · exact .inl rfl
    · split
      · exact .inl rfl
      · cases fault with
        | none => exact .inr ⟨true, rfl, by simp⟩
        | beforeReservation => exact .inl rfl
        | afterReservation =>
          by_cases hn : (s.rows.lookup item.queueId).isNone
          · exact .inr ⟨false, if_pos hn, fun _ => rfl⟩
          · exact .inl (if_neg hn)
        | afterFile => exact .inr ⟨true, rfl, by simp⟩

end QueueStore

/-- The items an action can put into the queue, and whether as a file or as a reservation. -/
inductive Creates (P : Platform) (w : QueueWorld) : QueueAction → QueueItem → Bool → Prop where
  | enqueue (hn : receipt.newItem P = .ok item)
      (hf : registered = false → fault = .afterReservation) :
      Creates P w (.enqueue receipt fault) (reservedItem w.queue item) registered
  | recover (he : envelope ∈ w.emergency.rows.map Prod.snd)
      (hf : envelope.item.fromFile = some item) :
      Creates P w (.recover settings moment limit) (item.preferring settings) true

/-- The section a job runs next. -/
def NextSection (w : QueueWorld) (index : Nat) (job : Job) (critical : CriticalSection) : Prop :=
  w.jobs[index]? = some job ∧ ∃ todo, job.todo = critical :: todo

/-- The replacements of a stored item an action can make. -/
inductive Updates (w : QueueWorld) : QueueAction → QueueItem → QueueItem → Prop where
  | claim (hw : call.worker ≠ "")
      (hc : claimedItem call.settings call.worker call.moment call.lease current = some updated) :
      Updates w (.claim call limit) current updated
  | transition (ht : QueueState.target state = some target)
      (hr : w.queue.read item.queueId = .ok current) (ha : admits { args with target } current) :
      Updates w (.transition state args item) current (transitionedItem { args with target } current)
  | attach (hp : ref.purpose = .validatedResult) (hs : current.state = .inProgress) :
      Updates w (.attach current ref) current { current with validatedResultRef := some ref }
  | store (hj : NextSection w index job (.store call)) (ha : admits call current) :
      Updates w (.run index deleted) current (transitionedItem call current)
  | clean (hj : NextSection w index job (.clean field)) (hs : current.state = job.target) :
      Updates w (.run index deleted) current (clearedItem job.moment field current)
  | scan (hj : NextSection w index job (.scan call rest))
      (hc : claimedItem call.settings call.worker call.moment call.lease current = some updated) :
      Updates w (.run index deleted) current updated

/-- What one step of an action does to the queue: it moves the cursor, or it puts one row. -/
inductive QueueChange (P : Platform) (w : QueueWorld) (a : QueueAction) :
    QueueStore → QueueStore → Prop where
  | cursor (s : QueueStore) (c : String) : QueueChange P w a s { s with cursor := c }
  | create (s : QueueStore) (hc : Creates P w a item registered)
      (hn : s.existing P item.idempotencyKey item.sourceHostId item.queueId = .ok none) :
      QueueChange P w a s { s with rows := Dict.set item.queueId ⟨item, registered⟩ s.rows }
  | update (s : QueueStore) (hr : s.read queueId = .ok current) (hu : Updates w a current updated) :
      QueueChange P w a s { s with rows := Dict.set updated.queueId ⟨updated, true⟩ s.rows }

abbrev QueueChanges (P : Platform) (w : QueueWorld) (a : QueueAction) :
    QueueStore → QueueStore → Prop :=
  Relation.ReflTransGen (QueueChange P w a)

theorem QueueChanges.cursor (s : QueueStore) (c : String) :
    QueueChanges P w a s { s with cursor := c } :=
  .single (.cursor s c)

theorem claimScan_changes (call : ClaimCall) (paths : List String) (s : QueueStore)
    (hu : ∀ current updated, claimedItem call.settings call.worker call.moment call.lease current =
      some updated → Updates w a current updated) :
    QueueChanges P w a s (claimScan call paths s).1 := by
  induction paths generalizing s with
  | nil => exact .refl
  | cons path rest ih =>
    rw [claimScan]
    split
    · exact (QueueChanges.cursor s path).trans (ih _)
    · rename_i item hr
      split
      · exact .refl
      · split
        · exact (QueueChanges.cursor s path).trans (ih _)
        · rename_i claimed hc
          rcases s.write_cases claimed with ⟨e, he⟩ | he
          · rw [he]
          · rw [he]
            have hput : QueueChange P w a s _ := .update s hr (hu _ _ hc)
            exact (Relation.ReflTransGen.single hput).trans (QueueChanges.cursor _ path)

theorem transitionStored_changes (call : TransitionCall) (item : QueueItem) (s : QueueStore)
    (hu : ∀ current, s.read item.queueId = .ok current → admits call current →
      Updates w a current (transitionedItem call current)) :
    QueueChanges P w a s (transitionStored call item s).1 := by
  rw [transitionStored]
  split
  · exact .refl
  · split
    · exact .refl
    · rename_i current hr
      split
      · exact .refl
      · split
        · exact .refl
        · rename_i ha
          rcases s.write_cases (transitionedItem call current) with ⟨e, he⟩ | he
          · rw [he]
          · rw [he]
            exact .single (.update s hr (hu current hr (by simpa using ha)))

theorem cleanupField_changes (target : QueueState) (moment : Int) (field : RefField)
    (ref : SpoolRef) (updated : QueueItem) (s : QueueStore)
    (hu : ∀ current, current.state = target →
      Updates w a current (clearedItem moment field current)) :
    QueueChanges P w a s (cleanupField target moment field ref updated s).1 := by
  rw [cleanupField]
  split
  · exact .refl
  · rename_i current hr
    split
    · exact .refl
    · rename_i hb
      have hs : current.state = target := by
        simpa using (not_or.1 hb).2
      split
      · rcases s.write_cases (clearedItem moment field current) with ⟨e, he⟩ | he
        · rw [he]
        · rw [he]
          exact .single (.update s hr (hu current hs))
      · split <;> exact .refl

theorem afterScan_queue (call : ClaimCall) (w : QueueWorld) (jobs : List Job)
    (r : QueueStore × ClaimOutcome) : (afterScan call w jobs r).1.queue = r.1 := by
  obtain ⟨queue, outcome⟩ := r
  cases outcome <;> rfl

theorem afterSection_queue (w : QueueWorld) (jobs : List Job) (queue : QueueStore) (next : Job)
    (answer : Response) : (afterSection w jobs queue next answer).1.queue = queue := by
  rw [afterSection]
  split <;> rfl

theorem claimStart_changes (call : ClaimCall) (limit : Nat) (s : QueueStore)
    (hu : ∀ current updated, call.worker ≠ "" →
      claimedItem call.settings call.worker call.moment call.lease current = some updated →
      Updates w a current updated) :
    QueueChanges P w a s (claimStart call limit s).1 := by
  rw [claimStart]
  split
  · exact .refl
  · rename_i hw
    split
    · exact .refl
    · split
      · exact .refl
      · split
        · exact .refl
        · exact claimScan_changes call _ s fun current updated =>
            hu current updated fun he => hw (.inl he)

theorem enqueueReceipt_changes (P : Platform) (receipt : Receipt) (fault : WriteFault)
    (w : QueueWorld) : QueueChanges P w (.enqueue receipt fault) w.queue
      (enqueueReceipt P receipt fault w).1.queue := by
  rw [enqueueReceipt]
  split
  · exact .refl
  · rename_i item hn
    split
    · exact .refl
    · split <;> exact .refl
    · rename_i he
      have hqueue : (storeReceipt P receipt (reservedItem w.queue item) fault w).1.queue =
          (w.queue.write (reservedItem w.queue item) fault).1 := by
        rw [storeReceipt]
        split
        all_goals rename_i hw
        · rw [hw]
        · rw [hw]
        · rw [hw]
        · split <;> rw [hw]
      rw [hqueue]
      rcases w.queue.write_fault_cases (reservedItem w.queue item) fault with hs | ⟨reg, hs, hr⟩
      · rw [hs]
      · rw [hs]
        apply Relation.ReflTransGen.single
        apply QueueChange.create _ (.enqueue hn hr)
        rw [reservedItem]
        split <;> exact he

theorem recoverEnvelope_changes (hm : envelope ∈ w.emergency.rows.map Prod.snd) (s : QueueStore) :
    QueueChanges P w (.recover settings moment limit) s
      (recoverEnvelope P settings moment envelope s).1 := by
  rw [recoverEnvelope]
  split
  · exact .refl
  · rename_i item hf
    split
    · exact .refl
    · split
      · exact .refl
      · split <;> exact .refl
      · rename_i he
        rcases s.write_cases (item.preferring settings) with ⟨e, hw⟩ | hw
        · rw [hw]
        · rw [hw]
          exact .single (.create s (.recover hm hf) he)

theorem recoverPage_changes (ids : List String) (v : QueueWorld) (recovered : List QueueItem)
    (hsub : ∀ row ∈ v.emergency.rows, row ∈ w.emergency.rows) :
    QueueChanges P w (.recover settings moment limit) v.queue
      (recoverPage P settings moment ids v recovered).1.queue := by
  induction ids generalizing v recovered with
  | nil => exact .refl
  | cons path rest ih =>
    rw [recoverPage]
    split
    · exact .refl
    · rename_i envelope hl
      have hm : envelope ∈ w.emergency.rows.map Prod.snd :=
        List.mem_map.2 ⟨_, hsub _ (Dict.mem_of_lookup hl), rfl⟩
      have hc : QueueChanges P w (.recover settings moment limit) v.queue
          (recoverEnvelope P settings moment envelope v.queue).1 :=
        recoverEnvelope_changes hm v.queue
      split
      · rename_i he
        rw [he] at hc
        exact hc
      · rename_i queue existing he
        rw [he] at hc
        refine hc.trans (ih { v with
          queue
          emergency := { rows := v.emergency.rows.filter fun row => row.1 ≠ path, cursor := path } }
          (recovered ++ existing.toList) ?_)
        intro row hrow
        exact hsub row (List.mem_of_mem_filter hrow)

theorem attachValidatedResult_changes (item : QueueItem) (ref : SpoolRef) (s : QueueStore) :
    QueueChanges P w (.attach item ref) s (attachValidatedResult item ref s).1 := by
  rw [attachValidatedResult]
  split
  · exact .refl
  · rename_i hp
    split
    · exact .refl
    · split
      · exact .refl
      · rename_i current hr
        split
        · exact .refl
        · rename_i hc
          obtain ⟨he, hs⟩ := not_or.1 hc
          have hu : Updates w (.attach current ref) current
              { current with validatedResultRef := some ref } :=
            .attach (not_not.1 hp) (not_not.1 hs)
          rw [not_not.1 he] at hu
          rcases s.write_cases { current with validatedResultRef := some ref } with ⟨e, hw⟩ | hw
          · rw [hw]
          · rw [hw]
            exact .single (.update s hr (not_not.1 he ▸ hu))

theorem runSection_changes (hj : w.jobs[index]? = some job) (jobs : List Job) (deleted : Bool) :
    QueueChanges P w (.run index deleted) w.queue (runSection job jobs deleted w).1.queue := by
  rw [runSection]
  split
  · exact .refl
  · rename_i call todo ht
    have hc : QueueChanges P w (.run index deleted) w.queue
        (transitionStored call job.updated w.queue).1 :=
      transitionStored_changes call job.updated w.queue fun current _ ha =>
        .store ⟨hj, todo, ht⟩ ha
    split
    all_goals
      rename_i he
      rw [he] at hc
      rw [afterSection_queue]
      exact hc
  · rename_i field todo ht
    split
    · rw [afterSection_queue]
    · rename_i ref _
      split
      · rw [afterSection_queue]
      · have hc : QueueChanges P w (.run index deleted) w.queue
            (cleanupField job.target job.moment field ref job.updated w.queue).1 :=
          cleanupField_changes job.target job.moment field ref job.updated w.queue
            fun current hs => .clean ⟨hj, todo, ht⟩ hs
        split
        all_goals
          rename_i he
          rw [he] at hc
          rw [afterSection_queue]
          exact hc
  · rw [afterSection_queue]
    exact QueueChanges.cursor w.queue _
  · rename_i call rest todo ht
    rw [afterScan_queue]
    exact claimScan_changes call rest w.queue fun current updated hc => .scan ⟨hj, todo, ht⟩ hc

/-- Everything an action does to the queue is a series of changes it can make. -/
theorem queueStep_changes (P : Platform) (w : QueueWorld) (a : QueueAction) :
    QueueChanges P w a w.queue (queueStep P w a).1.queue := by
  cases a with
  | enqueue receipt fault => exact enqueueReceipt_changes P receipt fault w
  | claim call limit =>
    simp only [queueStep, claimQueueItem, afterScan_queue]
    exact claimStart_changes _ limit w.queue fun current updated hw hc => .claim hw hc
  | transition state args item =>
    simp only [queueStep]
    split
    · exact .refl
    · rename_i target ht
      have hc : QueueChanges P w (.transition state args item) w.queue
          (transitionStored { args with target } item w.queue).1 :=
        transitionStored_changes _ item w.queue fun current hr ha => .transition ht hr ha
      rw [transitionQueueItem]
      split
      · rename_i he
        rw [he] at hc
        exact hc
      · rename_i he
        rw [he] at hc
        split <;> exact hc
  | attach item ref =>
    have hc := attachValidatedResult_changes (P := P) (w := w) item ref w.queue
    simp only [queueStep]
    split
    all_goals
      rename_i he
      rw [he] at hc
      exact hc
  | run index deleted =>
    simp only [queueStep]
    split
    · exact .refl
    · rename_i job hj
      exact runSection_changes hj _ deleted
  | abandon index => exact .refl
  | recover settings moment limit => exact recoverPage_changes _ w [] fun _ h => h

end ExternalIntelligence
