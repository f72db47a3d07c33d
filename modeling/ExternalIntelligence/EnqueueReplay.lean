import ExternalIntelligence.QueueInvariants

namespace ExternalIntelligence
set_option autoImplicit true

/-- Claims, transitions, and the sections these leave to run later. -/
def QueueAction.worker : QueueAction → Bool
  | .claim .. | .transition .. | .run .. | .abandon .. => true
  | _ => false

/-- A stored item that came from an earlier one through worker calls only. -/
structure QueueStore.Keeps (P : Platform) (item : QueueItem) (tag replayId : String)
    (s : QueueStore) : Prop where
  sound : QueueStore.Sound P s
  opens : s.catalog (some replayId) = .ok ()
  kept : ∃ stored, s.rows.lookup item.queueId = some ⟨stored, true⟩ ∧
    QueueStore.rowTag P ⟨stored, true⟩ = tag ∧ item.SameReceipt stored

theorem QueueStore.catalog_eq_ok_iff {s : QueueStore} {replayId : String} :
    s.catalog (some replayId) = .ok () ↔
      (∀ row ∈ s.rows, row.2.registered = true) ∨ s.reserved replayId = true := by
  rw [QueueStore.catalog]
  have hp : s.pending = [] ↔ ∀ row ∈ s.rows, row.2.registered = true := by
    simp [QueueStore.pending]
  simp only [hp, Option.map_some, Option.getD_some]
  split
  · rename_i h
    exact iff_of_true rfl h
  · rename_i h
    exact iff_of_false (by simp) h

/-- Replacing a registered row opens and closes nothing. -/
theorem QueueStore.catalog_update {s : QueueStore} (hk : (Dict.keys s.rows).Nodup)
    (hl : s.rows.lookup i = some ⟨stored, true⟩) (ho : s.catalog (some replayId) = .ok ()) :
    QueueStore.catalog { s with rows := Dict.set i ⟨updated, true⟩ s.rows } (some replayId) =
      .ok () := by
  rw [QueueStore.catalog_eq_ok_iff] at ho ⊢
  rcases ho with hall | hres
  · refine .inl ?_
    rintro ⟨j, row⟩ hm
    rcases (Dict.mem_set hk).1 hm with ⟨_, rfl⟩ | ⟨_, hm⟩
    · rfl
    · exact hall _ hm
  · refine .inr ?_
    have hne : i ≠ replayId := by
      rintro rfl
      simp [QueueStore.reserved, hl] at hres
    rw [QueueStore.reserved] at hres ⊢
    rw [Dict.lookup_set_of_ne hne]
    exact hres

theorem Creates.not_worker (h : Creates P w a item registered) : a.worker = false := by
  cases h <;> rfl

theorem QueueChange.keeps (h : QueueChange P w a s s') (ha : a.worker = true)
    (hk : s.Keeps P item tag replayId) : s'.Keeps P item tag replayId := by
  have hsound := h.sound hk.sound
  cases h with
  | cursor => exact ⟨hsound, hk.opens, hk.kept⟩
  | create _ hc =>
    rw [hc.not_worker] at ha
    cases ha
  | @update queueId current updated _ hr hu =>
    obtain ⟨before, hl, hf⟩ := QueueStore.read_eq_ok_iff.1 hr
    have hsame := (fromFile_sameReceipt hf).trans hu.sameReceipt
    have hid : updated.queueId = queueId := hsame.queueId.trans (hk.sound.ids hl)
    refine ⟨hsound, hid ▸ QueueStore.catalog_update hk.sound.keys hl hk.opens, ?_⟩
    obtain ⟨stored, hl', ht, hkept⟩ := hk.kept
    simp only [hid, Dict.lookup_set]
    by_cases he : queueId = item.queueId
    · subst he
      rw [hl, Option.some.injEq, QueueRow.mk.injEq] at hl'
      obtain ⟨rfl, _⟩ := hl'
      refine ⟨updated, if_pos rfl, ?_, hkept.trans hsame⟩
      rw [← ht]
      simp only [QueueStore.rowTag, hsame.idempotencyKey, hsame.sourceHostId]
    · rw [if_neg he]
      exact ⟨stored, hl', ht, hkept⟩

/-- Worker calls keep the identity of every stored item. -/
theorem queueMachine_keeps (hk : QueueStore.Keeps P item tag replayId w.queue)
    (hw : ∀ a ∈ work, QueueAction.worker a = true) :
    QueueStore.Keeps P item tag replayId ((queueMachine P).after w work).queue := by
  induction work using List.reverseRecOn with
  | nil => exact hk
  | append_singleton work a ih =>
    rw [Machine.after_concat]
    have hprev := ih fun b hb => hw b (List.mem_append_left _ hb)
    have ha : a.worker = true := hw a (by simp)
    exact (queueStep_changes P _ a).invariant (fun _ _ hc => hc.keeps ha) hprev

theorem fromFile_eq_none {item : QueueItem} (h : item.fromFile = none) :
    item.readable = false := by
  rw [QueueItem.fromFile] at h
  split at h
  · rename_i hr
    simpa using hr
  · split at h <;> cases h

theorem sameReceipt_fromFile {item : QueueItem} (h : item.fromFile = some back) :
    back.SameReceipt item := by
  rw [(fromFile_eq h).1]
  exact ⟨rfl, rfl, rfl, rfl, rfl, rfl, rfl, .inl rfl⟩

theorem Receipt.newItem_fields {receipt : Receipt} (h : receipt.newItem P = .ok item) :
    ∃ fields, eventFields P receipt.event = some fields ∧
      item = receiptItem P fields receipt.payloadRef receipt.settings receipt.provider
        receipt.stage receipt.now receipt.captureId := by
  rw [Receipt.newItem] at h
  split at h
  · cases h
  · rename_i fields hf
    simp only [] at h
    split at h
    · exact ⟨fields, hf, (Except.ok.inj h).symm⟩
    · cases h

theorem reservedItem_eq (s : QueueStore) (item : QueueItem) :
    ∃ createdAt, reservedItem s item = { item with createdAt } := by
  rw [reservedItem]
  split
  · exact ⟨_, rfl⟩
  · exact ⟨item.createdAt, rfl⟩

theorem QueueStore.write_ok {s : QueueStore} (h : s.write item fault = (s', .ok ())) :
    s' = { s with rows := Dict.set item.queueId ⟨item, true⟩ s.rows } ∧
      ∀ id ∈ s.pending, id = item.queueId := by
  rw [QueueStore.write] at h
  split at h
  · cases h
  · simp only [] at h
    split at h
    · cases h
    · split at h
      · cases h
      · rename_i hp
        have hp' : ∀ id ∈ s.pending, id = item.queueId := by simpa using hp
        cases fault <;> cases h
        exact ⟨rfl, hp'⟩

/-- What a stored receipt is answered with. -/
theorem storeReceipt_item (h : (storeReceipt P receipt item fault w).2 = .item answer) :
    (answer = item ∧ w.queue.write item fault =
        ((storeReceipt P receipt item fault w).1.queue, .ok ())) ∨
      (answer.idempotencyKey = item.idempotencyKey ∧ answer.sourceHostId = item.sourceHostId ∧
        answer.state = .quarantined ∧
        (w.queue.write item fault).1 = (storeReceipt P receipt item fault w).1.queue) := by
  rw [storeReceipt] at h ⊢
  split at h
  · rename_i hw
    rw [hw]
    cases h
    exact .inl ⟨rfl, rfl⟩
  · cases h
  · cases h
  · rename_i hw
    rw [hw]
    split at h
    · cases h
    · cases h
      refine .inr ⟨rfl, rfl, rfl, ?_⟩
      simp only [*]

theorem sameIdentity_iff (existing item : QueueItem) : sameIdentity existing item = true ↔
    existing.eventId = item.eventId ∧ existing.sourceHash = item.sourceHash ∧
      existing.hostId = item.hostId ∧ existing.captureId = item.captureId ∧
      existing.payloadRef = item.payloadRef := by
  simp [sameIdentity]

/-- A queue that an item was written to has no reservation left. -/
theorem QueueStore.catalog_of_write {s : QueueStore} (hkeys : (Dict.keys s.rows).Nodup)
    (h : s.write item fault = (s', .ok ())) (id : String) : s'.catalog id = .ok () := by
  obtain ⟨rfl, hp⟩ := QueueStore.write_ok h
  rw [QueueStore.catalog_eq_ok_iff]
  left
  rintro ⟨j, row⟩ hm
  rcases (Dict.mem_set hkeys).1 hm with ⟨_, rfl⟩ | ⟨hne, hm⟩
  · rfl
  · by_contra hfalse
    refine hne (hp j ?_)
    simp only [QueueStore.pending, List.mem_map, List.mem_filter]
    exact ⟨(j, row), ⟨hm, by simpa using hfalse⟩, rfl⟩

/-- A receipt kept outside the queue is not what the queue reads back. -/
theorem QueueStore.not_read_of_quarantined {s : QueueStore} {fresh answer : QueueItem}
    (he : s.existing P fresh.idempotencyKey fresh.sourceHostId fresh.queueId = .ok none)
    (hready : fresh.state = .ready) (hkey : answer.idempotencyKey = fresh.idempotencyKey)
    (hhost : answer.sourceHostId = fresh.sourceHostId) (hstate : answer.state = .quarantined)
    (createdAt : Int) :
    (s.write { fresh with createdAt } fault).1.read answer.queueId ≠ .ok answer := by
  intro hr
  obtain ⟨stored, hl, hf⟩ := QueueStore.read_eq_ok_iff.1 hr
  have hsame := sameReceipt_fromFile hf
  have hnone : s.rows.lookup answer.queueId ≠ some ⟨stored, true⟩ := by
    intro hold
    have ht : QueueStore.rowTag P ⟨stored, true⟩ =
        queueTag P fresh.idempotencyKey fresh.sourceHostId := by
      rw [QueueStore.rowTag, hsame.idempotencyKey, hsame.sourceHostId, hkey, hhost]
    cases (QueueStore.existing_none he _ _ hold ht).2
  rcases s.write_fault_cases { fresh with createdAt } fault with hs' | ⟨registered, hs', -⟩
  · rw [hs'] at hl
    exact hnone hl
  · rw [hs', Dict.lookup_set] at hl
    split at hl
    · cases hl
      rcases (fromFile_eq hf).2 with hback | hback <;>
      · rw [hstate] at hback
        simp [hready] at hback
    · exact hnone hl

/-- An enqueue that answers with an item now in the store keeps its tag and identity there. -/
theorem enqueue_keeps (hs : QueueStore.Sound P w.queue) (hn : receipt.newItem P = .ok fresh)
    (ha : (enqueueReceipt P receipt fault w).2 = .item item)
    (hr : (enqueueReceipt P receipt fault w).1.queue.read item.queueId = .ok item) :
    QueueStore.Keeps P item (queueTag P fresh.idempotencyKey fresh.sourceHostId) fresh.queueId
        (enqueueReceipt P receipt fault w).1.queue ∧
      sameIdentity item fresh = true := by
  have hsound : QueueStore.Sound P (enqueueReceipt P receipt fault w).1.queue :=
    (enqueueReceipt_changes P receipt fault w).invariant (fun _ _ hc => hc.sound) hs
  rw [enqueueReceipt, hn] at ha hr hsound ⊢
  simp only [] at ha hr hsound ⊢
  cases he : w.queue.existing P fresh.idempotencyKey fresh.sourceHostId fresh.queueId with
  | error e => simp [he] at ha
  | ok found =>
    cases found with
    | some existing =>
      simp only [he] at ha hsound ⊢
      obtain ⟨ho, i, stored, hl, ht, hf⟩ := hs.existing_some he
      have hsame := fromFile_sameReceipt hf
      have hi : existing.queueId = i := hsame.queueId.trans (hs.ids hl)
      by_cases hid : sameIdentity existing fresh = true
      · rw [if_pos hid] at ha hsound ⊢
        cases ha
        exact ⟨⟨hs, ho, stored, hi ▸ hl, ht, sameReceipt_fromFile hf⟩, hid⟩
      · rw [if_neg hid] at ha
        cases ha
    | none =>
      simp only [he] at ha hr hsound ⊢
      obtain ⟨createdAt, hres⟩ := reservedItem_eq w.queue fresh
      rw [hres] at ha hr hsound ⊢
      rcases storeReceipt_item ha with ⟨rfl, hw⟩ | ⟨hkey, hhost, hstate, hw⟩
      · have hput := (QueueStore.write_ok hw).1
        refine ⟨⟨hsound, QueueStore.catalog_of_write hs.keys hw _, { fresh with createdAt }, ?_, rfl,
          .refl _⟩, ?_⟩
        · rw [hput]
          exact Dict.lookup_set_self _ _ _
        · simp [sameIdentity]
      · have hready : fresh.state = .ready := by
          obtain ⟨fields, -, rfl⟩ := Receipt.newItem_fields hn
          rfl
        rw [← hw] at hr
        exact (QueueStore.not_read_of_quarantined he hready hkey hhost hstate createdAt hr).elim

/-- What a receipt asks for when an item it was stored as, or a later form of it, is there. -/
theorem QueueStore.Keeps.enqueueReceipt {w : QueueWorld} {fresh : QueueItem}
    (hk : QueueStore.Keeps P item (queueTag P fresh.idempotencyKey fresh.sourceHostId)
      fresh.queueId w.queue)
    (hn : again.newItem P = .ok fresh) (fault : WriteFault) :
    ∃ stored, w.queue.rows.lookup item.queueId = some ⟨stored, true⟩ ∧ item.SameReceipt stored ∧
      enqueueReceipt P again fault w = match stored.fromFile with
        | none => (w, .error (.queue "QUEUE_ITEM_CORRUPT"))
        | some existing =>
          if sameIdentity existing fresh then (w, .item existing)
          else (w, .error (.queue "QUEUE_IDEMPOTENCY_COLLISION")) := by
  obtain ⟨stored, hl, ht, hsame⟩ := hk.kept
  refine ⟨stored, hl, hsame, ?_⟩
  rw [ExternalIntelligence.enqueueReceipt, hn]
  simp only [hk.sound.existing_of_row hk.opens hl ht, QueueStore.read, hl]
  cases stored.fromFile <;> rfl

/-- A second receipt for the same event, body and capture asks for the same item. -/
theorem Receipt.newItem_again {receipt again : Receipt} (h : receipt.newItem P = .ok fresh)
    (h' : again.newItem P = .ok fresh') (hevent : again.event = receipt.event)
    (hpayload : again.payloadRef = receipt.payloadRef)
    (hcapture : again.captureId = receipt.captureId) :
    fresh.SameReceipt fresh' ∧ fresh.payloadRef = receipt.payloadRef ∧
      fresh'.payloadRef = receipt.payloadRef := by
  obtain ⟨fields, hf, rfl⟩ := Receipt.newItem_fields h
  obtain ⟨fields', hf', rfl⟩ := Receipt.newItem_fields h'
  rw [hevent, hf, Option.some.injEq] at hf'
  subst hf'
  exact ⟨⟨rfl, rfl, rfl, rfl, rfl, hcapture, rfl, .inl hpayload⟩, rfl, hpayload⟩

/-- An item with the identity of a receipt has that of a later form up to a cleared body. -/
theorem sameIdentity_later {fresh fresh' : QueueItem} (h : sameIdentity item fresh = true)
    (hsame : item.SameReceipt stored) (hagain : fresh.SameReceipt fresh')
    (hp : fresh'.payloadRef = fresh.payloadRef) :
    sameIdentity stored fresh' = true ↔ fresh.payloadRef = none ∨ stored.payloadRef ≠ none := by
  obtain ⟨hevent, hhash, hhost, hcapture, hpayload⟩ := (sameIdentity_iff item fresh).1 h
  rw [sameIdentity_iff, hsame.eventId, hsame.sourceHash, hsame.hostId, hsame.captureId,
    hagain.eventId, hagain.sourceHash, hagain.hostId, hagain.captureId, hp]
  simp only [hevent, hhash, hhost, hcapture, true_and]
  rcases hsame.payloadRef with hs | hs
  · rw [hs, hpayload]
    simp only [true_iff]
    exact em _
  · rw [hs]
    constructor
    · intro hnone
      exact .inl hnone.symm
    · rintro (hnone | hsome)
      · exact hnone.symm
      · exact absurd rfl hsome

/-- A receipt that was stored is answered with its item again, after any claims and transitions,
exactly while the item is readable and its body has not been cleaned up. -/
theorem enqueue_again_iff (P : Platform) (before work : List QueueAction) (receipt again : Receipt)
    (fault fault' : WriteFault) (item : QueueItem)
    (hanswer : (queueMachine P).output {} before (.enqueue receipt fault) = .item item)
    (hstored : ((queueMachine P).after {} (before ++ [.enqueue receipt fault])).queue.read
      item.queueId = .ok item)
    (hwork : ∀ a ∈ work, QueueAction.worker a = true)
    (hevent : again.event = receipt.event) (hpayload : again.payloadRef = receipt.payloadRef)
    (hcapture : again.captureId = receipt.captureId) :
    let w := (queueMachine P).after {} (before ++ .enqueue receipt fault :: work)
    (∃ existing, w.queue.read item.queueId = .ok existing ∧
        queueStep P w (.enqueue again fault') = (w, .item existing)) ↔
      (∃ fresh, again.newItem P = .ok fresh) ∧
        ∃ stored, w.queue.rows.lookup item.queueId = some ⟨stored, true⟩ ∧
          stored.readable = true ∧ (receipt.payloadRef = none ∨ stored.payloadRef ≠ none) := by
  intro w
  have hw : w = (queueMachine P).after
      ((queueMachine P).after {} (before ++ [.enqueue receipt fault])) work := by
    rw [← Machine.after_append, List.append_assoc, List.singleton_append]
  rw [Machine.output] at hanswer
  rw [Machine.after_concat] at hstored
  obtain ⟨fresh, hfresh⟩ : ∃ fresh, receipt.newItem P = .ok fresh := by
    cases hn : receipt.newItem P with
    | ok fresh => exact ⟨fresh, rfl⟩
    | error e => simp [queueMachine, queueStep, enqueueReceipt, hn] at hanswer
  obtain ⟨hkeeps, hid⟩ := enqueue_keeps (queueMachine_sound P before) hfresh hanswer hstored
  have hk : QueueStore.Keeps P item (queueTag P fresh.idempotencyKey fresh.sourceHostId)
      fresh.queueId w.queue := by
    rw [hw, Machine.after_concat]
    exact queueMachine_keeps hkeeps hwork
  cases hn : again.newItem P with
  | error e => simp [queueStep, enqueueReceipt, hn]
  | ok fresh' =>
    obtain ⟨hagain, hp, hp'⟩ := Receipt.newItem_again hfresh hn hevent hpayload hcapture
    rw [← hagain.idempotencyKey, ← hagain.sourceHostId, ← hagain.queueId] at hk
    obtain ⟨stored, hl, hsame, hq⟩ := hk.enqueueReceipt hn fault'
    have hstep : queueStep P w (.enqueue again fault') = enqueueReceipt P again fault' w := rfl
    simp only [hstep, hq, QueueStore.read, hl, Option.some.injEq, QueueRow.mk.injEq, and_true,
      exists_eq_left']
    cases hback : stored.fromFile with
    | none =>
      have hr := fromFile_eq_none hback
      simp [hr]
    | some existing =>
      have hr := fromFile_readable hback
      have hlater := sameIdentity_later hid (hsame.trans (fromFile_sameReceipt hback)) hagain
        (hp'.trans hp.symm)
      have hpay : existing.payloadRef = stored.payloadRef := by
        rw [(fromFile_eq hback).1]
      rw [hp, hpay] at hlater
      rw [← hlater]
      by_cases hsm : sameIdentity existing fresh' = true <;> simp [hr, hsm]

/-- A worker claims the sample item, finishes it, and its body is cleaned up. -/
def finishSampleItem : List QueueAction :=
  [.claim (sampleClaim "worker" 0) 64,
    .transition "DONE" (sampleArgs 0) (sampleClaimed "worker" 0), .run 0 true]

theorem sampleReceipt_stored :
    (queueMachine samplePlatform).output {} [] (.enqueue sampleReceipt .none) = .item sampleItem ∧
      ((queueMachine samplePlatform).after {} [.enqueue sampleReceipt .none]).queue.read
        sampleItem.queueId = .ok sampleItem := by
  decide +kernel

theorem finishSampleItem_worker : ∀ a ∈ finishSampleItem, QueueAction.worker a = true := by
  simp [finishSampleItem, QueueAction.worker]

theorem enqueue_again_iff_finished :
    let w := (queueMachine samplePlatform).after {}
      ([] ++ .enqueue sampleReceipt .none :: finishSampleItem)
    (∃ existing, w.queue.read sampleItem.queueId = .ok existing ∧
        queueStep samplePlatform w (.enqueue sampleReceipt .none) = (w, .item existing)) ↔
      (∃ fresh, sampleReceipt.newItem samplePlatform = .ok fresh) ∧
        ∃ stored, w.queue.rows.lookup sampleItem.queueId = some ⟨stored, true⟩ ∧
          stored.readable = true ∧
          (sampleReceipt.payloadRef = none ∨ stored.payloadRef ≠ none) :=
  enqueue_again_iff samplePlatform [] finishSampleItem sampleReceipt sampleReceipt .none .none
    sampleItem sampleReceipt_stored.1 sampleReceipt_stored.2 finishSampleItem_worker rfl rfl rfl

/-- A finished item does not answer its own receipt any more. -/
theorem finished_receipt_collides :
    (queueMachine samplePlatform).output {} [] (.enqueue sampleReceipt .none) =
        .item sampleItem ∧
      ((queueMachine samplePlatform).after {} [.enqueue sampleReceipt .none]).queue.read
        sampleItem.queueId = .ok sampleItem ∧
      (∀ a ∈ finishSampleItem, QueueAction.worker a = true) ∧
      (queueMachine samplePlatform).output {} (.enqueue sampleReceipt .none :: finishSampleItem)
        (.enqueue sampleReceipt .none) = .error (.queue "QUEUE_IDEMPOTENCY_COLLISION") := by
  refine ⟨sampleReceipt_stored.1, sampleReceipt_stored.2, finishSampleItem_worker, ?_⟩
  decide +kernel

end ExternalIntelligence
