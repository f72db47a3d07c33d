import ExternalIntelligence.EnqueueReplay
import ExternalIntelligence.StrandedWork

namespace ExternalIntelligence
set_option autoImplicit true

def Envelope.tag (P : Platform) (envelope : Envelope) : String :=
  queueTag P envelope.item.idempotencyKey envelope.item.sourceHostId

/-- What a recovery compares before it takes a stored item for the one in an envelope. -/
def QueueItem.Agrees (existing item : QueueItem) : Prop :=
  existing.eventId = item.eventId ∧ existing.sourceHash = item.sourceHash ∧
    existing.captureId = item.captureId ∧ existing.payloadRef = item.payloadRef

def QueueStore.HasItem (P : Platform) (s : QueueStore) (tag : String) : Prop :=
  ∃ i stored, s.rows.lookup i = some ⟨stored, true⟩ ∧ QueueStore.rowTag P ⟨stored, true⟩ = tag

/-- A reservation, if there is one, waits for the item a recovery of the envelope writes. -/
def QueueStore.Awaits (s : QueueStore) (settings : Settings) (envelope : Envelope) : Prop :=
  s.pending = [] ∨ s.pending = [envelope.item.queueId] ∧
    s.rows.lookup envelope.item.queueId = some ⟨envelope.item.preferring settings, false⟩

/-- The item that is stored under the tag of an envelope is readable and agrees with it. -/
def QueueStore.Accepts (P : Platform) (s : QueueStore) (envelope : Envelope) : Prop :=
  ∀ i stored, s.rows.lookup i = some ⟨stored, true⟩ →
    QueueStore.rowTag P ⟨stored, true⟩ = envelope.tag P →
    stored.readable = true ∧ stored.Agrees envelope.item

theorem QueueStore.catalog_awaits {s : QueueStore} (h : s.Awaits settings envelope) :
    s.catalog (some envelope.item.queueId) = .ok () := by
  rw [QueueStore.catalog]
  rcases h with hp | ⟨_, hl⟩
  · exact if_pos (.inl hp)
  · exact if_pos (.inr (by simp [QueueStore.reserved, hl]))

theorem QueueStore.mem_pending {s : QueueStore} :
    i ∈ s.pending ↔ ∃ item, (i, ⟨item, false⟩) ∈ s.rows := by
  simp only [QueueStore.pending, List.mem_map, List.mem_filter, Bool.not_eq_eq_eq_not,
    Bool.not_true]
  constructor
  · rintro ⟨⟨j, item, registered⟩, ⟨hm, rfl⟩, rfl⟩
    exact ⟨item, hm⟩
  · rintro ⟨item, hm⟩
    exact ⟨_, ⟨hm, rfl⟩, rfl⟩

/-- A tag without a registered row is free for the envelope that has it. -/
theorem QueueStore.existing_awaits {s : QueueStore} (hs : QueueStore.Sound P s)
    (h : s.Awaits settings envelope) (hn : ¬ s.HasItem P (envelope.tag P)) :
    s.existing P envelope.item.idempotencyKey envelope.item.sourceHostId envelope.item.queueId =
      .ok none := by
  have hpending : ∀ row ∈ s.rows, QueueStore.rowTag P row.2 = envelope.tag P →
      row.1 ∈ s.pending := by
    rintro ⟨i, item, registered⟩ hm ht
    rw [QueueStore.mem_pending]
    cases registered with
    | true => exact absurd ⟨i, item, Dict.lookup_of_mem hs.keys hm, ht⟩ hn
    | false => exact ⟨item, hm⟩
  rw [QueueStore.existing, QueueStore.catalog_awaits h]
  simp only [bind, Except.bind, QueueStore.findTag]
  rcases h with hp | ⟨hp, hl⟩
  · have hempty : (s.rows.filter fun row => QueueStore.rowTag P row.2 =
        queueTag P envelope.item.idempotencyKey envelope.item.sourceHostId) = [] := by
      rw [List.filter_eq_nil_iff]
      intro row hm ht
      have hin := hpending row hm (by simpa [Envelope.tag] using ht)
      rw [hp] at hin
      cases hin
    rw [hempty]
  · have ht : QueueStore.rowTag P ⟨envelope.item.preferring settings, false⟩ =
        queueTag P envelope.item.idempotencyKey envelope.item.sourceHostId := rfl
    rw [hs.filter_tag hl ht]
    simp [QueueStore.reserved, hl]

theorem QueueStore.write_awaits {s : QueueStore} (h : s.Awaits settings envelope) :
    s.write (envelope.item.preferring settings) .none =
      ({ s with
        rows := Dict.set envelope.item.queueId ⟨envelope.item.preferring settings, true⟩ s.rows },
        .ok ()) := by
  have hopen : s.catalog (some (envelope.item.preferring settings).queueId) = .ok () :=
    QueueStore.catalog_awaits h
  rw [QueueStore.write, hopen]
  have hid : (envelope.item.preferring settings).queueId = envelope.item.queueId := rfl
  rcases h with hp | ⟨hp, hl⟩
  · have hres : s.reserved envelope.item.queueId = false := by
      rw [QueueStore.reserved]
      cases hl : s.rows.lookup envelope.item.queueId with
      | none => rfl
      | some row =>
        obtain ⟨item, registered⟩ := row
        cases registered with
        | true => rfl
        | false =>
          have hin := QueueStore.mem_pending.2 ⟨item, Dict.mem_of_lookup hl⟩
          rw [hp] at hin
          cases hin
    simp [hid, hp, hres]
  · simp [hid, hp, hl]

theorem QueueStore.pending_put {s : QueueStore} (hk : (Dict.keys s.rows).Nodup)
    (hp : ∀ j ∈ s.pending, j = i) :
    QueueStore.pending { s with rows := Dict.set i ⟨item, true⟩ s.rows } = [] := by
  rw [List.eq_nil_iff_forall_not_mem]
  intro j hj
  obtain ⟨item', hm⟩ := QueueStore.mem_pending.1 hj
  rcases (Dict.mem_set hk).1 hm with ⟨_, he⟩ | ⟨hne, hm⟩
  · cases he
  · exact hne (hp j (QueueStore.mem_pending.2 ⟨item', hm⟩))

/-- An envelope whose tag is free, or taken by an item that agrees with it, is recovered. -/
theorem recoverEnvelope_ok {s : QueueStore} (hs : QueueStore.Sound P s)
    (hf : envelope.item.fromFile = some envelope.item) (hm : moment < envelope.expiresAt)
    (ha : s.Awaits settings envelope) (hc : s.Accepts P envelope) :
    ∃ found, (recoverEnvelope P settings moment envelope s).2 = .ok found ∧
      ((s.HasItem P (envelope.tag P) ∧ s.pending = [] ∧
          (recoverEnvelope P settings moment envelope s).1 = s) ∨
        (recoverEnvelope P settings moment envelope s).1 = { s with
          rows := Dict.set envelope.item.queueId ⟨envelope.item.preferring settings, true⟩
            s.rows }) := by
  rw [recoverEnvelope, hf]
  simp only [if_neg (not_le.2 hm)]
  by_cases hitem : s.HasItem P (envelope.tag P)
  · obtain ⟨i, stored, hl, ht⟩ := hitem
    obtain ⟨hr, hagrees⟩ := hc i stored hl ht
    have hp : s.pending = [] := by
      rcases ha with hp | ⟨_, hres⟩
      · exact hp
      · have hi := hs.tags hl hres ht
        rw [hi, hres] at hl
        cases hl
    have hback : ∃ back, stored.fromFile = some back ∧ back.Agrees envelope.item := by
      cases hf' : stored.fromFile with
      | none => simp [fromFile_eq_none hf'] at hr
      | some back =>
        have hsame := sameReceipt_fromFile hf'
        have hpay : back.payloadRef = stored.payloadRef := by
          rw [(fromFile_eq hf').1]
        refine ⟨back, rfl, ?_⟩
        rw [QueueItem.Agrees, ← hsame.eventId, ← hsame.sourceHash, ← hsame.captureId, hpay]
        exact hagrees
    obtain ⟨back, hf', hb⟩ := hback
    rw [QueueItem.Agrees] at hb
    have hread : s.read i = .ok back := QueueStore.read_eq_ok_iff.2 ⟨stored, hl, hf'⟩
    rw [hs.existing_of_row (QueueStore.catalog_awaits ha) hl ht, hread]
    refine ⟨some back, ?_⟩
    simp only [Except.map]
    rw [if_pos hb]
    exact ⟨rfl, .inl ⟨⟨i, stored, hl, ht⟩, hp, rfl⟩⟩
  · rw [QueueStore.existing_awaits hs ha hitem]
    simp only [QueueStore.write_awaits ha]
    exact ⟨_, rfl, .inr trivial⟩

/-- An envelope a recovery at the moment does not delete unread. -/
def EmergencyStore.Due (s : EmergencyStore) (moment : Int) (id : String) (envelope : Envelope) :
    Prop :=
  s.rows.lookup id = some envelope ∧ moment < envelope.expiresAt

/-- The first envelope of a page that a recovery puts into the queue. -/
def EmergencyStore.firstDue (s : EmergencyStore) (moment : Int) (ids : List String) :
    Option Envelope :=
  (ids.filterMap fun id => s.rows.lookup id).find? fun envelope => moment < envelope.expiresAt

structure EmergencyStore.Valid (s : EmergencyStore) : Prop where
  keys : (Dict.keys s.rows).Nodup
  items : ∀ row ∈ s.rows, row.2.item.fromFile = some row.2.item

/-- No envelope of the page stops a recovery. -/
structure Passing (P : Platform) (settings : Settings) (moment : Int) (w : QueueWorld)
    (ids : List String) : Prop where
  sound : QueueStore.Sound P w.queue
  valid : w.emergency.Valid
  nodup : ids.Nodup
  present : ∀ id ∈ ids, ∃ envelope, w.emergency.rows.lookup id = some envelope
  accepts : ∀ id ∈ ids, ∀ envelope, w.emergency.Due moment id envelope →
    w.queue.Accepts P envelope
  distinct : ∀ id ∈ ids, ∀ id' ∈ ids, ∀ envelope envelope', w.emergency.Due moment id envelope →
    w.emergency.Due moment id' envelope' → envelope.tag P = envelope'.tag P → id = id'
  awaits : ∀ envelope, w.emergency.firstDue moment ids = some envelope →
    w.queue.Awaits settings envelope

/-- The world after an envelope was taken out of the emergency store. -/
def QueueWorld.taken (w : QueueWorld) (queue : QueueStore) (id : String) : QueueWorld :=
  { w with
    queue
    emergency := { rows := w.emergency.rows.filter fun row => row.1 ≠ id, cursor := id } }

/-- Every registered row is an old one, or lies where an envelope of its tag was put. -/
def RowsFrom (P : Platform) (w : QueueWorld) (s : QueueStore) : Prop :=
  ∀ i stored, s.rows.lookup i = some ⟨stored, true⟩ →
    w.queue.rows.lookup i = some ⟨stored, true⟩ ∨
      ∃ row ∈ w.emergency.rows, i = row.2.item.queueId ∧
        QueueStore.rowTag P ⟨stored, true⟩ = row.2.tag P

theorem EmergencyStore.Valid.filter {s : EmergencyStore} (h : s.Valid) (f : String × Envelope → Bool)
    (cursor : String) : EmergencyStore.Valid { rows := s.rows.filter f, cursor } :=
  ⟨Dict.keys_filter_nodup h.keys f, fun row hm => h.items row (List.mem_of_mem_filter hm)⟩

theorem firstDue_cons (s : EmergencyStore) (hl : s.rows.lookup name = some envelope) :
    s.firstDue moment (name :: ids) =
      if moment < envelope.expiresAt then some envelope else s.firstDue moment ids := by
  rw [EmergencyStore.firstDue, List.filterMap_cons, hl]
  by_cases hm : moment < envelope.expiresAt
  · simp [hm]
  · simp [hm, EmergencyStore.firstDue]

theorem firstDue_taken {w : QueueWorld} (hn : name ∉ ids) :
    (w.taken queue name).emergency.firstDue moment ids = w.emergency.firstDue moment ids := by
  have hlookup : ids.filterMap (fun j => (w.taken queue name).emergency.rows.lookup j) =
      ids.filterMap fun j => w.emergency.rows.lookup j := by
    apply List.filterMap_congr
    intro j hj
    have hne : j ≠ name := fun he => hn (he ▸ hj)
    exact Dict.lookup_filter_ne hne _
  rw [EmergencyStore.firstDue, hlookup]
  rfl

theorem Due.of_taken {w : QueueWorld}
    (h : (w.taken queue name).emergency.Due moment j envelope) :
    j ≠ name ∧ w.emergency.Due moment j envelope := by
  have hne : j ≠ name := by
    have hm := Dict.mem_of_lookup h.1
    simpa using (List.mem_filter.1 hm).2
  exact ⟨hne, (Dict.lookup_filter_ne hne _).symm.trans h.1, h.2⟩

theorem Passing.taken (h : Passing P settings moment w (name :: ids))
    (hsound : QueueStore.Sound P queue)
    (haccepts : ∀ j ∈ ids, ∀ envelope, w.emergency.Due moment j envelope →
      queue.Accepts P envelope)
    (hawaits : ∀ envelope, w.emergency.firstDue moment ids = some envelope →
      queue.Awaits settings envelope) :
    Passing P settings moment (w.taken queue name) ids := by
  obtain ⟨hn, hnodup⟩ := List.nodup_cons.1 h.nodup
  refine ⟨hsound, h.valid.filter _ _, hnodup, ?_, ?_, ?_, ?_⟩
  · intro j hj
    obtain ⟨envelope, hl⟩ := h.present j (List.mem_cons_of_mem _ hj)
    have hne : j ≠ name := fun he => hn (he ▸ hj)
    exact ⟨envelope, (Dict.lookup_filter_ne hne _).trans hl⟩
  · intro j hj envelope hdue
    exact haccepts j hj envelope (Due.of_taken hdue).2
  · intro j hj j' hj' envelope envelope' hdue hdue' ht
    exact h.distinct j (List.mem_cons_of_mem _ hj) j' (List.mem_cons_of_mem _ hj') envelope
      envelope' (Due.of_taken hdue).2 (Due.of_taken hdue').2 ht
  · intro envelope hfirst
    rw [firstDue_taken hn] at hfirst
    exact hawaits envelope hfirst

/-- A page that nothing stops is recovered one envelope at a time. -/
theorem Passing.step (h : Passing P settings moment w (name :: ids))
    (hl : w.emergency.rows.lookup name = some envelope) :
    ∃ queue found, recoverEnvelope P settings moment envelope w.queue = (queue, .ok found) ∧
      Passing P settings moment (w.taken queue name) ids ∧ RowsFrom P w queue ∧
      (moment < envelope.expiresAt → queue.HasItem P (envelope.tag P)) := by
  have hmem := Dict.mem_of_lookup hl
  have hvalid : envelope.item.fromFile = some envelope.item := h.valid.items _ hmem
  by_cases hm : moment < envelope.expiresAt
  · have hdue : w.emergency.Due moment name envelope := ⟨hl, hm⟩
    have hawait : w.queue.Awaits settings envelope :=
      h.awaits envelope ((firstDue_cons _ hl).trans (if_pos hm))
    obtain ⟨found, hok, hcase⟩ := recoverEnvelope_ok h.sound hvalid hm hawait
      (h.accepts name List.mem_cons_self envelope hdue)
    have hsound : QueueStore.Sound P (recoverEnvelope P settings moment envelope w.queue).1 := by
      have hc : QueueChanges P w (.recover settings moment 0) w.queue
          (recoverEnvelope P settings moment envelope w.queue).1 :=
        recoverEnvelope_changes (List.mem_map.2 ⟨_, hmem, rfl⟩) w.queue
      exact hc.invariant (fun _ _ hq => hq.sound) h.sound
    refine ⟨(recoverEnvelope P settings moment envelope w.queue).1, found, Prod.ext rfl hok, ?_⟩
    rcases hcase with ⟨hitem, hp, he⟩ | he
    · rw [he]
      refine ⟨h.taken h.sound ?_ fun _ _ => .inl hp, fun i stored hi => .inl hi, fun _ => hitem⟩
      intro j hj envelope' hdue'
      exact h.accepts j (List.mem_cons_of_mem _ hj) envelope' hdue'
    · rw [he] at hsound ⊢
      have hpending : ∀ j ∈ w.queue.pending, j = envelope.item.queueId := by
        rcases hawait with hp | ⟨hp, _⟩ <;> simp [hp]
      refine ⟨h.taken hsound ?_ fun _ _ => .inl (QueueStore.pending_put h.sound.keys hpending),
        ?_, fun _ => ⟨envelope.item.queueId, _, Dict.lookup_set_self _ _ _, rfl⟩⟩
      · intro j hj envelope' hdue' i stored hi ht
        rw [Dict.lookup_set] at hi
        split at hi
        · cases hi
          have hj' := h.distinct name List.mem_cons_self j (List.mem_cons_of_mem _ hj) envelope
            envelope' hdue hdue' ht
          exact absurd (hj' ▸ hj) (List.nodup_cons.1 h.nodup).1
        · exact h.accepts j (List.mem_cons_of_mem _ hj) envelope' hdue' i stored hi ht
      · intro i stored hi
        rw [Dict.lookup_set] at hi
        split at hi
        · rename_i hid
          cases hi
          exact .inr ⟨_, hmem, hid.symm, rfl⟩
        · exact .inl hi
  · have hskip : recoverEnvelope P settings moment envelope w.queue = (w.queue, .ok none) := by
      rw [recoverEnvelope, hvalid]
      exact if_pos (not_lt.1 hm)
    refine ⟨w.queue, none, hskip, h.taken h.sound ?_ ?_, fun i stored hi => .inl hi,
      fun hlt => absurd hlt hm⟩
    · intro j hj envelope' hdue'
      exact h.accepts j (List.mem_cons_of_mem _ hj) envelope' hdue'
    · intro envelope' hfirst
      refine h.awaits envelope' ?_
      rw [firstDue_cons _ hl, if_neg hm]
      exact hfirst

theorem RowsFrom.trans {w v : QueueWorld} (h : RowsFrom P w v.queue)
    (hsub : ∀ row ∈ v.emergency.rows, row ∈ w.emergency.rows) (h' : RowsFrom P v s) :
    RowsFrom P w s := by
  intro i stored hi
  rcases h' i stored hi with hold | ⟨row, hm, he⟩
  · exact h i stored hold
  · exact .inr ⟨row, hsub row hm, he⟩

/-- A page that nothing stops is recovered to its end. -/
theorem Passing.page (h : Passing P settings moment w (ids ++ more)) :
    ∃ v, (∀ rest recovered, ∃ recovered', recoverPage P settings moment (ids ++ rest) w recovered =
        recoverPage P settings moment rest v recovered') ∧
      Passing P settings moment v more ∧
      v.emergency.rows = (w.emergency.rows.filter fun row => row.1 ∉ ids) ∧
      RowsFrom P w v.queue := by
  induction ids generalizing w with
  | nil => exact ⟨w, fun rest recovered => ⟨recovered, rfl⟩, h, by simp, fun i stored hi => .inl hi⟩
  | cons name ids ih =>
    obtain ⟨envelope, hl⟩ := h.present name List.mem_cons_self
    obtain ⟨queue, found, hstep, hnext, hrows, -⟩ := h.step hl
    obtain ⟨v, hpage, hmore, hkept, hfrom⟩ := ih hnext
    have hfrom' : RowsFrom P w v.queue :=
      RowsFrom.trans (v := w.taken queue name) hrows (fun _ hm => List.mem_of_mem_filter hm) hfrom
    refine ⟨v, ?_, hmore, ?_, hfrom'⟩
    · intro rest recovered
      obtain ⟨recovered', hr⟩ := hpage rest (recovered ++ found.toList)
      refine ⟨recovered', ?_⟩
      rw [List.cons_append, recoverPage, hl]
      simp only [hstep]
      exact hr
    · rw [hkept]
      simp only [QueueWorld.taken, List.filter_filter]
      apply List.filter_congr
      intro row _
      simp [Bool.and_comm]

/-- Whether an envelope of a tag is due. -/
def EmergencyStore.dueTag (P : Platform) (s : EmergencyStore) (moment : Int) (tag : String)
    (id : String) : Bool :=
  (s.rows.lookup id).any fun envelope => moment < envelope.expiresAt && envelope.tag P == tag

/-- The part of a page before the first envelope of a tag that is due. -/
def EmergencyStore.ahead (P : Platform) (s : EmergencyStore) (moment : Int) (limit : Nat)
    (tag : String) : List String :=
  (s.page limit).takeWhile fun id => !s.dueTag P moment tag id

/-- The page up to the first envelope of a tag that is due. -/
def EmergencyStore.visited (P : Platform) (s : EmergencyStore) (moment : Int) (limit : Nat)
    (tag : String) : List String :=
  (s.page limit).take ((s.ahead P moment limit tag).length + 1)

/-- What a recovery call needs to get to the envelopes of a tag: the ones before agree with the
queue and not two of them are of one tag, a reservation waits for the first one that is due, and
a queue id is of one tag. -/
structure Unblocked (P : Platform) (w : QueueWorld) (settings : Settings) (moment : Int)
    (limit : Nat) (tag : String) : Prop where
  accepts : ∀ id ∈ w.emergency.ahead P moment limit tag, ∀ envelope,
    w.emergency.Due moment id envelope → w.queue.Accepts P envelope
  distinct : ∀ id ∈ w.emergency.ahead P moment limit tag,
    ∀ id' ∈ w.emergency.ahead P moment limit tag, ∀ envelope envelope',
    w.emergency.Due moment id envelope → w.emergency.Due moment id' envelope' →
    envelope.tag P = envelope'.tag P → id = id'
  awaits : ∀ envelope,
    w.emergency.firstDue moment (w.emergency.visited P moment limit tag) = some envelope →
    w.queue.Awaits settings envelope
  owners : ∀ row ∈ w.emergency.rows, ∀ row' ∈ w.emergency.rows,
    row.2.item.queueId = row'.2.item.queueId → row.2.tag P = row'.2.tag P

/-- The registered row of a tag lies where only envelopes of the tag are put. -/
def QueueWorld.Owned (P : Platform) (w : QueueWorld) (tag : String) : Prop :=
  ∃ i stored, w.queue.rows.lookup i = some ⟨stored, true⟩ ∧
    QueueStore.rowTag P ⟨stored, true⟩ = tag ∧
    ∀ row ∈ w.emergency.rows, row.2.item.queueId = i → row.2.tag P = tag

theorem recoverEnvelope_cases (P : Platform) (settings : Settings) (moment : Int)
    (envelope : Envelope) (s : QueueStore) :
    (recoverEnvelope P settings moment envelope s).1 = s ∨
      ∃ item, envelope.item.fromFile = some item ∧
        (recoverEnvelope P settings moment envelope s).1 =
          { s with rows := Dict.set item.queueId ⟨item.preferring settings, true⟩ s.rows } := by
  rw [recoverEnvelope]
  split
  · exact .inl rfl
  · rename_i item hf
    split
    · exact .inl rfl
    · split
      · exact .inl rfl
      · split <;> exact .inl rfl
      · rcases s.write_cases (item.preferring settings) with ⟨e, he⟩ | he
        · rw [he]
          exact .inl rfl
        · rw [he]
          exact .inr ⟨item, hf, rfl⟩

theorem QueueWorld.Owned.put {w : QueueWorld} (h : w.Owned P tag)
    (hm : (name, envelope) ∈ w.emergency.rows) (settings : Settings) (moment : Int)
    (emergency : EmergencyStore) (hsub : ∀ row ∈ emergency.rows, row ∈ w.emergency.rows) :
    QueueWorld.Owned P { w with
      queue := (recoverEnvelope P settings moment envelope w.queue).1, emergency } tag := by
  obtain ⟨i, stored, hl, ht, howned⟩ := h
  rcases recoverEnvelope_cases P settings moment envelope w.queue with he | ⟨item, hf, he⟩
  · rw [he]
    exact ⟨i, stored, hl, ht, fun row hrow => howned row (hsub row hrow)⟩
  · rw [he]
    have hsame := fromFile_sameReceipt hf
    by_cases hi : item.queueId = i
    · refine ⟨i, item.preferring settings, ?_, ?_, fun row hrow => howned row (hsub row hrow)⟩
      · simp only [hi, Dict.lookup_set_self]
      · have hown := howned _ hm (hsame.queueId.symm.trans hi)
        rw [← hown, Envelope.tag, ← hsame.idempotencyKey, ← hsame.sourceHostId]
        rfl
    · refine ⟨i, stored, ?_, ht, fun row hrow => howned row (hsub row hrow)⟩
      simp only [Dict.lookup_set_of_ne hi]
      exact hl

theorem QueueWorld.Owned.page {w : QueueWorld} (h : w.Owned P tag) (settings : Settings)
    (moment : Int) (ids : List String) (recovered : List QueueItem) :
    QueueWorld.Owned P (recoverPage P settings moment ids w recovered).1 tag := by
  induction ids generalizing w recovered with
  | nil => exact h
  | cons name ids ih =>
    rw [recoverPage]
    split
    · exact h
    · rename_i envelope hl
      have hm := Dict.mem_of_lookup hl
      split
      · rename_i he
        have hput := h.put hm settings moment w.emergency fun _ hrow => hrow
        rw [he] at hput
        exact hput
      · rename_i queue found he
        apply ih
        have hput := h.put hm settings moment
          { rows := w.emergency.rows.filter fun row => row.1 ≠ name, cursor := name }
          fun _ hrow => List.mem_of_mem_filter hrow
        rw [he] at hput
        exact hput

theorem pageIds_sublist (ids : List String) (cursor : String) (limit : Nat) :
    (pageIds ids cursor limit).Sublist (ids.insertionSort (· ≤ ·)) := by
  rw [pageIds]
  split
  · exact List.take_sublist _ _
  · exact (List.take_sublist _ _).trans List.filter_sublist

theorem pageIds_nodup (h : ids.Nodup) (cursor : String) (limit : Nat) :
    (pageIds ids cursor limit).Nodup :=
  (((List.perm_insertionSort _ ids).nodup_iff).2 h).sublist (pageIds_sublist ids cursor limit)

theorem mem_of_mem_pageIds (h : i ∈ pageIds ids cursor limit) : i ∈ ids :=
  (List.perm_insertionSort _ ids).mem_iff.1 ((pageIds_sublist ids cursor limit).subset h)

theorem pageIds_ne_nil (h : ids ≠ []) (cursor : String) (hlimit : 0 < limit) :
    pageIds ids cursor limit ≠ [] := by
  have hsorted : ids.insertionSort (· ≤ ·) ≠ [] := by
    intro he
    have hlen := (List.perm_insertionSort (· ≤ ·) ids).length_eq
    rw [he, List.length_nil, eq_comm, List.length_eq_zero_iff] at hlen
    exact h hlen
  rw [pageIds]
  simp only [ne_eq, List.take_eq_nil_iff, not_or]
  refine ⟨hlimit.ne', ?_⟩
  split
  · exact hsorted
  · rename_i hlater
    simpa using hlater

theorem dueTag_iff {s : EmergencyStore} : s.dueTag P moment tag i = true ↔
    ∃ envelope, s.Due moment i envelope ∧ envelope.tag P = tag := by
  rw [EmergencyStore.dueTag]
  cases hl : s.rows.lookup i <;> simp [EmergencyStore.Due, hl]

/-- A page is the part before the first due envelope of a tag, and that one if it is there. -/
theorem visited_cases (P : Platform) (s : EmergencyStore) (moment : Int) (limit : Nat)
    (tag : String) :
    (s.visited P moment limit tag = s.ahead P moment limit tag ∧
        s.page limit = s.ahead P moment limit tag) ∨
      ∃ i rest envelope, s.visited P moment limit tag = s.ahead P moment limit tag ++ [i] ∧
        s.page limit = s.ahead P moment limit tag ++ i :: rest ∧
        s.Due moment i envelope ∧ envelope.tag P = tag := by
  have hsplit : s.page limit = s.ahead P moment limit tag ++
      (s.page limit).dropWhile fun id => !s.dueTag P moment tag id :=
    (List.takeWhile_append_dropWhile).symm
  cases hd : (s.page limit).dropWhile fun id => !s.dueTag P moment tag id with
  | nil =>
    rw [hd, List.append_nil] at hsplit
    refine .inl ⟨?_, hsplit⟩
    rw [EmergencyStore.visited, hsplit]
    exact List.take_of_length_le (Nat.le_succ _)
  | cons i rest =>
    rw [hd] at hsplit
    have hhead := List.head_dropWhile_not (fun id => !s.dueTag P moment tag id)
      (hd ▸ List.cons_ne_nil i rest)
    simp only [hd, List.head_cons, Bool.not_eq_eq_eq_not, Bool.not_false] at hhead
    obtain ⟨envelope, hdue, ht⟩ := dueTag_iff.1 hhead
    refine .inr ⟨i, rest, envelope, ?_, hsplit, hdue, ht⟩
    rw [EmergencyStore.visited, hsplit, List.take_append]
    simp

theorem Unblocked.passing (h : Unblocked P w settings moment limit tag)
    (hs : QueueStore.Sound P w.queue) (hv : w.emergency.Valid) (hn : ¬ w.queue.HasItem P tag) :
    Passing P settings moment w (w.emergency.visited P moment limit tag) := by
  have hahead : ∀ id ∈ w.emergency.ahead P moment limit tag, ∀ envelope,
      w.emergency.Due moment id envelope → envelope.tag P ≠ tag := by
    intro id hid envelope hdue ht
    have hnot := List.mem_takeWhile_imp hid
    rw [dueTag_iff.2 ⟨envelope, hdue, ht⟩] at hnot
    cases hnot
  obtain ⟨last, hmem⟩ : ∃ last, ∀ id ∈ w.emergency.visited P moment limit tag,
      id ∈ w.emergency.ahead P moment limit tag ∨
        id = last ∧ ∀ envelope, w.emergency.Due moment id envelope → envelope.tag P = tag := by
    rcases visited_cases P w.emergency moment limit tag with
      ⟨hvis, _⟩ | ⟨i, rest, envelope, hvis, _, hdue, ht⟩
    · exact ⟨"", fun id hid => .inl (hvis ▸ hid)⟩
    · refine ⟨i, fun id hid => ?_⟩
      rw [hvis, List.mem_append, List.mem_singleton] at hid
      rcases hid with hid | rfl
      · exact .inl hid
      · refine .inr ⟨rfl, fun envelope' hdue' => ?_⟩
        cases hdue.1.symm.trans hdue'.1
        exact ht
  have hnodup : (w.emergency.page limit).Nodup := pageIds_nodup hv.keys _ _
  refine ⟨hs, hv, hnodup.sublist (List.take_sublist _ _), ?_, ?_, ?_, h.awaits⟩
  · intro id hid
    have hkey := mem_of_mem_pageIds (List.mem_of_mem_take hid)
    exact Option.isSome_iff_exists.1 (Dict.lookup_isSome_iff.2 hkey)
  · intro id hid envelope hdue
    rcases hmem id hid with hid | ⟨_, htag⟩
    · exact h.accepts id hid envelope hdue
    · intro i stored hl ht
      exact absurd ⟨i, stored, hl, ht.trans (htag envelope hdue)⟩ hn
  · intro id hid id' hid' envelope envelope' hdue hdue' ht
    rcases hmem id hid with hid₁ | ⟨he, htag⟩
    · rcases hmem id' hid' with hid₂ | ⟨_, htag'⟩
      · exact h.distinct id hid₁ id' hid₂ envelope envelope' hdue hdue' ht
      · exact absurd (ht.trans (htag' envelope' hdue')) (hahead id hid₁ envelope hdue)
    · rcases hmem id' hid' with hid₂ | ⟨he', _⟩
      · exact absurd (ht.symm.trans (htag envelope hdue)) (hahead id' hid₂ envelope' hdue')
      · exact he.trans he'.symm

/-- A registered row of a tag that was not there before is owned by the tag. -/
theorem RowsFrom.owned {w v : QueueWorld} (h : RowsFrom P w v.queue)
    (hn : ¬ w.queue.HasItem P tag)
    (howners : ∀ row ∈ w.emergency.rows, ∀ row' ∈ w.emergency.rows,
      row.2.item.queueId = row'.2.item.queueId → row.2.tag P = row'.2.tag P)
    (hsub : ∀ row ∈ v.emergency.rows, row ∈ w.emergency.rows) (hitem : v.queue.HasItem P tag) :
    v.Owned P tag := by
  obtain ⟨i, stored, hl, ht⟩ := hitem
  rcases h i stored hl with hold | ⟨row, hm, hi, he⟩
  · exact absurd ⟨i, stored, hold, ht⟩ hn
  · refine ⟨i, stored, hl, ht, fun row' hm' hi' => ?_⟩
    rw [howners row' (hsub row' hm') row hm (hi'.trans hi), ← he, ht]

/-- A recovery call that is not blocked puts the tag into the queue, or its page is recovered
without a due envelope of the tag in it. -/
theorem Unblocked.recovers (h : Unblocked P w settings moment limit tag)
    (hs : QueueStore.Sound P w.queue) (hv : w.emergency.Valid) (hn : ¬ w.queue.HasItem P tag) :
    QueueWorld.Owned P (recoverEmergencySpool P settings moment limit w).1 tag ∨
      (¬ QueueStore.HasItem P (recoverEmergencySpool P settings moment limit w).1.queue tag ∧
        (recoverEmergencySpool P settings moment limit w).1.emergency.rows =
          (w.emergency.rows.filter fun row => row.1 ∉ w.emergency.page limit) ∧
        ∀ id ∈ w.emergency.page limit, ∀ envelope, w.emergency.Due moment id envelope →
          envelope.tag P ≠ tag) := by
  have hp := h.passing hs hv hn
  rw [recoverEmergencySpool]
  rcases visited_cases P w.emergency moment limit tag with
    ⟨hvis, hpage⟩ | ⟨i, rest, envelope, hvis, hpage, hdue, ht⟩
  · rw [hvis, ← hpage, ← List.append_nil (w.emergency.page limit)] at hp
    obtain ⟨v, hrun, -, hrows, hfrom⟩ := hp.page
    obtain ⟨recovered, hr⟩ := hrun [] []
    rw [List.append_nil] at hr
    simp only [hr, recoverPage]
    by_cases hitem : v.queue.HasItem P tag
    · refine .inl (hfrom.owned hn h.owners (fun row hm => ?_) hitem)
      rw [hrows] at hm
      exact List.mem_of_mem_filter hm
    · refine .inr ⟨hitem, hrows, fun id hid envelope hdue ht => ?_⟩
      rw [hpage] at hid
      have hnot := List.mem_takeWhile_imp hid
      rw [dueTag_iff.2 ⟨envelope, hdue, ht⟩] at hnot
      cases hnot
  · rw [hvis] at hp
    obtain ⟨v, hrun, hmore, hrows, hfrom⟩ := hp.page
    have hsub : ∀ row ∈ v.emergency.rows, row ∈ w.emergency.rows := by
      intro row hm
      rw [hrows] at hm
      exact List.mem_of_mem_filter hm
    obtain ⟨envelope', hl⟩ := hmore.present i List.mem_cons_self
    cases hdue.1.symm.trans (Dict.lookup_of_mem hv.keys (hsub _ (Dict.mem_of_lookup hl)))
    obtain ⟨queue, found, hstep, -, hrows', hitem⟩ := hmore.step hl
    obtain ⟨recovered, hr⟩ := hrun (i :: rest) []
    have howned : (v.taken queue i).Owned P tag := by
      have hfrom' : RowsFrom P w (v.taken queue i).queue := hfrom.trans hsub hrows'
      refine hfrom'.owned hn h.owners (fun row hm => hsub row (List.mem_of_mem_filter hm)) ?_
      exact ht ▸ hitem hdue.2
    left
    rw [hpage, hr, recoverPage, hl]
    simp only [hstep]
    exact howned.page settings moment rest _

theorem reservedItem_fromFile {receipt : Receipt} (h : receipt.newItem P = .ok item)
    (s : QueueStore) : (reservedItem s item).fromFile = some (reservedItem s item) := by
  obtain ⟨hr, hready⟩ := Receipt.newItem_readable h
  obtain ⟨createdAt, he⟩ := reservedItem_eq s item
  have hr' : ({ item with createdAt } : QueueItem).readable = true := by
    unfold QueueItem.readable validateQueueItem at hr ⊢
    exact hr
  rw [he]
  exact fromFile_eq_self hr' (by simp [hready])

theorem writeEmergencyEnvelope_valid {s : EmergencyStore} (h : s.Valid)
    (hf : item.fromFile = some item) :
    (writeEmergencyEnvelope P settings item reason now s).1.Valid := by
  rw [writeEmergencyEnvelope]
  simp only []
  split
  · split <;> exact h
  · rename_i hl
    split
    · exact h
    · refine ⟨?_, ?_⟩
      · simp only [Dict.keys, List.map_append, List.map_cons, List.map_nil]
        refine List.nodup_append.2 ⟨h.keys, List.nodup_singleton _, ?_⟩
        intro a ha b hb he
        rw [List.mem_singleton] at hb
        rw [he, hb] at ha
        exact Dict.lookup_eq_none_iff.1 hl ha
      · intro row hm
        rcases List.mem_append.1 hm with hm | hm
        · exact h.items row hm
        · rw [List.mem_singleton] at hm
          rw [hm]
          exact hf

theorem storeReceipt_valid {w : QueueWorld} (h : w.emergency.Valid)
    (hf : item.fromFile = some item) :
    (storeReceipt P receipt item fault w).1.emergency.Valid := by
  rw [storeReceipt]
  split
  · exact h
  · exact h
  · exact h
  · split
    all_goals
      rename_i he
      have hv : (writeEmergencyEnvelope P receipt.settings item "QUEUE_WRITE_FAILED" receipt.now
          w.emergency).1.Valid := writeEmergencyEnvelope_valid h hf
      rw [he] at hv
      exact hv

theorem recoverPage_valid {w : QueueWorld} (h : w.emergency.Valid) (ids : List String)
    (recovered : List QueueItem) :
    (recoverPage P settings moment ids w recovered).1.emergency.Valid := by
  induction ids generalizing w recovered with
  | nil => exact h
  | cons name ids ih =>
    rw [recoverPage]
    split
    · exact h
    · split
      · exact h
      · exact ih (h.filter _ _) _

theorem queueStep_valid {w : QueueWorld} (h : w.emergency.Valid) (a : QueueAction) :
    (queueStep P w a).1.emergency.Valid := by
  cases a with
  | enqueue receipt fault =>
    rw [queueStep, enqueueReceipt]
    split
    · exact h
    · rename_i item hn
      split
      · exact h
      · split <;> exact h
      · exact storeReceipt_valid h (reservedItem_fromFile hn w.queue)
  | claim call limit =>
    rw [queueStep, claimQueueItem, afterScan_emergency]
    exact h
  | transition state args item =>
    rw [queueStep]
    split
    · exact h
    · rw [transitionQueueItem]
      split
      · exact h
      · split <;> exact h
  | attach item ref =>
    rw [queueStep]
    split <;> exact h
  | run index deleted =>
    rw [queueStep]
    split
    · exact h
    · rw [runSection_emergency]
      exact h
  | abandon index => exact h
  | recover settings moment limit => exact recoverPage_valid h _ _

theorem queueMachine_valid (P : Platform) (run : List QueueAction) :
    ((queueMachine P).after {} run).emergency.Valid := by
  apply (queueMachine P).invariant (I := fun w => w.emergency.Valid)
  · intro w a h
    exact queueStep_valid h a
  · exact ⟨List.nodup_nil, by simp⟩

/-- A recovery call before an envelope expires, not blocked on the way to it. -/
def Recovers (P : Platform) (envelope : Envelope) (w : QueueWorld) : QueueAction → Prop
  | .recover settings moment limit => 0 < limit ∧ moment < envelope.expiresAt ∧
      Unblocked P w settings moment limit (envelope.tag P)
  | _ => False

theorem Owned.after {w : QueueWorld} (h : w.Owned P tag)
    (hcalls : (queueMachine P).Guarded (Recovers P envelope) w calls) :
    ((queueMachine P).after w calls).Owned P tag := by
  refine Machine.guarded_invariant (queueMachine P) (I := fun w => w.Owned P tag) ?_ h hcalls
  intro v a hv ha
  cases a with
  | recover settings moment limit => exact hv.page settings moment _ []
  | _ => exact absurd ha id

/-- Recovery calls in a row put the tag of an envelope into the queue after at most as many calls
as there are envelopes. -/
theorem recovers_after {w : QueueWorld} (hs : QueueStore.Sound P w.queue)
    (hv : w.emergency.Valid) (hl : w.emergency.rows.lookup name = some envelope)
    (hn : ¬ w.queue.HasItem P (envelope.tag P))
    (hcalls : (queueMachine P).Guarded (Recovers P envelope) w calls)
    (hlen : w.emergency.rows.length ≤ calls.length) :
    ((queueMachine P).after w calls).Owned P (envelope.tag P) := by
  induction calls generalizing w with
  | nil =>
    rw [List.length_nil, Nat.le_zero, List.length_eq_zero_iff] at hlen
    simp [hlen] at hl
  | cons a calls ih =>
    rw [Machine.guarded_cons] at hcalls
    obtain ⟨ha, hcalls⟩ := hcalls
    have hs' := (queueStep_changes P w a).invariant (fun _ _ hc => hc.sound) hs
    have hv' : (queueStep P w a).1.emergency.Valid := queueStep_valid hv a
    cases a with
    | recover settings moment limit =>
      obtain ⟨hlimit, hmoment, hunblocked⟩ := ha
      rcases hunblocked.recovers hs hv hn with howned | ⟨hn', hrows, hpage⟩
      · exact Owned.after (w := (recoverEmergencySpool P settings moment limit w).1) howned hcalls
      · have hkept : name ∉ w.emergency.page limit := fun hm =>
          hpage name hm envelope ⟨hl, hmoment⟩ rfl
        have hmem := Dict.mem_of_lookup hl
        refine ih (w := (recoverEmergencySpool P settings moment limit w).1) hs' hv' ?_ hn' hcalls ?_
        · refine Dict.lookup_of_mem hv'.keys ?_
          rw [hrows]
          exact List.mem_filter.2 ⟨hmem, by simpa using hkept⟩
        · have hpage' : w.emergency.page limit ≠ [] :=
            pageIds_ne_nil (List.map_eq_nil_iff.not.2 (List.ne_nil_of_mem hmem)) _ hlimit
          obtain ⟨first, hfirst⟩ := List.exists_mem_of_ne_nil _ hpage'
          obtain ⟨row, hrow, he⟩ := List.mem_map.1 (mem_of_mem_pageIds hfirst)
          have hlt : (w.emergency.rows.filter fun row =>
              row.1 ∉ w.emergency.page limit).length < w.emergency.rows.length := by
            rw [List.length_filter_lt_length_iff_exists]
            exact ⟨row, hrow, by simpa [he] using hfirst⟩
          rw [List.length_cons] at hlen
          exact hrows ▸ (by omega)
    | _ => exact absurd ha id

/-- After any run, an envelope whose tag is not in the queue gets there by the recovery calls made
before it expires, provided none of them is blocked on the way to it. -/
theorem envelope_recovered (P : Platform) (run calls : List QueueAction) (id : String)
    (envelope : Envelope)
    (hl : ((queueMachine P).after {} run).emergency.rows.lookup id = some envelope)
    (hn : ¬ ((queueMachine P).after {} run).queue.HasItem P (envelope.tag P))
    (hcalls : (queueMachine P).Guarded (Recovers P envelope) ((queueMachine P).after {} run) calls)
    (hlen : ((queueMachine P).after {} run).emergency.rows.length ≤ calls.length) :
    ((queueMachine P).after {} (run ++ calls)).queue.HasItem P (envelope.tag P) := by
  rw [Machine.after_append]
  obtain ⟨i, stored, hi, ht, -⟩ := recovers_after (queueMachine_sound P run)
    (queueMachine_valid P run) hl hn hcalls hlen
  exact ⟨i, stored, hi, ht⟩

/-- An envelope whose stored item was finished, and lost its body, stops every recovery at it. -/
theorem recoverEmergencySpool_blocked {w : QueueWorld}
    (hpage : w.emergency.page limit = (name :: rest).take limit)
    (hl : w.emergency.rows.lookup name = some envelope)
    (hf : envelope.item.fromFile = some envelope.item) (hm : moment < envelope.expiresAt)
    (he : w.queue.existing P envelope.item.idempotencyKey envelope.item.sourceHostId
      envelope.item.queueId = .ok (some existing))
    (hp : existing.payloadRef ≠ envelope.item.payloadRef) :
    recoverEmergencySpool P settings moment limit w = (w, .items []) := by
  have hskip : recoverEnvelope P settings moment envelope w.queue =
      (w.queue, .error (.queue "QUEUE_IDEMPOTENCY_COLLISION")) := by
    rw [recoverEnvelope, hf]
    simp only [if_neg (not_le.2 hm), he]
    exact if_neg fun hagrees => hp hagrees.2.2.2
  rw [recoverEmergencySpool, hpage]
  cases limit with
  | zero => rfl
  | succ limit =>
    rw [List.take_succ_cons, recoverPage, hl]
    simp only [hskip]

def sampleEnvelope : Envelope where
  item := sampleItem
  reasonCode := "QUEUE_WRITE_FAILED"
  createdAt := 0
  expiresAt := 86400000000

/-- A second receipt. -/
def otherReceipt : Receipt :=
  { sampleReceipt with
    event := .hook
      { sampleEvent with
        eventId := "evt_20260102T000000Z_0123456789ab"
        idempotencyKey := "sha256:" ++ String.ofList (List.replicate 64 'e') } }

/-- The item of the second receipt. -/
def sampleOther : QueueItem :=
  { sampleItem with
    queueId := newQueueId samplePlatform "evt_20260102T000000Z_0123456789ab"
      ("sha256:" ++ String.ofList (List.replicate 64 'e')) "host"
    eventId := "evt_20260102T000000Z_0123456789ab"
    idempotencyKey := "sha256:" ++ String.ofList (List.replicate 64 'e') }

def otherEnvelope : Envelope :=
  { sampleEnvelope with item := sampleOther }

/-- Two receipts are kept outside the queue, the first one of which is stored after all. -/
def spillTwoItems : List QueueAction :=
  [.enqueue sampleReceipt .beforeReservation, .enqueue sampleReceipt .none,
    .enqueue otherReceipt .beforeReservation]

theorem spillTwoItems_stores :
    let w := (queueMachine samplePlatform).after {} spillTwoItems
    w.queue = { rows := [(sampleItem.queueId, ⟨sampleItem, true⟩)] } ∧
      w.emergency = { rows := [(emergencyId samplePlatform sampleItem, sampleEnvelope),
        (emergencyId samplePlatform sampleOther, otherEnvelope)] } := by
  apply Prod.mk.inj
  decide +kernel

/-- A recovery of one envelope takes the first one, whose item is stored. -/
theorem spillTwoItems_recover :
    let w := (queueStep samplePlatform ((queueMachine samplePlatform).after {} spillTwoItems)
      (.recover {} 0 1)).1
    w.queue = { rows := [(sampleItem.queueId, ⟨sampleItem, true⟩)] } ∧
      w.emergency =
        { rows := [(emergencyId samplePlatform sampleOther, otherEnvelope)]
          cursor := emergencyId samplePlatform sampleItem } := by
  apply Prod.mk.inj
  decide +kernel

theorem spillTwoItems_unblocked {w : QueueWorld}
    (hqueue : w.queue = { rows := [(sampleItem.queueId, ⟨sampleItem, true⟩)] })
    (hemergency : w.emergency = { rows := [(emergencyId samplePlatform sampleItem, sampleEnvelope),
      (emergencyId samplePlatform sampleOther, otherEnvelope)] }) :
    Unblocked samplePlatform w {} 0 1 (otherEnvelope.tag samplePlatform) := by
  have hahead : w.emergency.ahead samplePlatform 0 1 (otherEnvelope.tag samplePlatform) =
      [emergencyId samplePlatform sampleItem] := by
    rw [hemergency]
    decide +kernel
  have hreadable : sampleItem.readable = true := by
    decide +kernel
  have hids : sampleItem.queueId ≠ sampleOther.queueId := by
    decide +kernel
  refine ⟨?_, ?_, ?_, ?_⟩
  · intro id hid envelope hdue i stored hl _
    rw [hahead, List.mem_singleton] at hid
    rw [hid, EmergencyStore.Due, hemergency, Dict.lookup_cons, if_pos rfl] at hdue
    cases hdue.1
    rw [hqueue, Dict.lookup_cons] at hl
    split at hl
    · cases hl
      exact ⟨hreadable, rfl, rfl, rfl, rfl⟩
    · cases hl
  · intro id hid id' hid' _ _ _ _ _
    rw [hahead, List.mem_singleton] at hid hid'
    rw [hid, hid']
  · intro _ _
    rw [hqueue]
    exact .inl rfl
  · intro row hrow row' hrow' he
    rw [hemergency, List.mem_pair] at hrow hrow'
    obtain rfl | rfl := hrow <;> obtain rfl | rfl := hrow'
    · rfl
    · exact absurd he hids
    · exact absurd he hids.symm
    · rfl

theorem spillTwoItems_unblocked_after {w : QueueWorld}
    (hqueue : w.queue = { rows := [(sampleItem.queueId, ⟨sampleItem, true⟩)] })
    (hemergency : w.emergency =
      { rows := [(emergencyId samplePlatform sampleOther, otherEnvelope)]
        cursor := emergencyId samplePlatform sampleItem }) :
    Unblocked samplePlatform w {} 0 1 (otherEnvelope.tag samplePlatform) := by
  have hahead : w.emergency.ahead samplePlatform 0 1 (otherEnvelope.tag samplePlatform) = [] := by
    rw [hemergency]
    decide +kernel
  refine ⟨?_, ?_, ?_, ?_⟩
  · simp [hahead]
  · simp [hahead]
  · intro _ _
    rw [hqueue]
    exact .inl rfl
  · simp [hemergency]

theorem envelope_recovered_sample :
    ((queueMachine samplePlatform).after {}
      (spillTwoItems ++ [.recover {} 0 1, .recover {} 0 1])).queue.HasItem
        samplePlatform (otherEnvelope.tag samplePlatform) := by
  obtain ⟨hqueue, hemergency⟩ := spillTwoItems_stores
  obtain ⟨hqueue', hemergency'⟩ := spillTwoItems_recover
  have hids : emergencyId samplePlatform sampleItem ≠ emergencyId samplePlatform sampleOther := by
    decide +kernel
  have htags : QueueStore.rowTag samplePlatform ⟨sampleItem, true⟩ ≠
      otherEnvelope.tag samplePlatform := by
    decide +kernel
  apply envelope_recovered samplePlatform spillTwoItems [.recover {} 0 1, .recover {} 0 1]
    (emergencyId samplePlatform sampleOther) otherEnvelope
  · simp [hemergency, hids]
  · intro h
    obtain ⟨i, stored, hl, ht⟩ := h
    rw [hqueue, Dict.lookup_cons] at hl
    split at hl
    · cases hl
      exact htags ht
    · cases hl
  · rw [Machine.guarded_cons, Machine.guarded_cons]
    exact ⟨⟨by decide, by decide, spillTwoItems_unblocked hqueue hemergency⟩,
      ⟨by decide, by decide, spillTwoItems_unblocked_after hqueue' hemergency'⟩,
      Machine.guarded_nil _⟩
  · simp [hemergency]

/-- The sample receipt is kept outside the queue, then stored and finished, and another receipt
is kept outside the queue. -/
def finishSpilledItem : List QueueAction :=
  [.enqueue sampleReceipt .beforeReservation, .enqueue sampleReceipt .none,
    .claim (sampleClaim "worker" 0) 64,
    .transition "DONE" (sampleArgs 0) (sampleClaimed "worker" 0), .run 0 true,
    .enqueue otherReceipt .beforeReservation]

/-- The item of the sample receipt when it is finished and its body is deleted. -/
def sampleFinished : QueueItem :=
  { sampleItem with state := .done, attempts := 1, payloadRef := none }

theorem finishSpilledItem_stores :
    let w := (queueMachine samplePlatform).after {} finishSpilledItem
    w.queue =
        { rows := [(sampleItem.queueId, ⟨sampleFinished, true⟩)], cursor := sampleItem.queueId } ∧
      w.emergency = { rows := [(emergencyId samplePlatform sampleItem, sampleEnvelope),
        (emergencyId samplePlatform sampleOther, otherEnvelope)] } := by
  apply Prod.mk.inj
  decide +kernel

theorem finishSpilledItem_page (limit : Nat) :
    EmergencyStore.page { rows := [(emergencyId samplePlatform sampleItem, sampleEnvelope),
      (emergencyId samplePlatform sampleOther, otherEnvelope)] } limit =
        [emergencyId samplePlatform sampleItem, emergencyId samplePlatform sampleOther].take
          limit := by
  have hsorted : [emergencyId samplePlatform sampleItem,
      emergencyId samplePlatform sampleOther].insertionSort (· ≤ ·) =
        [emergencyId samplePlatform sampleItem, emergencyId samplePlatform sampleOther] := by
    decide +kernel
  have hlater : [emergencyId samplePlatform sampleItem,
      emergencyId samplePlatform sampleOther].filter ("" < ·) =
        [emergencyId samplePlatform sampleItem, emergencyId samplePlatform sampleOther] := by
    decide +kernel
  rw [EmergencyStore.page, pageIds]
  simp only [List.map_cons, List.map_nil]
  rw [hsorted, hlater]
  rfl

theorem finishSpilledItem_stuck {w : QueueWorld}
    (hqueue : w.queue = { rows := [(sampleItem.queueId, ⟨sampleFinished, true⟩)]
                          cursor := sampleItem.queueId })
    (hemergency : w.emergency = { rows := [(emergencyId samplePlatform sampleItem, sampleEnvelope),
      (emergencyId samplePlatform sampleOther, otherEnvelope)] })
    (hm : moment < 86400000000) :
    recoverEmergencySpool samplePlatform settings moment limit w = (w, .items []) := by
  have hlookup : w.emergency.rows.lookup (emergencyId samplePlatform sampleItem) =
      some sampleEnvelope := by
    rw [hemergency]
    exact (Dict.lookup_cons _ _ _ _).trans (if_pos rfl)
  have hfile : sampleEnvelope.item.fromFile = some sampleEnvelope.item := by
    decide +kernel
  have hexisting : w.queue.existing samplePlatform sampleEnvelope.item.idempotencyKey
      sampleEnvelope.item.sourceHostId sampleEnvelope.item.queueId =
        .ok (some sampleFinished) := by
    rw [hqueue]
    decide +kernel
  have hbody : sampleFinished.payloadRef ≠ sampleEnvelope.item.payloadRef := nofun
  exact recoverEmergencySpool_blocked (hemergency ▸ finishSpilledItem_page limit) hlookup hfile hm
    hexisting hbody

/-- The envelope of the second receipt never gets into the queue before it expires. -/
theorem finished_item_blocks_envelope :
    let w := (queueMachine samplePlatform).after {} finishSpilledItem
    w.emergency.rows.lookup (emergencyId samplePlatform sampleOther) = some otherEnvelope ∧
      ∀ calls, (∀ a ∈ calls, ∃ settings moment limit, a = .recover settings moment limit ∧
          moment < otherEnvelope.expiresAt) →
        ¬ ((queueMachine samplePlatform).after w calls).queue.HasItem samplePlatform
          (otherEnvelope.tag samplePlatform) := by
  obtain ⟨hqueue, hemergency⟩ := finishSpilledItem_stores
  generalize (queueMachine samplePlatform).after {} finishSpilledItem = w at hqueue hemergency
  have hother : emergencyId samplePlatform sampleItem ≠ emergencyId samplePlatform sampleOther := by
    decide +kernel
  have htag : QueueStore.rowTag samplePlatform ⟨sampleFinished, true⟩ ≠
      otherEnvelope.tag samplePlatform := by
    decide +kernel
  refine ⟨by simp [hemergency, hother], fun calls hcalls => ?_⟩
  have hafter : (queueMachine samplePlatform).after w calls = w := by
    refine Machine.after_of_fixed _ fun a ha => ?_
    obtain ⟨settings, moment, limit, rfl, hm⟩ := hcalls a ha
    have hexpiry : otherEnvelope.expiresAt = 86400000000 := rfl
    rw [hexpiry] at hm
    exact congrArg Prod.fst (finishSpilledItem_stuck hqueue hemergency hm)
  rw [hafter, hqueue]
  rintro ⟨i, stored, hl, ht⟩
  rw [Dict.lookup_cons] at hl
  split at hl
  · cases hl
    exact htag ht
  · cases hl

end ExternalIntelligence
