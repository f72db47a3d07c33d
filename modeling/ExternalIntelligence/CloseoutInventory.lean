import ExternalIntelligence.CloseoutStore
import ExternalIntelligence.JournalReading
import ExternalIntelligence.Machine

namespace ExternalIntelligence
set_option autoImplicit true

namespace CloseoutStore

/-- A record that is read under its id. -/
structure Readable (P : Platform) (recordId : String) (record : CloseoutRecord) : Prop where
  named : record.recordId = recordId
  id : isCloseoutId recordId = true
  valid : validateCloseoutAssociation P record = .ok ()
  small : record.encodedLength ≤ maxRecordBytes

/-- A store whose files fit together, with its active list and its cursor. -/
structure Established (P : Platform) (s : CloseoutStore) (active : List String)
    (last : Option String) : Prop where
  present : s.present = true
  index : s.index = some active
  cursor : s.cursor = some last
  sorted : active.Pairwise (· < ·)
  few : active.length ≤ maxActive
  listed : ∀ id ∈ active, ∃ record, s.records.lookup id = some record
  readable : ∀ id record, s.records.lookup id = some record → Readable P id record
  terminal : ∀ id record, s.records.lookup id = some record → id ∉ active →
    record.status ∈ CloseoutStatus.terminal
  cursorRecord : ∀ id, last = some id → ∃ record, s.records.lookup id = some record

variable {P : Platform} {s : CloseoutStore} {active : List String} {last : Option String}
  {id : String} {record value : CloseoutRecord}

theorem isCloseoutId_of_valid (h : validateCloseoutAssociation P value = .ok ()) :
    isCloseoutId value.recordId = true := by
  simp only [validateCloseoutAssociation, refuse_bind_ok] at h
  simpa using h.1

theorem readable_of_valid (h : validateCloseoutAssociation P value = .ok ())
    (hs : value.encodedLength ≤ maxRecordBytes) : Readable P value.recordId value :=
  ⟨rfl, isCloseoutId_of_valid h, h, hs⟩

theorem readRecordPath_some (hl : s.records.lookup id = some record) (h : Readable P id record) :
    s.readRecordPath P id = .ok (some record) := by
  have hsmall : ¬maxRecordBytes < record.encodedLength := Nat.not_lt.2 h.small
  simp [readRecordPath, hl, h.id, h.valid, h.named, hsmall, refuse, Except.isOk, Except.toBool]

/-- The records of an active list as the inventory collects them. -/
def collected (s : CloseoutStore) (active : List String) : List (String × CloseoutRecord) :=
  active.filterMap fun id => (s.records.lookup id).map fun record => (id, record)

theorem encodedTotal_le {records : List (String × CloseoutRecord)}
    (h : ∀ p ∈ records, p.2.encodedLength ≤ maxRecordBytes) :
    encodedTotal records ≤ records.length * maxRecordBytes := by
  induction records with
  | nil => simp [encodedTotal]
  | cons p records ih =>
    have hp := h p List.mem_cons_self
    have hrest := ih fun q hq => h q (List.mem_cons_of_mem _ hq)
    simp only [encodedTotal, List.map_cons, List.sum_cons, List.length_cons, Nat.succ_mul] at *
    omega

/-- As many records as may be active fit. -/
theorem encodedTotal_le_max {records : List (String × CloseoutRecord)}
    (h : ∀ p ∈ records, p.2.encodedLength ≤ maxRecordBytes) (hn : records.length ≤ maxActive) :
    encodedTotal records ≤ maxActiveBytes := by
  have htotal := encodedTotal_le h
  have hmost := Nat.mul_le_mul_right maxRecordBytes hn
  exact htotal.trans hmost

theorem foldlM_takeActive {ids : List String} {found : List (String × CloseoutRecord)}
    (hids : ∀ id ∈ ids, ∃ record, s.records.lookup id = some record ∧ Readable P id record)
    (hfound : ∀ p ∈ found, p.2.encodedLength ≤ maxRecordBytes)
    (hn : found.length + ids.length ≤ maxActive) :
    ids.foldlM (takeActive P s) found = .ok (found ++ collected s ids) := by
  induction ids generalizing found with
  | nil =>
    rw [collected, List.filterMap_nil, List.append_nil]
    rfl
  | cons id ids ih =>
    obtain ⟨record, hl, hr⟩ := hids id List.mem_cons_self
    have hnext : ∀ p ∈ found ++ [(id, record)], p.2.encodedLength ≤ maxRecordBytes := by
      intro p hp
      rcases List.mem_append.1 hp with hp | hp
      · exact hfound p hp
      · rw [List.mem_singleton.1 hp]
        exact hr.small
    have hlen : (found ++ [(id, record)]).length + ids.length ≤ maxActive := by
      simp only [List.length_append, List.length_cons, List.length_nil] at hn ⊢
      omega
    have htotal : ¬maxActiveBytes < encodedTotal (found ++ [(id, record)]) :=
      Nat.not_lt.2 (encodedTotal_le_max hnext (by omega))
    apply Except.foldlM_cons_ok.2
    refine ⟨found ++ [(id, record)], ?_, ?_⟩
    · rw [takeActive, readRecordPath_some hl hr]
      simp only [ok_bind, refuse, decide_eq_true_eq, if_neg htotal]
      rfl
    · rw [ih (fun id hid => hids id (List.mem_cons_of_mem _ hid)) hnext hlen, collected, collected,
        List.filterMap_cons, hl, Option.map_some, List.append_assoc]
      rfl

namespace Established

theorem readable_listed (h : Established P s active last) (hid : id ∈ active) :
    ∃ record, s.records.lookup id = some record ∧ Readable P id record := by
  obtain ⟨record, hl⟩ := h.listed id hid
  exact ⟨record, hl, h.readable id record hl⟩

theorem validateIndex (h : Established P s active last) :
    CloseoutStore.validateIndex active = .ok () := by
  have hset : active = sortedSet active := by
    apply eq_of_same_members h.sorted (sortedSet_pairwise active)
    intro id
    rw [mem_sortedSet]
  have hids : active.all isCloseoutId = true := by
    rw [List.all_eq_true]
    intro id hid
    obtain ⟨record, _, hr⟩ := h.readable_listed hid
    exact hr.id
  have hfew : ¬maxActive < active.length := Nat.not_lt.2 h.few
  simp [CloseoutStore.validateIndex, refuse, hfew, hids, ← hset]

/-- A store whose files fit together has an inventory. -/
theorem inventory (h : Established P s active last) :
    s.inventory P = .ok
      { root := true, active, lastRecordId := last, records := collected s active } := by
  have hfold : active.foldlM (CloseoutStore.takeActive P s) [] = .ok ([] ++ collected s active) :=
    foldlM_takeActive (fun id hid => h.readable_listed hid) (by simp) (by simpa using h.few)
  rw [List.nil_append] at hfold
  simp only [CloseoutStore.inventory, h.present, Bool.not_true, Bool.false_eq_true, if_false,
    h.index, h.cursor, h.validateIndex, ok_bind]
  cases last with
  | none =>
    simp only [validateCursor, refuse, Option.all_none, Bool.not_true, Bool.false_eq_true,
      if_false, ok_bind, hfold]
    rfl
  | some id =>
    obtain ⟨record, hl⟩ := h.cursorRecord id rfl
    have hr := h.readable id record hl
    have hterminal : (!active.contains id && !CloseoutStatus.terminal.contains record.status) =
        false := by
      by_cases hin : id ∈ active
      · simp [hin]
      · simp [h.terminal id record hl hin]
    simp only [validateCursor, refuse, Option.all_some, hr.id, Bool.not_true, Bool.false_eq_true,
      if_false, ok_bind, readRecordPath_some hl hr, hterminal, hfold]
    rfl

theorem total (h : Established P s active last) :
    encodedTotal (collected s active) ≤ maxActiveBytes := by
  apply encodedTotal_le_max
  · intro p hp
    obtain ⟨id, hid, hp⟩ := List.mem_filterMap.1 hp
    obtain ⟨record, hl, hr⟩ := h.readable_listed hid
    rw [hl] at hp
    cases hp
    exact hr.small
  · exact (List.length_filterMap_le _ _).trans h.few

/-- The cursor may name any record. -/
theorem write_cursor (h : Established P s active last)
    (hid : ∃ record, s.records.lookup id = some record) :
    Established P (s.write (.cursor (some id))) active (some id) :=
  { h with
    cursor := rfl
    cursorRecord := by
      intro id' he
      cases he
      exact hid }

/-- A record of the active list, or a terminal one, may be written. -/
theorem write_record (h : Established P s active last) (hr : Readable P value.recordId value)
    (hs : value.status ∈ CloseoutStatus.terminal ∨ value.recordId ∈ active) :
    Established P (s.write (.record value)) active last where
  present := h.present
  index := h.index
  cursor := h.cursor
  sorted := h.sorted
  few := h.few
  listed id hid := by
    simp only [write, Dict.lookup_set]
    split
    · exact ⟨value, rfl⟩
    · exact h.listed id hid
  readable id record hl := by
    simp only [write, Dict.lookup_set] at hl
    split at hl
    · rename_i he
      cases hl
      exact he ▸ hr
    · exact h.readable id record hl
  terminal id record hl hid := by
    simp only [write, Dict.lookup_set] at hl
    split at hl
    · rename_i he
      cases hl
      exact hs.resolve_right (he ▸ hid)
    · exact h.terminal id record hl hid
  cursorRecord id hid := by
    simp only [write, Dict.lookup_set]
    split
    · exact ⟨value, rfl⟩
    · exact h.cursorRecord id hid

/-- A terminal record may be taken off the active list. -/
theorem write_index_filter (h : Established P s active last)
    (hl : s.records.lookup id = some record) (ht : record.status ∈ CloseoutStatus.terminal) :
    Established P (s.write (.index (active.filter (· != id)))) (active.filter (· != id)) last where
  present := h.present
  index := rfl
  cursor := h.cursor
  sorted := h.sorted.filter _
  few := (List.length_filter_le _ _).trans h.few
  listed id' hid := h.listed id' (List.mem_of_mem_filter hid)
  readable := h.readable
  terminal id' record' hl' hid := by
    by_cases he : id' = id
    · subst he
      cases hl.symm.trans hl'
      exact ht
    · apply h.terminal id' record' hl'
      intro hin
      exact hid (List.mem_filter.2 ⟨hin, by simpa using he⟩)
  cursorRecord := h.cursorRecord

theorem write_reserved (h : Established P s active last) (hr : Readable P value.recordId value)
    (hnew : value.recordId ∉ active) (hn : active.length < maxActive) :
    Established P
      (s.writeAll [.index (sortedText (active ++ [value.recordId])), .record value])
      (sortedText (active ++ [value.recordId])) last := by
  have hmem : ∀ id, id ∈ sortedText (active ++ [value.recordId]) ↔
      id ∈ active ∨ id = value.recordId := by
    intro id
    rw [sortedText, List.mem_insertionSort, List.mem_append, List.mem_singleton]
  have hlookup : ∀ id, (s.writeAll [.index (sortedText (active ++ [value.recordId])),
      .record value]).records.lookup id =
        if value.recordId = id then some value else s.records.lookup id :=
    fun id => Dict.lookup_set _ _ _ _
  refine ⟨h.present, rfl, h.cursor, ?_, ?_, ?_, ?_, ?_, ?_⟩
  · have hnodup : (active ++ [value.recordId]).Nodup :=
      List.nodup_append.2 ⟨h.sorted.imp fun hab => ne_of_lt hab, List.nodup_singleton _, by
        intro a ha b hb he
        rw [List.mem_singleton] at hb
        exact hnew (hb ▸ he ▸ ha)⟩
    have hset := sortedSet_pairwise (active ++ [value.recordId])
    rwa [sortedSet, hnodup.dedup] at hset
  · rw [sortedText, List.length_insertionSort, List.length_append]
    exact hn
  · intro id hid
    rw [hlookup]
    split
    · exact ⟨value, rfl⟩
    · rename_i he
      exact h.listed id (((hmem id).1 hid).resolve_right (Ne.symm he))
  · intro id record hl
    rw [hlookup] at hl
    split at hl
    · rename_i he
      cases hl
      exact he ▸ hr
    · exact h.readable id record hl
  · intro id record hl hid
    rw [hlookup] at hl
    split at hl
    · rename_i he
      exact absurd ((hmem id).2 (.inr he.symm)) hid
    · exact h.terminal id record hl fun hin => hid ((hmem id).2 (.inl hin))
  · intro id hid
    rw [hlookup]
    split
    · exact ⟨value, rfl⟩
    · exact h.cursorRecord id hid

end Established

theorem isOk_of_not {x : Except Raised Unit} (h : (!x.isOk) = false) : x = .ok () := by
  cases x with
  | error e => simp [Except.isOk, Except.toBool] at h
  | ok u => rfl

/-- What a plan to reserve a record does, and what it has checked. -/
theorem reservePlan_ok (h : Established P s active last)
    (hp : s.reservePlan P value = .ok writes) :
    Readable P value.recordId value ∧ value.recordId ∉ active ∧ active.length < maxActive ∧
      writes = [.index (sortedText (active ++ [value.recordId])), .record value] := by
  have hmade : s.writeAll (if s.present = true then [] else creation) = s := by
    rw [if_pos h.present]
    rfl
  simp only [reservePlan, refuse_bind_ok, hmade, h.inventory, ok_bind] at hp
  obtain ⟨hvalid, _, hsmall, hp⟩ := hp
  obtain ⟨old, _, hp⟩ := Except.bind_eq_ok.1 hp
  simp only [refuse_bind_ok, h.present, if_true, List.nil_append] at hp
  obtain ⟨hnew, hroom, hp⟩ := hp
  cases hp
  refine ⟨readable_of_valid (isOk_of_not hvalid) (by simpa using hsmall), ?_, ?_, rfl⟩
  · intro hin
    simp [hin] at hnew
  · simp only [Bool.or_eq_false_iff, decide_eq_false_iff_not, Nat.not_le] at hroom
    exact hroom.1

theorem writeRecordPlan_ok (h : Established P s active last)
    (hp : s.writeRecordPlan P value = .ok writes) :
    Readable P value.recordId value ∧ writes = [.record value] := by
  simp only [writeRecordPlan, refuse_bind_ok, h.inventory, ok_bind] at hp
  obtain ⟨hvalid, hsmall, _, hp⟩ := hp
  obtain ⟨old, _, hp⟩ := Except.bind_eq_ok.1 hp
  simp only [refuse_bind_ok] at hp
  obtain ⟨_, _, hp⟩ := hp
  cases hp
  exact ⟨readable_of_valid (isOk_of_not hvalid) (by simpa using hsmall), rfl⟩

theorem advanceCursorPlan_ok (hp : s.advanceCursorPlan P id = .ok writes) :
    writes = [.cursor (some id)] := by
  simp only [advanceCursorPlan, refuse_bind_ok] at hp
  obtain ⟨_, hp⟩ := hp
  obtain ⟨found, _, hp⟩ := Except.bind_eq_ok.1 hp
  simp only [refuse_bind_ok] at hp
  obtain ⟨_, hp⟩ := hp
  cases hp
  rfl

/-- What a plan to finish a record does, and what it has checked. -/
theorem finishPlan_ok (h : Established P s active last)
    (hp : s.finishPlan P value = .ok writes) :
    Readable P value.recordId value ∧ value.status ∈ CloseoutStatus.terminal ∧
      writes = [.record value] ++
        (if value.recordId ∈ active then [.index (active.filter (· != value.recordId))] else []) ++
        [.cursor (some value.recordId)] := by
  simp only [finishPlan, refuse_bind_ok, h.inventory, ok_bind] at hp
  obtain ⟨hterminal, hvalid, hsmall, _, hp⟩ := hp
  obtain ⟨old, _, hp⟩ := Except.bind_eq_ok.1 hp
  simp only [refuse_bind_ok] at hp
  obtain ⟨_, _, hp⟩ := hp
  cases hp
  refine ⟨readable_of_valid (isOk_of_not hvalid) (by simpa using hsmall), ?_, ?_⟩
  · simpa using hterminal
  · simp only [List.contains_eq_mem, decide_eq_true_eq]

end CloseoutStore

/-- A call on the store. But for a reservation it may stop after any of its writes: `reached` counts
those that are carried out. -/
inductive StoreCall where
  | reserve (value : CloseoutRecord)
  | activeRecords (maxRecords : Nat)
  | writeRecord (value : CloseoutRecord) (reached : Nat)
  | advanceCursor (recordId : String) (reached : Nat)
  | finish (value : CloseoutRecord) (reached : Nat)
deriving DecidableEq, Repr

/-- A store, and the ids its active records were returned under so far. -/
structure StoreRun where
  store : CloseoutStore
  returned : List String := []

namespace CloseoutStore

/-- The store when the first writes of a plan are carried out. -/
def reach (s : CloseoutStore) (plan : Except Raised (List StoreWrite)) (reached : Nat) :
    CloseoutStore :=
  match plan with
  | .error _ => s
  | .ok writes => s.writeAll (writes.take reached)

end CloseoutStore

def storeStep (P : Platform) (run : StoreRun) : StoreCall → StoreRun
  | .reserve value => { run with store := (run.store.reserve P value).1 }
  | .activeRecords maxRecords =>
    match run.store.activeRecords P maxRecords with
    | .error _ => run
    | .ok records => { run with returned := run.returned ++ records.map (·.recordId) }
  | .writeRecord value reached =>
    { run with store := run.store.reach (run.store.writeRecordPlan P value) reached }
  | .advanceCursor recordId reached =>
    { run with store := run.store.reach (run.store.advanceCursorPlan P recordId) reached }
  | .finish value reached =>
    { run with store := run.store.reach (run.store.finishPlan P value) reached }

def storeMachine (P : Platform) : Machine StoreRun StoreCall Unit :=
  ⟨fun run call => (storeStep P run call, ())⟩

/-- A cursor is advanced to ids that were returned. -/
def FromReturned (run : StoreRun) : StoreCall → Prop
  | .advanceCursor recordId _ => recordId ∈ run.returned
  | _ => True

/-- No record that is still in work is written outside the active list. -/
def WritesListed (run : StoreRun) : StoreCall → Prop
  | .writeRecord value _ => value.status ∈ CloseoutStatus.terminal ∨
      ∃ active, run.store.index = some active ∧ value.recordId ∈ active
  | _ => True

/-- What is promised of a store in every state: it has an inventory, which is in order, within its
bounds and complete. -/
structure Intact (P : Platform) (s : CloseoutStore) (found : CloseoutStore.Inventory) : Prop where
  inventory : s.inventory P = .ok found
  sorted : found.active.Pairwise (· < ·)
  few : found.active.length ≤ 64
  small : CloseoutStore.encodedTotal found.records ≤ 1024 * 1024
  cursor : ∀ id, found.lastRecordId = some id → ∃ record, s.records.lookup id = some record ∧
    (id ∈ found.active ∨ record.status ∈ CloseoutStatus.terminal)
  terminal : ∀ id record, s.records.lookup id = some record → id ∉ found.active →
    record.status ∈ CloseoutStatus.terminal

namespace CloseoutStore

variable {P : Platform} {s : CloseoutStore} {active : List String} {last : Option String}
  {id : String} {record value : CloseoutRecord}

theorem Established.intact (h : Established P s active last) : ∃ found, Intact P s found := by
  refine ⟨_, h.inventory, h.sorted, h.few, h.total, ?_, h.terminal⟩
  intro id hid
  obtain ⟨record, hl⟩ := h.cursorRecord id hid
  refine ⟨record, hl, ?_⟩
  by_cases hin : id ∈ active
  · exact .inl hin
  · exact .inr (h.terminal id record hl hin)

/-- A store with only its first index and cursor. -/
def created : CloseoutStore :=
  ({} : CloseoutStore).writeAll creation

theorem created_established : Established P created [] none where
  present := rfl
  index := rfl
  cursor := rfl
  sorted := .nil
  few := Nat.zero_le _
  listed := by simp
  readable := by simp [created, creation, writeAll, write]
  terminal := by simp [created, creation, writeAll, write]
  cursorRecord := by simp

theorem reach_all {writes : List StoreWrite} (h : writes.length ≤ reached) :
    s.reach (.ok writes) reached = s.writeAll writes := by
  rw [reach, List.take_of_length_le h]

/-- A finish leaves the files together after any number of its writes. -/
theorem Established.reach_finish (h : Established P s active last) (reached : Nat) :
    ∃ active last, Established P (s.reach (s.finishPlan P value) reached) active last := by
  cases hp : s.finishPlan P value with
  | error e => exact ⟨active, last, h⟩
  | ok writes =>
    obtain ⟨hr, ht, rfl⟩ := finishPlan_ok h hp
    have hrecord := h.write_record hr (.inl ht)
    have hl : (s.write (.record value)).records.lookup value.recordId = some value :=
      Dict.lookup_set_self _ _ _
    by_cases hin : value.recordId ∈ active
    · have hindex := hrecord.write_index_filter hl ht
      rw [if_pos hin]
      match reached with
      | 0 => exact ⟨active, last, h⟩
      | 1 => exact ⟨_, _, hrecord⟩
      | 2 => exact ⟨_, _, hindex⟩
      | n + 3 =>
        rw [reach_all (by simp)]
        exact ⟨_, _, hindex.write_cursor ⟨value, hl⟩⟩
    · rw [if_neg hin]
      match reached with
      | 0 => exact ⟨active, last, h⟩
      | 1 => exact ⟨_, _, hrecord⟩
      | n + 2 =>
        rw [reach_all (by simp)]
        exact ⟨_, _, hrecord.write_cursor ⟨value, hl⟩⟩

theorem Established.reach_writeRecord (h : Established P s active last) (reached : Nat)
    (hs : value.status ∈ CloseoutStatus.terminal ∨ value.recordId ∈ active) :
    ∃ active last, Established P (s.reach (s.writeRecordPlan P value) reached) active last := by
  cases hp : s.writeRecordPlan P value with
  | error e => exact ⟨active, last, h⟩
  | ok writes =>
    obtain ⟨hr, rfl⟩ := writeRecordPlan_ok h hp
    cases reached with
    | zero => exact ⟨active, last, h⟩
    | succ n =>
      rw [reach_all (by simp)]
      exact ⟨active, last, h.write_record hr hs⟩

theorem Established.reach_advanceCursor (h : Established P s active last) (reached : Nat)
    (hid : ∃ record, s.records.lookup id = some record) :
    ∃ active last, Established P (s.reach (s.advanceCursorPlan P id) reached) active last := by
  cases hp : s.advanceCursorPlan P id with
  | error e => exact ⟨active, last, h⟩
  | ok writes =>
    cases advanceCursorPlan_ok hp
    cases reached with
    | zero => exact ⟨active, last, h⟩
    | succ n =>
      rw [reach_all (by simp)]
      exact ⟨active, some id, h.write_cursor hid⟩

theorem Established.reserve (h : Established P s active last) :
    ∃ active last, Established P (s.reserve P value).1 active last := by
  rw [CloseoutStore.reserve]
  cases hp : s.reservePlan P value with
  | error e => exact ⟨active, last, h⟩
  | ok writes =>
    obtain ⟨hr, hnew, hroom, rfl⟩ := reservePlan_ok h hp
    exact ⟨_, _, h.write_reserved hr hnew hroom⟩

/-- Records are never removed. -/
theorem lookup_write (w : StoreWrite) (hl : ∃ record, s.records.lookup id = some record) :
    ∃ record, (s.write w).records.lookup id = some record := by
  cases w with
  | directory => exact hl
  | index active => exact hl
  | cursor last => exact hl
  | record value =>
    simp only [write, Dict.lookup_set]
    split
    · exact ⟨value, rfl⟩
    · exact hl

theorem lookup_writeAll {writes : List StoreWrite}
    (hl : ∃ record, s.records.lookup id = some record) :
    ∃ record, (s.writeAll writes).records.lookup id = some record := by
  induction writes generalizing s with
  | nil => exact hl
  | cons w writes ih => exact ih (lookup_write w hl)

theorem lookup_reach {plan : Except Raised (List StoreWrite)} {reached : Nat}
    (hl : ∃ record, s.records.lookup id = some record) :
    ∃ record, (s.reach plan reached).records.lookup id = some record := by
  cases plan with
  | error e => exact hl
  | ok writes => exact lookup_writeAll hl

end CloseoutStore

namespace CloseoutStore

variable {P : Platform} {s : CloseoutStore} {active : List String} {last : Option String}
  {id : String} {record value : CloseoutRecord}

theorem mem_collected : (id, record) ∈ collected s active ↔
    id ∈ active ∧ s.records.lookup id = some record := by
  simp only [collected, List.mem_filterMap, Option.map_eq_some_iff]
  constructor
  · rintro ⟨id', hid, record', hl, he⟩
    cases he
    exact ⟨hid, hl⟩
  · rintro ⟨hid, hl⟩
    exact ⟨id, hid, record, hl, rfl⟩

/-- Active records are returned from the active list. -/
theorem activeRecords_listed {records : List CloseoutRecord} (h : Established P s active last)
    (hr : s.activeRecords P maxRecords = .ok records) (hin : record ∈ records) :
    record.recordId ∈ active ∧ s.records.lookup record.recordId = some record := by
  simp only [activeRecords, refuse_bind_ok, h.inventory, ok_bind] at hr
  obtain ⟨_, hr⟩ := hr
  cases hr
  obtain ⟨id, _, hl⟩ := List.mem_filterMap.1 hin
  obtain ⟨hid, hl⟩ := mem_collected.1 (Dict.mem_of_lookup hl)
  rw [(h.readable id record hl).named]
  exact ⟨hid, hl⟩

end CloseoutStore

/-- The files fit together and every returned id still has its record. -/
def RunEstablished (P : Platform) (run : StoreRun) : Prop :=
  (∃ active last, CloseoutStore.Established P run.store active last) ∧
    ∀ id ∈ run.returned, ∃ record, run.store.records.lookup id = some record

theorem storeStep_lookup {run : StoreRun} {id : String}
    (hl : ∃ record, run.store.records.lookup id = some record) (call : StoreCall) :
    ∃ record, (storeStep P run call).store.records.lookup id = some record := by
  cases call with
  | reserve value =>
    simp only [storeStep, CloseoutStore.reserve, CloseoutStore.carryOut]
    split
    · exact hl
    · exact CloseoutStore.lookup_writeAll hl
  | activeRecords maxRecords =>
    simp only [storeStep]
    split
    · exact hl
    · exact hl
  | writeRecord value reached => exact CloseoutStore.lookup_reach hl
  | advanceCursor recordId reached => exact CloseoutStore.lookup_reach hl
  | finish value reached => exact CloseoutStore.lookup_reach hl

theorem storeStep_established {run : StoreRun} {call : StoreCall} (h : RunEstablished P run)
    (hr : FromReturned run call) (hw : WritesListed run call) :
    ∃ active last, CloseoutStore.Established P (storeStep P run call).store active last := by
  obtain ⟨⟨active, last, he⟩, hreturned⟩ := h
  cases call with
  | reserve value => exact he.reserve
  | activeRecords maxRecords =>
    simp only [storeStep]
    split
    · exact ⟨active, last, he⟩
    · exact ⟨active, last, he⟩
  | writeRecord value reached =>
    apply he.reach_writeRecord reached
    apply hw.imp_right
    rintro ⟨listed, hl, hin⟩
    cases he.index.symm.trans hl
    exact hin
  | advanceCursor recordId reached => exact he.reach_advanceCursor reached (hreturned _ hr)
  | finish value reached => exact he.reach_finish reached

theorem storeStep_runEstablished {run : StoreRun} {call : StoreCall} (h : RunEstablished P run)
    (hr : FromReturned run call) (hw : WritesListed run call) :
    RunEstablished P (storeStep P run call) := by
  refine ⟨storeStep_established h hr hw, ?_⟩
  have hold : ∀ id ∈ run.returned, ∃ record,
      (storeStep P run call).store.records.lookup id = some record :=
    fun id hid => storeStep_lookup (h.2 id hid) call
  cases call with
  | activeRecords maxRecords =>
    obtain ⟨active, last, he⟩ := h.1
    simp only [storeStep] at hold ⊢
    split
    · exact h.2
    · rename_i records hrecords
      intro id hid
      rcases List.mem_append.1 hid with hid | hid
      · exact h.2 id hid
      · obtain ⟨record, hin, rfl⟩ := List.mem_map.1 hid
        exact ⟨record, (CloseoutStore.activeRecords_listed he hrecords hin).2⟩
  | reserve value => exact hold
  | writeRecord value reached => exact hold
  | advanceCursor recordId reached => exact hold
  | finish value reached => exact hold

/-- A store keeps its inventory over any calls, stopped after any of their writes, as long as no
record that is still in work is written outside the active list. -/
theorem inventory_survives {store : CloseoutStore} {calls : List StoreCall}
    (hstore : CloseoutStore.Established P store active last)
    (hreturned : (storeMachine P).Guarded FromReturned ⟨store, []⟩ calls)
    (hlisted : (storeMachine P).Guarded WritesListed ⟨store, []⟩ calls) :
    ∃ found, Intact P ((storeMachine P).after ⟨store, []⟩ calls).store found := by
  have hboth : (storeMachine P).Guarded (fun run call => FromReturned run call ∧
      WritesListed run call) ⟨store, []⟩ calls := by
    intro earlier call later he
    exact ⟨hreturned earlier call later he, hlisted earlier call later he⟩
  have hrun : RunEstablished P ((storeMachine P).after ⟨store, []⟩ calls) := by
    apply Machine.guarded_invariant (I := RunEstablished P) _ _ _ hboth
    · intro run call h hg
      exact storeStep_runEstablished h hg.1 hg.2
    · exact ⟨⟨active, last, hstore⟩, by simp⟩
  obtain ⟨⟨active', last', he⟩, _⟩ := hrun
  exact he.intact

def sampleCloseoutHash : String :=
  "sha256:" ++ String.ofList (List.replicate 64 'a')

/-- A reserved closeout of one target. -/
def sampleCloseout (digit : Char) : CloseoutRecord where
  recordId := "co_" ++ String.ofList (List.replicate 64 digit)
  hostHash := sampleCloseoutHash
  instanceHash := sampleCloseoutHash
  storeHash := sampleCloseoutHash
  sessionHash := sampleCloseoutHash
  recordHash := sampleCloseoutHash
  cwdHash := sampleCloseoutHash
  domainHash := sampleCloseoutHash
  targetIds := [sampleCloseoutHash]
  targetSetHash := sampleCloseoutHash
  bindingDigest := sampleCloseoutHash
  contentHash := sampleCloseoutHash
  status := .preparing
  createdAt := ⟨"2026-09-18T00:00:00Z", 0⟩
  expiresAt := ⟨"2026-09-25T00:00:00Z", 604800⟩
  spoolId := "spool_" ++ String.ofList (List.replicate 32 digit)
  reasonCode := "CLOSEOUT_RESERVED"

/-- Two records of which the first is lost, with a crash before the cursor is moved. -/
def sampleStoreCalls : List StoreCall :=
  [.reserve (sampleCloseout 'a'), .reserve (sampleCloseout 'b'), .activeRecords 64,
    .writeRecord { sampleCloseout 'a' with status := .lost } 1,
    .finish { sampleCloseout 'a' with status := .lost } 2,
    .advanceCursor (sampleCloseout 'a').recordId 1]

theorem sampleStoreCalls_survive :
    ∃ found, Intact samplePlatform ((storeMachine samplePlatform).after
      ⟨CloseoutStore.created, []⟩ sampleStoreCalls).store found := by
  apply inventory_survives CloseoutStore.created_established
  · simp only [sampleStoreCalls, Machine.guarded_cons, Machine.guarded_nil, and_true]
    refine ⟨trivial, trivial, trivial, trivial, trivial, ?_⟩
    rw [FromReturned]
    decide +kernel
  · simp only [sampleStoreCalls, Machine.guarded_cons, Machine.guarded_nil, and_true]
    exact ⟨trivial, trivial, trivial, .inl (by decide), trivial, trivial⟩

/-- A finished record is written again as it was reserved. -/
def rewrittenCloseout : List StoreCall :=
  [.reserve (sampleCloseout 'a'), .finish { sampleCloseout 'a' with status := .lost } 3,
    .writeRecord (sampleCloseout 'a') 1]

/-- An old copy of a finished record is accepted, and from then on no inventory can be read. -/
theorem inventory_not_survived :
    ¬∀ (P : Platform) (store : CloseoutStore) (active : List String) (last : Option String)
      (calls : List StoreCall), CloseoutStore.Established P store active last →
      (storeMachine P).Guarded FromReturned ⟨store, []⟩ calls →
      ∃ found, Intact P ((storeMachine P).after ⟨store, []⟩ calls).store found := by
  intro h
  have hguarded : (storeMachine samplePlatform).Guarded FromReturned ⟨CloseoutStore.created, []⟩
      rewrittenCloseout := by
    simp only [rewrittenCloseout, Machine.guarded_cons, Machine.guarded_nil, and_true]
    exact ⟨trivial, trivial, trivial⟩
  obtain ⟨found, hfound⟩ := h samplePlatform CloseoutStore.created [] none rewrittenCloseout
    CloseoutStore.created_established hguarded
  have herror : ((storeMachine samplePlatform).after ⟨CloseoutStore.created, []⟩
      rewrittenCloseout).store.inventory samplePlatform = .error indexUnknown := by
    decide +kernel
  cases herror.symm.trans hfound.inventory

end ExternalIntelligence
