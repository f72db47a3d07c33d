import ExternalIntelligence.QueueChanges

namespace ExternalIntelligence
set_option autoImplicit true

/-- Rows lie under their own ids, and no two rows have one tag. -/
structure QueueStore.Sound (P : Platform) (s : QueueStore) : Prop where
  keys : (Dict.keys s.rows).Nodup
  ids : ∀ {i row}, s.rows.lookup i = some row → row.item.queueId = i
  tags : ∀ {i j row row'}, s.rows.lookup i = some row → s.rows.lookup j = some row' →
    QueueStore.rowTag P row = QueueStore.rowTag P row' → i = j

theorem claimedItem_eq (h : claimedItem settings worker moment lease current = some updated) :
    updated = { current with
      state := .inProgress
      attempts := current.attempts + 1
      providerPreference := providerPreference settings (some current.providerPreference)
      leaseOwner := some worker
      leaseExpiresAt := some (moment + lease)
      lastErrorCode := none } := by
  rw [claimedItem] at h
  simp only [Option.ite_none_left_eq_some, Option.some.injEq] at h
  exact h.2.symm

theorem clearedItem_sameReceipt (moment : Int) (field : RefField) (current : QueueItem) :
    current.SameReceipt (clearedItem moment field current) := by
  cases field with
  | payload => exact ⟨rfl, rfl, rfl, rfl, rfl, rfl, rfl, .inr rfl⟩
  | validatedResult => exact ⟨rfl, rfl, rfl, rfl, rfl, rfl, rfl, .inl rfl⟩

theorem Updates.sameReceipt (h : Updates w a current updated) : current.SameReceipt updated := by
  cases h with
  | claim _ hc =>
    rw [claimedItem_eq hc]
    exact ⟨rfl, rfl, rfl, rfl, rfl, rfl, rfl, .inl rfl⟩
  | transition => exact ⟨rfl, rfl, rfl, rfl, rfl, rfl, rfl, .inl rfl⟩
  | attach => exact ⟨rfl, rfl, rfl, rfl, rfl, rfl, rfl, .inl rfl⟩
  | store => exact ⟨rfl, rfl, rfl, rfl, rfl, rfl, rfl, .inl rfl⟩
  | clean => exact clearedItem_sameReceipt _ _ _
  | scan _ hc =>
    rw [claimedItem_eq hc]
    exact ⟨rfl, rfl, rfl, rfl, rfl, rfl, rfl, .inl rfl⟩

namespace QueueStore

theorem existing_none {s : QueueStore} (h : s.existing P key host replayId = .ok none) :
    ∀ i row, s.rows.lookup i = some row → rowTag P row = queueTag P key host →
      i = replayId ∧ row.registered = false := by
  intro i row hl ht
  have hm : (i, row) ∈ s.rows.filter fun row => rowTag P row.2 = queueTag P key host :=
    List.mem_filter.2 ⟨Dict.mem_of_lookup hl, by simpa using ht⟩
  rw [existing] at h
  cases ho : s.catalog (some replayId) with
  | error e => simp [ho, bind, Except.bind] at h
  | ok _ =>
    simp only [ho, bind, Except.bind, findTag] at h
    split at h
    · cases h
    · rename_i found hf
      split at hf
      · rename_i he
        simp [he] at hm
      · rename_i only he
        rw [he, List.mem_singleton] at hm
        cases hf
        subst hm
        simp only [] at h
        split at h
        · rename_i hr
          refine ⟨hr.1, ?_⟩
          simpa [reserved, hl] using hr.2
        · cases hread : s.read i <;> simp [hread, Except.map] at h
      · cases hf

/-- The rows of a sound store with one tag are at most one. -/
theorem Sound.filter_tag {s : QueueStore} (hs : Sound P s) (hl : s.rows.lookup i = some row)
    (ht : rowTag P row = tag) : (s.rows.filter fun r => rowTag P r.2 = tag) = [(i, row)] := by
  have hall : ∀ r ∈ s.rows.filter fun r => rowTag P r.2 = tag, r = (i, row) := by
    rintro ⟨j, row'⟩ hr
    simp only [List.mem_filter, decide_eq_true_eq] at hr
    have hlr := Dict.lookup_of_mem hs.keys hr.1
    have hj := hs.tags hlr hl (hr.2.trans ht.symm)
    subst hj
    rw [hl, Option.some.injEq] at hlr
    rw [hlr]
  have hmem : (i, row) ∈ s.rows.filter fun r => rowTag P r.2 = tag :=
    List.mem_filter.2 ⟨Dict.mem_of_lookup hl, by simpa using ht⟩
  have hnodup : (s.rows.filter fun r => rowTag P r.2 = tag).Nodup :=
    (List.Nodup.of_map _ hs.keys).filter _
  have hrep := List.eq_replicate_of_mem hall
  have hpos := List.length_pos_of_mem hmem
  rw [hrep, List.nodup_replicate] at hnodup
  rw [hrep, Nat.le_antisymm hnodup hpos]
  rfl

theorem Sound.existing_some {s : QueueStore} (hs : Sound P s)
    (h : s.existing P key host replayId = .ok (some item)) :
    s.catalog (some replayId) = .ok () ∧ ∃ i stored, s.rows.lookup i = some ⟨stored, true⟩ ∧
      rowTag P ⟨stored, true⟩ = queueTag P key host ∧ stored.fromFile = some item := by
  rw [existing] at h
  cases ho : s.catalog (some replayId) with
  | error e => simp [ho, bind, Except.bind] at h
  | ok _ =>
    refine ⟨rfl, ?_⟩
    simp only [ho, bind, Except.bind, findTag] at h
    split at h
    · cases h
    · rename_i found hf
      split at hf
      · cases hf
        cases h
      · rename_i only he
        cases hf
        have hm : only ∈ s.rows.filter fun row => rowTag P row.2 = queueTag P key host := by
          rw [he]
          exact List.mem_singleton.2 rfl
        simp only [List.mem_filter, decide_eq_true_eq] at hm
        simp only [] at h
        split at h
        · cases h
        · cases hread : s.read only.1 with
          | error e => simp [hread, Except.map] at h
          | ok back =>
            simp only [hread, Except.map, Except.ok.injEq, Option.some.injEq] at h
            subst h
            obtain ⟨stored, hl, hb⟩ := read_eq_ok_iff.1 hread
            have hrow : only.2 = ⟨stored, true⟩ :=
              Option.some.inj ((Dict.lookup_of_mem hs.keys hm.1).symm.trans hl)
            exact ⟨only.1, stored, hl, hrow ▸ hm.2, hb⟩
      · cases hf

theorem Sound.existing_of_row {s : QueueStore} (hs : Sound P s)
    (ho : s.catalog (some replayId) = .ok ()) (hl : s.rows.lookup i = some ⟨stored, true⟩)
    (ht : rowTag P ⟨stored, true⟩ = queueTag P key host) :
    s.existing P key host replayId = (s.read i).map some := by
  have htag : s.findTag P (queueTag P key host) = .ok (some i) := by
    rw [findTag, hs.filter_tag hl ht]
  have hres : s.reserved i = false := by
    simp [reserved, hl]
  rw [existing, ho]
  simp only [bind, Except.bind, htag]
  split
  · rename_i h
    simp [hres] at h
  · rfl

end QueueStore

theorem QueueChange.sound (h : QueueChange P w a s s') (hs : QueueStore.Sound P s) :
    QueueStore.Sound P s' := by
  cases h with
  | cursor => exact ⟨hs.keys, hs.ids, hs.tags⟩
  | @create item registered _ hc hn =>
    have hown : ∀ i row, s.rows.lookup i = some row →
        QueueStore.rowTag P row = queueTag P item.idempotencyKey item.sourceHostId →
        i = item.queueId := fun i row hl ht => (QueueStore.existing_none hn i row hl ht).1
    refine ⟨Dict.keys_set_nodup hs.keys, ?_, ?_⟩
    · intro i row hl
      rw [Dict.lookup_set] at hl
      split at hl
      · cases hl
        assumption
      · exact hs.ids hl
    · intro i j row row' hl hl' ht
      rw [Dict.lookup_set] at hl hl'
      split at hl <;> split at hl'
      · rename_i hi hj
        exact hi.symm.trans hj
      · rename_i hi hj
        cases hl
        exact absurd (hown j row' hl' ht.symm).symm hj
      · rename_i hi hj
        cases hl'
        exact absurd (hown i row hl ht).symm hi
      · exact hs.tags hl hl' ht
  | @update queueId current updated _ hr hu =>
    obtain ⟨stored, hl, hf⟩ := QueueStore.read_eq_ok_iff.1 hr
    have hsame := (fromFile_sameReceipt hf).trans hu.sameReceipt
    have hid : updated.queueId = queueId := hsame.queueId.trans (hs.ids hl)
    have htag : QueueStore.rowTag P ⟨updated, true⟩ = QueueStore.rowTag P ⟨stored, true⟩ := by
      simp only [QueueStore.rowTag, hsame.idempotencyKey, hsame.sourceHostId]
    rw [hid]
    refine ⟨Dict.keys_set_nodup hs.keys, ?_, ?_⟩
    · intro i row hl'
      rw [Dict.lookup_set] at hl'
      split at hl'
      · cases hl'
        exact hid.trans ‹_›
      · exact hs.ids hl'
    · intro i j row row' hl₁ hl₂ ht
      rw [Dict.lookup_set] at hl₁ hl₂
      split at hl₁ <;> split at hl₂
      · rename_i hi hj
        exact hi.symm.trans hj
      · rename_i hi _
        cases hl₁
        exact hi.symm.trans (hs.tags hl hl₂ (htag.symm.trans ht))
      · rename_i hj
        cases hl₂
        exact (hs.tags hl₁ hl (ht.trans htag)).trans hj
      · exact hs.tags hl₁ hl₂ ht

theorem QueueChanges.invariant {I : QueueStore → Prop} (h : QueueChanges P w a s s')
    (hstep : ∀ t t', QueueChange P w a t t' → I t → I t') (hs : I s) : I s' := by
  induction h with
  | refl => exact hs
  | tail _ hc ih => exact hstep _ _ hc ih

/-- Every reachable queue is sound. -/
theorem queueMachine_sound (P : Platform) (inputs : List QueueAction) :
    QueueStore.Sound P ((queueMachine P).after {} inputs).queue := by
  apply (queueMachine P).invariant (I := fun w => QueueStore.Sound P w.queue)
  · intro w a hs
    exact (queueStep_changes P w a).invariant (fun _ _ hc => hc.sound) hs
  · exact ⟨List.nodup_nil, by simp, by simp⟩

end ExternalIntelligence
