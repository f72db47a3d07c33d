import ExternalIntelligence.RuntimeCatalog
import ExternalIntelligence.TableTotals

namespace ExternalIntelligence.Catalog
set_option autoImplicit true

def CatalogEntry.itemsOf (purpose : String) (entry : CatalogEntry) : Nat :=
  if entry.purpose = purpose then itemCharge purpose else 0

def CatalogEntry.bytesOf (purpose : String) (entry : CatalogEntry) : Nat :=
  if entry.purpose = purpose then entry.size else 0

/-- What is charged to a purpose. -/
def CatalogTables.charged (t : CatalogTables) (purpose : String) : Nat × Nat :=
  (t.accounting.lookup purpose).getD (0, 0)

/-- What a row says about the file of its entry is so, in every phase. -/
structure CatalogEntry.Backed (P : CatalogPlatform) (entry : CatalogEntry)
    (file : Option (List UInt8)) : Prop where
  purpose : entry.purpose ∈ catalogPurposes
  content : ∃ content, P.sha256 content = entry.digest ∧ content.length = entry.targetSize
  covers : ∀ data, file = some data → data.length ≤ entry.size
  settled : entry.phase = .prepared ∨ entry.phase = .registered → entry.size = entry.targetSize
  registered : entry.phase = .registered →
    ∃ data, file = some data ∧ P.sha256 data = entry.digest ∧ data.length = entry.size
  writing : entry.phase = .writing → ∀ data, file = some data →
    P.sha256 data = entry.digest ∨ P.sha256 data = entry.oldDigest
  deleting : entry.phase = .deleting → ∀ data, file = some data → P.sha256 data = entry.digest

/-- The tables fit one another and the payload files. -/
structure Accounts (P : CatalogPlatform) (t : CatalogTables)
    (files : List (String × List UInt8)) : Prop where
  keys : (Dict.keys t.entries).Nodup
  fileKeys : (Dict.keys files).Nodup
  totals : ∀ purpose, t.charged purpose =
    (Dict.total (CatalogEntry.itemsOf purpose) t.entries,
      Dict.total (CatalogEntry.bytesOf purpose) t.entries)
  backed : ∀ id entry, t.entries.lookup id = some entry → entry.Backed P (files.lookup id)
  listed : ∀ id data, files.lookup id = some data → ∃ entry, t.entries.lookup id = some entry

variable {P : CatalogPlatform} {t t' : CatalogTables} {files : List (String × List UInt8)}
  {id : String} {entry : CatalogEntry} {change : CatalogEntry → CatalogEntry}

theorem charges_same {purpose : String} (h : entry.purpose = purpose) :
    entry.itemsOf purpose = itemCharge purpose ∧ entry.bytesOf purpose = entry.size := by
  rw [CatalogEntry.itemsOf, CatalogEntry.bytesOf, if_pos h, if_pos h]
  exact ⟨rfl, rfl⟩

theorem charges_other {purpose : String} (h : entry.purpose ≠ purpose) :
    entry.itemsOf purpose = 0 ∧ entry.bytesOf purpose = 0 := by
  rw [CatalogEntry.itemsOf, CatalogEntry.bytesOf, if_neg h, if_neg h]
  exact ⟨rfl, rfl⟩

/-- A row that is registered with the digest and size of its file. -/
theorem backed_of_registered {data : List UInt8} (hpurpose : entry.purpose ∈ catalogPurposes)
    (hphase : entry.phase = .registered) (hdigest : P.sha256 data = entry.digest)
    (hsize : data.length = entry.size) (htarget : entry.size = entry.targetSize) :
    entry.Backed P (some data) := by
  constructor
  case purpose => exact hpurpose
  case content => exact ⟨data, hdigest, hsize.trans htarget⟩
  case covers =>
    intro data' he
    cases he
    exact hsize.le
  case settled => exact fun _ => htarget
  case registered => exact fun _ => ⟨data, rfl, hdigest, hsize⟩
  case writing =>
    intro hwriting
    rw [hphase] at hwriting
    cases hwriting
  case deleting =>
    intro hdeleting
    rw [hphase] at hdeleting
    cases hdeleting

/-- A file with the digest of a row may take the place of what is there. -/
theorem CatalogEntry.Backed.put {file : Option (List UInt8)} {data : List UInt8}
    (h : entry.Backed P file) (hdigest : P.sha256 data = entry.digest)
    (hsize : data.length ≤ entry.size) (hregistered : entry.phase = .registered →
      data.length = entry.size) : entry.Backed P (some data) := by
  constructor
  case purpose => exact h.purpose
  case content => exact h.content
  case covers =>
    intro data' he
    cases he
    exact hsize
  case settled => exact h.settled
  case registered => exact fun hphase => ⟨data, rfl, hdigest, hregistered hphase⟩
  case writing =>
    intro _ data' he
    cases he
    exact .inl hdigest
  case deleting =>
    intro _ data' he
    cases he
    exact hdigest

theorem lookup_charge (purpose other : String) (size : Nat)
    (accounting : List (String × Nat × Nat)) :
    ((charge purpose size accounting).lookup other).getD (0, 0) =
      if purpose = other then
        (((accounting.lookup other).getD (0, 0)).1 + itemCharge other,
          ((accounting.lookup other).getD (0, 0)).2 + size)
      else (accounting.lookup other).getD (0, 0) := by
  rw [charge, Dict.lookup_set]
  by_cases h : purpose = other
  · rw [if_pos h, if_pos h, h]
    rfl
  · rw [if_neg h, if_neg h]

theorem lookup_discharge (purpose other : String) (size : Nat)
    (accounting : List (String × Nat × Nat)) :
    ((discharge purpose size accounting).lookup other).getD (0, 0) =
      if purpose = other then
        (((accounting.lookup other).getD (0, 0)).1 - itemCharge other,
          ((accounting.lookup other).getD (0, 0)).2 - size)
      else (accounting.lookup other).getD (0, 0) := by
  rw [discharge]
  by_cases h : purpose = other
  · rw [if_pos h, h]
    cases hl : accounting.lookup other with
    | none =>
      simp only [hl, Option.getD_none]
      rw [Nat.zero_sub, Nat.zero_sub]
    | some old =>
      simp only [Dict.lookup_set_self, Option.getD_some]
  · rw [if_neg h]
    cases hl : accounting.lookup purpose with
    | none => rfl
    | some old =>
      simp only
      rw [Dict.lookup_set, if_neg h]

/-- The triggers add the charges of a row that comes and take off those of a row that goes. -/
theorem charged_charge (entry : CatalogEntry) (purpose : String)
    (accounting : List (String × Nat × Nat)) :
    ((charge entry.purpose entry.size accounting).lookup purpose).getD (0, 0) =
      (((accounting.lookup purpose).getD (0, 0)).1 + entry.itemsOf purpose,
        ((accounting.lookup purpose).getD (0, 0)).2 + entry.bytesOf purpose) := by
  rw [lookup_charge]
  by_cases h : entry.purpose = purpose
  · obtain ⟨hitems, hbytes⟩ := charges_same h
    rw [if_pos h, hitems, hbytes]
  · obtain ⟨hitems, hbytes⟩ := charges_other h
    rw [if_neg h, hitems, hbytes]
    rfl

theorem charged_discharge (entry : CatalogEntry) (purpose : String)
    (accounting : List (String × Nat × Nat)) :
    ((discharge entry.purpose entry.size accounting).lookup purpose).getD (0, 0) =
      (((accounting.lookup purpose).getD (0, 0)).1 - entry.itemsOf purpose,
        ((accounting.lookup purpose).getD (0, 0)).2 - entry.bytesOf purpose) := by
  rw [lookup_discharge]
  by_cases h : entry.purpose = purpose
  · obtain ⟨hitems, hbytes⟩ := charges_same h
    rw [if_pos h, hitems, hbytes]
  · obtain ⟨hitems, hbytes⟩ := charges_other h
    rw [if_neg h, hitems, hbytes]
    rfl

/-- A table with the same rows and totals accounts for the same files. -/
theorem Accounts.congr (h : Accounts P t files) (hentries : t'.entries = t.entries)
    (haccounting : t'.accounting = t.accounting) : Accounts P t' files where
  keys := by
    rw [hentries]
    exact h.keys
  fileKeys := h.fileKeys
  totals := by
    intro purpose
    rw [CatalogTables.charged, hentries, haccounting]
    exact h.totals purpose
  backed := by
    rw [hentries]
    exact h.backed
  listed := by
    rw [hentries]
    exact h.listed

theorem Accounts.empty (P : CatalogPlatform) : Accounts P {} [] where
  keys := List.nodup_nil
  fileKeys := List.nodup_nil
  totals := fun _ => rfl
  backed := by
    intro _ _ h
    cases h
  listed := by
    intro _ _ h
    cases h

theorem Accounts.file_none (h : Accounts P t files) (hid : t.entries.lookup id = none) :
    files.lookup id = none := by
  cases hf : files.lookup id with
  | none => rfl
  | some data =>
    obtain ⟨entry, he⟩ := h.listed id data hf
    rw [hid] at he
    cases he

/-- One row may be set where it is backed: the others stay as they are. -/
theorem Accounts.backed_set (h : Accounts P t files) (hb : entry.Backed P (files.lookup id))
    {other : String} {row : CatalogEntry}
    (hl : (Dict.set id entry t.entries).lookup other = some row) :
    row.Backed P (files.lookup other) := by
  rw [Dict.lookup_set] at hl
  split at hl
  · rename_i he
    cases hl
    rw [← he]
    exact hb
  · exact h.backed other row hl

theorem Accounts.listed_set (h : Accounts P t files) (id : String) (entry : CatalogEntry)
    {other : String} {data : List UInt8} (hf : files.lookup other = some data) :
    ∃ row, (Dict.set id entry t.entries).lookup other = some row := by
  obtain ⟨old, hold⟩ := h.listed other data hf
  rw [Dict.lookup_set]
  split
  · exact ⟨entry, rfl⟩
  · exact ⟨old, hold⟩

theorem Accounts.insert (h : Accounts P t files) (hid : t.entries.lookup id = none)
    (hb : entry.Backed P none) : Accounts P (t.insert id entry) files where
  keys := Dict.keys_set_nodup h.keys
  fileKeys := h.fileKeys
  totals := by
    intro purpose
    have hitems := Dict.total_set (CatalogEntry.itemsOf purpose) id entry t.entries
    have hbytes := Dict.total_set (CatalogEntry.bytesOf purpose) id entry t.entries
    have htotals := h.totals purpose
    rw [Dict.measureAt_of_missing hid] at hitems hbytes
    rw [CatalogTables.charged] at htotals
    rw [CatalogTables.charged, CatalogTables.insert, charged_charge, htotals]
    ext <;> simp only <;> omega
  backed := by
    intro id' entry' hl
    rw [← h.file_none hid] at hb
    exact h.backed_set hb hl
  listed := fun id' data hf => h.listed_set id entry hf

theorem Accounts.resize (h : Accounts P t files) (hid : t.entries.lookup id = some entry)
    (hb : (change entry).Backed P (files.lookup id)) : Accounts P (t.resize id change) files := by
  have hresized : t.resize id change =
      { t with
        entries := Dict.set id (change entry) t.entries
        accounting := charge (change entry).purpose (change entry).size
          (discharge entry.purpose entry.size t.accounting) } := by
    rw [CatalogTables.resize, hid]
  rw [hresized]
  constructor
  case keys => exact Dict.keys_set_nodup h.keys
  case fileKeys => exact h.fileKeys
  case totals =>
    intro purpose
    have hitems := Dict.total_set (CatalogEntry.itemsOf purpose) id (change entry) t.entries
    have hbytes := Dict.total_set (CatalogEntry.bytesOf purpose) id (change entry) t.entries
    have htotals := h.totals purpose
    have hold := Dict.total_erase (CatalogEntry.itemsOf purpose) id h.keys
    have holdBytes := Dict.total_erase (CatalogEntry.bytesOf purpose) id h.keys
    rw [Dict.measureAt_of_lookup hid] at hitems hbytes hold holdBytes
    rw [CatalogTables.charged] at htotals
    simp only [CatalogTables.charged]
    rw [charged_charge, charged_discharge, htotals]
    ext <;> simp only <;> omega
  case backed => exact fun id' entry' hl => h.backed_set hb hl
  case listed => exact fun id' data hf => h.listed_set id (change entry) hf

theorem Accounts.setPhase (h : Accounts P t files) (hid : t.entries.lookup id = some entry)
    (hb : ({ entry with phase } : CatalogEntry).Backed P (files.lookup id)) :
    Accounts P (t.setPhase id phase) files := by
  have hset : t.setPhase id phase =
      { t with entries := Dict.set id { entry with phase } t.entries } := by
    rw [CatalogTables.setPhase, hid]
  rw [hset]
  constructor
  case keys => exact Dict.keys_set_nodup h.keys
  case fileKeys => exact h.fileKeys
  case totals =>
    intro purpose
    have hitems := Dict.total_set (CatalogEntry.itemsOf purpose) id { entry with phase } t.entries
    have hbytes := Dict.total_set (CatalogEntry.bytesOf purpose) id { entry with phase } t.entries
    have htotals := h.totals purpose
    rw [Dict.measureAt_of_lookup hid] at hitems hbytes
    rw [CatalogTables.charged] at htotals ⊢
    have hi : ({ entry with phase } : CatalogEntry).itemsOf purpose = entry.itemsOf purpose := rfl
    have hs : ({ entry with phase } : CatalogEntry).bytesOf purpose = entry.bytesOf purpose := rfl
    rw [htotals]
    ext <;> simp only <;> omega
  case backed => exact fun id' entry' hl => h.backed_set hb hl
  case listed => exact fun id' data hf => h.listed_set id { entry with phase } hf

theorem Accounts.remove (h : Accounts P t files) (hfile : files.lookup id = none) :
    Accounts P (t.remove id) files := by
  cases hid : t.entries.lookup id with
  | none =>
    rw [CatalogTables.remove, hid]
    exact h
  | some entry =>
    have hremoved : t.remove id =
        { t with
          entries := t.entries.filter (·.1 != id)
          accounting := discharge entry.purpose entry.size t.accounting } := by
      rw [CatalogTables.remove, hid]
    rw [hremoved]
    constructor
    case keys => exact Dict.keys_erase_nodup h.keys
    case fileKeys => exact h.fileKeys
    case totals =>
      intro purpose
      have hitems := Dict.total_erase (CatalogEntry.itemsOf purpose) id h.keys
      have hbytes := Dict.total_erase (CatalogEntry.bytesOf purpose) id h.keys
      have htotals := h.totals purpose
      rw [Dict.measureAt_of_lookup hid] at hitems hbytes
      rw [CatalogTables.charged] at htotals
      simp only [CatalogTables.charged]
      rw [charged_discharge, htotals]
      ext <;> simp only <;> omega
    case backed =>
      intro id' entry' hl
      simp only [Dict.lookup_erase] at hl
      split at hl
      · cases hl
      · exact h.backed id' entry' hl
    case listed =>
      intro id' data hf
      obtain ⟨old, hold⟩ := h.listed id' data hf
      simp only [Dict.lookup_erase]
      split
      · rename_i he
        rw [he, hfile] at hf
        cases hf
      · exact ⟨old, hold⟩

/-- A file may be put or changed where its row says so. -/
theorem Accounts.setFile (h : Accounts P t files) (hid : t.entries.lookup id = some entry)
    (hb : entry.Backed P (some data)) : Accounts P t (Dict.set id data files) where
  keys := h.keys
  fileKeys := Dict.keys_set_nodup h.fileKeys
  totals := h.totals
  backed := by
    intro id' entry' hl
    rw [Dict.lookup_set]
    split
    · rename_i he
      rw [he, hl] at hid
      cases hid
      exact hb
    · exact h.backed id' entry' hl
  listed := by
    intro id' data' hf
    rw [Dict.lookup_set] at hf
    split at hf
    · rename_i he
      exact ⟨entry, he ▸ hid⟩
    · exact h.listed id' data' hf

theorem Accounts.eraseFile (h : Accounts P t files) (hid : t.entries.lookup id = some entry)
    (hb : entry.Backed P none) : Accounts P t (files.filter (·.1 != id)) where
  keys := h.keys
  fileKeys := Dict.keys_erase_nodup h.fileKeys
  totals := h.totals
  backed := by
    intro id' entry' hl
    rw [Dict.lookup_erase]
    split
    · rename_i he
      rw [he, hid] at hl
      cases hl
      exact hb
    · exact h.backed id' entry' hl
  listed := by
    intro id' data' hf
    rw [Dict.lookup_erase] at hf
    split at hf
    · cases hf
    · exact h.listed id' data' hf

end ExternalIntelligence.Catalog
