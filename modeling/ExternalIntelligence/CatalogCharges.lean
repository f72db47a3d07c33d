import ExternalIntelligence.CatalogRuns
import ExternalIntelligence.JournalReading
import ExternalIntelligence.PathQuoting

namespace ExternalIntelligence.Catalog
set_option autoImplicit true

variable {P : CatalogPlatform} {t : CatalogTables} {files : List (String × List UInt8)}
  {cat : RuntimeCatalog} {c : CatalogRoot}
  {id purpose : String} {entry : CatalogEntry} {data : List UInt8}

namespace CatalogRoot

/-- The rows of the table `entries`. -/
def entries (c : CatalogRoot) : List (String × CatalogEntry) :=
  (c.tables.map CatalogTables.entries).getD []

def rowsOf (c : CatalogRoot) (purpose : String) : List (String × CatalogEntry) :=
  c.entries.filter fun row => row.2.purpose = purpose

/-- The items and bytes of a purpose in the table `accounting`. -/
def charged (c : CatalogRoot) (purpose : String) : Nat × Nat :=
  (c.tables.map fun t => t.charged purpose).getD (0, 0)

/-- The bytes of the payload files of a purpose on disk. -/
def storedBytes (c : CatalogRoot) (purpose : String) : Nat :=
  ((c.files.filter fun file => (c.entries.lookup file.1).any (·.purpose = purpose)).map
    fun file => file.2.length).sum

/-- No purpose is charged less than what stands in its rows and on disk. -/
structure ChargesEnough (P : CatalogPlatform) (c : CatalogRoot) : Prop where
  accounting : ∀ purpose, c.charged purpose = (itemCharge purpose * (c.rowsOf purpose).length,
    ((c.rowsOf purpose).map fun row => row.2.size).sum)
  covered : ∀ id data, c.files.lookup id = some data →
    ∃ entry, c.entries.lookup id = some entry ∧ data.length ≤ entry.size
  answered : ∀ cat purpose charged, (RuntimeCatalog.capacity P cat purpose c).2 = .ok charged →
    c.storedBytes purpose ≤ charged.2

end CatalogRoot

theorem total_items (purpose : String) (entries : List (String × CatalogEntry)) :
    Dict.total (CatalogEntry.itemsOf purpose) entries =
      itemCharge purpose * (entries.filter fun row => row.2.purpose = purpose).length := by
  induction entries with
  | nil => rfl
  | cons row entries ih =>
    obtain ⟨id, entry⟩ := row
    rw [Dict.total_cons, ih]
    by_cases h : entry.purpose = purpose
    · rw [(charges_same h).1, List.filter_cons_of_pos (by simpa using h), List.length_cons,
        Nat.mul_add, Nat.mul_one, Nat.add_comm]
    · rw [(charges_other h).1, List.filter_cons_of_neg (by simpa using h), Nat.zero_add]

theorem total_bytes (purpose : String) (entries : List (String × CatalogEntry)) :
    Dict.total (CatalogEntry.bytesOf purpose) entries =
      ((entries.filter fun row => row.2.purpose = purpose).map fun row => row.2.size).sum := by
  induction entries with
  | nil => rfl
  | cons row entries ih =>
    obtain ⟨id, entry⟩ := row
    rw [Dict.total_cons, ih]
    by_cases h : entry.purpose = purpose
    · rw [(charges_same h).2, List.filter_cons_of_pos (by simpa using h), List.map_cons,
        List.sum_cons]
    · rw [(charges_other h).2, List.filter_cons_of_neg (by simpa using h), Nat.zero_add]

theorem storedBytes_le (h : Accounts P t files) (purpose : String) :
    ((files.filter fun file => (t.entries.lookup file.1).any (·.purpose = purpose)).map
      fun file => file.2.length).sum ≤ Dict.total (CatalogEntry.bytesOf purpose) t.entries := by
  apply Dict.sum_le_total (h.fileKeys.sublist (List.filter_sublist.map _)) h.keys
  intro file hm
  obtain ⟨hfile, hpurpose⟩ := List.mem_filter.1 hm
  have hlookup := Dict.lookup_of_mem h.fileKeys hfile
  cases he : t.entries.lookup file.1 with
  | none =>
    rw [he] at hpurpose
    cases hpurpose
  | some entry =>
    rw [he, Option.any_some, decide_eq_true_eq] at hpurpose
    rw [Dict.measureAt_of_lookup he, (charges_same hpurpose).2]
    exact (h.backed _ _ he).covers _ hlookup

theorem lookup_of_take {d : List (String × Nat × Nat)} {n : Nat}
    (h : (d.take n).lookup purpose = some total) : d.lookup purpose = some total := by
  have hsplit := List.take_append_drop n d
  rw [← hsplit, List.lookup_append, h]
  rfl

/-- Totals that pass the check of the accounting are those of the rows. -/
theorem totals_bytes (h : Accounts P t files) {totals : List (String × Nat × Nat)}
    (htotals : t.totals = .ok totals) (purpose : String) :
    Dict.total (CatalogEntry.bytesOf purpose) t.entries =
      ((totals.lookup purpose).getD (0, 0)).2 := by
  rw [CatalogTables.totals] at htotals
  split at htotals
  · rename_i hchecked
    cases htotals
    cases hl : (t.accounting.take 7).lookup purpose with
    | some total =>
      have hcharged := h.totals purpose
      rw [CatalogTables.charged, lookup_of_take hl] at hcharged
      exact (congrArg Prod.snd hcharged).symm
    | none =>
      rw [Option.getD_none, total_bytes]
      apply List.sum_eq_zero
      intro size hsize
      obtain ⟨row, hrow, _⟩ := List.mem_map.1 hsize
      obtain ⟨hrow, hpurpose⟩ := List.mem_filter.1 hrow
      rw [decide_eq_true_eq] at hpurpose
      have hknown := (h.backed _ _ (Dict.lookup_of_mem h.keys hrow)).purpose
      rw [hpurpose] at hknown
      exfalso
      apply hchecked.2
      rw [List.any_eq_true]
      have hpresent : (t.entries.any fun row => row.2.purpose = purpose) = true := by
        rw [List.any_eq_true]
        exact ⟨row, hrow, decide_eq_true hpurpose⟩
      have hmisfits : t.misfits (t.accounting.take 7) purpose = true := by
        simp [CatalogTables.misfits, hpresent, hl]
      exact ⟨purpose, hknown, hmisfits⟩
  · cases htotals

theorem connection_at : Runs P t files connection fun _ => CatalogRoot.At t files := by
  have hread : Runs P t files Durable.read fun c s => c.At t files ∧ s.At t files :=
    Durable.Keeps.read fun c hc => ⟨hc, hc⟩
  apply hread.bind_fact
  intro c hc
  obtain ⟨t', htables, _⟩ := hc
  rw [htables]
  exact Durable.Keeps.pure fun s hs => hs

/-- What a catalog answers is its table `accounting`, checked against the rows. -/
theorem known_totals (h : Accounts P t files) : Runs P t files (known P cat none)
    fun totals s => (∃ u, Accounts P u files ∧ u.entries = t.entries ∧ u.totals = .ok totals) ∧
      s.At t files := by
  apply (Still.tables.keeps h).bind
  intro _
  split
  · exact Durable.Keeps.raise
  · apply ((Still.expect _ _).keeps h).bind
    intro _
    apply ((Still.expect _ _).keeps h).bind
    intro _
    apply ((Still.membershipExcept _).keeps h).bind
    intro _
    apply ((Still.confirmReplay P cat none).keeps h).bind
    intro _
    apply (Still.read.keeps h).bind
    intro _
    apply ((Still.scanRoot cat 0 _).keeps h).bind
    intro _
    apply tables_at.bind_fact
    intro u hu
    apply Durable.Keeps.lift
    intro s totals hs htotals
    exact ⟨⟨u, h.congr hu.1 hu.2, hu.1, htotals⟩, hs⟩

theorem CatalogRoot.Consistent.charged_rows (h : c.Consistent P) (purpose : String) :
    c.charged purpose = (itemCharge purpose * (c.rowsOf purpose).length,
      ((c.rowsOf purpose).map fun row => row.2.size).sum) := by
  rw [CatalogRoot.Consistent] at h
  rw [CatalogRoot.rowsOf, CatalogRoot.charged, CatalogRoot.entries]
  cases htables : c.tables with
  | none => rfl
  | some t =>
    simp only [htables] at h
    simp only [Option.map_some, Option.getD_some]
    rw [h.totals purpose, total_items, total_bytes]

theorem CatalogRoot.Consistent.file_covered (h : c.Consistent P)
    (hfile : c.files.lookup id = some data) :
    ∃ entry, c.entries.lookup id = some entry ∧ data.length ≤ entry.size := by
  rw [CatalogRoot.Consistent] at h
  rw [CatalogRoot.entries]
  cases htables : c.tables with
  | none =>
    simp only [htables] at h
    rw [h] at hfile
    cases hfile
  | some t =>
    simp only [htables] at h
    obtain ⟨entry, he⟩ := h.listed id data hfile
    exact ⟨entry, he, (h.backed id entry he).covers data hfile⟩

theorem CatalogRoot.Consistent.backed (h : c.Consistent P)
    (hrow : c.entries.lookup id = some entry) : entry.Backed P (c.files.lookup id) := by
  rw [CatalogRoot.Consistent] at h
  rw [CatalogRoot.entries] at hrow
  cases htables : c.tables with
  | none =>
    rw [htables] at hrow
    cases hrow
  | some t =>
    simp only [htables] at h
    rw [htables] at hrow
    exact h.backed id entry hrow

/-- A capacity that is answered is at least what is stored. -/
theorem capacity_stored (h : c.Consistent P) {charged : Nat × Nat}
    (hanswer : (cat.capacity P purpose c).2 = .ok charged) :
    c.storedBytes purpose ≤ charged.2 := by
  cases htables : c.tables with
  | none =>
    have hfiles : c.files = [] := by
      rw [CatalogRoot.Consistent, htables] at h
      exact h
    rw [CatalogRoot.storedBytes, hfiles]
    exact Nat.zero_le _
  | some t =>
    have ht : Accounts P t c.files := by
      rw [CatalogRoot.Consistent, htables] at h
      exact h
    have hrun : Runs P t c.files (cat.capacity P purpose)
        fun charged _ => Dict.total (CatalogEntry.bytesOf purpose) t.entries = charged.2 := by
      apply connection_at.bind
      intro _
      apply (known_totals ht).bind_fact
      intro totals htotals
      obtain ⟨u, hu, hentries, hchecked⟩ := htotals
      apply Durable.Keeps.pure
      intro _ _
      rw [← hentries]
      exact totals_bytes hu hchecked purpose
    have hbytes := hrun.returns c ⟨t, htables, rfl, rfl, rfl⟩ charged hanswer
    rw [← hbytes]
    have hstored := storedBytes_le ht purpose
    rw [CatalogRoot.storedBytes, CatalogRoot.entries, htables]
    exact hstored

/-- A root that was not opened yet has no payload files in `managed`. -/
theorem consistent_unopened (P : CatalogPlatform) (names : List (String × List UInt8)) :
    CatalogRoot.Consistent P { names } :=
  rfl

/-- Over every sequence of calls, each of them carried out or killed after any of its commits, the
totals are those of the rows, and the rows cover the files. -/
theorem catalog_never_undercharges (hP : Function.Injective P.sha256)
    (names : List (String × List UInt8)) (calls : List (CatalogCall × Option Nat)) :
    (catalogRun P { names } calls).ChargesEnough P := by
  have hc := catalogRun_consistent hP calls (consistent_unopened P names)
  constructor
  · intro purpose
    exact hc.charged_rows purpose
  · intro id data hfile
    exact hc.file_covered hfile
  · intro cat purpose charged hanswer
    exact capacity_stored hc hanswer

/-- A platform whose digest of bytes is their hexadecimal digits. -/
def sampleCatalog : CatalogPlatform where
  sha256 data := String.ofList (data.flatMap fun b => hexDigits 2 b.toNat)
  modified n := n

def hexValue (digits : List Char) : Nat :=
  digits.foldl (fun n c => 16 * n + if Text.isDigit c then c.toNat - 48 else c.toNat - 87) 0

theorem hexValue_byte (b : UInt8) : hexValue (hexDigits 2 b.toNat) = b.toNat := by
  revert b
  apply Quoting.forall_byte
  decide +kernel

theorem hexDigits_injective {l l' : List UInt8}
    (h : l.flatMap (fun b => hexDigits 2 b.toNat) = l'.flatMap fun b => hexDigits 2 b.toNat) :
    l = l' := by
  induction l generalizing l' with
  | nil =>
    cases l' with
    | nil => rfl
    | cons b l' =>
      have hlength := congrArg List.length h
      simp [hexDigits_length] at hlength
      omega
  | cons a l ih =>
    cases l' with
    | nil =>
      have hlength := congrArg List.length h
      simp [hexDigits_length] at hlength
    | cons b l' =>
      rw [List.flatMap_cons, List.flatMap_cons] at h
      obtain ⟨hbyte, hrest⟩ := List.append_inj h
        ((hexDigits_length 2 _).trans (hexDigits_length 2 _).symm)
      have hvalue := congrArg hexValue hbyte
      rw [hexValue_byte, hexValue_byte] at hvalue
      rw [UInt8.toNat_inj.1 hvalue, ih hrest]

theorem sampleCatalog_injective : Function.Injective sampleCatalog.sha256 := by
  intro l l' h
  exact hexDigits_injective (String.ofList_injective h)

def sampleEntry : CatalogPayload where
  data := [1, 2]
  purpose := "validated-result"

/-- A root is opened, an entry written, and its replacement killed before the new file is there. -/
def sampleCatalogCalls : List (CatalogCall × Option Nat) :=
  [(.migratePage {} {} 64, none), (.write {} "a" sampleEntry, none),
    (.write {} "a" { sampleEntry with data := [3] }, some 1)]

theorem catalog_never_undercharges_sample :
    (catalogRun sampleCatalog {} sampleCatalogCalls).ChargesEnough sampleCatalog :=
  catalog_never_undercharges sampleCatalog_injective [] sampleCatalogCalls

theorem validated_results_uncharged :
    ¬∀ purpose, (catalogRun sampleCatalog {} sampleCatalogCalls).charged purpose =
      (((catalogRun sampleCatalog {} sampleCatalogCalls).rowsOf purpose).length,
        (((catalogRun sampleCatalog {} sampleCatalogCalls).rowsOf purpose).map
          fun row => row.2.size).sum) := by
  intro h
  have hresult := h "validated-result"
  revert hresult
  decide +kernel

/-- Wherever calls were killed, every row tells what the file of its entry can be. -/
theorem catalog_rows_backed (hP : Function.Injective P.sha256)
    (names : List (String × List UInt8)) (calls : List (CatalogCall × Option Nat))
    (hrow : (catalogRun P { names } calls).entries.lookup id = some entry) :
    entry.Backed P ((catalogRun P { names } calls).files.lookup id) :=
  (catalogRun_consistent hP calls (consistent_unopened P names)).backed hrow

/-- The row of the replacement that was killed. -/
def sampleRow : CatalogEntry where
  shard := "61"
  phase := .writing
  digest := "03"
  size := 2
  purpose := "validated-result"
  targetSize := 1
  oldDigest := "0102"

theorem catalog_rows_backed_sample :
    (catalogRun sampleCatalog {} sampleCatalogCalls).entries.lookup "a" = some sampleRow ∧
      sampleRow.Backed sampleCatalog
        ((catalogRun sampleCatalog {} sampleCatalogCalls).files.lookup "a") := by
  have hrow : (catalogRun sampleCatalog {} sampleCatalogCalls).entries.lookup "a" =
      some sampleRow := by
    decide +kernel
  exact ⟨hrow, catalog_rows_backed sampleCatalog_injective [] sampleCatalogCalls hrow⟩

end ExternalIntelligence.Catalog
