import ExternalIntelligence.CatalogAccounting

namespace ExternalIntelligence.Catalog
set_option autoImplicit true

/-- The tables of a root account for its payload files; without tables there are none. -/
def CatalogRoot.Consistent (P : CatalogPlatform) (c : CatalogRoot) : Prop :=
  match c.tables with
  | none => c.files = []
  | some t => Accounts P t c.files

/-- A root with the rows and totals of some tables, and with some payload files. -/
def CatalogRoot.At (t : CatalogTables) (files : List (String × List UInt8)) (c : CatalogRoot) :
    Prop :=
  ∃ t', c.tables = some t' ∧ t'.entries = t.entries ∧ t'.accounting = t.accounting ∧
    c.files = files

variable {P : CatalogPlatform} {t t' : CatalogTables} {files files' : List (String × List UInt8)}
  {id shard : String} {entry : CatalogEntry} {cat : RuntimeCatalog} {c : CatalogRoot}
  {m : CatalogM α} {payload : CatalogPayload} {data : List UInt8} {oldDigest : String}
  {replay : Option (String × CatalogEntry)} {row : String × CatalogEntry}

theorem CatalogRoot.At.consistent (hc : c.At t files) (h : Accounts P t files) :
    c.Consistent P := by
  obtain ⟨t', htables, hentries, haccounting, hfiles⟩ := hc
  rw [CatalogRoot.Consistent, htables, hfiles]
  exact h.congr hentries haccounting

/-- A computation that leaves the rows, totals and files as they are. -/
def Still (m : CatalogM α) : Prop :=
  ∀ t files, Durable.Keeps (CatalogRoot.At t files) (CatalogRoot.At t files) m
    fun _ => CatalogRoot.At t files

namespace Still

theorem keeps (hm : Still m) (h : Accounts P t files) :
    Durable.Keeps (CatalogRoot.Consistent P) (CatalogRoot.At t files) m
      fun _ => CatalogRoot.At t files :=
  (hm t files).loosen fun _ hc => hc.consistent h

theorem pure (a : α) : Still (Pure.pure a) :=
  fun _ _ => Durable.Keeps.pure fun _ hc => hc

theorem raise (e : CatalogFault) : Still (Durable.raise e : CatalogM α) :=
  fun _ _ => Durable.Keeps.raise

theorem read : Still Durable.read :=
  fun _ _ => Durable.Keeps.read fun _ hc => hc

theorem lift (x : Except CatalogFault α) : Still (Durable.lift x) :=
  fun _ _ => Durable.Keeps.lift fun _ _ hc _ => hc

theorem expect (p : Prop) [Decidable p] (code : String) : Still (expect p code) :=
  fun _ _ => Durable.Keeps.require fun _ _ hc => hc

theorem bind {k : α → CatalogM β} (hm : Still m) (hk : ∀ a, Still (k a)) : Still (m >>= k) :=
  fun t files => (hm t files).bind fun a => hk a t files

theorem each {f : α → CatalogM Unit} (hf : ∀ a, Still (f a)) (l : List α) :
    Still (Durable.each f l) :=
  fun t files => Durable.Keeps.each fun a _ => hf a t files

/-- Where an error is turned into another, nothing moves. -/
theorem handle {k : CatalogFault → CatalogM α} (hm : Still m) (hk : ∀ e, Still (k e)) :
    Still (m.handle k) :=
  fun t files => (hm t files).handle (fun _ hc => hc) fun e => hk e t files

theorem commit {f : CatalogRoot → CatalogRoot}
    (hf : ∀ c, (f c).tables = c.tables ∧ (f c).files = c.files) : Still (Durable.commit f) := by
  intro t files
  have hat : ∀ c : CatalogRoot, c.At t files → (f c).At t files := by
    intro c hc
    obtain ⟨t', htables, hentries, haccounting, hfiles⟩ := hc
    exact ⟨t', (hf c).1.trans htables, hentries, haccounting, (hf c).2.trans hfiles⟩
  exact Durable.Keeps.commit hat hat

theorem update {f : CatalogTables → CatalogTables}
    (hf : ∀ t, (f t).entries = t.entries ∧ (f t).accounting = t.accounting) :
    Still (update f) := by
  intro t files
  have hat : ∀ c : CatalogRoot, c.At t files →
      ({ c with tables := c.tables.map f } : CatalogRoot).At t files := by
    intro c hc
    obtain ⟨t', htables, hentries, haccounting, hfiles⟩ := hc
    exact ⟨f t', by rw [htables]; rfl, (hf t').1.trans hentries, (hf t').2.trans haccounting,
      hfiles⟩
  exact Durable.Keeps.commit hat hat

theorem tables : Still tables :=
  read.bind fun c => by
    cases c.tables with
    | none => exact raise _
    | some t => exact pure t

theorem managedPath (id : String) : Still (managedPath id) :=
  expect _ _

theorem ensureShard (P : CatalogPlatform) (id : String) : Still (ensureShard P id) := by
  apply (managedPath id).bind
  intro _
  apply bind
  · apply read.bind
    intro c
    split
    · exact pure ()
    · exact commit fun c => ⟨rfl, rfl⟩
  · intro _
    apply read.bind
    intro c
    split
    · exact pure ()
    · exact commit fun c => ⟨rfl, rfl⟩

theorem digestOf (P : CatalogPlatform) (file : Option (List UInt8)) :
    Still (digestOf P file) := by
  cases file with
  | none => exact raise _
  | some data => exact (expect _ _).bind fun _ => pure _

theorem membership : Still membership :=
  read.bind fun _ => (expect _ _).bind fun _ => pure _

theorem membershipExcept (touched : List String) : Still (membershipExcept touched) :=
  tables.bind fun _ => membership.bind fun _ => (expect _ _).bind fun _ => pure _

theorem cleaned (P : CatalogPlatform) (cat : RuntimeCatalog) (shard name : String) :
    Still (cleaned P cat shard name) := by
  rw [Catalog.cleaned]
  cases cat.cleanTemporary with
  | none => exact pure false
  | some clean =>
    apply (lift _).bind
    intro gone
    cases gone with
    | false => exact pure false
    | true =>
      apply bind (commit fun c => ?_) fun _ => pure true
      exact ⟨rfl, rfl⟩

theorem recallTemporary (P : CatalogPlatform) (cat : RuntimeCatalog) (shard : String) :
    Still (recallTemporary P cat shard) := by
  apply tables.bind
  intro t
  split
  · apply (expect _ _).bind
    intro _
    apply read.bind
    intro c
    split
    · exact (cleaned P cat shard _).bind fun _ => pure ()
    · exact pure ()
  · exact pure ()

theorem enterShard (cat : RuntimeCatalog) (shard : String) : Still (enterShard cat shard) :=
  read.bind fun _ => tables.bind fun _ => (expect _ _).bind fun _ => update fun _ => ⟨rfl, rfl⟩

theorem sweepTemporary (P : CatalogPlatform) (cat : RuntimeCatalog) (shard name : String) :
    Still (sweepTemporary P cat shard name) := by
  apply (expect _ _).bind
  intro _
  apply bind (update fun t => ?_)
  · exact fun _ => (cleaned P cat shard name).bind fun _ => expect _ _
  · exact ⟨rfl, rfl⟩

theorem scanShard (P : CatalogPlatform) (cat : RuntimeCatalog) (shard : String) :
    Still (scanShard P cat shard) :=
  read.bind fun _ => (each (sweepTemporary P cat shard) _).bind fun _ =>
    tables.bind fun _ => (expect _ _).bind fun _ => pure _

theorem confirmShard (P : CatalogPlatform) (cat : RuntimeCatalog) (shard : String)
    (absentId : Option String) : Still (confirmShard P cat shard absentId) := by
  apply bind
  · apply (scanShard P cat shard).bind
    intro first
    split
    · exact (scanShard P cat shard).bind fun _ => (expect _ _).bind fun _ => pure _
    · exact pure _
  · exact fun _ => tables.bind fun _ => expect _ _

theorem shardFault (e : CatalogFault) : Still (shardFault e : CatalogM α) := by
  cases e <;> exact raise _

theorem validateShard (P : CatalogPlatform) (cat : RuntimeCatalog) (shard : String)
    (absentId : Option String) : Still (validateShard P cat shard absentId) := by
  apply (recallTemporary P cat shard).bind
  intro _
  apply (enterShard cat shard).bind
  intro _
  apply ((confirmShard P cat shard absentId).handle fun e => shardFault e).bind
  intro _
  apply bind (update fun t => ?_)
  · intro _
    apply bind (update fun t => ?_)
    · exact fun _ => read.bind fun _ => pure _
    · exact ⟨rfl, rfl⟩
  · exact ⟨rfl, rfl⟩

theorem confirmedMembership (P : CatalogPlatform) (cat : RuntimeCatalog) (shard : String)
    (absentId : Option String) : Still (confirmedMembership P cat shard absentId) :=
  (membershipExcept _).bind fun _ => (validateShard P cat shard absentId).bind fun _ =>
    membership.bind fun _ => (expect _ _).bind fun _ => pure _

theorem ignoreName (ignored : Nat) : Still (ignoreName ignored) := by
  rw [Catalog.ignoreName]
  split
  · apply bind (update fun t => ?_)
    · exact fun _ => raise _
    · exact ⟨rfl, rfl⟩
  · exact pure ()

theorem scanRoot (cat : RuntimeCatalog) (ignored : Nat) (names : List String) :
    Still (scanRoot cat ignored names) := by
  induction names generalizing ignored with
  | nil => exact pure ()
  | cons name names ih =>
    rw [Catalog.scanRoot]
    split
    · exact raise _
    · exact (ignoreName ignored).bind fun _ => ih (ignored + 1)

theorem confirmReplay (P : CatalogPlatform) (cat : RuntimeCatalog)
    (replay : Option (String × CatalogEntry)) : Still (confirmReplay P cat replay) := by
  cases replay with
  | none => exact pure ()
  | some row => exact (validateShard P cat _ _).bind fun _ => pure ()

theorem known (P : CatalogPlatform) (cat : RuntimeCatalog)
    (replay : Option (String × CatalogEntry)) : Still (known P cat replay) := by
  apply tables.bind
  intro t
  split
  · exact raise _
  · exact (expect _ _).bind fun _ => (expect _ _).bind fun _ => (membershipExcept _).bind fun _ =>
      (confirmReplay P cat replay).bind fun _ => read.bind fun _ =>
        (scanRoot cat 0 _).bind fun _ => tables.bind fun _ => lift _

end Still
end ExternalIntelligence.Catalog
