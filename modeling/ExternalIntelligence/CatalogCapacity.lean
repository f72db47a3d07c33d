import ExternalIntelligence.CatalogSafety

namespace ExternalIntelligence.Catalog
set_option autoImplicit true

variable {P : CatalogPlatform} {t t' : CatalogTables} {files files' : List (String × List UInt8)}
  {id shard : String} {entry : CatalogEntry} {cat : RuntimeCatalog} {c : CatalogRoot}
  {m : CatalogM α} {payload : CatalogPayload} {data : List UInt8} {oldDigest : String}
  {replay : Option (String × CatalogEntry)} {row : String × CatalogEntry}

/-- A computation from tables and files that account for one another. -/
abbrev Runs (P : CatalogPlatform) (t : CatalogTables) (files : List (String × List UInt8))
    (m : CatalogM α) (post : α → CatalogRoot → Prop) : Prop :=
  Durable.Keeps (CatalogRoot.Consistent P) (CatalogRoot.At t files) m post

theorem read_files : Runs P t files Durable.read
    fun c s => (c.files = files) ∧ s.At t files := by
  apply Durable.Keeps.read
  intro c hc
  have hat := hc
  obtain ⟨_, _, _, _, hfiles⟩ := hc
  exact ⟨hfiles, hat⟩

theorem tables_at : Runs P t files tables
    fun t' s => (t'.entries = t.entries ∧ t'.accounting = t.accounting) ∧ s.At t files := by
  have hread : Runs P t files Durable.read fun c s => c.At t files ∧ s.At t files :=
    Durable.Keeps.read fun c hc => ⟨hc, hc⟩
  apply hread.bind_fact
  intro c hc
  obtain ⟨t', htables, hentries, haccounting, _⟩ := hc
  rw [htables]
  exact Durable.Keeps.pure fun s hs => ⟨⟨hentries, haccounting⟩, hs⟩

theorem expect_at {p : Prop} [Decidable p] {code : String} :
    Runs P t files (expect p code) fun _ s => p ∧ s.At t files :=
  Durable.Keeps.require fun hp _ hs => ⟨hp, hs⟩

theorem digestOf_at {file : Option (List UInt8)} : Runs P t files (digestOf P file)
    fun actual s => (∃ data, file = some data ∧ actual = (P.sha256 data, data.length)) ∧
      s.At t files := by
  cases file with
  | none => exact Durable.Keeps.raise
  | some data =>
    apply expect_at.bind_fact
    intro _ _
    exact Durable.Keeps.pure fun s hs => ⟨⟨data, rfl, rfl⟩, hs⟩

theorem commit_at {f : CatalogRoot → CatalogRoot} (h : Accounts P t files')
    (hf : ∀ c, c.files = files → (f c).tables = c.tables ∧ (f c).files = files') :
    Runs P t files (Durable.commit f) fun _ => CatalogRoot.At t files' := by
  have hat : ∀ c : CatalogRoot, c.At t files → (f c).At t files' := by
    intro c hc
    obtain ⟨t', htables, hentries, haccounting, hfiles⟩ := hc
    exact ⟨t', (hf c hfiles).1.trans htables, hentries, haccounting, (hf c hfiles).2⟩
  exact Durable.Keeps.commit (fun c hc => (hat c hc).consistent h) hat

theorem update_at {f : CatalogTables → CatalogTables} (h : Accounts P t' files)
    (hf : ∀ u, u.entries = t.entries → u.accounting = t.accounting →
      (f u).entries = t'.entries ∧ (f u).accounting = t'.accounting) :
    Runs P t files (update f) fun _ => CatalogRoot.At t' files := by
  have hat : ∀ c : CatalogRoot, c.At t files →
      ({ c with tables := c.tables.map f } : CatalogRoot).At t' files := by
    intro c hc
    obtain ⟨u, htables, hentries, haccounting, hfiles⟩ := hc
    obtain ⟨he, ha⟩ := hf u hentries haccounting
    exact ⟨f u, by rw [htables]; rfl, he, ha, hfiles⟩
  exact Durable.Keeps.commit (fun c hc => (hat c hc).consistent h) hat

/-- The rows and totals after a change depend on those before it alone. -/
theorem resize_congr {u : CatalogTables} {change : CatalogEntry → CatalogEntry}
    (hentries : u.entries = t.entries) (haccounting : u.accounting = t.accounting) :
    (u.resize id change).entries = (t.resize id change).entries ∧
      (u.resize id change).accounting = (t.resize id change).accounting := by
  rw [CatalogTables.resize, CatalogTables.resize, hentries, haccounting]
  cases t.entries.lookup id with
  | none => exact ⟨hentries, haccounting⟩
  | some old => exact ⟨rfl, rfl⟩

theorem setPhase_congr {u : CatalogTables} {phase : EntryPhase}
    (hentries : u.entries = t.entries) (haccounting : u.accounting = t.accounting) :
    (u.setPhase id phase).entries = (t.setPhase id phase).entries ∧
      (u.setPhase id phase).accounting = (t.setPhase id phase).accounting := by
  rw [CatalogTables.setPhase, CatalogTables.setPhase, hentries]
  cases t.entries.lookup id with
  | none => exact ⟨hentries, haccounting⟩
  | some old => exact ⟨rfl, haccounting⟩

theorem remove_congr {u : CatalogTables}
    (hentries : u.entries = t.entries) (haccounting : u.accounting = t.accounting) :
    (u.remove id).entries = (t.remove id).entries ∧
      (u.remove id).accounting = (t.remove id).accounting := by
  rw [CatalogTables.remove, CatalogTables.remove, hentries, haccounting]
  cases t.entries.lookup id with
  | none => exact ⟨hentries, haccounting⟩
  | some old => exact ⟨rfl, rfl⟩

theorem insert_congr {u : CatalogTables}
    (hentries : u.entries = t.entries) (haccounting : u.accounting = t.accounting) :
    (u.insert id entry).entries = (t.insert id entry).entries ∧
      (u.insert id entry).accounting = (t.insert id entry).accounting := by
  rw [CatalogTables.insert, CatalogTables.insert, hentries, haccounting]
  exact ⟨rfl, rfl⟩

theorem reserve_congr {u : CatalogTables}
    (hentries : u.entries = t.entries) (haccounting : u.accounting = t.accounting) :
    (u.reserve id entry).entries = (t.reserve id entry).entries ∧
      (u.reserve id entry).accounting = (t.reserve id entry).accounting := by
  rw [CatalogTables.reserve, CatalogTables.reserve, hentries]
  cases t.entries.lookup id with
  | none => exact insert_congr hentries haccounting
  | some old => exact resize_congr hentries haccounting

theorem prepare_congr {u : CatalogTables}
    (hentries : u.entries = t.entries) (haccounting : u.accounting = t.accounting) :
    (u.prepare id entry).entries = (t.prepare id entry).entries ∧
      (u.prepare id entry).accounting = (t.prepare id entry).accounting := by
  rw [CatalogTables.prepare, CatalogTables.prepare, hentries]
  cases t.entries.lookup id with
  | none => exact insert_congr hentries haccounting
  | some old => exact setPhase_congr hentries haccounting

/-- Only the row of one entry has changed, and the files are accounted for. -/
def Moved (P : CatalogPlatform) (id : String) (t : CatalogTables) (c : CatalogRoot) : Prop :=
  ∃ t' files', Accounts P t' files' ∧ c.At t' files' ∧
    ∀ other, other ≠ id → t'.entries.lookup other = t.entries.lookup other

theorem Moved.consistent (h : Moved P id t c) : c.Consistent P := by
  obtain ⟨t', files', h', hc, _⟩ := h
  exact hc.consistent h'

theorem moved_of_still (h : Accounts P t files) (hc : c.At t files) : Moved P id t c :=
  ⟨t, files, h, hc, fun _ _ => rfl⟩

theorem lookup_resize {change : CatalogEntry → CatalogEntry} {other : String} (h : other ≠ id) :
    (t.resize id change).entries.lookup other = t.entries.lookup other := by
  rw [CatalogTables.resize]
  cases t.entries.lookup id with
  | none => rfl
  | some old => exact Dict.lookup_set_of_ne (Ne.symm h) _ _

/-- A row is registered where its file is there in full. -/
theorem settleEntry_registers (h : Accounts P t files) (hid : t.entries.lookup id = some entry)
    (hfile : files.lookup id = some data) (hdigest : P.sha256 data = entry.digest)
    (hsize : data.length = entry.targetSize) :
    Runs P t files (settleEntry P cat id shard false) fun _ => Moved P id t := by
  apply ((Still.confirmedMembership P cat shard none).keeps h).bind
  intro after
  have hregistered : Accounts P (t.register id) files := by
    apply h.resize hid
    rw [hfile]
    exact backed_of_registered (h.backed id entry hid).purpose rfl hdigest hsize rfl
  apply Durable.Keeps.weaken (update_at hregistered ?_)
  · intro _ c hc
    exact ⟨_, files, hregistered, hc, fun other ho => lookup_resize ho⟩
  · intro u hu hu'
    exact resize_congr hu hu'

theorem settleEntry_removes (h : Accounts P t files) (hfile : files.lookup id = none) :
    Runs P t files (settleEntry P cat id shard true) fun _ => CatalogRoot.Consistent P := by
  apply ((Still.confirmedMembership P cat shard (some id)).keeps h).bind
  intro after
  have hremoved : Accounts P (t.remove id) files := h.remove hfile
  apply Durable.Keeps.weaken (update_at hremoved ?_)
  · intro _ c hc
    exact hc.consistent hremoved
  · intro u hu hu'
    exact remove_congr hu hu'

/-- The row that a write reserves is there for its digest and for the larger of both sizes. -/
theorem reserve_backed (shard : String) (h : Accounts P t files)
    (hpurpose : payload.purpose ∈ catalogPurposes)
    (hold : ∀ data, files.lookup id = some data →
      P.sha256 data = P.sha256 payload.data ∨ P.sha256 data = oldDigest) :
    Accounts P (t.reserve id (payload.entry P shard oldDigest)) files ∧
      ∃ entry, (t.reserve id (payload.entry P shard oldDigest)).entries.lookup id = some entry ∧
        entry.phase = .writing ∧ entry.digest = P.sha256 payload.data ∧
        entry.targetSize = payload.data.length ∧ payload.data.length ≤ entry.size := by
  cases hid : t.entries.lookup id with
  | none =>
    have hreserved : t.reserve id (payload.entry P shard oldDigest) =
        t.insert id (payload.entry P shard oldDigest) := by
      rw [CatalogTables.reserve, hid]
    rw [hreserved]
    constructor
    · apply h.insert hid
      constructor
      case purpose => exact hpurpose
      case content => exact ⟨payload.data, rfl, rfl⟩
      case settled => exact fun _ => rfl
      case registered =>
        intro hphase
        cases hphase
      all_goals
        intros
        contradiction
    · exact ⟨_, Dict.lookup_set_self _ _ _, rfl, rfl, rfl, Nat.le_refl _⟩
  | some old =>
    have hreserved : t.reserve id (payload.entry P shard oldDigest) =
        t.resize id fun old => { payload.entry P shard oldDigest with
          shard := old.shard, size := max old.size (payload.entry P shard oldDigest).size } := by
      rw [CatalogTables.reserve, hid]
    rw [hreserved]
    constructor
    · apply h.resize hid
      constructor
      case purpose => exact hpurpose
      case content => exact ⟨payload.data, rfl, rfl⟩
      case covers =>
        intro data hf
        exact ((h.backed id old hid).covers data hf).trans (Nat.le_max_left ..)
      case writing => exact fun _ => hold
      case settled =>
        intro hphase
        cases hphase <;> contradiction
      case registered =>
        intro hphase
        cases hphase
      case deleting =>
        intro hphase
        cases hphase
    · rw [CatalogTables.resize, hid]
      exact ⟨_, Dict.lookup_set_self _ _ _, rfl, rfl, rfl, Nat.le_max_right ..⟩

theorem writeFile_at (h : Accounts P t files) (hwritten : Accounts P t (Dict.set id data files)) :
    Runs P t files (writeFile P id data) fun _ => CatalogRoot.At t (Dict.set id data files) := by
  apply Durable.Keeps.bind (Still.keeps (Still.commit ?_) h)
  · intro _
    apply commit_at hwritten
    intro c hc
    exact ⟨rfl, congrArg (Dict.set id data) hc⟩
  · exact fun c => ⟨rfl, rfl⟩

theorem storePayload_keeps (h : Accounts P t files) (hpurpose : payload.purpose ∈ catalogPurposes)
    (hold : ∀ data, files.lookup id = some data →
      P.sha256 data = P.sha256 payload.data ∨ P.sha256 data = oldDigest) :
    Runs P t files (storePayload P cat id oldDigest payload)
      fun _ => CatalogRoot.Consistent P := by
  obtain ⟨hreserved, entry, hid, hphase, hdigest, htarget, hsize⟩ :=
    reserve_backed (shardOf P id) h hpurpose hold
  have hwritten : Accounts P (t.reserve id (payload.entry P (shardOf P id) oldDigest))
      (Dict.set id payload.data files) := by
    apply hreserved.setFile hid
    apply (hreserved.backed id entry hid).put hdigest.symm hsize
    intro hregistered
    rw [hphase] at hregistered
    cases hregistered
  have hreserve : Runs P t files (update fun t => bumpRevision (shardOf P id)
      (t.reserve id (payload.entry P (shardOf P id) oldDigest))) fun _ => CatalogRoot.At
        (t.reserve id (payload.entry P (shardOf P id) oldDigest)) files := by
    apply update_at hreserved
    intro u hu hu'
    exact reserve_congr hu hu'
  apply hreserve.bind
  intro _
  apply ((Still.ensureShard P id).keeps hreserved).bind
  intro _
  apply (writeFile_at hreserved hwritten).bind
  intro _
  apply (Still.read.keeps hwritten).bind
  intro c
  apply ((Still.digestOf P _).keeps hwritten).bind
  intro actual
  apply ((Still.expect _ _).keeps hwritten).bind
  intro _
  apply tables_at.bind_fact
  intro u hu
  rw [hu.1, hid]
  exact (settleEntry_registers hwritten hid (Dict.lookup_set_self _ _ _) hdigest.symm
    htarget.symm).weaken fun _ _ hm => hm.consistent

/-- Whatever the catalog takes for the file of an entry is the managed file, where there is one. -/
theorem lookupEntry_at (h : Accounts P t files) : Runs P t files (lookupEntry P id)
    fun file s => (∀ data, files.lookup id = some data → file = some data) ∧ s.At t files := by
  apply ((Still.managedPath id).keeps h).bind
  intro _
  apply read_files.bind_fact
  intro c hfiles
  rw [hfiles]
  split
  · rename_i data flat hdata hflat
    apply ((Still.digestOf P _).keeps h).bind
    intro managed
    apply ((Still.digestOf P _).keeps h).bind
    intro other
    apply ((Still.expect _ _).keeps h).bind
    intro _
    apply Durable.Keeps.pure
    intro s hs
    exact ⟨fun data' hd => hdata.symm.trans hd, hs⟩
  · rename_i data hdata hflat
    apply Durable.Keeps.pure
    intro s hs
    exact ⟨fun data' hd => hdata.symm.trans hd, hs⟩
  · rename_i flat hdata
    apply Durable.Keeps.pure
    intro s hs
    constructor
    · intro data' hd
      rw [hdata] at hd
      cases hd
    · exact hs

/-- A row is taken out after its file. -/
theorem removeEntry_keeps (h : Accounts P t files) (hid : t.entries.lookup id = some entry)
    (hdigest : ∀ data, files.lookup id = some data → P.sha256 data = entry.digest) :
    Runs P t files (removeEntry P cat id shard) fun _ => CatalogRoot.Consistent P := by
  have hset : t.setPhase id .deleting =
      { t with entries := Dict.set id { entry with phase := .deleting } t.entries } := by
    rw [CatalogTables.setPhase, hid]
  have hbacked : ∀ file, (∀ data, file = some data → files.lookup id = some data) →
      ({ entry with phase := .deleting } : CatalogEntry).Backed P file := by
    intro file hfile
    constructor
    case purpose => exact (h.backed id entry hid).purpose
    case content => exact (h.backed id entry hid).content
    case covers => exact fun data he => (h.backed id entry hid).covers data (hfile data he)
    case deleting => exact fun _ data he => hdigest data (hfile data he)
    case settled =>
      intro hphase
      cases hphase <;> contradiction
    case registered =>
      intro hphase
      cases hphase
    case writing =>
      intro hphase
      cases hphase
  have hdeleting : Accounts P (t.setPhase id .deleting) files :=
    h.setPhase hid (hbacked _ fun _ he => he)
  have herased : Accounts P (t.setPhase id .deleting) (files.filter (·.1 != id)) := by
    apply hdeleting.eraseFile
    · rw [hset]
      exact Dict.lookup_set_self _ _ _
    · apply hbacked none
      intro data he
      cases he
  apply (update_at hdeleting fun u hu hu' => setPhase_congr hu hu').bind
  intro _
  have hunlinked : Runs P (t.setPhase id .deleting) files
      (Durable.commit fun c =>
        { c with files := c.files.filter (·.1 != id) }.touch P (shardOf P id))
      fun _ => CatalogRoot.At (t.setPhase id .deleting) (files.filter (·.1 != id)) := by
    apply commit_at herased
    intro c hc
    rw [← hc]
    exact ⟨rfl, rfl⟩
  apply hunlinked.bind
  intro _
  apply settleEntry_removes herased
  rw [Dict.lookup_erase, if_pos rfl]

/-- A file that is confirmed is what the row says. -/
theorem confirmFile_at {file : Option (List UInt8)} :
    Runs P t files (confirmFile P entry file) fun _ s =>
      (∀ data, file = some data → P.sha256 data = entry.digest ∧ data.length = entry.size) ∧
        s.At t files := by
  cases file with
  | none =>
    apply Durable.Keeps.pure
    intro s hs
    constructor
    · intro data he
      cases he
    · exact hs
  | some data =>
    apply digestOf_at.bind_fact
    intro actual hactual
    obtain ⟨data', hd, hactual⟩ := hactual
    cases hd
    apply expect_at.weaken
    intro _ s hs
    constructor
    · intro data'' he
      cases he
      rw [hactual] at hs
      exact Prod.mk.inj hs.1
    · exact hs.2

/-- A prepared row ends as a registered one. -/
theorem repair_keeps (h : Accounts P t files) (hid : t.entries.lookup row.1 = some row.2)
    (hphase : row.2.phase = .prepared) :
    Runs P t files (repair P cat row) fun _ => Moved P row.1 t := by
  have hsize : row.2.size = row.2.targetSize := (h.backed _ _ hid).settled (.inl hphase)
  apply ((Still.membershipExcept _).keeps h).bind
  intro _
  apply ((Still.ensureShard P row.1).keeps h).bind
  intro _
  apply read_files.bind_fact
  intro c hfiles
  rw [hfiles]
  apply expect_at.bind_fact
  intro _ hpresent
  apply confirmFile_at.bind_fact
  intro _ hflat
  apply confirmFile_at.bind_fact
  intro _ hfile
  cases hf : files.lookup row.1 with
  | some data =>
    obtain ⟨hdigest, hlength⟩ := hfile data hf
    have hplaced : Runs P t files (placeFlat P row.1 (c.names.lookup (flatName row.1)) (some data))
        fun _ => CatalogRoot.At t files := by
      cases c.names.lookup (flatName row.1) with
      | none => exact Durable.Keeps.pure fun _ hs => hs
      | some flat =>
        apply Still.keeps (Still.commit ?_) h
        exact fun c => ⟨rfl, rfl⟩
    apply hplaced.bind
    intro _
    exact settleEntry_registers h hid hf hdigest (hlength.trans hsize)
  | none =>
    cases hn : c.names.lookup (flatName row.1) with
    | none => exact absurd ⟨hn, hf⟩ hpresent
    | some data =>
      obtain ⟨hdigest, hlength⟩ := hflat data hn
      have hmoved : Accounts P t (Dict.set row.1 data files) := by
        apply h.setFile hid
        exact (h.backed _ _ hid).put hdigest hlength.le fun _ => hlength
      have hplaced : Runs P t files (placeFlat P row.1 (some data) none)
          fun _ => CatalogRoot.At t (Dict.set row.1 data files) := by
        apply commit_at hmoved
        intro c hc
        exact ⟨rfl, congrArg (Dict.set row.1 data) hc⟩
      apply hplaced.bind
      intro _
      exact settleEntry_registers hmoved hid (Dict.lookup_set_self _ _ _) hdigest
        (hlength.trans hsize)

theorem restoreUpdate_keeps (h : Accounts P t files) (hid : t.entries.lookup row.1 = some row.2)
    {inspectUpdate : List UInt8 → Except CatalogFault (List String)} :
    Runs P t files (restoreUpdate P cat row inspectUpdate) fun _ => Moved P row.1 t := by
  apply ((Still.known P cat (some row)).keeps h).bind
  intro _
  apply read_files.bind_fact
  intro c hfiles
  rw [hfiles]
  apply ((Still.lift _).keeps h).bind
  intro metadata
  apply ((Still.expect _ _).keeps h).bind
  intro _
  apply digestOf_at.bind_fact
  intro actual hactual
  obtain ⟨data, hf, hactual⟩ := hactual
  cases hactual
  apply ((Still.expect _ _).keeps h).bind
  intro _
  apply ((Still.confirmedMembership P cat row.2.shard none).keeps h).bind
  intro after
  have hrestored : Accounts P (t.restore row.1 (P.sha256 data) data.length) files := by
    apply h.resize hid
    rw [hf]
    exact backed_of_registered (h.backed _ _ hid).purpose rfl rfl rfl rfl
  apply Durable.Keeps.weaken (update_at hrestored ?_)
  · intro _ c hc
    exact ⟨_, files, hrestored, hc, fun other ho => lookup_resize ho⟩
  · intro u hu hu'
    exact resize_congr hu hu'

theorem repairWrite_keeps (h : Accounts P t files) (hid : t.entries.lookup row.1 = some row.2)
    {inspectUpdate : Option (List UInt8 → Except CatalogFault (List String))} :
    Runs P t files (repairWrite P cat inspectUpdate row) fun _ => Moved P row.1 t := by
  have hstill : Runs P t files (Pure.pure ()) fun _ => Moved P row.1 t :=
    Durable.Keeps.pure fun _ hs => moved_of_still h hs
  apply ((Still.managedPath _).keeps h).bind
  intro _
  apply read_files.bind_fact
  intro c hfiles
  rw [hfiles]
  cases hf : files.lookup row.1 with
  | none => exact hstill
  | some data =>
    apply digestOf_at.bind_fact
    intro actual hactual
    obtain ⟨data', hd, hactual⟩ := hactual
    cases hd
    split
    · rename_i hsame
      rw [hactual, Prod.mk.injEq] at hsame
      exact settleEntry_registers h hid hf hsame.1 hsame.2
    · apply ((Still.expect _ _).keeps h).bind
      intro _
      cases inspectUpdate with
      | none => exact hstill
      | some inspect => exact restoreUpdate_keeps h hid

/-- Rows that are in the tables as they were listed. -/
def Current (P : CatalogPlatform) (rows : List (String × CatalogEntry)) (c : CatalogRoot) : Prop :=
  ∃ t files, Accounts P t files ∧ c.At t files ∧
    ∀ row ∈ rows, t.entries.lookup row.1 = some row.2

theorem Current.consistent {rows : List (String × CatalogEntry)} (h : Current P rows c) :
    c.Consistent P := by
  obtain ⟨t, files, h, hc, _⟩ := h
  exact hc.consistent h

/-- What changes one row at a time may be done to all rows that were listed. -/
theorem each_current {f : String × CatalogEntry → CatalogM Unit}
    {rows : List (String × CatalogEntry)} (hdistinct : (Dict.keys rows).Nodup)
    (hf : ∀ row ∈ rows, ∀ t files, Accounts P t files → t.entries.lookup row.1 = some row.2 →
      Runs P t files (f row) fun _ => Moved P row.1 t) :
    Durable.Keeps (CatalogRoot.Consistent P) (Current P rows) (Durable.each f rows)
      fun _ => Current P [] := by
  induction rows with
  | nil => exact Durable.Keeps.pure fun _ hs => hs
  | cons row rows ih =>
    have hnot : row.1 ∉ Dict.keys rows := (List.nodup_cons.1 hdistinct).1
    have hfirst : Durable.Keeps (CatalogRoot.Consistent P) (Current P (row :: rows)) (f row)
        fun _ => Current P rows := by
      apply Durable.Keeps.of_exists
      intro t
      apply Durable.Keeps.of_exists
      intro files
      apply Durable.Keeps.of_fact
      intro h
      have hbody : ∀ s : CatalogRoot, (s.At t files ∧ ∀ row' ∈ row :: rows,
          t.entries.lookup row'.1 = some row'.2) → (∀ row' ∈ row :: rows,
          t.entries.lookup row'.1 = some row'.2) ∧ s.At t files := fun s hs => ⟨hs.2, hs.1⟩
      apply Durable.Keeps.strengthen _ hbody
      apply Durable.Keeps.of_fact
      intro hrows
      apply (hf row List.mem_cons_self t files h (hrows row List.mem_cons_self)).weaken
      intro _ s hs
      obtain ⟨t', files', h', hs', hothers⟩ := hs
      have hlisted : ∀ row' ∈ rows, t'.entries.lookup row'.1 = some row'.2 := by
        intro row' hm
        have hne : row'.1 ≠ row.1 := fun he => hnot (he ▸ List.mem_map_of_mem hm)
        rw [hothers row'.1 hne]
        exact hrows row' (List.mem_cons_of_mem _ hm)
      exact ⟨t', files', h', hs', hlisted⟩
    apply hfirst.bind
    intro _
    exact ih (List.nodup_cons.1 hdistinct).2 fun row' hm => hf row' (List.mem_cons_of_mem _ hm)

end ExternalIntelligence.Catalog
