import ExternalIntelligence.CatalogCapacity

namespace ExternalIntelligence.Catalog
set_option autoImplicit true

variable {P : CatalogPlatform} {t t' : CatalogTables} {files files' : List (String × List UInt8)}
  {id shard : String} {entry : CatalogEntry} {cat : RuntimeCatalog} {c : CatalogRoot}
  {m : CatalogM α} {payload : CatalogPayload} {data : List UInt8} {oldDigest : String}
  {row : String × CatalogEntry} {calls : MigrationCallbacks} {phase : EntryPhase}

theorem Moved.current (h : Moved P id t c) : Current P [] c := by
  obtain ⟨t', files', h', hc, _⟩ := h
  exact ⟨t', files', h', hc, fun _ hm => absurd hm List.not_mem_nil⟩

theorem current_of_at (h : Accounts P t files) (hc : c.At t files) : Current P [] c :=
  ⟨t, files, h, hc, fun _ hm => absurd hm List.not_mem_nil⟩

/-- What runs from any tables that account for the files runs one after another. -/
theorem of_current {post : α → CatalogRoot → Prop}
    (hm : ∀ t files, Accounts P t files → Runs P t files m post) :
    Durable.Keeps (CatalogRoot.Consistent P) (Current P []) m post := by
  apply Durable.Keeps.of_exists
  intro t
  apply Durable.Keeps.of_exists
  intro files
  apply Durable.Keeps.of_fact
  intro h
  exact (hm t files h).strengthen fun _ hs => hs.1

theorem Still.current (hm : Still m) :
    Durable.Keeps (CatalogRoot.Consistent P) (Current P []) m fun _ => Current P [] :=
  of_current fun _ _ h => (hm.keeps h).weaken fun _ _ hs => current_of_at h hs

theorem rowsIn_distinct (h : Accounts P t files) (limit : Nat) :
    (Dict.keys ((t.rowsIn phase).take limit)).Nodup := by
  have hfiltered : (Dict.keys (t.entries.filter fun row => row.2.phase = phase)).Nodup :=
    h.keys.sublist (List.filter_sublist.map _)
  have hsorted : (Dict.keys (t.rowsIn phase)).Nodup :=
    ((List.perm_insertionSort _ _).map Prod.fst).nodup_iff.2 hfiltered
  exact hsorted.sublist ((List.take_sublist _ _).map _)

theorem rowsIn_current (h : Accounts P t files) {limit : Nat}
    (hm : row ∈ (t.rowsIn phase).take limit) :
    t.entries.lookup row.1 = some row.2 ∧ row.2.phase = phase := by
  have hlisted := (List.perm_insertionSort _ _).mem_iff.1 (List.mem_of_mem_take hm)
  rw [List.mem_filter, decide_eq_true_eq] at hlisted
  exact ⟨Dict.lookup_of_mem h.keys hlisted.1, hlisted.2⟩

/-- A flat file with the digest of a row that is there is the content of the row. -/
theorem prepare_backed (hP : Function.Injective P.sha256) (entry : CatalogEntry)
    (h : Accounts P t files)
    (hphase : entry.phase = .prepared) (hpurpose : entry.purpose ∈ catalogPurposes)
    (hdigest : entry.digest = P.sha256 data) (hsize : entry.size = data.length)
    (htarget : entry.targetSize = data.length)
    (hsame : ∀ old, t.entries.lookup id = some old →
      old.digest = P.sha256 data ∧ old.size = data.length) :
    Accounts P (t.prepare id entry) files ∧
      ∃ new, (t.prepare id entry).entries.lookup id = some new ∧ new.phase = .prepared := by
  cases hid : t.entries.lookup id with
  | none =>
    have hprepared : t.prepare id entry = t.insert id entry := by
      rw [CatalogTables.prepare, hid]
    rw [hprepared]
    constructor
    · apply h.insert hid
      constructor
      case purpose => exact hpurpose
      case content => exact ⟨data, hdigest.symm, htarget.symm⟩
      case settled => exact fun _ => hsize.trans htarget.symm
      case registered =>
        intro hp
        rw [hphase] at hp
        cases hp
      all_goals
        intros
        contradiction
    · exact ⟨_, Dict.lookup_set_self _ _ _, hphase⟩
  | some old =>
    have hprepared : t.prepare id entry = t.setPhase id .prepared := by
      rw [CatalogTables.prepare, hid]
    rw [hprepared]
    have hold := h.backed id old hid
    obtain ⟨hdigest', hsize'⟩ := hsame old hid
    constructor
    · apply h.setPhase hid
      constructor
      case purpose => exact hold.purpose
      case content => exact hold.content
      case covers => exact hold.covers
      case settled =>
        intro _
        obtain ⟨content, hcontent, hlength⟩ := hold.content
        rw [hP (hcontent.trans hdigest')] at hlength
        exact hsize'.trans hlength
      case registered =>
        intro hp
        cases hp
      case writing =>
        intro hp
        cases hp
      case deleting =>
        intro hp
        cases hp
    · rw [CatalogTables.setPhase, hid]
      exact ⟨_, Dict.lookup_set_self _ _ _, rfl⟩

theorem migrateFile_keeps (hP : Function.Injective P.sha256) (name : String)
    (h : Accounts P t files) :
    Runs P t files (migrateFile P cat calls name) fun _ => Current P [] := by
  apply ((Still.managedPath _).keeps h).bind
  intro _
  apply (Still.read.keeps h).bind
  intro c
  apply digestOf_at.bind_fact
  intro actual hactual
  obtain ⟨data, _, hactual⟩ := hactual
  apply ((Still.lift _).keeps h).bind
  intro metadata
  apply tables_at.bind_fact
  intro u hu
  rw [hu.1]
  apply expect_at.bind_fact
  intro _ hsame
  apply expect_at.bind_fact
  intro _ hpurpose
  apply ((Still.membershipExcept _).keeps h).bind
  intro _
  have hold : ∀ old, t.entries.lookup (stemOf name) = some old →
      old.digest = P.sha256 data ∧ old.size = data.length := by
    intro old hl
    rw [hl, Option.all_some, decide_eq_true_eq, hactual] at hsame
    exact Prod.mk.inj hsame
  obtain ⟨hprepared, new, hnew, hphase⟩ := prepare_backed hP
    { shard := shardOf P (stemOf name)
      phase := .prepared
      digest := actual.1
      size := actual.2
      purpose := metadata.1
      targetSize := actual.2
      tag := metadata.2 } h rfl hpurpose (congrArg Prod.fst hactual)
    (congrArg Prod.snd hactual) (congrArg Prod.snd hactual) hold
  apply (update_at hprepared fun u hu hu' => prepare_congr hu hu').bind
  intro _
  apply tables_at.bind
  intro u'
  apply Durable.Keeps.of_fact
  intro hu'
  rw [hu'.1, hnew]
  have hrepair : Runs P _ files (repair P cat (stemOf name, new))
      fun _ => Moved P (stemOf name) _ := repair_keeps hprepared hnew hphase
  exact hrepair.weaken fun _ _ hm => hm.current

theorem Still.sweepName (cat : RuntimeCatalog) (name : String) : Still (sweepName cat name) := by
  rw [Catalog.sweepName]
  split
  · split
    · apply (Still.lift _).bind
      intro gone
      cases gone with
      | false => exact Still.pure ()
      | true =>
        apply Still.commit
        exact fun c => ⟨rfl, rfl⟩
    · exact Still.pure ()
  · exact Still.pure ()

theorem migrateFiles_keeps (hP : Function.Injective P.sha256) (limit ignored done : Nat)
    (names : List String) :
    Durable.Keeps (CatalogRoot.Consistent P) (Current P [])
      (migrateFiles P cat calls limit ignored done names) fun _ => Current P [] := by
  induction names generalizing ignored done with
  | nil => exact (Still.pure true).current
  | cons name names ih =>
    rw [migrateFiles]
    split
    · split
      · exact (Still.pure false).current
      · apply (of_current fun t files h => migrateFile_keeps hP name h).bind
        exact fun _ => ih ignored (done + 1)
    · apply (Still.ignoreName ignored).current.bind
      intro _
      apply (Still.sweepName cat name).current.bind
      exact fun _ => ih (ignored + 1) done

/-- The rows that were listed in a phase are taken up one after another. -/
theorem each_rowsIn {f : String × CatalogEntry → CatalogM Unit} {limit : Nat}
    (h : Accounts P t files) (ht : t'.entries = t.entries)
    (hf : ∀ row t files, Accounts P t files → t.entries.lookup row.1 = some row.2 →
      row.2.phase = phase → Runs P t files (f row) fun _ => Moved P row.1 t) :
    Runs P t files (Durable.each f ((t'.rowsIn phase).take limit)) fun _ => Current P [] := by
  have hrows : t'.rowsIn phase = t.rowsIn phase := by
    rw [CatalogTables.rowsIn, CatalogTables.rowsIn, ht]
  rw [hrows]
  apply (each_current (rowsIn_distinct h limit) ?_).strengthen
  · exact fun s hs => ⟨t, files, h, hs, fun row hm => (rowsIn_current h hm).1⟩
  · exact fun row hm u files' h' hid => hf row u files' h' hid (rowsIn_current h hm).2

theorem migrateBody_keeps (hP : Function.Injective P.sha256) (limit : Nat) :
    Durable.Keeps (CatalogRoot.Consistent P) (Current P []) (migrateBody P cat calls limit)
      fun _ => Current P [] := by
  apply of_current
  intro t files h
  apply tables_at.bind_fact
  intro u hu
  apply ((Still.lift _).keeps h).bind
  intro _
  apply ((Still.expect _ _).keeps h).bind
  intro _
  apply (each_rowsIn h hu.1 fun row u files' h' hid _ => repairWrite_keeps h' hid).bind
  intro _
  apply of_current
  intro t files h
  apply tables_at.bind_fact
  intro u hu
  apply (each_rowsIn h hu.1 fun row u files' h' hid hphase => repair_keeps h' hid hphase).bind
  intro _
  apply Still.read.current.bind
  intro c
  apply (migrateFiles_keeps hP limit 0 _ _).bind
  intro complete
  apply Durable.Keeps.bind (Still.current (Still.update ?_))
  · intro _
    apply Still.tables.current.bind
    intro u
    apply (Still.membershipExcept _).current.bind
    exact fun _ => (Still.pure _).current
  · exact fun t => ⟨rfl, rfl⟩

theorem connection_keeps :
    Durable.Keeps (CatalogRoot.Consistent P) (CatalogRoot.Consistent P) connection
      fun _ => Current P [] := by
  have hread : Durable.Keeps (CatalogRoot.Consistent P) (CatalogRoot.Consistent P)
      (Durable.read : CatalogM CatalogRoot) fun c s => c = s ∧ s.Consistent P :=
    Durable.Keeps.read fun s hs => ⟨rfl, hs⟩
  apply hread.bind
  intro c
  cases hc : c.tables with
  | some t =>
    apply Durable.Keeps.pure
    intro s hs
    obtain ⟨rfl, hs⟩ := hs
    rw [CatalogRoot.Consistent, hc] at hs
    exact current_of_at hs ⟨t, hc, rfl, rfl, rfl⟩
  | none =>
    simp only
    split
    · exact Durable.Keeps.raise
    · have hempty : ∀ s : CatalogRoot, c = s ∧ s.Consistent P → s.tables = none ∧ s.files = [] := by
        intro s hs
        obtain ⟨rfl, hs⟩ := hs
        rw [CatalogRoot.Consistent, hc] at hs
        exact ⟨hc, hs⟩
      apply Durable.Keeps.strengthen _ hempty
      have hdatabase : Durable.Keeps (CatalogRoot.Consistent P)
          (fun s => s.tables = none ∧ s.files = [])
          (Durable.commit fun c => { c with names := Dict.set databaseName [] c.names } :
            CatalogM Unit) fun _ s => s.tables = none ∧ s.files = [] := by
        apply Durable.Keeps.commit
        · intro s hs
          rw [CatalogRoot.Consistent]
          simp only [hs.1]
          exact hs.2
        · exact fun s hs => hs
      apply hdatabase.bind
      intro _
      have hcreated : ∀ s : CatalogRoot, s.tables = none ∧ s.files = [] →
          ({ s with tables := some {} } : CatalogRoot).At {} [] := fun s hs =>
        ⟨{}, rfl, rfl, rfl, hs.2⟩
      apply Durable.Keeps.commit
      · exact fun s hs => (hcreated s hs).consistent (Accounts.empty P)
      · exact fun s hs => current_of_at (Accounts.empty P) (hcreated s hs)

theorem halt_keeps (code : String) {post : Bool → CatalogRoot → Prop} :
    Durable.Keeps (CatalogRoot.Consistent P) (CatalogRoot.Consistent P) (halt code) post := by
  have hupdate : Durable.Keeps (CatalogRoot.Consistent P) (CatalogRoot.Consistent P)
      (update fun t => { t with halted := code }) fun _ => CatalogRoot.Consistent P := by
    have hkept : ∀ s : CatalogRoot, s.Consistent P → CatalogRoot.Consistent P
        { s with tables := s.tables.map fun t => { t with halted := code } } := by
      intro s hs
      cases ht : s.tables with
      | none =>
        rw [CatalogRoot.Consistent, ht] at hs
        exact hs
      | some t =>
        rw [CatalogRoot.Consistent, ht] at hs
        exact hs.congr rfl rfl
    exact Durable.Keeps.commit hkept hkept
  apply hupdate.bind
  exact fun _ => Durable.Keeps.raise

theorem migratePage_keeps (hP : Function.Injective P.sha256) (limit : Nat) :
    Durable.Keeps (CatalogRoot.Consistent P) (CatalogRoot.Consistent P)
      (cat.migratePage P calls limit) fun _ => CatalogRoot.Consistent P := by
  have hlimit : Durable.Keeps (CatalogRoot.Consistent P) (CatalogRoot.Consistent P)
      (Durable.require (0 < limit) (.value "RUNTIME_PAGE_LIMIT_INVALID") : CatalogM Unit)
      fun _ => CatalogRoot.Consistent P := Durable.Keeps.require fun _ _ hs => hs
  apply hlimit.bind
  intro _
  apply connection_keeps.bind
  intro _
  apply Still.tables.current.bind
  intro t
  apply (Still.expect _ _).current.bind
  intro _
  apply Durable.Keeps.handle fun _ hs => hs.consistent
  · exact (migrateBody_keeps hP limit).weaken fun _ _ hs => hs.consistent
  · intro e
    cases e with
    | other code => exact Durable.Keeps.raise
    | value code => exact halt_keeps _
    | unknown code =>
      rw [haltOn]
      split
      · exact Durable.Keeps.raise
      · exact halt_keeps _

/-- A write that is taken up again has settled the entry, or has found its file as before. -/
theorem replayWrite_at (h : Accounts P t files) (hid : t.entries.lookup id = some entry) :
    Runs P t files (replayWrite P cat id entry payload) fun settled s =>
      (settled = true ∧ s.Consistent P) ∨ (settled = false ∧
        (∀ data, files.lookup id = some data → P.sha256 data = entry.oldDigest) ∧
        s.At t files) := by
  apply (Still.read.keeps h).bind
  intro c
  apply ((Still.expect _ _).keeps h).bind
  intro _
  apply ((Still.known P cat _).keeps h).bind
  intro _
  apply read_files.bind_fact
  intro c hfiles
  rw [hfiles]
  cases hf : files.lookup id with
  | none =>
    apply Durable.Keeps.pure
    intro s hs
    have hold : ∀ data, none = some data → P.sha256 data = entry.oldDigest := by
      intro data he
      cases he
    exact .inr ⟨rfl, hold, hs⟩
  | some data =>
    apply digestOf_at.bind_fact
    intro actual hactual
    obtain ⟨data', hd, hactual⟩ := hactual
    cases hd
    split
    · rename_i hsame
      rw [hactual, Prod.mk.injEq] at hsame
      apply (settleEntry_registers h hid hf hsame.1 hsame.2).bind
      intro _
      apply Durable.Keeps.pure
      exact fun s hs => .inl ⟨rfl, hs.consistent⟩
    · apply expect_at.bind_fact
      intro _ hold
      apply Durable.Keeps.pure
      intro s hs
      have hfound : ∀ data', some data = some data' → P.sha256 data' = entry.oldDigest := by
        intro data' he
        cases he
        rw [hactual] at hold
        exact hold
      exact .inr ⟨rfl, hfound, hs⟩

theorem write_keeps : Durable.Keeps (CatalogRoot.Consistent P) (CatalogRoot.Consistent P)
    (cat.write P id payload) fun _ => CatalogRoot.Consistent P := by
  have hpurpose : Durable.Keeps (CatalogRoot.Consistent P) (CatalogRoot.Consistent P)
      (expect (payload.purpose ∈ catalogPurposes) "RUNTIME_PURPOSE_INVALID")
      fun _ s => payload.purpose ∈ catalogPurposes ∧ s.Consistent P :=
    Durable.Keeps.require fun hp _ hs => ⟨hp, hs⟩
  apply hpurpose.bind_fact
  intro _ hpurpose
  have hmanaged : Durable.Keeps (CatalogRoot.Consistent P) (CatalogRoot.Consistent P)
      (managedPath id) fun _ => CatalogRoot.Consistent P :=
    Durable.Keeps.require fun _ _ hs => hs
  apply hmanaged.bind
  intro _
  apply connection_keeps.bind
  intro _
  apply of_current
  intro t files h
  apply tables_at.bind_fact
  intro u hu
  rw [hu.1]
  cases hid : t.entries.lookup id with
  | none =>
    apply ((Still.known P cat none).keeps h).bind
    intro _
    apply storePayload_keeps h hpurpose
    intro data hf
    rw [h.file_none hid] at hf
    cases hf
  | some entry =>
    apply ((Still.expect _ _).keeps h).bind
    intro _
    split
    · apply (replayWrite_at h hid).bind
      intro settled
      cases settled with
      | true =>
        apply Durable.Keeps.pure
        intro s hs
        obtain hs | hs := hs
        · exact hs.2
        · cases hs.1
      | false =>
        have hleft : ∀ s : CatalogRoot, ((false = true ∧ s.Consistent P) ∨ (false = false ∧
            (∀ data, files.lookup id = some data → P.sha256 data = entry.oldDigest) ∧
            s.At t files)) → (∀ data, files.lookup id = some data →
              P.sha256 data = entry.oldDigest) ∧ s.At t files := by
          intro s hs
          obtain hs | hs := hs
          · cases hs.1
          · exact hs.2
        apply Durable.Keeps.strengthen _ hleft
        apply Durable.Keeps.of_fact
        intro hold
        exact storePayload_keeps h hpurpose fun data hf => .inr (hold data hf)
    · apply ((Still.known P cat none).keeps h).bind
      intro _
      apply (lookupEntry_at h).bind_fact
      intro file hfile
      apply digestOf_at.bind_fact
      intro actual hactual
      obtain ⟨data, hd, hactual⟩ := hactual
      apply expect_at.bind_fact
      intro _ hsame
      apply storePayload_keeps h hpurpose
      intro data' hf
      have he := (hfile data' hf).symm.trans hd
      cases he
      rw [hactual] at hsame
      exact .inr (congrArg Prod.fst hsame)

theorem delete_keeps : Durable.Keeps (CatalogRoot.Consistent P) (CatalogRoot.Consistent P)
    (cat.delete P id) fun _ => CatalogRoot.Consistent P := by
  apply connection_keeps.bind
  intro _
  apply of_current
  intro t files h
  apply tables_at.bind_fact
  intro u hu
  rw [hu.1]
  apply (lookupEntry_at h).bind_fact
  intro file hfile
  apply (Still.read.keeps h).bind
  intro c
  split
  · exact Durable.Keeps.pure fun s hs => hs.consistent h
  · apply ((Still.expect _ _).keeps h).bind
    intro _
    cases hid : t.entries.lookup id with
    | none => exact Durable.Keeps.raise
    | some entry =>
      cases file with
      | none => exact Durable.Keeps.raise
      | some data =>
        apply digestOf_at.bind_fact
        intro actual hactual
        obtain ⟨data', hd, hactual⟩ := hactual
        cases hd
        apply expect_at.bind_fact
        intro _ hsame
        rw [hactual, Prod.mk.injEq] at hsame
        apply ((Still.membershipExcept _).keeps h).bind
        intro _
        apply ((Still.validateShard P cat _ _).keeps h).bind
        intro _
        have hdigest : ∀ data', files.lookup id = some data' →
            P.sha256 data' = entry.digest := by
          intro data' hf
          cases hfile data' hf
          exact hsame.1
        apply (removeEntry_keeps h hid hdigest).bind
        intro _
        exact Durable.Keeps.pure fun _ hs => hs

theorem capacity_keeps (purpose : String) :
    Durable.Keeps (CatalogRoot.Consistent P) (CatalogRoot.Consistent P)
      (cat.capacity P purpose) fun _ => CatalogRoot.Consistent P := by
  apply connection_keeps.bind
  intro _
  apply (Still.known P cat none).current.bind
  intro totals
  exact Durable.Keeps.pure fun _ hs => hs.consistent

/-- Whatever call is made, and wherever it is killed, the tables account for the files. -/
theorem CatalogCall.leaves_consistent (hP : Function.Injective P.sha256) (hc : c.Consistent P)
    (killed : Option Nat) (call : CatalogCall) : (call.leaves P c killed).Consistent P := by
  cases call with
  | write cat id payload => exact write_keeps.left (fun _ hs => hs) hc killed
  | delete cat id => exact delete_keeps.left (fun _ hs => hs) hc killed
  | migratePage cat calls limit =>
    exact (migratePage_keeps hP limit).left (fun _ hs => hs) hc killed
  | capacity cat purpose => exact (capacity_keeps purpose).left (fun _ hs => hs) hc killed

theorem catalogRun_consistent (hP : Function.Injective P.sha256)
    (calls : List (CatalogCall × Option Nat)) (hc : c.Consistent P) :
    (catalogRun P c calls).Consistent P := by
  induction calls generalizing c with
  | nil => exact hc
  | cons call calls ih => exact ih (call.1.leaves_consistent hP hc call.2)

end ExternalIntelligence.Catalog
