import ExternalIntelligence.CaptureLedger

namespace ExternalIntelligence
set_option autoImplicit true

def defaultManagedPaths : List String :=
  ["events/**", "knowledge/**"]

def managedRoots : List String :=
  ["events", "knowledge"]

def reviewRequiredRoots : List String :=
  ["config", "docs", "hooks", "policies", "schemas", "scripts", "skills", "src", "templates",
    "tests"]

def reviewRequiredFiles : List String :=
  [".gitignore", "AGENTS.md", "README.md", "pyproject.toml", "requirements-build.lock",
    "requirements-ci.lock", "requirements-runtime.lock"]

def machineLocalComponents : List String :=
  [".ei-local", ".ei-runtime", "backups", "body", "body.json", "cache", "cursor",
    "emergency-spool", "install-manifest.json", "key", "key.json", "locks", "logs", "queue",
    "quarantine", "spool", "state", "transcripts"]

def allowedKnowledgeSuffixes : List String :=
  [".md", ".json"]

/-- Whether a text is one of some names. -/
def isAmong (names : List String) (text : List Char) : Bool :=
  names.any fun name => Text.chars name == text

/-- Backslashes as slashes. -/
def forwardSlashes (text : List Char) : List Char :=
  text.map fun c => if c = '\\' then '/' else c

/-- The parts of a relative PurePosixPath. -/
def posixParts (text : List Char) : List (List Char) :=
  (text.splitOn '/').filter fun part => !part.isEmpty && part != ['.']

def joinPath (parts : List (List Char)) : List Char :=
  ['/'].intercalate parts

/-- A safe path relative to the repository; none where the source raises SYNC_PATH_INVALID. -/
def normalizeRepoPath (P : Platform) (value : List Char) : Option (List Char) :=
  let normalized := Text.strip (forwardSlashes (P.nfkc value))
  if normalized.isEmpty || normalized.head? == some '/' || normalized[1]? == some ':' then none
  else
    let parts := posixParts normalized
    if parts.isEmpty || parts.contains ['.', '.'] then none else some (joinPath parts)

def firstPart (path : List Char) : List Char :=
  path.takeWhile (· != '/')

def pathRoot (P : Platform) (value : List Char) : List Char :=
  match normalizeRepoPath P value with
  | some normalized => P.casefold (firstPart normalized)
  | none => []

/-- The suffix of a file name: from its last dot on, if that is neither its first nor its last
character. -/
def fileSuffix (name : List Char) : List Char :=
  let tail := (name.reverse.takeWhile (· != '.')).reverse
  if tail.isEmpty || name.length ≤ tail.length + 1 then [] else '.' :: tail

def isManagedNormalized (P : Platform) (normalized : List Char) : Bool :=
  let parts := normalized.splitOn '/'
  let root := P.casefold (parts.headD [])
  let last := parts.getLastD []
  if normalized = Text.chars "knowledge/.gitattributes" then true
  else if root = Text.chars "events" then
    decide (2 ≤ parts.length) && (Text.chars ".json").isSuffixOf (P.casefold last)
  else if root = Text.chars "knowledge" then
    decide (2 ≤ parts.length) && isAmong allowedKnowledgeSuffixes (P.casefold (fileSuffix last))
  else false

/-- Whether a path is one the engine generates. -/
def isManagedPath (P : Platform) (value : List Char) : Bool :=
  (normalizeRepoPath P value).any (isManagedNormalized P)

inductive PathReason
  | syncPathInvalid
  | machineLocalPath
  | managedEnginePath
  | reviewRequiredSourceChange
  | unrelatedWorktreeChanges
deriving DecidableEq, Repr

def managedPathReason (P : Platform) (value : List Char) : PathReason :=
  match normalizeRepoPath P value with
  | none => .syncPathInvalid
  | some normalized =>
    let lowered := P.casefold normalized
    let root := pathRoot P normalized
    if isAmong machineLocalComponents root ||
        (lowered.splitOn '/').any (isAmong machineLocalComponents) then .machineLocalPath
    else if isManagedPath P normalized then .managedEnginePath
    else if isAmong reviewRequiredFiles lowered || isAmong reviewRequiredRoots root then
      .reviewRequiredSourceChange
    else .unrelatedWorktreeChanges

def validateManagedPathConfig (P : Platform) : Value → Except Raised Unit
  | .list items | .tuple items =>
    if items.map (pyStr P) = defaultManagedPaths then .ok ()
    else .error (valueError "SYNC_MANAGED_PATHS_INVALID")
  | _ => .error (valueError "SYNC_MANAGED_PATHS_INVALID")

/-- The managed paths of the defaults file, which may not be readable as JSON. -/
def configuredManagedPaths (P : Platform) (document : Option Value) : Except Raised Unit :=
  match document with
  | none => .error (valueError "SYNC_DEFAULTS_READ_FAILED")
  | some (.dict fields) =>
    match getOr fields "sync" (.dict []) with
    | .dict sync =>
      validateManagedPathConfig P
        (getOr sync "managed_paths" (.list (defaultManagedPaths.map .str)))
    | _ => .error (valueError "SYNC_DEFAULTS_INVALID")
  | some _ => .error (valueError "SYNC_DEFAULTS_INVALID")

structure StatusEntry where
  path : List Char
  xy : List Char
  originalPath : Option (List Char)
deriving DecidableEq, Repr

/-- A text before and after the first place where a separator is. -/
def splitOnce (separator : List Char) : List Char → Option (List Char × List Char)
  | [] => if separator.isEmpty then some ([], []) else none
  | c :: cs =>
    if separator.isPrefixOf (c :: cs) then some ([], (c :: cs).drop separator.length)
    else (splitOnce separator cs).map fun halves => (c :: halves.1, halves.2)

def arrow : List Char :=
  [' ', '-', '>', ' ']

def stripQuotes (text : List Char) : List Char :=
  (text.dropWhile (· == '"')).rdropWhile (· == '"')

def normalizeStatusPath (value : List Char) : List Char :=
  let value := Text.strip (forwardSlashes value)
  let value := match splitOnce arrow value with
    | some (_, rest) => rest
    | none => value
  stripQuotes (Text.strip value)

/-- The entry of a line of the status; none for a line that is skipped. -/
def statusEntry (text : List Char) : Option StatusEntry :=
  if (Text.strip text).isEmpty then none
  else
    let (xy, raw) := if 3 ≤ text.length && text[2]? == some ' ' then (text.take 2, text.drop 3)
      else (['?', '?'], text)
    let (original, raw) := match splitOnce arrow raw with
      | some (old, new) => (some (normalizeStatusPath old), new)
      | none => (none, raw)
    let path := normalizeStatusPath raw
    if path.isEmpty then none else some ⟨path, xy, original⟩

def statusEntries (lines : List (List Char)) : List StatusEntry :=
  lines.filterMap statusEntry

structure SyncPlan where
  allowed : Bool
  reasonCode : String
  stagePaths : List String
  unrelatedPaths : List String
  reviewPaths : List String
deriving DecidableEq, Repr

/-- The list of the plan a path is put on. -/
inductive Bucket
  | managed
  | unrelated
  | review
  | unsafePath
  | journalMutation
deriving DecidableEq, Repr

/-- The flags of an entry say that a file of the journal is neither new nor added. -/
def changesJournal (P : Platform) (entry : StatusEntry) : Bool :=
  let flags := entry.xy.filter (· != ' ')
  pathRoot P entry.path == Text.chars "events" && !flags.isEmpty &&
    flags.all fun flag => flag != '?' && flag != 'A'

def bucketOf (P : Platform) (entry : StatusEntry) : Bucket :=
  if isAmong managedRoots (pathRoot P entry.path) && !isManagedPath P entry.path then .unsafePath
  else match managedPathReason P entry.path with
    | .managedEnginePath =>
      if entry.originalPath.isSome then .journalMutation
      else if changesJournal P entry then .journalMutation
      else .managed
    | .reviewRequiredSourceChange => .review
    | _ => .unrelated

def pathsIn (P : Platform) (entries : List StatusEntry) (bucket : Bucket) : List String :=
  (entries.filter fun entry => bucketOf P entry == bucket).map fun entry =>
    String.ofList entry.path

def planOf (P : Platform) (entries : List StatusEntry) : SyncPlan :=
  let paths := pathsIn P entries
  if entries.isEmpty then ⟨false, "NO_ENGINE_CHANGES", [], [], []⟩
  else if !(paths .journalMutation).isEmpty then
    ⟨false, "EVENT_JOURNAL_MODIFICATION_FORBIDDEN", [], sortedText (paths .journalMutation), []⟩
  else if !(paths .unsafePath).isEmpty then
    ⟨false, "UNSAFE_ENGINE_PATH", [], sortedText (paths .unsafePath), []⟩
  else if !(paths .review).isEmpty then
    ⟨false, "REVIEW_REQUIRED_SOURCE_CHANGE", [], sortedText (paths .review),
      sortedText (paths .review)⟩
  else if !(paths .unrelated).isEmpty then
    ⟨false, "UNRELATED_WORKTREE_CHANGES", [], sortedText (paths .unrelated), []⟩
  else if (paths .managed).isEmpty then ⟨false, "NO_ENGINE_CHANGES", [], [], []⟩
  else ⟨true, "ENGINE_PATHS_READY", sortedSet (paths .managed), [], []⟩

/-- The plan from the lines of the status. The defaults are what the defaults file of the
settings holds, where there are settings and the file exists. -/
def buildSyncPlan (P : Platform) (defaults : Option (Option Value)) (lines : List (List Char)) :
    SyncPlan :=
  match defaults with
  | some document =>
    match configuredManagedPaths P document with
    | .error _ => ⟨false, "SYNC_POLICY_INVALID", [], [], []⟩
    | .ok () => planOf P (statusEntries lines)
  | none => planOf P (statusEntries lines)

theorem prefix_root_iff {root rest front : List Char} (hroot : '/' ∉ root) (hfront : '/' ∉ front) :
    front ++ ['/'] <+: root ++ '/' :: rest ↔ root = front := by
  apply Iff.intro
  · intro h
    obtain ⟨tail, he⟩ := h
    rw [List.append_assoc, List.singleton_append] at he
    have hfirst : (root ++ '/' :: rest).splitOn '/' = root :: rest.splitOn '/' :=
      List.splitOn_append_cons_self_of_not_mem hroot _
    rw [← he, List.splitOn_append_cons_self_of_not_mem hfront] at hfirst
    exact (List.cons.inj hfirst).1.symm
  · rintro rfl
    exact ⟨rest, by rw [List.append_assoc, List.singleton_append]⟩

/-- The file's own name of a path, and the folders before it. -/
theorem exists_last_part (h : '/' ∈ path) : ∃ folder last, path = folder ++ '/' :: last ∧
    '/' ∉ last ∧ (path.splitOn '/').getLastD [] = last := by
  obtain ⟨back, front, he, hback⟩ := List.eq_append_cons_of_mem (List.mem_reverse.2 h)
  have hpath : path = front.reverse ++ '/' :: back.reverse := by
    rw [← List.reverse_reverse path, he, List.reverse_append, List.reverse_cons, List.append_assoc,
      List.singleton_append]
  refine ⟨front.reverse, back.reverse, hpath, mt List.mem_reverse.1 hback, ?_⟩
  rw [hpath, List.splitOn_append_cons_self, List.splitOn_eq_singleton (mt List.mem_reverse.1 hback),
    List.getLastD_concat]

theorem suffix_last_iff {folder last ending : List Char} (h : '/' ∉ ending) :
    ending <:+ folder ++ '/' :: last ↔ ending <:+ last := by
  apply Iff.intro
  · intro hsuffix
    cases List.suffix_or_suffix_of_suffix hsuffix ⟨folder, rfl⟩ with
    | inl hshort =>
      cases List.suffix_cons_iff.1 hshort with
      | inl he => exact (h (he ▸ List.mem_cons_self)).elim
      | inr hlast => exact hlast
    | inr hlong => exact (h (hlong.subset List.mem_cons_self)).elim
  · intro hsuffix
    exact hsuffix.trans ((List.suffix_cons _ _).trans (List.suffix_append _ _))

/-- The last part of a path is a name when the path ends with the name after a slash. -/
theorem suffix_name_iff {folder last ending : List Char} (hlast : '/' ∉ last)
    (hending : ending <:+ last) : '/' :: ending <:+ folder ++ '/' :: last ↔ last = ending := by
  apply Iff.intro
  · intro hwhole
    obtain ⟨stem, rfl⟩ := hending
    cases List.suffix_or_suffix_of_suffix hwhole (List.suffix_append folder _) with
    | inl hshort =>
      cases List.suffix_cons_iff.1 hshort with
      | inl he => exact (List.cons.inj he).2.symm
      | inr hin => exact (hlast (hin.subset List.mem_cons_self)).elim
    | inr hlong =>
      have hlength := hlong.length_le
      simp only [List.length_cons, List.length_append] at hlength
      have hnil : stem = [] := List.eq_nil_of_length_eq_zero (by omega)
      rw [hnil, List.nil_append]
  · rintro rfl
    exact List.suffix_append _ _

/-- A name with a dot is what stands in front of the last one, the dot and what follows it. -/
theorem exists_stem (h : (name.reverse.takeWhile (· != '.')).length < name.length) :
    ∃ stem, name = stem ++ '.' :: (name.reverse.takeWhile (· != '.')).reverse := by
  have hsplit := List.takeWhile_append_dropWhile (p := (· != '.')) (l := name.reverse)
  cases hrest : name.reverse.dropWhile (· != '.') with
  | nil =>
    rw [hrest, List.append_nil] at hsplit
    rw [hsplit, List.length_reverse] at h
    exact absurd h (lt_irrefl _)
  | cons c stem =>
    have hc : c = '.' := by
      have hfirst := List.head?_dropWhile_not (· != '.') name.reverse
      rw [hrest] at hfirst
      simpa using hfirst
    rw [hrest, hc] at hsplit
    have hback := congrArg List.reverse hsplit
    rw [List.reverse_append, List.reverse_cons, List.append_assoc, List.singleton_append,
      List.reverse_reverse] at hback
    exact ⟨stem.reverse, hback.symm⟩

/-- The suffix of a file name is one that it ends with and is more than. -/
theorem fileSuffix_eq_iff {letters : List Char} (hdot : '.' ∉ letters) (hne : letters ≠ []) :
    fileSuffix name = '.' :: letters ↔ '.' :: letters <:+ name ∧ name ≠ '.' :: letters := by
  apply Iff.intro
  · intro h
    rw [fileSuffix] at h
    split at h
    · cases h
    · rename_i hlong
      rw [List.cons.injEq] at h
      rw [h.2, Bool.or_eq_true, decide_eq_true_eq, not_or, not_le] at hlong
      have hlength := congrArg List.length h.2
      rw [List.length_reverse] at hlength
      have hshort : (name.reverse.takeWhile (· != '.')).length < name.length := by omega
      obtain ⟨stem, hname⟩ := exists_stem hshort
      rw [h.2] at hname
      refine ⟨⟨stem, hname.symm⟩, ?_⟩
      rintro rfl
      exact absurd hlong.2 (lt_irrefl _)
  · rintro ⟨⟨stem, rfl⟩, hmore⟩
    have hstem : stem ≠ [] := fun hnil => hmore (hnil ▸ List.nil_append _)
    have htail : ((stem ++ '.' :: letters).reverse.takeWhile (· != '.')).reverse = letters := by
      rw [List.reverse_append, List.reverse_cons, List.append_assoc,
        List.takeWhile_append_of_pos, List.singleton_append, List.takeWhile_cons_of_neg,
        List.append_nil, List.reverse_reverse]
      · exact Bool.false_ne_true
      · intro c hc
        exact bne_iff_ne.2 fun he => hdot (he ▸ List.mem_reverse.1 hc)
    rw [fileSuffix, htail, if_neg]
    rw [Bool.or_eq_true, decide_eq_true_eq, not_or, List.isEmpty_iff, List.length_append,
      List.length_cons]
    have hpos := List.length_pos_iff.2 hstem
    exact ⟨hne, by omega⟩

theorem fileSuffix_suffix (name : List Char) : fileSuffix name <:+ name := by
  cases h : fileSuffix name with
  | nil => exact List.nil_suffix
  | cons c letters =>
    have hparts := h
    rw [fileSuffix] at hparts
    split at hparts
    · cases hparts
    · rename_i hlong
      obtain ⟨rfl, hletters⟩ := List.cons.inj hparts
      rw [hletters, Bool.or_eq_true, not_or, List.isEmpty_iff] at hlong
      have hdot : '.' ∉ letters := by
        intro hmem
        rw [← hletters, List.mem_reverse] at hmem
        exact bne_iff_ne.1 (List.mem_takeWhile_imp (p := (· != '.')) hmem) rfl
      exact ((fileSuffix_eq_iff hdot hlong.1).1 h).1

/-- The managed paths by their letters: a name under `events/` that ends in `.json`, one under
`knowledge/` whose file name ends in a suffix and is more than it, and the attributes file. -/
def LiterallyManaged (name : List Char) : Prop :=
  (Text.chars "events/" <+: name ∧ Text.chars ".json" <:+ name) ∨
    (Text.chars "knowledge/" <+: name ∧ ∃ ending ∈ allowedKnowledgeSuffixes,
      Text.chars ending <:+ name ∧ ¬ '/' :: Text.chars ending <:+ name) ∨
    name = Text.chars "knowledge/.gitattributes"

theorem isAmong_iff {names : List String} :
    isAmong names text = true ↔ ∃ name ∈ names, text = Text.chars name := by
  rw [isAmong, List.any_eq_true]
  exact exists_congr fun name => and_congr_right fun _ => beq_iff_eq.trans eq_comm

theorem knowledge_suffix (h : ending ∈ allowedKnowledgeSuffixes) : ∃ letters,
    Text.chars ending = '.' :: letters ∧ '.' ∉ letters ∧ '/' ∉ '.' :: letters ∧ letters ≠ [] := by
  simp only [allowedKnowledgeSuffixes, List.mem_cons, List.not_mem_nil, or_false] at h
  rcases h with rfl | rfl
  · exact ⟨_, rfl, by decide⟩
  · exact ⟨_, rfl, by decide⟩

theorem knowledge_name_iff {folder last : List Char} (hlast : '/' ∉ last) :
    (∃ ending ∈ allowedKnowledgeSuffixes, fileSuffix last = Text.chars ending) ↔
      ∃ ending ∈ allowedKnowledgeSuffixes, Text.chars ending <:+ folder ++ '/' :: last ∧
        ¬ '/' :: Text.chars ending <:+ folder ++ '/' :: last := by
  apply exists_congr
  intro ending
  apply and_congr_right
  intro hmem
  obtain ⟨letters, he, hdot, hnot, hne⟩ := knowledge_suffix hmem
  rw [he, fileSuffix_eq_iff hdot hne, suffix_last_iff hnot]
  apply and_congr_right
  intro hends
  exact not_congr (suffix_name_iff hlast hends).symm

theorem isManagedNormalized_of_no_slash (P : Platform) (h : '/' ∉ name) :
    isManagedNormalized P name = false := by
  have hattributes : name ≠ Text.chars "knowledge/.gitattributes" := by
    rintro rfl
    exact h (by decide)
  rw [isManagedNormalized, List.splitOn_eq_singleton h, if_neg hattributes, List.length_singleton,
    decide_eq_false (by decide), Bool.false_and, Bool.false_and, ite_self, ite_self]

theorem LiterallyManaged.slash (h : LiterallyManaged name) : '/' ∈ name := by
  rcases h with ⟨hroot, _⟩ | ⟨hroot, _⟩ | rfl
  · exact hroot.subset (by decide)
  · exact hroot.subset (by decide)
  · decide

/-- A path that is in its normal form and in lower case is managed by its letters. -/
theorem isManagedPath_iff (hnormal : normalizeRepoPath P name = some name)
    (hfold : ∀ part, part <:+: name → P.casefold part = part) :
    isManagedPath P name = true ↔ LiterallyManaged name := by
  rw [isManagedPath, hnormal, Option.any_some]
  by_cases hslash : '/' ∈ name
  · rw [isManagedNormalized, LiterallyManaged]
    obtain ⟨root, rest, hname, hroot⟩ := List.eq_append_cons_of_mem hslash
    obtain ⟨folder, last, hpath, hlast, hparts⟩ := exists_last_part hslash
    have hsplit : name.splitOn '/' = root :: rest.splitOn '/' := by
      rw [hname]
      exact List.splitOn_append_cons_self_of_not_mem hroot _
    have hdeep : 2 ≤ (name.splitOn '/').length := by
      rw [hsplit, List.length_cons]
      exact Nat.succ_le_succ (List.length_pos_iff.2 (List.splitOn_ne_nil _ _))
    have hlastSuffix : last <:+ name := hpath ▸ (List.suffix_cons _ _).trans (List.suffix_append _ _)
    have hrootFold : P.casefold root = root :=
      hfold root (hname ▸ (List.prefix_append _ _).isInfix)
    have hlastFold : P.casefold last = last := hfold last hlastSuffix.isInfix
    have hsuffixFold : P.casefold (fileSuffix last) = fileSuffix last :=
      hfold _ ((fileSuffix_suffix last).trans hlastSuffix).isInfix
    have hfolder (front : List Char) (hfront : '/' ∉ front) :
        front ++ ['/'] <+: name ↔ root = front := by
      rw [hname]
      exact prefix_root_iff hroot hfront
    have hevents : Text.chars "events/" <+: name ↔ root = Text.chars "events" :=
      hfolder (Text.chars "events") (by decide)
    have hknowledge : Text.chars "knowledge/" <+: name ↔ root = Text.chars "knowledge" :=
      hfolder (Text.chars "knowledge") (by decide)
    have hjson : Text.chars ".json" <:+ last ↔ Text.chars ".json" <:+ name := by
      rw [hpath]
      exact (suffix_last_iff (by decide)).symm
    have hending : (∃ ending ∈ allowedKnowledgeSuffixes, fileSuffix last = Text.chars ending) ↔
        ∃ ending ∈ allowedKnowledgeSuffixes,
          Text.chars ending <:+ name ∧ ¬ '/' :: Text.chars ending <:+ name := by
      rw [hpath]
      exact knowledge_name_iff hlast
    rw [hparts, hsplit, List.headD_cons, hrootFold, hlastFold, hsuffixFold, ← hsplit,
      decide_eq_true hdeep, Bool.true_and, Bool.true_and, hevents, hknowledge, ← hjson, ← hending]
    by_cases hattributes : name = Text.chars "knowledge/.gitattributes"
    · rw [if_pos hattributes]
      exact iff_of_true rfl (.inr (.inr hattributes))
    · rw [if_neg hattributes, or_iff_left hattributes]
      by_cases hroots : root = Text.chars "events"
      · have hother : root ≠ Text.chars "knowledge" := by
          rw [hroots]
          decide
        rw [if_pos hroots, List.isSuffixOf_iff_suffix, and_iff_right hroots]
        exact (or_iff_left fun h => hother h.1).symm
      · rw [if_neg hroots, ← isAmong_iff, or_iff_right fun h => hroots h.1]
        split
        · rename_i hroot'
          exact (and_iff_right hroot').symm
        · rename_i hroot'
          exact iff_of_false Bool.false_ne_true fun h => hroot' h.1
  · rw [isManagedNormalized_of_no_slash P hslash]
    exact iff_of_false Bool.false_ne_true fun h => hslash h.slash

end ExternalIntelligence
