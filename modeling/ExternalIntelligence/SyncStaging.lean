import ExternalIntelligence.PathQuoting
import ExternalIntelligence.SyncPlan

namespace ExternalIntelligence
set_option autoImplicit true

open Quoting

/-- The bytes of a text. -/
def encodeText (s : String) : List UInt8 :=
  s.toByteArray.data.toList

/-- The name of a file as a repository has it: any bytes but zero. -/
structure RepoName where
  bytes : List UInt8
  named : bytes ≠ []
  unbroken : 0 ∉ bytes

/-- What the status says of a file in the index or in the working tree. -/
inductive Mark
  | unmodified
  | modified
  | typeChanged
  | added
  | deleted
  | renamed
  | untracked
deriving DecidableEq, Repr

def Mark.letter : Mark → Char
  | .unmodified => ' '
  | .modified => 'M'
  | .typeChanged => 'T'
  | .added => 'A'
  | .deleted => 'D'
  | .renamed => 'R'
  | .untracked => '?'

/-- A change of the working tree or of the index; a renamed file has the name it had. -/
structure TreeChange where
  index : Mark
  worktree : Mark
  path : RepoName
  source : Option RepoName
  changed : ¬(index = .unmodified ∧ worktree = .unmodified)
  untracked : index = .untracked ↔ worktree = .untracked
  renamed : source.isSome = true ↔ index = .renamed ∨ worktree = .renamed

namespace TreeChange

/-- The names of a change as the status prints them. -/
def printed (c : TreeChange) : List Char :=
  match c.source with
  | some source => quote source.bytes ++ (arrow ++ quote c.path.bytes)
  | none => quote c.path.bytes

/-- The line of a change in the porcelain status. -/
def line (c : TreeChange) : List Char :=
  c.index.letter :: c.worktree.letter :: ' ' :: c.printed

def UnderEvents (c : TreeChange) : Prop :=
  encodeText "events/" <+: c.path.bytes ∨
    ∃ source, c.source = some source ∧ encodeText "events/" <+: source.bytes

/-- The change is a modification, a deletion, a change of type or a rename. -/
def Rewrites (c : TreeChange) : Prop :=
  ∃ mark ∈ [c.index, c.worktree], mark ∈ [.modified, .typeChanged, .deleted, .renamed]

end TreeChange

/-- The names that may be staged, under the literal directories. -/
def Stageable (name : List UInt8) : Prop :=
  (encodeText "events/" <+: name ∧ encodeText ".json" <:+ name) ∨
    (encodeText "knowledge/" <+: name ∧
      (encodeText ".md" <:+ name ∨ encodeText ".json" <:+ name)) ∨
    name = encodeText "knowledge/.gitattributes"

/-- What is promised of a plan that is allowed: the paths to stage are the changed ones, each of
them may be staged, and no file of the journal is rewritten. -/
def StagesExactly (P : Platform) (defaults : Option (Option Value)) (changes : List TreeChange) :
    Prop :=
  let plan := buildSyncPlan P defaults (changes.map TreeChange.line)
  plan.allowed = true →
    (∀ name, name ∈ plan.stagePaths.map encodeText ↔ ∃ c ∈ changes, c.path.bytes = name) ∧
      (∀ c ∈ changes, Stageable c.path.bytes) ∧ ∀ c ∈ changes, c.UnderEvents → ¬c.Rewrites

/-- A change of a file whose name is printed as it is. -/
structure TreeChange.Plain (c : TreeChange) : Prop where
  unescaped : c.path.bytes.all isPlain = true
  stageable : Stageable c.path.bytes
  appended : c.UnderEvents → ¬c.Rewrites

/-- The policy lets no plan come of the changes: the defaults are not the locked ones, the line
of some change is refused, or no line has a path. -/
def Refused (P : Platform) (defaults : Option (Option Value)) (changes : List TreeChange) : Prop :=
  (∃ document, defaults = some document ∧ configuredManagedPaths P document ≠ .ok ()) ∨
    (∃ c ∈ changes, ∃ entry, statusEntry c.line = some entry ∧ bucketOf P entry ≠ .managed) ∨
    ∀ c ∈ changes, statusEntry c.line = none

theorem encodeText_ofList (cs : List Char) :
    encodeText (String.ofList cs) = cs.flatMap String.utf8EncodeChar := by
  rw [encodeText, String.toByteArray_ofList, List.utf8Encode, List.data_toByteArray]

/-- A text with a character that only quotation marks follow. -/
def EndsWith (c : Char) (text : List Char) : Prop :=
  ∃ front marks, text = front ++ c :: marks ∧ ∀ d ∈ marks, d = '"'

namespace EndsWith

theorem ne_nil (h : EndsWith c text) : text ≠ [] := by
  obtain ⟨front, marks, rfl, _⟩ := h
  exact List.append_ne_nil_of_right_ne_nil _ (List.cons_ne_nil _ _)

theorem append (h : EndsWith c text) (front : List Char) : EndsWith c (front ++ text) := by
  obtain ⟨rest, marks, rfl, hmarks⟩ := h
  exact ⟨front ++ rest, marks, (List.append_assoc _ _ _).symm, hmarks⟩

theorem dropWhile (h : EndsWith c text) (hc : p c = false) : EndsWith c (text.dropWhile p) := by
  obtain ⟨front, marks, rfl, hmarks⟩ := h
  induction front with
  | nil =>
    rw [List.nil_append, List.dropWhile_cons_of_neg (by rw [hc]; exact Bool.false_ne_true)]
    exact ⟨[], marks, rfl, hmarks⟩
  | cons d front ih =>
    rw [List.cons_append, List.dropWhile_cons]
    split
    · exact ih
    · exact ⟨d :: front, marks, rfl, hmarks⟩

theorem rdropWhile (h : EndsWith c text) (hc : p c = false) : EndsWith c (text.rdropWhile p) := by
  obtain ⟨front, marks, rfl, hmarks⟩ := h
  induction marks using List.reverseRecOn with
  | nil =>
    rw [List.rdropWhile_concat_neg _ _ _ (by rw [hc]; exact Bool.false_ne_true)]
    exact ⟨front, [], rfl, hmarks⟩
  | append_singleton marks d ih =>
    have hassoc : front ++ c :: (marks ++ [d]) = (front ++ c :: marks) ++ [d] := by simp
    rw [hassoc, List.rdropWhile_concat]
    split
    · exact ih fun e he => hmarks e (List.mem_append_left _ he)
    · exact ⟨front, marks ++ [d], hassoc.symm, hmarks⟩

theorem forwardSlashes (h : EndsWith c text) (hc : c ≠ '\\') :
    EndsWith c (ExternalIntelligence.forwardSlashes text) := by
  obtain ⟨front, marks, rfl, hmarks⟩ := h
  refine ⟨ExternalIntelligence.forwardSlashes front,
    ExternalIntelligence.forwardSlashes marks, ?_, ?_⟩
  · rw [ExternalIntelligence.forwardSlashes, List.map_append, List.map_cons, if_neg hc]
    rfl
  · intro d hd
    obtain ⟨e, he, rfl⟩ := List.mem_map.1 hd
    rw [hmarks e he]
    rfl

/-- What follows an arrow in a text ends as the text does. -/
theorem after_arrow (h : EndsWith c text) (hc : c ∉ arrow) (htext : text = old ++ (arrow ++ new)) :
    EndsWith c new := by
  obtain ⟨front, marks, rfl, hmarks⟩ := h
  rw [← List.append_assoc, List.append_eq_append_iff] at htext
  cases htext with
  | inl hlong =>
    obtain ⟨between, hbefore, hafter⟩ := hlong
    cases between with
    | nil => exact ⟨[], marks, hafter.symm, hmarks⟩
    | cons d between =>
      rw [List.cons_append, List.cons.injEq] at hafter
      obtain ⟨rfl, hafter⟩ := hafter
      have hlast : (front ++ c :: between).getLast? = some ' ' := by
        rw [← hbefore, List.getLast?_append]
        rfl
      rw [List.getLast?_append_of_ne_nil _ (List.cons_ne_nil _ _)] at hlast
      cases List.mem_cons.1 (List.mem_of_getLast? hlast) with
      | inl hspace =>
        rw [← hspace] at hc
        exact (hc (List.mem_cons_self ..)).elim
      | inr hspace =>
        have hmark := hmarks ' ' (by rw [hafter]; exact List.mem_append_left _ hspace)
        exact (show ' ' ≠ '"' by decide) hmark |>.elim
  | inr hshort =>
    obtain ⟨between, _, hafter⟩ := hshort
    exact ⟨between, marks, hafter, hmarks⟩

end EndsWith

theorem splitOnce_some {separator : List Char} (h : splitOnce separator text = some (old, new)) :
    text = old ++ (separator ++ new) := by
  induction text generalizing old with
  | nil =>
    rw [splitOnce] at h
    split at h
    · rename_i hempty
      cases h
      rw [List.isEmpty_iff.1 hempty]
      rfl
    · cases h
  | cons c text ih =>
    rw [splitOnce] at h
    split at h
    · rename_i hprefix
      obtain ⟨rest, hrest⟩ := List.isPrefixOf_iff_prefix.1 hprefix
      cases h
      rw [← hrest, List.drop_left]
      rfl
    · obtain ⟨halves, hhalves, he⟩ := Option.map_eq_some_iff.1 h
      cases he
      rw [ih hhalves]
      rfl

theorem splitOnce_isSome (separator front back : List Char) :
    (splitOnce separator (front ++ (separator ++ back))).isSome = true := by
  induction front with
  | nil =>
    rw [List.nil_append]
    cases h : separator ++ back with
    | nil =>
      rw [splitOnce, (List.append_eq_nil_iff.1 h).1]
      rfl
    | cons c rest =>
      rw [splitOnce, ← h, if_pos (List.isPrefixOf_iff_prefix.2 (List.prefix_append _ _))]
      rfl
  | cons c front ih =>
    rw [List.cons_append, splitOnce]
    split
    · rfl
    · rw [Option.isSome_map]
      exact ih

theorem isPrefixOf_map {f : Char → Char} {word : List Char} (h : ∀ c ∈ word, ∀ d, f d = c ↔ d = c)
    (text : List Char) : word.isPrefixOf (text.map f) = word.isPrefixOf text := by
  induction word generalizing text with
  | nil => rfl
  | cons c word ih =>
    cases text with
    | nil => rfl
    | cons d text =>
      rw [List.map_cons, List.isPrefixOf_cons_cons, List.isPrefixOf_cons_cons,
        ih fun e he => h e (List.mem_cons_of_mem _ he)]
      have hd : (c == f d) = (c == d) := by
        rw [Bool.eq_iff_iff, beq_iff_eq, beq_iff_eq, eq_comm, h c (List.mem_cons_self ..), eq_comm]
      rw [hd]

/-- A text without the separator has none when its other characters are replaced. -/
theorem splitOnce_map_none {f : Char → Char} {separator : List Char}
    (h : ∀ c ∈ separator, ∀ d, f d = c ↔ d = c)
    (hnone : splitOnce separator text = none) : splitOnce separator (text.map f) = none := by
  induction text with
  | nil => exact hnone
  | cons c text ih =>
    rw [splitOnce] at hnone
    rw [List.map_cons, splitOnce, ← List.map_cons (f := f), isPrefixOf_map h]
    split at hnone
    · cases hnone
    · rename_i hprefix
      rw [if_neg hprefix, Option.map_eq_none_iff, ih (Option.map_eq_none_iff.1 hnone)]

theorem slash_arrow (c : Char) (hc : c ∈ arrow) (d : Char) :
    (if d = '\\' then '/' else d) = c ↔ d = c := by
  by_cases hd : d = '\\'
  · have hother : arrow.all (fun c => '/' != c && '\\' != c) = true := by decide
    have hc' := List.all_eq_true.1 hother c hc
    rw [Bool.and_eq_true, bne_iff_ne, bne_iff_ne] at hc'
    rw [if_pos hd, hd]
    exact iff_of_false hc'.1 hc'.2
  · rw [if_neg hd]

theorem endsWith_normalize (h : EndsWith c text) (hspace : Text.isSpace c = false)
    (harrow : c ∉ arrow) (hmark : c ≠ '"') (hslash : c ≠ '\\') :
    EndsWith c (normalizeStatusPath text) := by
  have hstrip : ∀ {t}, EndsWith c t → EndsWith c (Text.strip t) :=
    fun ht => (ht.dropWhile hspace).rdropWhile hspace
  have hquotes : ∀ {t}, EndsWith c t → EndsWith c (stripQuotes t) :=
    fun ht => (ht.dropWhile (p := (· == '"')) (beq_false_of_ne hmark)).rdropWhile
      (p := (· == '"')) (beq_false_of_ne hmark)
  rw [normalizeStatusPath]
  split
  · rename_i old rest hsplit
    apply hquotes
    apply hstrip
    exact (hstrip (h.forwardSlashes hslash)).after_arrow harrow (splitOnce_some hsplit)
  · exact hquotes (hstrip (hstrip (h.forwardSlashes hslash)))

theorem dropWhile_of_head {text : List α} (hfirst : text.head? = some c) (hc : p c = false) :
    text.dropWhile p = text := by
  obtain ⟨rest, rfl⟩ := List.head?_eq_some_iff.1 hfirst
  exact List.dropWhile_cons_of_neg (by rw [hc]; exact Bool.false_ne_true)

theorem rdropWhile_of_last {text : List α} (hlast : text.getLast? = some d) (hd : p d = false) :
    text.rdropWhile p = text := by
  obtain ⟨front, rfl⟩ := List.getLast?_eq_some_iff.1 hlast
  exact List.rdropWhile_concat_neg _ _ _ (by rw [hd]; exact Bool.false_ne_true)

/-- Trimming leaves a text whose first and last items are kept. -/
theorem trim_eq_self {text : List α} (hfirst : text.head? = some c) (hc : p c = false)
    (hlast : text.getLast? = some d) (hd : p d = false) :
    (text.dropWhile p).rdropWhile p = text := by
  rw [dropWhile_of_head hfirst hc, rdropWhile_of_last hlast hd]

theorem stageable_first (h : Stageable name) : ∃ first ∈ ([101, 107] : List UInt8),
    name.head? = some first := by
  have hhead : ∀ {word : List UInt8} {first}, word.head? = some first → word <+: name →
      name.head? = some first := by
    intro word first hword hprefix
    obtain ⟨rest, rfl⟩ := hprefix
    rw [List.head?_append, hword]
    rfl
  cases h with
  | inl hevents => exact ⟨101, by decide, hhead (by decide) hevents.1⟩
  | inr h =>
    cases h with
    | inl hknowledge => exact ⟨107, by decide, hhead (by decide) hknowledge.1⟩
    | inr he =>
      rw [he]
      exact ⟨107, by decide, by decide⟩

theorem stageable_last (h : Stageable name) : ∃ last ∈ ([110, 100, 115] : List UInt8),
    name.getLast? = some last := by
  have htail : ∀ {word : List UInt8} {last}, word.getLast? = some last → word <:+ name →
      name.getLast? = some last := by
    intro word last hword hsuffix
    obtain ⟨front, rfl⟩ := hsuffix
    rw [List.getLast?_append, hword]
    rfl
  cases h with
  | inl hevents => exact ⟨110, by decide, htail (by decide) hevents.2⟩
  | inr h =>
    cases h with
    | inl hknowledge =>
      cases hknowledge.2 with
      | inl hmd => exact ⟨100, by decide, htail (by decide) hmd⟩
      | inr hjson => exact ⟨110, by decide, htail (by decide) hjson⟩
    | inr he =>
      rw [he]
      exact ⟨115, by decide, by decide⟩

/-- How the policy sees a name: as it is printed, with slashes for the backslashes. -/
def shown (name : List UInt8) : List Char :=
  forwardSlashes (escapeAll name)

/-- The characters that names which may be staged start and end with. -/
def edges : List Char :=
  ['e', 'k', 'n', 'd', 's']

theorem edges_kept (h : c ∈ edges) : Text.isSpace c = false ∧ c ∉ arrow ∧ c ≠ '"' ∧ c ≠ '\\' := by
  have hall : (edges.all fun c =>
      !Text.isSpace c && !arrow.contains c && c != '"' && c != '\\') = true := by
    decide
  simpa [and_assoc] using List.all_eq_true.1 hall c h

theorem shown_head (h : Stageable name) : ∃ c ∈ edges, (shown name).head? = some c := by
  obtain ⟨first, hfirst, hhead⟩ := stageable_first h
  obtain ⟨rest, rfl⟩ := List.head?_eq_some_iff.1 hhead
  have hchar : ([101, 107].all fun b => edges.any fun c =>
      (forwardSlashes (escape b)).head? == some c) = true := by
    decide
  obtain ⟨c, hc, he⟩ := List.any_eq_true.1 (List.all_eq_true.1 hchar first hfirst)
  rw [beq_iff_eq] at he
  refine ⟨c, hc, ?_⟩
  rw [shown, escapeAll, List.flatMap_cons, forwardSlashes, List.map_append, List.head?_append,
    ← forwardSlashes, he]
  rfl

theorem escapeAll_last (h : Stageable name) : ∃ c ∈ edges,
    (escapeAll name).getLast? = some c := by
  obtain ⟨last, hlast, htail⟩ := stageable_last h
  obtain ⟨front, rfl⟩ := List.getLast?_eq_some_iff.1 htail
  have hchar : ([110, 100, 115].all fun b => edges.any fun c =>
      (escape b).getLast? == some c) = true := by
    decide
  obtain ⟨c, hc, he⟩ := List.any_eq_true.1 (List.all_eq_true.1 hchar last hlast)
  rw [beq_iff_eq] at he
  refine ⟨c, hc, ?_⟩
  rw [escapeAll, List.flatMap_append, List.flatMap_singleton, List.getLast?_append, he]
  rfl

theorem shown_last (h : Stageable name) : ∃ c ∈ edges, (shown name).getLast? = some c := by
  obtain ⟨c, hc, he⟩ := escapeAll_last h
  obtain ⟨_, _, _, hslash⟩ := edges_kept hc
  refine ⟨c, hc, ?_⟩
  rw [shown, forwardSlashes, List.getLast?_map, he, Option.map_some, if_neg hslash]

theorem quote_endsWith (h : Stageable name) : ∃ c ∈ edges, EndsWith c (quote name) := by
  obtain ⟨c, hc, he⟩ := escapeAll_last h
  obtain ⟨front, hfront⟩ := List.getLast?_eq_some_iff.1 he
  refine ⟨c, hc, ?_⟩
  rw [quote, hfront]
  split
  · exact ⟨front, [], rfl, fun d hd => absurd hd List.not_mem_nil⟩
  · exact ⟨'"' :: front, ['"'], by simp, fun d hd => List.mem_singleton.1 hd⟩

/-- A name without an arrow is read as it is shown. -/
theorem normalize_quote (h : Stageable name) (hnone : splitOnce arrow (quote name) = none) :
    normalizeStatusPath (quote name) = shown name := by
  obtain ⟨c, hc, hhead⟩ := shown_head h
  obtain ⟨d, hd, hlast⟩ := shown_last h
  have hsolid : ∀ {c}, c ∈ edges → Text.isSpace c = false ∧ (c == '"') = false := fun hc =>
    ⟨(edges_kept hc).1, beq_false_of_ne (edges_kept hc).2.2.1⟩
  have hcs := hsolid hc
  have hds := hsolid hd
  have hplain : Text.strip (shown name) = shown name :=
    trim_eq_self hhead hcs.1 hlast hds.1
  have hquotes : stripQuotes (shown name) = shown name := trim_eq_self hhead hcs.2 hlast hds.2
  have hslashed : splitOnce arrow (forwardSlashes (quote name)) = none :=
    splitOnce_map_none slash_arrow hnone
  rw [normalizeStatusPath]
  rw [quote] at hslashed ⊢
  by_cases hall : (name.all fun b => isPlain b && b != 32) = true
  · rw [if_pos hall, ← shown] at hslashed ⊢
    rw [hplain, hslashed]
    dsimp only
    rw [hplain, hquotes]
  · rw [if_neg hall] at hslashed ⊢
    have hmarked : forwardSlashes ('"' :: (escapeAll name ++ ['"'])) =
        '"' :: (shown name ++ ['"']) := by
      rw [forwardSlashes, List.map_cons, List.map_append]
      rfl
    have hstrip : Text.strip ('"' :: (shown name ++ ['"'])) = '"' :: (shown name ++ ['"']) := by
      apply trim_eq_self (c := '"') (d := '"') rfl (by decide) _ (by decide)
      rw [← List.cons_append, List.getLast?_append]
      rfl
    rw [hmarked] at hslashed ⊢
    rw [hstrip, hslashed]
    dsimp only
    have hhead' : (shown name ++ ['"']).head? = some c := by
      rw [List.head?_append, hhead]
      rfl
    rw [hstrip, stripQuotes, List.dropWhile_cons_of_pos (by rfl), dropWhile_of_head hhead' hcs.2,
      List.rdropWhile_concat_pos _ _ _ (by rfl), rdropWhile_of_last hlast hds.2]

/-- How the line of a change with a name that may be staged is read. -/
theorem statusEntry_line {c : TreeChange} (h : Stageable c.path.bytes) :
    statusEntry c.line = match splitOnce arrow c.printed with
      | some (old, new) =>
        some ⟨normalizeStatusPath new, [c.index.letter, c.worktree.letter],
          some (normalizeStatusPath old)⟩
      | none => some ⟨shown c.path.bytes, [c.index.letter, c.worktree.letter], none⟩ := by
  obtain ⟨d, hd, hquote⟩ := quote_endsWith h
  obtain ⟨hspace, harrow, hmark, hslash⟩ := edges_kept hd
  have hprinted : EndsWith d c.printed := by
    rw [TreeChange.printed]
    cases c.source with
    | some source => exact (hquote.append arrow).append _
    | none => exact hquote
  have hline : (Text.strip c.line).isEmpty = false := by
    have hends : EndsWith d c.line :=
      hprinted.append [c.index.letter, c.worktree.letter, ' ']
    rw [List.isEmpty_eq_false_iff]
    exact ((hends.dropWhile hspace).rdropWhile hspace).ne_nil
  rw [statusEntry, hline, if_neg Bool.false_ne_true]
  have hread : (if (decide (3 ≤ c.line.length) && c.line[2]? == some ' ') = true then
      (c.line.take 2, c.line.drop 3) else (['?', '?'], c.line)) =
      ([c.index.letter, c.worktree.letter], c.printed) := by
    rw [if_pos]
    · rfl
    · rw [TreeChange.line]
      simp
  rw [hread]
  dsimp only
  cases hsplit : splitOnce arrow c.printed with
  | some halves =>
    dsimp only
    have hends := endsWith_normalize (hprinted.after_arrow harrow (splitOnce_some hsplit)) hspace
      harrow hmark hslash
    rw [List.isEmpty_eq_false_iff.2 hends.ne_nil, if_neg Bool.false_ne_true]
  | none =>
    dsimp only
    have hsource : c.printed = quote c.path.bytes := by
      rw [TreeChange.printed] at hsplit ⊢
      cases hs : c.source with
      | some source =>
        rw [hs] at hsplit
        have harrows := splitOnce_isSome arrow (quote source.bytes) (quote c.path.bytes)
        rw [hsplit] at harrows
        exact (Bool.false_ne_true harrows).elim
      | none => rfl
    rw [hsource] at hsplit ⊢
    rw [normalize_quote h hsplit]
    obtain ⟨first, _, hhead⟩ := shown_head h
    obtain ⟨rest, hrest⟩ := List.head?_eq_some_iff.1 hhead
    rw [hrest]
    rfl

theorem bucketOf_arrow (h : entry.originalPath.isSome = true) : bucketOf P entry ≠ .managed := by
  rw [bucketOf]
  split
  · exact fun he => Bucket.noConfusion he
  · split
    all_goals exact fun he => Bucket.noConfusion he

/-- A change that gets through the policy is read by its shown name. -/
theorem statusEntry_managed {c : TreeChange} (h : Stageable c.path.bytes)
    (hmanaged : ∀ entry, statusEntry c.line = some entry → bucketOf P entry = .managed) :
    ∃ entry, statusEntry c.line = some entry ∧ entry.path = shown c.path.bytes := by
  have hline := statusEntry_line h
  cases hsplit : splitOnce arrow c.printed with
  | some halves =>
    rw [hsplit] at hline
    exact (bucketOf_arrow rfl (hmanaged _ hline)).elim
  | none =>
    rw [hsplit] at hline
    exact ⟨_, hline, rfl⟩

theorem pathsIn_isEmpty {entries : List StatusEntry} : (pathsIn P entries bucket).isEmpty = true ↔
    ∀ entry ∈ entries, bucketOf P entry ≠ bucket := by
  rw [pathsIn, List.isEmpty_iff, List.map_eq_nil_iff, List.filter_eq_nil_iff]
  exact forall₂_congr fun entry _ => by rw [beq_iff_eq]

/-- A plan of entries that are all managed stages their paths. -/
theorem planOf_managed (hne : entries ≠ []) (h : ∀ entry ∈ entries, bucketOf P entry = .managed) :
    planOf P entries = ⟨true, "ENGINE_PATHS_READY",
      sortedSet (entries.map fun entry => String.ofList entry.path), [], []⟩ := by
  have hother : ∀ bucket, bucket ≠ .managed → (pathsIn P entries bucket).isEmpty = true := by
    intro bucket hbucket
    apply pathsIn_isEmpty.2
    intro entry hentry he
    exact hbucket (he.symm.trans (h entry hentry))
  have hpaths : pathsIn P entries .managed =
      entries.map fun entry => String.ofList entry.path := by
    rw [pathsIn, List.filter_eq_self.2 fun entry hentry => beq_iff_eq.2 (h entry hentry)]
  have hsome : (pathsIn P entries .managed).isEmpty = false := by
    rw [hpaths, List.isEmpty_eq_false_iff]
    exact fun he => hne (List.map_eq_nil_iff.1 he)
  rw [planOf, List.isEmpty_eq_false_iff.2 hne, hother .journalMutation (by decide),
    hother .unsafePath (by decide), hother .review (by decide), hother .unrelated (by decide),
    hsome, hpaths]
  rfl

/-- Only plans of entries that are all managed are allowed. -/
theorem planOf_allowed (h : (planOf P entries).allowed = true) :
    entries ≠ [] ∧ ∀ entry ∈ entries, bucketOf P entry = .managed := by
  have hnone : ∀ {bucket}, ¬(!(pathsIn P entries bucket).isEmpty) = true →
      ∀ entry ∈ entries, bucketOf P entry ≠ bucket := by
    intro bucket hb
    rw [Bool.not_eq_true', Bool.not_eq_false] at hb
    exact pathsIn_isEmpty.1 hb
  rw [planOf] at h
  split_ifs at h with hempty hjournal hunsafe hreview hunrelated hmanaged
  refine ⟨fun he => hempty (List.isEmpty_iff.2 he), fun entry hentry => ?_⟩
  cases hb : bucketOf P entry with
  | managed => rfl
  | unrelated => exact (hnone hunrelated entry hentry hb).elim
  | review => exact (hnone hreview entry hentry hb).elim
  | unsafePath => exact (hnone hunsafe entry hentry hb).elim
  | journalMutation => exact (hnone hjournal entry hentry hb).elim

theorem shown_shown (name : List UInt8) : (shown name).all isShown = true := by
  rw [shown, forwardSlashes, List.all_map, List.all_eq_true]
  intro c hc
  have hshown := List.all_eq_true.1 (escapeAll_shown name) c hc
  rw [Function.comp_apply]
  split
  · decide
  · exact hshown

theorem encodeText_shown (name : List UInt8) :
    encodeText (String.ofList (shown name)) = (shown name).map fun c => c.toNat.toUInt8 := by
  have hall := List.all_eq_true.1 (shown_shown name)
  rw [encodeText_ofList, List.flatMap_congr fun c hc => utf8EncodeChar_shown (hall c hc)]
  exact List.flatMap_pure_eq_map _ _

theorem length_encodeText_shown (name : List UInt8) :
    (encodeText (String.ofList (shown name))).length = (escapeAll name).length := by
  rw [encodeText_shown, List.length_map, shown, forwardSlashes, List.length_map]

/-- A plain name is shown as it is. -/
theorem encodeText_shown_plain (h : name.all isPlain = true) :
    encodeText (String.ofList (shown name)) = name := by
  have hbyte : ∀ b, isPlain b = true →
      (if Char.ofNat b.toNat = '\\' then '/' else Char.ofNat b.toNat).toNat.toUInt8 = b := by
    apply forall_byte
    decide +kernel
  rw [encodeText_shown, shown, escapeAll_plain h, forwardSlashes, List.map_map, List.map_map]
  apply (List.map_congr_left fun b hb => hbyte b (List.all_eq_true.1 h b hb)).trans
  exact List.map_id' name

theorem encodeText_chars (word : String) :
    encodeText (String.ofList (Text.chars word)) = encodeText word := by
  rw [Text.chars_eq_toList, String.ofList_toList]

theorem encodeText_prefix (h : Text.chars word <+: text) :
    encodeText word <+: encodeText (String.ofList text) := by
  obtain ⟨rest, rfl⟩ := h
  rw [← encodeText_chars word, encodeText_ofList, encodeText_ofList, List.flatMap_append]
  exact List.prefix_append _ _

theorem encodeText_suffix (h : Text.chars word <:+ text) :
    encodeText word <:+ encodeText (String.ofList text) := by
  obtain ⟨front, rfl⟩ := h
  rw [← encodeText_chars word, encodeText_ofList, encodeText_ofList, List.flatMap_append]
  exact List.suffix_append _ _

/-- A plain name in normal form and in lower case that the policy accepts may be staged. -/
theorem stageable_of_managed (hplain : name.all isPlain = true)
    (hnormal : normalizeRepoPath P (shown name) = some (shown name))
    (hfold : ∀ part, part <:+: shown name → P.casefold part = part)
    (h : isManagedPath P (shown name) = true) : Stageable name := by
  have hname := encodeText_shown_plain hplain
  rcases (isManagedPath_iff hnormal hfold).1 h with ⟨hroot, hends⟩ |
    ⟨hroot, ending, hending, hends, _⟩ | hattributes
  · exact .inl ⟨hname ▸ encodeText_prefix hroot, hname ▸ encodeText_suffix hends⟩
  · right
    left
    refine ⟨hname ▸ encodeText_prefix hroot, ?_⟩
    simp only [allowedKnowledgeSuffixes, List.mem_cons, List.not_mem_nil, or_false] at hending
    rcases hending with rfl | rfl
    · exact .inl (hname ▸ encodeText_suffix hends)
    · exact .inr (hname ▸ encodeText_suffix hends)
  · right
    right
    rw [← hname, hattributes, encodeText_chars]

/-- Only a quotation mark shows as a byte that has to be escaped. -/
theorem escaped_of_mem_shown (hb : b ∈ encodeText (String.ofList (shown name)))
    (h : isPlain b = false) : ∃ a ∈ name, isPlain a = false := by
  rw [encodeText_shown] at hb
  obtain ⟨c, hc, rfl⟩ := List.mem_map.1 hb
  have hshown := List.all_eq_true.1 (shown_shown name) c hc
  rw [shown, forwardSlashes] at hc
  obtain ⟨d, hd, rfl⟩ := List.mem_map.1 hc
  obtain ⟨a, ha, hda⟩ := List.mem_flatMap.1 hd
  refine ⟨a, ha, escape_mark a ?_⟩
  by_contra hmark
  have hd' : d ≠ '"' := fun he => hmark (he ▸ hda)
  by_cases hslash : d = '\\'
  · rw [if_pos hslash] at h
    exact Bool.noConfusion (h.symm.trans (by decide : isPlain '/'.toNat.toUInt8 = true))
  · rw [if_neg hslash] at h hshown
    rw [isPlain_shown hshown hd' hslash] at h
    exact Bool.noConfusion h

/-- Names that are all shown as one of them need no escapes. -/
theorem plain_of_shown (names : List (List UInt8))
    (h : ∀ name ∈ names, ∃ other ∈ names, encodeText (String.ofList (shown other)) = name)
    (n : Nat) : ∀ name ∈ names, name.length = n → name.all isPlain = true := by
  induction n using Nat.strongRecOn with
  | ind n ih =>
    intro name hname hn
    rw [List.all_eq_true]
    intro b hb
    by_contra hplain
    obtain ⟨other, hother, he⟩ := h name hname
    rw [← he] at hb
    obtain ⟨a, ha, hescaped⟩ := escaped_of_mem_shown hb (Bool.not_eq_true _ ▸ hplain)
    have hlonger := length_escapeAll_lt ha hescaped
    rw [← length_encodeText_shown, he, hn] at hlonger
    have hall := List.all_eq_true.1 (ih other.length hlonger other hother rfl) a ha
    rw [hescaped] at hall
    exact Bool.false_ne_true hall

theorem mem_entries {changes : List TreeChange} :
    entry ∈ statusEntries (changes.map TreeChange.line) ↔
      ∃ c ∈ changes, statusEntry c.line = some entry := by
  rw [statusEntries, List.mem_filterMap]
  constructor
  · intro h
    obtain ⟨line, hline, he⟩ := h
    obtain ⟨c, hc, rfl⟩ := List.mem_map.1 hline
    exact ⟨c, hc, he⟩
  · intro h
    obtain ⟨c, hc, he⟩ := h
    exact ⟨c.line, List.mem_map_of_mem hc, he⟩

/-- A plan that is allowed is one of changes that are not refused. -/
theorem not_refused {changes : List TreeChange}
    (h : (buildSyncPlan P defaults (changes.map TreeChange.line)).allowed = true) :
    ¬Refused P defaults changes := by
  have hplan : (planOf P (statusEntries (changes.map TreeChange.line))).allowed = true ∧
      ∀ document, defaults = some document → configuredManagedPaths P document = .ok () := by
    cases defaults with
    | none => exact ⟨h, fun document he => nomatch he⟩
    | some document =>
      rw [buildSyncPlan.eq_def] at h
      dsimp only at h
      split at h
      · cases h
      · rename_i hok
        exact ⟨h, fun document he => Option.some.inj he ▸ hok⟩
  obtain ⟨hne, hall⟩ := planOf_allowed hplan.1
  intro hrefused
  cases hrefused with
  | inl hdefaults =>
    obtain ⟨document, he, hbad⟩ := hdefaults
    exact hbad (hplan.2 document he)
  | inr hrefused =>
    cases hrefused with
    | inl hbad =>
      obtain ⟨c, hc, entry, he, hbucket⟩ := hbad
      exact hbucket (hall entry (mem_entries.2 ⟨c, hc, he⟩))
    | inr hlost =>
      obtain ⟨entry, hentry⟩ := List.exists_mem_of_ne_nil _ hne
      obtain ⟨c, hc, he⟩ := mem_entries.1 hentry
      rw [hlost c hc] at he
      cases he

/-- The plan of changes that are not refused stages what their lines are read as. -/
theorem plan_of_not_refused {changes : List TreeChange} (h : ¬Refused P defaults changes) :
    (∀ c ∈ changes, ∀ entry, statusEntry c.line = some entry → bucketOf P entry = .managed) ∧
      (buildSyncPlan P defaults (changes.map TreeChange.line)).allowed = true ∧
      ∀ text, text ∈ (buildSyncPlan P defaults (changes.map TreeChange.line)).stagePaths ↔
        ∃ c ∈ changes, ∃ entry, statusEntry c.line = some entry ∧
          String.ofList entry.path = text := by
  rw [Refused, not_or, not_or] at h
  obtain ⟨hdefaults, hbad, hlost⟩ := h
  have hmanaged : ∀ c ∈ changes, ∀ entry, statusEntry c.line = some entry →
      bucketOf P entry = .managed := by
    intro c hc entry he
    by_contra hbucket
    exact hbad ⟨c, hc, entry, he, hbucket⟩
  refine ⟨hmanaged, ?_⟩
  have hne : statusEntries (changes.map TreeChange.line) ≠ [] := by
    intro hnil
    apply hlost
    intro c hc
    by_contra hsome
    obtain ⟨entry, he⟩ := Option.ne_none_iff_exists'.1 hsome
    have hmem := mem_entries.2 ⟨c, hc, he⟩
    rw [hnil] at hmem
    exact List.not_mem_nil hmem
  have hplan : buildSyncPlan P defaults (changes.map TreeChange.line) =
      planOf P (statusEntries (changes.map TreeChange.line)) := by
    cases defaults with
    | none => rfl
    | some document =>
      have hok : configuredManagedPaths P document = .ok () := by
        by_contra hbad
        exact hdefaults ⟨document, rfl, hbad⟩
      rw [buildSyncPlan.eq_def]
      dsimp only
      rw [hok]
  rw [hplan, planOf_managed hne fun entry hentry => by
    obtain ⟨c, hc, he⟩ := mem_entries.1 hentry
    exact hmanaged c hc entry he]
  refine ⟨rfl, fun text => ?_⟩
  rw [mem_sortedSet, List.mem_map]
  constructor
  · intro hmem
    obtain ⟨entry, hentry, rfl⟩ := hmem
    obtain ⟨c, hc, he⟩ := mem_entries.1 hentry
    exact ⟨c, hc, entry, he, rfl⟩
  · intro hmem
    obtain ⟨c, hc, entry, he, rfl⟩ := hmem
    exact ⟨entry, mem_entries.2 ⟨c, hc, he⟩, rfl⟩

/-- Where the names may all be staged, the paths to stage are the names as they are shown. -/
theorem mem_staged {changes : List TreeChange} (h : ¬Refused P defaults changes)
    (hstage : ∀ c ∈ changes, Stageable c.path.bytes) (name : List UInt8) :
    name ∈ (buildSyncPlan P defaults (changes.map TreeChange.line)).stagePaths.map encodeText ↔
      ∃ c ∈ changes, encodeText (String.ofList (shown c.path.bytes)) = name := by
  obtain ⟨hmanaged, _, hpaths⟩ := plan_of_not_refused h
  rw [List.mem_map]
  constructor
  · intro hmem
    obtain ⟨text, htext, rfl⟩ := hmem
    obtain ⟨c, hc, entry, he, rfl⟩ := (hpaths text).1 htext
    obtain ⟨read, hread, hshown⟩ := statusEntry_managed (hstage c hc) (hmanaged c hc)
    rw [he, Option.some.injEq] at hread
    rw [← hread] at hshown
    exact ⟨c, hc, by rw [hshown]⟩
  · intro hmem
    obtain ⟨c, hc, rfl⟩ := hmem
    obtain ⟨entry, he, hshown⟩ := statusEntry_managed (hstage c hc) (hmanaged c hc)
    exact ⟨_, (hpaths _).2 ⟨c, hc, entry, he, rfl⟩, by rw [hshown]⟩

example : (buildSyncPlan samplePlatform none
    (["?? events/2026/08/evt_a.json", " M knowledge/index.md"].map Text.chars)).stagePaths =
    ["events/2026/08/evt_a.json", "knowledge/index.md"] := by
  decide

end ExternalIntelligence
