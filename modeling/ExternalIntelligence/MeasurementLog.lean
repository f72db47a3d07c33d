import ExternalIntelligence.OutcomeRecords

namespace Value
set_option autoImplicit true

mutual

/-- The texts of a value, the names of its fields among them. -/
def texts : Value → List String
  | .str s => [s]
  | .list xs | .tuple xs => textsOfItems xs
  | .dict fs => textsOfFields fs
  | _ => []

def textsOfItems : List Value → List String
  | [] => []
  | x :: xs => texts x ++ textsOfItems xs

def textsOfFields : List (String × Value) → List String
  | [] => []
  | (k, x) :: fs => k :: texts x ++ textsOfFields fs

end

theorem mem_textsOfFields {fields : List (String × Value)} :
    text ∈ textsOfFields fields ↔ ∃ field ∈ fields, text = field.1 ∨ text ∈ field.2.texts := by
  induction fields with
  | nil =>
    constructor
    · exact fun h => nomatch h
    · intro h
      obtain ⟨_, hmem, _⟩ := h
      cases hmem
  | cons field fields ih =>
    obtain ⟨name, value⟩ := field
    rw [textsOfFields, List.mem_append, List.mem_cons, ih, List.exists_mem_cons_iff]

end Value

namespace Json
set_option autoImplicit true

/-- The line breaks that a JSON text has as they are. -/
def isSeparator (c : Char) : Bool :=
  c.toNat == 0x85 || c.toNat == 0x2028 || c.toNat == 0x2029

theorem isLineBreak_of_isDigit (h : Char.isDigit c = true) : Text.isLineBreak c = false := by
  have hcode : 48 ≤ c.toNat ∧ c.toNat ≤ 57 := by
    rw [Char.isDigit, Bool.and_eq_true, decide_eq_true_eq, decide_eq_true_eq] at h
    exact h
  unfold Text.isLineBreak
  grind

theorem isLineBreak_whole (h : Whole digits) (hc : c ∈ digits) : Text.isLineBreak c = false := by
  cases h with
  | inl hzero =>
    rw [hzero, List.mem_singleton] at hc
    rw [hc]
    decide
  | inr hdigits => exact isLineBreak_of_isDigit (hdigits.1.2 c hc)

theorem isLineBreak_sign (hc : c ∈ signText negative) : Text.isLineBreak c = false := by
  cases negative with
  | false => cases hc
  | true =>
    rw [List.mem_singleton.1 hc]
    decide

theorem isLineBreak_part (h : Part part) (hc : c ∈ part) : Text.isLineBreak c = false := by
  cases h with
  | inl hnone =>
    rw [hnone] at hc
    cases hc
  | inr hpart =>
    obtain ⟨digits, he, hdigits⟩ := hpart
    rw [he] at hc
    cases List.mem_cons.1 hc with
    | inl hdot =>
      rw [hdot]
      decide
    | inr hrest => exact isLineBreak_of_isDigit (hdigits.2 c hrest)

theorem isLineBreak_scale (h : Scale scale) (hc : c ∈ scale) : Text.isLineBreak c = false := by
  cases h with
  | inl hnone =>
    rw [hnone] at hc
    cases hc
  | inr hscale =>
    obtain ⟨e, sign, digits, he, hletter, hsign, hdigits⟩ := hscale
    have hplain : ((e :: sign).any Text.isLineBreak) = false := by
      rcases hletter with rfl | rfl
      all_goals
        rcases hsign with rfl | rfl | rfl
        all_goals rfl
    rw [he] at hc
    cases List.mem_append.1 hc with
    | inl hstart => exact Bool.eq_false_of_not_eq_true (List.any_eq_false.1 hplain c hstart)
    | inr hrest => exact isLineBreak_of_isDigit (hdigits.2 c hrest)

theorem isLineBreak_real (h : RealText text) (hc : c ∈ Text.chars text) :
    Text.isLineBreak c = false := by
  obtain ⟨negative, whole, part, scale, he, hwhole, hpart, hscale, _⟩ := h
  rw [he] at hc
  cases List.mem_append.1 hc with
  | inr hlast => exact isLineBreak_scale hscale hlast
  | inl hc =>
    cases List.mem_append.1 hc with
    | inr hmiddle => exact isLineBreak_part hpart hmiddle
    | inl hc =>
      cases List.mem_append.1 hc with
      | inl hsign => exact isLineBreak_sign hsign
      | inr hfirst => exact isLineBreak_whole hwhole hfirst

theorem isLineBreak_int (i : Int) (hc : c ∈ Text.chars (toString i)) :
    Text.isLineBreak c = false := by
  rw [chars_int] at hc
  cases List.mem_append.1 hc with
  | inl hsign => exact isLineBreak_sign hsign
  | inr hdigits => exact isLineBreak_whole (whole_toDigits _) hdigits

/-- A spelling has a line break only where a separator is spelled as it is. -/
theorem isLineBreak_escape (hd : d ∈ Value.escape c) (hbreak : Text.isLineBreak d = true) :
    d = c ∧ isSeparator c = true := by
  have hplain : ∀ {spelling : List Char}, d ∈ spelling →
      spelling.any Text.isLineBreak = false → False := by
    intro spelling hmem hnone
    exact List.any_eq_false.1 hnone d hmem hbreak
  unfold Value.escape at hd
  dsimp only at hd
  split at hd
  · exact (hplain hd rfl).elim
  · split at hd
    · exact (hplain hd rfl).elim
    · split at hd
      · exact (hplain hd rfl).elim
      · split at hd
        · exact (hplain hd rfl).elim
        · split at hd
          · exact (hplain hd rfl).elim
          · split at hd
            · exact (hplain hd rfl).elim
            · split at hd
              · exact (hplain hd rfl).elim
              · split at hd
                · rename_i hcontrol
                  have hcode : ∀ n < 32, ['\\', 'u', '0', '0', Nat.digitChar (n / 16),
                      Nat.digitChar (n % 16)].any Text.isLineBreak = false := by
                    decide
                  exact (hplain hd (hcode c.toNat hcontrol)).elim
                · rename_i hcontrol
                  have he := List.mem_singleton.1 hd
                  rw [he] at hbreak
                  refine ⟨he, ?_⟩
                  unfold Text.isLineBreak at hbreak
                  unfold isSeparator
                  grind

theorem isLineBreak_quote (hd : d ∈ Value.quote text) (hbreak : Text.isLineBreak d = true) :
    d ∈ Text.chars text ∧ isSeparator d = true := by
  unfold Value.quote at hd
  cases List.mem_append.1 hd with
  | inr hlast =>
    rw [List.mem_singleton.1 hlast] at hbreak
    exact absurd hbreak (by decide)
  | inl hd =>
    cases List.mem_append.1 hd with
    | inl hfirst =>
      rw [List.mem_singleton.1 hfirst] at hbreak
      exact absurd hbreak (by decide)
    | inr hbody =>
      obtain ⟨c, hc, hspelling⟩ := List.mem_flatMap.1 hbody
      obtain ⟨he, hseparator⟩ := isLineBreak_escape hspelling hbreak
      rw [he]
      exact ⟨hc, hseparator⟩

/-- What a line break of a JSON text is from. -/
def Broken (texts : List String) (d : Char) : Prop :=
  isSeparator d = true ∧ ∃ text ∈ texts, d ∈ Text.chars text

theorem Broken.mono {few more : List String} (h : Broken few d) (hsub : few ⊆ more) :
    Broken more d := by
  obtain ⟨hseparator, text, htext, hd⟩ := h
  exact ⟨hseparator, text, hsub htext, hd⟩

theorem not_word {spelling : List Char} (hd : d ∈ spelling) (hbreak : Text.isLineBreak d = true)
    (hnone : spelling.any Text.isLineBreak = false) : Broken texts d :=
  (List.any_eq_false.1 hnone d hd hbreak).elim

theorem any_eq_false {spelling : List Char}
    (h : ∀ c ∈ spelling, Text.isLineBreak c = false) : spelling.any Text.isLineBreak = false :=
  List.any_eq_false.2 fun c hc => Bool.not_eq_true _ ▸ h c hc

mutual

/-- The line breaks of a JSON text are separators in the texts of its value. -/
theorem broken_dump (real : String → String) : ∀ v : Value, Readable real v → ∀ d ∈ v.dump,
    Text.isLineBreak d = true → Broken v.texts d
  | .none, _, _, hd, hbreak => not_word hd hbreak rfl
  | .bool true, _, _, hd, hbreak => not_word hd hbreak rfl
  | .bool false, _, _, hd, hbreak => not_word hd hbreak rfl
  | .int i, _, _, hd, hbreak => not_word hd hbreak (any_eq_false fun _ hc => isLineBreak_int i hc)
  | .float _, h, _, hd, hbreak => not_word hd hbreak (any_eq_false fun _ hc => isLineBreak_real h.1 hc)
  | .str s, _, d, hd, hbreak => by
    obtain ⟨hmem, hseparator⟩ := isLineBreak_quote hd hbreak
    exact ⟨hseparator, s, List.mem_singleton_self s, hmem⟩
  | .list xs, h, d, hd, hbreak => by
    cases List.mem_append.1 hd with
    | inr hlast => exact not_word hlast hbreak rfl
    | inl hd =>
      cases List.mem_append.1 hd with
      | inl hfirst => exact not_word hfirst hbreak rfl
      | inr hitems => exact broken_items real xs h d hitems hbreak
  | .dict fs, h, d, hd, hbreak => by
    cases List.mem_append.1 hd with
    | inr hlast => exact not_word hlast hbreak rfl
    | inl hd =>
      cases List.mem_append.1 hd with
      | inl hfirst => exact not_word hfirst hbreak rfl
      | inr hfields => exact broken_fields real fs h.2 d hfields hbreak

theorem broken_items (real : String → String) : ∀ xs : List Value, ReadableItems real xs →
    ∀ d ∈ Value.dumpItems xs, Text.isLineBreak d = true → Broken (Value.textsOfItems xs) d
  | [], _, _, hd, _ => nomatch hd
  | [x], h, d, hd, hbreak =>
    (broken_dump real x h.1 d hd hbreak).mono (List.subset_append_left ..)
  | x :: y :: ys, h, d, hd, hbreak => by
    rw [Value.dumpItems] at hd
    · cases List.mem_append.1 hd with
      | inr hrest =>
        exact (broken_items real (y :: ys) h.2 d hrest hbreak).mono
          (List.subset_append_right ..)
      | inl hd =>
        cases List.mem_append.1 hd with
        | inl hfirst =>
          exact (broken_dump real x h.1 d hfirst hbreak).mono (List.subset_append_left ..)
        | inr hcomma => exact not_word hcomma hbreak rfl
    · exact List.cons_ne_nil _ _

theorem broken_fields (real : String → String) : ∀ fs : List (String × Value),
    ReadableFields real fs → ∀ d ∈ Value.dumpFields fs, Text.isLineBreak d = true →
      Broken (Value.textsOfFields fs) d
  | [], _, _, hd, _ => nomatch hd
  | [(k, x)], h, d, hd, hbreak => by
    cases List.mem_append.1 hd with
    | inr hvalue =>
      apply (broken_dump real x h.1 d hvalue hbreak).mono
      intro text htext
      exact List.mem_cons_of_mem _ (List.mem_append_left _ htext)
    | inl hd =>
      cases List.mem_append.1 hd with
      | inr hcolon => exact not_word hcolon hbreak rfl
      | inl hkey =>
        obtain ⟨hmem, hseparator⟩ := isLineBreak_quote hkey hbreak
        exact ⟨hseparator, k, List.mem_cons_self .., hmem⟩
  | (k, x) :: f :: fs, h, d, hd, hbreak => by
    rw [Value.dumpFields] at hd
    · cases List.mem_append.1 hd with
      | inr hrest =>
        apply (broken_fields real (f :: fs) h.2 d hrest hbreak).mono
        exact List.subset_append_right ..
      | inl hd =>
        cases List.mem_append.1 hd with
        | inr hcomma => exact not_word hcomma hbreak rfl
        | inl hd =>
          cases List.mem_append.1 hd with
          | inr hvalue =>
            apply (broken_dump real x h.1 d hvalue hbreak).mono
            intro text htext
            exact List.mem_cons_of_mem _ (List.mem_append_left _ htext)
          | inl hd =>
            cases List.mem_append.1 hd with
            | inr hcolon => exact not_word hcolon hbreak rfl
            | inl hkey =>
              obtain ⟨hmem, hseparator⟩ := isLineBreak_quote hkey hbreak
              exact ⟨hseparator, k, List.mem_cons_self .., hmem⟩
    · exact List.cons_ne_nil _ _

end

end Json

namespace Text
set_option autoImplicit true

theorem splitlinesFrom_line {start line rest : List Char}
    (h : ∀ c ∈ line, isLineBreak c = false) :
    splitlinesFrom start (line ++ '\n' :: rest) =
      (start.reverse ++ line) :: splitlinesFrom [] rest := by
  induction line generalizing start with
  | nil =>
    rw [List.nil_append, List.append_nil]
    cases rest with
    | nil => rfl
    | cons c rest => rfl
  | cons c line ih =>
    rw [List.forall_mem_cons] at h
    obtain ⟨hc, hline⟩ := h
    have hreturn : c ≠ '\r' := by
      intro he
      rw [he] at hc
      exact absurd hc (by decide)
    have hstep : splitlinesFrom start (c :: line ++ '\n' :: rest) =
        splitlinesFrom (c :: start) (line ++ '\n' :: rest) := by
      cases line with
      | nil =>
        show (if c = '\r' ∧ '\n' = '\n' then _ else if isLineBreak c = true then _ else _) = _
        rw [if_neg fun hboth => hreturn hboth.1, hc]
        rfl
      | cons d line =>
        show (if c = '\r' ∧ d = '\n' then _ else if isLineBreak c = true then _ else _) = _
        rw [if_neg fun hboth => hreturn hboth.1, hc]
        rfl
    rw [hstep, ih hline, List.reverse_cons, List.append_assoc]
    rfl

/-- Lines without breaks of their own are the lines of their text. -/
theorem splitlines_lines {lines : List (List Char)}
    (h : ∀ line ∈ lines, ∀ c ∈ line, isLineBreak c = false) :
    splitlines (lines.flatMap (· ++ ['\n'])) = lines := by
  induction lines with
  | nil => rfl
  | cons line lines ih =>
    rw [List.forall_mem_cons] at h
    rw [List.flatMap_cons, List.append_assoc, List.singleton_append, splitlines,
      splitlinesFrom_line h.1, ← splitlines, ih h.2]
    rfl

end Text

namespace ExternalIntelligence
set_option autoImplicit true

theorem logLines_lines {lines : List (List Char)} (h : ∀ line ∈ lines, '\n' ∉ line) :
    logLines (lines.flatMap (· ++ ['\n'])) = lines := by
  have hpieces : (lines.flatMap (· ++ ['\n'])).splitOn '\n' = lines ++ [[]] := by
    induction lines with
    | nil => rfl
    | cons line lines ih =>
      rw [List.forall_mem_cons] at h
      rw [List.flatMap_cons, List.append_assoc, List.singleton_append,
        List.splitOn_append_cons_of_beq line _ (beq_self_eq_true _),
        List.splitOn_eq_singleton h.1, ih h.2]
      rfl
  unfold logLines
  dsimp only
  rw [hpieces, List.getLast?_concat, if_pos rfl, List.dropLast_concat]

/-- The records that no earlier one has the identifier of, in their order. -/
def firstRecorded (identifier : α → String) (records : List α) : List α :=
  records.foldl (fun kept record =>
    if kept.any fun other => identifier other == identifier record then kept
    else kept ++ [record]) []

theorem firstRecorded_concat (identifier : α → String) (records : List α) (record : α) :
    firstRecorded identifier (records ++ [record]) =
      if (firstRecorded identifier records).any fun other =>
        identifier other == identifier record then firstRecorded identifier records
      else firstRecorded identifier records ++ [record] := by
  rw [firstRecorded, List.foldl_append]
  rfl

theorem mem_firstRecorded (h : record ∈ firstRecorded identifier records) : record ∈ records := by
  induction records using List.reverseRecOn with
  | nil => exact h
  | append_singleton records last ih =>
    rw [firstRecorded_concat] at h
    apply List.mem_append.2
    split at h
    · exact .inl (ih h)
    · exact (List.mem_append.1 h).imp_left ih

/-- Every identifier is recorded, and it is recorded once. -/
theorem firstRecorded_once (identifier : α → String) (records : List α) :
    ((firstRecorded identifier records).map identifier).Nodup ∧
      ∀ record ∈ records, ∃ first ∈ firstRecorded identifier records,
        identifier first = identifier record := by
  induction records using List.reverseRecOn with
  | nil => exact ⟨List.nodup_nil, fun _ h => absurd h List.not_mem_nil⟩
  | append_singleton records last ih =>
    obtain ⟨hnodup, hevery⟩ := ih
    rw [firstRecorded_concat]
    split
    · rename_i hfound
      obtain ⟨other, hother, he⟩ := List.any_eq_true.1 hfound
      refine ⟨hnodup, ?_⟩
      intro record hrecord
      cases List.mem_append.1 hrecord with
      | inl hold => exact hevery record hold
      | inr hlast =>
        rw [List.mem_singleton.1 hlast]
        exact ⟨other, hother, eq_of_beq he⟩
    · rename_i hnew
      constructor
      · rw [List.map_append, List.nodup_append]
        refine ⟨hnodup, List.nodup_singleton _, ?_⟩
        intro known hknown fresh hfresh he
        obtain ⟨other, hother, hsame⟩ := List.mem_map.1 hknown
        apply hnew
        apply List.any_eq_true.2
        refine ⟨other, hother, ?_⟩
        rw [hsame, he, List.mem_singleton.1 hfresh]
        exact beq_self_eq_true _
      · intro record hrecord
        cases List.mem_append.1 hrecord with
        | inl hold =>
          obtain ⟨first, hfirst, he⟩ := hevery record hold
          exact ⟨first, List.mem_append_left _ hfirst, he⟩
        | inr hlast => exact ⟨record, List.mem_append_right _ hlast, rfl⟩

/-- No text of a row has one of the line breaks that JSON keeps as they are. -/
def Unbroken (row : Fields) : Prop :=
  ∀ text ∈ (Value.dict row).texts, ∀ c ∈ Text.chars text, Json.isSeparator c = false

instance : Decidable (Unbroken row) :=
  decidable_of_iff (((Value.dict row).texts.all fun text =>
    (Text.chars text).all fun c => !Json.isSeparator c) = true) (by
      simp only [List.all_eq_true, Bool.not_eq_true', Unbroken])

/-- The text of a log with some rows. -/
def logText (rows : List Fields) : List Char :=
  (rows.map fun row => canonicalJson (.dict row)).flatMap (· ++ ['\n'])

theorem logText_concat (rows : List Fields) (row : Fields) :
    logText (rows ++ [row]) = logText rows ++ canonicalJson (.dict row) ++ ['\n'] := by
  have hlast : [row].flatMap (fun row => canonicalJson (.dict row) ++ ['\n']) =
      canonicalJson (.dict row) ++ ['\n'] :=
    List.append_nil _
  unfold logText
  rw [List.flatMap_map, List.flatMap_map, List.flatMap_append, hlast, List.append_assoc]

section Log

variable {M : MeasurementPlatform}

theorem LogRow.noBreak (h : LogRow M row) (hrow : Unbroken row) :
    ∀ c ∈ canonicalJson (.dict row), Text.isLineBreak c = false := by
  intro c hc
  by_contra hbreak
  rw [Bool.not_eq_false] at hbreak
  rw [canonicalJson, Value.canonical_dict] at hc
  obtain ⟨hseparator, text, htext, hmem⟩ :=
    Json.broken_dump M.real _ h.canonical_readable c hc hbreak
  have hin : text ∈ (Value.dict row).texts := by
    obtain ⟨field, hfield, hof⟩ := Value.mem_textsOfFields.1 htext
    obtain ⟨given, hgiven, he⟩ := Value.mem_canonicalObject.1 hfield
    apply Value.mem_textsOfFields.2
    refine ⟨given, hgiven, ?_⟩
    rw [← he] at hof
    dsimp only at hof
    rwa [(h.readable given hgiven).2] at hof
  rw [hrow text hin c hmem] at hseparator
  cases hseparator

/-- Rows that a log keeps on a line each. -/
structure LogRows (M : MeasurementPlatform) (rows : List Fields) : Prop where
  row : ∀ row ∈ rows, LogRow M row
  unbroken : ∀ row ∈ rows, Unbroken row

theorem LogRows.concat {row : Fields} (h : LogRows M rows) (hrow : LogRow M row)
    (hbreak : Unbroken row) :
    LogRows M (rows ++ [row]) := by
  constructor
  · intro other hother
    cases List.mem_append.1 hother with
    | inl hold => exact h.row other hold
    | inr hlast => exact (List.mem_singleton.1 hlast) ▸ hrow
  · intro other hother
    cases List.mem_append.1 hother with
    | inl hold => exact h.unbroken other hold
    | inr hlast => exact (List.mem_singleton.1 hlast) ▸ hbreak

theorem LogRows.noBreak (h : LogRows M rows) :
    ∀ line ∈ rows.map fun row => canonicalJson (.dict row), ∀ c ∈ line,
      Text.isLineBreak c = false := by
  intro line hline
  obtain ⟨row, hrow, he⟩ := List.mem_map.1 hline
  rw [← he]
  exact (h.row row hrow).noBreak (h.unbroken row hrow)

theorem LogRow.holdsRecord (h : LogRow M row)
    (hid : row.lookup "exposure_id" = some (.str exposureId)) (recordId : String) :
    holdsRecord M recordId (canonicalJson (.dict row)) = (exposureId == recordId) := by
  unfold ExternalIntelligence.holdsRecord
  rw [h.loads]
  dsimp only
  rw [getOr, h.lookup, hid]
  rfl

/-- What is appended to a log whose rows all name an exposure. -/
theorem LogRows.appendUnique {exposureOf : Fields → String} (h : LogRows M rows)
    (hids : ∀ row ∈ rows, row.lookup "exposure_id" = some (.str (exposureOf row)))
    (hlog : log.getD [] = logText rows) (recordId : String) (value : Fields) :
    (appendUnique M log recordId value).getD [] = logText
      (if rows.any fun row => exposureOf row == recordId then rows else rows ++ [value]) := by
  have hlines : logLines (logText rows) = rows.map fun row => canonicalJson (.dict row) := by
    apply logLines_lines
    intro line hline hbreak
    exact absurd (h.noBreak line hline '\n' hbreak) (by decide)
  have hany : ∀ known : List Fields, (∀ row ∈ known, row ∈ rows) →
      (known.map fun row => canonicalJson (.dict row)).any
          (ExternalIntelligence.holdsRecord M recordId) =
        known.any fun row => exposureOf row == recordId := by
    intro known hknown
    induction known with
    | nil => rfl
    | cons row known ih =>
      rw [List.forall_mem_cons] at hknown
      rw [List.map_cons, List.any_cons, List.any_cons, ih hknown.2,
        (h.row row hknown.1).holdsRecord (hids row hknown.1)]
  unfold ExternalIntelligence.appendUnique
  dsimp only
  rw [hlog, hlines, hany rows fun _ hrow => hrow]
  split
  · exact hlog
  · rw [logText_concat]
    rfl

theorem strip_canonicalJson (row : Fields) :
    (Text.strip (canonicalJson (.dict row))).isEmpty = false := by
  rw [canonicalJson, Value.canonical_dict, List.isEmpty_eq_false_iff]
  intro hempty
  unfold Text.strip at hempty
  have hblank := List.rdropWhile_eq_nil_iff.1 hempty '\x7b' (List.mem_cons_self ..)
  exact absurd hblank (by decide)

/-- A log is read as its rows if each of them is read from its mapping. -/
theorem LogRows.read (h : LogRows M rows) (hread : ∀ row ∈ rows,
    measurementRow M now kind (Value.canonicalObject row) = .ok row)
    (hlog : log.getD [] = logText rows) :
    readMeasurementRecords M now kind log = .ok rows := by
  have hlines : ∀ known : List Fields, (∀ row ∈ known, row ∈ rows) →
      (known.map fun row => canonicalJson (.dict row)).mapM (measurementLine M now kind) =
        .ok (known.map fun row => [row]) := by
    intro known hknown
    induction known with
    | nil => rfl
    | cons row known ih =>
      rw [List.forall_mem_cons] at hknown
      have hline : measurementLine M now kind (canonicalJson (.dict row)) = .ok [row] := by
        unfold measurementLine
        rw [strip_canonicalJson, if_neg Bool.false_ne_true, (h.row row hknown.1).loads]
        dsimp only
        rw [hread row hknown.1]
      rw [List.map_cons, List.mapM_cons, hline, ih hknown.2]
      rfl
  have hflat : ∀ known : List Fields, (known.map fun row => [row]).flatten = known := by
    intro known
    induction known with
    | nil => rfl
    | cons row known ih =>
      rw [List.map_cons, List.flatten_cons, ih]
      rfl
  cases log with
  | none =>
    cases rows with
    | nil => rfl
    | cons row rows =>
      exfalso
      have hnil := congrArg List.length hlog
      rw [logText, List.map_cons, List.flatMap_cons, List.length_append, List.length_append] at hnil
      rw [Option.getD_none, List.length_nil, List.length_singleton] at hnil
      omega
  | some text =>
    have htext : text = logText rows := hlog
    unfold readMeasurementRecords
    dsimp only
    rw [htext, logText, Text.splitlines_lines h.noBreak, hlines rows fun _ hrow => hrow]
    exact congrArg Except.ok (hflat rows)

end Log

/-- The logs of a measurement directory; there is none before its first record. -/
structure MeasurementLogs where
  exposures : Option (List Char) := none
  outcomes : Option (List Char) := none
deriving DecidableEq, Repr

inductive MeasurementCall where
  | exposure (record : ExposureRecord)
  | outcome (record : OutcomeRecord)
deriving DecidableEq, Repr

namespace MeasurementCall

def exposure? : MeasurementCall → Option ExposureRecord
  | .exposure record => some record
  | .outcome _ => none

def outcome? : MeasurementCall → Option OutcomeRecord
  | .exposure _ => none
  | .outcome record => some record

/-- A call takes a record that its constructor made. -/
def Made (M : MeasurementPlatform) : MeasurementCall → Prop
  | .exposure record => ∃ now a, M.ReadsClock now ∧ ExposureRecord.create M now a = .ok record
  | .outcome record => ∃ now a, M.ReadsClock now ∧ OutcomeRecord.create M now a = .ok record

end MeasurementCall

namespace MeasurementLogs

def step (M : MeasurementPlatform) (logs : MeasurementLogs) : MeasurementCall → MeasurementLogs
  | .exposure record => { logs with exposures := recordExposure M logs.exposures record }
  | .outcome record => { logs with outcomes := recordOutcome M logs.outcomes record }

def run (M : MeasurementPlatform) (calls : List MeasurementCall) : MeasurementLogs :=
  calls.foldl (step M) {}

theorem run_concat (M : MeasurementPlatform) (calls : List MeasurementCall)
    (call : MeasurementCall) : run M (calls ++ [call]) = step M (run M calls) call := by
  rw [run, List.foldl_append]
  rfl

end MeasurementLogs

/-- An outcome that its row gives back: it has the identifier of its content and no separator in
a text, it was not recorded before, and no exposure of an earlier outcome has its identifier. -/
structure OutcomeKept (M : MeasurementPlatform) (earlier : List OutcomeRecord)
    (outcome : OutcomeRecord) : Prop where
  unbroken : Unbroken outcome.toDict
  content : outcome.outcomeId = outcome.contentId M.toPlatform
  new : ∀ other ∈ earlier, other.outcomeId ≠ outcome.outcomeId
  exposure : ∀ other ∈ earlier, other.exposureId ≠ outcome.outcomeId

section Runs

variable {M : MeasurementPlatform}

/-- The exposure that a row names. -/
def rowExposure (row : Fields) : String :=
  (getOr row "exposure_id" .none).strOr ""

theorem exposures_logged (calls : List MeasurementCall)
    (hunbroken : ∀ r ∈ calls.filterMap MeasurementCall.exposure?, Unbroken r.toDict) :
    (MeasurementLogs.run M calls).exposures.getD [] = logText
      ((firstRecorded ExposureRecord.exposureId
        (calls.filterMap MeasurementCall.exposure?)).map ExposureRecord.toDict) := by
  induction calls using List.reverseRecOn with
  | nil => rfl
  | append_singleton calls call ih =>
    rw [List.filterMap_append] at hunbroken ⊢
    have hearlier := ih fun r hr => hunbroken r (List.mem_append_left _ hr)
    rw [MeasurementLogs.run_concat]
    cases call with
    | outcome outcome =>
      have hnone : [MeasurementCall.outcome outcome].filterMap MeasurementCall.exposure? = [] := rfl
      rw [hnone, List.append_nil]
      exact hearlier
    | exposure record =>
      have hone : [MeasurementCall.exposure record].filterMap MeasurementCall.exposure? =
        [record] := rfl
      rw [hone, firstRecorded_concat]
      have hrows : LogRows M ((firstRecorded ExposureRecord.exposureId
          (calls.filterMap MeasurementCall.exposure?)).map ExposureRecord.toDict) := by
        constructor
        · intro row hrow
          obtain ⟨r, _, he⟩ := List.mem_map.1 hrow
          rw [← he]
          exact ExposureRecord.logRow_toDict M r
        · intro row hrow
          obtain ⟨r, hr, he⟩ := List.mem_map.1 hrow
          rw [← he]
          exact hunbroken r (List.mem_append_left _ (mem_firstRecorded hr))
      have hids : ∀ row ∈ (firstRecorded ExposureRecord.exposureId
          (calls.filterMap MeasurementCall.exposure?)).map ExposureRecord.toDict,
          row.lookup "exposure_id" = some (.str (rowExposure row)) := by
        intro row hrow
        obtain ⟨r, _, he⟩ := List.mem_map.1 hrow
        rw [← he]
        rfl
      refine (hrows.appendUnique hids hearlier record.exposureId record.toDict).trans ?_
      rw [List.any_map]
      show logText (if (firstRecorded ExposureRecord.exposureId
        (calls.filterMap MeasurementCall.exposure?)).any (fun other =>
          other.exposureId == record.exposureId) then _ else _) = _
      split
      · rfl
      · rw [List.map_append]
        rfl

/-- The outcomes of a run that are all kept. -/
def OutcomesKept (M : MeasurementPlatform) (outcomes : List OutcomeRecord) : Prop :=
  ∀ earlier outcome later, outcomes = earlier ++ outcome :: later → OutcomeKept M earlier outcome

theorem OutcomesKept.left (h : OutcomesKept M (outcomes ++ [last])) : OutcomesKept M outcomes := by
  intro earlier outcome later he
  apply h earlier outcome (later ++ [last])
  rw [he, List.append_assoc]
  rfl

theorem OutcomesKept.firstRecorded (h : OutcomesKept M outcomes) :
    firstRecorded OutcomeRecord.outcomeId outcomes = outcomes := by
  induction outcomes using List.reverseRecOn with
  | nil => rfl
  | append_singleton outcomes last ih =>
    rw [firstRecorded_concat, ih h.left, if_neg]
    intro hfound
    obtain ⟨other, hother, he⟩ := List.any_eq_true.1 hfound
    exact (h outcomes last [] rfl).new other hother (eq_of_beq he)

theorem OutcomesKept.singleton (h : OutcomeKept M [] outcome) : OutcomesKept M [outcome] := by
  intro earlier other later he
  cases earlier with
  | nil =>
    cases he
    exact h
  | cons first earlier =>
    have hlength := congrArg List.length he
    rw [List.length_append, List.length_cons, List.length_cons, List.length_cons,
      List.length_nil] at hlength
    omega

theorem OutcomesKept.of_mem (h : OutcomesKept M outcomes) (hmem : outcome ∈ outcomes) :
    ∃ earlier, OutcomeKept M earlier outcome := by
  obtain ⟨earlier, later, he⟩ := List.append_of_mem hmem
  exact ⟨earlier, h earlier outcome later he⟩

/-- The rows of outcomes that were made and are kept. -/
theorem OutcomesKept.logRows {outcomes : List OutcomeRecord} (h : OutcomesKept M outcomes)
    (hmade : ∀ r ∈ outcomes, r.Normal M) : LogRows M (outcomes.map OutcomeRecord.toDict) := by
  constructor
  · intro row hrow
    obtain ⟨r, hr, he⟩ := List.mem_map.1 hrow
    rw [← he]
    exact (hmade r hr).logRow_toDict
  · intro row hrow
    obtain ⟨r, hr, he⟩ := List.mem_map.1 hrow
    obtain ⟨_, hkept⟩ := h.of_mem hr
    rw [← he]
    exact hkept.unbroken

theorem outcomes_logged (calls : List MeasurementCall)
    (hmade : ∀ r ∈ calls.filterMap MeasurementCall.outcome?, r.Normal M)
    (hkept : OutcomesKept M (calls.filterMap MeasurementCall.outcome?)) :
    (MeasurementLogs.run M calls).outcomes.getD [] = logText
      ((calls.filterMap MeasurementCall.outcome?).map OutcomeRecord.toDict) := by
  induction calls using List.reverseRecOn with
  | nil => rfl
  | append_singleton calls call ih =>
    rw [List.filterMap_append] at hmade hkept ⊢
    rw [MeasurementLogs.run_concat]
    cases call with
    | exposure record =>
      have hnone : [MeasurementCall.exposure record].filterMap MeasurementCall.outcome? = [] := rfl
      rw [hnone, List.append_nil] at hmade hkept ⊢
      exact ih hmade hkept
    | outcome outcome =>
      have hone : [MeasurementCall.outcome outcome].filterMap MeasurementCall.outcome? =
        [outcome] := rfl
      rw [hone] at hmade hkept ⊢
      have hnormal := fun r hr => hmade r (List.mem_append_left _ hr)
      have hearlier := ih hnormal hkept.left
      have hids : ∀ row ∈ (calls.filterMap MeasurementCall.outcome?).map OutcomeRecord.toDict,
          row.lookup "exposure_id" = some (.str (rowExposure row)) := by
        intro row hrow
        obtain ⟨r, _, he⟩ := List.mem_map.1 hrow
        rw [← he]
        rfl
      refine ((hkept.left.logRows hnormal).appendUnique hids hearlier outcome.outcomeId
        outcome.toDict).trans ?_
      rw [List.any_map, if_neg, List.map_append]
      · rfl
      · intro hfound
        obtain ⟨other, hother, he⟩ := List.any_eq_true.1 hfound
        exact (hkept _ outcome [] rfl).exposure other hother (eq_of_beq he)

/-- Each log gives back one row for each identifier that was recorded, in the order of the first
records, and each row is the record's: the exposures of every run whose exposures have no
separator in a text, the outcomes of every run whose outcomes are all kept. -/
theorem measurements_logged (M : MeasurementPlatform) (hM : M.Lawful)
    (calls : List MeasurementCall) (hmade : ∀ call ∈ calls, call.Made M) (later : Int) :
    ((∀ r ∈ calls.filterMap MeasurementCall.exposure?, Unbroken r.toDict) →
      readMeasurementRecords M later .exposure (MeasurementLogs.run M calls).exposures =
        .ok ((firstRecorded ExposureRecord.exposureId
          (calls.filterMap MeasurementCall.exposure?)).map ExposureRecord.toDict)) ∧
    (OutcomesKept M (calls.filterMap MeasurementCall.outcome?) →
      readMeasurementRecords M later .outcome (MeasurementLogs.run M calls).outcomes =
        .ok ((firstRecorded OutcomeRecord.outcomeId
          (calls.filterMap MeasurementCall.outcome?)).map OutcomeRecord.toDict)) := by
  constructor
  · intro hunbroken
    have hrecorded : ∀ r ∈ firstRecorded ExposureRecord.exposureId
        (calls.filterMap MeasurementCall.exposure?),
        ∃ now a, M.ReadsClock now ∧ ExposureRecord.create M now a = .ok r := by
      intro r hr
      obtain ⟨call, hcall, he⟩ := List.mem_filterMap.1 (mem_firstRecorded hr)
      have hcalled := hmade call hcall
      cases call with
      | exposure record =>
        cases he
        exact hcalled
      | outcome record => cases he
    apply LogRows.read _ _ (exposures_logged calls hunbroken)
    · constructor
      · intro row hrow
        obtain ⟨r, _, he⟩ := List.mem_map.1 hrow
        rw [← he]
        exact ExposureRecord.logRow_toDict M r
      · intro row hrow
        obtain ⟨r, hr, he⟩ := List.mem_map.1 hrow
        rw [← he]
        exact hunbroken r (mem_firstRecorded hr)
    · intro row hrow
      obtain ⟨r, hr, he⟩ := List.mem_map.1 hrow
      obtain ⟨now, a, hclock, hcreate⟩ := hrecorded r hr
      rw [← he, measurementRow, ExposureRecord.fromMapping_create hM hclock hcreate later]
      rfl
  · intro hkept
    have hrecorded : ∀ r ∈ calls.filterMap MeasurementCall.outcome?,
        ∃ now a, M.ReadsClock now ∧ OutcomeRecord.create M now a = .ok r := by
      intro r hr
      obtain ⟨call, hcall, he⟩ := List.mem_filterMap.1 hr
      have hcalled := hmade call hcall
      cases call with
      | exposure record => cases he
      | outcome record =>
        cases he
        exact hcalled
    have hnormal : ∀ r ∈ calls.filterMap MeasurementCall.outcome?, r.Normal M := by
      intro r hr
      obtain ⟨now, a, hclock, hcreate⟩ := hrecorded r hr
      exact OutcomeRecord.create_normal hM hclock hcreate
    rw [hkept.firstRecorded]
    apply (hkept.logRows hnormal).read _ (outcomes_logged calls hnormal hkept)
    intro row hrow
    obtain ⟨r, hr, he⟩ := List.mem_map.1 hrow
    obtain ⟨now, a, hclock, hcreate⟩ := hrecorded r hr
    obtain ⟨_, hgiven⟩ := hkept.of_mem hr
    rw [← he, measurementRow, OutcomeRecord.fromMapping_create hM hclock hcreate later,
      ← hgiven.content]
    rfl

end Runs

def sampleStamp : String :=
  "2026-01-01T00:00:00Z"

/-- A small platform with one time and three numbers. -/
def sampleMeasurements : MeasurementPlatform where
  toPlatform :=
    { samplePlatform with
      fromisoformat text := if text = sampleStamp then some ⟨2026, 1, true, 0⟩ else none
      isoformat _ := "2026-01-01T00:00:00+00:00" }
  float
    | .int 0 => .ok "0.0"
    | .int 2 => .ok "2.0"
    | .float "0.0" => .ok "0.0"
    | .float "2.0" => .ok "2.0"
    | .float "0.5" => .ok "0.5"
    | _ => .error (valueError "could not convert to float")
  isInteger number := number != "0.5"
  isNegative _ := false
  trunc number := if number = "2.0" then 2 else 0
  real text := text

theorem sampleMeasurements_number (h : sampleMeasurements.float value = .ok number) :
    number ∈ ["0.0", "2.0", "0.5"] := by
  simp only [sampleMeasurements] at h
  split at h
  all_goals
    cases h
    try decide

theorem realText_tenths (whole tenth : Char) (hwhole : whole.isDigit = true)
    (htenth : tenth.isDigit = true) : Json.RealText (String.ofList [whole, '.', tenth]) := by
  refine ⟨false, [whole], ['.', tenth], [], ?_, ?_, ?_, .inl rfl, fun h => nomatch h.1⟩
  · rw [Text.chars_eq_toList, String.toList_ofList]
    rfl
  · by_cases hzero : whole = '0'
    · exact .inl (by rw [hzero])
    · refine .inr ⟨⟨List.cons_ne_nil _ _, ?_⟩, fun h => hzero (Option.some.inj h)⟩
      intro c hc
      rw [List.mem_singleton.1 hc]
      exact hwhole
  · refine .inr ⟨[tenth], rfl, List.cons_ne_nil _ _, ?_⟩
    intro c hc
    rw [List.mem_singleton.1 hc]
    exact htenth

theorem sampleMeasurements_lawful : sampleMeasurements.Lawful where
  hexDigests := samplePlatform_hexDigests
  plainTexts :=
    { nfkc := samplePlatform_plainTexts.nfkc
      casefold := samplePlatform_plainTexts.casefold
      isControl := samplePlatform_plainTexts.isControl
      secretTeam := samplePlatform_plainTexts.secretTeam
      secretHash := samplePlatform_plainTexts.secretHash }
  stamps text moment hmoment haware := by
    have hzulu : zulu sampleMeasurements.toPlatform moment.instant = sampleStamp := rfl
    simp only [sampleMeasurements] at hmoment
    split at hmoment
    · cases hmoment
      rw [hzulu]
      exact ⟨by decide, ⟨2026, 1, true, 0⟩, by decide, rfl, rfl⟩
    · cases hmoment
  floats value number h := by
    have hnumber := sampleMeasurements_number h
    simp only [List.mem_cons, List.not_mem_nil, or_false] at hnumber
    rcases hnumber with rfl | rfl | rfl
    all_goals rfl
  wholes value number h _ _ := by
    have hnumber := sampleMeasurements_number h
    simp only [List.mem_cons, List.not_mem_nil, or_false] at hnumber
    rcases hnumber with rfl | rfl | rfl
    · exact ⟨"0.0", rfl, by decide, rfl, by decide, rfl⟩
    · exact ⟨"2.0", rfl, by decide, rfl, by decide, rfl⟩
    · exact ⟨"0.0", rfl, by decide, rfl, by decide, rfl⟩
  texts value number h _ _ := by
    have hnumber := sampleMeasurements_number h
    simp only [List.mem_cons, List.not_mem_nil, or_false] at hnumber
    rcases hnumber with rfl | rfl | rfl
    · exact ⟨realText_tenths '0' '0' rfl rfl, rfl⟩
    · exact ⟨realText_tenths '2' '0' rfl rfl, rfl⟩
    · exact ⟨realText_tenths '0' '5' rfl rfl, rfl⟩

theorem sampleMeasurements_readsClock : sampleMeasurements.ReadsClock 0 :=
  ⟨by decide, ⟨2026, 1, true, 0⟩, by decide, rfl, rfl⟩

def sampleExposure : ExposureArguments :=
  { experimentId := "trial"
    sessionIdHash := "session"
    candidateIds := .tuple [.str "k2", .str "k1"]
    selectedIds := .tuple [.str "k1"]
    candidateScopes := .tuple [.str "team", .str "personal"]
    arm := "treatment"
    injectedChars := .int 2 }

def sampleOutcome : OutcomeArguments :=
  { experimentId := "trial"
    sessionIdHash := "session"
    metrics := [("failure", .int 0), ("rework", .float "0.5")]
    metricSources := .dict [("rework", .str "observer")] }

/-- One exposure recorded twice and one outcome are given back once each. -/
theorem measurements_logged_sample : ∃ exposure outcome,
    ExposureRecord.create sampleMeasurements 0 sampleExposure = .ok exposure ∧
    OutcomeRecord.create sampleMeasurements 0 sampleOutcome = .ok outcome ∧
    readMeasurementRecords sampleMeasurements 0 .exposure (MeasurementLogs.run sampleMeasurements
      [.exposure exposure, .outcome outcome, .exposure exposure]).exposures =
        .ok [exposure.toDict] ∧
    readMeasurementRecords sampleMeasurements 0 .outcome (MeasurementLogs.run sampleMeasurements
      [.exposure exposure, .outcome outcome, .exposure exposure]).outcomes =
        .ok [outcome.toDict] := by
  have hexposure : ∃ exposure, ExposureRecord.create sampleMeasurements 0 sampleExposure =
      .ok exposure ∧ Unbroken exposure.toDict := by
    apply Except.exists_ok_of_decide
    decide +kernel
  have houtcome : ∃ outcome, OutcomeRecord.create sampleMeasurements 0 sampleOutcome =
      .ok outcome ∧ Unbroken outcome.toDict ∧
        outcome.outcomeId = outcome.contentId sampleMeasurements.toPlatform := by
    apply Except.exists_ok_of_decide
    decide +kernel
  obtain ⟨exposure, hcreated, hunbroken⟩ := hexposure
  obtain ⟨outcome, hmade, hkept, hcontent⟩ := houtcome
  have hlogged := measurements_logged sampleMeasurements sampleMeasurements_lawful
    [.exposure exposure, .outcome outcome, .exposure exposure] (by
      intro call hcall
      have hexposed : (MeasurementCall.exposure exposure).Made sampleMeasurements :=
        ⟨0, sampleExposure, sampleMeasurements_readsClock, hcreated⟩
      have hfollowed : (MeasurementCall.outcome outcome).Made sampleMeasurements :=
        ⟨0, sampleOutcome, sampleMeasurements_readsClock, hmade⟩
      simp only [List.mem_cons, List.not_mem_nil, or_false] at hcall
      rcases hcall with rfl | rfl | rfl
      · exact hexposed
      · exact hfollowed
      · exact hexposed) 0
  refine ⟨exposure, outcome, hcreated, hmade, ?_, ?_⟩
  · have hread := hlogged.1 (by
      intro r hr
      have hsame : r ∈ [exposure, exposure] := hr
      rw [List.mem_pair] at hsame
      rw [or_self_iff.1 hsame]
      exact hunbroken)
    have hfirst : firstRecorded ExposureRecord.exposureId [exposure, exposure] = [exposure] := by
      simp [firstRecorded]
    have hcalls : [MeasurementCall.exposure exposure, .outcome outcome,
        .exposure exposure].filterMap MeasurementCall.exposure? = [exposure, exposure] := rfl
    rw [hcalls, hfirst] at hread
    exact hread
  · have hcalls : [MeasurementCall.exposure exposure, .outcome outcome,
        .exposure exposure].filterMap MeasurementCall.outcome? = [outcome] := rfl
    have hread := hlogged.2 (by
      rw [hcalls]
      apply OutcomesKept.singleton
      exact ⟨hkept, hcontent, fun _ h => absurd h List.not_mem_nil,
        fun _ h => absurd h List.not_mem_nil⟩)
    rw [hcalls] at hread
    exact hread

/-- An outcome that is recorded twice is read twice. -/
theorem outcome_not_once : ∃ outcome,
    OutcomeRecord.create sampleMeasurements 0 sampleOutcome = .ok outcome ∧
    (MeasurementCall.outcome outcome).Made sampleMeasurements ∧
    readMeasurementRecords sampleMeasurements 0 .outcome (MeasurementLogs.run sampleMeasurements
      [.outcome outcome, .outcome outcome]).outcomes =
        .ok [outcome.toDict, outcome.toDict] ∧
    firstRecorded OutcomeRecord.outcomeId [outcome, outcome] = [outcome] := by
  have hfound : ∃ outcome, OutcomeRecord.create sampleMeasurements 0 sampleOutcome =
      .ok outcome ∧ readMeasurementRecords sampleMeasurements 0 .outcome
        (MeasurementLogs.run sampleMeasurements [.outcome outcome, .outcome outcome]).outcomes =
          .ok [outcome.toDict, outcome.toDict] ∧
        firstRecorded OutcomeRecord.outcomeId [outcome, outcome] = [outcome] := by
    apply Except.exists_ok_of_decide
    decide +kernel
  obtain ⟨outcome, hmade, hread, hfirst⟩ := hfound
  exact ⟨outcome, hmade, ⟨0, sampleOutcome, sampleMeasurements_readsClock, hmade⟩, hread, hfirst⟩

end ExternalIntelligence
