import ExternalIntelligence.Value

namespace Json
set_option autoImplicit true

def isBlank (c : Char) : Bool :=
  c == ' ' || c == '\t' || c == '\n' || c == '\r'

def skipBlanks (s : List Char) : List Char :=
  s.dropWhile isBlank

def hexValue (c : Char) : Option Nat :=
  if '0' ≤ c ∧ c ≤ '9' then some (c.toNat - 48)
  else if 'a' ≤ c ∧ c ≤ 'f' then some (c.toNat - 87)
  else if 'A' ≤ c ∧ c ≤ 'F' then some (c.toNat - 55)
  else none

/-- The code unit that the next four hexadecimal digits give. -/
def codeUnit : List Char → Option (Nat × List Char)
  | a :: b :: c :: d :: rest => do
    let a ← hexValue a
    let b ← hexValue b
    let c ← hexValue c
    let d ← hexValue d
    some (((a * 16 + b) * 16 + c) * 16 + d, rest)
  | _ => none

/-- The character after a backslash and a u, which may take a pair of surrogates. -/
def unicodeEscape (s : List Char) : Option (Char × List Char) :=
  (codeUnit s).bind fun unit =>
    if unit.1 < 0xD800 || 0xDFFF < unit.1 then some (Char.ofNat unit.1, unit.2)
    else
      match unit.2 with
      | '\\' :: 'u' :: more =>
        (codeUnit more).bind fun low =>
          if unit.1 < 0xDC00 && 0xDC00 ≤ low.1 && low.1 ≤ 0xDFFF then
            some (Char.ofNat (0x10000 + (unit.1 - 0xD800) * 0x400 + (low.1 - 0xDC00)), low.2)
          else none
      | _ => none

/-- The characters that a backslash and a letter stand for. -/
def escapes : List (Char × Char) :=
  [('"', '"'), ('\\', '\\'), ('/', '/'), ('b', '\x08'), ('f', '\x0c'), ('n', '\n'), ('r', '\r'),
    ('t', '\t')]

def escaped : List Char → Option (Char × List Char)
  | [] => none
  | 'u' :: rest => unicodeEscape rest
  | c :: rest => (escapes.lookup c).map fun found => (found, rest)

/-- One character of a string; a control character may only be there escaped. -/
def character (c : Char) (rest : List Char) : Option (Char × List Char) :=
  if c = '\\' then escaped rest else if c.toNat < 32 then none else some (c, rest)

/-- The characters of a string up to its closing quote. -/
def stringBody : Nat → List Char → Option (List Char × List Char)
  | 0, _ | _, [] => none
  | fuel + 1, c :: rest =>
    if c = '"' then some ([], rest)
    else (character c rest).bind fun first =>
      (stringBody fuel first.2).map fun body => (first.1 :: body.1, body.2)

def natural (s : List Char) : Option (List Char × List Char) :=
  match s with
  | [] => none
  | c :: rest =>
    if c = '0' then some (['0'], rest)
    else if c.isDigit then some (s.takeWhile Char.isDigit, s.dropWhile Char.isDigit)
    else none

def fraction (s : List Char) : List Char × List Char :=
  match s with
  | [] => ([], [])
  | c :: rest =>
    let digits := rest.takeWhile Char.isDigit
    if c = '.' ∧ digits ≠ [] then ('.' :: digits, rest.dropWhile Char.isDigit) else ([], s)

def exponent (s : List Char) : List Char × List Char :=
  match s with
  | [] => ([], [])
  | c :: rest =>
    let signed := rest.head? = some '+' ∨ rest.head? = some '-'
    let sign := if signed then rest.take 1 else []
    let body := if signed then rest.drop 1 else rest
    let digits := body.takeWhile Char.isDigit
    if (c = 'e' ∨ c = 'E') ∧ digits ≠ [] then
      (c :: sign ++ digits, body.dropWhile Char.isDigit)
    else ([], s)

/-- A number; `real` is what a text with a fraction or an exponent is read as. -/
def number (real : String → String) (s : List Char) : Option (Value × List Char) :=
  let negative := s.head? = some '-'
  (natural (if negative then s.drop 1 else s)).map fun whole =>
    let part := fraction whole.2
    let scale := exponent part.2
    let magnitude : Int := Nat.ofDigitChars 10 whole.1 0
    if part.1 = [] ∧ scale.1 = [] then
      (.int (if negative then -magnitude else magnitude), scale.2)
    else
      let sign := if negative then ['-'] else []
      (.float (real (String.ofList (sign ++ whole.1 ++ part.1 ++ scale.1))), scale.2)

/-- The words that stand for a value. -/
def words : List (List Char × Value) :=
  [(['n', 'u', 'l', 'l'], .none), (['t', 'r', 'u', 'e'], .bool true),
    (['f', 'a', 'l', 's', 'e'], .bool false), (['N', 'a', 'N'], .float "NaN"),
    (['I', 'n', 'f', 'i', 'n', 'i', 't', 'y'], .float "Infinity"),
    (['-', 'I', 'n', 'f', 'i', 'n', 'i', 't', 'y'], .float "-Infinity")]

def word (s : List Char) : Option (Value × List Char) :=
  (words.find? fun known => known.1.isPrefixOf s).map fun known =>
    (known.2, s.drop known.1.length)

mutual

def value (real : String → String) : Nat → List Char → Option (Value × List Char)
  | 0, _ | _, [] => none
  | fuel + 1, c :: rest =>
    if c = '"' then
      (stringBody fuel rest).map fun body => (.str (String.ofList body.1), body.2)
    else if c = '[' then
      let inner := skipBlanks rest
      if inner.head? = some ']' then some (.list [], inner.drop 1)
      else (items real fuel inner).map fun found => (.list found.1, found.2)
    else if c = '\x7b' then
      let inner := skipBlanks rest
      if inner.head? = some '\x7d' then some (.dict [], inner.drop 1)
      else (fields real fuel inner).map fun found => (.dict (Dict.update [] found.1), found.2)
    else (word (c :: rest)).or (number real (c :: rest))

/-- The items of a list, up to its closing bracket. -/
def items (real : String → String) : Nat → List Char → Option (List Value × List Char)
  | 0, _ => none
  | fuel + 1, s =>
    (value real fuel s).bind fun first =>
      match skipBlanks first.2 with
      | ']' :: rest => some ([first.1], rest)
      | ',' :: rest =>
        (items real fuel (skipBlanks rest)).map fun others => (first.1 :: others.1, others.2)
      | _ => none

/-- The fields of an object, up to its closing brace. -/
def fields (real : String → String) : Nat → List Char →
    Option (List (String × Value) × List Char)
  | 0, _ => none
  | fuel + 1, s =>
    if s.head? ≠ some '"' then none
    else (stringBody fuel (s.drop 1)).bind fun key =>
      match skipBlanks key.2 with
      | ':' :: rest =>
        (value real fuel (skipBlanks rest)).bind fun first =>
          let pair := (String.ofList key.1, first.1)
          match skipBlanks first.2 with
          | '\x7d' :: rest => some ([pair], rest)
          | ',' :: rest =>
            (fields real fuel (skipBlanks rest)).map fun others => (pair :: others.1, others.2)
          | _ => none
      | _ => none

end

/-- The value that a text is the JSON of, if it is the JSON of one. -/
def loads (real : String → String) (s : List Char) : Option Value :=
  let body := skipBlanks s
  (value real body.length body).bind fun found =>
    if skipBlanks found.2 = [] then some found.1 else none

/-- What may stand after a number: nothing that goes on with it. -/
def Ends (rest : List Char) : Prop :=
  ∀ c, rest.head? = some c → c.isDigit = false ∧ c ≠ '.' ∧ c ≠ 'e' ∧ c ≠ 'E'

theorem ends_nil : Ends [] := by
  intro c hc
  cases hc

theorem ends_cons (h : c.isDigit = false ∧ c ≠ '.' ∧ c ≠ 'e' ∧ c ≠ 'E') : Ends (c :: rest) := by
  intro d hd
  cases hd
  exact h

/-- Digits, at least one. -/
def Digits (digits : List Char) : Prop :=
  digits ≠ [] ∧ ∀ c ∈ digits, c.isDigit = true

/-- The digits of a whole number, without a leading zero. -/
def Whole (digits : List Char) : Prop :=
  digits = ['0'] ∨ Digits digits ∧ digits.head? ≠ some '0'

def Part (part : List Char) : Prop :=
  part = [] ∨ ∃ digits, part = '.' :: digits ∧ Digits digits

def Scale (scale : List Char) : Prop :=
  scale = [] ∨ ∃ e sign digits, scale = e :: sign ++ digits ∧ (e = 'e' ∨ e = 'E') ∧
    (sign = [] ∨ sign = ['+'] ∨ sign = ['-']) ∧ Digits digits

def signText (negative : Bool) : List Char :=
  if negative then ['-'] else []

/-- The text of a number with a fraction or an exponent. -/
def RealText (text : String) : Prop :=
  ∃ negative whole part scale, Text.chars text = signText negative ++ whole ++ part ++ scale ∧
    Whole whole ∧ Part part ∧ Scale scale ∧ ¬(part = [] ∧ scale = [])

theorem takeWhile_digits {digits rest : List Char} (h : ∀ c ∈ digits, Char.isDigit c = true)
    (hrest : ∀ c, rest.head? = some c → Char.isDigit c = false) :
    (digits ++ rest).takeWhile Char.isDigit = digits ∧
      (digits ++ rest).dropWhile Char.isDigit = rest := by
  have hstop : rest.takeWhile Char.isDigit = [] ∧ rest.dropWhile Char.isDigit = rest := by
    cases rest with
    | nil => exact ⟨rfl, rfl⟩
    | cons c rest =>
      have hc := hrest c rfl
      rw [List.takeWhile_cons, List.dropWhile_cons, hc]
      exact ⟨rfl, rfl⟩
  rw [List.takeWhile_append_of_pos h, List.dropWhile_append_of_pos h, hstop.1, hstop.2,
    List.append_nil]
  exact ⟨rfl, rfl⟩

theorem Digits.cons (h : Digits digits) : ∃ c more, digits = c :: more ∧ c.isDigit = true := by
  cases digits with
  | nil => exact absurd rfl h.1
  | cons c more => exact ⟨c, more, rfl, h.2 c (List.mem_cons_self ..)⟩

theorem natural_append (h : Whole digits)
    (hrest : ∀ c, rest.head? = some c → Char.isDigit c = false) :
    natural (digits ++ rest) = some (digits, rest) := by
  cases h with
  | inl hzero =>
    rw [hzero]
    rfl
  | inr hdigits =>
    obtain ⟨c, more, he, hc⟩ := hdigits.1.cons
    have hsplit := takeWhile_digits hdigits.1.2 hrest
    have hne : c ≠ '0' := by
      intro hz
      apply hdigits.2
      rw [he, hz]
      rfl
    rw [he] at hsplit ⊢
    unfold natural
    rw [List.cons_append] at hsplit ⊢
    dsimp only
    rw [if_neg hne, if_pos hc, hsplit.1, hsplit.2]

theorem fraction_append (h : Part part) (hdot : rest.head? ≠ some '.')
    (hrest : ∀ c, rest.head? = some c → Char.isDigit c = false) :
    fraction (part ++ rest) = (part, rest) := by
  cases h with
  | inl hnone =>
    rw [hnone, List.nil_append]
    cases rest with
    | nil => rfl
    | cons c rest =>
      unfold fraction
      dsimp only
      rw [if_neg]
      exact fun hc => hdot (congrArg some hc.1)
  | inr hsome =>
    obtain ⟨digits, he, hdigits⟩ := hsome
    have hsplit := takeWhile_digits hdigits.2 hrest
    rw [he, List.cons_append]
    unfold fraction
    dsimp only
    rw [hsplit.1, hsplit.2, if_pos ⟨rfl, hdigits.1⟩]

theorem exponent_append (h : Scale scale) (hends : Ends rest) :
    exponent (scale ++ rest) = (scale, rest) := by
  cases h with
  | inl hnone =>
    rw [hnone, List.nil_append]
    cases rest with
    | nil => rfl
    | cons c rest =>
      unfold exponent
      dsimp only
      rw [if_neg]
      intro hc
      cases hc.1 with
      | inl he => exact (hends c rfl).2.2.1 he
      | inr he => exact (hends c rfl).2.2.2 he
  | inr hsome =>
    obtain ⟨e, sign, digits, he, hletter, hsign, hdigits⟩ := hsome
    have hsplit := takeWhile_digits hdigits.2 fun c hc => (hends c hc).1
    have hunsigned : ¬((digits ++ rest).head? = some '+' ∨ (digits ++ rest).head? = some '-') := by
      obtain ⟨c, more, hcons, hc⟩ := hdigits.cons
      rw [hcons, List.cons_append, List.head?_cons, Option.some.injEq, Option.some.injEq]
      intro hsigned
      cases hsigned with
      | inl hplus =>
        rw [hplus] at hc
        exact absurd hc (by decide)
      | inr hminus =>
        rw [hminus] at hc
        exact absurd hc (by decide)
    rw [he, List.cons_append, List.cons_append, List.append_assoc]
    unfold exponent
    dsimp only
    rcases hsign with hsign | hsign | hsign
    · rw [hsign, List.nil_append, if_neg hunsigned, if_neg hunsigned, hsplit.1, hsplit.2,
        if_pos ⟨hletter, hdigits.1⟩]
      rfl
    · have hsigned : ('+' :: (digits ++ rest)).head? = some '+' ∨
          ('+' :: (digits ++ rest)).head? = some '-' := .inl rfl
      rw [hsign, List.singleton_append]
      simp only [if_pos hsigned, List.drop_succ_cons, List.drop_zero, hsplit.1, hsplit.2]
      rw [if_pos ⟨hletter, hdigits.1⟩]
      rfl
    · have hsigned : ('-' :: (digits ++ rest)).head? = some '+' ∨
          ('-' :: (digits ++ rest)).head? = some '-' := .inr rfl
      rw [hsign, List.singleton_append]
      simp only [if_pos hsigned, List.drop_succ_cons, List.drop_zero, hsplit.1, hsplit.2]
      rw [if_pos ⟨hletter, hdigits.1⟩]
      rfl

theorem Part.head (h : Part part) (hends : ∀ c, rest.head? = some c → Char.isDigit c = false)
    (hc : (part ++ rest).head? = some c) : c.isDigit = false := by
  cases h with
  | inl hnone =>
    rw [hnone, List.nil_append] at hc
    exact hends c hc
  | inr hsome =>
    obtain ⟨digits, he, _⟩ := hsome
    rw [he] at hc
    cases hc
    decide

theorem Scale.head (h : Scale scale) (hends : Ends rest) (hc : (scale ++ rest).head? = some c) :
    c.isDigit = false ∧ c ≠ '.' := by
  cases h with
  | inl hnone =>
    rw [hnone, List.nil_append] at hc
    exact ⟨(hends c hc).1, (hends c hc).2.1⟩
  | inr hsome =>
    obtain ⟨e, sign, digits, he, hletter, _⟩ := hsome
    rw [he] at hc
    cases hc
    cases hletter with
    | inl hlower =>
      rw [hlower]
      decide
    | inr hupper =>
      rw [hupper]
      decide

theorem Whole.head (h : Whole digits) : ∃ c more, digits = c :: more ∧ c.isDigit = true := by
  cases h with
  | inl hzero => exact ⟨'0', [], hzero, by decide⟩
  | inr hdigits => exact hdigits.1.cons

/-- A number is read up to where it ends. -/
theorem number_append (real : String → String) (negative : Bool) {whole part scale rest : List Char}
    (hwhole : Whole whole) (hpart : Part part) (hscale : Scale scale) (hends : Ends rest) :
    number real (signText negative ++ whole ++ part ++ scale ++ rest) =
      some (if part = [] ∧ scale = [] then
          .int (if negative then -(Nat.ofDigitChars 10 whole 0 : Int)
            else Nat.ofDigitChars 10 whole 0)
        else .float (real (String.ofList (signText negative ++ whole ++ part ++ scale))), rest) := by
  have htail : ∀ c, (part ++ (scale ++ rest)).head? = some c → c.isDigit = false := by
    intro c hc
    exact hpart.head (fun d hd => (hscale.head hends hd).1) hc
  have hnatural := natural_append hwhole htail
  have hfraction := fraction_append hpart
    (fun hdot => (hscale.head hends hdot).2 rfl) fun c hc => (hscale.head hends hc).1
  have hexponent := exponent_append hscale hends
  have hsign : (if (signText negative ++ whole ++ part ++ scale ++ rest).head? = some '-' then
      (signText negative ++ whole ++ part ++ scale ++ rest).drop 1
      else signText negative ++ whole ++ part ++ scale ++ rest) =
        whole ++ (part ++ (scale ++ rest)) ∧
      ((signText negative ++ whole ++ part ++ scale ++ rest).head? = some '-' ↔
        negative = true) := by
    cases negative with
    | true =>
      rw [signText, if_pos rfl]
      simp [List.append_assoc]
    | false =>
      obtain ⟨c, more, he, hc⟩ := hwhole.head
      have hne : c ≠ '-' := by
        intro hminus
        rw [hminus] at hc
        exact absurd hc (by decide)
      rw [signText, if_neg Bool.false_ne_true, he]
      simp [List.append_assoc, hne]
  unfold number
  dsimp only
  rw [hsign.1, hnatural]
  simp only [Option.map_some, hfraction, hexponent, hsign.2]
  split
  · rfl
  · rfl

theorem whole_toDigits (n : Nat) : Whole (Nat.toDigits 10 n) := by
  by_cases hn : n = 0
  · exact .inl (by rw [hn]; rfl)
  · refine .inr ⟨⟨Nat.toDigits_ne_nil, ?_⟩, ?_⟩
    · exact fun c hc => Nat.isDigit_of_mem_toDigits (by decide) (by decide) hc
    · induction n using Nat.strong_induction_on with
      | _ n ih =>
        by_cases hsmall : n < 10
        · rw [Nat.toDigits_of_lt_base hsmall]
          have hdigit : ∀ m < 10, m ≠ 0 → [m.digitChar].head? ≠ some '0' := by
            decide
          exact hdigit n hsmall hn
        · have hlast := Nat.toDigits_of_base_le (by decide : 1 < 10) (Nat.not_lt.1 hsmall)
          rw [hlast, List.head?_append_of_ne_nil _ Nat.toDigits_ne_nil]
          exact ih (n / 10) (by omega) (by omega)

theorem chars_int (i : Int) :
    Text.chars (toString i) = signText (decide (i < 0)) ++ Nat.toDigits 10 i.natAbs := by
  rw [Text.chars_eq_toList]
  cases i with
  | ofNat n =>
    show (Nat.repr n).toList = _
    rw [Nat.toList_repr]
    rfl
  | negSucc n =>
    show ("-" ++ Nat.repr (n + 1)).toList = _
    rw [String.toList_append, Nat.toList_repr, decide_eq_true (Int.negSucc_lt_zero n)]
    rfl

theorem number_int (real : String → String) (i : Int) (hends : Ends rest) :
    number real (Text.chars (toString i) ++ rest) = some (.int i, rest) := by
  have hread := number_append real (decide (i < 0)) (whole_toDigits i.natAbs) (.inl rfl) (.inl rfl)
    hends
  rw [List.append_nil, List.append_nil] at hread
  rw [chars_int, hread, if_pos ⟨rfl, rfl⟩, Nat.ofDigitChars_ten_toDigits]
  congr 3
  by_cases hneg : i < 0
  · rw [decide_eq_true hneg, if_pos rfl]
    omega
  · rw [decide_eq_false hneg, if_neg Bool.false_ne_true]
    omega

theorem number_real (real : String → String) (htext : RealText text) (hreal : real text = text)
    (hends : Ends rest) :
    number real (Text.chars text ++ rest) = some (.float text, rest) := by
  obtain ⟨negative, whole, part, scale, he, hwhole, hpart, hscale, hnot⟩ := htext
  have hread := number_append real negative hwhole hpart hscale hends
  rw [if_neg hnot, ← he, Text.chars_eq_toList, String.ofList_toList, hreal] at hread
  rw [Text.chars_eq_toList]
  exact hread

theorem codeUnit_control : ∀ n < 32, ∀ rest,
    codeUnit ('0' :: '0' :: Nat.digitChar (n / 16) :: Nat.digitChar (n % 16) :: rest) =
      some (n, rest) := by
  have hdigits : ∀ n < 32, hexValue (Nat.digitChar (n / 16)) = some (n / 16) ∧
      hexValue (Nat.digitChar (n % 16)) = some (n % 16) := by
    decide
  intro n hn rest
  have hzero : hexValue '0' = some 0 := rfl
  have hsum : ((0 * 16 + 0) * 16 + n / 16) * 16 + n % 16 = n := by
    omega
  simp [codeUnit, hzero, (hdigits n hn).1, (hdigits n hn).2]
  omega

/-- The spelling of a character is read as the character. -/
theorem character_escape (c : Char) : ∃ d spelling, Value.escape c = d :: spelling ∧ d ≠ '"' ∧
    ∀ rest, character d (spelling ++ rest) = some (c, rest) := by
  have hslash : ∀ spelling rest, character '\\' (spelling ++ rest) = escaped (spelling ++ rest) :=
    fun _ _ => if_pos rfl
  unfold Value.escape
  dsimp only
  split
  · rename_i h
    exact ⟨'\\', ['"'], rfl, by decide, fun rest => by rw [hslash, h]; rfl⟩
  split
  · rename_i h
    exact ⟨'\\', ['\\'], rfl, by decide, fun rest => by rw [hslash, h]; rfl⟩
  split
  · rename_i h
    exact ⟨'\\', ['n'], rfl, by decide, fun rest => by rw [hslash, h]; rfl⟩
  split
  · rename_i h
    exact ⟨'\\', ['r'], rfl, by decide, fun rest => by rw [hslash, h]; rfl⟩
  split
  · rename_i h
    exact ⟨'\\', ['t'], rfl, by decide, fun rest => by rw [hslash, h]; rfl⟩
  split
  · rename_i h
    have hc : c = '\x08' := Char.toNat_inj.1 h
    exact ⟨'\\', ['b'], rfl, by decide, fun rest => by rw [hslash, hc]; rfl⟩
  split
  · rename_i h
    have hc : c = '\x0c' := Char.toNat_inj.1 h
    exact ⟨'\\', ['f'], rfl, by decide, fun rest => by rw [hslash, hc]; rfl⟩
  split
  · rename_i hcontrol
    refine ⟨'\\', _, rfl, by decide, ?_⟩
    intro rest
    rw [hslash]
    show unicodeEscape ('0' :: '0' :: Nat.digitChar (c.toNat / 16) ::
      Nat.digitChar (c.toNat % 16) :: rest) = some (c, rest)
    unfold unicodeEscape
    rw [codeUnit_control c.toNat hcontrol rest]
    have hlow : decide (c.toNat < 0xD800) = true := decide_eq_true (by omega)
    simp only [Option.bind_some, hlow, Bool.true_or, if_true, Char.ofNat_toNat]
  · rename_i hquote hbackslash _ _ _ _ _ hcontrol
    refine ⟨c, [], rfl, hquote, ?_⟩
    intro rest
    unfold character
    rw [if_neg hbackslash, if_neg hcontrol]
    rfl

theorem stringBody_escape (s rest : List Char) : ∀ fuel, s.length < fuel →
    stringBody fuel (s.flatMap Value.escape ++ '"' :: rest) = some (s, rest) := by
  induction s with
  | nil =>
    intro fuel hfuel
    obtain ⟨fuel, rfl⟩ : ∃ n, fuel = n + 1 := ⟨fuel - 1, by omega⟩
    rfl
  | cons c s ih =>
    intro fuel hfuel
    obtain ⟨fuel, rfl⟩ : ∃ n, fuel = n + 1 := ⟨fuel - 1, by omega⟩
    obtain ⟨d, spelling, he, hquote, hread⟩ := character_escape c
    have hrest := ih fuel (by rw [List.length_cons] at hfuel; omega)
    rw [List.flatMap_cons, he, List.cons_append, List.cons_append, List.append_assoc, stringBody,
      if_neg hquote, hread, Option.bind_some, hrest]
    rfl

theorem length_flatMap_escape (s : List Char) : s.length ≤ (s.flatMap Value.escape).length := by
  induction s with
  | nil => exact Nat.le_refl 0
  | cons c s ih =>
    obtain ⟨d, spelling, he, _⟩ := character_escape c
    rw [List.flatMap_cons, List.length_append, he, List.length_cons, List.length_cons]
    omega

theorem stringBody_quote (s : String) (rest : List Char) (hfuel : (Value.quote s).length ≤ fuel + 1) :
    stringBody fuel ((Text.chars s).flatMap Value.escape ++ '"' :: rest) =
      some (Text.chars s, rest) := by
  apply stringBody_escape
  have hlength := length_flatMap_escape (Text.chars s)
  rw [Value.quote, List.length_append, List.length_append, List.length_singleton] at hfuel
  omega

mutual

/-- A value that its JSON text is read back as. -/
def Readable (real : String → String) : Value → Prop
  | .none | .bool _ | .int _ | .str _ => True
  | .float text => RealText text ∧ real text = text
  | .list xs => ReadableItems real xs
  | .tuple _ => False
  | .dict fs => (Dict.keys fs).Nodup ∧ ReadableFields real fs

def ReadableItems (real : String → String) : List Value → Prop
  | [] => True
  | x :: xs => Readable real x ∧ ReadableItems real xs

def ReadableFields (real : String → String) : List (String × Value) → Prop
  | [] => True
  | (_, x) :: fs => Readable real x ∧ ReadableFields real fs

end

/-- The first character of a number is no other start of a value. -/
theorem value_number (real : String → String) (negative : Bool) (hwhole : Whole whole)
    (hread : number real (signText negative ++ whole ++ more) = some found) :
    value real (fuel + 1) (signText negative ++ whole ++ more) = some found := by
  obtain ⟨c, digits, he, hc⟩ := hwhole.head
  have hdigit : ∀ d : Char, d.isDigit = false → c ≠ d := by
    intro d hd hcd
    rw [hcd, hd] at hc
    cases hc
  cases negative with
  | true =>
    rw [signText, if_pos rfl, he, List.singleton_append, List.cons_append, List.cons_append]
      at hread ⊢
    have hword : word ('-' :: c :: (digits ++ more)) = none := by
      simp [word, words, List.isPrefixOf, (hdigit 'I' (by decide)).symm]
    rw [value, if_neg (by decide), if_neg (by decide), if_neg (by decide), hword, Option.none_or,
      hread]
  | false =>
    rw [signText, if_neg Bool.false_ne_true, he, List.nil_append, List.cons_append] at hread ⊢
    have hword : word (c :: (digits ++ more)) = none := by
      simp [word, words, List.isPrefixOf, (hdigit 'n' (by decide)).symm,
        (hdigit 't' (by decide)).symm, (hdigit 'f' (by decide)).symm,
        (hdigit 'N' (by decide)).symm, (hdigit 'I' (by decide)).symm,
        (hdigit '-' (by decide)).symm]
    rw [value, if_neg (hdigit '"' (by decide)), if_neg (hdigit '[' (by decide)),
      if_neg (hdigit '\x7b' (by decide)), hword, Option.none_or, hread]

theorem value_int (real : String → String) (fuel : Nat) (i : Int) (hends : Ends rest) :
    value real (fuel + 1) (Text.chars (toString i) ++ rest) = some (.int i, rest) := by
  have hread := number_int real i hends
  rw [chars_int] at hread ⊢
  exact value_number real _ (whole_toDigits i.natAbs) hread

theorem value_real (real : String → String) (fuel : Nat) (htext : RealText text)
    (hreal : real text = text) (hends : Ends rest) :
    value real (fuel + 1) (Text.chars text ++ rest) = some (.float text, rest) := by
  have hread := number_real real htext hreal hends
  obtain ⟨negative, whole, part, scale, he, hwhole, _⟩ := htext
  have hassoc : Text.chars text ++ rest =
      signText negative ++ whole ++ (part ++ (scale ++ rest)) := by
    rw [he, List.append_assoc, List.append_assoc]
  rw [hassoc] at hread ⊢
  exact value_number real negative hwhole hread

theorem skipBlanks_cons (h : isBlank c = false) : skipBlanks (c :: rest) = c :: rest := by
  rw [skipBlanks, List.dropWhile_cons, h]
  rfl

theorem not_blank_of_isDigit (h : c.isDigit = true) : isBlank c = false ∧ c ≠ ']' := by
  have hne : ∀ d : Char, d.isDigit = false → c ≠ d := by
    intro d hd hcd
    rw [hcd, hd] at h
    cases h
  rw [isBlank, beq_eq_false_iff_ne.2 (hne ' ' (by decide)),
    beq_eq_false_iff_ne.2 (hne '\t' (by decide)), beq_eq_false_iff_ne.2 (hne '\n' (by decide)),
    beq_eq_false_iff_ne.2 (hne '\r' (by decide))]
  exact ⟨rfl, hne ']' (by decide)⟩

theorem number_head (negative : Bool) (hwhole : Whole whole) (rest : List Char) :
    ∃ c more, signText negative ++ whole ++ rest = c :: more ∧ isBlank c = false ∧ c ≠ ']' := by
  obtain ⟨c, digits, he, hc⟩ := hwhole.head
  cases negative with
  | true => exact ⟨'-', _, rfl, by decide, by decide⟩
  | false =>
    rw [he]
    exact ⟨c, digits ++ rest, rfl, not_blank_of_isDigit hc⟩

theorem dump_head {v : Value} (h : Readable real v) :
    ∃ c more, v.dump = c :: more ∧ isBlank c = false ∧ c ≠ ']' := by
  cases v with
  | none => exact ⟨'n', _, rfl, by decide, by decide⟩
  | bool b =>
    cases b with
    | true => exact ⟨'t', _, rfl, by decide, by decide⟩
    | false => exact ⟨'f', _, rfl, by decide, by decide⟩
  | int i =>
    have hhead := number_head (decide (i < 0)) (whole_toDigits i.natAbs) []
    rw [List.append_nil, ← chars_int] at hhead
    exact hhead
  | float text =>
    obtain ⟨negative, whole, part, scale, he, hwhole, _⟩ := h.1
    rw [Value.dump, he, List.append_assoc]
    exact number_head negative hwhole _
  | str s => exact ⟨'"', _, rfl, by decide, by decide⟩
  | list xs => exact ⟨'[', _, rfl, by decide, by decide⟩
  | tuple xs => exact ⟨'[', _, rfl, by decide, by decide⟩
  | dict fs => exact ⟨'\x7b', _, rfl, by decide, by decide⟩

theorem ends_comma : Ends (',' :: rest) :=
  ends_cons (by decide)

mutual

theorem value_dump (real : String → String) : ∀ v : Value, Readable real v →
    ∀ fuel rest, v.dump.length ≤ fuel → Ends rest →
      value real fuel (v.dump ++ rest) = some (v, rest)
  | .none, _, fuel + 1, rest, _, _ => by
    simp [Value.dump, value, word, words, List.isPrefixOf]
  | .bool true, _, fuel + 1, rest, _, _ => by
    simp [Value.dump, value, word, words, List.isPrefixOf]
  | .bool false, _, fuel + 1, rest, _, _ => by
    simp [Value.dump, value, word, words, List.isPrefixOf]
  | .int i, _, fuel + 1, _, _, hends => value_int real fuel i hends
  | .float _, h, fuel + 1, _, _, hends => value_real real fuel h.1 h.2 hends
  | .str s, _, fuel + 1, rest, hfuel, _ => by
    have hbody := stringBody_quote s rest hfuel
    rw [Value.dump, Value.quote, List.append_assoc, List.append_assoc, List.singleton_append,
      List.singleton_append, value, if_pos rfl, hbody, Option.map_some, Text.chars_eq_toList,
      String.ofList_toList]
  | .list [], _, fuel + 1, rest, _, _ => rfl
  | .list (x :: xs), h, fuel + 1, rest, hfuel, _ => by
    have hitems := items_dump real (x :: xs) h (List.cons_ne_nil _ _) fuel rest (by
      rw [Value.dump, List.length_append, List.length_append] at hfuel
      simp only [List.length_singleton] at hfuel
      omega)
    obtain ⟨c, more, he, hblank, hclose⟩ := dump_head h.1
    have hhead : ∃ more, Value.dumpItems (x :: xs) ++ ']' :: rest = c :: more := by
      cases xs with
      | nil =>
        rw [Value.dumpItems, he]
        exact ⟨_, rfl⟩
      | cons y ys =>
        rw [Value.dumpItems, he]
        exact ⟨_, rfl⟩
        exact List.cons_ne_nil _ _
    obtain ⟨more, hmore⟩ := hhead
    rw [Value.dump, List.append_assoc, List.append_assoc, List.singleton_append,
      List.singleton_append]
    rw [hmore] at hitems ⊢
    rw [value, if_neg (by decide), if_pos rfl, skipBlanks_cons hblank]
    dsimp only
    rw [List.head?_cons, if_neg (fun hc => hclose (Option.some.inj hc)), hitems]
    rfl
  | .dict [], _, fuel + 1, rest, _, _ => rfl
  | .dict ((k, x) :: fs), h, fuel + 1, rest, hfuel, _ => by
    have hfields := fields_dump real ((k, x) :: fs) h.2 (List.cons_ne_nil _ _) fuel rest (by
      rw [Value.dump, List.length_append, List.length_append] at hfuel
      simp only [List.length_singleton] at hfuel
      omega)
    have hhead : ∃ more, Value.dumpFields ((k, x) :: fs) ++ '\x7d' :: rest = '"' :: more := by
      cases fs with
      | nil => exact ⟨_, rfl⟩
      | cons f fs => exact ⟨_, rfl⟩
    obtain ⟨more, hmore⟩ := hhead
    rw [Value.dump, List.append_assoc, List.append_assoc, List.singleton_append,
      List.singleton_append]
    rw [hmore] at hfields ⊢
    rw [value, if_neg (by decide), if_neg (by decide), if_pos rfl, skipBlanks_cons (by decide)]
    dsimp only
    rw [List.head?_cons, if_neg (by decide), hfields, Option.map_some, Dict.update_of_nodup h.1]
    rfl
  | v, h, 0, _, hfuel, _ => by
    obtain ⟨c, more, he, _⟩ := dump_head h
    rw [he] at hfuel
    cases hfuel

theorem items_dump (real : String → String) : ∀ xs : List Value, ReadableItems real xs → xs ≠ [] →
    ∀ fuel rest, (Value.dumpItems xs).length < fuel →
      items real fuel (Value.dumpItems xs ++ ']' :: rest) = some (xs, rest)
  | [], _, hne, _, _, _ => absurd rfl hne
  | [x], h, _, fuel + 1, rest, hfuel => by
    have hfirst := value_dump real x h.1 fuel (']' :: rest) (by
      rw [Value.dumpItems] at hfuel
      omega) (ends_cons (by decide))
    rw [Value.dumpItems, items, hfirst]
    rfl
  | x :: y :: ys, h, _, fuel + 1, rest, hfuel => by
    rw [Value.dumpItems, List.length_append, List.length_append, List.length_singleton] at hfuel
    · have hfirst := value_dump real x h.1 fuel (',' :: (Value.dumpItems (y :: ys) ++ ']' :: rest))
        (by omega) ends_comma
      have hrest := items_dump real (y :: ys) h.2 (List.cons_ne_nil _ _) fuel rest (by omega)
      obtain ⟨c, more, he, hblank, _⟩ := dump_head h.2.1
      have hhead : ∃ more, Value.dumpItems (y :: ys) ++ ']' :: rest = c :: more := by
        cases ys with
        | nil =>
          rw [Value.dumpItems, he]
          exact ⟨_, rfl⟩
        | cons z zs =>
          rw [Value.dumpItems, he]
          exact ⟨_, rfl⟩
          exact List.cons_ne_nil _ _
      obtain ⟨more, hmore⟩ := hhead
      rw [Value.dumpItems, List.append_assoc, List.append_assoc, List.singleton_append]
      · rw [hmore] at hfirst hrest ⊢
        rw [items, hfirst, Option.bind_some, skipBlanks_cons (by decide)]
        show (items real fuel (skipBlanks (c :: more))).map _ = _
        rw [skipBlanks_cons hblank, hrest]
        rfl
      · exact List.cons_ne_nil _ _
    · exact List.cons_ne_nil _ _

theorem fields_dump (real : String → String) : ∀ fs : List (String × Value),
    ReadableFields real fs → fs ≠ [] → ∀ fuel rest, (Value.dumpFields fs).length < fuel →
      fields real fuel (Value.dumpFields fs ++ '\x7d' :: rest) = some (fs, rest)
  | [], _, hne, _, _, _ => absurd rfl hne
  | [(k, x)], h, _, fuel + 1, rest, hfuel => by
    rw [Value.dumpFields, List.length_append, List.length_append, List.length_singleton] at hfuel
    have hkey := stringBody_quote k (':' :: (x.dump ++ '\x7d' :: rest)) (by omega : _ ≤ fuel + 1)
    have hvalue := value_dump real x h.1 fuel ('\x7d' :: rest) (by omega) (ends_cons (by decide))
    obtain ⟨c, more, he, hblank, _⟩ := dump_head h.1
    rw [Value.dumpFields, Value.quote, fields]
    simp only [List.append_assoc, List.cons_append, List.nil_append]
    rw [List.head?_cons, if_neg (fun hc => hc rfl), List.drop_one, List.tail_cons, hkey,
      Option.bind_some, skipBlanks_cons (by decide)]
    rw [he, List.cons_append] at hvalue ⊢
    show (value real fuel (skipBlanks (c :: (more ++ '\x7d' :: rest)))).bind _ = _
    rw [skipBlanks_cons hblank, hvalue, Text.chars_eq_toList, String.ofList_toList]
    rfl
  | (k, x) :: f :: fs, h, _, fuel + 1, rest, hfuel => by
    rw [Value.dumpFields, List.length_append, List.length_append, List.length_append,
      List.length_append, List.length_singleton] at hfuel
    · have hkey := stringBody_quote k
        (':' :: (x.dump ++ ',' :: (Value.dumpFields (f :: fs) ++ '\x7d' :: rest)))
        (by omega : _ ≤ fuel + 1)
      have hvalue := value_dump real x h.1 fuel
        (',' :: (Value.dumpFields (f :: fs) ++ '\x7d' :: rest)) (by omega) ends_comma
      have hrest := fields_dump real (f :: fs) h.2 (List.cons_ne_nil _ _) fuel rest (by omega)
      have hhead : ∃ more, Value.dumpFields (f :: fs) ++ '\x7d' :: rest = '"' :: more := by
        cases fs with
        | nil => exact ⟨_, rfl⟩
        | cons g gs => exact ⟨_, rfl⟩
      obtain ⟨tail, htail⟩ := hhead
      obtain ⟨c, more, he, hblank, _⟩ := dump_head h.1
      rw [Value.dumpFields, Value.quote, fields]
      · simp only [List.append_assoc, List.cons_append, List.nil_append]
        rw [htail] at hkey hvalue hrest ⊢
        rw [List.head?_cons, if_neg (fun hc => hc rfl), List.drop_one, List.tail_cons, hkey,
          Option.bind_some, skipBlanks_cons (by decide)]
        rw [he, List.cons_append] at hvalue ⊢
        show (value real fuel (skipBlanks (c :: (more ++ ',' :: '"' :: tail)))).bind _ = _
        rw [skipBlanks_cons hblank, hvalue, Option.bind_some, skipBlanks_cons (by decide)]
        show (fields real fuel (skipBlanks ('"' :: tail))).map _ = _
        rw [skipBlanks_cons (by decide), hrest, Text.chars_eq_toList, String.ofList_toList]
        rfl
      · exact List.cons_ne_nil _ _
    · exact List.cons_ne_nil _ _

end

/-- The JSON text of a value is read back as the value. -/
theorem loads_dump {v : Value} (h : Readable real v) : loads real v.dump = some v := by
  obtain ⟨c, more, he, hblank, _⟩ := dump_head h
  have hread := value_dump real v h v.dump.length [] (Nat.le_refl _) ends_nil
  rw [List.append_nil] at hread
  rw [loads, he, skipBlanks_cons hblank, ← he, hread]
  rfl

end Json
