import ExternalIntelligence.PlainTexts
import ExternalIntelligence.RecallIsolation

/-- Numbers compared one after the other, a missing one read as zero. -/
def compareNumbers : List Nat → List Nat → Ordering
  | [], bs => if bs.all (· == 0) then .eq else .lt
  | a :: as, [] => (compare a 0).then (compareNumbers as [])
  | a :: as, b :: bs => (compare a b).then (compareNumbers as bs)

/-- The second list is the first with zeros, at least one, after it. -/
def missingZeros : List Nat → List Nat → Bool
  | [], bs => !bs.isEmpty && bs.all (· == 0)
  | _ :: _, [] => false
  | a :: as, b :: bs => a == b && missingZeros as bs

/-- Tuples are compared as numbers are, but a version that lacks zeros comes before them. -/
theorem lt_padded (actual expected : List Nat) :
    actual < expected ++ List.replicate (actual.length - expected.length) 0 ↔
      compareNumbers actual expected = .lt ∨ missingZeros actual expected = true := by
  induction actual generalizing expected with
  | nil =>
    rw [List.length_nil, Nat.zero_sub, List.replicate_zero, List.append_nil, compareNumbers,
      missingZeros]
    cases expected with
    | nil => decide
    | cons b bs =>
      cases hzero : (b :: bs).all (· == 0) with
      | true => simp
      | false => simp
  | cons a as ih =>
    cases expected with
    | nil =>
      have hrest := ih []
      rw [List.length_nil, Nat.sub_zero, List.nil_append] at hrest
      rw [List.length_nil, Nat.sub_zero, List.nil_append, List.length_cons, List.replicate_succ,
        List.cons_lt_cons_iff, hrest, compareNumbers, Ordering.then_eq_lt, Nat.compare_eq_lt,
        Nat.compare_eq_eq, missingZeros]
      cases as with
      | nil => simp [missingZeros, compareNumbers]
      | cons c cs => simp [missingZeros]
    | cons b bs =>
      rw [List.length_cons, List.length_cons, Nat.add_sub_add_right, List.cons_append,
        List.cons_lt_cons_iff, ih, compareNumbers, Ordering.then_eq_lt, Nat.compare_eq_lt,
        Nat.compare_eq_eq, missingZeros, Bool.and_eq_true, beq_iff_eq]
      tauto

theorem padded_lt (actual expected : List Nat) :
    expected ++ List.replicate (actual.length - expected.length) 0 < actual ↔
      compareNumbers actual expected = .gt := by
  induction actual generalizing expected with
  | nil =>
    rw [compareNumbers]
    split
    · simp
    · simp
  | cons a as ih =>
    cases expected with
    | nil =>
      have hrest := ih []
      rw [List.length_nil, Nat.sub_zero, List.nil_append] at hrest
      rw [List.length_nil, Nat.sub_zero, List.nil_append, List.length_cons, List.replicate_succ,
        List.cons_lt_cons_iff, hrest, compareNumbers, Ordering.then_eq_gt, Nat.compare_eq_gt,
        Nat.compare_eq_eq, eq_comm]
    | cons b bs =>
      rw [List.length_cons, List.length_cons, Nat.add_sub_add_right, List.cons_append,
        List.cons_lt_cons_iff, ih, compareNumbers, Ordering.then_eq_gt, Nat.compare_eq_gt,
        Nat.compare_eq_eq, eq_comm]

theorem eq_padded (actual expected : List Nat) :
    actual = expected ++ List.replicate (actual.length - expected.length) 0 ↔
      compareNumbers actual expected = .eq ∧ missingZeros actual expected = false := by
  induction actual generalizing expected with
  | nil =>
    rw [List.length_nil, Nat.zero_sub, List.replicate_zero, List.append_nil, compareNumbers,
      missingZeros]
    cases expected with
    | nil => decide
    | cons b bs =>
      cases hzero : (b :: bs).all (· == 0) with
      | true => simp
      | false => simp
  | cons a as ih =>
    cases expected with
    | nil =>
      have hrest := ih []
      rw [List.length_nil, Nat.sub_zero, List.nil_append] at hrest
      rw [List.length_nil, Nat.sub_zero, List.nil_append, List.length_cons, List.replicate_succ,
        List.cons.injEq, hrest, compareNumbers, Ordering.then_eq_eq, Nat.compare_eq_eq,
        missingZeros]
      cases as with
      | nil => simp [missingZeros, compareNumbers]
      | cons c cs => simp [missingZeros]
    | cons b bs =>
      rw [List.length_cons, List.length_cons, Nat.add_sub_add_right, List.cons_append,
        List.cons.injEq, ih, compareNumbers, Ordering.then_eq_eq, Nat.compare_eq_eq, missingZeros,
        Bool.and_eq_false_iff, beq_eq_false_iff_ne]
      tauto

theorem compareNumbers_of_missing {actual expected : List Nat}
    (h : missingZeros actual expected = true) : compareNumbers actual expected = .eq := by
  induction actual generalizing expected with
  | nil =>
    rw [missingZeros, Bool.and_eq_true] at h
    rw [compareNumbers, if_pos h.2]
  | cons a as ih =>
    cases expected with
    | nil => cases h
    | cons b bs =>
      rw [missingZeros, Bool.and_eq_true, beq_iff_eq] at h
      rw [compareNumbers, ih h.2, h.1, Nat.compare_eq_eq.2 rfl]
      rfl

/-- Only the numbers that are compared matter to whether zeros are missing. -/
theorem missingZeros_take (actual expected : List Nat) :
    missingZeros (actual.take expected.length) expected = missingZeros actual expected := by
  induction actual generalizing expected with
  | nil => rw [List.take_nil]
  | cons a as ih =>
    cases expected with
    | nil => rfl
    | cons b bs => rw [List.length_cons, List.take_succ_cons, missingZeros, missingZeros, ih]

theorem take_eq (actual expected : List Nat) :
    actual.take expected.length = expected ↔
      compareNumbers (actual.take expected.length) expected = .eq ∧
        missingZeros actual expected = false := by
  have hsame := eq_padded (actual.take expected.length) expected
  have hshort : (actual.take expected.length).length - expected.length = 0 := by
    rw [List.length_take]
    omega
  rw [hshort, List.replicate_zero, List.append_nil, missingZeros_take] at hsame
  exact hsame

namespace ExternalIntelligence
set_option autoImplicit true

inductive VersionOperator where
  | bare
  | eq
  | eqEq
  | ne
  | lt
  | le
  | gt
  | ge
deriving DecidableEq, Repr

def VersionOperator.text : VersionOperator → List Char
  | .bare => []
  | .eq => ['=']
  | .eqEq => ['=', '=']
  | .ne => ['!', '=']
  | .lt => ['<']
  | .le => ['<', '=']
  | .gt => ['>']
  | .ge => ['>', '=']

/-- Numbers joined by dots, as they are spelled. -/
structure DottedNumbers where
  first : List Char
  rest : List (List Char)
  spelled : ∀ number ∈ first :: rest, number ≠ [] ∧ number.all Text.isDigit = true

def spelledNumber (number : List Char) : Nat :=
  number.foldl (fun n c => 10 * n + (c.toNat - 48)) 0

namespace DottedNumbers

def text (numbers : DottedNumbers) : List Char :=
  numbers.first ++ numbers.rest.flatMap ('.' :: ·)

def values (numbers : DottedNumbers) : List Nat :=
  (numbers.first :: numbers.rest).map spelledNumber

end DottedNumbers

inductive VersionWildcard where
  | none
  | star
  | x
deriving DecidableEq, Repr

def VersionWildcard.text : VersionWildcard → List Char
  | .none => []
  | .star => ['.', '*']
  | .x => ['.', 'x']

/-- One part of a constraint, with the blanks around its operator and its numbers. -/
structure ConstraintPart where
  operator : VersionOperator
  numbers : DottedNumbers
  wildcard : VersionWildcard
  before : Nat := 0
  between : Nat := 0
  after : Nat := 0

namespace ConstraintPart

def text (part : ConstraintPart) : List Char :=
  List.replicate part.before ' ' ++ part.operator.text ++ List.replicate part.between ' ' ++
    part.numbers.text ++ part.wildcard.text ++ List.replicate part.after ' '

/-- What a part asks of the numbers of a version. -/
def holds (part : ConstraintPart) (actual : List Nat) : Bool :=
  let expected := part.numbers.values
  match part.wildcard with
  | .star | .x =>
    let within := compareNumbers (actual.take expected.length) expected == .eq
    if part.operator = .ne then !within else within
  | .none =>
    let order := compareNumbers actual expected
    match part.operator with
    | .bare | .eq | .eqEq => order == .eq
    | .ne => order != .eq
    | .lt => order == .lt
    | .le => order != .gt
    | .gt => order == .gt
    | .ge => order != .lt

/-- A part that is judged the other way round: one that refuses all versions of a prefix, or one
that spells out zeros which the version leaves out. -/
def slips (part : ConstraintPart) (actual : List Nat) : Bool :=
  let missing := missingZeros actual part.numbers.values
  match part.wildcard, part.operator with
  | .star, .ne | .x, .ne => !missing
  | .star, _ | .x, _ => missing
  | .none, .le | .none, .gt => false
  | .none, _ => missing

end ConstraintPart

def constraintText (parts : List ConstraintPart) : List Char :=
  [','].intercalate (parts.map ConstraintPart.text)

/-- A version without numbers meets no part of a constraint. -/
def constraintHolds (actual : Option (List Nat)) (parts : List ConstraintPart) : Bool :=
  parts.all fun part => (actual.map part.holds).getD false

/-- What the digits of the runtime are among the characters of ASCII. -/
structure RecallPlatform.ReadsDigits (P : RecallPlatform) : Prop where
  digit : ∀ c, Text.isDigit c = true → P.decimalDigit c = some (c.toNat - 48)
  other : ∀ c, isPrintable c = true → Text.isDigit c = false → P.decimalDigit c = none

namespace DottedNumbers

theorem head (numbers : DottedNumbers) :
    ∃ c more, numbers.text = c :: more ∧ Text.isDigit c = true := by
  obtain ⟨hne, hdigits⟩ := numbers.spelled numbers.first (List.mem_cons_self ..)
  obtain ⟨c, more, he⟩ := List.exists_cons_of_ne_nil hne
  rw [he, List.all_cons, Bool.and_eq_true] at hdigits
  refine ⟨c, more ++ numbers.rest.flatMap ('.' :: ·), ?_, hdigits.1⟩
  rw [text, he]
  rfl

theorem exists_last {number : List Char} (h : number ≠ [] ∧ number.all Text.isDigit = true) :
    ∃ initial d, number = initial ++ [d] ∧ Text.isDigit d = true := by
  obtain ⟨initial, d, he⟩ := (List.eq_nil_or_concat number).resolve_left h.1
  rw [List.concat_eq_append] at he
  rw [he, List.all_append, Bool.and_eq_true, List.all_cons, Bool.and_eq_true] at h
  exact ⟨initial, d, he, h.2.2.1⟩

theorem last (numbers : DottedNumbers) :
    ∃ initial d, numbers.text = initial ++ [d] ∧ Text.isDigit d = true := by
  obtain ⟨first, rest, hspelled⟩ := numbers
  unfold text
  dsimp only
  cases rest using List.reverseRecOn with
  | nil =>
    rw [List.flatMap_nil, List.append_nil]
    exact exists_last (hspelled first (List.mem_cons_self ..))
  | append_singleton rest number =>
    have hnumber := hspelled number
      (List.mem_cons_of_mem _ (List.mem_append_right _ (List.mem_singleton_self number)))
    obtain ⟨initial, d, he, hd⟩ := exists_last hnumber
    refine ⟨first ++ rest.flatMap ('.' :: ·) ++ '.' :: initial, d, ?_, hd⟩
    rw [List.flatMap_append, List.flatMap_singleton, he]
    simp only [List.append_assoc, List.cons_append]

theorem mem_text (numbers : DottedNumbers) (h : c ∈ numbers.text) :
    Text.isDigit c = true ∨ c = '.' := by
  unfold text at h
  cases List.mem_append.1 h with
  | inl hfirst =>
    have hdigits := (numbers.spelled numbers.first (List.mem_cons_self ..)).2
    exact .inl (List.all_eq_true.1 hdigits c hfirst)
  | inr hrest =>
    obtain ⟨number, hnumber, hc⟩ := List.mem_flatMap.1 hrest
    have hdigits := (numbers.spelled number (List.mem_cons_of_mem _ hnumber)).2
    cases List.mem_cons.1 hc with
    | inl hdot => exact .inr hdot
    | inr hdigit => exact .inl (List.all_eq_true.1 hdigits c hdigit)

end DottedNumbers

section Parsing

variable {P : RecallPlatform}

theorem versionFrom_digits (hP : P.ReadsDigits) {digits : List Char}
    (h : digits.all Text.isDigit = true) (n : Nat) (rest : List Char) :
    versionFrom P.decimalDigit n (digits ++ rest) = versionFrom P.decimalDigit
      (digits.foldl (fun n c => 10 * n + (c.toNat - 48)) n) rest := by
  induction digits generalizing n with
  | nil => rfl
  | cons c digits ih =>
    rw [List.all_cons, Bool.and_eq_true] at h
    rw [List.cons_append, versionFrom.eq_def]
    dsimp only
    rw [hP.digit c h.1]
    exact ih h.2 _

theorem versionFrom_dotted (hP : P.ReadsDigits) {numbers : List (List Char)}
    (h : ∀ number ∈ numbers, number ≠ [] ∧ number.all Text.isDigit = true) (n : Nat) :
    versionFrom P.decimalDigit n (numbers.flatMap ('.' :: ·)) =
      n :: numbers.map spelledNumber := by
  induction numbers generalizing n with
  | nil => rfl
  | cons number numbers ih =>
    rw [List.forall_mem_cons] at h
    obtain ⟨⟨hne, hdigits⟩, hrest⟩ := h
    obtain ⟨c, digits, he⟩ := List.exists_cons_of_ne_nil hne
    rw [he, List.all_cons, Bool.and_eq_true] at hdigits
    have hdot : P.decimalDigit '.' = none := hP.other '.' (by decide) (by decide)
    have hvalue : digits.foldl (fun n c => 10 * n + (c.toNat - 48)) (c.toNat - 48) =
        spelledNumber number := by
      rw [spelledNumber, he, List.foldl_cons, Nat.mul_zero, Nat.zero_add]
    rw [List.flatMap_cons, he, List.cons_append, List.cons_append, versionFrom.eq_def]
    dsimp only
    rw [hdot]
    dsimp only
    rw [if_pos rfl, hP.digit c hdigits.1]
    dsimp only
    rw [versionFrom_digits hP hdigits.2, hvalue, ih hrest, ← he, List.map_cons]

/-- The first run of numbers after other characters. -/
theorem versionTuple_dotted (hP : P.ReadsDigits) {before : List Char}
    (hbefore : ∀ c ∈ before, P.decimalDigit c = none) (numbers : DottedNumbers) :
    versionTuple P (before ++ numbers.text) = some numbers.values := by
  obtain ⟨hne, hdigits⟩ := numbers.spelled numbers.first (List.mem_cons_self ..)
  obtain ⟨c, digits, he⟩ := List.exists_cons_of_ne_nil hne
  rw [he, List.all_cons, Bool.and_eq_true] at hdigits
  have htext : numbers.text = c :: (digits ++ numbers.rest.flatMap ('.' :: ·)) := by
    rw [DottedNumbers.text, he]
    rfl
  have hdrop : (before ++ numbers.text).dropWhile (fun c => (P.decimalDigit c).isNone) =
      numbers.text := by
    rw [List.dropWhile_append_of_pos]
    · rw [htext, List.dropWhile_cons_of_neg]
      rw [hP.digit c hdigits.1]
      exact Bool.false_ne_true
    · intro d hd
      rw [hbefore d hd]
      rfl
  have hvalue : digits.foldl (fun n c => 10 * n + (c.toNat - 48)) (c.toNat - 48) =
      spelledNumber numbers.first := by
    rw [spelledNumber, he, List.foldl_cons, Nat.mul_zero, Nat.zero_add]
  unfold versionTuple
  rw [hdrop, htext]
  dsimp only
  rw [hP.digit c hdigits.1, Option.getD_some, versionFrom_digits hP hdigits.2, hvalue,
    versionFrom_dotted hP fun number hnumber =>
      numbers.spelled number (List.mem_cons_of_mem _ hnumber)]
  rfl

theorem not_space_of_isDigit (h : Text.isDigit c = true) : Text.isSpace c = false := by
  have hcode : 48 ≤ c.toNat ∧ c.toNat ≤ 57 := by
    rw [Text.isDigit, Bool.and_eq_true, decide_eq_true_eq, decide_eq_true_eq] at h
    exact h
  unfold Text.isSpace
  grind

/-- Blanks around a text that neither starts nor ends with one are stripped. -/
theorem strip_blanks (n m : Nat) {body : List Char} (hfirst : body = c :: more)
    (hc : Text.isSpace c = false) (hlast : body = initial ++ [d]) (hd : Text.isSpace d = false) :
    Text.strip (List.replicate n ' ' ++ body ++ List.replicate m ' ') = body := by
  have hblank : ∀ n, ∀ e ∈ List.replicate n ' ', Text.isSpace e = true := by
    intro n e he
    rw [List.eq_of_mem_replicate he]
    decide
  have hstart : (List.replicate n ' ' ++ body ++ List.replicate m ' ').dropWhile Text.isSpace =
      body ++ List.replicate m ' ' := by
    rw [List.append_assoc, List.dropWhile_append_of_pos (hblank n), hfirst, List.cons_append,
      List.dropWhile_cons_of_neg]
    rw [hc]
    exact Bool.false_ne_true
  unfold Text.strip
  rw [hstart, List.rdropWhile, List.reverse_append, List.dropWhile_append_of_pos]
  · rw [hlast, List.reverse_append, List.reverse_singleton, List.singleton_append,
      List.dropWhile_cons_of_neg, List.reverse_cons, List.reverse_reverse]
    rw [hd]
    exact Bool.false_ne_true
  · intro e he
    exact hblank m e (List.mem_reverse.1 he)

namespace ConstraintPart

/-- The numbers of a part and its wildcard. -/
def core (part : ConstraintPart) : List Char :=
  part.numbers.text ++ part.wildcard.text

/-- What is left of a part before its numbers once its operator is read. -/
def leftover (part : ConstraintPart) : List Char :=
  if part.operator = .eqEq then '=' :: List.replicate part.between ' ' else []

def operatorName (part : ConstraintPart) : String :=
  match part.operator with
  | .bare => "=="
  | .eq | .eqEq => "="
  | .ne => "!="
  | .lt => "<"
  | .le => "<="
  | .gt => ">"
  | .ge => ">="

theorem core_head (part : ConstraintPart) :
    ∃ c more, part.core = c :: more ∧ Text.isDigit c = true := by
  obtain ⟨c, more, he, hc⟩ := part.numbers.head
  refine ⟨c, more ++ part.wildcard.text, ?_, hc⟩
  rw [core, he]
  rfl

theorem core_last (part : ConstraintPart) :
    ∃ initial d, part.core = initial ++ [d] ∧ Text.isSpace d = false := by
  unfold core
  cases part.wildcard with
  | none =>
    obtain ⟨initial, d, he, hd⟩ := part.numbers.last
    exact ⟨initial, d, by rw [he]; exact List.append_nil _, not_space_of_isDigit hd⟩
  | star => exact ⟨part.numbers.text ++ ['.'], '*', by simp [VersionWildcard.text], by decide⟩
  | x => exact ⟨part.numbers.text ++ ['.'], 'x', by simp [VersionWildcard.text], by decide⟩

theorem strip_core (part : ConstraintPart) (n m : Nat) :
    Text.strip (List.replicate n ' ' ++ part.core ++ List.replicate m ' ') = part.core := by
  obtain ⟨c, more, hfirst, hc⟩ := part.core_head
  obtain ⟨initial, d, hlast, hd⟩ := part.core_last
  exact strip_blanks n m hfirst (not_space_of_isDigit hc) hlast hd

/-- A part that is stripped starts with its operator, or with its numbers if it has none. -/
theorem strip_text (part : ConstraintPart) : Text.strip part.text =
    if part.operator = .bare then part.core
    else part.operator.text ++ List.replicate part.between ' ' ++ part.core := by
  have htext : part.text = List.replicate part.before ' ' ++ (part.operator.text ++
      List.replicate part.between ' ' ++ part.core) ++ List.replicate part.after ' ' := by
    unfold text core
    simp only [List.append_assoc]
  obtain ⟨initial, d, hlast, hd⟩ := part.core_last
  split
  · rename_i hbare
    have hblanks : part.text = List.replicate (part.before + part.between) ' ' ++ part.core ++
        List.replicate part.after ' ' := by
      rw [htext, hbare, ← List.replicate_append_replicate]
      simp only [VersionOperator.text, List.nil_append, List.append_assoc]
    rw [hblanks, strip_core]
  · rename_i hne
    have hfirst : ∃ c more, part.operator.text ++ List.replicate part.between ' ' ++ part.core =
        c :: more ∧ Text.isSpace c = false := by
      cases hop : part.operator with
      | bare => exact absurd hop hne
      | eq => exact ⟨'=', _, rfl, by decide⟩
      | eqEq => exact ⟨'=', _, rfl, by decide⟩
      | ne => exact ⟨'!', _, rfl, by decide⟩
      | lt => exact ⟨'<', _, rfl, by decide⟩
      | le => exact ⟨'<', _, rfl, by decide⟩
      | gt => exact ⟨'>', _, rfl, by decide⟩
      | ge => exact ⟨'>', _, rfl, by decide⟩
    obtain ⟨c, more, hstart, hc⟩ := hfirst
    rw [htext]
    apply strip_blanks _ _ hstart hc _ hd
    · exact part.operator.text ++ List.replicate part.between ' ' ++ initial
    · rw [hlast]
      simp only [List.append_assoc]

/-- The operator of a part and what is left of it. -/
theorem versionOperator_text (part : ConstraintPart) :
    versionOperator (Text.strip part.text) = (part.operatorName, part.leftover ++ part.core) := by
  obtain ⟨c, more, hfirst, hc⟩ := part.core_head
  have hcode : 48 ≤ c.toNat ∧ c.toNat ≤ 57 := by
    rw [Text.isDigit, Bool.and_eq_true, decide_eq_true_eq, decide_eq_true_eq] at hc
    exact hc
  have hne : ∀ d : Char, d.toNat < 48 ∨ 57 < d.toNat → (d == c) = false := by
    intro d hd
    rw [beq_eq_false_iff_ne]
    intro he
    rw [he] at hd
    omega
  have hafter : ∀ n, Text.strip (List.replicate n ' ' ++ part.core) = part.core := by
    intro n
    have hstrip := part.strip_core n 0
    rw [List.replicate_zero, List.append_nil] at hstrip
    exact hstrip
  have hblank : ∀ n, ∃ d rest, List.replicate n ' ' ++ part.core = d :: rest ∧
      ('=' == d) = false := by
    intro n
    cases n with
    | zero =>
      refine ⟨c, more, hfirst, ?_⟩
      exact hne '=' (by decide)
    | succ n => exact ⟨' ', _, rfl, by decide⟩
  have hchars : [">=", "<=", "!=", ">", "<", "="].map Text.chars =
      [['>', '='], ['<', '='], ['!', '='], ['>'], ['<'], ['=']] := rfl
  simp only [List.map_cons, List.map_nil, List.cons.injEq] at hchars
  obtain ⟨hge, hle, hnot, hgt, hlt, heq, _⟩ := hchars
  rw [strip_text]
  unfold versionOperator leftover operatorName
  obtain ⟨d, rest, hrest, hd⟩ := hblank part.between
  cases hop : part.operator with
  | bare =>
    simp [hfirst, List.find?, List.isPrefixOf, hge, hle, hnot, hgt, hlt, heq,
      hne '>' (by decide), hne '<' (by decide), hne '!' (by decide), hne '=' (by decide)]
  | eq => simp [VersionOperator.text, List.find?, List.isPrefixOf, hge, hle, hnot, hgt, hlt, heq, hafter]
  | eqEq =>
    obtain ⟨initial, e, hlast, he⟩ := part.core_last
    have hstrip := strip_blanks 0 0
      (rfl : '=' :: (List.replicate part.between ' ' ++ part.core) = '=' :: _) (by decide)
      (show _ = ('=' :: (List.replicate part.between ' ' ++ initial)) ++ [e] by
        rw [hlast, List.cons_append, List.append_assoc]) he
    rw [List.replicate_zero, List.nil_append, List.append_nil] at hstrip
    simp [VersionOperator.text, List.find?, List.isPrefixOf, hge, hle, hnot, hgt, hlt, heq, hstrip]
  | ne => simp [VersionOperator.text, List.find?, List.isPrefixOf, hge, hle, hnot, hafter]
  | lt =>
    have hstrip := hafter part.between
    rw [hrest] at hstrip
    simp [VersionOperator.text, List.find?, List.isPrefixOf, hge, hle, hnot, hgt, hlt, hrest, hd,
      hstrip]
  | le => simp [VersionOperator.text, List.find?, List.isPrefixOf, hge, hle, hafter]
  | gt =>
    have hstrip := hafter part.between
    rw [hrest] at hstrip
    simp [VersionOperator.text, List.find?, List.isPrefixOf, hge, hle, hnot, hgt, hrest, hd, hstrip]
  | ge => simp [VersionOperator.text, List.find?, List.isPrefixOf, hge, hafter]

/-- The characters of a part are plain. -/
theorem plain (part : ConstraintPart) : ∀ c ∈ part.leftover ++ part.core,
    (isPrintable c && Text.asciiLower c == c) = true := by
  intro c hc
  have hdigit : Text.isDigit c = true → (isPrintable c && Text.asciiLower c == c) = true := by
    intro hdigit
    have hcode : 48 ≤ c.toNat ∧ c.toNat ≤ 57 := by
      rw [Text.isDigit, Bool.and_eq_true, decide_eq_true_eq, decide_eq_true_eq] at hdigit
      exact hdigit
    have hprintable : isPrintable c = true := by
      rw [isPrintable, Bool.and_eq_true, decide_eq_true_eq, decide_eq_true_eq]
      exact ⟨show 32 ≤ c.toNat by omega, show c.toNat ≤ 126 by omega⟩
    have hlower : Text.asciiLower c = c := by
      apply if_neg
      rw [Bool.and_eq_true, decide_eq_true_eq, decide_eq_true_eq]
      intro hupper
      have hleast : 65 ≤ c.toNat := hupper.1
      omega
    rw [hprintable, hlower, beq_self_eq_true]
    rfl
  cases List.mem_append.1 hc with
  | inl hleft =>
    unfold leftover at hleft
    split at hleft
    · cases List.mem_cons.1 hleft with
      | inl he =>
        rw [he]
        decide
      | inr hblank =>
        rw [List.eq_of_mem_replicate hblank]
        decide
    · cases hleft
  | inr hcore =>
    cases List.mem_append.1 hcore with
    | inl hnumbers =>
      cases part.numbers.mem_text hnumbers with
      | inl h => exact hdigit h
      | inr h =>
        rw [h]
        decide
    | inr hwild =>
      cases hw : part.wildcard with
      | none =>
        rw [hw] at hwild
        cases hwild
      | star =>
        rw [hw] at hwild
        exact List.all_eq_true.1 (show ['.', '*'].all (fun c =>
          isPrintable c && Text.asciiLower c == c) = true by decide) c hwild
      | x =>
        rw [hw] at hwild
        exact List.all_eq_true.1 (show ['.', 'x'].all (fun c =>
          isPrintable c && Text.asciiLower c == c) = true by decide) c hwild

/-- Only a wildcard ends a part with something else than a digit. -/
theorem isSuffixOf_text (part : ConstraintPart) (d : Char) (hd : Text.isDigit d = false) :
    ['.', d].isSuffixOf (part.leftover ++ part.core) =
      (part.wildcard.text == ['.', d]) := by
  have hsplit : part.leftover ++ part.core =
      part.leftover ++ part.numbers.text ++ part.wildcard.text := by
    rw [core, List.append_assoc]
  rw [hsplit, Bool.eq_iff_iff, List.isSuffixOf_iff_suffix, beq_iff_eq]
  constructor
  · intro hsuffix
    cases hw : part.wildcard with
    | none =>
      obtain ⟨initial, e, he, hdigit⟩ := part.numbers.last
      obtain ⟨before, hbefore⟩ := hsuffix
      rw [hw, he] at hbefore
      have hlast := congrArg List.getLast? hbefore
      simp [VersionWildcard.text] at hlast
      rw [hlast, hdigit] at hd
      cases hd
    | star =>
      obtain ⟨before, hbefore⟩ := hsuffix
      rw [hw] at hbefore
      have hlast := (List.append_inj' hbefore rfl).2
      exact hlast.symm
    | x =>
      obtain ⟨before, hbefore⟩ := hsuffix
      rw [hw] at hbefore
      have hlast := (List.append_inj' hbefore rfl).2
      exact hlast.symm
  · intro hw
    rw [hw]
    exact List.suffix_append _ _

theorem leftover_blank (hP : P.ReadsDigits) (part : ConstraintPart) :
    ∀ c ∈ part.leftover, P.decimalDigit c = none := by
  intro c hc
  unfold leftover at hc
  split at hc
  · cases List.mem_cons.1 hc with
    | inl he =>
      rw [he]
      exact hP.other '=' (by decide) (by decide)
    | inr hblank =>
      rw [List.eq_of_mem_replicate hblank]
      exact hP.other ' ' (by decide) (by decide)
  · cases hc

/-- A part is judged as it asks, or the other way round if it slips. -/
theorem versionPartAllowed_text (hP : P.ReadsDigits) (hplain : P.PlainTexts)
    (part : ConstraintPart) (actual : List Nat) :
    versionPartAllowed P actual (Text.strip part.text) =
      (part.holds actual ^^ part.slips actual) := by
  have hfold : P.casefold (part.leftover ++ part.core) = part.leftover ++ part.core :=
    hplain.casefold _ (List.all_eq_true.2 part.plain)
  have hstar : (Text.chars ".*").isSuffixOf (part.leftover ++ part.core) =
      (part.wildcard.text == ['.', '*']) := part.isSuffixOf_text '*' (by decide)
  have hx : (Text.chars ".x").isSuffixOf (part.leftover ++ part.core) =
      (part.wildcard.text == ['.', 'x']) := part.isSuffixOf_text 'x' (by decide)
  have htuple := versionTuple_dotted hP (part.leftover_blank hP) part.numbers
  have htake : ∀ wild : List Char, part.wildcard.text = wild → wild.length = 2 →
      (part.leftover ++ part.core).take ((part.leftover ++ part.core).length - 2) =
        part.leftover ++ part.numbers.text := by
    intro wild hwild hlength
    rw [core, hwild, ← List.append_assoc, List.length_append, hlength, Nat.add_sub_cancel,
      List.take_left]
  unfold versionPartAllowed
  rw [versionOperator_text]
  dsimp only
  rw [hfold, hstar, hx]
  have hwithin : (actual.take part.numbers.values.length == part.numbers.values) =
      ((compareNumbers (actual.take part.numbers.values.length) part.numbers.values == .eq) &&
        !missingZeros actual part.numbers.values) := by
    rw [Bool.eq_iff_iff, Bool.and_eq_true, beq_iff_eq, beq_iff_eq, Bool.not_eq_true', take_eq]
  have hmissing : missingZeros actual part.numbers.values = true →
      compareNumbers (actual.take part.numbers.values.length) part.numbers.values = .eq := by
    intro hm
    apply compareNumbers_of_missing
    rw [missingZeros_take]
    exact hm
  cases hw : part.wildcard with
  | star =>
    rw [if_pos (by decide), htake ['.', '*'] (by rw [hw]; rfl) rfl, htuple]
    dsimp only
    rw [hwithin, holds, slips, hw]
    dsimp only
    cases hm : missingZeros actual part.numbers.values with
    | true =>
      rw [hmissing hm]
      cases part.operator <;> rfl
    | false =>
      cases part.operator <;> simp
  | x =>
    rw [if_pos (by decide), htake ['.', 'x'] (by rw [hw]; rfl) rfl, htuple]
    dsimp only
    rw [hwithin, holds, slips, hw]
    dsimp only
    cases hm : missingZeros actual part.numbers.values with
    | true =>
      rw [hmissing hm]
      cases part.operator <;> rfl
    | false =>
      cases part.operator <;> simp
  | none =>
    have hcore : part.leftover ++ part.core = part.leftover ++ part.numbers.text := by
      rw [core, hw]
      exact congrArg _ (List.append_nil _)
    have hsame : (actual == part.numbers.values ++
        List.replicate (actual.length - part.numbers.values.length) 0) =
        (compareNumbers actual part.numbers.values == .eq &&
          !missingZeros actual part.numbers.values) := by
      rw [Bool.eq_iff_iff, beq_iff_eq, Bool.and_eq_true, beq_iff_eq, Bool.not_eq_true', eq_padded]
    have hless : decide (actual < part.numbers.values ++
        List.replicate (actual.length - part.numbers.values.length) 0) =
        (compareNumbers actual part.numbers.values == .lt ||
          missingZeros actual part.numbers.values) := by
      rw [Bool.eq_iff_iff, decide_eq_true_eq, Bool.or_eq_true, beq_iff_eq, lt_padded]
    have hmore : decide (part.numbers.values ++
        List.replicate (actual.length - part.numbers.values.length) 0 < actual) =
        (compareNumbers actual part.numbers.values == .gt) := by
      rw [Bool.eq_iff_iff, decide_eq_true_eq, beq_iff_eq, padded_lt]
    have hequal : missingZeros actual part.numbers.values = true →
        compareNumbers actual part.numbers.values = .eq := compareNumbers_of_missing
    rw [if_neg (by decide), hcore, htuple]
    dsimp only
    rw [bne, decide_not, decide_not, hsame, hless, hmore, holds, slips, operatorName, hw]
    dsimp only
    generalize compareNumbers actual part.numbers.values = order at hequal ⊢
    generalize missingZeros actual part.numbers.values = missing at hequal ⊢
    cases missing with
    | true =>
      rw [hequal rfl]
      cases part.operator <;> decide
    | false => cases part.operator <;> cases order <;> decide

theorem comma_not_mem (part : ConstraintPart) : ',' ∉ part.text := by
  intro h
  have hblank : ∀ n, ',' ∉ List.replicate n ' ' := by
    intro n hn
    exact absurd (List.eq_of_mem_replicate hn) (by decide)
  unfold text at h
  simp only [List.mem_append] at h
  rcases h with ((((h | h) | h) | h) | h) | h
  · exact hblank _ h
  · cases hop : part.operator <;> rw [hop] at h <;> exact absurd h (by decide)
  · exact hblank _ h
  · cases part.numbers.mem_text h with
    | inl hdigit => exact absurd hdigit (by decide)
    | inr hdot => exact absurd hdot (by decide)
  · cases hw : part.wildcard <;> rw [hw] at h <;> exact absurd h (by decide)
  · exact hblank _ h

theorem strip_text_ne_nil (part : ConstraintPart) : (Text.strip part.text).isEmpty = false := by
  obtain ⟨c, more, hfirst, _⟩ := part.core_head
  rw [strip_text]
  split
  · rw [hfirst]
    rfl
  · rw [hfirst, List.isEmpty_eq_false_iff]
    exact List.append_ne_nil_of_right_ne_nil _ (List.cons_ne_nil _ _)

theorem text_ne_nil (part : ConstraintPart) : part.text ≠ [] := by
  intro h
  have hstrip := part.strip_text_ne_nil
  rw [h] at hstrip
  cases hstrip

end ConstraintPart

/-- The parts of a constraint are all judged rightly, or one that is judged rightly is not met, or
some are judged wrongly either way. -/
def JudgedAlike (parts : List ConstraintPart) (actual : List Nat) : Prop :=
  (∀ part ∈ parts, part.slips actual = false) ∨
    (∃ part ∈ parts, part.slips actual = false ∧ part.holds actual = false) ∨
    (∃ part ∈ parts, part.slips actual = true ∧ part.holds actual = true) ∧
      ∃ part ∈ parts, part.slips actual = true ∧ part.holds actual = false

theorem judgedAlike_iff (parts : List ConstraintPart) (actual : List Nat) :
    (parts.all fun part => part.holds actual ^^ part.slips actual) =
      (parts.all fun part => part.holds actual) ↔ JudgedAlike parts actual := by
  constructor
  · intro h
    by_cases hslips : ∀ part ∈ parts, part.slips actual = false
    · exact .inl hslips
    · simp only [not_forall] at hslips
      obtain ⟨part, hpart, hslip⟩ := hslips
      rw [Bool.not_eq_false] at hslip
      by_cases hright : ∃ part ∈ parts, part.slips actual = false ∧ part.holds actual = false
      · exact .inr (.inl hright)
      · right
        right
        have hboth : (∃ part ∈ parts, part.holds actual = false) ∧
            ∃ part ∈ parts, (part.holds actual ^^ part.slips actual) = false := by
          cases hheld : part.holds actual with
          | false =>
            have hall : (parts.all fun part => part.holds actual) = false :=
              List.all_eq_false.2 ⟨part, hpart, by rw [hheld]; exact Bool.false_ne_true⟩
            rw [hall] at h
            obtain ⟨other, hother, hfalse⟩ := List.all_eq_false.1 h
            exact ⟨⟨part, hpart, hheld⟩, other, hother, Bool.eq_false_of_not_eq_true hfalse⟩
          | true =>
            have hall : (parts.all fun part => part.holds actual ^^ part.slips actual) = false :=
              List.all_eq_false.2 ⟨part, hpart, by rw [hheld, hslip]; exact Bool.false_ne_true⟩
            rw [hall] at h
            obtain ⟨other, hother, hfalse⟩ := List.all_eq_false.1 h.symm
            exact ⟨⟨other, hother, Bool.eq_false_of_not_eq_true hfalse⟩, part, hpart, by
              rw [hheld, hslip]; rfl⟩
        obtain ⟨⟨refused, hrefused, hnot⟩, wrong, hwrong, hxor⟩ := hboth
        have hslipped : ∀ {part : ConstraintPart}, part ∈ parts → part.holds actual = false →
            part.slips actual = true := by
          intro part hpart hnot
          by_contra hno
          exact hright ⟨part, hpart, Bool.eq_false_of_not_eq_true hno, hnot⟩
        refine ⟨⟨wrong, hwrong, ?_⟩, refused, hrefused, hslipped hrefused hnot, hnot⟩
        cases hheld : wrong.holds actual with
        | false =>
          rw [hheld, hslipped hwrong hheld] at hxor
          cases hxor
        | true =>
          rw [hheld, Bool.true_xor, Bool.not_eq_false'] at hxor
          exact ⟨hxor, rfl⟩
  · intro h
    rcases h with hnone | ⟨part, hpart, hslip, hnot⟩ | ⟨hheld, hmissed⟩
    · rw [Bool.eq_iff_iff, List.all_eq_true, List.all_eq_true]
      apply forall₂_congr
      intro part hpart
      rw [hnone part hpart, Bool.xor_false]
    · have hleft : (parts.all fun part => part.holds actual ^^ part.slips actual) = false :=
        List.all_eq_false.2 ⟨part, hpart, by rw [hnot, hslip]; exact Bool.false_ne_true⟩
      have hright : (parts.all fun part => part.holds actual) = false :=
        List.all_eq_false.2 ⟨part, hpart, by rw [hnot]; exact Bool.false_ne_true⟩
      rw [hleft, hright]
    · obtain ⟨part, hpart, hslip, htrue⟩ := hheld
      obtain ⟨other, hother, _, hfalse⟩ := hmissed
      have hleft : (parts.all fun part => part.holds actual ^^ part.slips actual) = false :=
        List.all_eq_false.2 ⟨part, hpart, by rw [htrue, hslip]; exact Bool.false_ne_true⟩
      have hright : (parts.all fun part => part.holds actual) = false :=
        List.all_eq_false.2 ⟨other, hother, by rw [hfalse]; exact Bool.false_ne_true⟩
      rw [hleft, hright]

/-- A constraint is judged part by part. -/
theorem versionAllowed_text (hP : P.ReadsDigits) (hplain : P.PlainTexts) (query : RetrievalQuery)
    {pattern : Fields} {parts : List ConstraintPart}
    (hconstraint : valueOr (getOr pattern "version_constraint" .none)
      (getOr pattern "version" .none) = .str (String.ofList (constraintText parts)))
    (hparts : parts ≠ []) : versionAllowed P query pattern =
      match versionTuple P (Text.chars query.version) with
      | none => false
      | some actual => parts.all fun part => part.holds actual ^^ part.slips actual := by
  obtain ⟨first, rest, he⟩ := List.exists_cons_of_ne_nil hparts
  have htruthy : (Value.str (String.ofList (constraintText parts))).truthy = true := by
    rw [Value.truthy, bne_iff_ne]
    intro hempty
    have hnil : constraintText parts = [] := by
      have hlist := congrArg String.toList hempty
      rw [String.toList_ofList] at hlist
      exact hlist
    rw [constraintText, he, List.map_cons] at hnil
    cases rest with
    | nil =>
      rw [List.map_nil, List.intercalate_singleton] at hnil
      exact first.text_ne_nil hnil
    | cons second rest =>
      rw [List.map_cons, List.intercalate_cons_cons] at hnil
      exact first.text_ne_nil (List.append_eq_nil_iff.1 (List.append_eq_nil_iff.1 hnil).1).1
  have hsplit : (constraintText parts).splitOn ',' = parts.map ConstraintPart.text := by
    apply List.splitOn_intercalate
    · intro text htext
      obtain ⟨part, _, hpart⟩ := List.mem_map.1 htext
      rw [← hpart]
      exact part.comma_not_mem
    · rw [he]
      exact List.cons_ne_nil _ _
  have hunfold : versionAllowed P query pattern =
      if !(Value.str (String.ofList (constraintText parts))).truthy then true
      else if query.version = "" then false
      else
        match versionTuple P (Text.chars query.version) with
        | none => false
        | some actual =>
          (((Text.chars (pyStr P.toPlatform (Value.str (String.ofList (constraintText
            parts))))).splitOn ',').map Text.strip).all fun part =>
              part.isEmpty || versionPartAllowed P actual part := by
    rw [← hconstraint]
    rfl
  rw [hunfold, htruthy, if_neg (by decide)]
  split
  · rename_i hempty
    rw [hempty]
    rfl
  · cases versionTuple P (Text.chars query.version) with
    | none => rfl
    | some actual =>
      dsimp only
      rw [pyStr, Text.chars_eq_toList, String.toList_ofList, hsplit, List.map_map, List.all_map]
      apply List.all_congr rfl
      intro part
      show ((Text.strip part.text).isEmpty || versionPartAllowed P actual (Text.strip part.text)) = _
      rw [part.strip_text_ne_nil, Bool.false_or, part.versionPartAllowed_text hP hplain actual]

end Parsing

/-- A version is judged by a constraint as the numbers of each part ask, just when the parts that
refuse a prefix or spell out missing zeros do not change the judgement of the whole. -/
theorem versionAllowed_iff (P : RecallPlatform) (hP : P.ReadsDigits) (hplain : P.PlainTexts)
    (query : RetrievalQuery) (pattern : Fields) (parts : List ConstraintPart)
    (hconstraint : valueOr (getOr pattern "version_constraint" .none)
      (getOr pattern "version" .none) = .str (String.ofList (constraintText parts))) :
    versionAllowed P query pattern =
        constraintHolds (versionTuple P (Text.chars query.version)) parts ↔
      ∀ actual, versionTuple P (Text.chars query.version) = some actual →
        JudgedAlike parts actual := by
  by_cases hparts : parts = []
  · have hallowed : versionAllowed P query pattern = true := by
      rw [hparts] at hconstraint
      show (if !(valueOr (getOr pattern "version_constraint" .none)
        (getOr pattern "version" .none)).truthy then true else _) = true
      rw [hconstraint]
      rfl
    rw [hallowed, hparts]
    apply iff_of_true rfl
    intro actual _
    exact .inl fun part hpart => absurd hpart List.not_mem_nil
  · rw [versionAllowed_text hP hplain query hconstraint hparts]
    cases hversion : versionTuple P (Text.chars query.version) with
    | none =>
      apply iff_of_true
      · obtain ⟨first, rest, he⟩ := List.exists_cons_of_ne_nil hparts
        rw [he]
        rfl
      · intro actual h
        cases h
    | some actual =>
      have hcondition : (∀ other, some actual = some other → JudgedAlike parts other) ↔
          JudgedAlike parts actual := by
        constructor
        · exact fun h => h actual rfl
        · intro h other he
          cases he
          exact h
      rw [hcondition, ← judgedAlike_iff]
      rfl

theorem sampleRecall_readsDigits : sampleRecall.ReadsDigits where
  digit c h := if_pos h
  other c _ h := if_neg (by rw [h]; exact Bool.false_ne_true)

def sampleNumbers : DottedNumbers where
  first := ['1']
  rest := [['2'], ['0']]
  spelled := by decide

/-- The constraint `>=1.2.0, <2` and a version that leaves out a zero. -/
def sampleConstraint : List ConstraintPart :=
  [{ operator := .ge, numbers := sampleNumbers, wildcard := .none },
    { operator := .lt, numbers := ⟨['2'], [], by decide⟩, wildcard := .none, before := 1 }]

theorem versionAllowed_sample :
    versionAllowed sampleRecall { version := "1.3" }
        [("version_constraint", .str ">=1.2.0, <2")] = true ∧
      constraintHolds (some [1, 3]) sampleConstraint = true := by
  have hiff := versionAllowed_iff sampleRecall sampleRecall_readsDigits samplePlatform_plainTexts
    { version := "1.3" } [("version_constraint", .str ">=1.2.0, <2")] sampleConstraint
    (by decide)
  have hversion : versionTuple sampleRecall (Text.chars "1.3") = some [1, 3] := by decide
  have hheld : constraintHolds (some [1, 3]) sampleConstraint = true := by decide
  have hsame := hiff.2 (by
    intro actual h
    rw [hversion] at h
    cases h
    exact .inl (by decide))
  rw [hversion, hheld] at hsame
  exact ⟨hsame, hheld⟩

/-- A version without the last zero is refused, and a version of a refused prefix is allowed. -/
theorem versionAllowed_slips :
    versionAllowed sampleRecall { version := "1.2" }
        [("version_constraint", .str ">=1.2.0, <2")] = false ∧
      constraintHolds (versionTuple sampleRecall (Text.chars "1.2")) sampleConstraint = true ∧
      versionAllowed sampleRecall { version := "1.2.0.7" }
        [("version_constraint", .str "!=1.2.0.*")] = true ∧
      constraintHolds (versionTuple sampleRecall (Text.chars "1.2.0.7"))
        [{ operator := .ne, numbers := sampleNumbers, wildcard := .star }] = false := by
  decide

end ExternalIntelligence
