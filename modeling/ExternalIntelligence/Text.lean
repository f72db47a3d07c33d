import Mathlib.Data.List.DropRight
import Mathlib.Data.List.Infix

namespace Text
set_option autoImplicit true

/-- The characters of a string; the bytes of an ASCII string are its characters. -/
def chars (s : String) : List Char :=
  let bytes := s.toByteArray.data.toList
  if bytes.all (· < 128) then bytes.map fun b => Char.ofNat b.toNat else s.toList

theorem utf8EncodeChar_ascii {c : Char} (h : ∀ b ∈ String.utf8EncodeChar c, b < 128) :
    (String.utf8EncodeChar c).map (fun b => Char.ofNat b.toNat) = [c] := by
  rw [String.utf8EncodeChar] at h ⊢
  split at h
  · rename_i hc
    rw [if_pos hc, List.map_singleton, UInt8.toNat_ofNat', Nat.mod_eq_of_lt (by omega),
      Char.toNat_val, Char.ofNat_toNat]
  · exfalso
    split at h
    · have hb := h _ (List.mem_cons_self ..)
      rw [UInt8.lt_iff_toNat_lt, UInt8.toNat_ofNat'] at hb
      simp at hb
      omega
    · split at h
      all_goals
        have hb := h _ (List.mem_cons_self ..)
        rw [UInt8.lt_iff_toNat_lt, UInt8.toNat_ofNat'] at hb
        simp at hb
        omega

theorem chars_eq_toList (s : String) : chars s = s.toList := by
  obtain ⟨cs, rfl⟩ : ∃ cs, s = String.ofList cs := ⟨s.toList, String.ofList_toList.symm⟩
  rw [chars]
  simp only [String.toByteArray_ofList, String.toList_ofList, List.utf8Encode,
    List.data_toByteArray]
  split
  · rename_i h
    rw [List.all_eq_true] at h
    induction cs with
    | nil => rfl
    | cons c cs ih =>
      rw [List.flatMap_cons] at h ⊢
      simp only [List.mem_append, decide_eq_true_eq] at h
      rw [List.map_append, utf8EncodeChar_ascii fun b hb => h b (.inl hb), List.singleton_append,
        ih fun b hb => decide_eq_true (h b (.inr hb))]
  · rfl

/-- The code points Python counts as whitespace. -/
def isSpace (c : Char) : Bool :=
  let n := c.toNat
  (9 ≤ n && n ≤ 13) || (28 ≤ n && n ≤ 32) || n == 0x85 || n == 0xA0 || n == 0x1680 ||
    (0x2000 ≤ n && n ≤ 0x200A) || n == 0x2028 || n == 0x2029 || n == 0x202F || n == 0x205F ||
    n == 0x3000

/-- The code points at which Python's splitlines ends a line. -/
def isLineBreak (c : Char) : Bool :=
  let n := c.toNat
  (10 ≤ n && n ≤ 13) || (28 ≤ n && n ≤ 30) || n == 0x85 || n == 0x2028 || n == 0x2029

def strip (s : List Char) : List Char :=
  (s.dropWhile isSpace).rdropWhile isSpace

/-- Python's splitlines: a carriage return and the line feed after it end one line. -/
def splitlinesFrom (line : List Char) : List Char → List (List Char)
  | [] => if line.isEmpty then [] else [line.reverse]
  | [c] => if isLineBreak c then [line.reverse] else [(c :: line).reverse]
  | c :: d :: cs =>
    if c = '\r' ∧ d = '\n' then line.reverse :: splitlinesFrom [] cs
    else if isLineBreak c then line.reverse :: splitlinesFrom [] (d :: cs)
    else splitlinesFrom (c :: line) (d :: cs)

def splitlines (s : List Char) : List (List Char) :=
  splitlinesFrom [] s

/-- Replaces each match of `old`, left to right, while `skip` counts the rest of a match. -/
def replaceFrom (old new : List Char) : Nat → List Char → List Char
  | _, [] => []
  | skip + 1, _ :: cs => replaceFrom old new skip cs
  | 0, c :: cs =>
    if old.isPrefixOf (c :: cs) then new ++ replaceFrom old new (old.length - 1) cs
    else c :: replaceFrom old new 0 cs

def replace (old new s : List Char) : List Char :=
  replaceFrom old new 0 s

def contains (needle s : List Char) : Bool :=
  s.tails.any needle.isPrefixOf

/-- Whitespace runs become one space and the ends are stripped. -/
def collapseSpaces : List Char → List Char
  | [] => []
  | c :: cs =>
    if isSpace c then
      if (cs.head?.map isSpace).getD false then collapseSpaces cs else ' ' :: collapseSpaces cs
    else c :: collapseSpaces cs

def isLower (c : Char) : Bool :=
  'a' ≤ c && c ≤ 'z'

def isDigit (c : Char) : Bool :=
  '0' ≤ c && c ≤ '9'

/-- The characters of the ASCII word class of lower-cased text. -/
def isWord (c : Char) : Bool :=
  isLower c || isDigit c || c == '_'

def asciiLower (c : Char) : Char :=
  if 'A' ≤ c && c ≤ 'Z' then Char.ofNat (c.toNat + 32) else c

/-- Lower case as a case-insensitive ASCII pattern sees it: four other letters match i, k and s. -/
def foldCase (c : Char) : Char :=
  if c.toNat = 0x130 ∨ c.toNat = 0x131 then 'i' else if c.toNat = 0x17F then 's'
  else if c.toNat = 0x212A then 'k' else asciiLower c

/-- The maximal runs of characters in a class. -/
def runs (p : Char → Bool) (s : List Char) : List (List Char) :=
  (s.splitOnP fun c => !p c).filter fun run => !run.isEmpty

/-- A search for `phrase` that is not glued to a lower-case ASCII letter on either side. -/
def containsWord (phrase : List Char) : Option Char → List Char → Bool
  | _, [] => false
  | prev, c :: cs =>
    (!(prev.map isLower).getD false && phrase.isPrefixOf (c :: cs) &&
      !((((c :: cs).drop phrase.length).head?).map isLower).getD false) ||
    containsWord phrase (some c) cs

end Text
