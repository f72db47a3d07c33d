import Mathlib.Data.Finset.Card
import Mathlib.Data.Rat.Defs
import ExternalIntelligence.Models

namespace ExternalIntelligence
set_option autoImplicit true

def aliasGroups : List (String × List String) :=
  [("write", ["書き込み", "書込", "書いた", "入力", "更新", "編集", "write", "writing", "edit",
      "edited"]),
    ("reload", ["再読み込み", "再読込", "読み直し", "読み込ん", "再確認", "reload", "refresh",
      "read again"]),
    ("target", ["対象範囲", "対象箇所", "対象部分", "シート", "worksheet", "spreadsheet",
      "target"]),
    ("formula", ["数式", "式", "formula", "formulas"]),
    ("verify", ["確認", "検証", "チェック", "verify", "validate", "validation", "check"])]

def negationPhrases : List String :=
  ["してはいけない", "してはならない", "禁止", "不要", "避ける", "避け", "無効", "失敗", "誤り",
    "never", "do not", "does not", "doesn't", "must not", "not", "cannot", "can't", "disable",
    "disabled", "avoid", "failed", "failure"]

def positivePhrases : List String :=
  ["推奨", "有効", "成功", "改善", "必須", "必要", "確認する", "検証する", "実施する",
    "使用する", "することで", "should", "recommended", "success", "succeeded", "improve",
    "improved", "must", "enable", "enabled", "use", "works", "passed"]

/-- The words whose scope the positive phrases are not looked for in. -/
def maskedPhrases : List String :=
  ["never", "do not", "does not", "doesn't", "must not", "not", "cannot", "can't", "disable",
    "disabled", "avoid"]

def isJapanese (c : Char) : Bool :=
  let n := c.toNat
  (0x3040 ≤ n && n ≤ 0x30FF) || (0x3400 ≤ n && n ≤ 0x4DBF) || (0x4E00 ≤ n && n ≤ 0x9FFF)

/-- Drops the whitespace on both sides of the characters in a class. -/
def tighten (cls : Char → Bool) : Bool → List Char → List Char
  | _, [] => []
  | afterCls, c :: cs =>
    if Text.isSpace c && (afterCls || ((cs.dropWhile Text.isSpace).head?.map cls).getD false) then
      tighten cls afterCls cs
    else c :: tighten cls (cls c) cs

def normalizeClaim (P : Platform) (text : List Char) : List Char :=
  let value := Text.replace ['\r'] ['\n'] (Text.replace ['\r', '\n'] ['\n'] (P.nfkc text))
  let value := Text.strip (Text.collapseSpaces value)
  let value := tighten (",、。．.!！?？:：;；/／".toList.contains ·) false value
  let value := tighten ("()[]\x7b\x7d「」『』".toList.contains ·) false value
  let value := tighten ("+＝=".toList.contains ·) false value
  value.map Text.asciiLower

def claimFingerprint (P : Platform) (text : List Char) : String :=
  P.sha256 (normalizeClaim P text)

def longestAlias (group : String × List String) : Nat :=
  (group.2.map String.length).foldr max 0

/-- The groups by their longest alias, longest first, and each group's aliases likewise. -/
def sortedAliasGroups : List (String × List String) :=
  (aliasGroups.insertionSort fun g h =>
    longestAlias h < longestAlias g ∨ (longestAlias h = longestAlias g ∧ g.1 ≤ h.1)).map
    fun g => (g.1, g.2.insertionSort fun a b =>
      b.length < a.length ∨ (b.length = a.length ∧ a ≤ b))

def withAliases (P : Platform) (text : List Char) : List Char :=
  let replaced := sortedAliasGroups.foldl (fun value group =>
    group.2.foldl (fun value surface =>
      Text.replace (surface.toList.map Text.asciiLower) ([' '] ++ group.1.toList ++ [' ']) value)
      value) (normalizeClaim P text)
  Text.strip (Text.collapseSpaces replaced)

def canonicalAliases : Finset (List Char) :=
  (aliasGroups.map fun g => Text.chars g.1).toFinset

/-- The two-character windows of a run, and a run of one character itself. -/
def bigrams : List Char → List (List Char)
  | [] => []
  | [c] => [[c]]
  | [c, d] => [[c, d]]
  | c :: d :: e :: cs => [c, d] :: bigrams (d :: e :: cs)

def tokenizeSimilarity (P : Platform) (text : List Char) : Finset (List Char) :=
  let value := withAliases P text
  let words := (Text.runs Text.isWord value).toFinset
  if 2 ≤ (words ∩ canonicalAliases).card then words
  else words ∪ ((Text.runs isJapanese value).flatMap bigrams).toFinset

def jaccard [DecidableEq α] (left right : Finset α) : Rat :=
  if left = ∅ ∧ right = ∅ then 1
  else ((left ∩ right).card : Rat) / ((left ∪ right).card : Rat)

def similarity (P : Platform) (left right : List Char) : Rat :=
  if claimFingerprint P left = claimFingerprint P right then 1
  else jaccard (tokenizeSimilarity P left) (tokenizeSimilarity P right)

def aliasMatch (P : Platform) (left right : List Char) : Bool :=
  2 ≤ ((tokenizeSimilarity P left ∩ tokenizeSimilarity P right) ∩ canonicalAliases).card

/-- A phrase with a non-ASCII character is found anywhere, any other one as a word. -/
def hasPhrase (value : List Char) (phrase : String) : Bool :=
  if (Text.chars phrase).any (127 < ·.toNat) then Text.contains (Text.chars phrase) value
  else Text.containsWord (Text.chars phrase) none value

/-- The length of the masked phrase a text starts with, the word after it included. -/
def maskedLength (s : List Char) : Option Nat :=
  maskedPhrases.findSome? fun phrase =>
    if (Text.chars phrase).isPrefixOf s then
      let rest := s.drop phrase.length
      let spaces := rest.takeWhile Text.isSpace
      let word := (rest.drop spaces.length).takeWhile Text.isWord
      if !spaces.isEmpty && !word.isEmpty then some (phrase.length + spaces.length + word.length)
      else if (rest.head?.map Text.isLower).getD false then none
      else some phrase.length
    else none

/-- The text with each masked phrase replaced by a space; `skip` counts the rest of a match. -/
def maskPhrases : Nat → Option Char → List Char → List Char
  | _, _, [] => []
  | skip + 1, _, c :: cs => maskPhrases skip (some c) cs
  | 0, prev, c :: cs =>
    match if (prev.map Text.isLower).getD false then none else maskedLength (c :: cs) with
    | some n => ' ' :: maskPhrases (n - 1) (some c) cs
    | none => c :: maskPhrases 0 (some c) cs

inductive Polarity where
  | supports
  | contradicts
  | mixed
deriving DecidableEq, Repr

def classifyPolarity (P : Platform) (text : List Char) : Polarity :=
  let value := normalizeClaim P text
  let hasNegative := negationPhrases.any (hasPhrase value)
  let hasPositive := positivePhrases.any (hasPhrase (maskPhrases 0 none value))
  if hasNegative && hasPositive then .mixed else if hasNegative then .contradicts else .supports

def versionMarkers : List String :=
  ["version", "ver", "v", "release", "対応", "互換", "バージョン"]

/-- Digits and at most `groups` more groups of a dot and digits. -/
def versionDigits : Nat → List Char → List Char
  | 0, s => s.takeWhile Text.isDigit
  | groups + 1, s =>
    let digits := s.takeWhile Text.isDigit
    match s.drop digits.length with
    | '.' :: c :: rest =>
      if !digits.isEmpty && Text.isDigit c then digits ++ ['.'] ++ versionDigits groups (c :: rest)
      else digits
    | _ => digits

def versionAt (s : List Char) : Option (List Char) :=
  versionMarkers.findSome? fun marker =>
    if (Text.chars marker).isPrefixOf (s.map Text.foldCase) then
      let rest := (s.drop marker.length).dropWhile fun c =>
        Text.isSpace c || (Text.chars ":=/-").contains c
      let digits := versionDigits 3 rest
      if digits.isEmpty then none else some digits
    else none

def versionSearch : Option Char → List Char → Option (List Char)
  | _, [] => none
  | prev, c :: cs =>
    match if (prev.map fun p => Text.isLower (Text.foldCase p) || Text.isDigit p).getD false then none
      else versionAt (c :: cs) with
    | some version => some version
    | none => versionSearch (some c) cs

def extractVersion (P : Platform) (text : List Char) : Option (List Char) :=
  versionSearch none (normalizeClaim P text)

/-- The outcome a text reports: negative, positive or none. -/
def extractOutcome (P : Platform) (text : List Char) : Option Bool :=
  let value := normalizeClaim P text
  if ["failed", "failure", "error", "ng", "不成功", "失敗", "否定"].any
      fun token => Text.contains (Text.chars token) value then some false
  else if ["success", "succeeded", "passed", "ok", "改善", "成功", "有効", "positive"].any
      fun token => Text.contains (Text.chars token) value then some true
  else none

end ExternalIntelligence
