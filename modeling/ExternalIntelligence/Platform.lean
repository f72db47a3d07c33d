import ExternalIntelligence.Text
import ExternalIntelligence.Value

namespace ExternalIntelligence
set_option autoImplicit true

/-- What fromisoformat reads from a timestamp: its calendar date, whether it has an offset,
and the instant it denotes in microseconds. -/
structure Moment where
  year : Nat
  month : Nat
  aware : Bool
  instant : Int
deriving DecidableEq, Repr

/-- The parts of the Python runtime, and the secret rules, that the program takes as given. -/
structure Platform where
  /-- The lower-case hexadecimal SHA-256 digest of a text in UTF-8. -/
  sha256 : List Char → String
  nfkc : List Char → List Char
  casefold : List Char → List Char
  /-- Unicode categories Cc and Cf. -/
  isControl : Char → Bool
  /-- The first rule of `_SECRET_RULES` a normalized text matches. -/
  secretMatch : List Char → Option String
  fromisoformat : String → Option Moment
  /-- The UTC text of an instant. -/
  isoformat : Int → String
  /-- What int makes of a string. -/
  intOfText : String → Option Int
  /-- The text Python's str gives a float or a container. -/
  repr : Value → String
  machineId : String

/-- Sorted keys and compact separators, non-ASCII characters kept. -/
def canonicalJson (value : Value) : List Char :=
  value.canonical.dump

/-- A string is hashed as it is, any other value by its canonical JSON. -/
def stableHash (P : Platform) : Value → String
  | .str s => P.sha256 (Text.chars s)
  | v => P.sha256 (canonicalJson v)

def fingerprint (P : Platform) (value : Value) : String :=
  "sha256:" ++ stableHash P value

/-- Python's str. -/
def pyStr (P : Platform) : Value → String
  | .none => "None"
  | .bool true => "True"
  | .bool false => "False"
  | .int i => toString i
  | .str s => s
  | v => P.repr v

/-- The first characters of a text. -/
def takeText (n : Nat) (s : String) : String :=
  String.ofList ((Text.chars s).take n)

/-- Python's or on texts. -/
def orElse (a b : String) : String :=
  if a = "" then b else a

/-- The lowest hexadecimal digits of a number. -/
def hexDigits : Nat → Nat → List Char
  | 0, _ => []
  | digits + 1, n => hexDigits digits (n / 16) ++ [Nat.digitChar (n % 16)]

/-- The number a run of decimal digits spells. -/
def decimal (s : List Char) : Option Nat :=
  if s.isEmpty || !s.all Text.isDigit then none
  else some (s.foldl (fun n c => 10 * n + (c.toNat - 48)) 0)

/-- Reads `YYYY-MM-DDTHH:MM:SSZ`; the months are counted as 31 days. -/
def sampleMoment (s : List Char) : Option Moment := do
  let part (start length : Nat) := decimal ((s.drop start).take length)
  let year ← part 0 4
  let month ← part 5 2
  let day ← part 8 2
  let hour ← part 11 2
  let minute ← part 14 2
  let second ← part 17 2
  let days : Nat := (year * 12 + month) * 31 + day
  let seconds : Nat := (days * 24 + hour) * 3600 + minute * 60 + second
  if s.drop 19 = ['Z'] then some ⟨year, month, true, 1000000 * seconds⟩ else none

/-- A small platform on which the model can be evaluated. -/
def samplePlatform : Platform where
  sha256 text := String.ofList (hexDigits 64
    (text.foldl (fun n c => (n * 1114113 + c.toNat + 1) % 16 ^ 64) 0))
  nfkc text := text
  casefold text := text.map Text.asciiLower
  isControl c := c.toNat < 32 || (127 ≤ c.toNat && c.toNat < 160)
  secretMatch _ := none
  fromisoformat text := sampleMoment (Text.chars text)
  isoformat instant := toString instant
  intOfText text := (decimal (Text.chars text)).map Int.ofNat
  repr _ := ""
  machineId := "machine"

end ExternalIntelligence
