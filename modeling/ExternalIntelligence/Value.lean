import Mathlib.Data.List.Sort
import Mathlib.Data.String.Basic
import ExternalIntelligence.Dict
import ExternalIntelligence.Text

set_option autoImplicit true

/-- The values a JSON document is made from, tuples kept apart from lists. -/
inductive Value where
  | none
  | bool (b : Bool)
  | int (i : Int)
  | float (repr : String)
  | str (s : String)
  | list (items : List Value)
  | tuple (items : List Value)
  | dict (fields : List (String × Value))
deriving Repr, Inhabited

namespace Value

mutual

/-- Structural comparison of two values. -/
def same : Value → Value → Bool
  | .none, .none => true
  | .bool a, .bool b => a == b
  | .int a, .int b => a == b
  | .float a, .float b => a == b
  | .str a, .str b => a == b
  | .list xs, .list ys => sameItems xs ys
  | .tuple xs, .tuple ys => sameItems xs ys
  | .dict xs, .dict ys => sameFields xs ys
  | _, _ => false

def sameItems : List Value → List Value → Bool
  | [], [] => true
  | x :: xs, y :: ys => same x y && sameItems xs ys
  | _, _ => false

def sameFields : List (String × Value) → List (String × Value) → Bool
  | [], [] => true
  | (k, x) :: xs, (l, y) :: ys => k == l && same x y && sameFields xs ys
  | _, _ => false

end

mutual

theorem same_iff : ∀ v w : Value, same v w = true ↔ v = w
  | .none, w | .bool _, w | .int _, w | .float _, w | .str _, w => by
    cases w <;> simp [same]
  | .list xs, w => by
    cases w <;> simp [same, sameItems_iff]
  | .tuple xs, w => by
    cases w <;> simp [same, sameItems_iff]
  | .dict xs, w => by
    cases w <;> simp [same, sameFields_iff]

theorem sameItems_iff : ∀ xs ys : List Value, sameItems xs ys = true ↔ xs = ys
  | [], ys => by cases ys <;> simp [sameItems]
  | x :: xs, ys => by
    cases ys with
    | nil => simp [sameItems]
    | cons y ys => simp [sameItems, same_iff x y, sameItems_iff xs ys]

theorem sameFields_iff : ∀ xs ys : List (String × Value), sameFields xs ys = true ↔ xs = ys
  | [], ys => by cases ys <;> simp [sameFields]
  | (k, x) :: xs, ys => by
    cases ys with
    | nil => simp [sameFields]
    | cons q ys =>
      obtain ⟨l, y⟩ := q
      simp [sameFields, same_iff x y, sameFields_iff xs ys]

end

instance : DecidableEq Value := fun v w => decidable_of_iff _ (same_iff v w)

/-- Python truth value. -/
def truthy : Value → Bool
  | .none => false
  | .bool b => b
  | .int i => i != 0
  | .float r => r != "0.0" && r != "-0.0"
  | .str s => s != ""
  | .list xs | .tuple xs => !xs.isEmpty
  | .dict fs => !fs.isEmpty

def isStr : Value → Bool
  | .str _ => true
  | _ => false

/-- The text of a string value, and the given text for any other value. -/
def strOr (default : String) : Value → String
  | .str s => s
  | _ => default

/-- The items of a list or tuple. -/
def items? : Value → Option (List Value)
  | .list xs | .tuple xs => some xs
  | _ => Option.none

/-- The strings among the items of a list or tuple. -/
def strings (v : Value) : List String :=
  (v.items?.getD []).filterMap fun
    | .str s => some s
    | _ => Option.none

/-- A Python list of strings. -/
def ofStrings (xs : List String) : Value :=
  .list (xs.map .str)

@[simp] theorem strings_ofStrings (xs : List String) : (ofStrings xs).strings = xs := by
  simp [strings, ofStrings, items?, List.filterMap_map]

mutual

/-- What a value becomes through JSON with sorted keys: tuples are lists, keys are ordered. -/
def canonical : Value → Value
  | .list xs => .list (canonicalItems xs)
  | .tuple xs => .list (canonicalItems xs)
  | .dict fs => .dict ((canonicalFields fs).insertionSort fun p q => p.1 ≤ q.1)
  | v => v

def canonicalItems : List Value → List Value
  | [] => []
  | x :: xs => canonical x :: canonicalItems xs

def canonicalFields : List (String × Value) → List (String × Value)
  | [] => []
  | (k, x) :: fs => (k, canonical x) :: canonicalFields fs

end

theorem canonicalItems_eq_map : ∀ xs : List Value, canonicalItems xs = xs.map canonical
  | [] => rfl
  | x :: xs => by rw [canonicalItems, canonicalItems_eq_map xs, List.map_cons]

theorem canonicalFields_eq_map : ∀ fs : List (String × Value),
    canonicalFields fs = fs.map fun p => (p.1, p.2.canonical)
  | [] => rfl
  | (k, x) :: fs => by rw [canonicalFields, canonicalFields_eq_map fs, List.map_cons]

/-- The JSON spelling of one character of a string, all but controls kept as they are. -/
def escape (c : Char) : List Char :=
  let hex (n : Nat) : Char := Nat.digitChar n
  if c = '"' then ['\\', '"'] else if c = '\\' then ['\\', '\\']
  else if c = '\n' then ['\\', 'n'] else if c = '\r' then ['\\', 'r']
  else if c = '\t' then ['\\', 't'] else if c.toNat = 8 then ['\\', 'b']
  else if c.toNat = 12 then ['\\', 'f']
  else if c.toNat < 32 then ['\\', 'u', '0', '0', hex (c.toNat / 16), hex (c.toNat % 16)]
  else [c]

def quote (s : String) : List Char :=
  ['"'] ++ (Text.chars s).flatMap escape ++ ['"']

mutual

/-- The compact JSON text of a value, its keys in the order the value has them. -/
def dump : Value → List Char
  | .none => ['n', 'u', 'l', 'l']
  | .bool true => ['t', 'r', 'u', 'e']
  | .bool false => ['f', 'a', 'l', 's', 'e']
  | .int i => Text.chars (toString i)
  | .float r => Text.chars r
  | .str s => quote s
  | .list xs | .tuple xs => ['['] ++ dumpItems xs ++ [']']
  | .dict fs => ['\x7b'] ++ dumpFields fs ++ ['\x7d']

def dumpItems : List Value → List Char
  | [] => []
  | [x] => dump x
  | x :: xs => dump x ++ [','] ++ dumpItems xs

def dumpFields : List (String × Value) → List Char
  | [] => []
  | [(k, x)] => quote k ++ [':'] ++ dump x
  | (k, x) :: fs => quote k ++ [':'] ++ dump x ++ [','] ++ dumpFields fs

end

/-- A line break and the blanks of an indentation level. -/
def newLine (level : Nat) : List Char :=
  '\n' :: List.replicate (2 * level) ' '

mutual

/-- The JSON text of a value with an indentation of two blanks. -/
def dumpIndent (level : Nat) : Value → List Char
  | .list [] | .tuple [] => ['[', ']']
  | .list xs | .tuple xs =>
    ['['] ++ dumpIndentItems (level + 1) xs ++ newLine level ++ [']']
  | .dict [] => ['\x7b', '\x7d']
  | .dict fs => ['\x7b'] ++ dumpIndentFields (level + 1) fs ++ newLine level ++ ['\x7d']
  | v => dump v

def dumpIndentItems (level : Nat) : List Value → List Char
  | [] => []
  | [x] => newLine level ++ dumpIndent level x
  | x :: xs => newLine level ++ dumpIndent level x ++ [','] ++ dumpIndentItems level xs

def dumpIndentFields (level : Nat) : List (String × Value) → List Char
  | [] => []
  | [(k, x)] => newLine level ++ quote k ++ [':', ' '] ++ dumpIndent level x
  | (k, x) :: fs =>
    newLine level ++ quote k ++ [':', ' '] ++ dumpIndent level x ++ [','] ++
      dumpIndentFields level fs

end

/-- The text of a file that holds a value: sorted keys, indentation, a final line break. -/
def fileText (v : Value) : List Char :=
  dumpIndent 0 v.canonical ++ ['\n']

/-- The number of bytes of a text in UTF-8. -/
def utf8Length (s : List Char) : Nat :=
  (s.map Char.utf8Size).sum

end Value
