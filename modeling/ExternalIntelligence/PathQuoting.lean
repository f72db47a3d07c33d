import Mathlib.Data.List.Basic
import Mathlib.Data.List.Infix

namespace Quoting
set_option autoImplicit true

def octalDigit (n : Nat) : Char :=
  Char.ofNat (48 + n % 8)

/-- A byte that stands for itself in a quoted name. -/
def isPlain (b : UInt8) : Bool :=
  32 ≤ b && b ≤ 126 && b != 34 && b != 92

/-- What stands for a byte between the quotation marks of a quoted name. -/
def escape (b : UInt8) : List Char :=
  if isPlain b then [Char.ofNat b.toNat]
  else if b = 7 then ['\\', 'a']
  else if b = 8 then ['\\', 'b']
  else if b = 9 then ['\\', 't']
  else if b = 10 then ['\\', 'n']
  else if b = 11 then ['\\', 'v']
  else if b = 12 then ['\\', 'f']
  else if b = 13 then ['\\', 'r']
  else if b = 34 then ['\\', '"']
  else if b = 92 then ['\\', '\\']
  else ['\\', octalDigit (b.toNat / 64), octalDigit (b.toNat / 8), octalDigit b.toNat]

def escapeAll (name : List UInt8) : List Char :=
  name.flatMap escape

/-- The C-style quoting of a name: marks are put around it if a byte of it is escaped, or if it
has a space. -/
def quote (name : List UInt8) : List Char :=
  if name.all (fun b => isPlain b && b != 32) then escapeAll name
  else '"' :: (escapeAll name ++ ['"'])

/-- The characters quoted names are made of. -/
def isShown (c : Char) : Bool :=
  ' ' ≤ c && c ≤ '~'

theorem escape_plain (h : isPlain b = true) : escape b = [Char.ofNat b.toNat] := by
  rw [escape, if_pos h]

theorem escape_not_plain (h : isPlain b = false) :
    ∃ rest, rest ≠ [] ∧ escape b = '\\' :: rest := by
  rw [escape, if_neg (by rw [h]; exact Bool.false_ne_true)]
  split_ifs
  all_goals exact ⟨_, List.cons_ne_nil _ _, rfl⟩

theorem forall_byte {p : UInt8 → Prop} (h : ∀ n : Fin 256, p (UInt8.ofFin n)) (b : UInt8) : p b :=
  h b.toFin

theorem escape_shown (b : UInt8) : (escape b).all isShown = true := by
  revert b
  apply forall_byte
  decide +kernel

/-- A plain byte is written as its character, which no other byte is. -/
theorem escape_mark (b : UInt8) (h : '"' ∈ escape b) : isPlain b = false := by
  revert h
  revert b
  apply forall_byte
  decide +kernel

/-- A character of a quoted name that is plain is the encoding of itself. -/
theorem utf8EncodeChar_shown (h : isShown c = true) :
    String.utf8EncodeChar c = [c.toNat.toUInt8] := by
  rw [isShown, Bool.and_eq_true, decide_eq_true_eq, decide_eq_true_eq, Char.le_def,
    Char.le_def] at h
  have hlow : c.toNat ≤ 126 := h.2
  rw [String.utf8EncodeChar]
  rw [if_pos]
  · rfl
  · have : c.val.toNat = c.toNat := rfl
    omega

/-- The byte of a shown character is plain, unless it is a quotation mark or a backslash. -/
theorem isPlain_shown (h : isShown c = true) (hmark : c ≠ '"') (hslash : c ≠ '\\') :
    isPlain c.toNat.toUInt8 = true := by
  have hcode : ∀ n < 127, isShown (Char.ofNat n) = true → Char.ofNat n ≠ '"' →
      Char.ofNat n ≠ '\\' → isPlain n.toUInt8 = true := by
    decide
  have hlow : c.toNat < 127 := by
    rw [isShown, Bool.and_eq_true, decide_eq_true_eq, decide_eq_true_eq, Char.le_def,
      Char.le_def] at h
    exact Nat.lt_succ_of_le h.2
  have hc := hcode c.toNat hlow
  rw [Char.ofNat_toNat] at hc
  exact hc h hmark hslash

theorem length_escapeAll (name : List UInt8) : name.length ≤ (escapeAll name).length := by
  induction name with
  | nil => exact Nat.le_refl 0
  | cons b name ih =>
    rw [escapeAll, List.flatMap_cons, List.length_append, List.length_cons, ← escapeAll]
    have hpos : 0 < (escape b).length := by
      cases h : isPlain b with
      | true =>
        rw [escape_plain h]
        exact Nat.zero_lt_one
      | false =>
        obtain ⟨rest, hrest, he⟩ := escape_not_plain h
        rw [he]
        exact Nat.succ_pos _
    omega

/-- A name with a byte that is escaped gets longer. -/
theorem length_escapeAll_lt (hb : b ∈ name) (h : isPlain b = false) :
    name.length < (escapeAll name).length := by
  obtain ⟨front, back, rfl⟩ := List.append_of_mem hb
  obtain ⟨rest, hrest, he⟩ := escape_not_plain h
  have hfront := length_escapeAll front
  have hback := length_escapeAll back
  have hpos : 0 < rest.length := List.length_pos_iff.2 hrest
  rw [escapeAll] at hfront hback ⊢
  rw [List.flatMap_append, List.flatMap_cons, he]
  simp only [List.length_append, List.length_cons]
  omega

theorem escapeAll_plain (h : name.all isPlain = true) :
    escapeAll name = name.map fun b => Char.ofNat b.toNat := by
  induction name with
  | nil => rfl
  | cons b name ih =>
    rw [List.all_cons, Bool.and_eq_true] at h
    rw [escapeAll, List.flatMap_cons, escape_plain h.1, List.map_cons, ← ih h.2]
    rfl

theorem escapeAll_shown (name : List UInt8) : (escapeAll name).all isShown = true := by
  rw [escapeAll, List.all_flatMap, List.all_eq_true]
  exact fun b _ => escape_shown b

end Quoting
