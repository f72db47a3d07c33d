import ExternalIntelligence.JournalReading

namespace Value
set_option autoImplicit true

/-- The size of a field of an object on lines of its own. -/
def indentedField (level : Nat) (field : String × Value) : Nat :=
  utf8Length (newLine level) + utf8Length (quote field.1) + 2 +
    utf8Length (dumpIndent level field.2)

theorem utf8Length_blanks (n : Nat) : utf8Length (List.replicate n ' ') = n := by
  induction n with
  | zero => rfl
  | succ n ih =>
    rw [List.replicate_succ, utf8Length_cons, ih, show Char.utf8Size ' ' = 1 from rfl]
    omega

theorem utf8Length_newLine (level : Nat) : utf8Length (newLine level) = 2 * level + 1 := by
  rw [newLine, utf8Length_cons, utf8Length_blanks, show Char.utf8Size '\n' = 1 from rfl]
  omega

theorem utf8Length_dumpIndentFields (level : Nat) : ∀ fields : List (String × Value),
    utf8Length (dumpIndentFields level fields) =
      (fields.map (indentedField level)).sum + (fields.length - 1)
  | [] => rfl
  | [(key, value)] => by
    simp [dumpIndentFields, indentedField, show Char.utf8Size ':' = 1 from rfl,
      show Char.utf8Size ' ' = 1 from rfl]
    omega
  | (key, value) :: next :: fields => by
    have ih := utf8Length_dumpIndentFields level (next :: fields)
    simp only [List.map_cons, List.sum_cons, List.length_cons] at ih
    simp only [dumpIndentFields, utf8Length_append, utf8Length_cons, utf8Length_nil, List.map_cons,
      List.sum_cons, List.length_cons, indentedField, show Char.utf8Size ':' = 1 from rfl,
      show Char.utf8Size ',' = 1 from rfl, show Char.utf8Size ' ' = 1 from rfl] at ih ⊢
    omega

theorem utf8Length_dumpIndentItems (level : Nat) : ∀ items : List Value,
    utf8Length (dumpIndentItems level items) =
      (items.map fun item => utf8Length (newLine level) + utf8Length (dumpIndent level item)).sum +
        (items.length - 1)
  | [] => rfl
  | [item] => by simp [dumpIndentItems]
  | item :: next :: items => by
    have ih := utf8Length_dumpIndentItems level (next :: items)
    simp only [List.map_cons, List.sum_cons, List.length_cons] at ih
    simp only [dumpIndentItems, utf8Length_append, utf8Length_cons, utf8Length_nil, List.map_cons,
      List.sum_cons, List.length_cons, show Char.utf8Size ',' = 1 from rfl]
    omega

theorem two_le_utf8Length_quote (s : String) : 2 ≤ utf8Length (quote s) := by
  simp only [quote, utf8Length_append, utf8Length_cons, utf8Length_nil,
    show Char.utf8Size '"' = 1 from rfl]
  omega

theorem utf8Length_le (s : List Char) : utf8Length s ≤ 4 * s.length := by
  induction s with
  | nil => simp
  | cons c s ih =>
    have := Char.utf8Size_le_four c
    rw [utf8Length_cons, List.length_cons]
    omega

theorem utf8Length_escape_le (c : Char) : utf8Length (escape c) ≤ 24 := by
  have hlength : (escape c).length ≤ 6 := by
    unfold escape
    repeat' split
    all_goals simp
  have := utf8Length_le (escape c)
  omega

theorem utf8Length_quote_le (s : String) :
    utf8Length (quote s) ≤ 24 * (Text.chars s).length + 2 := by
  have h : ∀ cs : List Char, utf8Length (cs.flatMap escape) ≤ 24 * cs.length := by
    intro cs
    induction cs with
    | nil => simp
    | cons c cs ih =>
      have hc := utf8Length_escape_le c
      simp only [List.flatMap_cons, utf8Length_append, List.length_cons]
      omega
  have hs := h (Text.chars s)
  simp only [quote, utf8Length_append, utf8Length_cons, utf8Length_nil,
    show Char.utf8Size '"' = 1 from rfl]
  omega

theorem sum_texts (texts : List String) (f : Value → Nat) (k : Nat)
    (h : ∀ text, f (.str text) = utf8Length (quote text) + k) :
    ((texts.map Value.str).map f).sum =
      (texts.map fun text => utf8Length (quote text)).sum + k * texts.length := by
  induction texts with
  | nil => simp
  | cons text texts ih =>
    simp only [List.map_cons, List.sum_cons, List.length_cons, ih, h]
    rw [Nat.mul_succ]
    omega

theorem two_mul_le_sum (texts : List String) :
    2 * texts.length ≤ (texts.map fun text => utf8Length (quote text)).sum := by
  induction texts with
  | nil => simp
  | cons text texts ih =>
    have := two_le_utf8Length_quote text
    simp only [List.map_cons, List.sum_cons, List.length_cons]
    omega

/-- In an object of an object, indentation makes a flat value at most five times as long. -/
theorem utf8Length_dumpIndent_flat {v : Value} (h : v.Flat) :
    utf8Length (dumpIndent 2 v) ≤ 5 * utf8Length (dump v) := by
  have hlist : ∀ texts : List String, utf8Length (dumpIndent 2 (.list (texts.map .str))) ≤
      5 * utf8Length (dump (.list (texts.map .str))) := by
    intro texts
    cases texts with
    | nil => decide
    | cons text texts =>
      generalize ht : text :: texts = all
      have hne : 1 ≤ all.length := by
        rw [← ht, List.length_cons]
        omega
      have hmin := two_mul_le_sum all
      rw [utf8Length_dump_list, utf8Length_dumpItems, sum_texts all _ 0 (fun _ => by simp [dump])]
      have hindent : dumpIndent 2 (.list (all.map .str)) =
          ['['] ++ dumpIndentItems 3 (all.map .str) ++ newLine 2 ++ [']'] := by
        rw [← ht]
        rfl
      rw [hindent]
      simp only [utf8Length_append, utf8Length_cons, utf8Length_nil, utf8Length_newLine,
        utf8Length_dumpIndentItems, show Char.utf8Size '[' = 1 from rfl,
        show Char.utf8Size ']' = 1 from rfl, List.length_map]
      rw [sum_texts all _ 7 (fun text => by simp [dumpIndent, dump]; omega)]
      omega
  cases h with
  | none | bool b | int i | str s =>
    simp only [dumpIndent]
    omega
  | list texts => exact hlist texts
  | tuple texts =>
    have hdump : dump (.tuple (texts.map .str)) = dump (.list (texts.map .str)) := by
      rw [dump, dump]
    have hindent : dumpIndent 2 (.tuple (texts.map .str)) =
        dumpIndent 2 (.list (texts.map .str)) := by
      cases texts <;> rfl
    rw [hdump, hindent]
    exact hlist texts

theorem utf8Length_dumpIndent_dict (level : Nat) {fields : List (String × Value)}
    (h : fields ≠ []) : utf8Length (dumpIndent level (.dict fields)) =
      (fields.map (indentedField (level + 1))).sum + (fields.length - 1) + 2 * level + 3 := by
  have hindent : dumpIndent level (.dict fields) =
      ['\x7b'] ++ dumpIndentFields (level + 1) fields ++ newLine level ++ ['\x7d'] := by
    cases fields with
    | nil => exact absurd rfl h
    | cons field fields => rfl
  rw [hindent]
  simp only [utf8Length_append, utf8Length_cons, utf8Length_nil, utf8Length_newLine,
    utf8Length_dumpIndentFields, show Char.utf8Size '\x7b' = 1 from rfl,
    show Char.utf8Size '\x7d' = 1 from rfl]
  omega

/-- The text of an object of flat values that is itself a field. -/
theorem utf8Length_dumpIndent_object {fields : List (String × Value)}
    (h : ∀ p ∈ fields, p.2.Flat) :
    utf8Length (dumpIndent 1 (.dict fields)) ≤ 5 * utf8Length (dump (.dict fields)) := by
  have hsum : ∀ fields : List (String × Value), (∀ p ∈ fields, p.2.Flat) →
      (fields.map (indentedField 2)).sum + fields.length ≤ 5 * (fields.map fieldLength).sum := by
    intro fields h
    induction fields with
    | nil => simp
    | cons field fields ih =>
      have hfield := utf8Length_dumpIndent_flat (h field List.mem_cons_self)
      have hquote := two_le_utf8Length_quote field.1
      have hrest := ih fun p hp => h p (List.mem_cons_of_mem _ hp)
      simp only [List.map_cons, List.sum_cons, List.length_cons, indentedField, fieldLength,
        utf8Length_newLine]
      omega
  by_cases hne : fields = []
  · subst hne
    decide
  · have hfields := hsum fields h
    rw [utf8Length_dumpIndent_dict 1 hne, utf8Length_dump_dict, utf8Length_dumpFields]
    simp only [Nat.reduceAdd]
    omega

end Value

namespace ExternalIntelligence
set_option autoImplicit true

/-- The size of the file of an event of the first version. -/
theorem utf8Length_eventFile (he : Admitted P event) (h1 : event.schemaVersion = 1) :
    Value.utf8Length event.content.fileText ≤
      5 * maxEventPayloadBytes + Value.utf8Length (Value.quote event.occurredAt) +
        24 * ((Text.chars event.eventId).length + (Text.chars event.eventType).length +
          (Text.chars event.actor).length + (Text.chars event.machineId).length +
          (Text.chars event.integritySha256).length) + 500 := by
  have hpayload : Value.utf8Length (Value.dumpIndent 1 (.dict (Value.canonicalObject event.payload)))
      ≤ 5 * maxEventPayloadBytes := by
    have hflat : ∀ p ∈ Value.canonicalObject event.payload, p.2.Flat := by
      intro p hp
      obtain ⟨v, hv, hc⟩ := Value.mem_canonicalObject.1 hp
      obtain ⟨spec, _, hf, _⟩ := inspectEventPayload_known he.payload hv
      rw [← hc]
      exact canonical_flat hf
    have hsize := he.schema.payload
    rw [canonicalJson, Value.canonical_dict] at hsize
    have := Value.utf8Length_dumpIndent_object hflat
    omega
  have hcanonical : event.content.canonical = .dict (Value.canonicalObject event.toDict) := by
    rw [Event.content, Value.canonical_canonical, Value.canonical_dict]
  have hperm := Value.sortFields_perm (event.toDict.map fun p => (p.1, p.2.canonical))
  have hsum : ((Value.canonicalObject event.toDict).map (Value.indentedField 1)).sum =
      ((event.toDict.map fun p => (p.1, p.2.canonical)).map (Value.indentedField 1)).sum := by
    exact (hperm.map _).sum_nat
  have hlength : (Value.canonicalObject event.toDict).length = 8 := by
    rw [Value.canonicalObject, hperm.length_eq, List.length_map, Event.toDict, canonicalDict_v1 h1]
    rfl
  have hne : Value.canonicalObject event.toDict ≠ [] := by
    intro hnil
    rw [hnil] at hlength
    cases hlength
  rw [Value.fileText, hcanonical, Value.utf8Length_append, Value.utf8Length_dumpIndent_dict 0 hne,
    hsum, hlength, Event.toDict, canonicalDict_v1 h1]
  have hid := Value.utf8Length_quote_le event.eventId
  have htype := Value.utf8Length_quote_le event.eventType
  have hactor := Value.utf8Length_quote_le event.actor
  have hmachine := Value.utf8Length_quote_le event.machineId
  have hdigest := Value.utf8Length_quote_le event.integritySha256
  simp only [List.map_cons, List.map_nil, List.cons_append, List.nil_append, List.sum_cons,
    List.sum_nil, Value.indentedField, Value.utf8Length_newLine, Value.canonical_str,
    Value.canonical_dict]
  have hname : ∀ name ∈ ["schema_version", "event_id", "event_type", "occurred_at", "actor",
      "machine_id", "payload", "integrity_sha256"], Value.utf8Length (Value.quote name) ≤ 18 := by
    decide
  simp only [List.mem_cons, List.not_mem_nil, or_false, forall_eq_or_imp, forall_eq] at hname
  have hversion : Value.utf8Length (Value.dumpIndent 1 (Value.int 1).canonical) = 1 := by
    decide
  have hnewline : Value.utf8Length ['\n'] = 1 := rfl
  have htext : ∀ text, Value.dumpIndent 1 (.str text) = Value.quote text := fun _ => rfl
  rw [hversion, hnewline]
  simp only [htext]
  obtain ⟨h1, h2, h3, h4, h5, h6, h7, h8⟩ := hname
  omega

end ExternalIntelligence
