import ExternalIntelligence.Changeset
import ExternalIntelligence.Occurrences

namespace ExternalIntelligence
set_option autoImplicit true

open Occurrences

def beginMarker : List Char :=
  Text.chars "<!-- external-intelligence:begin v1 -->"

def endMarker : List Char :=
  Text.chars "<!-- external-intelligence:end v1 -->"

/-- Where the managed block of a text starts and where its end marker does. -/
def markerBounds (existing : List Char) : Except Raised (Option (Nat × Nat)) :=
  let begins := occurrences beginMarker existing
  let ends := occurrences endMarker existing
  if begins.isEmpty && ends.isEmpty then .ok none
  else match begins, ends with
    | [first], [last] =>
      let afterBegin := first + beginMarker.length
      if last < first ||
          !(occurrences beginMarker ((existing.take last).drop afterBegin)).isEmpty ||
          !(occurrences endMarker (existing.drop (last + endMarker.length))).isEmpty then
        .error (valueError "AGENTS_MARKER_CORRUPT")
      else .ok (some (first, last))
    | _, _ => .error (valueError "AGENTS_MARKER_CORRUPT")

def isLineEnd (c : Char) : Bool :=
  c == '\n' || c == '\r'

def endsLine (text : List Char) : Bool :=
  text.getLast?.any isLineEnd

/-- What is put between a text and the block after it. -/
def separator (existing : List Char) : List Char :=
  if existing.isEmpty || endsLine existing then [] else ['\n']

def mergeBlock (existing renderedBlock : List Char) : Except Raised (List Char) :=
  if count beginMarker renderedBlock ≠ 1 ∨ count endMarker renderedBlock ≠ 1 then
    .error (valueError "MANAGED_BLOCK_INVALID")
  else (markerBounds existing).map fun bounds =>
    match bounds with
    | none => existing ++ separator existing ++ renderedBlock
    | some (start, stop) =>
      let endMarkerEnd := stop + endMarker.length
      let current := (existing.take endMarkerEnd).drop start
      if current = renderedBlock ∨ current = renderedBlock.rdropWhile isLineEnd then existing
      else existing.take start ++ renderedBlock ++ existing.drop endMarkerEnd

def mergeGlobalAgents (existing renderedBlock : List Char) : Except Raised (List Char) :=
  mergeBlock existing renderedBlock

structure AgentsMergeResult where
  content : List Char
  changed : Bool
  originalSha256 : Option String
  installedSha256 : String
deriving DecidableEq, Repr

def sha256Text (P : Platform) (text : List Char) : String :=
  P.sha256 text

/-- Merges a block into a file, which may not be there. -/
def mergeManagedContext (P : Platform) (file : Option (List Char)) (rendered : List Char)
    (markerId : String) : Except Raised AgentsMergeResult :=
  if markerId ≠ "v1" then .error (valueError "MANAGED_MARKER_VERSION_UNSUPPORTED")
  else
    let existing := file.getD []
    (mergeBlock existing rendered).map fun content =>
      ⟨content, decide (content ≠ existing), file.map (sha256Text P), sha256Text P content⟩

def removeGlobalAgents (existing : List Char) : Except Raised (List Char) :=
  (markerBounds existing).map fun bounds =>
    match bounds with
    | none => existing
    | some (start, stop) =>
      let remainder := existing.drop (stop + endMarker.length)
      existing.take start ++
        (if ['\r', '\n'].isPrefixOf remainder then remainder.drop 2
        else if ['\n'].isPrefixOf remainder then remainder.drop 1
        else remainder)

def removeManagedContext (existing : List Char) (markerId : String) : Except Raised (List Char) :=
  if markerId ≠ "v1" then .error (valueError "MANAGED_MARKER_VERSION_UNSUPPORTED")
  else removeGlobalAgents existing

theorem headed_beginMarker : Headed '<' beginMarker :=
  ⟨beginMarker.tail, rfl, by decide⟩

theorem headed_endMarker : Headed '<' endMarker :=
  ⟨endMarker.tail, rfl, by decide⟩

theorem isPrefixOf_self_append (marker text : List Char) :
    marker.isPrefixOf (marker ++ text) = true :=
  List.isPrefixOf_iff_prefix.2 (List.prefix_append _ _)

theorem begin_not_prefix (text : List Char) : beginMarker.isPrefixOf (endMarker ++ text) = false :=
  rfl

theorem end_not_prefix (text : List Char) : endMarker.isPrefixOf (beginMarker ++ text) = false :=
  rfl

/-- A text with neither of the markers. -/
def Unmarked (text : List Char) : Prop :=
  occurrences beginMarker text = [] ∧ occurrences endMarker text = []

/-- A block as it is rendered: one end marker after the begin marker, and a line break behind it
or not. -/
structure ManagedBlock where
  body : List Char
  newline : Bool
  closed : occurrences endMarker body = []

/-- A block without the line break behind it. -/
def ManagedBlock.core (b : ManagedBlock) : List Char :=
  beginMarker ++ (b.body ++ endMarker)

def ManagedBlock.tail (b : ManagedBlock) : List Char :=
  if b.newline then ['\n'] else []

def ManagedBlock.text (b : ManagedBlock) : List Char :=
  b.core ++ b.tail

/-- A block whose body has no begin marker. -/
def ManagedBlock.Single (b : ManagedBlock) : Prop :=
  occurrences beginMarker b.body = []

theorem unmarked_append_foreign {tail : List Char} (h : Unmarked text)
    (hbegin : ∀ x ∈ tail, x ∉ beginMarker) (hend : ∀ x ∈ tail, x ∉ endMarker) :
    Unmarked (text ++ tail) := by
  apply And.intro
  · rw [occurrences_append_foreign headed_beginMarker.ne_nil hbegin, h.1]
  · rw [occurrences_append_foreign headed_endMarker.ne_nil hend, h.2]

theorem unmarked_append_newlines (h : Unmarked text) (n : Nat) :
    Unmarked (text ++ List.replicate n '\n') := by
  apply unmarked_append_foreign h
  · intro x hx
    rw [List.eq_of_mem_replicate hx]
    decide
  · intro x hx
    rw [List.eq_of_mem_replicate hx]
    decide

theorem unmarked_nil : Unmarked [] :=
  ⟨rfl, rfl⟩

theorem unmarked_newlines (n : Nat) : Unmarked (List.replicate n '\n') := by
  rw [← List.nil_append (List.replicate n '\n')]
  exact unmarked_append_newlines unmarked_nil n

theorem unmarked_separator (h : Unmarked text) : Unmarked (text ++ separator text) := by
  rw [separator]
  split
  · rwa [List.append_nil]
  · exact unmarked_append_newlines h 1

theorem ManagedBlock.tail_eq (b : ManagedBlock) :
    b.tail = List.replicate (if b.newline then 1 else 0) '\n' := by
  rw [tail]
  cases b.newline <;> rfl

/-- The begin markers of a text with a block are the ones before it, its own, the ones in its body
and the ones behind it. -/
theorem occurrences_begin (before : List Char) (b : ManagedBlock) (after : List Char) :
    occurrences beginMarker (before ++ (b.core ++ after)) = occurrences beginMarker before ++
      before.length ::
      ((occurrences beginMarker b.body).map (before.length + beginMarker.length + ·) ++
        (occurrences beginMarker after).map
          (before.length + beginMarker.length + b.body.length + endMarker.length + ·)) := by
  rw [ManagedBlock.core, List.append_assoc,
    occurrences_append_marker headed_beginMarker headed_beginMarker,
    occurrences_marker headed_beginMarker headed_beginMarker, isPrefixOf_self_append, if_pos rfl,
    List.append_assoc, occurrences_append_marker headed_beginMarker headed_endMarker,
    occurrences_marker headed_beginMarker headed_endMarker, begin_not_prefix,
    if_neg Bool.false_ne_true, List.nil_append]
  simp only [List.map_append, List.map_map, Function.comp_def, List.map_cons, Nat.add_zero,
    List.singleton_append, Nat.add_assoc]

/-- The end markers of a text with a block are the ones before it, its own and the ones behind
it. -/
theorem occurrences_end (before : List Char) (b : ManagedBlock) (after : List Char) :
    occurrences endMarker (before ++ (b.core ++ after)) = occurrences endMarker before ++
      (before.length + beginMarker.length + b.body.length) ::
        (occurrences endMarker after).map
          (before.length + beginMarker.length + b.body.length + endMarker.length + ·) := by
  rw [ManagedBlock.core, List.append_assoc,
    occurrences_append_marker headed_endMarker headed_beginMarker,
    occurrences_marker headed_endMarker headed_beginMarker, end_not_prefix,
    if_neg Bool.false_ne_true, List.nil_append, List.append_assoc,
    occurrences_append_marker headed_endMarker headed_endMarker, b.closed, List.nil_append,
    occurrences_marker headed_endMarker headed_endMarker, isPrefixOf_self_append, if_pos rfl]
  simp only [List.map_map, Function.comp_def, List.map_cons, Nat.add_zero,
    List.singleton_append, Nat.add_assoc]

theorem ManagedBlock.length_core (b : ManagedBlock) :
    b.core.length = beginMarker.length + b.body.length + endMarker.length := by
  rw [core, List.length_append, List.length_append, Nat.add_assoc]

/-- The block of a text that has one is found. -/
theorem markerBounds_block (hbefore : Unmarked before) (b : ManagedBlock) (hsingle : b.Single)
    (hafter : Unmarked after) : markerBounds (before ++ (b.core ++ after)) =
      .ok (some (before.length, before.length + beginMarker.length + b.body.length)) := by
  have hbegin := occurrences_begin before b after
  rw [hbefore.1, hsingle, hafter.1, List.map_nil, List.map_nil, List.append_nil,
    List.nil_append] at hbegin
  have hend := occurrences_end before b after
  rw [hbefore.2, hafter.2, List.map_nil, List.nil_append] at hend
  have hbody : ((before ++ (b.core ++ after)).take
      (before.length + beginMarker.length + b.body.length)).drop
        (before.length + beginMarker.length) = b.body := by
    rw [ManagedBlock.core, ← List.append_assoc, ← List.append_assoc, ← List.append_assoc,
      List.append_assoc (_ ++ b.body), ← List.length_append, ← List.length_append, List.take_left,
      List.drop_left]
  have hrest : (before ++ (b.core ++ after)).drop
      (before.length + beginMarker.length + b.body.length + endMarker.length) = after := by
    rw [← List.append_assoc, Nat.add_assoc, Nat.add_assoc, ← Nat.add_assoc beginMarker.length,
      ← b.length_core, ← List.length_append, List.drop_left]
  rw [markerBounds, hbegin, hend]
  apply (if_neg Bool.false_ne_true).trans
  apply if_neg
  rw [hbody, hrest, hsingle, hafter.2, decide_eq_false (by omega)]
  exact Bool.false_ne_true

theorem markerBounds_unmarked (h : Unmarked text) : markerBounds text = .ok none := by
  rw [markerBounds, h.1, h.2]
  rfl

theorem unmarked_tail (b : ManagedBlock) : Unmarked b.tail := by
  rw [b.tail_eq]
  exact unmarked_newlines _

theorem ManagedBlock.count_end (b : ManagedBlock) : count endMarker b.text = 1 := by
  have hend := occurrences_end [] b b.tail
  rw [(unmarked_tail b).2, occurrences_nil, List.map_nil, List.nil_append, List.nil_append] at hend
  rw [count_eq headed_endMarker, text, hend, List.length_singleton]

theorem ManagedBlock.count_begin (b : ManagedBlock) :
    count beginMarker b.text = 1 ↔ b.Single := by
  have hbegin := occurrences_begin [] b b.tail
  rw [(unmarked_tail b).1, occurrences_nil, List.map_nil, List.nil_append, List.nil_append,
    List.append_nil] at hbegin
  rw [count_eq headed_beginMarker, text, hbegin, List.length_cons, List.length_map, Single,
    Nat.add_eq_right, List.length_eq_zero_iff]

theorem mergeBlock_eq (existing : List Char) (hsingle : ManagedBlock.Single b) :
    mergeBlock existing b.text = (markerBounds existing).map fun bounds =>
      match bounds with
      | none => existing ++ separator existing ++ b.text
      | some (start, stop) =>
        let endMarkerEnd := stop + endMarker.length
        let current := (existing.take endMarkerEnd).drop start
        if current = b.text ∨ current = b.text.rdropWhile isLineEnd then existing
        else existing.take start ++ b.text ++ existing.drop endMarkerEnd := by
  rw [mergeBlock, if_neg]
  rw [not_or, not_not, not_not]
  exact ⟨b.count_begin.2 hsingle, b.count_end⟩

theorem single_of_mergeBlock {merged : List Char}
    (h : mergeBlock existing (ManagedBlock.text b) = .ok merged) :
    b.Single := by
  rw [mergeBlock] at h
  split at h
  · cases h
  · rename_i hcounts
    rw [not_or, not_not, not_not] at hcounts
    exact b.count_begin.1 hcounts.1

theorem mergeBlock_unmarked (h : Unmarked existing) (hsingle : ManagedBlock.Single b) :
    mergeBlock existing b.text = .ok (existing ++ separator existing ++ (b.core ++ b.tail)) := by
  rw [mergeBlock_eq existing hsingle, markerBounds_unmarked h]
  rfl

theorem rdropWhile_core (b : ManagedBlock) : b.core.rdropWhile isLineEnd = b.core := by
  have hlast : b.core = (beginMarker ++ (b.body ++ endMarker.dropLast)) ++ ['>'] := by
    rw [ManagedBlock.core, List.append_assoc, List.append_assoc]
    rfl
  rw [hlast]
  exact List.rdropWhile_concat_neg _ _ _ (by decide)

theorem rdropWhile_text (b : ManagedBlock) : b.text.rdropWhile isLineEnd = b.core := by
  rw [ManagedBlock.text, ManagedBlock.tail]
  cases b.newline with
  | true => exact (List.rdropWhile_concat_pos _ _ _ rfl).trans (rdropWhile_core b)
  | false =>
    apply Eq.trans _ (rdropWhile_core b)
    exact congrArg (List.rdropWhile isLineEnd) (List.append_nil b.core)

theorem ManagedBlock.core_inj {b c : ManagedBlock} (h : b.core = c.core) : b.body = c.body :=
  List.append_cancel_right (List.append_cancel_left h)

/-- A block is taken to be in place when the one in place has its body. -/
theorem core_eq_text_or {b c : ManagedBlock} :
    (b.core = c.text ∨ b.core = c.text.rdropWhile isLineEnd) ↔ b.body = c.body := by
  rw [rdropWhile_text]
  apply Iff.intro
  · intro h
    cases h with
    | inl h =>
      have hstrip := congrArg (List.rdropWhile isLineEnd) h
      rw [rdropWhile_core, rdropWhile_text] at hstrip
      exact ManagedBlock.core_inj hstrip
    | inr h => exact ManagedBlock.core_inj h
  · intro h
    apply Or.inr
    rw [ManagedBlock.core, h, ManagedBlock.core]

theorem take_block (before : List Char) (b : ManagedBlock) (after : List Char) :
    (before ++ (b.core ++ after)).take (before.length + beginMarker.length + b.body.length +
      endMarker.length) = before ++ b.core := by
  rw [← List.append_assoc, Nat.add_assoc, Nat.add_assoc, ← Nat.add_assoc beginMarker.length,
    ← b.length_core, ← List.length_append, List.take_left]

theorem drop_block (before : List Char) (b : ManagedBlock) (after : List Char) :
    (before ++ (b.core ++ after)).drop (before.length + beginMarker.length + b.body.length +
      endMarker.length) = after := by
  rw [← List.append_assoc, Nat.add_assoc, Nat.add_assoc, ← Nat.add_assoc beginMarker.length,
    ← b.length_core, ← List.length_append, List.drop_left]

/-- Merging into a text with a block puts the new block in its place; what comes behind the end
marker stays. -/
theorem mergeBlock_block (hbefore : Unmarked before) (hb : ManagedBlock.Single b)
    (hafter : Unmarked after) (hc : ManagedBlock.Single c) :
    mergeBlock (before ++ (b.core ++ after)) c.text =
      .ok (before ++ (c.core ++ ((if b.body = c.body then [] else c.tail) ++ after))) := by
  rw [mergeBlock_eq _ hc, markerBounds_block hbefore b hb hafter]
  apply congrArg Except.ok
  dsimp only
  rw [take_block, drop_block, List.drop_left, List.take_left]
  by_cases hbody : b.body = c.body
  · rw [if_pos (core_eq_text_or.2 hbody), if_pos hbody, ManagedBlock.core, hbody,
      ← ManagedBlock.core, List.nil_append]
  · rw [if_neg fun h => hbody (core_eq_text_or.1 h), if_neg hbody, ManagedBlock.text,
      List.append_assoc, List.append_assoc]

/-- The line breaks that merging blocks one after the other leaves behind the last one. -/
def lineBreaks (last : Option (List Char)) : List ManagedBlock → Nat
  | [] => 0
  | b :: bs => (if b.newline && last != some b.body then 1 else 0) + lineBreaks (some b.body) bs

def mergeAll (existing : List Char) (blocks : List ManagedBlock) : Except Raised (List Char) :=
  (blocks.map ManagedBlock.text).foldlM mergeGlobalAgents existing

/-- Blocks merged into a text with a block leave the last one, and their line breaks behind it. -/
theorem mergeAll_block (hbefore : Unmarked before) (hb : ManagedBlock.Single b)
    (hblocks : ∀ c ∈ blocks, ManagedBlock.Single c) (n : Nat) :
    mergeAll (before ++ (b.core ++ List.replicate n '\n')) blocks =
      .ok (before ++ ((blocks.getLastD b).core ++
        List.replicate (lineBreaks (some b.body) blocks + n) '\n')) := by
  induction blocks generalizing b n with
  | nil =>
    rw [lineBreaks, Nat.zero_add]
    rfl
  | cons c blocks ih =>
    have hc := hblocks c List.mem_cons_self
    rw [mergeAll, List.map_cons, List.foldlM_cons, mergeGlobalAgents,
      mergeBlock_block hbefore hb (unmarked_newlines n) hc]
    have htail : (if b.body = c.body then [] else c.tail) ++ List.replicate n '\n' =
        List.replicate ((if c.newline && some b.body != some c.body then 1 else 0) + n) '\n' := by
      rw [List.replicate_add, c.tail_eq]
      by_cases hbody : b.body = c.body
      · rw [if_pos hbody, hbody, bne_self_eq_false, Bool.and_false]
        rfl
      · rw [if_neg hbody, bne_iff_ne.2 fun h => hbody (Option.some.inj h), Bool.and_true]
    rw [htail]
    have hrest := ih hc (fun d hd => hblocks d (List.mem_cons_of_mem _ hd))
      ((if c.newline && some b.body != some c.body then 1 else 0) + n)
    rw [lineBreaks, Nat.add_comm _ (lineBreaks _ _), Nat.add_assoc, List.getLastD_cons]
    exact hrest

theorem mergeAll_unmarked (h : Unmarked existing) (blocks : List ManagedBlock) (b : ManagedBlock)
    (hblocks : ∀ c ∈ blocks ++ [b], ManagedBlock.Single c) :
    mergeAll existing (blocks ++ [b]) = .ok (existing ++ separator existing ++
      (b.core ++ List.replicate (lineBreaks none (blocks ++ [b])) '\n')) := by
  obtain ⟨c, rest, hrest, hlast⟩ :
      ∃ c rest, blocks ++ [b] = c :: rest ∧ rest.getLastD c = b := by
    cases blocks with
    | nil => exact ⟨b, [], rfl, rfl⟩
    | cons c blocks => exact ⟨c, blocks ++ [b], rfl, List.getLastD_concat⟩
  rw [hrest] at hblocks ⊢
  have hc := hblocks c List.mem_cons_self
  have hall := mergeAll_block (unmarked_separator h) hc
    (fun d hd => hblocks d (List.mem_cons_of_mem _ hd)) (if c.newline then 1 else 0)
  rw [mergeAll, List.map_cons, List.foldlM_cons, mergeGlobalAgents, mergeBlock_unmarked h hc,
    c.tail_eq]
  apply hall.trans
  rw [hlast, lineBreaks, Nat.add_comm, bne_iff_ne.2 (Option.some_ne_none c.body).symm,
    Bool.and_true]

theorem single_of_mergeAll {merged : List Char} (h : mergeAll existing blocks = .ok merged) :
    ∀ c ∈ blocks, ManagedBlock.Single c := by
  induction blocks generalizing existing with
  | nil => exact fun c hc => (List.not_mem_nil hc).elim
  | cons b blocks ih =>
    rw [mergeAll, List.map_cons] at h
    obtain ⟨next, hnext, hrest⟩ := Except.foldlM_cons_ok.1 h
    exact List.forall_mem_cons.2 ⟨single_of_mergeBlock hnext, ih hrest⟩

theorem removeGlobalAgents_block (hbefore : Unmarked before) (hb : ManagedBlock.Single b)
    (n : Nat) : removeGlobalAgents (before ++ (b.core ++ List.replicate n '\n')) =
      .ok (before ++ List.replicate (n - 1) '\n') := by
  rw [removeGlobalAgents, markerBounds_block hbefore b hb (unmarked_newlines n)]
  apply congrArg Except.ok
  dsimp only
  rw [drop_block, List.take_left]
  cases n <;> rfl

/-- A file into which blocks were merged is not changed by the last one again. -/
theorem mergeManagedContext_again {merged : List Char} (h : Unmarked existing)
    (blocks : List ManagedBlock) (b : ManagedBlock) (hall : mergeAll existing (blocks ++ [b]) = .ok merged) :
    mergeManagedContext P (some merged) b.text "v1" =
      .ok ⟨merged, false, some (sha256Text P merged), sha256Text P merged⟩ := by
  have hsingle := single_of_mergeAll hall
  have hb := hsingle b (List.mem_append_right _ List.mem_cons_self)
  rw [mergeAll_unmarked h blocks b hsingle] at hall
  have hagain := mergeBlock_block (unmarked_separator h) hb
    (unmarked_newlines (lineBreaks none (blocks ++ [b]))) hb
  rw [if_pos rfl, List.nil_append, Except.ok.inj hall] at hagain
  rw [mergeManagedContext, if_neg (not_not.2 rfl), Option.getD_some]
  dsimp +zetaHave only
  rw [hagain]
  have hsame : decide (merged ≠ merged) = false := decide_eq_false (not_not.2 rfl)
  apply congrArg Except.ok
  dsimp only
  rw [hsame]
  rfl

/-- Merging blocks one after the other is merging the last one, merging it again changes nothing,
and removing it gives back the text, but for a line break at its end. -/
def MergesSettle (existing : List Char) (blocks : List ManagedBlock) (b : ManagedBlock) : Prop :=
  ∃ merged removed, mergeAll existing (blocks ++ [b]) = .ok merged ∧
    mergeGlobalAgents existing b.text = .ok merged ∧ mergeGlobalAgents merged b.text = .ok merged ∧
    removeGlobalAgents merged = .ok removed ∧ (removed = existing ∨
      existing ≠ [] ∧ endsLine existing = false ∧ removed = existing ++ ['\n'])

theorem separator_eq (existing : List Char) : existing ++ separator existing = existing ∨
    existing ≠ [] ∧ endsLine existing = false ∧
      existing ++ separator existing = existing ++ ['\n'] := by
  rw [separator]
  split
  · exact .inl (List.append_nil existing)
  · rename_i h
    rw [Bool.or_eq_true, not_or, List.isEmpty_iff, Bool.not_eq_true] at h
    exact .inr ⟨h.1, h.2, rfl⟩

/-- Merges settle exactly when no block has a second begin marker, and one line break is left
behind the last block if it has one and none if it does not. -/
theorem merges_settle_iff (h : Unmarked existing) (blocks : List ManagedBlock)
    (b : ManagedBlock) : MergesSettle existing blocks b ↔
      (∀ c ∈ blocks ++ [b], c.Single) ∧
        lineBreaks none (blocks ++ [b]) = if b.newline then 1 else 0 := by
  have hseparated := unmarked_separator h
  apply Iff.intro
  · intro hsettle
    obtain ⟨merged, removed, hall, hlast, _, _, _⟩ := hsettle
    have hsingle := single_of_mergeAll hall
    apply And.intro hsingle
    rw [mergeAll_unmarked h blocks b hsingle] at hall
    rw [mergeGlobalAgents, mergeBlock_unmarked h (single_of_mergeBlock hlast), b.tail_eq] at hlast
    have htails := List.append_cancel_left (List.append_cancel_left
      (Except.ok.inj (hall.trans hlast.symm)))
    have hlengths := congrArg List.length htails
    rwa [List.length_replicate, List.length_replicate] at hlengths
  · intro hcondition
    obtain ⟨hsingle, hbreaks⟩ := hcondition
    have hb := hsingle b (List.mem_append_right _ List.mem_cons_self)
    have hall := mergeAll_unmarked h blocks b hsingle
    have hlast := mergeBlock_unmarked h hb
    rw [hbreaks, ← b.tail_eq] at hall
    have hagain := mergeBlock_block hseparated hb (unmarked_tail b) hb
    rw [if_pos rfl, List.nil_append] at hagain
    have hremoved := removeGlobalAgents_block hseparated hb (if b.newline then 1 else 0)
    rw [← b.tail_eq] at hremoved
    have hnone : (if b.newline = true then 1 else 0) - 1 = 0 := by
      split <;> rfl
    rw [hnone, List.replicate_zero, List.append_nil] at hremoved
    exact ⟨_, _, hall, hlast, hagain, hremoved, separator_eq existing⟩

/-- A block with one line of text between its markers. -/
def lineBlock (line : String) (newline : Bool)
    (h : occurrences endMarker (Text.chars line) = []) : ManagedBlock :=
  ⟨Text.chars line, newline, h⟩

theorem merges_settle_same_block :
    MergesSettle (Text.chars "# Notes") [lineBlock "run" true (by decide)]
      (lineBlock "run" true (by decide)) := by
  have hnotes : Unmarked (Text.chars "# Notes") := ⟨by decide, by decide⟩
  apply (merges_settle_iff hnotes _ _).2
  apply And.intro
  · intro c hc
    simp only [List.singleton_append, List.mem_cons, List.not_mem_nil, or_false, or_self] at hc
    rw [hc]
    show occurrences beginMarker (Text.chars "run") = []
    decide
  · decide

/-- An update of a block that ends with a line break leaves one more line break behind it. -/
theorem update_leaves_line_break :
    ¬MergesSettle (Text.chars "# Notes") [lineBlock "run" true (by decide)]
      (lineBlock "run it" true (by decide)) := by
  intro h
  obtain ⟨merged, removed, hall, hlast, _⟩ := h
  have hne : mergeAll (Text.chars "# Notes") [lineBlock "run" true (by decide),
      lineBlock "run it" true (by decide)] ≠
      mergeGlobalAgents (Text.chars "# Notes") (lineBlock "run it" true (by decide)).text := by
    decide
  exact hne (hall.trans hlast.symm)

end ExternalIntelligence
