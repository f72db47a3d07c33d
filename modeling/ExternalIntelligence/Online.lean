import Mathlib.Data.List.Induction

/-- A labelling of a stream: an item takes the label of the latest item its target names, or
founds a label of its own when it has no target. -/
structure Labeller (α ι β : Type) where
  target : List α → α → Option ι
  ident : α → ι
  own : α → β
  target_mem : ∀ {earlier x i}, target earlier x = some i → ∃ e ∈ earlier, ident e = i

namespace Labeller
set_option autoImplicit true

variable {α ι β κ : Type} [DecidableEq ι] (L : Labeller α ι β)

/-- The latest item with an identifier. -/
def latest (i : ι) (xs : List α) : Option α :=
  xs.findRev? fun x => L.ident x = i

/-- The label of the latest item with an identifier. -/
def lastLabel (i : ι) (placed : List (α × β)) : Option β :=
  (placed.findRev? fun p => L.ident p.1 = i).map Prod.snd

def label (placed : List (α × β)) (x : α) : β :=
  match L.target (placed.map Prod.fst) x with
  | none => L.own x
  | some i => (L.lastLabel i placed).getD (L.own x)

/-- Each item of the stream with its label. -/
def labels (xs : List α) : List (α × β) :=
  xs.foldl (fun placed x => placed ++ [(x, L.label placed x)]) []

/-- An item founds a label when it has no target among the earlier ones. -/
def Founds (earlier : List α) (x : α) : Prop :=
  L.target earlier x = none

/-- Items with one label have one key. -/
def Uniform (key : α → κ) (placed : List (α × β)) : Prop :=
  ∀ p ∈ placed, ∀ q ∈ placed, p.2 = q.2 → key p.1 = key q.1

/-- Every item has the key of the latest item its target names. -/
def TargetsKeep (key : α → κ) (xs : List α) : Prop :=
  ∀ earlier x later i e, xs = earlier ++ x :: later → L.target earlier x = some i →
    L.latest i earlier = some e → key e = key x

/-- Items that found one label have one key. -/
def FoundersKeep (key : α → κ) (xs : List α) : Prop :=
  ∀ earlier x later earlier' x' later', xs = earlier ++ x :: later →
    xs = earlier' ++ x' :: later' → L.Founds earlier x → L.Founds earlier' x' →
    L.own x = L.own x' → key x = key x'

theorem labels_concat (xs : List α) (x : α) :
    L.labels (xs ++ [x]) = L.labels xs ++ [(x, L.label (L.labels xs) x)] := by
  simp only [labels, List.foldl_append, List.foldl_cons, List.foldl_nil]

theorem labels_fst (xs : List α) : (L.labels xs).map Prod.fst = xs := by
  induction xs using List.reverseRecOn with
  | nil => rfl
  | append_singleton xs x ih => rw [labels_concat, List.map_append, ih]; rfl

theorem labels_append (xs ys : List α) : ∃ placed, L.labels (xs ++ ys) = L.labels xs ++ placed := by
  induction ys using List.reverseRecOn with
  | nil => exact ⟨[], by simp⟩
  | append_singleton ys y ih =>
    obtain ⟨placed, hp⟩ := ih
    rw [← List.append_assoc, labels_concat, hp]
    exact ⟨placed ++ [(y, L.label (L.labels xs ++ placed) y)], List.append_assoc ..⟩

theorem mem_labels_append (h : p ∈ L.labels xs) (ys : List α) : p ∈ L.labels (xs ++ ys) := by
  obtain ⟨placed, hp⟩ := L.labels_append xs ys
  rw [hp]
  exact List.mem_append_left _ h

theorem mem_labels_split (h : xs = earlier ++ x :: later) :
    (x, L.label (L.labels earlier) x) ∈ L.labels xs := by
  have hs : xs = (earlier ++ [x]) ++ later := by simp [h]
  rw [hs]
  apply mem_labels_append
  rw [labels_concat]
  exact List.mem_append_right _ (List.mem_singleton.2 rfl)

theorem findRev?_map (f : γ → δ) (p : δ → Bool) (xs : List γ) :
    (xs.map f).findRev? p = (xs.findRev? fun x => p (f x)).map f := by
  simp only [List.findRev?_eq_find?_reverse, ← List.map_reverse, List.find?_map]
  rfl

/-- The latest item with an identifier is placed under its last label. -/
theorem lastLabel_of_latest (h : L.latest i xs = some e) :
    ∃ b, L.lastLabel i (L.labels xs) = some b ∧ (e, b) ∈ L.labels xs := by
  rw [latest, ← L.labels_fst xs, findRev?_map, Option.map_eq_some_iff] at h
  obtain ⟨⟨e', b⟩, hf, rfl⟩ := h
  have hm : (e', b) ∈ (L.labels xs).reverse := by
    rw [List.findRev?_eq_find?_reverse] at hf
    exact List.mem_of_find?_eq_some hf
  refine ⟨b, ?_, List.mem_reverse.1 hm⟩
  rw [lastLabel, hf]
  rfl

theorem latest_isSome (h : e ∈ xs) (hi : L.ident e = i) : ∃ e', L.latest i xs = some e' := by
  rw [← Option.isSome_iff_exists, latest, List.findRev?_eq_find?_reverse, List.find?_isSome]
  exact ⟨e, List.mem_reverse.2 h, by simpa using hi⟩

/-- Every label was founded by an item that bears it. -/
theorem label_founder (h : p ∈ L.labels xs) : ∃ earlier x later, xs = earlier ++ x :: later ∧
    L.Founds earlier x ∧ L.own x = p.2 ∧ (x, p.2) ∈ L.labels xs := by
  induction xs using List.reverseRecOn generalizing p with
  | nil => simp [labels] at h
  | append_singleton xs x ih =>
    have carry {q} (hq : q ∈ L.labels xs) : ∃ earlier y later, xs ++ [x] = earlier ++ y :: later ∧
        L.Founds earlier y ∧ L.own y = q.2 ∧ (y, q.2) ∈ L.labels (xs ++ [x]) := by
      obtain ⟨earlier, y, later, hs, hf, ho, hm⟩ := ih hq
      exact ⟨earlier, y, later ++ [x], by simp [hs], hf, ho, L.mem_labels_append hm _⟩
    have hp := h
    rw [labels_concat, List.mem_append, List.mem_singleton] at hp
    rcases hp with hm | rfl
    · exact carry hm
    · cases ht : L.target xs x with
      | none =>
        have hl : L.label (L.labels xs) x = L.own x := by
          simp only [label, labels_fst, ht]
        refine ⟨xs, x, [], rfl, ht, hl.symm, ?_⟩
        simpa only [hl] using h
      | some i =>
        obtain ⟨e, he, hi⟩ := L.target_mem ht
        obtain ⟨e', hl⟩ := L.latest_isSome he hi
        obtain ⟨b, hb, hm⟩ := L.lastLabel_of_latest hl
        have hx : L.label (L.labels xs) x = b := by
          simp only [label, labels_fst, ht, hb, Option.getD_some]
        simpa only [hx] using carry hm

theorem TargetsKeep.of_append (h : L.TargetsKeep key (xs ++ ys)) : L.TargetsKeep key xs := by
  intro earlier x later i e hs ht hl
  exact h earlier x (later ++ ys) i e (by simp [hs]) ht hl

omit [DecidableEq ι] in
theorem FoundersKeep.of_append (h : L.FoundersKeep key (xs ++ ys)) : L.FoundersKeep key xs := by
  intro earlier x later earlier' x' later' hs hs' hf hf' ho
  exact h earlier x (later ++ ys) earlier' x' (later' ++ ys) (by simp [hs]) (by simp [hs']) hf hf' ho

/-- The latest item's key is the key of everything under the label it stands for. -/
theorem label_key (ht : L.TargetsKeep key (xs ++ [x])) (hf : L.FoundersKeep key (xs ++ [x]))
    (hu : Uniform key (L.labels xs)) (hp : p ∈ L.labels xs)
    (he : p.2 = L.label (L.labels xs) x) : key p.1 = key x := by
  cases hx : L.target xs x with
  | none =>
    obtain ⟨earlier, y, later, hs, hy, ho, hm⟩ := L.label_founder hp
    have hl : p.2 = L.own x := by simpa only [label, labels_fst, hx] using he
    have hk : key y = key x :=
      hf earlier y (later ++ [x]) xs x [] (by simp [hs]) rfl hy hx (ho.trans hl)
    exact (hu _ hp _ hm rfl).trans hk
  | some i =>
    obtain ⟨e, hmem, hi⟩ := L.target_mem hx
    obtain ⟨e', hl⟩ := L.latest_isSome hmem hi
    obtain ⟨b, hb, hm⟩ := L.lastLabel_of_latest hl
    have hpb : p.2 = b := by
      simpa only [label, labels_fst, hx, hb, Option.getD_some] using he
    exact (hu _ hp _ hm hpb).trans (ht xs x [] i e' rfl hx hl)

theorem uniform_of_keeps (ht : L.TargetsKeep key xs) (hf : L.FoundersKeep key xs) :
    Uniform key (L.labels xs) := by
  induction xs using List.reverseRecOn with
  | nil => intro p hp; simp [labels] at hp
  | append_singleton xs x ih =>
    have hu := ih (TargetsKeep.of_append L ht) (FoundersKeep.of_append L hf)
    intro p hp q hq heq
    rw [labels_concat, List.mem_append, List.mem_singleton] at hp hq
    rcases hp with hp | rfl <;> rcases hq with hq | rfl
    · exact hu p hp q hq heq
    · exact L.label_key ht hf hu hp heq
    · exact (L.label_key ht hf hu hq heq.symm).symm
    · rfl

theorem targetsKeep_of_uniform (hu : Uniform key (L.labels xs)) : L.TargetsKeep key xs := by
  intro earlier x later i e hs ht hl
  obtain ⟨b, hb, hm⟩ := L.lastLabel_of_latest hl
  have hx := L.mem_labels_split hs
  simp only [label, labels_fst, ht, hb, Option.getD_some] at hx
  have hm' : (e, b) ∈ L.labels xs := hs ▸ L.mem_labels_append hm _
  exact hu _ hm' _ hx rfl

theorem foundersKeep_of_uniform (hu : Uniform key (L.labels xs)) : L.FoundersKeep key xs := by
  intro earlier x later earlier' x' later' hs hs' hf hf' ho
  have hx := L.mem_labels_split hs
  have hx' := L.mem_labels_split hs'
  rw [Founds] at hf hf'
  simp only [label, labels_fst, hf] at hx
  simp only [label, labels_fst, hf'] at hx'
  exact hu _ hx _ hx' ho

/-- Labels respect a key exactly when targets and founders do. -/
theorem uniform_iff : Uniform key (L.labels xs) ↔ L.TargetsKeep key xs ∧ L.FoundersKeep key xs :=
  ⟨fun hu => ⟨L.targetsKeep_of_uniform hu, L.foundersKeep_of_uniform hu⟩,
    fun h => L.uniform_of_keeps h.1 h.2⟩

end Labeller
