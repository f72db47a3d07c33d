import Mathlib.Data.List.Induction
import Mathlib.Data.List.Pairwise
import Mathlib.Data.List.Perm.Basic
import Mathlib.Logic.Relation

namespace Grouping
set_option autoImplicit true

/-- Puts an item in the first group with a member it is related to, together with the other groups
that have one, or in a group of its own. -/
def addItem (r : α → α → Bool) (item : α) : List (List α) → List (List α)
  | [] => [[item]]
  | group :: groups =>
    if group.any (r item) then
      (group ++ item :: (groups.filter fun other => other.any (r item)).flatten) ::
        groups.filter fun other => !other.any (r item)
    else group :: addItem r item groups

def groupsOf (r : α → α → Bool) (items : List α) : List (List α) :=
  items.foldl (fun groups item => addItem r item groups) []

/-- A chain of related items from one to another. -/
def Joined (r : α → α → Bool) (items : List α) : α → α → Prop :=
  Relation.ReflTransGen fun a b => a ∈ items ∧ b ∈ items ∧ r a b = true

/-- No item of one group is related to one of the other. -/
def Apart (r : α → α → Bool) (g h : List α) : Prop :=
  ∀ a ∈ g, ∀ b ∈ h, r a b = false

/-- Groups that are the classes of the chains among some items. -/
structure Groups (r : α → α → Bool) (items : List α) (groups : List (List α)) : Prop where
  perm : groups.flatten.Perm items
  nonempty : ∀ group ∈ groups, group ≠ []
  joined : ∀ group ∈ groups, ∀ a ∈ group, ∀ b ∈ group, Joined r items a b
  apart : groups.Pairwise (Apart r)

section Chains

variable {r : α → α → Bool}

theorem Joined.mono (h : Joined r items a b) (hsub : items ⊆ more) : Joined r more a b :=
  Relation.ReflTransGen.mono (fun _ _ hab => ⟨hsub hab.1, hsub hab.2.1, hab.2.2⟩) _ _ h

theorem Joined.symm (hr : ∀ a b, r a b = r b a) (h : Joined r items a b) : Joined r items b a := by
  induction h with
  | refl => exact .refl
  | tail _ hstep ih =>
    apply Relation.ReflTransGen.head _ ih
    exact ⟨hstep.2.1, hstep.1, by rw [hr]; exact hstep.2.2⟩

theorem apart_of_ne (hr : ∀ a b, r a b = r b a) {groups : List (List α)}
    (h : groups.Pairwise (Apart r)) (hg : g ∈ groups) (hk : k ∈ groups) (hne : g ≠ k) :
    Apart r g k := by
  have hsymm : Std.Symm (Apart r) := ⟨fun _ _ hgk a ha b hb => (hr a b).trans (hgk b hb a ha)⟩
  exact h.forall hg hk hne

end Chains

section AddItem

variable {r : α → α → Bool} {item : α}

theorem addItem_perm (r : α → α → Bool) (item : α) (groups : List (List α)) :
    (addItem r item groups).flatten.Perm (item :: groups.flatten) := by
  induction groups with
  | nil => exact .refl _
  | cons group groups ih =>
    unfold addItem
    split
    · have hfilter := (List.filter_append_perm (fun other => other.any (r item)) groups).flatten
      rw [List.flatten_append] at hfilter
      rw [List.flatten_cons, List.flatten_cons, List.append_assoc, List.cons_append]
      exact List.perm_middle.trans ((hfilter.append_left group).cons item)
    · rw [List.flatten_cons, List.flatten_cons]
      exact (ih.append_left group).trans List.perm_middle

/-- A group after an item was added: one that was there without a related member, or the item's. -/
theorem mem_addItem {groups : List (List α)} (h : group ∈ addItem r item groups) :
    group ∈ groups ∧ group.any (r item) = false ∨
      item ∈ group ∧ ∀ a ∈ group, a = item ∨ ∃ other ∈ groups, other.any (r item) = true ∧
        a ∈ other := by
  induction groups with
  | nil =>
    rw [List.mem_singleton.1 h]
    exact .inr ⟨List.mem_singleton_self item, fun a ha => .inl (List.mem_singleton.1 ha)⟩
  | cons first groups ih =>
    unfold addItem at h
    split at h
    · rename_i hmatch
      cases List.mem_cons.1 h with
      | inl he =>
        right
        rw [he]
        constructor
        · exact List.mem_append_right _ (List.mem_cons_self ..)
        · intro a ha
          cases List.mem_append.1 ha with
          | inl hfirst => exact .inr ⟨first, List.mem_cons_self .., hmatch, hfirst⟩
          | inr hrest =>
            cases List.mem_cons.1 hrest with
            | inl hitem => exact .inl hitem
            | inr hother =>
              obtain ⟨other, hin, haother⟩ := List.mem_flatten.1 hother
              obtain ⟨hgroups, hany⟩ := List.mem_filter.1 hin
              exact .inr ⟨other, List.mem_cons_of_mem _ hgroups, hany, haother⟩
      | inr hrest =>
        obtain ⟨hgroups, hnone⟩ := List.mem_filter.1 hrest
        rw [Bool.not_eq_true'] at hnone
        exact .inl ⟨List.mem_cons_of_mem _ hgroups, hnone⟩
    · rename_i hnone
      cases List.mem_cons.1 h with
      | inl he =>
        rw [he]
        exact .inl ⟨List.mem_cons_self .., eq_false_of_ne_true hnone⟩
      | inr hrest =>
        cases ih hrest with
        | inl hold => exact .inl ⟨List.mem_cons_of_mem _ hold.1, hold.2⟩
        | inr hnew =>
          refine .inr ⟨hnew.1, ?_⟩
          intro a ha
          cases hnew.2 a ha with
          | inl he => exact .inl he
          | inr hother =>
            obtain ⟨other, hin, hany, haother⟩ := hother
            exact .inr ⟨other, List.mem_cons_of_mem _ hin, hany, haother⟩

theorem addItem_apart (hr : ∀ a b, r a b = r b a) {groups : List (List α)}
    (h : groups.Pairwise (Apart r)) : (addItem r item groups).Pairwise (Apart r) := by
  induction groups with
  | nil => exact List.pairwise_singleton ..
  | cons group groups ih =>
    obtain ⟨hfirst, hrest⟩ := List.pairwise_cons.1 h
    unfold addItem
    split
    · apply List.Pairwise.cons
      · intro other hother a ha b hb
        obtain ⟨hin, hnone⟩ := List.mem_filter.1 hother
        rw [Bool.not_eq_true'] at hnone
        cases List.mem_append.1 ha with
        | inl hgroup => exact hfirst other hin a hgroup b hb
        | inr hmore =>
          cases List.mem_cons.1 hmore with
          | inl hitem =>
            rw [hitem]
            exact eq_false_of_ne_true (List.any_eq_false.1 hnone b hb)
          | inr hjoined =>
            obtain ⟨joined, hjoin, hajoined⟩ := List.mem_flatten.1 hjoined
            obtain ⟨hgroups, hany⟩ := List.mem_filter.1 hjoin
            have hne : joined ≠ other := by
              intro he
              rw [he, hnone] at hany
              cases hany
            exact apart_of_ne hr hrest hgroups hin hne a hajoined b hb
      · exact hrest.filter _
    · rename_i hnone
      rw [Bool.not_eq_true] at hnone
      apply List.Pairwise.cons _ (ih hrest)
      intro other hother a ha b hb
      cases mem_addItem hother with
      | inl hold => exact hfirst other hold.1 a ha b hb
      | inr hnew =>
        cases hnew.2 b hb with
        | inl he =>
          rw [he, hr]
          exact eq_false_of_ne_true (List.any_eq_false.1 hnone a ha)
        | inr hold =>
          obtain ⟨old, hin, _, hbold⟩ := hold
          exact hfirst old hin a ha b hbold

theorem Groups.addItem (hr : ∀ a b, r a b = r b a) (h : Groups r items groups) :
    Groups r (items ++ [item]) (addItem r item groups) := by
  constructor
  case perm =>
    exact (addItem_perm r item groups).trans
      ((h.perm.cons item).trans (List.perm_append_singleton item items).symm)
  case nonempty =>
    intro group hgroup
    cases mem_addItem hgroup with
    | inl hold => exact h.nonempty group hold.1
    | inr hnew => exact List.ne_nil_of_mem hnew.1
  case joined =>
    intro group hgroup
    cases mem_addItem hgroup with
    | inl hold =>
      intro a ha b hb
      exact (h.joined group hold.1 a ha b hb).mono (List.subset_append_left ..)
    | inr hnew =>
      -- every member has a chain to the item, through a related member of its old group
      have hitem : ∀ a ∈ group, Joined r (items ++ [item]) a item := by
        intro a ha
        cases hnew.2 a ha with
        | inl he =>
          rw [he]
          exact .refl
        | inr hold =>
          obtain ⟨old, hin, hany, haold⟩ := hold
          obtain ⟨b, hb, hrel⟩ := List.any_eq_true.1 hany
          have hchain := (h.joined old hin a haold b hb).mono
            (List.subset_append_left items [item])
          apply hchain.tail
          refine ⟨?_, List.mem_append_right _ (List.mem_singleton_self item), by rw [hr, hrel]⟩
          exact List.mem_append_left _ (h.perm.subset (List.mem_flatten_of_mem hin hb))
      intro a ha b hb
      exact (hitem a ha).trans ((hitem b hb).symm hr)
  case apart => exact addItem_apart hr h.apart

/-- The groups of a scan are the classes of the chains among what was scanned. -/
theorem groups_groupsOf (hr : ∀ a b, r a b = r b a) (items : List α) :
    Groups r items (groupsOf r items) := by
  induction items using List.reverseRecOn with
  | nil =>
    constructor
    case perm => exact .refl _
    case nonempty => exact fun _ h => absurd h List.not_mem_nil
    case joined => exact fun _ h => absurd h List.not_mem_nil
    case apart => exact .nil
  | append_singleton items item ih =>
    rw [groupsOf, List.foldl_append]
    exact ih.addItem hr

end AddItem

section Classes

variable {r : α → α → Bool}

/-- A chain does not leave a group. -/
theorem Groups.mem_of_joined (hr : ∀ a b, r a b = r b a) (h : Groups r items groups)
    (hgroup : group ∈ groups) (ha : a ∈ group) (hab : Joined r items a b) : b ∈ group := by
  induction hab with
  | refl => exact ha
  | @tail b c _ hstep ih =>
    obtain ⟨other, hother, hc⟩ := List.mem_flatten.1 (h.perm.mem_iff.2 hstep.2.1)
    by_cases he : group = other
    · rw [he]
      exact hc
    · exfalso
      have hnot := apart_of_ne hr h.apart hgroup hother he b ih c hc
      rw [hstep.2.2] at hnot
      cases hnot

theorem Groups.exists_group (h : Groups r items groups) (ha : a ∈ items) :
    ∃ group ∈ groups, a ∈ group :=
  List.mem_flatten.1 (h.perm.mem_iff.2 ha)

end Classes

end Grouping
