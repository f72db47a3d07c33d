import ExternalIntelligence.Dict
import Mathlib.Algebra.Order.Monoid.Unbundled.Pow
import Mathlib.Data.List.Induction
import Mathlib.Data.List.Perm.Subperm
import Mathlib.Data.List.Sort
import Mathlib.Logic.Relation

namespace RunningBest
set_option autoImplicit true

/-- An item takes the place of the best one so far if it beats it. -/
def challenge (beats : α → α → Bool) : Option α → α → Option α
  | none, item => some item
  | some best, item => some (if beats item best then item else best)

/-- What a scan of some items ends with. -/
def champion (beats : α → α → Bool) (items : List α) : Option α :=
  items.foldl (challenge beats) none

/-- A step from one of some items to another that it beats. -/
def Beats (beats : α → α → Bool) (items : List α) (a b : α) : Prop :=
  a ∈ items ∧ b ∈ items ∧ beats a b = true

/-- An item from which chains of items that beat each other lead to all items. -/
def Contender (beats : α → α → Bool) (items : List α) (item : α) : Prop :=
  item ∈ items ∧ ∀ other ∈ items, Relation.ReflTransGen (Beats beats items) item other

/-- Of two different items one beats the other. -/
def Compared (beats : α → α → Bool) (items : List α) : Prop :=
  ∀ a ∈ items, ∀ b ∈ items, a ≠ b → beats a b = true ∨ beats b a = true

section Champion

variable {beats : α → α → Bool}

theorem champion_concat (items : List α) (item : α) :
    champion beats (items ++ [item]) = challenge beats (champion beats items) item :=
  List.foldl_concat ..

theorem Beats.mono (h : Beats beats items a b) (hsub : items ⊆ more) : Beats beats more a b :=
  ⟨hsub h.1, hsub h.2.1, h.2.2⟩

theorem Compared.mono (h : Compared beats more) (hsub : items ⊆ more) : Compared beats items :=
  fun a ha b hb => h a (hsub ha) b (hsub hb)

theorem Contender.of_perm (h : Contender beats items item) (hperm : items.Perm more) :
    Contender beats more item :=
  ⟨hperm.subset h.1, fun other hother =>
    Relation.ReflTransGen.mono (fun _ _ hstep => hstep.mono hperm.subset) _ _
      (h.2 other (hperm.symm.subset hother))⟩

theorem champion_eq_none (h : champion beats items = none) : items = [] := by
  cases items using List.reverseRecOn with
  | nil => rfl
  | append_singleton items item =>
    rw [champion_concat] at h
    cases hc : champion beats items with
    | none =>
      rw [hc] at h
      cases h
    | some best =>
      rw [hc] at h
      cases h

theorem mem_of_champion (h : champion beats items = some best) : best ∈ items := by
  induction items using List.reverseRecOn generalizing best with
  | nil => cases h
  | append_singleton items item ih =>
    rw [champion_concat] at h
    cases hc : champion beats items with
    | none =>
      rw [hc, challenge, Option.some.injEq] at h
      exact h ▸ List.mem_append_right _ (List.mem_singleton_self _)
    | some current =>
      rw [hc, challenge, Option.some.injEq] at h
      split at h
      · exact h ▸ List.mem_append_right _ (List.mem_singleton_self _)
      · exact h ▸ List.mem_append_left _ (ih hc)

/-- A scan in which no best item gives way to a much worse one ends near the best of the items. -/
theorem le_champion_add [AddCommMonoid ω] [PartialOrder ω] [IsOrderedAddMonoid ω] (score : α → ω)
    {loss : ω} (hloss : 0 ≤ loss)
    (hbeats : ∀ a ∈ items, ∀ b ∈ items, beats a b = true → score b ≤ score a + loss)
    (hkeeps : ∀ a ∈ items, ∀ b ∈ items, beats a b = false → score a ≤ score b)
    (h : champion beats items = some best) :
    ∀ item ∈ items, score item ≤ score best + items.length • loss := by
  induction items using List.reverseRecOn generalizing best with
  | nil => exact fun item hm => absurd hm List.not_mem_nil
  | append_singleton items last ih =>
    have hsub : items ⊆ items ++ [last] := List.subset_append_left _ _
    have hlast : last ∈ items ++ [last] := List.mem_append_right _ (List.mem_singleton_self _)
    have hpos : 0 ≤ (items ++ [last]).length • loss := nsmul_nonneg hloss _
    rw [champion_concat] at h
    cases hc : champion beats items with
    | none =>
      rw [hc] at h
      cases h
      rw [champion_eq_none hc] at hpos ⊢
      intro item hm
      rw [List.mem_singleton.1 hm]
      exact le_add_of_nonneg_right hpos
    | some current =>
      have hold := ih (fun a ha b hb => hbeats a (hsub ha) b (hsub hb))
        (fun a ha b hb => hkeeps a (hsub ha) b (hsub hb)) hc
      have hcurrent := hsub (mem_of_champion hc)
      rw [hc, challenge, Option.some.injEq] at h
      intro item hm
      cases hb : beats last current with
      | true =>
        rw [hb, if_pos rfl] at h
        subst h
        obtain hm | hm := List.mem_append.1 hm
        · calc score item ≤ score current + items.length • loss := hold item hm
            _ ≤ score last + loss + items.length • loss :=
              add_le_add_left (hbeats last hlast current hcurrent hb) _
            _ = score last + (items ++ [last]).length • loss := by
              rw [List.length_append, List.length_singleton, succ_nsmul', add_assoc]
        · rw [List.mem_singleton.1 hm]
          exact le_add_of_nonneg_right hpos
      | false =>
        rw [hb, if_neg Bool.false_ne_true] at h
        subst h
        obtain hm | hm := List.mem_append.1 hm
        · calc score item ≤ score current + items.length • loss := hold item hm
            _ ≤ score current + (items ++ [last]).length • loss := by
              rw [List.length_append, List.length_singleton, succ_nsmul]
              exact add_le_add_right (le_add_of_nonneg_right hloss) _
        · rw [List.mem_singleton.1 hm]
          exact (hkeeps last hlast current hcurrent hb).trans (le_add_of_nonneg_right hpos)

/-- Whoever is left at the end of a scan is a contender. -/
theorem contender_of_champion (hall : Compared beats items)
    (h : champion beats items = some best) : Contender beats items best := by
  induction items using List.reverseRecOn generalizing best with
  | nil => cases h
  | append_singleton items item ih =>
    have hsub : items ⊆ items ++ [item] := List.subset_append_left _ _
    have hitem : item ∈ items ++ [item] := List.mem_append_right _ (List.mem_singleton_self _)
    rw [champion_concat] at h
    cases hc : champion beats items with
    | none =>
      rw [hc] at h
      cases h
      rw [champion_eq_none hc]
      refine ⟨List.mem_singleton_self _, fun other hother => ?_⟩
      rw [List.mem_singleton.1 hother]
    | some current =>
      have hcurrent := ih (hall.mono hsub) hc
      have hreach : ∀ other ∈ items,
          Relation.ReflTransGen (Beats beats (items ++ [item])) current other :=
        fun other hother => Relation.ReflTransGen.mono (fun _ _ hstep => hstep.mono hsub) _ _
          (hcurrent.2 other hother)
      rw [hc, challenge, Option.some.injEq] at h
      by_cases hbeats : beats item current = true
      · rw [if_pos hbeats] at h
        subst h
        refine ⟨hitem, fun other hother => ?_⟩
        cases List.mem_append.1 hother with
        | inl hold =>
          exact .head ⟨hitem, hsub hcurrent.1, hbeats⟩ (hreach other hold)
        | inr hnew => rw [List.mem_singleton.1 hnew]
      · rw [if_neg hbeats] at h
        subst h
        refine ⟨hsub hcurrent.1, fun other hother => ?_⟩
        cases List.mem_append.1 hother with
        | inl hold => exact hreach other hold
        | inr hnew =>
          rw [List.mem_singleton.1 hnew]
          by_cases he : current = item
          · rw [he]
          · have hback := (hall current (hsub hcurrent.1) item hitem he).resolve_right hbeats
            exact .single ⟨hsub hcurrent.1, hitem, hback⟩

/-- Items that beat only later ones of an order have one contender. -/
theorem Contender.eq [Preorder ω] {rank : α → ω} (ha : Contender beats items a)
    (hb : Contender beats items b) (h : ∀ x y, Beats beats items x y → rank x < rank y) :
    a = b := by
  have hchain : ∀ x y, Relation.ReflTransGen (Beats beats items) x y → x = y ∨ rank x < rank y := by
    intro x y hpath
    induction hpath with
    | refl => exact .inl rfl
    | tail _ hstep ih =>
      have hlast := h _ _ hstep
      exact .inr (ih.elim (fun he => he ▸ hlast) fun hlt => hlt.trans hlast)
  cases hchain a b (ha.2 b hb.1) with
  | inl he => exact he
  | inr hlt =>
    cases hchain b a (hb.2 a ha.1) with
    | inl he => exact he.symm
    | inr hback => exact (lt_asymm hlt hback).elim

/-- A chain in which each item beats the next is won by its first item when it is scanned from
the end. -/
theorem champion_reverse (h : List.IsChain (fun a b => beats a b = true) (first :: rest)) :
    champion beats (first :: rest).reverse = some first := by
  induction rest generalizing first with
  | nil => rfl
  | cons second rest ih =>
    rw [List.isChain_cons_cons] at h
    rw [List.reverse_cons, champion_concat, ih h.2, challenge, if_pos h.1]

/-- An item that some item of a chain beats has a place in it behind the first. -/
theorem exists_insert (hall : Compared beats items)
    (h : List.IsChain (fun a b => beats a b = true) (first :: rest))
    (hsub : first :: rest ⊆ items) (hitem : item ∈ items) (hnew : item ∉ first :: rest)
    (hbeaten : ∃ a ∈ first :: rest, beats a item = true) :
    ∃ longer, List.IsChain (fun a b => beats a b = true) (first :: longer) ∧
      (first :: longer).Perm (item :: first :: rest) := by
  induction rest generalizing first with
  | nil =>
    obtain ⟨a, ha, hbeats⟩ := hbeaten
    rw [List.mem_singleton.1 ha] at hbeats
    exact ⟨[item], List.isChain_cons_cons.2 ⟨hbeats, .singleton _⟩, .swap _ _ _⟩
  | cons second rest ih =>
    rw [List.isChain_cons_cons] at h
    by_cases hlater : ∃ a ∈ second :: rest, beats a item = true
    · obtain ⟨longer, hchain, hperm⟩ := ih h.2 (List.Subset.trans (List.subset_cons_self _ _) hsub)
        (fun hmem => hnew (List.mem_cons_of_mem _ hmem)) hlater
      exact ⟨second :: longer, List.isChain_cons_cons.2 ⟨h.1, hchain⟩,
        (hperm.cons first).trans (.swap _ _ _)⟩
    · have hfirst : beats first item = true := by
        obtain ⟨a, ha, hbeats⟩ := hbeaten
        cases List.mem_cons.1 ha with
        | inl he => rwa [he] at hbeats
        | inr hmem => exact (hlater ⟨a, hmem, hbeats⟩).elim
      have hsecond : second ∈ first :: second :: rest :=
        List.mem_cons_of_mem _ (List.mem_cons_self ..)
      have hne : item ≠ second := fun he => hnew (he ▸ hsecond)
      have hnext : beats item second = true :=
        (hall item hitem second (hsub hsecond) hne).resolve_right fun hbeats =>
          hlater ⟨second, List.mem_cons_self .., hbeats⟩
      exact ⟨item :: second :: rest,
        List.isChain_cons_cons.2 ⟨hfirst, List.isChain_cons_cons.2 ⟨hnext, h.2⟩⟩, .swap _ _ _⟩

/-- A chain of steps out of a set has a step that leaves it. -/
theorem exists_leaving {r : α → α → Prop} (inside : α → Prop) (h : Relation.ReflTransGen r a b)
    (ha : inside a) (hb : ¬inside b) : ∃ c d, inside c ∧ ¬inside d ∧ r c d := by
  induction h with
  | refl => exact (hb ha).elim
  | tail hpath hstep ih =>
    rename_i c d
    by_cases hc : inside c
    · exact ⟨c, d, hc, hb, hstep⟩
    · exact ih hc

/-- From a contender chains of every length up to that of the items start. -/
theorem exists_chain (hall : Compared beats items) (h : Contender beats items best) (n : Nat)
    (hn : n < items.length) (hnodup : items.Nodup) :
    ∃ rest, List.IsChain (fun a b => beats a b = true) (best :: rest) ∧
      (best :: rest).Nodup ∧ best :: rest ⊆ items ∧ rest.length = n := by
  induction n with
  | zero =>
    have hsub : [best] ⊆ items := List.cons_subset.2 ⟨h.1, List.nil_subset _⟩
    exact ⟨[], .singleton _, List.nodup_singleton _, hsub, rfl⟩
  | succ n ih =>
    obtain ⟨rest, hchain, hdistinct, hsub, hlength⟩ := ih (Nat.lt_of_succ_lt hn)
    have hmore : ∃ other ∈ items, other ∉ best :: rest := by
      by_contra hnone
      rw [not_exists] at hnone
      have hback : items ⊆ best :: rest := fun other hother =>
        not_not.1 fun hout => hnone other ⟨hother, hout⟩
      have hshort := (List.subperm_of_subset hnodup hback).length_le
      rw [List.length_cons, hlength] at hshort
      omega
    obtain ⟨other, hother, hout⟩ := hmore
    obtain ⟨c, d, hc, hd, hstep⟩ := exists_leaving (fun a => a ∈ best :: rest)
      (h.2 other hother) (List.mem_cons_self ..) hout
    obtain ⟨longer, hlonger, hperm⟩ :=
      exists_insert hall hchain hsub hstep.2.1 hd ⟨c, hc, hstep.2.2⟩
    refine ⟨longer, hlonger, ?_, ?_, ?_⟩
    · exact hperm.nodup_iff.2 (List.nodup_cons.2 ⟨hd, hdistinct⟩)
    · exact List.Subset.trans hperm.subset (List.cons_subset.2 ⟨hstep.2.1, hsub⟩)
    · have hl := hperm.length_eq
      simp only [List.length_cons] at hl
      omega

/-- Every contender is left by the scan of the items in some order. -/
theorem exists_champion (hall : Compared beats items) (hnodup : items.Nodup)
    (h : Contender beats items best) :
    ∃ order : List α, order.Perm items ∧ champion beats order = some best := by
  have hpos : 0 < items.length := List.length_pos_of_mem h.1
  obtain ⟨rest, hchain, hdistinct, hsub, hlength⟩ :=
    exists_chain hall h (items.length - 1) (by omega) hnodup
  refine ⟨(best :: rest).reverse, (List.reverse_perm _).trans ?_, champion_reverse hchain⟩
  apply (List.subperm_of_subset hdistinct hsub).perm_of_length_le
  rw [List.length_cons, hlength]
  omega

end Champion

end RunningBest
