import ExternalIntelligence.RunningBest
import Mathlib.Data.List.Dedup

namespace RunningBest
set_option autoImplicit true

/-- Puts an item in the place of its group unless the one there is not beaten. -/
def place [DecidableEq κ] (key : α → κ) (beats : α → α → Bool) (best : List (κ × α)) (item : α) :
    List (κ × α) :=
  match best.lookup (key item) with
  | none => Dict.set (key item) item best
  | some current => if beats item current = true then Dict.set (key item) item best else best

/-- The best item of each group, in the order in which the groups appear. -/
def bestOfEach [DecidableEq κ] (key : α → κ) (beats : α → α → Bool) (items : List α) :
    List (κ × α) :=
  items.foldl (place key beats) []

def group [DecidableEq κ] (key : α → κ) (items : List α) (k : κ) : List α :=
  items.filter fun item => key item = k

def winners [DecidableEq κ] (key : α → κ) (beats : α → α → Bool) (items : List α) : List α :=
  (bestOfEach key beats items).map Prod.snd

def ranking [DecidableEq κ] [LinearOrder ρ] (key : α → κ) (beats : α → α → Bool) (rank : α → ρ)
    (items : List α) : List α :=
  (winners key beats items).insertionSort fun a b => rank a ≤ rank b

/-- The first of the best items of the groups. -/
def leaders [DecidableEq κ] [LinearOrder ρ] (key : α → κ) (beats : α → α → Bool) (rank : α → ρ)
    (n : Nat) (items : List α) : List α :=
  (ranking key beats rank items).take n

section Groups

variable [DecidableEq κ] {key : α → κ} {beats : α → α → Bool}

theorem mem_group : item ∈ group key items k ↔ item ∈ items ∧ key item = k := by
  rw [group, List.mem_filter, decide_eq_true_eq]

theorem group_concat (items : List α) (item : α) (k : κ) :
    group key (items ++ [item]) k =
      if key item = k then group key items k ++ [item] else group key items k := by
  rw [group, group, List.filter_append, List.filter_singleton]
  by_cases h : key item = k
  · rw [if_pos h, decide_eq_true h]
    rfl
  · rw [if_neg h, decide_eq_false h]
    exact List.append_nil _

theorem group_perm (h : order.Perm items) (k : κ) :
    (group key order k).Perm (group key items k) :=
  h.filter _

theorem bestOfEach_concat (items : List α) (item : α) :
    bestOfEach key beats (items ++ [item]) =
      place key beats (bestOfEach key beats items) item :=
  List.foldl_concat ..

theorem lookup_place (best : List (κ × α)) (item : α) (k : κ) :
    (place key beats best item).lookup k =
      if key item = k then challenge beats (best.lookup k) item else best.lookup k := by
  by_cases hk : key item = k
  · subst hk
    rw [if_pos rfl, place]
    cases hbest : best.lookup (key item) with
    | none => exact Dict.lookup_set_self ..
    | some current =>
      dsimp only
      rw [challenge]
      by_cases hbeats : beats item current = true
      · rw [if_pos hbeats, if_pos hbeats]
        exact Dict.lookup_set_self ..
      · rw [if_neg hbeats, if_neg hbeats]
        exact hbest
  · have hset : (Dict.set (key item) item best).lookup k = best.lookup k :=
      Dict.lookup_set_of_ne hk ..
    rw [if_neg hk, place]
    split
    · exact hset
    · split
      · exact hset
      · rfl

/-- The place of a group holds what a scan of the group ends with. -/
theorem lookup_bestOfEach (items : List α) (k : κ) :
    (bestOfEach key beats items).lookup k = champion beats (group key items k) := by
  induction items using List.reverseRecOn with
  | nil => rfl
  | append_singleton items item ih =>
    rw [bestOfEach_concat, lookup_place, group_concat, ih]
    by_cases h : key item = k
    · rw [if_pos h, if_pos h, champion_concat]
    · rw [if_neg h, if_neg h]

theorem keys_place_nodup (h : (Dict.keys best).Nodup) (item : α) :
    (Dict.keys (place key beats best item)).Nodup := by
  rw [place]
  split
  · exact Dict.keys_set_nodup h
  · split
    · exact Dict.keys_set_nodup h
    · exact h

theorem keys_bestOfEach_nodup (items : List α) :
    (Dict.keys (bestOfEach key beats items)).Nodup := by
  induction items using List.reverseRecOn with
  | nil => exact List.nodup_nil
  | append_singleton items item ih =>
    rw [bestOfEach_concat]
    exact keys_place_nodup ih item

theorem mem_winners : item ∈ winners key beats items ↔
    champion beats (group key items (key item)) = some item := by
  rw [winners, List.mem_map, ← lookup_bestOfEach]
  refine ⟨?_, fun h => ⟨_, Dict.mem_of_lookup h, rfl⟩⟩
  rintro ⟨⟨k, best⟩, hp, rfl⟩
  have hlookup := Dict.lookup_of_mem (keys_bestOfEach_nodup items) hp
  have hk : key best = k := by
    rw [lookup_bestOfEach] at hlookup
    exact (mem_group.1 (mem_of_champion hlookup)).2
  rw [hk]
  exact hlookup

theorem mem_of_mem_winners (h : item ∈ winners key beats items) : item ∈ items :=
  (mem_group.1 (mem_of_champion (mem_winners.1 h))).1

theorem exists_winner (key : α → κ) (beats : α → α → Bool) (h : item ∈ items) :
    ∃ best ∈ winners key beats items, key best = key item := by
  have hmem : item ∈ group key items (key item) := mem_group.2 ⟨h, rfl⟩
  cases hc : champion beats (group key items (key item)) with
  | none =>
    rw [champion_eq_none hc] at hmem
    cases hmem
  | some best =>
    have hk := (mem_group.1 (mem_of_champion hc)).2
    refine ⟨best, mem_winners.2 ?_, hk⟩
    rw [hk]
    exact hc

theorem eq_of_mem_winners (ha : a ∈ winners key beats items) (hb : b ∈ winners key beats items)
    (h : key a = key b) : a = b := by
  have hca := mem_winners.1 ha
  rw [h, mem_winners.1 hb] at hca
  exact (Option.some.inj hca).symm

theorem winners_nodup (items : List α) : (winners key beats items).Nodup := by
  have hkeys : ((winners key beats items).map key) = Dict.keys (bestOfEach key beats items) := by
    rw [winners, List.map_map, Dict.keys]
    apply List.map_congr_left
    intro p hp
    have hlookup := Dict.lookup_of_mem (keys_bestOfEach_nodup items) hp
    rw [lookup_bestOfEach] at hlookup
    exact (mem_group.1 (mem_of_champion hlookup)).2
  apply List.Nodup.of_map key
  rw [hkeys]
  exact keys_bestOfEach_nodup items

end Groups

/-- The first items of a list in strict order are those that fewer items precede. -/
theorem mem_take_iff [LinearOrder ρ] {rank : α → ρ} {items : List α}
    (h : items.Pairwise fun a b => rank a < rank b) (n : Nat) :
    item ∈ items.take n ↔
      item ∈ items ∧ (items.filter fun other => rank other < rank item).length < n := by
  induction items generalizing n with
  | nil => simp
  | cons first items ih =>
    rw [List.pairwise_cons] at h
    cases n with
    | zero => simp
    | succ n =>
      rw [List.take_succ_cons, List.mem_cons, List.mem_cons, ih h.2]
      by_cases he : item = first
      · have hnone : (items.filter fun other => rank other < rank first) = [] := by
          rw [List.filter_eq_nil_iff]
          intro other hother
          rw [decide_eq_true_eq]
          exact (h.1 other hother).not_gt
        subst he
        rw [List.filter_cons_of_neg (by simp), hnone]
        simp
      · have hfirst : item ∈ items → rank first < rank item := h.1 item
        constructor
        · intro hmem
          have hin := hmem.resolve_left he
          rw [List.filter_cons, if_pos (decide_eq_true (hfirst hin.1)), List.length_cons]
          exact ⟨.inr hin.1, Nat.succ_lt_succ hin.2⟩
        · intro hmem
          have hin := hmem.1.resolve_left he
          have hcount := hmem.2
          rw [List.filter_cons, if_pos (decide_eq_true (hfirst hin)), List.length_cons] at hcount
          exact .inr ⟨hin, Nat.lt_of_succ_lt_succ hcount⟩

section Orders

variable {κ : Type u} [DecidableEq κ] [LinearOrder ρ] {key : α → κ} {beats : α → α → Bool}
  {rank : α → ρ}

/-- An item that may end up as the best of its group. -/
def Likely (key : α → κ) (beats : α → α → Bool) (items : List α) (item : α) : Prop :=
  Contender beats (group key items (key item)) item

/-- Wherever two items may end up as the best of one group, enough groups rank before them
whatever their best items are. -/
def Settled (key : α → κ) (beats : α → α → Bool) (rank : α → ρ) (n : Nat) (items : List α) :
    Prop :=
  ∀ a b, Likely key beats items a → Likely key beats items b → key a = key b → a ≠ b →
    ∃ ks : List κ, ks.Nodup ∧ ks.length = n ∧ ∀ k ∈ ks, (∃ item ∈ items, key item = k) ∧
      ∀ item, Likely key beats items item → key item = k → rank item < rank a

theorem Likely.mem (h : Likely key beats items item) : item ∈ items :=
  (mem_group.1 h.1).1

theorem likely_of_winner (hall : Compared beats items) (hperm : order.Perm items)
    (h : item ∈ winners key beats order) : Likely key beats items item := by
  have hgroup : group key order (key item) ⊆ items :=
    fun other hother => hperm.subset (mem_group.1 hother).1
  exact (contender_of_champion (hall.mono hgroup) (mem_winners.1 h)).of_perm (group_perm hperm _)

theorem ranking_perm (rank : α → ρ) (items : List α) :
    (ranking key beats rank items).Perm (winners key beats items) :=
  List.perm_insertionSort ..

/-- Items that all have ranks of their own are ranked in strict order. -/
theorem ranking_pairwise (key : α → κ) (beats : α → α → Bool)
    (hrank : ∀ a ∈ items, ∀ b ∈ items, rank a = rank b → a = b) :
    (ranking key beats rank items).Pairwise fun a b => rank a < rank b := by
  have : Std.Total fun a b : α => rank a ≤ rank b := ⟨fun a b => le_total (rank a) (rank b)⟩
  have : IsTrans α fun a b => rank a ≤ rank b := ⟨fun _ _ _ => le_trans⟩
  have hsorted : (ranking key beats rank items).Pairwise fun a b => rank a ≤ rank b :=
    List.pairwise_insertionSort _ _
  have hnodup : (ranking key beats rank items).Nodup :=
    (ranking_perm rank items).nodup_iff.2 (winners_nodup items)
  apply (hsorted.and hnodup).imp_of_mem
  intro a b ha hb hboth
  apply lt_of_le_of_ne hboth.1
  intro he
  exact hboth.2 (hrank a (mem_of_mem_winners ((ranking_perm rank items).subset ha)) b
    (mem_of_mem_winners ((ranking_perm rank items).subset hb)) he)

/-- The items that rank before an item. -/
def before (rank : α → ρ) (item : α) (items : List α) : List α :=
  items.filter fun other => rank other < rank item

theorem mem_before : other ∈ before rank item items ↔
    other ∈ items ∧ rank other < rank item := by
  rw [before, List.mem_filter, decide_eq_true_eq]

/-- A leader is the only item that may end up as the best of its group. -/
theorem likely_unique (hall : Compared beats items) (hperm : order.Perm items)
    (hrank : ∀ a ∈ items, ∀ b ∈ items, rank a = rank b → a = b)
    (h : Settled key beats rank n items) (hitem : item ∈ leaders key beats rank n order)
    (hlikely : Likely key beats items other) (hkey : key item = key other) : item = other := by
  have horder : ∀ a ∈ order, ∀ b ∈ order, rank a = rank b → a = b :=
    fun a ha b hb => hrank a (hperm.subset ha) b (hperm.subset hb)
  rw [leaders, mem_take_iff (ranking_pairwise key beats horder)] at hitem
  have hwinner := (ranking_perm rank order).subset hitem.1
  by_contra hne
  obtain ⟨ks, hnodup, hlength, hks⟩ :=
    h item other (likely_of_winner hall hperm hwinner) hlikely hkey hne
  have hsub : ks ⊆ (before rank item (ranking key beats rank order)).map key := by
    intro k hk
    obtain ⟨⟨member, hmember, hmk⟩, hbefore⟩ := hks k hk
    obtain ⟨best, hbest, hbk⟩ := exists_winner key beats
      (hperm.symm.subset hmember)
    have hrankBest := hbefore best (likely_of_winner hall hperm hbest) (hbk.trans hmk)
    have hin := mem_before.2 ⟨(ranking_perm rank order).symm.subset hbest, hrankBest⟩
    exact List.mem_map.2 ⟨best, hin, hbk.trans hmk⟩
  have hle := (List.subperm_of_subset hnodup hsub).length_le
  rw [List.length_map, hlength] at hle
  exact absurd hitem.2 (Nat.not_lt.2 hle)

theorem leaders_subset (hall : Compared beats items)
    (hrank : ∀ a ∈ items, ∀ b ∈ items, rank a = rank b → a = b)
    (h : Settled key beats rank n items) (hperm : order.Perm items) (hother : other.Perm items) :
    leaders key beats rank n order ⊆ leaders key beats rank n other := by
  have hranks : ∀ l : List α, l.Perm items → ∀ a ∈ l, ∀ b ∈ l, rank a = rank b → a = b :=
    fun l hl a ha b hb => hrank a (hl.subset ha) b (hl.subset hb)
  -- a leader of one order is a winner of the other
  have hmoved : ∀ l m : List α, l.Perm items → m.Perm items →
      ∀ item ∈ leaders key beats rank n l, item ∈ ranking key beats rank m := by
    intro l m hl hm item hitem
    have hin := mem_of_mem_winners ((ranking_perm rank l).subset (List.mem_of_mem_take hitem))
    obtain ⟨best, hbest, hk⟩ := exists_winner key beats
      (hm.symm.subset (hl.subset hin))
    rw [likely_unique hall hl hrank h hitem (likely_of_winner hall hm hbest) hk.symm]
    exact (ranking_perm rank m).symm.subset hbest
  intro item hitem
  have hin := hmoved order other hperm hother item hitem
  have hstrict := ranking_pairwise key beats (hranks other hother)
  by_contra hout
  -- otherwise the leaders of the other order all rank before the item, and are too many
  have hcount : n ≤ (before rank item (ranking key beats rank other)).length := by
    rw [leaders, mem_take_iff hstrict, not_and, Nat.not_lt] at hout
    exact hout hin
  have hsub : leaders key beats rank n other ⊆
      before rank item (ranking key beats rank order) := by
    intro leader hleader
    have hfew := ((mem_take_iff hstrict n).1 hleader).2
    refine mem_before.2 ⟨hmoved other order hother hperm leader hleader, ?_⟩
    by_contra hnot
    have hmore : (before rank item (ranking key beats rank other)).length ≤
        (before rank leader (ranking key beats rank other)).length := by
      apply List.Sublist.length_le
      apply List.monotone_filter_right
      intro a ha
      rw [decide_eq_true_eq] at ha ⊢
      exact lt_of_lt_of_le ha (not_lt.1 hnot)
    exact absurd (hcount.trans hmore) (Nat.not_le.2 hfew)
  have hnodup : (leaders key beats rank n other).Nodup :=
    ((ranking_perm rank other).nodup_iff.2 (winners_nodup other)).sublist (List.take_sublist ..)
  have hle := (List.subperm_of_subset hnodup hsub).length_le
  have hlong : (leaders key beats rank n other).length = n := by
    rw [leaders, List.length_take]
    apply Nat.min_eq_left
    exact hcount.trans (List.length_filter_le ..)
  have hfew := ((mem_take_iff (ranking_pairwise key beats (hranks order hperm)) n).1 hitem).2
  rw [hlong] at hle
  exact absurd hle (Nat.not_le.2 hfew)

/-- The leaders of settled items do not depend on their order. -/
theorem leaders_perm (hall : Compared beats items)
    (hrank : ∀ a ∈ items, ∀ b ∈ items, rank a = rank b → a = b)
    (h : Settled key beats rank n items) (hperm : order.Perm items) :
    leaders key beats rank n order = leaders key beats rank n items := by
  have horder : ∀ a ∈ order, ∀ b ∈ order, rank a = rank b → a = b :=
    fun a ha b hb => hrank a (hperm.subset ha) b (hperm.subset hb)
  have hsorted : ∀ l : List α, (∀ a ∈ l, ∀ b ∈ l, rank a = rank b → a = b) →
      (leaders key beats rank n l).Pairwise fun a b => rank a < rank b :=
    fun l hl => (ranking_pairwise key beats hl).sublist (List.take_sublist ..)
  have hnodup : ∀ l : List α, (leaders key beats rank n l).Nodup := fun l =>
    ((ranking_perm rank l).nodup_iff.2 (winners_nodup l)).sublist (List.take_sublist ..)
  have hsame : (leaders key beats rank n order).Perm (leaders key beats rank n items) := by
    rw [List.perm_ext_iff_of_nodup (hnodup order) (hnodup items)]
    intro item
    exact ⟨fun hi => leaders_subset hall hrank h hperm (List.Perm.refl _) hi,
      fun hi => leaders_subset hall hrank h (List.Perm.refl _) hperm hi⟩
  apply hsame.eq_of_pairwise _ (hsorted order horder) (hsorted items hrank)
  intro a b ha hb hab hba
  exact (lt_asymm hab hba).elim

/-- Some order of the items makes chosen items the best of their groups. -/
theorem exists_order (hall : Compared beats items) (hnodup : items.Nodup) (choice : κ → α)
    (hchoice : ∀ item ∈ items, Contender beats (group key items (key item)) (choice (key item))) :
    ∃ order : List α, order.Perm items ∧
      ∀ item ∈ items, champion beats (group key order (key item)) = some (choice (key item)) := by
  have heach : ∀ k, ∃ part : List α, part.Perm (group key items k) ∧
      ((∃ item ∈ items, key item = k) → champion beats part = some (choice k)) := by
    intro k
    by_cases hk : ∃ item ∈ items, key item = k
    · obtain ⟨item, hitem, rfl⟩ := hk
      have hgroup : group key items (key item) ⊆ items := fun a ha => (mem_group.1 ha).1
      obtain ⟨part, hpart, hbest⟩ := exists_champion (hall.mono hgroup)
        (hnodup.filter _) (hchoice item hitem)
      exact ⟨part, hpart, fun _ => hbest⟩
    · exact ⟨group key items k, .refl _, fun h => (hk h).elim⟩
  choose part hpart hbest using heach
  have hkey : ∀ k, ∀ a ∈ part k, key a = k := fun k a ha =>
    (mem_group.1 ((hpart k).subset ha)).2
  have hgroup : ∀ ks : List κ, ks.Nodup → ∀ k,
      group key (ks.flatMap part) k = if k ∈ ks then part k else [] := by
    intro ks hks k
    induction ks with
    | nil => rfl
    | cons l ks ih =>
      rw [List.nodup_cons] at hks
      have happend : group key ((l :: ks).flatMap part) k =
          group key (part l) k ++ group key (ks.flatMap part) k := by
        rw [group, List.flatMap_cons, List.filter_append]
        rfl
      rw [happend, ih hks.2]
      by_cases hl : l = k
      · subst hl
        have hwhole : group key (part l) l = part l :=
          List.filter_eq_self.2 fun a ha => decide_eq_true (hkey l a ha)
        rw [hwhole, if_neg hks.1, if_pos (List.mem_cons_self ..), List.append_nil]
      · have hnone : group key (part l) k = [] := by
          rw [group, List.filter_eq_nil_iff]
          intro a ha hak
          exact hl ((hkey l a ha).symm.trans (of_decide_eq_true hak))
        have hiff : k ∈ l :: ks ↔ k ∈ ks := by
          rw [List.mem_cons, or_iff_right (Ne.symm hl)]
        rw [hnone, List.nil_append]
        exact if_congr hiff.symm rfl rfl
  have hks : (items.map key).dedup.Nodup := List.nodup_dedup _
  refine ⟨(items.map key).dedup.flatMap part, ?_, ?_⟩
  · rw [List.perm_ext_iff_of_nodup _ hnodup]
    · intro a
      rw [List.mem_flatMap]
      constructor
      · rintro ⟨k, -, ha⟩
        exact (mem_group.1 ((hpart k).subset ha)).1
      · intro ha
        refine ⟨key a, List.mem_dedup.2 (List.mem_map_of_mem ha), ?_⟩
        exact (hpart (key a)).symm.subset (mem_group.2 ⟨ha, rfl⟩)
    · rw [List.nodup_flatMap]
      refine ⟨fun k _ => (hpart k).nodup_iff.2 (hnodup.filter _), hks.imp ?_⟩
      intro k l hkl a hak hal
      exact hkl ((hkey k a hak).symm.trans (hkey l a hal))
  · intro item hitem
    have hin : key item ∈ (items.map key).dedup := List.mem_dedup.2 (List.mem_map_of_mem hitem)
    rw [hgroup _ hks, if_pos hin]
    exact hbest (key item) ⟨item, hitem, rfl⟩

/-- Items that are not settled have leaders that depend on their order. -/
theorem settled_of_leaders (hall : Compared beats items) (hnodup : items.Nodup)
    (hrank : ∀ a ∈ items, ∀ b ∈ items, rank a = rank b → a = b)
    (h : ∀ order : List α, order.Perm items →
      leaders key beats rank n order = leaders key beats rank n items) :
    Settled key beats rank n items := by
  intro a b ha hb hkey hne
  -- the best items that leave `a` as many items before it as any do, but for the group of `a`
  have hbest : ∀ k, ∃ best : α, (∃ item ∈ items, key item = k) →
      Contender beats (group key items k) best ∧
      (rank best < rank a → ∀ item, Likely key beats items item → key item = k →
        rank item < rank a) := by
    intro k
    by_cases hk : ∃ item ∈ items, key item = k
    · by_cases hsure : ∀ item, Likely key beats items item → key item = k → rank item < rank a
      · obtain ⟨item, hitem, rfl⟩ := hk
        obtain ⟨best, hwinner, hbk⟩ := exists_winner key beats hitem
        have hlikely := likely_of_winner hall (List.Perm.refl _) hwinner
        rw [Likely, hbk] at hlikely
        exact ⟨best, fun _ => ⟨hlikely, fun _ => hsure⟩⟩
      · push Not at hsure
        obtain ⟨item, hlikely, rfl, hnot⟩ := hsure
        exact ⟨item, fun _ => ⟨hlikely, fun hlt => (not_lt.2 hnot hlt).elim⟩⟩
    · exact ⟨a, fun h => (hk h).elim⟩
  choose best hbest using hbest
  have horder : ∀ chosen, Likely key beats items chosen → key chosen = key a →
      ∃ order : List α, order.Perm items ∧ ∀ item ∈ items,
        champion beats (group key order (key item)) =
          some (if key item = key a then chosen else best (key item)) := by
    intro chosen hlikely hchosen
    apply exists_order hall hnodup (fun k => if k = key a then chosen else best k)
    intro item hitem
    by_cases he : key item = key a
    · rw [if_pos he, he, ← hchosen]
      exact hlikely
    · rw [if_neg he]
      exact (hbest (key item) ⟨item, hitem, rfl⟩).1
  obtain ⟨order, hperm, hchampion⟩ := horder a ha rfl
  obtain ⟨other, hother, hchampionOther⟩ := horder b hb hkey.symm
  have hsub : ∀ l : List α, l.Perm items → ∀ a ∈ l, ∀ b ∈ l, rank a = rank b → a = b :=
    fun l hl a ha b hb => hrank a (hl.subset ha) b (hl.subset hb)
  have hin : a ∈ ranking key beats rank order := by
    apply (ranking_perm rank order).symm.subset
    rw [mem_winners, hchampion a ha.mem, if_pos rfl]
  have hout : a ∉ leaders key beats rank n order := by
    rw [h order hperm, ← h other hother]
    intro hmem
    have hwinner := (ranking_perm rank other).subset (List.mem_of_mem_take hmem)
    rw [mem_winners, hchampionOther a ha.mem, if_pos rfl, Option.some.injEq] at hwinner
    exact hne hwinner.symm
  rw [leaders, mem_take_iff (ranking_pairwise key beats (hsub order hperm)), not_and,
    Nat.not_lt] at hout
  have hlong := hout hin
  have hkeys : ((before rank a (ranking key beats rank order)).map key).Nodup := by
    apply List.Nodup.map_on
    · intro x hx y hy hxy
      exact eq_of_mem_winners ((ranking_perm rank order).subset (mem_before.1 hx).1)
        ((ranking_perm rank order).subset (mem_before.1 hy).1) hxy
    · exact ((ranking_perm rank order).nodup_iff.2 (winners_nodup order)).filter _
  refine ⟨((before rank a (ranking key beats rank order)).map key).take n,
    hkeys.sublist (List.take_sublist ..), ?_, ?_⟩
  · rw [List.length_take, List.length_map]
    exact Nat.min_eq_left hlong
  · intro k hk
    obtain ⟨item, hitem, rfl⟩ := List.mem_map.1 (List.mem_of_mem_take hk)
    obtain ⟨hranked, hlt⟩ := mem_before.1 hitem
    have hwinner := (ranking_perm rank order).subset hranked
    have hmem := hperm.subset (mem_of_mem_winners hwinner)
    refine ⟨⟨item, hmem, rfl⟩, ?_⟩
    rw [mem_winners, hchampion item hmem, Option.some.injEq] at hwinner
    by_cases he : key item = key a
    · rw [if_pos he] at hwinner
      rw [← hwinner] at hlt
      exact (lt_irrefl _ hlt).elim
    · rw [if_neg he] at hwinner
      rw [← hwinner] at hlt
      intro other hlikely hko
      rw [← hwinner] at hko
      exact (hbest (key item) ⟨item, hmem, rfl⟩).2 hlt other hlikely
        (hko.trans (congrArg key hwinner))

/-- The leaders do not depend on the order of the items exactly when these are settled. -/
theorem leaders_perm_iff (hall : Compared beats items) (hnodup : items.Nodup)
    (hrank : ∀ a ∈ items, ∀ b ∈ items, rank a = rank b → a = b) :
    (∀ order : List α, order.Perm items →
      leaders key beats rank n order = leaders key beats rank n items) ↔
        Settled key beats rank n items :=
  ⟨settled_of_leaders hall hnodup hrank, fun h _ => leaders_perm hall hrank h⟩

end Orders

end RunningBest
