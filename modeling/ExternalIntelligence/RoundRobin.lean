import Mathlib.Data.List.Sort
import Mathlib.Order.Basic

/-! Visiting the members of a sorted list in turn, a few at a time, from a cursor on. -/

namespace RoundRobin
set_option autoImplicit true

variable {α : Type} [LinearOrder α] {xs : List α} {cursor : Option α}

/-- The members after the cursor, and then those up to it. -/
def order (xs : List α) : Option α → List α
  | none => xs
  | some c => xs.dropWhile (· ≤ c) ++ xs.takeWhile (· ≤ c)

theorem order_perm (xs : List α) (cursor : Option α) : (order xs cursor).Perm xs := by
  cases cursor with
  | none => exact .refl _
  | some c =>
    apply List.perm_append_comm.trans
    rw [List.takeWhile_append_dropWhile]

@[simp] theorem mem_order : x ∈ order xs cursor ↔ x ∈ xs :=
  (order_perm xs cursor).mem_iff

@[simp] theorem length_order : (order xs cursor).length = xs.length :=
  (order_perm xs cursor).length_eq

/-- A sorted list falls in two at any point: what is at most that point, and what is above it. -/
theorem order_of_split {low high : List α} (hlow : ∀ y ∈ low, y ≤ c) (hhigh : ∀ y ∈ high, c < y) :
    order (low ++ high) (some c) = high ++ low := by
  have hl : ∀ y ∈ low, decide (y ≤ c) = true := fun y hy => decide_eq_true (hlow y hy)
  have hh : (high.head?.all fun y => !decide (y ≤ c)) = true := by
    cases high with
    | nil => rfl
    | cons y high => simpa using hhigh y List.mem_cons_self
  rw [order, List.dropWhile_append_of_pos hl, List.takeWhile_append_of_pos hl]
  cases high with
  | nil => simp
  | cons y high =>
    have hy : ¬y ≤ c := not_le.2 (hhigh y List.mem_cons_self)
    simp [hy]

theorem exists_split (hs : xs.Pairwise (· < ·)) (c : α) : ∃ low high, xs = low ++ high ∧
    (∀ y ∈ low, y ≤ c) ∧ ∀ y ∈ high, c < y := by
  induction xs with
  | nil => exact ⟨[], [], rfl, by simp, by simp⟩
  | cons x xs ih =>
    obtain ⟨hx, hxs⟩ := List.pairwise_cons.1 hs
    obtain ⟨low, high, rfl, hlow, hhigh⟩ := ih hxs
    by_cases hc : x ≤ c
    · exact ⟨x :: low, high, rfl, by simpa [hc] using hlow, hhigh⟩
    · refine ⟨[], x :: (low ++ high), rfl, by simp, ?_⟩
      intro y hy
      rcases List.mem_cons.1 hy with rfl | hy
      · exact not_le.1 hc
      · exact (not_le.1 hc).trans (hx y hy)

/-- Leaving members out leaves them out of the order. -/
theorem order_filter (hs : xs.Pairwise (· < ·)) (p : α → Bool) :
    order (xs.filter p) cursor = (order xs cursor).filter p := by
  cases cursor with
  | none => rfl
  | some c =>
    obtain ⟨low, high, rfl, hlow, hhigh⟩ := exists_split hs c
    rw [order_of_split hlow hhigh, List.filter_append, List.filter_append]
    apply order_of_split
    · intro y hy
      exact hlow y (List.mem_of_mem_filter hy)
    · intro y hy
      exact hhigh y (List.mem_of_mem_filter hy)

/-- With the cursor at a member the order goes on from there. -/
theorem order_at (hs : xs.Pairwise (· < ·)) (h : order xs cursor = ys ++ r :: zs) :
    order xs (some r) = zs ++ (ys ++ [r]) := by
  have hsplit : ∃ low high, xs = low ++ high ∧ order xs cursor = high ++ low := by
    cases cursor with
    | none => exact ⟨[], xs, rfl, (List.append_nil xs).symm⟩
    | some c =>
      obtain ⟨low, high, rfl, hlow, hhigh⟩ := exists_split hs c
      exact ⟨low, high, rfl, order_of_split hlow hhigh⟩
  obtain ⟨low, high, rfl, he⟩ := hsplit
  obtain ⟨hlow, hhigh, hcross⟩ := List.pairwise_append.1 hs
  rw [he] at h
  rcases List.append_eq_append_iff.1 h with ⟨mid, hys, hmid⟩ | ⟨mid, hhigh', hmid⟩
  · -- the member is in the lower part
    subst hys
    subst hmid
    obtain ⟨_, hr, hbelow⟩ := List.pairwise_append.1 hlow
    obtain ⟨habove, _⟩ := List.pairwise_cons.1 hr
    have hxs : mid ++ r :: zs ++ high = mid ++ [r] ++ (zs ++ high) := by simp
    rw [hxs, order_of_split]
    · simp
    · intro y hy
      rcases List.mem_append.1 hy with hy | hy
      · exact (hbelow y hy r List.mem_cons_self).le
      · exact (List.mem_singleton.1 hy).le
    · intro y hy
      rcases List.mem_append.1 hy with hy | hy
      · exact habove y hy
      · exact hcross r (by simp) y hy
  · cases mid with
    | nil =>
      -- the member is the first of the lower part
      rw [List.append_nil] at hhigh'
      rw [List.nil_append] at hmid
      subst hhigh'
      subst hmid
      obtain ⟨habove, _⟩ := List.pairwise_cons.1 hlow
      have hxs : r :: zs ++ high = [r] ++ (zs ++ high) := rfl
      rw [hxs, order_of_split]
      · simp
      · intro y hy
        exact (List.mem_singleton.1 hy).le
      · intro y hy
        rcases List.mem_append.1 hy with hy | hy
        · exact habove y hy
        · exact hcross r (by simp) y hy
    | cons m mid =>
      -- the member is in the upper part
      obtain ⟨rfl, rfl⟩ := List.cons.inj hmid
      subst hhigh'
      obtain ⟨_, hr, hbelow⟩ := List.pairwise_append.1 hhigh
      obtain ⟨habove, _⟩ := List.pairwise_cons.1 hr
      have hxs : low ++ (ys ++ r :: mid) = low ++ ys ++ [r] ++ mid := by simp
      rw [hxs, order_of_split]
      · simp
      · intro y hy
        rcases List.mem_append.1 hy with hy | hy
        · rcases List.mem_append.1 hy with hy | hy
          · exact (hcross y hy r (by simp)).le
          · exact (hbelow y hy r List.mem_cons_self).le
        · exact (List.mem_singleton.1 hy).le
      · intro y hy
        exact habove y hy

/-- How many members come before a given one. -/
def ahead (xs : List α) (cursor : Option α) (x : α) : Nat :=
  (order xs cursor).idxOf x

theorem ahead_lt (h : x ∈ xs) : ahead xs cursor x < xs.length := by
  have hlt := List.idxOf_lt_length_of_mem (mem_order.2 h : x ∈ order xs cursor)
  rwa [length_order] at hlt

theorem mem_take_iff (h : x ∈ xs) : x ∈ (order xs cursor).take k ↔ ahead xs cursor x < k := by
  have hmem : x ∈ order xs cursor := mem_order.2 h
  rw [ahead]
  constructor
  · intro hin
    rw [← List.take_append_drop k (order xs cursor), List.idxOf_append_of_mem hin]
    exact (List.idxOf_lt_length_of_mem hin).trans_le (List.length_take_le _ _)
  · intro hlt
    have hi := List.idxOf_lt_length_of_mem hmem
    rw [List.mem_take_iff_getElem]
    exact ⟨(order xs cursor).idxOf x, lt_min hlt hi, List.getElem_idxOf hi⟩

/-- When a visit of some members passes a given one over, and none behind them is left out, that
one is as much nearer at the next visit. -/
theorem ahead_advance {p : α → Bool} (hs : xs.Pairwise (· < ·)) (hx : x ∈ xs) (hk : 0 < k)
    (hskip : x ∉ (order xs cursor).take k) (hp : ∀ y ∈ (order xs cursor).drop k, p y = true) :
    ∃ r, ((order xs cursor).take k).getLast? = some r ∧
      ahead (xs.filter p) (some r) x + k = ahead xs cursor x := by
  have hle : k ≤ ahead xs cursor x := by
    rw [mem_take_iff hx] at hskip
    omega
  have hlong : k < (order xs cursor).length := by
    rw [length_order]
    exact hle.trans_lt (ahead_lt hx)
  have hdrop : x ∈ (order xs cursor).drop k := by
    have hin : x ∈ order xs cursor := mem_order.2 hx
    rw [← List.take_append_drop k (order xs cursor)] at hin
    exact (List.mem_append.1 hin).resolve_left hskip
  obtain ⟨ys, r, htake⟩ : ∃ ys r, (order xs cursor).take k = ys ++ [r] := by
    have hne : (order xs cursor).take k ≠ [] := by
      intro he
      have hlen := congrArg List.length he
      rw [List.length_take, List.length_nil] at hlen
      omega
    exact ⟨_, _, (List.dropLast_append_getLast hne).symm⟩
  have hsplit : order xs cursor = ys ++ r :: (order xs cursor).drop k := by
    conv => lhs; rw [← List.take_append_drop k (order xs cursor), htake]
    simp
  refine ⟨r, by rw [htake, List.getLast?_concat], ?_⟩
  have hkeep : ((order xs cursor).drop k).filter p = (order xs cursor).drop k :=
    List.filter_eq_self.2 hp
  rw [ahead, ahead, order_filter hs, order_at hs hsplit, List.filter_append, hkeep,
    List.idxOf_append_of_mem hdrop]
  conv => rhs; rw [← List.take_append_drop k (order xs cursor), List.idxOf_append_of_notMem hskip]
  rw [List.length_take, min_eq_left hlong.le]
  omega

end RoundRobin
