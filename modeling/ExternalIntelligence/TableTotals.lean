import ExternalIntelligence.Dict

namespace Dict
set_option autoImplicit true

/-- The sum of a measure over the values of a map. -/
def total (f : α → Nat) (d : List (κ × α)) : Nat :=
  (d.map fun p => f p.2).sum

@[simp] theorem total_nil (f : α → Nat) : total f ([] : List (κ × α)) = 0 :=
  rfl

@[simp] theorem total_cons (f : α → Nat) (k : κ) (v : α) (d : List (κ × α)) :
    total f ((k, v) :: d) = f v + total f d :=
  rfl

variable [DecidableEq κ] [BEq κ] [LawfulBEq κ]

/-- The measure of what a key has. -/
def measureAt (f : α → Nat) (k : κ) (d : List (κ × α)) : Nat :=
  ((d.lookup k).map f).getD 0

omit [DecidableEq κ] [LawfulBEq κ] in
@[simp] theorem measureAt_nil (f : α → Nat) (k : κ) :
    measureAt f k ([] : List (κ × α)) = 0 :=
  rfl

omit [DecidableEq κ] [LawfulBEq κ] in
theorem measureAt_of_lookup {d : List (κ × α)} {f : α → Nat} (h : d.lookup k = some v) :
    measureAt f k d = f v := by
  rw [measureAt, h]
  rfl

omit [DecidableEq κ] [LawfulBEq κ] in
theorem measureAt_of_missing {d : List (κ × α)} {f : α → Nat} (h : d.lookup k = none) :
    measureAt f k d = 0 := by
  rw [measureAt, h]
  rfl

theorem measureAt_cons (f : α → Nat) (k k' : κ) (v : α) (d : List (κ × α)) :
    measureAt f k ((k', v) :: d) = if k' = k then f v else measureAt f k d := by
  rw [measureAt, lookup_cons, measureAt]
  split <;> rfl

theorem total_set (f : α → Nat) (k : κ) (v : α) (d : List (κ × α)) :
    total f (set k v d) + measureAt f k d = total f d + f v := by
  induction d with
  | nil =>
    rw [set, total_cons, measureAt_nil, total_nil]
    omega
  | cons p d ih =>
    obtain ⟨k', v'⟩ := p
    rw [measureAt_cons, set]
    by_cases h : k' = k
    · rw [if_pos h, if_pos h, total_cons, total_cons]
      omega
    · rw [if_neg h, if_neg h, total_cons, total_cons]
      omega

omit [DecidableEq κ] in
theorem filter_of_notMem {d : List (κ × α)} (h : k ∉ keys d) : d.filter (·.1 != k) = d := by
  apply List.filter_eq_self.2
  intro p hp
  rw [bne_iff_ne]
  intro he
  exact h (he ▸ List.mem_map_of_mem hp)

theorem total_erase (f : α → Nat) (k : κ) {d : List (κ × α)} (hd : (keys d).Nodup) :
    total f (d.filter (·.1 != k)) + measureAt f k d = total f d := by
  induction d with
  | nil => rfl
  | cons p d ih =>
    obtain ⟨k', v'⟩ := p
    have hnot : k' ∉ keys d := (List.nodup_cons.1 hd).1
    have hd' : (keys d).Nodup := (List.nodup_cons.1 hd).2
    rw [measureAt_cons]
    by_cases h : k' = k
    · rw [List.filter_cons_of_neg (by simp [h]), if_pos h, total_cons,
        filter_of_notMem (h ▸ hnot)]
      omega
    · rw [List.filter_cons_of_pos (by simpa using h), if_neg h, total_cons, total_cons, ← ih hd']
      omega

omit [DecidableEq κ] [LawfulBEq κ] in
theorem keys_erase_nodup {d : List (κ × α)} (hd : (keys d).Nodup) :
    (keys (d.filter (·.1 != k))).Nodup :=
  hd.sublist (List.filter_sublist.map _)

/-- Where each key has at most what it has in another map, so has the whole. -/
theorem sum_le_total {f : κ × β → Nat} {g : α → Nat} {d : List (κ × β)} {e : List (κ × α)}
    (hd : (keys d).Nodup) (he : (keys e).Nodup) (h : ∀ p ∈ d, f p ≤ measureAt g p.1 e) :
    (d.map f).sum ≤ total g e := by
  induction d generalizing e with
  | nil => exact Nat.zero_le _
  | cons p d ih =>
    have hnot : p.1 ∉ keys d := (List.nodup_cons.1 hd).1
    have hrest : (d.map f).sum ≤ total g (e.filter (·.1 != p.1)) := by
      apply ih (List.nodup_cons.1 hd).2 (keys_erase_nodup he)
      intro q hq
      have hne : q.1 ≠ p.1 := fun hqp => hnot (hqp ▸ List.mem_map_of_mem hq)
      rw [measureAt, lookup_erase, if_neg hne]
      exact h q (List.mem_cons_of_mem _ hq)
    have hfirst := h p List.mem_cons_self
    have htotal := total_erase g p.1 he
    rw [List.map_cons, List.sum_cons]
    omega

end Dict
