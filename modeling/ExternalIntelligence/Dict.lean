import Mathlib

namespace Dict
set_option autoImplicit true

variable [DecidableEq κ]

/-- Sets a key of an insertion-ordered map: an existing key keeps its place. -/
def set (k : κ) (v : α) : List (κ × α) → List (κ × α)
  | [] => [(k, v)]
  | (k', v') :: d => if k' = k then (k, v) :: d else (k', v') :: set k v d

/-- The keys in the order they were first set. -/
def keys (d : List (κ × α)) : List κ :=
  d.map Prod.fst

/-- Sets every pair of `e` in turn. -/
def update (d e : List (κ × α)) : List (κ × α) :=
  e.foldl (fun acc p => set p.1 p.2 acc) d

variable [BEq κ] [LawfulBEq κ]

@[simp] theorem lookup_cons (k k' : κ) (v : α) (d : List (κ × α)) :
    ((k', v) :: d).lookup k = if k' = k then some v else d.lookup k := by
  rw [List.lookup_cons]
  by_cases h : k = k'
  · simp [h]
  · rw [if_neg (Ne.symm h), beq_eq_false_iff_ne.2 h]

theorem lookup_set (k k' : κ) (v : α) (d : List (κ × α)) :
    (set k v d).lookup k' = if k = k' then some v else d.lookup k' := by
  induction d with
  | nil => simp [set]
  | cons p d ih =>
    obtain ⟨k₀, v₀⟩ := p
    by_cases h : k₀ = k
    · subst h
      simp only [set, if_pos, lookup_cons]
      split <;> rfl
    · simp only [set, if_neg h, lookup_cons, ih]
      by_cases h₀ : k₀ = k'
      · subst h₀
        simp [Ne.symm h]
      · simp [h₀]

@[simp] theorem lookup_set_self (k : κ) (v : α) (d : List (κ × α)) :
    (set k v d).lookup k = some v := by
  rw [lookup_set, if_pos rfl]

theorem lookup_set_of_ne {k k' : κ} (h : k ≠ k') (v : α) (d : List (κ × α)) :
    (set k v d).lookup k' = d.lookup k' := by
  rw [lookup_set, if_neg h]

theorem mem_of_lookup {d : List (κ × α)} (h : d.lookup k = some v) : (k, v) ∈ d := by
  induction d with
  | nil => simp at h
  | cons p d ih =>
    obtain ⟨k₀, v₀⟩ := p
    rw [lookup_cons] at h
    split at h
    · simp_all
    · exact List.mem_cons_of_mem _ (ih h)

theorem lookup_eq_none_iff {d : List (κ × α)} : d.lookup k = none ↔ k ∉ keys d := by
  induction d with
  | nil => simp [keys]
  | cons p d ih =>
    obtain ⟨k₀, v₀⟩ := p
    rw [lookup_cons]
    by_cases h : k₀ = k
    · simp [keys, h]
    · simpa [keys, h, Ne.symm h] using ih

theorem lookup_isSome_iff {d : List (κ × α)} : (d.lookup k).isSome ↔ k ∈ keys d := by
  rw [← not_iff_not, ← lookup_eq_none_iff, Bool.not_eq_true, Option.isSome_eq_false_iff,
    Option.isNone_iff_eq_none]

theorem lookup_of_mem {d : List (κ × α)} (hd : (keys d).Nodup) (h : (k, v) ∈ d) :
    d.lookup k = some v := by
  induction d with
  | nil => simp at h
  | cons p d ih =>
    obtain ⟨k₀, v₀⟩ := p
    have hd' := List.nodup_cons.1 hd
    rw [lookup_cons]
    rcases List.mem_cons.1 h with he | hm
    · simp_all
    · have hne : k₀ ≠ k := by
        rintro rfl
        exact hd'.1 (List.mem_map.2 ⟨_, hm, rfl⟩)
      rw [if_neg hne]
      exact ih hd'.2 hm

theorem mem_iff_lookup {d : List (κ × α)} (hd : (keys d).Nodup) :
    (k, v) ∈ d ↔ d.lookup k = some v :=
  ⟨lookup_of_mem hd, mem_of_lookup⟩

theorem mem_keys_set {d : List (κ × α)} : k' ∈ keys (set k v d) ↔ k' = k ∨ k' ∈ keys d := by
  rw [← lookup_isSome_iff, lookup_set, ← lookup_isSome_iff]
  by_cases h : k = k'
  · simp [h]
  · simp [h, Ne.symm h]

theorem keys_set_nodup {d : List (κ × α)} (hd : (keys d).Nodup) : (keys (set k v d)).Nodup := by
  induction d with
  | nil => simp [set, keys]
  | cons p d ih =>
    obtain ⟨k₀, v₀⟩ := p
    have hd' := List.nodup_cons.1 hd
    by_cases h : k₀ = k
    · subst h
      simpa [set, keys] using hd
    · have hk : k₀ ∉ keys (set k v d) := by
        rw [mem_keys_set]
        rintro (he | hm)
        · exact h he
        · exact hd'.1 hm
      simp only [set, if_neg h]
      exact List.nodup_cons.2 ⟨hk, ih hd'.2⟩

theorem mem_set {d : List (κ × α)} (hd : (keys d).Nodup) :
    (k', v') ∈ set k v d ↔ (k' = k ∧ v' = v) ∨ (k' ≠ k ∧ (k', v') ∈ d) := by
  rw [mem_iff_lookup (keys_set_nodup hd), lookup_set, mem_iff_lookup hd]
  by_cases h : k = k'
  · simp [h, eq_comm]
  · simp [h, Ne.symm h]

theorem lookup_erase {k k' : κ} (d : List (κ × α)) :
    (d.filter (·.1 != k)).lookup k' = if k' = k then none else d.lookup k' := by
  induction d with
  | nil => simp
  | cons p d ih =>
    obtain ⟨k₀, v₀⟩ := p
    by_cases h₀ : k₀ = k
    · rw [List.filter_cons_of_neg (by simp [h₀]), ih, lookup_cons]
      by_cases hk : k' = k
      · rw [if_pos hk, if_pos hk]
      · rw [if_neg hk, if_neg hk, if_neg (fun he => hk (he.symm.trans h₀))]
    · rw [List.filter_cons_of_pos (by simpa using h₀), lookup_cons, lookup_cons, ih]
      by_cases hk : k' = k
      · rw [if_pos hk, if_pos hk, if_neg (fun he => h₀ (he.trans hk))]
      · rw [if_neg hk, if_neg hk]

theorem lookup_filter_ne {k k' : κ} (h : k' ≠ k) (d : List (κ × α)) :
    (d.filter fun p => p.1 ≠ k).lookup k' = d.lookup k' := by
  induction d with
  | nil => rfl
  | cons p d ih =>
    obtain ⟨k₀, v₀⟩ := p
    by_cases h₀ : k₀ = k
    · subst h₀
      simpa [Ne.symm h] using ih
    · simp only [ne_eq, h₀, not_false_eq_true, decide_true, List.filter_cons_of_pos, lookup_cons]
      split
      · rfl
      · simpa using ih

omit [DecidableEq κ] [BEq κ] [LawfulBEq κ] in
theorem keys_filter_nodup {d : List (κ × α)} (hd : (keys d).Nodup) (f : κ × α → Bool) :
    (keys (d.filter f)).Nodup :=
  hd.sublist (List.filter_sublist.map _)

omit [BEq κ] [LawfulBEq κ] in
theorem update_cons (d : List (κ × α)) (k : κ) (v : α) (e : List (κ × α)) :
    update d ((k, v) :: e) = update (set k v d) e :=
  rfl

theorem lookup_update {e : List (κ × α)} (he : (keys e).Nodup) (d : List (κ × α)) (k : κ) :
    (update d e).lookup k = (e.lookup k).or (d.lookup k) := by
  induction e generalizing d with
  | nil => rfl
  | cons p e ih =>
    obtain ⟨k₀, v₀⟩ := p
    have he' := List.nodup_cons.1 he
    rw [update_cons, ih he'.2, lookup_set, lookup_cons]
    by_cases h : k₀ = k
    · subst h
      simp [lookup_eq_none_iff.2 he'.1]
    · simp [h]

theorem lookup_update_of_notMem {e : List (κ × α)} (h : k ∉ keys e) (d : List (κ × α)) :
    (update d e).lookup k = d.lookup k := by
  induction e generalizing d with
  | nil => rfl
  | cons p e ih =>
    obtain ⟨k₀, v₀⟩ := p
    have h' : k ≠ k₀ ∧ k ∉ keys e := by simpa [keys] using h
    rw [update_cons, ih h'.2, lookup_set_of_ne h'.1.symm]

theorem keys_update_nodup {d : List (κ × α)} (hd : (keys d).Nodup) (e : List (κ × α)) :
    (keys (update d e)).Nodup := by
  induction e generalizing d with
  | nil => exact hd
  | cons p e ih => exact ih (keys_set_nodup hd)

omit [BEq κ] [LawfulBEq κ] in
theorem mem_of_mem_set {d : List (κ × α)} (h : p ∈ set k v d) : p = (k, v) ∨ p ∈ d := by
  induction d with
  | nil => exact .inl (List.mem_singleton.1 h)
  | cons q d ih =>
    rw [set] at h
    split at h
    · cases List.mem_cons.1 h with
      | inl he => exact .inl he
      | inr hd => exact .inr (List.mem_cons_of_mem _ hd)
    · cases List.mem_cons.1 h with
      | inl he => exact .inr (he ▸ List.mem_cons_self)
      | inr hd => exact (ih hd).imp_right (List.mem_cons_of_mem _)

omit [BEq κ] [LawfulBEq κ] in
theorem keys_set_of_mem {d : List (κ × α)} (h : k ∈ keys d) : keys (set k v d) = keys d := by
  induction d with
  | nil => cases h
  | cons q d ih =>
    rw [set]
    split
    · rename_i he
      rw [keys, keys, List.map_cons, List.map_cons, he]
    · rename_i hne
      have hd : k ∈ keys d := (List.mem_cons.1 h).resolve_left (Ne.symm hne)
      rw [keys, keys, List.map_cons, List.map_cons, ← keys, ← keys, ih hd]

omit [BEq κ] [LawfulBEq κ] in
theorem set_of_notMem {d : List (κ × α)} (h : k ∉ keys d) : set k v d = d ++ [(k, v)] := by
  induction d with
  | nil => rfl
  | cons q d ih =>
    rw [keys, List.map_cons, List.mem_cons, not_or] at h
    rw [set, if_neg (Ne.symm h.1), ih h.2]
    rfl

omit [BEq κ] [LawfulBEq κ] in
/-- Fields of new keys are put after the others. -/
theorem update_of_nodup {d e : List (κ × α)} (h : (keys (d ++ e)).Nodup) : update d e = d ++ e := by
  induction e generalizing d with
  | nil => exact (List.append_nil d).symm
  | cons p e ih =>
    obtain ⟨k, v⟩ := p
    have hk : k ∉ keys d := by
      rw [keys, List.map_append, List.map_cons] at h
      exact fun hmem => List.disjoint_of_nodup_append h hmem (List.mem_cons_self ..)
    rw [update_cons, set_of_notMem hk, ih]
    · rw [List.append_assoc]
      rfl
    · rw [List.append_assoc]
      exact h

end Dict
