import Mathlib.Tactic.Common

set_option autoImplicit true

/-- What may be done to the value of a place that may have none. -/
inductive Edit (α : Type u) where
  | keep
  | put (v : Option α)
  | fill (v : α)
  | merge (u : α)

namespace Edit

variable (merged : Option α → α → α)

def apply (x : Option α) : Edit α → Option α
  | keep => x
  | put v => v
  | fill v => some (x.getD v)
  | merge u => some (merged x u)

def run (edits : List (Edit α)) (x : Option α) : Option α :=
  edits.foldl (apply merged) x

@[simp] theorem run_nil (x : Option α) : run merged [] x = x :=
  rfl

theorem run_cons (e : Edit α) (es : List (Edit α)) (x : Option α) :
    run merged (e :: es) x = run merged es (apply merged x e) :=
  rfl

/-- After a put, nothing of the first value is left. -/
theorem run_of_put (h : put v ∈ es) (x y : Option α) : run merged es x = run merged es y := by
  induction es generalizing x y with
  | nil => cases h
  | cons e es ih =>
    rw [run_cons, run_cons]
    cases List.mem_cons.1 h with
    | inl he => rw [← he, apply, apply]
    | inr hes => exact ih hes _ _

/-- A value that already has what is merged stays as it is, unless another is put there. -/
theorem run_of_merged (hput : ∀ v, put v ∉ es) (h : ∀ u, merge u ∈ es → merged (some m) u = m) :
    run merged es (some m) = some m := by
  induction es with
  | nil => rfl
  | cons e es ih =>
    have hrest : run merged es (some m) = some m :=
      ih (fun v hv => hput v (List.mem_cons_of_mem _ hv)) fun u hu =>
        h u (List.mem_cons_of_mem _ hu)
    rw [run_cons]
    cases e with
    | keep => exact hrest
    | put v => exact (hput v List.mem_cons_self).elim
    | fill v => exact hrest
    | merge u =>
      rw [apply, h u List.mem_cons_self]
      exact hrest

theorem run_eq_none (hput : ∀ v, put v ∉ es) (h : run merged es x = none) : x = none := by
  induction es generalizing x with
  | nil => exact h
  | cons e es ih =>
    have hnone : apply merged x e = none :=
      ih (fun v hv => hput v (List.mem_cons_of_mem _ hv)) h
    cases e with
    | keep => exact hnone
    | put v => exact (hput v List.mem_cons_self).elim
    | fill v => cases hnone
    | merge u => cases hnone

theorem merged_of_run (hput : ∀ v, put v ∉ es)
    (hsame : ∀ u w, merge u ∈ es → merge w ∈ es → u = w)
    (hidem : ∀ x u, merge u ∈ es → merged (some (merged x u)) u = merged x u)
    (hrun : run merged es x = some m) : ∀ u, merge u ∈ es → merged (some m) u = m := by
  induction es generalizing x with
  | nil =>
    intro u hu
    cases hu
  | cons e es ih =>
    have hput' (v : Option _) : put v ∉ es := fun hv => hput v (List.mem_cons_of_mem _ hv)
    have hsame' (u w : _) (hu : merge u ∈ es) (hw : merge w ∈ es) : u = w :=
      hsame u w (List.mem_cons_of_mem _ hu) (List.mem_cons_of_mem _ hw)
    intro u hu
    rw [run_cons] at hrun
    cases List.mem_cons.1 hu with
    | inr hes =>
      exact ih hput' hsame' (fun x u hu => hidem x u (List.mem_cons_of_mem _ hu)) hrun u hes
    | inl he =>
      subst he
      have habsorbs (w : _) (hw : merge w ∈ es) :
          merged (some (merged x u)) w = merged x u := by
        rw [← hsame u w List.mem_cons_self (List.mem_cons_of_mem _ hw)]
        exact hidem x u hu
      rw [apply, run_of_merged merged hput' habsorbs] at hrun
      rw [← Option.some.inj hrun]
      exact hidem x u hu

/-- Edits that merge nothing but one value give the same when they are run again. -/
theorem run_run (hsame : ∀ u w, merge u ∈ es → merge w ∈ es → u = w)
    (hidem : ∀ x u, merge u ∈ es → merged (some (merged x u)) u = merged x u) (x : Option α) :
    run merged es (run merged es x) = run merged es x := by
  by_cases hput : ∃ v, put v ∈ es
  · obtain ⟨v, hv⟩ := hput
    exact run_of_put merged hv _ _
  · rw [not_exists] at hput
    cases hrun : run merged es x with
    | none =>
      rw [run_eq_none merged hput hrun] at hrun
      exact hrun
    | some m =>
      exact run_of_merged merged hput (merged_of_run merged hput hsame hidem hrun)

theorem run_of_keep (h : ∀ e ∈ es, e = keep) (x : Option α) : run merged es x = x := by
  induction es generalizing x with
  | nil => rfl
  | cons e es ih =>
    rw [run_cons, h e List.mem_cons_self]
    exact ih (fun e he => h e (List.mem_cons_of_mem _ he)) x

/-- Merging one value more than once is merging it once. -/
theorem run_of_merge (h : ∀ e ∈ es, e = keep ∨ e = merge u) (hu : merge u ∈ es)
    (hidem : ∀ x, merged (some (merged x u)) u = merged x u) (x : Option α) :
    run merged es x = some (merged x u) := by
  induction es generalizing x with
  | nil => cases hu
  | cons e es ih =>
    have hrest (e : Edit α) (he : e ∈ es) : e = keep ∨ e = merge u :=
      h e (List.mem_cons_of_mem _ he)
    rw [run_cons]
    cases h e List.mem_cons_self with
    | inl hkeep =>
      rw [hkeep]
      apply ih hrest
      cases List.mem_cons.1 hu with
      | inl he => rw [hkeep] at he; cases he
      | inr hes => exact hes
    | inr hmerge =>
      rw [hmerge, apply]
      apply run_of_merged merged
      · intro v hv
        cases hrest _ hv with
        | inl he => cases he
        | inr he => cases he
      · intro w hw
        cases hrest _ hw with
        | inl he => cases he
        | inr he =>
          cases he
          exact hidem x

end Edit
