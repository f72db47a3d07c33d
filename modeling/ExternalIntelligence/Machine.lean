import Mathlib.Data.List.Induction

/-- A machine that takes one input at a time and answers each with an output. -/
structure Machine (σ ι ο : Type) where
  step : σ → ι → σ × ο

namespace Machine
set_option autoImplicit true

variable {σ ι ο : Type} (M : Machine σ ι ο)

/-- The state after a list of inputs. -/
def after (s : σ) (inputs : List ι) : σ :=
  inputs.foldl (fun s i => (M.step s i).1) s

/-- The answer to an input given after others. -/
def output (s : σ) (inputs : List ι) (i : ι) : ο :=
  (M.step (M.after s inputs) i).2

/-- Every input of a run meets a condition on it and the state it is given in. -/
def Guarded (G : σ → ι → Prop) (s : σ) (inputs : List ι) : Prop :=
  ∀ earlier i later, inputs = earlier ++ i :: later → G (M.after s earlier) i

@[simp] theorem after_nil (s : σ) : M.after s [] = s :=
  rfl

theorem after_concat (s : σ) (inputs : List ι) (i : ι) :
    M.after s (inputs ++ [i]) = (M.step (M.after s inputs) i).1 := by
  simp only [after, List.foldl_append, List.foldl_cons, List.foldl_nil]

theorem after_append (s : σ) (inputs later : List ι) :
    M.after s (inputs ++ later) = M.after (M.after s inputs) later := by
  simp only [after, List.foldl_append]

@[simp] theorem guarded_nil : M.Guarded G s [] := by
  intro earlier i later he
  simp at he

theorem guarded_cons : M.Guarded G s (i :: inputs) ↔
    G s i ∧ M.Guarded G (M.step s i).1 inputs := by
  constructor
  · intro h
    refine ⟨h [] i inputs rfl, fun earlier j later he => ?_⟩
    exact h (i :: earlier) j later (by rw [he, List.cons_append])
  · rintro ⟨hi, h⟩ earlier j later he
    cases earlier with
    | nil =>
      cases he
      exact hi
    | cons k earlier =>
      cases he
      exact h earlier j later rfl

instance decidableGuarded {G : σ → ι → Prop} [∀ s i, Decidable (G s i)] :
    ∀ s inputs, Decidable (M.Guarded G s inputs)
  | _, [] => .isTrue (guarded_nil M)
  | s, i :: inputs =>
    have : Decidable (M.Guarded G (M.step s i).1 inputs) := decidableGuarded _ inputs
    decidable_of_iff _ (guarded_cons M).symm

theorem Guarded.append (h : M.Guarded G s inputs) (h' : M.Guarded G (M.after s inputs) later) :
    M.Guarded G s (inputs ++ later) := by
  induction inputs generalizing s with
  | nil => exact h'
  | cons i inputs ih =>
    obtain ⟨hi, hinputs⟩ := (guarded_cons M).1 h
    exact (guarded_cons M).2 ⟨hi, ih hinputs h'⟩

theorem Guarded.of_append (h : M.Guarded G s (inputs ++ later)) : M.Guarded G s inputs := by
  intro earlier i rest he
  exact h earlier i (rest ++ later) (by simp [he])

theorem Guarded.last (h : M.Guarded G s (inputs ++ [i])) : G (M.after s inputs) i :=
  h inputs i [] rfl

/-- Inputs that leave a state as it is leave it so together. -/
theorem after_of_fixed (h : ∀ i ∈ inputs, (M.step s i).1 = s) : M.after s inputs = s := by
  induction inputs with
  | nil => rfl
  | cons i inputs ih =>
    rw [after, List.foldl_cons, h i List.mem_cons_self]
    exact ih fun j hj => h j (List.mem_cons_of_mem _ hj)

/-- What holds at the start and is kept by every guarded step holds after every guarded run. -/
theorem guarded_invariant {I : σ → Prop} (hstep : ∀ s i, I s → G s i → I (M.step s i).1)
    (hs : I s) (hrun : M.Guarded G s inputs) : I (M.after s inputs) := by
  induction inputs using List.reverseRecOn with
  | nil => exact hs
  | append_singleton inputs i ih =>
    rw [after_concat]
    exact hstep _ _ (ih (Guarded.of_append M hrun)) (Guarded.last M hrun)

theorem invariant {I : σ → Prop} (hstep : ∀ s i, I s → I (M.step s i).1) (hs : I s)
    (inputs : List ι) : I (M.after s inputs) := by
  apply guarded_invariant (G := fun _ _ => True) M
  · intro s i hi _
    exact hstep s i hi
  · exact hs
  · intro _ _ _ _
    trivial

end Machine
