import Mathlib.Data.List.Induction

namespace Except
set_option autoImplicit true

theorem exists_ok_of_decide {x : Except ε α} {p : α → Prop} [DecidablePred p]
    (h : (x.toOption.any fun a => decide (p a)) = true) : ∃ a, x = .ok a ∧ p a := by
  cases x with
  | error e => cases h
  | ok a => exact ⟨a, rfl, of_decide_eq_true h⟩

theorem exists_ok_of_isOk {x : Except ε α} (h : x.isOk = true) : ∃ a, x = .ok a := by
  cases x with
  | error e => cases h
  | ok a => exact ⟨a, rfl⟩

theorem bind_eq_ok {x : Except ε α} {f : α → Except ε β} :
    x.bind f = .ok b ↔ ∃ a, x = .ok a ∧ f a = .ok b := by
  cases x with
  | error e => simp [Except.bind]
  | ok a => simp [Except.bind]

theorem map_eq_ok {x : Except ε α} {f : α → β} : x.map f = .ok b ↔ ∃ a, x = .ok a ∧ f a = b := by
  cases x with
  | error e => simp [Except.map]
  | ok a => simp [Except.map]

theorem foldlM_cons_ok {f : σ → α → Except ε σ} :
    (a :: l).foldlM f s = .ok t ↔ ∃ m, f s a = .ok m ∧ l.foldlM f m = .ok t := by
  rw [List.foldlM_cons]
  exact bind_eq_ok

theorem foldlM_concat_ok {f : σ → α → Except ε σ} :
    (l ++ [a]).foldlM f s = .ok t ↔ ∃ m, l.foldlM f s = .ok m ∧ f m a = .ok t := by
  rw [List.foldlM_append]
  apply bind_eq_ok.trans
  simp only [foldlM_cons_ok, List.foldlM_nil]
  apply exists_congr
  intro m
  apply and_congr_right
  intro _
  constructor
  · rintro ⟨n, hn, he⟩
    cases he
    exact hn
  · intro hm
    exact ⟨t, hm, rfl⟩

/-- What every step keeps is kept by a fold. -/
theorem foldlM_invariant {l : List α} {f : σ → α → Except ε σ} {I : σ → Prop}
    (hstep : ∀ s, ∀ a ∈ l, ∀ t, I s → f s a = .ok t → I t) (hs : I s)
    (h : l.foldlM f s = .ok t) : I t := by
  induction l generalizing s with
  | nil =>
    cases h
    exact hs
  | cons a l ih =>
    obtain ⟨m, hm, ht⟩ := foldlM_cons_ok.1 h
    apply ih _ (hstep s a List.mem_cons_self m hs hm) ht
    intro s b hb
    exact hstep s b (List.mem_cons_of_mem _ hb)

/-- What only the steps of some elements write is, after a fold, what the last of them wrote. -/
theorem foldlM_last {l : List α} {f : σ → α → Except ε σ} {I : σ → Prop} {w : α → Bool} {r : σ → ρ}
    {v : α → ρ} (hstep : ∀ s, ∀ a ∈ l, ∀ t, I s → f s a = .ok t →
      I t ∧ r t = if w a then v a else r s) (hs : I s)
    (h : l.foldlM f s = .ok t) :
    r t = ((l.filter w).getLast?.map v).getD (r s) := by
  induction l using List.reverseRecOn generalizing t with
  | nil =>
    cases h
    rfl
  | append_singleton l a ih =>
    obtain ⟨m, hm, ht⟩ := foldlM_concat_ok.1 h
    have hl : ∀ s, ∀ b ∈ l, ∀ t, I s → f s b = .ok t →
        I t ∧ r t = if w b then v b else r s := by
      intro s b hb
      exact hstep s b (List.mem_append_left _ hb)
    have hI : I m := by
      apply foldlM_invariant _ hs hm
      intro s b hb t hI ht
      exact (hl s b hb t hI ht).1
    have ha := (hstep m a (List.mem_append_right _ List.mem_cons_self) t hI ht).2
    rw [ha, List.filter_append]
    cases hw : w a with
    | true => simp [hw]
    | false => simpa [hw] using ih hl hm

end Except
