import ExternalIntelligence.Interleaving

/-- What the members of a crew, numbered as they were started, rely on and keep: an invariant of
the state, when a member may take a step, and how the others may change the state between two of
its steps. -/
structure Charter (σ : Type) where
  Holds : σ → Prop
  Runs : Nat → σ → Prop
  Leads : Nat → σ → σ → Prop
  refl : ∀ i s, Leads i s s
  trans : ∀ {i s t u}, Leads i s t → Leads i t u → Leads i s u

namespace Charter
set_option autoImplicit true

variable {σ α β ε : Type} {C : Charter σ}

/-- A step of a member keeps the invariant, and is one that the other members rely on. -/
def Keeps (C : Charter σ) (i : Nat) (s t : σ) : Prop :=
  C.Holds t ∧ ∀ j, j ≠ i → C.Leads j s t

/-- A member keeps the charter in the company of others that keep it, and what it answers meets a
condition. -/
def Meets (C : Charter σ) (i : Nat) (Q : α → σ → Prop) : Proc σ α → σ → Prop
  | .done a, s => ∀ t, C.Leads i s t → C.Holds t → Q a t
  | .step act next, s => ∀ t, C.Leads i s t → C.Holds t → C.Runs i t →
      C.Keeps i t (act t) ∧ Meets C i Q (next t) (act t)

theorem keeps_refl (h : C.Holds s) : C.Keeps i s s :=
  ⟨h, fun j _ => C.refl j s⟩

theorem Keeps.trans (h : C.Keeps i s t) (h' : C.Keeps i t u) : C.Keeps i s u :=
  ⟨h'.1, fun j hj => C.trans (h.2 j hj) (h'.2 j hj)⟩

theorem Meets.later (h : C.Meets i Q p s) (hl : C.Leads i s t) : C.Meets i Q p t := by
  cases p with
  | done a =>
    intro u hu
    exact h u (C.trans hl hu)
  | step act next =>
    intro u hu
    exact h u (C.trans hl hu)

/-- What an answer meets at any later moment. -/
theorem Meets.keep (h : C.Meets i Q p s) :
    C.Meets i (fun a t => C.Holds t ∧ ∀ u, C.Leads i t u → C.Holds u → Q a u) p s := by
  induction p generalizing s with
  | done a =>
    intro t hl ht
    exact ⟨ht, fun u hu hhu => h u (C.trans hl hu) hhu⟩
  | step act next ih =>
    intro t hl ht hr
    obtain ⟨hact, hnext⟩ := h t hl ht hr
    exact ⟨hact, ih t hnext⟩

theorem Meets.mono (h : C.Meets i Q p s) (hQ : ∀ a t, C.Holds t → Q a t → R a t) :
    C.Meets i R p s := by
  induction p generalizing s with
  | done a =>
    intro t hl ht
    exact hQ a t ht (h t hl ht)
  | step act next ih =>
    intro t hl ht hr
    obtain ⟨hact, hnext⟩ := h t hl ht hr
    exact ⟨hact, ih t hnext⟩

theorem Meets.bind {f : α → Proc σ β} (h : C.Meets i Q p s)
    (hf : ∀ a t, C.Holds t → Q a t → C.Meets i R (f a) t) : C.Meets i R (p.bind f) s := by
  induction p generalizing s with
  | done a =>
    have hnow : ∀ t, C.Leads i s t → C.Holds t → C.Meets i R (f a) t := by
      intro t hl ht
      exact hf a t ht (h t hl ht)
    rw [Proc.bind]
    cases hfa : f a with
    | done b =>
      intro t hl ht
      have hb := hnow t hl ht
      rw [hfa] at hb
      exact hb t (C.refl i t) ht
    | step act next =>
      intro t hl ht hr
      have hb := hnow t hl ht
      rw [hfa] at hb
      exact hb t (C.refl i t) ht hr
  | step act next ih =>
    intro t hl ht hr
    obtain ⟨hact, hnext⟩ := h t hl ht hr
    exact ⟨hact, ih t hnext⟩

/-- A member keeps the charter; what it returns, or raises, meets a condition. -/
def Answers (C : Charter σ) (i : Nat) (R : α → σ → Prop) (E : σ → Prop) (call : Call σ ε α)
    (s : σ) : Prop :=
  C.Meets i (fun result t => match result with
    | .ok a => R a t
    | .error _ => E t) call s

section Calls

variable {call : Call σ ε α}

theorem Answers.later (h : C.Answers i R E call s) (hl : C.Leads i s t) :
    C.Answers i R E call t :=
  Meets.later h hl

theorem Answers.mono (h : C.Answers i Q D call s) (hQ : ∀ a t, C.Holds t → Q a t → R a t)
    (hD : ∀ t, D t → E t) : C.Answers i R E call s := by
  apply Meets.mono h
  intro result t ht hresult
  cases result with
  | ok a => exact hQ a t ht hresult
  | error e => exact hD t hresult

theorem answers_pure (h : ∀ t, C.Leads i s t → C.Holds t → R a t) :
    C.Answers i R E (pure a : Call σ ε α) s := by
  intro t hl ht
  exact h t hl ht

theorem answers_throw {e : ε} (h : ∀ t, C.Leads i s t → C.Holds t → E t) :
    C.Answers i R E (throw e : Call σ ε α) s := by
  intro t hl ht
  exact h t hl ht

theorem answers_atomic {f : σ → Except ε α × σ}
    (h : ∀ t, C.Leads i s t → C.Holds t → C.Runs i t → C.Keeps i t (f t).2 ∧
      ∀ u, C.Leads i (f t).2 u → C.Holds u → match (f t).1 with
        | .ok a => R a u
        | .error _ => E u) :
    C.Answers i R E (Call.atomic f) s := by
  intro t hl ht hr
  obtain ⟨hact, hanswer⟩ := h t hl ht hr
  exact ⟨hact, fun u hu hhu => hanswer u hu hhu⟩

theorem answers_look {f : σ → Except ε α}
    (h : ∀ t, C.Leads i s t → C.Holds t → C.Runs i t → ∀ u, C.Leads i t u → C.Holds u →
      match f t with
        | .ok a => R a u
        | .error _ => E u) :
    C.Answers i R E (Call.look f) s := by
  apply answers_atomic
  intro t hl ht hr
  exact ⟨keeps_refl ht, h t hl ht hr⟩

theorem Answers.andThen {next : α → Call σ ε β} (h : C.Answers i Q E call s)
    (hnext : ∀ a t, C.Holds t → Q a t → C.Answers i R E (next a) t) :
    C.Answers i R E (call >>= next) s := by
  apply Meets.bind (Meets.keep h)
  intro result t ht hresult
  cases result with
  | ok a => exact hnext a t ht (hresult.2 t (C.refl i t) ht)
  | error e =>
    intro u hu hhu
    exact hresult.2 u hu hhu

theorem Answers.recover {handler : ε → Call σ ε α} (h : C.Answers i R D call s)
    (hhandler : ∀ e t, C.Holds t → D t → C.Answers i R E (handler e) t) :
    C.Answers i R E (tryCatch call handler : Call σ ε α) s := by
  apply Meets.bind (Meets.keep h)
  intro result t ht hresult
  cases result with
  | ok a =>
    intro u hu hhu
    exact hresult.2 u hu hhu
  | error e => exact hhandler e t ht (hresult.2 t (C.refl i t) ht)

end Calls

end Charter

namespace Pool
set_option autoImplicit true

variable {σ α : Type} {C : Charter σ}

/-- No member is started later; a member runs only where it may, and what happens besides is of one
kind. -/
def Crewed (C : Charter σ) (others : σ → σ → Prop) (pool : Pool σ α) : PoolMove σ α → Prop
  | .start _ => False
  | .run index => C.Runs index pool.state
  | .elsewhere state => others pool.state state

/-- The state keeps the charter, and so does every member from here on. -/
structure Chartered (C : Charter σ) (Q : α → σ → Prop) (pool : Pool σ α) : Prop where
  holds : C.Holds pool.state
  meets : ∀ i call, pool.calls[i]? = some call → C.Meets i Q call pool.state

theorem Chartered.move {pool : Pool σ α} (h : Chartered C Q pool)
    (hothers : ∀ s t, others s t → C.Holds s → C.Holds t ∧ ∀ i, C.Leads i s t)
    (hm : Crewed C others pool m) : Chartered C Q (pool.move m) := by
  cases m with
  | start call => exact hm.elim
  | run index =>
    rw [Pool.move]
    split
    · exact h
    · rename_i call hcall
      have hcallmeets := h.meets index call hcall
      have hadvance : C.Keeps index pool.state (call.advance pool.state).1 ∧
          C.Meets index Q (call.advance pool.state).2 (call.advance pool.state).1 := by
        cases call with
        | done a => exact ⟨Charter.keeps_refl h.holds, hcallmeets⟩
        | step act next => exact hcallmeets _ (C.refl _ _) h.holds hm
      obtain ⟨hkeeps, hnext⟩ := hadvance
      refine ⟨hkeeps.1, ?_⟩
      intro j other hother
      by_cases hj : index = j
      · subst hj
        rw [List.getElem?_set_self (List.getElem?_eq_some_iff.1 hcall).1] at hother
        cases hother
        exact hnext
      · rw [List.getElem?_set_ne hj] at hother
        exact (h.meets j other hother).later (hkeeps.2 j (Ne.symm hj))
  | elsewhere state =>
    obtain ⟨hs, hl⟩ := hothers _ _ hm h.holds
    exact ⟨hs, fun i call hcall => (h.meets i call hcall).later (hl i)⟩

/-- In every run of a crew that keeps a charter, in company that keeps it, the state keeps it. -/
theorem chartered_run {moves : List (PoolMove σ α)} {pool : Pool σ α}
    (h : Chartered C Q pool)
    (hothers : ∀ s t, others s t → C.Holds s → C.Holds t ∧ ∀ i, C.Leads i s t)
    (hrun : (machine σ α).Guarded (Crewed C others) pool moves) :
    Chartered C Q ((machine σ α).after pool moves) := by
  apply Machine.guarded_invariant (machine σ α) _ h hrun
  intro s m hs hm
  exact hs.move hothers hm

end Pool
