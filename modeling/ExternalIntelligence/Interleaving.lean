import ExternalIntelligence.Machine

/-- A program over a shared state. It has answered, or it takes a step that nothing can come
between and goes on with what the step saw; other programs run between two steps. -/
inductive Proc (σ α : Type) where
  | done (answer : α)
  | step (act : σ → σ) (next : σ → Proc σ α)

namespace Proc
set_option autoImplicit true

variable {σ α β ε : Type}

def bind : Proc σ α → (α → Proc σ β) → Proc σ β
  | done a, f => f a
  | step act next, f => step act fun s => (next s).bind f

instance : Monad (Proc σ) where
  pure := done
  bind := bind

/-- One step that answers. -/
def atomic (f : σ → α × σ) : Proc σ α :=
  step (fun s => (f s).2) fun s => done (f s).1

/-- One step with the state and the program after it; a program that is done stays so. -/
def advance (s : σ) : Proc σ α → σ × Proc σ α
  | done a => (s, done a)
  | step act next => (act s, next s)

end Proc

/-- A program that may raise. -/
abbrev Call (σ ε α : Type) : Type :=
  ExceptT ε (Proc σ) α

namespace Call
set_option autoImplicit true

variable {σ ε α : Type}

/-- One step that answers or raises. -/
def atomic (f : σ → Except ε α × σ) : Call σ ε α :=
  Proc.atomic f

/-- One step that only looks. -/
def look (f : σ → Except ε α) : Call σ ε α :=
  atomic fun s => (f s, s)

def ofExcept (result : Except ε α) : Call σ ε α :=
  Proc.done result

/-- The program with what it raises as its answer. -/
def attempt (call : Call σ ε α) : Call σ ε (Except ε α) :=
  Proc.bind call fun result => Proc.done (.ok result)

end Call

/-- What programs over a shared state rely on and keep: an invariant of the state, and how the
state may change between two moments. -/
structure Discipline (σ : Type) where
  Holds : σ → Prop
  Leads : σ → σ → Prop
  refl : ∀ s, Leads s s
  trans : ∀ {s t u}, Leads s t → Leads t u → Leads s u

namespace Discipline
set_option autoImplicit true

variable {σ α β ε : Type} {D : Discipline σ}

/-- A program keeps the discipline in any company that keeps it, and what it answers meets a
condition then and later. -/
def Meets (D : Discipline σ) (Q : α → σ → Prop) : Proc σ α → σ → Prop
  | .done a, s => ∀ t, D.Leads s t → D.Holds t → Q a t
  | .step act next, s => ∀ t, D.Leads s t → D.Holds t →
      D.Holds (act t) ∧ D.Leads t (act t) ∧ Meets D Q (next t) (act t)

theorem Meets.later (h : D.Meets Q p s) (hl : D.Leads s t) : D.Meets Q p t := by
  cases p with
  | done a =>
    intro u hu
    exact h u (D.trans hl hu)
  | step act next =>
    intro u hu
    exact h u (D.trans hl hu)

theorem Meets.mono (h : D.Meets Q p s)
    (hQ : ∀ a t, D.Leads s t → D.Holds t → Q a t → R a t) : D.Meets R p s := by
  induction p generalizing s with
  | done a =>
    intro t hl ht
    exact hQ a t hl ht (h t hl ht)
  | step act next ih =>
    intro t hl ht
    obtain ⟨hact, hstep, hnext⟩ := h t hl ht
    refine ⟨hact, hstep, ih t hnext ?_⟩
    intro a u hu
    exact hQ a u (D.trans hl (D.trans hstep hu))

/-- What an answer meets at any later moment. -/
theorem Meets.keep (h : D.Meets Q p s) :
    D.Meets (fun a t => D.Holds t ∧ ∀ u, D.Leads t u → D.Holds u → Q a u) p s := by
  induction p generalizing s with
  | done a =>
    intro t hl ht
    exact ⟨ht, fun u hu hhu => h u (D.trans hl hu) hhu⟩
  | step act next ih =>
    intro t hl ht
    obtain ⟨hact, hstep, hnext⟩ := h t hl ht
    exact ⟨hact, hstep, ih t hnext⟩

theorem Meets.bind {f : α → Proc σ β} (h : D.Meets Q p s)
    (hf : ∀ a t, D.Leads s t → D.Holds t → Q a t → D.Meets R (f a) t) :
    D.Meets R (p.bind f) s := by
  induction p generalizing s with
  | done a =>
    have hnow : ∀ t, D.Leads s t → D.Holds t → D.Meets R (f a) t := by
      intro t hl ht
      exact hf a t hl ht (h t hl ht)
    rw [Proc.bind]
    cases hfa : f a with
    | done b =>
      intro t hl ht
      have hb := hnow t hl ht
      rw [hfa] at hb
      exact hb t (D.refl t) ht
    | step act next =>
      intro t hl ht
      have hb := hnow t hl ht
      rw [hfa] at hb
      exact hb t (D.refl t) ht
  | step act next ih =>
    intro t hl ht
    obtain ⟨hact, hstep, hnext⟩ := h t hl ht
    refine ⟨hact, hstep, ih t hnext ?_⟩
    intro a u hu
    exact hf a u (D.trans hl (D.trans hstep hu))

/-- A program keeps the discipline, and what it returns meets a condition then and later. -/
def Answers (D : Discipline σ) (R : α → σ → Prop) (call : Call σ ε α) (s : σ) : Prop :=
  D.Meets (fun result t => ∀ a, result = .ok a → R a t) call s

section Calls

variable {call : Call σ ε α}

theorem Answers.later (h : D.Answers R call s) (hl : D.Leads s t) : D.Answers R call t :=
  Meets.later h hl

theorem Answers.mono (h : D.Answers Q call s)
    (hQ : ∀ a t, D.Leads s t → D.Holds t → Q a t → R a t) : D.Answers R call s := by
  apply Meets.mono h
  intro result t hl ht hq a ha
  exact hQ a t hl ht (hq a ha)

theorem answers_pure (h : ∀ t, D.Leads s t → D.Holds t → R a t) :
    D.Answers R (pure a : Call σ ε α) s := by
  intro t hl ht b hb
  cases hb
  exact h t hl ht

theorem answers_throw {e : ε} : D.Answers R (throw e : Call σ ε α) s := by
  intro t _ _ a ha
  cases ha

theorem answers_ofExcept {result : Except ε α}
    (h : ∀ a, result = .ok a → ∀ t, D.Leads s t → D.Holds t → R a t) :
    D.Answers R (Call.ofExcept result : Call σ ε α) s := by
  intro t hl ht a ha
  exact h a ha t hl ht

theorem answers_atomic {f : σ → Except ε α × σ}
    (h : ∀ t, D.Leads s t → D.Holds t → (D.Holds (f t).2 ∧ D.Leads t (f t).2) ∧
      ∀ a, (f t).1 = .ok a → ∀ u, D.Leads (f t).2 u → D.Holds u → R a u) :
    D.Answers R (Call.atomic f) s := by
  intro t hl ht
  obtain ⟨⟨hact, hstep⟩, hanswer⟩ := h t hl ht
  refine ⟨hact, hstep, ?_⟩
  intro u hu hhu a ha
  exact hanswer a ha u hu hhu

theorem answers_look {f : σ → Except ε α}
    (h : ∀ t, D.Leads s t → D.Holds t → ∀ a, f t = .ok a →
      ∀ u, D.Leads t u → D.Holds u → R a u) :
    D.Answers R (Call.look f) s := by
  apply answers_atomic
  intro t hl ht
  exact ⟨⟨ht, D.refl t⟩, h t hl ht⟩

theorem Answers.andThen {next : α → Call σ ε β} (h : D.Answers Q call s)
    (hnext : ∀ a t, D.Leads s t → D.Holds t → Q a t → D.Answers R (next a) t) :
    D.Answers R (call >>= next) s := by
  apply Meets.bind (Meets.keep h)
  intro result t hl ht hresult
  cases result with
  | ok a => exact hnext a t hl ht (hresult.2 t (D.refl t) ht a rfl)
  | error e =>
    intro u _ _ b hb
    cases hb

theorem Answers.recover {handler : ε → Call σ ε α} (h : D.Answers R call s)
    (hhandler : ∀ e t, D.Leads s t → D.Holds t → D.Answers R (handler e) t) :
    D.Answers R (tryCatch call handler : Call σ ε α) s := by
  apply Meets.bind (Meets.keep h)
  intro result t hl ht hresult
  cases result with
  | ok a =>
    intro u hu hhu
    exact hresult.2 u hu hhu
  | error e => exact hhandler e t hl ht

theorem Answers.attempt (h : D.Answers R call s) :
    D.Answers (fun result t => ∀ a, result = .ok a → R a t) call.attempt s := by
  apply Meets.bind (Meets.keep h)
  intro result t hl ht hresult u hu hhu a ha
  cases ha
  exact hresult.2 u hu hhu

end Calls

end Discipline

/-- A state and the programs that were started on it. A program that is never run again is one
that was killed. -/
structure Pool (σ α : Type) where
  state : σ
  calls : List (Proc σ α) := []

inductive PoolMove (σ α : Type) where
  | start (call : Proc σ α)
  | run (index : Nat)
  | elsewhere (state : σ)

namespace Pool
set_option autoImplicit true

variable {σ α : Type} {D : Discipline σ}

def move (pool : Pool σ α) : PoolMove σ α → Pool σ α
  | .start call => { pool with calls := pool.calls ++ [call] }
  | .run index =>
    match pool.calls[index]? with
    | none => pool
    | some call =>
      ⟨(call.advance pool.state).1, pool.calls.set index (call.advance pool.state).2⟩
  | .elsewhere state => { pool with state }

def machine (σ α : Type) : Machine (Pool σ α) (PoolMove σ α) Unit where
  step pool m := (pool.move m, ())

/-- Only programs of one kind are started, and what happens elsewhere is of one kind. -/
def Allows (starts : Proc σ α → Prop) (others : σ → σ → Prop) (pool : Pool σ α) :
    PoolMove σ α → Prop
  | .start call => starts call
  | .run _ => True
  | .elsewhere state => others pool.state state

theorem guarded_runs (starts : Proc σ α → Prop) (others : σ → σ → Prop) (pool : Pool σ α)
    (n index : Nat) :
    (machine σ α).Guarded (Allows starts others) pool (List.replicate n (.run index)) := by
  induction n generalizing pool with
  | zero => exact Machine.guarded_nil _
  | succ n ih => exact (Machine.guarded_cons _).2 ⟨trivial, ih _⟩

/-- The state keeps the discipline, and so does every program from here on. -/
structure Disciplined (D : Discipline σ) (Q : α → σ → Prop) (s : σ) (pool : Pool σ α) : Prop where
  holds : D.Holds pool.state
  leads : D.Leads s pool.state
  meets : ∀ call ∈ pool.calls, D.Meets Q call pool.state

theorem advance_meets {call : Proc σ α} (h : D.Meets Q call s) (hs : D.Holds s) :
    D.Holds (call.advance s).1 ∧ D.Leads s (call.advance s).1 ∧
      D.Meets Q (call.advance s).2 (call.advance s).1 := by
  cases call with
  | done a => exact ⟨hs, D.refl s, h⟩
  | step act next => exact h s (D.refl s) hs

theorem Disciplined.move {pool : Pool σ α} (h : Disciplined D Q s pool)
    (hstarts : ∀ call t, starts call → D.Holds t → D.Leads s t → D.Meets Q call t)
    (hothers : ∀ t u, others t u → D.Holds t → D.Holds u ∧ D.Leads t u)
    (hm : pool.Allows starts others m) : Disciplined D Q s (pool.move m) := by
  cases m with
  | start call =>
    refine ⟨h.holds, h.leads, ?_⟩
    intro c hc
    rcases List.mem_append.1 hc with hc | hc
    · exact h.meets c hc
    · rw [List.mem_singleton.1 hc]
      exact hstarts call _ hm h.holds h.leads
  | run index =>
    rw [Pool.move]
    split
    · exact h
    · rename_i call hcall
      obtain ⟨hs, hl, hnext⟩ := advance_meets (h.meets call (List.mem_of_getElem? hcall)) h.holds
      refine ⟨hs, D.trans h.leads hl, ?_⟩
      intro c hc
      rcases List.mem_or_eq_of_mem_set hc with hc | rfl
      · exact (h.meets c hc).later hl
      · exact hnext
  | elsewhere state =>
    obtain ⟨hs, hl⟩ := hothers _ _ hm h.holds
    exact ⟨hs, D.trans h.leads hl, fun c hc => (h.meets c hc).later hl⟩

/-- In every run of programs that keep a discipline, in company that keeps it, the state keeps it
and every answer meets its condition. -/
theorem disciplined_run {moves : List (PoolMove σ α)} (hs : D.Holds s)
    (hstarts : ∀ call t, starts call → D.Holds t → D.Leads s t → D.Meets Q call t)
    (hothers : ∀ t u, others t u → D.Holds t → D.Holds u ∧ D.Leads t u)
    (hrun : (machine σ α).Guarded (Allows starts others) ⟨s, []⟩ moves) :
    Disciplined D Q s ((machine σ α).after ⟨s, []⟩ moves) := by
  apply Machine.guarded_invariant (machine σ α) _ _ hrun
  · intro pool m h hm
    exact h.move hstarts hothers hm
  · exact ⟨hs, D.refl s, by simp⟩

theorem Disciplined.answer {pool : Pool σ α} (h : Disciplined D Q s pool)
    (ha : .done a ∈ pool.calls) : Q a pool.state :=
  h.meets _ ha _ (D.refl _) h.holds

end Pool
