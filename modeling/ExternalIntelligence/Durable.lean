import Mathlib.Data.List.Basic

set_option autoImplicit true

/-- A computation over a durable state: the states that it commits one after another, and how it
ends. -/
def Durable (σ ε α : Type) : Type :=
  σ → List σ × Except ε α

namespace Durable

/-- The state in which a computation ends. -/
def final (m : Durable σ ε α) (s : σ) : σ :=
  (m s).1.getLastD s

/-- The state that a computation leaves, also where it is killed after some commits. -/
def left (m : Durable σ ε α) (killed : Option Nat) (s : σ) : σ :=
  match killed with
  | some commits => ((m s).1.take commits).getLastD s
  | none => m.final s

def pure (a : α) : Durable σ ε α :=
  fun _ => ([], .ok a)

def bind (m : Durable σ ε α) (k : α → Durable σ ε β) : Durable σ ε β :=
  fun s =>
    match (m s).2 with
    | .ok a => ((m s).1 ++ (k a (m.final s)).1, (k a (m.final s)).2)
    | .error e => ((m s).1, .error e)

instance : Monad (Durable σ ε) where
  pure := Durable.pure
  bind := Durable.bind

def read : Durable σ ε σ :=
  fun s => ([], .ok s)

def raise (e : ε) : Durable σ ε α :=
  fun _ => ([], .error e)

def commit (f : σ → σ) : Durable σ ε Unit :=
  fun s => ([f s], .ok ())

def lift (x : Except ε α) : Durable σ ε α :=
  fun _ => ([], x)

def require (p : Prop) [Decidable p] (e : ε) : Durable σ ε Unit :=
  if p then Pure.pure () else raise e

/-- What follows an error runs in the state that the error left. -/
def handle (m : Durable σ ε α) (k : ε → Durable σ ε α) : Durable σ ε α :=
  fun s =>
    match (m s).2 with
    | .ok a => ((m s).1, .ok a)
    | .error e => ((m s).1 ++ (k e (m.final s)).1, (k e (m.final s)).2)

/-- A body for every element of a list, in its order. -/
def each (f : α → Durable σ ε Unit) : List α → Durable σ ε Unit
  | [] => Pure.pure ()
  | a :: l => f a >>= fun _ => each f l

theorem getLastD_append (l l' : List σ) (s : σ) :
    (l ++ l').getLastD s = l'.getLastD (l.getLastD s) := by
  cases l' with
  | nil => simp
  | cons a l' => simp [List.getLastD_eq_getLast?, List.getLast?_append]

theorem final_eq_or_mem (m : Durable σ ε α) (s : σ) : m.final s = s ∨ m.final s ∈ (m s).1 := by
  rw [final]
  cases (m s).1 with
  | nil => exact .inl rfl
  | cons a l =>
    rw [List.getLastD_cons]
    exact .inr List.getLastD_mem_cons

/-- Run from a state that meets the first condition, a computation commits only states that meet
the invariant; where it returns, its answer and its last state meet the last condition. -/
structure Keeps (inv pre : σ → Prop) (m : Durable σ ε α) (post : α → σ → Prop) : Prop where
  commits : ∀ s, pre s → ∀ t ∈ (m s).1, inv t
  returns : ∀ s, pre s → ∀ a, (m s).2 = .ok a → post a (m.final s)

namespace Keeps

variable {inv pre pre' : σ → Prop} {m : Durable σ ε α} {post post' : α → σ → Prop}

theorem consequence (h : Keeps inv pre m post) (hpre : ∀ s, pre' s → pre s)
    (hpost : ∀ a s, post a s → post' a s) : Keeps inv pre' m post' where
  commits := fun s hs => h.commits s (hpre s hs)
  returns := fun s hs a ha => hpost a _ (h.returns s (hpre s hs) a ha)

theorem weaken (h : Keeps inv pre m post) (hpost : ∀ a s, post a s → post' a s) :
    Keeps inv pre m post' :=
  h.consequence (fun _ hs => hs) hpost

theorem strengthen (h : Keeps inv pre m post) (hpre : ∀ s, pre' s → pre s) :
    Keeps inv pre' m post :=
  h.consequence hpre fun _ _ hs => hs

/-- A weaker invariant is kept as well. -/
theorem loosen {inv' : σ → Prop} (h : Keeps inv pre m post) (hinv : ∀ s, inv s → inv' s) :
    Keeps inv' pre m post where
  commits := fun s hs t ht => hinv t (h.commits s hs t ht)
  returns := h.returns

/-- A condition that is not about the state is a hypothesis. -/
theorem of_fact {p : Prop} (h : p → Keeps inv pre m post) :
    Keeps inv (fun s => p ∧ pre s) m post where
  commits := fun s hs => (h hs.1).commits s hs.2
  returns := fun s hs => (h hs.1).returns s hs.2

theorem of_exists {among : κ → σ → Prop} (h : ∀ x, Keeps inv (among x) m post) :
    Keeps inv (fun s => ∃ x, among x s) m post where
  commits := by
    intro s hs
    obtain ⟨x, hx⟩ := hs
    exact (h x).commits s hx
  returns := by
    intro s hs
    obtain ⟨x, hx⟩ := hs
    exact (h x).returns s hx

theorem pure (h : ∀ s, pre s → post a s) :
    Keeps inv pre (Pure.pure a : Durable σ ε α) post where
  commits := fun _ _ _ ht => absurd ht List.not_mem_nil
  returns := by
    intro s hs b hb
    cases hb
    exact h s hs

theorem raise : Keeps inv pre (Durable.raise e : Durable σ ε α) post where
  commits := fun _ _ _ ht => absurd ht List.not_mem_nil
  returns := by
    intro s hs b hb
    cases hb

theorem read {post : σ → σ → Prop} (h : ∀ s, pre s → post s s) :
    Keeps inv pre (Durable.read : Durable σ ε σ) post where
  commits := fun _ _ _ ht => absurd ht List.not_mem_nil
  returns := by
    intro s hs b hb
    cases hb
    exact h s hs

theorem commit {post : Unit → σ → Prop} (hinv : ∀ s, pre s → inv (f s))
    (hpost : ∀ s, pre s → post () (f s)) :
    Keeps inv pre (Durable.commit f : Durable σ ε Unit) post where
  commits := by
    intro s hs t ht
    rw [List.mem_singleton.1 ht]
    exact hinv s hs
  returns := fun s hs _ _ => hpost s hs

theorem lift {x : Except ε α} (h : ∀ s a, pre s → x = .ok a → post a s) :
    Keeps inv pre (Durable.lift x : Durable σ ε α) post where
  commits := fun _ _ _ ht => absurd ht List.not_mem_nil
  returns := fun s hs a ha => h s a hs ha

theorem bind {k : α → Durable σ ε β} {last : β → σ → Prop} (hm : Keeps inv pre m post)
    (hk : ∀ a, Keeps inv (post a) (k a) last) : Keeps inv pre (m >>= k) last where
  commits := by
    intro s hs t ht
    change t ∈ (Durable.bind m k s).1 at ht
    rw [Durable.bind] at ht
    cases hr : (m s).2 with
    | error e =>
      simp only [hr] at ht
      exact hm.commits s hs t ht
    | ok a =>
      simp only [hr, List.mem_append] at ht
      exact ht.elim (hm.commits s hs t) ((hk a).commits _ (hm.returns s hs a hr) t)
  returns := by
    intro s hs b hb
    change last b (Durable.final (Durable.bind m k) s)
    change (Durable.bind m k s).2 = .ok b at hb
    rw [Durable.bind] at hb
    cases hr : (m s).2 with
    | error e =>
      simp only [hr, reduceCtorEq] at hb
    | ok a =>
      simp only [hr] at hb
      rw [final, Durable.bind]
      simp only [hr]
      rw [getLastD_append]
      exact (hk a).returns _ (hm.returns s hs a hr) b hb

/-- What an answer says that is not about the state is a hypothesis of what follows. -/
theorem bind_fact {p : α → Prop} {held : α → σ → Prop} {k : α → Durable σ ε β}
    {last : β → σ → Prop} (hm : Keeps inv pre m fun a s => p a ∧ held a s)
    (hk : ∀ a, p a → Keeps inv (held a) (k a) last) : Keeps inv pre (m >>= k) last := by
  apply hm.bind
  intro a
  apply of_fact
  exact hk a

theorem require {p : Prop} [Decidable p] {post : Unit → σ → Prop}
    (h : p → ∀ s, pre s → post () s) :
    Keeps inv pre (Durable.require p e : Durable σ ε Unit) post := by
  rw [Durable.require]
  split
  · rename_i hp
    exact pure (h hp)
  · exact raise

/-- Where an error is handled, the state it left meets the invariant. -/
theorem handle {k : ε → Durable σ ε α} (hpre : ∀ s, pre s → inv s) (hm : Keeps inv pre m post)
    (hk : ∀ e, Keeps inv inv (k e) post) : Keeps inv pre (m.handle k) post := by
  have hleft : ∀ s, pre s → inv (m.final s) := by
    intro s hs
    obtain he | hmem := final_eq_or_mem m s
    · rw [he]
      exact hpre s hs
    · exact hm.commits s hs _ hmem
  constructor
  case commits =>
    intro s hs t ht
    rw [Durable.handle] at ht
    cases hr : (m s).2 with
    | error e =>
      simp only [hr, List.mem_append] at ht
      exact ht.elim (hm.commits s hs t) ((hk e).commits _ (hleft s hs) t)
    | ok a =>
      simp only [hr] at ht
      exact hm.commits s hs t ht
  case returns =>
    intro s hs b hb
    rw [Durable.handle] at hb
    cases hr : (m s).2 with
    | error e =>
      simp only [hr] at hb
      rw [final, Durable.handle]
      simp only [hr]
      rw [getLastD_append]
      exact (hk e).returns _ (hleft s hs) b hb
    | ok a =>
      simp only [hr] at hb
      cases hb
      rw [final, Durable.handle]
      simp only [hr]
      exact hm.returns s hs _ hr

/-- What every round of a loop keeps, the loop keeps. -/
theorem each {f : α → Durable σ ε Unit} {held : σ → Prop} {l : List α}
    (h : ∀ a ∈ l, Keeps inv held (f a) fun _ => held) :
    Keeps inv held (Durable.each f l) fun _ => held := by
  induction l with
  | nil => exact pure fun _ hs => hs
  | cons a l ih =>
    apply bind (h a List.mem_cons_self)
    intro _
    exact ih fun b hb => h b (List.mem_cons_of_mem _ hb)

/-- Wherever a computation is killed, it leaves a state that meets the invariant. -/
theorem left (h : Keeps inv pre m post) (hpre : ∀ s, pre s → inv s) (hs : pre s)
    (killed : Option Nat) : inv (m.left killed s) := by
  cases killed with
  | none =>
    obtain he | hm := final_eq_or_mem m s
    · rw [Durable.left, he]
      exact hpre s hs
    · exact h.commits s hs _ hm
  | some commits =>
    have htaken : ∀ t ∈ (m s).1.take commits, inv t := fun t ht =>
      h.commits s hs t (List.mem_of_mem_take ht)
    rw [Durable.left]
    generalize (m s).1.take commits = taken at htaken
    cases taken with
    | nil => exact hpre s hs
    | cons a l =>
      rw [List.getLastD_cons]
      exact htaken _ List.getLastD_mem_cons

end Keeps
end Durable
