import ExternalIntelligence.LockFiles

namespace ExternalIntelligence
set_option autoImplicit true

namespace LockWorld

def pidOf (w : LockWorld) (inode : Nat) : Option Nat :=
  (w.nodes.lookup inode).map (·.pid)

def modifiedOf (w : LockWorld) (inode : Nat) : Option Int :=
  (w.nodes.lookup inode).map (·.modified)

section Touch

variable (w : LockWorld) (inode : Nat)

@[simp] theorem touch_path : (w.touch inode).path = w.path := by
  rw [touch]; split <;> rfl

@[simp] theorem touch_stagings : (w.touch inode).stagings = w.stagings := by
  rw [touch]; split <;> rfl

@[simp] theorem touch_drawn : (w.touch inode).drawn = w.drawn := by
  rw [touch]; split <;> rfl

@[simp] theorem touch_now : (w.touch inode).now = w.now := by
  rw [touch]; split <;> rfl

@[simp] theorem touch_dead : (w.touch inode).dead = w.dead := by
  rw [touch]; split <;> rfl

@[simp] theorem touch_held : (w.touch inode).held = w.held := by
  rw [touch]; split <;> rfl

@[simp] theorem touch_inside : (w.touch inode).inside = w.inside := by
  rw [touch]; split <;> rfl

@[simp] theorem touch_verdicts : (w.touch inode).verdicts = w.verdicts := by
  rw [touch]; split <;> rfl

@[simp] theorem touch_pidOf (n : Nat) : (w.touch inode).pidOf n = w.pidOf n := by
  rw [touch]
  split
  · rfl
  · rename_i node hnode
    rw [pidOf, pidOf, Dict.lookup_set]
    split
    · rename_i he
      rw [← he, hnode]
      rfl
    · rfl

@[simp] theorem touch_modifiedOf (n : Nat) : (w.touch inode).modifiedOf n = w.modifiedOf n := by
  rw [touch]
  split
  · rfl
  · rename_i node hnode
    rw [modifiedOf, modifiedOf, Dict.lookup_set]
    split
    · rename_i he
      rw [← he, hnode]
      rfl
    · rfl

@[simp] theorem writeRecord_pidOf (n : Nat) : (w.writeRecord inode).pidOf n = w.pidOf n := by
  rw [writeRecord]
  split
  · rfl
  · rename_i node hnode
    rw [pidOf, pidOf, Dict.lookup_set]
    split
    · rename_i he
      rw [← he, hnode]
      rfl
    · rfl

end Touch

/-- What is true of a lock's directory at any time. With a limit, no live process has held the lock
for longer. -/
structure Holds (limit : Option Int) (w : LockWorld) : Prop where
  below : ∀ n p, w.pidOf n = some p → n < w.drawn
  owner : ∀ n, w.path = some n → ∃ p, w.pidOf n = some p ∧ (p, n) ∈ w.held
  made : ∀ p n, (p, n) ∈ w.held → w.pidOf n = some p
  stands : ∀ p n, (p, n) ∈ w.held → p ∉ w.dead → w.path = some n
  holder : ∀ p ∈ w.inside, p ∉ w.dead → ∃ n, (p, n) ∈ w.held
  judged : ∀ p n, w.verdicts.lookup p = some n → ∃ q, w.pidOf n = some q ∧ q ∈ w.dead
  brief : ∀ most, limit = some most → ∀ p n m, (p, n) ∈ w.held → p ∉ w.dead →
    w.modifiedOf n = some m → w.now - m ≤ most

/-- What a process relies on: nobody else changes what it holds, its verdict or its private name,
as long as it lives. -/
structure Leads (uuid : Nat → String) (i : Nat) (s t : LockWorld) : Prop where
  dead : ∀ p ∈ s.dead, p ∈ t.dead
  pids : ∀ n p, s.pidOf n = some p → t.pidOf n = some p
  held : i ∉ t.dead → ∀ n, (i, n) ∈ t.held ↔ (i, n) ∈ s.held
  inside : i ∉ t.dead → (i ∈ t.inside ↔ i ∈ s.inside)
  verdict : i ∉ t.dead → t.verdicts.lookup i = s.verdicts.lookup i
  staging : i ∉ t.dead → t.stagings.lookup (uuid i) = s.stagings.lookup (uuid i)

/-- The file that a process is about to unlink as stale is still at the path, or is gone. -/
def Unraced (w : LockWorld) (i : Nat) : Prop :=
  ∀ n, w.verdicts.lookup i = some n → w.path = none ∨ w.path = some n

def charter (uuid : Nat → String) (limit : Option Int) : Charter LockWorld where
  Holds := Holds limit
  Runs i w := i ∉ w.dead ∧ w.Unraced i
  Leads := Leads uuid
  refl _ _ := ⟨fun _ h => h, fun _ _ h => h, fun _ _ => Iff.rfl, fun _ => Iff.rfl,
    fun _ => rfl, fun _ => rfl⟩
  trans h h' := by
    constructor
    · exact fun p hp => h'.dead p (h.dead p hp)
    · exact fun n p hp => h'.pids n p (h.pids n p hp)
    · exact fun hi n => (h'.held hi n).trans (h.held (fun hd => hi (h'.dead _ hd)) n)
    · exact fun hi => (h'.inside hi).trans (h.inside fun hd => hi (h'.dead _ hd))
    · exact fun hi => (h'.verdict hi).trans (h.verdict fun hd => hi (h'.dead _ hd))
    · exact fun hi => (h'.staging hi).trans (h.staging fun hd => hi (h'.dead _ hd))

section Steps

variable {uuid : Nat → String} {limit : Option Int} {i : Nat} {w : LockWorld}

/-- A step that leaves the path, what is held and the owners of the files as they are. -/
theorem keeps_aside (h : Holds limit w) (hpath : t.path = w.path)
    (hheld : t.held = w.held) (hinside : t.inside = w.inside) (hdead : t.dead = w.dead)
    (hverdicts : t.verdicts = w.verdicts) (hnow : t.now = w.now)
    (hpids : ∀ n, n < w.drawn → t.pidOf n = w.pidOf n)
    (hbelow : ∀ n p, t.pidOf n = some p → n < t.drawn)
    (hmodified : limit ≠ none → ∀ n, t.modifiedOf n = w.modifiedOf n)
    (hstagings : ∀ j, j ≠ i → t.stagings.lookup (uuid j) = w.stagings.lookup (uuid j)) :
    (charter uuid limit).Keeps i w t := by
  have hstays : ∀ n p, w.pidOf n = some p → t.pidOf n = some p := by
    intro n p hp
    rw [hpids n (h.below n p hp)]
    exact hp
  constructor
  · constructor
    · exact hbelow
    · intro n hn
      rw [hpath] at hn
      obtain ⟨p, hp, hmem⟩ := h.owner n hn
      exact ⟨p, hstays n p hp, hheld ▸ hmem⟩
    · intro p n hmem
      rw [hheld] at hmem
      exact hstays n p (h.made p n hmem)
    · rw [hheld, hdead, hpath]
      exact h.stands
    · rw [hinside, hdead, hheld]
      exact h.holder
    · intro p n hv
      rw [hverdicts] at hv
      obtain ⟨q, hq, hdeadq⟩ := h.judged p n hv
      exact ⟨q, hstays n q hq, hdead ▸ hdeadq⟩
    · intro most hmost p n m hmem hp hm
      rw [hheld] at hmem
      rw [hdead] at hp
      rw [hmodified (by rw [hmost]; simp)] at hm
      rw [hnow]
      exact h.brief most hmost p n m hmem hp hm
  · intro j hj
    constructor
    · rw [hdead]
      exact fun p hp => hp
    · exact hstays
    · intro _ n
      rw [hheld]
    · intro _
      rw [hinside]
    · intro _
      rw [hverdicts]
    · intro _
      exact hstagings j hj

theorem keeps_createStaging (huuid : Function.Injective uuid) (h : Holds none w) :
    (charter uuid none).Keeps i w (w.createStaging i (uuid i)) := by
  have hpid : ∀ n, (w.createStaging i (uuid i)).pidOf n =
      if n = w.drawn then some i else w.pidOf n := by
    intro n
    rw [pidOf, createStaging, Dict.lookup_set]
    by_cases hn : n = w.drawn
    · rw [if_pos hn, if_pos hn.symm]
      rfl
    · rw [if_neg hn, if_neg (Ne.symm hn)]
      rfl
  apply keeps_aside h
  · rfl
  · rfl
  · rfl
  · rfl
  · rfl
  · rfl
  · intro n hn
    rw [hpid, if_neg (Nat.ne_of_lt hn)]
  · intro n p hp
    rw [hpid] at hp
    split at hp
    · rename_i he
      rw [he]
      exact Nat.lt_succ_self _
    · exact Nat.lt_succ_of_lt (h.below n p hp)
  · intro hne
    exact absurd rfl hne
  · intro j hj
    exact Dict.lookup_set_of_ne (fun he => hj (huuid he.symm)) _ _

theorem pidOf_createStaging : (w.createStaging i token).pidOf w.drawn = some i := by
  rw [pidOf, createStaging, Dict.lookup_set_self]
  rfl

theorem keeps_writeRecord (h : Holds none w) (inode : Nat) :
    (charter uuid none).Keeps i w (w.writeRecord inode) := by
  have hpid := w.writeRecord_pidOf inode
  rw [writeRecord] at hpid ⊢
  split at hpid
  · exact Charter.keeps_refl h
  · apply keeps_aside h
    · rfl
    · rfl
    · rfl
    · rfl
    · rfl
    · rfl
    · intro n _
      exact hpid n
    · intro n p hp
      rw [hpid] at hp
      exact h.below n p hp
    · intro hne
      exact absurd rfl hne
    · intro _ _
      rfl

theorem keeps_unlinkStaging (huuid : Function.Injective uuid) (h : Holds limit w) (inode : Nat) :
    (charter uuid limit).Keeps i w (w.unlinkStaging (uuid i) inode) := by
  rw [unlinkStaging]
  apply keeps_aside h
  · rw [touch_path]
  · rw [touch_held]
  · rw [touch_inside]
  · rw [touch_dead]
  · rw [touch_verdicts]
  · rw [touch_now]
  · intro n _
    rw [touch_pidOf]
    rfl
  · intro n p hp
    rw [touch_pidOf] at hp
    rw [touch_drawn]
    exact h.below n p hp
  · intro _ n
    rw [touch_modifiedOf]
    rfl
  · intro j hj
    rw [touch_stagings, Dict.lookup_erase, if_neg fun he => hj (huuid he)]

/-- A process that puts its own file at the free path. -/
theorem keeps_publish (inode : Nat) (h : Holds limit w) (hpath : w.path = none)
    (hpid : t.pidOf inode = some i)
    (htpath : t.path = some inode) (hheld : t.held = w.held ++ [(i, inode)])
    (hinside : t.inside = w.inside) (hdead : t.dead = w.dead) (hverdicts : t.verdicts = w.verdicts)
    (hstays : ∀ n p, w.pidOf n = some p → t.pidOf n = some p)
    (hbelow : ∀ n p, t.pidOf n = some p → n < t.drawn)
    (hbrief : ∀ most, limit = some most → ∀ m, t.modifiedOf inode = some m → t.now - m ≤ most)
    (hstagings : ∀ j, j ≠ i → t.stagings.lookup (uuid j) = w.stagings.lookup (uuid j)) :
    (charter uuid limit).Keeps i w t := by
  have hgone : ∀ p n, (p, n) ∈ w.held → p ∈ w.dead := by
    intro p n hmem
    by_contra hp
    have hstands := h.stands p n hmem hp
    rw [hpath] at hstands
    cases hstands
  constructor
  · constructor
    · exact hbelow
    · intro n hn
      rw [htpath] at hn
      cases hn
      exact ⟨i, hpid, by rw [hheld]; exact List.mem_append_right _ List.mem_cons_self⟩
    · intro p n hmem
      rw [hheld] at hmem
      rcases List.mem_append.1 hmem with hmem | hmem
      · exact hstays n p (h.made p n hmem)
      · cases List.mem_singleton.1 hmem
        exact hpid
    · intro p n hmem hp
      rw [hheld] at hmem
      rw [hdead] at hp
      rcases List.mem_append.1 hmem with hmem | hmem
      · exact absurd (hgone p n hmem) hp
      · cases List.mem_singleton.1 hmem
        exact htpath
    · intro p hin hp
      rw [hinside] at hin
      rw [hdead] at hp
      obtain ⟨n, hn⟩ := h.holder p hin hp
      exact absurd (hgone p n hn) hp
    · intro p n hv
      rw [hverdicts] at hv
      obtain ⟨q, hq, hdeadq⟩ := h.judged p n hv
      exact ⟨q, hstays n q hq, hdead ▸ hdeadq⟩
    · intro most hmost p n m hmem hp hm
      rw [hheld] at hmem
      rw [hdead] at hp
      rcases List.mem_append.1 hmem with hmem | hmem
      · exact absurd (hgone p n hmem) hp
      · cases List.mem_singleton.1 hmem
        exact hbrief most hmost m hm
  · intro j hj
    constructor
    · rw [hdead]
      exact fun p hp => hp
    · exact hstays
    · intro _ n
      rw [hheld, List.mem_append]
      constructor
      · rintro (hmem | hmem)
        · exact hmem
        · cases List.mem_singleton.1 hmem
          exact absurd rfl hj
      · exact .inl
    · intro _
      rw [hinside]
    · intro _
      rw [hverdicts]
    · intro _
      exact hstagings j hj

theorem keeps_linkPath (h : Holds none w) (hpath : w.path = none)
    (hpid : w.pidOf inode = some i) : (charter uuid none).Keeps i w (w.linkPath i inode) := by
  rw [linkPath]
  apply keeps_publish inode h hpath
  · rw [touch_pidOf]
    exact hpid
  · rw [touch_path]
  · rw [touch_held]
  · rw [touch_inside]
  · rw [touch_dead]
  · rw [touch_verdicts]
  · intro n p hp
    rw [touch_pidOf]
    exact hp
  · intro n p hp
    rw [touch_pidOf] at hp
    rw [touch_drawn]
    exact h.below n p hp
  · intro most hmost
    cases hmost
  · intro j _
    rw [touch_stagings]

theorem createPath_pidOf (n : Nat) :
    (w.createPath i).pidOf n = if n = w.drawn then some i else w.pidOf n := by
  rw [pidOf, createPath, Dict.lookup_set]
  by_cases hn : n = w.drawn
  · rw [if_pos hn, if_pos hn.symm]
    rfl
  · rw [if_neg hn, if_neg (Ne.symm hn)]
    rfl

theorem keeps_createPath (h : Holds limit w) (hpath : w.path = none)
    (hlimit : ∀ most, limit = some most → 0 ≤ most) :
    (charter uuid limit).Keeps i w (w.createPath i) := by
  apply keeps_publish w.drawn h hpath
  · rw [createPath_pidOf, if_pos rfl]
  · rfl
  · rfl
  · rfl
  · rfl
  · rfl
  · intro n p hp
    rw [createPath_pidOf, if_neg (Nat.ne_of_lt (h.below n p hp))]
    exact hp
  · intro n p hp
    rw [createPath_pidOf] at hp
    split at hp
    · rename_i he
      rw [he]
      exact Nat.lt_succ_self _
    · exact Nat.lt_succ_of_lt (h.below n p hp)
  · intro most hmost m hm
    rw [modifiedOf, createPath, Dict.lookup_set_self] at hm
    cases hm
    have hzero := hlimit most hmost
    change w.now - w.now ≤ most
    omega
  · exact fun _ _ => rfl

/-- A process unlinks the lock of a process that is gone, or its own outside the body. -/
theorem keeps_unlinkPath (h : Holds limit w) (hown : ∀ n, w.path = some n → ∃ p,
    w.pidOf n = some p ∧ (p ∈ w.dead ∨ p = i ∧ i ∉ w.inside)) :
    (charter uuid limit).Keeps i w w.unlinkPath := by
  rw [unlinkPath]
  split
  · exact Charter.keeps_refl h
  · rename_i inode hpath
    obtain ⟨owner, howner, hwhose⟩ := hown inode hpath
    have hmem : ∀ p n, (p, n) ∈ w.held.filter (·.2 != inode) ↔ (p, n) ∈ w.held ∧ n ≠ inode := by
      intro p n
      rw [List.mem_filter, bne_iff_ne]
    have hother : ∀ p n, (p, n) ∈ w.held → n = inode → p = owner := by
      rintro p n hheld rfl
      have hp := h.made p n hheld
      rw [howner] at hp
      exact (Option.some.inj hp).symm
    constructor
    · constructor
      · intro n p hp
        rw [touch_pidOf] at hp
        rw [touch_drawn]
        exact h.below n p hp
      · intro n hn
        rw [touch_path] at hn
        cases hn
      · intro p n hheld
        rw [touch_held, hmem] at hheld
        rw [touch_pidOf]
        exact h.made p n hheld.1
      · intro p n hheld hp
        rw [touch_held, hmem] at hheld
        rw [touch_dead] at hp
        have hstands := h.stands p n hheld.1 hp
        rw [hpath] at hstands
        exact absurd (Option.some.inj hstands).symm hheld.2
      · intro p hin hp
        rw [touch_inside] at hin
        rw [touch_dead] at hp
        obtain ⟨n, hn⟩ := h.holder p hin hp
        refine ⟨n, ?_⟩
        rw [touch_held, hmem]
        refine ⟨hn, ?_⟩
        intro he
        have hpo := hother p n hn he
        rcases hwhose with hgone | ⟨hi, hout⟩
        · exact hp (hpo ▸ hgone)
        · exact hout (hi ▸ hpo ▸ hin)
      · intro p n hv
        rw [touch_verdicts] at hv
        rw [touch_pidOf, touch_dead]
        exact h.judged p n hv
      · intro most hmost p n m hheld hp hm
        rw [touch_held, hmem] at hheld
        rw [touch_dead] at hp
        rw [touch_modifiedOf] at hm
        rw [touch_now]
        exact h.brief most hmost p n m hheld.1 hp hm
    · intro j hj
      constructor
      · rw [touch_dead]
        exact fun p hp => hp
      · intro n p hp
        rw [touch_pidOf]
        exact hp
      · intro hdead n
        rw [touch_dead] at hdead
        rw [touch_held, hmem]
        constructor
        · exact And.left
        · intro hheld
          refine ⟨hheld, ?_⟩
          intro he
          have hjo := hother j n hheld he
          rcases hwhose with hgone | ⟨hi, _⟩
          · exact hdead (hjo ▸ hgone)
          · exact hj (hjo.trans hi)
      · intro _
        rw [touch_inside]
      · intro _
        rw [touch_verdicts]
      · intro _
        rw [touch_stagings]

theorem keeps_judge (h : Holds limit w) (hgone : ∃ p, w.pidOf inode = some p ∧ p ∈ w.dead) :
    (charter uuid limit).Keeps i w (w.judge i inode) := by
  constructor
  · constructor
    · exact h.below
    · exact h.owner
    · exact h.made
    · exact h.stands
    · exact h.holder
    · intro p n hv
      rw [judge, Dict.lookup_set] at hv
      split at hv
      · cases hv
        exact hgone
      · exact h.judged p n hv
    · exact h.brief
  · intro j hj
    constructor
    · exact fun p hp => hp
    · exact fun n p hp => hp
    · exact fun _ n => Iff.rfl
    · exact fun _ => Iff.rfl
    · intro _
      exact Dict.lookup_set_of_ne (Ne.symm hj) _ _
    · exact fun _ => rfl

theorem keeps_settleVerdict (h : Holds limit w) :
    (charter uuid limit).Keeps i w (w.settleVerdict i) := by
  constructor
  · constructor
    · exact h.below
    · exact h.owner
    · exact h.made
    · exact h.stands
    · exact h.holder
    · intro p n hv
      rw [settleVerdict, Dict.lookup_erase] at hv
      split at hv
      · cases hv
      · exact h.judged p n hv
    · exact h.brief
  · intro j hj
    constructor
    · exact fun p hp => hp
    · exact fun n p hp => hp
    · exact fun _ n => Iff.rfl
    · exact fun _ => Iff.rfl
    · intro _
      rw [settleVerdict, Dict.lookup_erase, if_neg hj]
    · exact fun _ => rfl

theorem keeps_inside {inside : List Nat} (h : Holds limit w) (hholds : i ∈ inside → ∃ n, (i, n) ∈ w.held)
    (hothers : ∀ p, p ≠ i → (p ∈ inside ↔ p ∈ w.inside)) :
    (charter uuid limit).Keeps i w { w with inside } := by
  constructor
  · constructor
    · exact h.below
    · exact h.owner
    · exact h.made
    · exact h.stands
    · intro p hin hp
      by_cases hpi : p = i
      · subst hpi
        exact hholds hin
      · exact h.holder p ((hothers p hpi).1 hin) hp
    · exact h.judged
    · exact h.brief
  · intro j hj
    constructor
    · exact fun p hp => hp
    · exact fun n p hp => hp
    · exact fun _ n => Iff.rfl
    · exact fun _ => hothers j hj
    · exact fun _ => rfl
    · exact fun _ => rfl

end Steps

section Facts

variable {uuid : Nat → String} {limit : Option Int} {i : Nat} {s t w : LockWorld}

/-- What a process goes by between two of its steps must not depend on the others. -/
def Lasting (uuid : Nat → String) (i : Nat) (P : LockWorld → Prop) : Prop :=
  ∀ s t, Leads uuid i s t → P s → P t

/-- Outside the body, as long as it lives. -/
def Out (i : Nat) (w : LockWorld) : Prop :=
  i ∉ w.dead → i ∉ w.inside

def Owns (i : Nat) (w : LockWorld) : Prop :=
  i ∉ w.dead → ∃ n, (i, n) ∈ w.held

def Mine (i inode : Nat) (w : LockWorld) : Prop :=
  w.pidOf inode = some i

def Staged (uuid : Nat → String) (i inode : Nat) (w : LockWorld) : Prop :=
  i ∉ w.dead → w.stagings.lookup (uuid i) = some inode

def Gone (inode : Nat) (w : LockWorld) : Prop :=
  ∃ p, w.pidOf inode = some p ∧ p ∈ w.dead

def Judged (i inode : Nat) (w : LockWorld) : Prop :=
  i ∉ w.dead → w.verdicts.lookup i = some inode

theorem Leads.alive (h : Leads uuid i s t) (ht : i ∉ t.dead) : i ∉ s.dead :=
  fun hs => ht (h.dead i hs)

theorem lasting_out : Lasting uuid i (Out i) := by
  intro s t h ho ht hin
  exact ho (h.alive ht) ((h.inside ht).1 hin)

theorem lasting_owns : Lasting uuid i (Owns i) := by
  intro s t h ho ht
  obtain ⟨n, hn⟩ := ho (h.alive ht)
  exact ⟨n, (h.held ht n).2 hn⟩

theorem lasting_mine (inode : Nat) : Lasting uuid i (Mine i inode) := by
  intro s t h hm
  exact h.pids inode i hm

theorem lasting_staged (inode : Nat) : Lasting uuid i (Staged uuid i inode) := by
  intro s t h hs ht
  rw [h.staging ht]
  exact hs (h.alive ht)

theorem lasting_gone (inode : Nat) : Lasting uuid i (Gone inode) := by
  rintro s t h ⟨p, hp, hd⟩
  exact ⟨p, h.pids inode p hp, h.dead p hd⟩

theorem lasting_judged (inode : Nat) : Lasting uuid i (Judged i inode) := by
  intro s t h hj ht
  rw [h.verdict ht]
  exact hj (h.alive ht)

theorem Lasting.and {P Q : LockWorld → Prop} (hP : Lasting uuid i P) (hQ : Lasting uuid i Q) :
    Lasting uuid i fun w => P w ∧ Q w := by
  rintro s t h ⟨hp, hq⟩
  exact ⟨hP s t h hp, hQ s t h hq⟩

end Facts

end LockWorld

end ExternalIntelligence
