import ExternalIntelligence.LockCharter

namespace ExternalIntelligence
set_option autoImplicit true

namespace LockWorld

section Programs

open Charter

variable {uuid : Nat → String} {limit : Option Int} {i : Nat} {s t w : LockWorld}
  {P : LockWorld → Prop}

/-- A program keeps the charter and what its process goes by, whatever it returns or raises. -/
def Tame (uuid : Nat → String) (limit : Option Int) (i : Nat) (P : LockWorld → Prop)
    (call : LockCall α) (s : LockWorld) : Prop :=
  (charter uuid limit).Answers i (fun _ => P) P call s

theorem tame_pure {a : α} (hP : Lasting uuid i P) (hs : P s) :
    Tame uuid limit i P (pure a) s := by
  apply answers_pure
  intro t hl _
  exact hP s t hl hs

theorem tame_throw {e : Raised} (hP : Lasting uuid i P) (hs : P s) :
    Tame uuid limit i P (throw e : LockCall α) s := by
  apply answers_throw
  intro t hl _
  exact hP s t hl hs

theorem tame_look {f : LockWorld → Except Raised α} (hP : Lasting uuid i P) (hs : P s) :
    Tame uuid limit i P (Call.look f) s := by
  apply answers_look
  intro t hl _ _ u hu _
  have hu := hP t u hu (hP s t hl hs)
  split
  · exact hu
  · exact hu

theorem tame_atomic {f : LockWorld → Except Raised α × LockWorld} (hP : Lasting uuid i P)
    (hs : P s) (h : ∀ t, P t → Holds limit t → i ∉ t.dead → t.Unraced i →
      (charter uuid limit).Keeps i t (f t).2 ∧ P (f t).2) :
    Tame uuid limit i P (Call.atomic f) s := by
  apply answers_atomic
  rintro t hl ht ⟨halive, hraced⟩
  obtain ⟨hkeeps, hnow⟩ := h t (hP s t hl hs) ht halive hraced
  refine ⟨hkeeps, ?_⟩
  intro u hu _
  have hlater := hP _ u hu hnow
  split
  · exact hlater
  · exact hlater

theorem Tame.andThen {call : LockCall α} {next : α → LockCall β} (h : Tame uuid limit i P call s)
    (hnext : ∀ a t, Holds limit t → P t → (charter uuid limit).Answers i R P (next a) t) :
    (charter uuid limit).Answers i R P (call >>= next) s :=
  Answers.andThen h hnext

theorem Tame.recover {call : LockCall α} {handler : Raised → LockCall α}
    (h : Tame uuid limit i P call s)
    (hhandler : ∀ e t, Holds limit t → P t → Tame uuid limit i P (handler e) t) :
    Tame uuid limit i P (tryCatch call handler : LockCall α) s :=
  Answers.recover h hhandler

theorem tame_check (hP : Lasting uuid i P) (hs : P s) : Tame uuid limit i P FileLock.check s :=
  tame_look hP hs

/-- The file that is read is at the path when it is read. -/
theorem record_answers (release : Bool) (hP : Lasting uuid i P) (hs : P s) :
    (charter uuid limit).Answers i (fun found t => P t ∧ t.pidOf found.1 = some found.2.pid) P
      (FileLock.record release) s := by
  apply Tame.andThen
  · rw [FileLock.unlessRelease]
    split
    · exact tame_pure hP hs
    · exact tame_check hP hs
  intro _ t _ ht
  apply Answers.andThen (Q := fun found t => P t ∧ t.pidOf found.1 = some found.2.pid)
  · apply answers_look
    intro u hl _ _ v hv _
    have hPv := hP u v hv (hP t u hl ht)
    split
    · rename_i found heq
      split at heq
      · cases heq
      · split at heq
        · cases heq
        · rename_i inode _ node hnode
          cases heq
          refine ⟨hPv, hv.pids _ _ ?_⟩
          rw [pidOf, hnode]
          rfl
    · exact hPv
  rintro ⟨inode, node⟩ u _ ⟨hPu, hpid⟩
  have hboth : Lasting uuid i fun w => P w ∧ w.pidOf inode = some node.pid :=
    hP.and fun _ _ hl hp => hl.pids inode node.pid hp
  apply Answers.andThen (Q := fun _ t => P t ∧ t.pidOf inode = some node.pid)
  · apply answers_look
    intro v hl _ _ x hx _
    have hnow := hboth v x hx (hboth u v hl ⟨hPu, hpid⟩)
    split
    · exact hnow
    · exact hnow.1
  · intro _ v _ hv
    split
    · apply answers_pure
      intro x hx _
      exact hboth v x hx hv
    · exact answers_throw fun x hx _ => hP v x hx hv.1

/-- Whom the inspection finds stale is gone. -/
theorem inspect_answers (hP : Lasting uuid i P) (hs : P s) :
    (charter uuid limit).Answers i (fun found t => P t ∧ ∀ inode identity,
      found = some (inode, identity) → Gone inode t) P FileLock.inspect s := by
  apply Answers.andThen (record_answers false hP hs)
  rintro ⟨inode, node⟩ t _ ⟨hPt, hpid⟩
  have hboth : Lasting uuid i fun w => P w ∧ w.pidOf inode = some node.pid :=
    hP.and fun _ _ hl hp => hl.pids inode node.pid hp
  apply Answers.andThen (Q := fun _ t => P t ∧ t.pidOf inode = some node.pid)
  · apply answers_look
    intro u hl _ _ v hv _
    have hnow := hboth u v hv (hboth t u hl ⟨hPt, hpid⟩)
    split
    · exact hnow
    · exact hnow.1
  intro identity u _ hu
  apply Answers.andThen (Q := fun gone t => P t ∧ (gone = true → Gone inode t))
  · apply answers_look
    intro v hl _ _ x hx _
    obtain ⟨hPv, hpv⟩ := hboth u v hl hu
    refine ⟨hP v x hx hPv, ?_⟩
    intro hgone
    exact ⟨_, hx.pids _ _ hpv, hx.dead _ (by simpa using hgone)⟩
  · intro gone v _ hv
    apply answers_pure
    intro x hx _
    refine ⟨hP v x hx hv.1, ?_⟩
    intro inode' identity' hfound
    split at hfound
    · rename_i hgone
      cases hfound
      exact lasting_gone inode v x hx (hv.2 hgone)
    · cases hfound

theorem stale_answers (hP : Lasting uuid i P) (hs : P s) :
    (charter uuid limit).Answers i (fun found t => P t ∧ ∀ inode identity,
      found = some (inode, identity) → Gone inode t) P FileLock.stale s := by
  apply Tame.andThen (tame_check hP hs)
  intro _ t _ ht
  apply Answers.recover (inspect_answers hP ht)
  intro e u _ hu
  split
  · exact answers_throw fun v hv _ => hP u v hv hu
  · split
    · apply answers_pure
      intro v hv _
      refine ⟨hP u v hv hu, ?_⟩
      intro inode identity hfound
      cases hfound
    · exact answers_throw fun v hv _ => hP u v hv hu

/-- A process outside the body that made a file. -/
def Ready (i inode : Nat) (w : LockWorld) : Prop :=
  Out i w ∧ Mine i inode w

theorem lasting_ready (inode : Nat) : Lasting uuid i (Ready i inode) :=
  lasting_out.and (lasting_mine inode)

theorem Ready.aside (h : Ready i inode s) (hinside : t.inside = s.inside) (hdead : t.dead = s.dead)
    (hpids : ∀ n, t.pidOf n = s.pidOf n) : Ready i inode t := by
  constructor
  · rw [Out, hdead, hinside]
    exact h.1
  · rw [Mine, hpids]
    exact h.2

@[simp] theorem unlinkPath_inside (w : LockWorld) : w.unlinkPath.inside = w.inside := by
  rw [unlinkPath]
  split
  · rfl
  · rw [touch_inside]

@[simp] theorem unlinkPath_dead (w : LockWorld) : w.unlinkPath.dead = w.dead := by
  rw [unlinkPath]
  split
  · rfl
  · rw [touch_dead]

@[simp] theorem unlinkPath_verdicts (w : LockWorld) : w.unlinkPath.verdicts = w.verdicts := by
  rw [unlinkPath]
  split
  · rfl
  · rw [touch_verdicts]

@[simp] theorem unlinkPath_pidOf (w : LockWorld) (n : Nat) :
    w.unlinkPath.pidOf n = w.pidOf n := by
  rw [unlinkPath]
  split
  · rfl
  · rw [touch_pidOf]
    rfl

/-- A process that judged the file at the path stale unlinks a file whose owner is gone. -/
theorem keeps_unlinkStale (ht : Holds limit t) (hraced : t.Unraced i)
    (hv : t.verdicts.lookup i = some inode) :
    (charter uuid limit).Keeps i t (t.unlinkPath.settleVerdict i) := by
  have hkeeps : (charter uuid limit).Keeps i t t.unlinkPath := by
    apply keeps_unlinkPath ht
    intro n hn
    obtain ⟨p, hp, hgone⟩ := ht.judged i inode hv
    rcases hraced inode hv with hnone | hsome
    · rw [hnone] at hn
      cases hn
    · rw [hsome] at hn
      cases hn
      exact ⟨p, hp, .inl hgone⟩
  exact hkeeps.trans (keeps_settleVerdict hkeeps.1)

@[simp] theorem unlinkPath_stagings (w : LockWorld) : w.unlinkPath.stagings = w.stagings := by
  rw [unlinkPath]
  split
  · rfl
  · rw [touch_stagings]

/-- A process outside the body with its file under its private name. -/
def Armed (uuid : Nat → String) (i inode : Nat) (w : LockWorld) : Prop :=
  Ready i inode w ∧ Staged uuid i inode w

theorem lasting_armed (inode : Nat) : Lasting uuid i (Armed uuid i inode) :=
  (lasting_ready inode).and (lasting_staged inode)

theorem Armed.aside (h : Armed uuid i inode s) (hinside : t.inside = s.inside)
    (hdead : t.dead = s.dead) (hstagings : t.stagings = s.stagings)
    (hpids : ∀ n, t.pidOf n = s.pidOf n) : Armed uuid i inode t := by
  refine ⟨h.1.aside hinside hdead hpids, ?_⟩
  rw [Staged, hdead, hstagings]
  exact h.2

section FileLocks

variable {inode stale : Nat}

theorem tame_removeStale (hs : Armed uuid i inode s) (hgone : Gone stale s) :
    Tame uuid none i (Armed uuid i inode) (FileLock.removeStale ⟨i, uuid i⟩ stale) s := by
  apply Answers.andThen (Q := fun present t => Armed uuid i inode t ∧ (present = true →
    Judged i stale t))
  · apply answers_atomic
    rintro t hl ht ⟨halive, hraced⟩
    have harmed := lasting_armed inode s t hl hs
    have hgonet := lasting_gone stale s t hl hgone
    dsimp only
    split
    · refine ⟨keeps_judge ht hgonet, ?_⟩
      intro u hu _
      refine ⟨lasting_armed inode _ u hu ?_, ?_⟩
      · exact harmed.aside rfl rfl rfl fun _ => rfl
      · intro _
        apply lasting_judged stale _ u hu
        intro _
        exact Dict.lookup_set_self _ _ _
    · rename_i hpath
      refine ⟨keeps_refl ht, ?_⟩
      intro u hu _
      refine ⟨lasting_armed inode t u hu harmed, ?_⟩
      intro htrue
      exact absurd htrue hpath
  · intro present t _ ht
    split
    · rename_i hpresent
      have hboth : Lasting uuid i fun w => Armed uuid i inode w ∧ Judged i stale w :=
        (lasting_armed inode).and (lasting_judged stale)
      apply answers_atomic
      rintro u hl hu ⟨halive, hraced⟩
      obtain ⟨harmed, hjudged⟩ := hboth t u hl ⟨ht.1, ht.2 hpresent⟩
      refine ⟨keeps_unlinkStale hu hraced (hjudged halive), ?_⟩
      intro v hv _
      apply lasting_armed inode _ v hv
      apply harmed.aside
      · exact unlinkPath_inside u
      · exact unlinkPath_dead u
      · exact unlinkPath_stagings u
      · exact unlinkPath_pidOf u
    · exact tame_pure (lasting_armed inode) ht.1

/-- Once a process has linked its file it holds the lock. -/
theorem link_answers (hs : Armed uuid i inode s) :
    (charter uuid none).Answers i (fun _ t => Ready i inode t ∧ Owns i t) (Armed uuid i inode)
      (FileLock.link ⟨i, uuid i⟩) s := by
  apply answers_atomic
  rintro t hl ht ⟨halive, _⟩
  have harmed := lasting_armed inode s t hl hs
  have hfound := harmed.2 halive
  rw [hfound]
  dsimp only
  split
  · refine ⟨keeps_refl ht, ?_⟩
    intro u hu _
    exact lasting_armed inode t u hu harmed
  · rename_i hpath
    have hfree : t.path = none := by
      cases hp : t.path with
      | none => rfl
      | some n => rw [hp] at hpath; exact absurd rfl hpath
    refine ⟨keeps_linkPath ht hfree harmed.1.2, ?_⟩
    intro u hu _
    constructor
    · apply lasting_ready inode _ u hu
      apply harmed.1.aside
      · rw [linkPath, touch_inside]
      · rw [linkPath, touch_dead]
      · intro n
        rw [linkPath, touch_pidOf]
        rfl
    · apply lasting_owns _ u hu
      intro _
      refine ⟨inode, ?_⟩
      rw [linkPath, touch_held]
      exact List.mem_append_right _ List.mem_cons_self

/-- A call that has not linked yet raises. -/
theorem raise_answers {e : Raised} (hs : Armed uuid i inode s) :
    (charter uuid none).Answers i (fun (_ : Unit) t => Ready i inode t ∧ Owns i t)
      (Armed uuid i inode) (throw e : LockCall Unit) s := by
  apply answers_throw
  intro t hl _
  exact lasting_armed inode s t hl hs

theorem takeOver_answers (hs : Armed uuid i inode s) :
    (charter uuid none).Answers i (fun _ t => Ready i inode t ∧ Owns i t) (Armed uuid i inode)
      (FileLock.takeOver ⟨i, uuid i⟩) s := by
  have hlasting : Lasting uuid i (Armed uuid i inode) := lasting_armed inode
  apply Answers.andThen (stale_answers hlasting hs)
  intro found t _ ht
  split
  · exact raise_answers ht.1
  · rename_i stale identity
    have hgone := ht.2 stale identity rfl
    have hboth := hlasting.and (lasting_gone stale)
    have hcheck : Tame uuid none i (fun w => Armed uuid i inode w ∧ Gone stale w)
        FileLock.check t := tame_check hboth ⟨ht.1, hgone⟩
    apply Answers.andThen (hcheck.mono (fun _ _ _ h => h) fun _ h => h.1)
    intro _ u _ hu
    have hstat : Tame uuid none i (fun w => Armed uuid i inode w ∧ Gone stale w)
        FileLock.statPath u := tame_look hboth hu
    apply Answers.andThen (hstat.mono (fun _ _ _ h => h) fun _ h => h.1)
    intro info v _ hv
    split
    · apply Tame.andThen (tame_removeStale hv.1 hv.2)
      intro _ x _ hx
      apply Tame.andThen (tame_check hlasting hx)
      intro _ y _ hy
      apply Answers.recover (link_answers hy)
      intro e z _ hz
      split
      · exact raise_answers hz
      · exact raise_answers hz
    · exact raise_answers hv.1

theorem publish_answers (hs : Armed uuid i inode s) :
    (charter uuid none).Answers i (fun _ t => Ready i inode t ∧ Owns i t) (Ready i inode)
      (FileLock.publish ⟨i, uuid i⟩ inode) s := by
  have hlasting : Lasting uuid i (Armed uuid i inode) := lasting_armed inode
  have hlinked : Lasting uuid i fun w => Ready i inode w ∧ Owns i w :=
    (lasting_ready inode).and lasting_owns
  have harmed : ∀ t, Armed uuid i inode t → Ready i inode t := fun t h => h.1
  apply Answers.andThen (Answers.mono (tame_check hlasting hs) (fun _ _ _ h => h) harmed)
  intro _ t _ ht
  apply Answers.andThen (Q := fun _ => Armed uuid i inode)
  · apply Answers.mono (tame_atomic hlasting ht _) (fun _ _ _ h => h) harmed
    intro u hu hhu _ _
    refine ⟨keeps_writeRecord hhu inode, ?_⟩
    apply hu.aside
    · rw [writeRecord]; split <;> rfl
    · rw [writeRecord]; split <;> rfl
    · rw [writeRecord]; split <;> rfl
    · exact u.writeRecord_pidOf inode
  intro _ u _ hu
  apply Answers.andThen (Answers.mono (tame_check hlasting hu) (fun _ _ _ h => h) harmed)
  intro _ v _ hv
  apply Answers.andThen (Answers.mono (tame_look hlasting hv) (fun _ _ _ h => h) harmed)
  intro _ w _ hw
  apply Answers.andThen (Answers.mono (tame_check hlasting hw) (fun _ _ _ h => h) harmed)
  intro _ x _ hx
  apply Answers.andThen (Q := fun _ t => Ready i inode t ∧ Owns i t)
  · apply Answers.recover (link_answers hx)
    intro e y _ hy
    split
    · exact (takeOver_answers hy).mono (fun _ _ _ h => h) harmed
    · exact (raise_answers hy).mono (fun _ _ _ h => h) harmed
  · intro _ y _ hy
    exact Answers.mono (tame_check hlinked hy) (fun _ _ _ h => h) fun _ h => h.1

/-- A process that holds the lock through a file. -/
def Holding (i inode : Nat) (w : LockWorld) : Prop :=
  i ∉ w.dead → (i, inode) ∈ w.held

theorem lasting_holding (inode : Nat) : Lasting uuid i (Holding i inode) := by
  intro s t h hs ht
  exact (h.held ht inode).2 (hs (h.alive ht))

/-- What a process finds of its own at the path it holds. -/
theorem Holds.holding (h : Holds limit w) (hm : Mine i inode w) (hpath : w.path = some inode) :
    (i, inode) ∈ w.held := by
  obtain ⟨p, hp, hmem⟩ := h.owner inode hpath
  rw [hm] at hp
  cases hp
  exact hmem

theorem tame_unlinkOwned (hs : Ready i inode s) (hh : Holding i inode s) :
    Tame uuid limit i (Ready i inode) FileLock.unlinkOwned s := by
  have hboth : Lasting uuid i fun w => Ready i inode w ∧ Holding i inode w :=
    (lasting_ready inode).and (lasting_holding inode)
  have hlook : Tame uuid limit i (fun w => Ready i inode w ∧ Holding i inode w)
      (Call.look fun w => .ok w.path.isSome) s := tame_look hboth ⟨hs, hh⟩
  apply Answers.andThen (hlook.mono (fun _ _ _ h => h) fun _ h => h.1)
  intro present t _ ht
  split
  · apply answers_atomic
    rintro u hl hu ⟨halive, _⟩
    obtain ⟨hready, hholding⟩ := hboth t u hl ht
    have hpath := hu.stands i inode (hholding halive) halive
    have hkeeps : (charter uuid limit).Keeps i u u.unlinkPath := by
      apply keeps_unlinkPath hu
      intro n hn
      rw [hpath] at hn
      cases hn
      exact ⟨i, hready.2, .inr ⟨rfl, hready.1 halive⟩⟩
    refine ⟨hkeeps, ?_⟩
    intro v hv _
    apply lasting_ready inode _ v hv
    apply hready.aside
    · exact unlinkPath_inside u
    · exact unlinkPath_dead u
    · exact unlinkPath_pidOf u
  · exact tame_pure (lasting_ready inode) ht.1

theorem tame_releaseOwned (hs : Ready i inode s) :
    Tame uuid limit i (Ready i inode) (FileLock.releaseOwned ⟨i, token⟩ inode) s := by
  have hlasting : Lasting uuid i (Ready i inode) := lasting_ready inode
  apply Tame.recover
  · have hrecord : Tame uuid limit i (Ready i inode) (FileLock.record true) s :=
      (record_answers true hlasting hs).mono (fun _ _ _ h => h.1) fun _ h => h
    apply Tame.andThen hrecord
    rintro ⟨_, node⟩ t _ ht
    apply Answers.andThen (Q := fun info u => Ready i inode u ∧ (info.1 = inode →
      Holding i inode u))
    · apply answers_look
      intro u hl hu _ v hv _
      have hready := hlasting t u hl ht
      have hlater := hlasting u v hv hready
      split
      · rename_i info heq
        refine ⟨hlater, ?_⟩
        intro hsame
        split at heq
        · cases heq
        · rename_i found hpath
          split at heq
          · cases heq
          · cases heq
            cases hsame
            exact lasting_holding _ u v hv fun _ => hu.holding hready.2 hpath
      · exact hlater
    · intro info u _ hu
      split
      · rename_i hown
        exact tame_unlinkOwned hu.1 (hu.2 hown.1)
      · exact tame_pure hlasting hu.1
  · intro e t _ ht
    split
    · exact tame_pure hlasting ht
    · exact tame_throw hlasting ht

theorem tame_releaseStaging (huuid : Function.Injective uuid) (hP : Lasting uuid i P)
    (hunlink : ∀ w, P w → P (w.unlinkStaging (uuid i) inode)) (hs : P s) :
    Tame uuid limit i P (FileLock.releaseStaging ⟨i, uuid i⟩ inode expected) s := by
  apply Tame.recover
  · apply Tame.andThen (tame_look hP hs)
    intro own t _ ht
    split
    · apply tame_atomic hP ht
      intro u hu hhu _ _
      exact ⟨keeps_unlinkStaging huuid hhu inode, hunlink u hu⟩
    · exact tame_pure hP ht
  · intro e t _ ht
    split
    · exact tame_pure hP ht
    · exact tame_throw hP ht

theorem Ready.unlinkStaging (h : Ready i inode w) (token : String) (n : Nat) :
    Ready i inode (w.unlinkStaging token n) := by
  apply h.aside
  · rw [LockWorld.unlinkStaging, touch_inside]
  · rw [LockWorld.unlinkStaging, touch_dead]
  · intro m
    rw [LockWorld.unlinkStaging, touch_pidOf]
    rfl

theorem create_answers (huuid : Function.Injective uuid) (hs : Out i s) :
    (charter uuid none).Answers i (fun inode => Armed uuid i inode) (Out i)
      (FileLock.create ⟨i, uuid i⟩) s := by
  apply answers_atomic
  rintro t hl ht ⟨halive, _⟩
  have hout := lasting_out s t hl hs
  dsimp only
  split
  · refine ⟨keeps_refl ht, ?_⟩
    intro u hu _
    exact lasting_out t u hu hout
  · refine ⟨keeps_createStaging huuid ht, ?_⟩
    intro u hu _
    apply lasting_armed t.drawn _ u hu
    refine ⟨⟨hout, pidOf_createStaging⟩, ?_⟩
    intro _
    exact Dict.lookup_set_self _ _ _

/-- A process that has entered holds the lock. -/
theorem enter_answers (huuid : Function.Injective uuid) (hs : Out i s) :
    (charter uuid none).Answers i (fun inode t => Ready i inode t ∧ Owns i t) (Out i)
      (FileLock.enter ⟨i, uuid i⟩) s := by
  apply Tame.andThen (tame_check lasting_out hs)
  intro _ t _ ht
  apply Tame.andThen (tame_check lasting_out ht)
  intro _ u _ hu
  apply Answers.andThen (create_answers huuid hu)
  intro inode v _ hv
  have hlasting : Lasting uuid i (Ready i inode) := lasting_ready inode
  have hboth : Lasting uuid i fun w => Ready i inode w ∧ Owns i w := hlasting.and lasting_owns
  have hpublish : (charter uuid none).Answers i (fun _ t => Ready i inode t ∧ Owns i t) (Out i)
      (tryCatch (FileLock.publish ⟨i, uuid i⟩ inode) fun error => do
        FileLock.releaseOwned ⟨i, uuid i⟩ inode
        FileLock.releaseStaging ⟨i, uuid i⟩ inode 1
        throw error : LockCall Unit) v := by
    apply Answers.recover (publish_answers hv)
    intro e w _ hw
    have hout : ∀ t, Ready i inode t → Out i t := fun _ h => h.1
    apply Answers.andThen (Answers.mono (tame_releaseOwned hw) (fun _ _ _ h => h) hout)
    intro _ x _ hx
    have hstaging : Tame uuid none i (Ready i inode)
        (FileLock.releaseStaging ⟨i, uuid i⟩ inode 1) x :=
      tame_releaseStaging huuid hlasting (fun w h => h.unlinkStaging _ _) hx
    apply Answers.andThen (Answers.mono hstaging (fun _ _ _ h => h) hout)
    intro _ y _ hy
    apply answers_throw
    intro z hl _
    exact hout z (hlasting y z hl hy)
  apply Answers.andThen hpublish
  intro _ w _ hw
  have hstaging : Tame uuid none i (fun w => Ready i inode w ∧ Owns i w)
      (FileLock.releaseStaging ⟨i, uuid i⟩ inode 2) w := by
    apply tame_releaseStaging huuid hboth _ hw
    rintro x ⟨hready, howns⟩
    refine ⟨hready.unlinkStaging _ _, ?_⟩
    rw [Owns, LockWorld.unlinkStaging, touch_dead, touch_held]
    exact howns
  apply Answers.andThen (Answers.mono hstaging (fun _ _ _ h => h) fun _ h => h.1.1)
  intro _ x _ hx
  apply answers_pure
  intro y hl _
  exact hboth x y hl hx

/-- The body keeps what does not depend on who is inside. -/
theorem body_answers (hP : Lasting uuid i P)
    (hinside : ∀ w inside, P w → P ({ w with inside } : LockWorld))
    (hs : Out i s ∧ Owns i s ∧ P s) :
    Tame uuid limit i (fun t => Out i t ∧ Owns i t ∧ P t) (FileLock.body i) s := by
  have howned : Lasting uuid i fun w => Owns i w ∧ P w := lasting_owns.and hP
  have hboth : Lasting uuid i fun w => Out i w ∧ Owns i w ∧ P w := lasting_out.and howned
  apply Answers.andThen (Q := fun _ t => Owns i t ∧ P t)
  · apply answers_atomic
    rintro t hl ht ⟨halive, _⟩
    obtain ⟨_, howns, hp⟩ := hboth s t hl hs
    constructor
    · apply keeps_inside ht
      · intro _
        exact howns halive
      · intro p hp
        rw [List.mem_append, List.mem_singleton, or_iff_left hp]
    · intro u hu _
      exact howned _ u hu ⟨howns, hinside t _ hp⟩
  · intro _ t _ ht
    apply answers_atomic
    rintro u hl hu ⟨halive, _⟩
    obtain ⟨howns, hp⟩ := howned t u hl ht
    constructor
    · apply keeps_inside hu
      · intro _
        exact howns halive
      · intro p hp
        rw [List.mem_filter, bne_iff_ne, and_iff_left hp]
    · intro v hv _
      apply hboth _ v hv
      refine ⟨?_, howns, hinside u _ hp⟩
      intro _ hin
      have hne := (List.mem_filter.1 hin).2
      rw [bne_iff_ne] at hne
      exact hne rfl

theorem tame_session (huuid : Function.Injective uuid) (hs : Out i s) :
    Tame uuid none i (Out i) (FileLock.session ⟨i, uuid i⟩) s := by
  apply Answers.andThen (enter_answers huuid hs)
  rintro inode t _ ⟨hready, howns⟩
  have hbody : Tame uuid none i (fun t => Out i t ∧ Owns i t ∧ Mine i inode t)
      (FileLock.body i) t :=
    body_answers (lasting_mine inode) (fun _ _ h => h) ⟨hready.1, howns, hready.2⟩
  apply Answers.andThen (hbody.mono (fun _ _ _ h => h) fun _ h => h.1)
  intro _ u _ hu
  have hrelease : Tame uuid none i (Ready i inode)
      (FileLock.releaseOwned ⟨i, uuid i⟩ inode) u := tame_releaseOwned ⟨hu.1, hu.2.2⟩
  exact hrelease.mono (fun _ _ _ h => h.1) fun _ h => h.1

end FileLocks

section SpoolLocks

/-- A lock older than a live process can hold it has a dead owner. -/
theorem Holds.dead_of_old (h : Holds (some most) w) (hpath : w.path = some inode)
    (hm : w.modifiedOf inode = some m) (hold : most < w.now - m) : Gone inode w := by
  obtain ⟨p, hp, hmem⟩ := h.owner inode hpath
  refine ⟨p, hp, ?_⟩
  by_contra hp
  have hbrief := h.brief most rfl p inode m hmem hp hm
  omega

theorem tame_expire (hs : Out i s) :
    Tame uuid (some SpoolLock.takeoverAge) i (Out i) (SpoolLock.expire i) s := by
  apply Answers.andThen (Q := fun old t => Out i t ∧ (old = true → ∃ n, Judged i n t))
  · apply answers_atomic
    rintro t hl ht ⟨halive, _⟩
    have hout := lasting_out s t hl hs
    have hyoung : (charter uuid (some SpoolLock.takeoverAge)).Keeps i t t ∧
        ∀ u, Leads uuid i t u → Holds (some SpoolLock.takeoverAge) u →
          Out i u ∧ (false = true → ∃ n, Judged i n u) := by
      refine ⟨keeps_refl ht, ?_⟩
      intro u hu _
      exact ⟨lasting_out t u hu hout, fun h => nomatch h⟩
    split
    · exact hyoung
    · rename_i inode hpath
      split
      · exact hyoung
      · rename_i node hnode
        split
        · rename_i hold
          have hgone : Gone inode t := by
            apply ht.dead_of_old hpath _ hold
            rw [modifiedOf, hnode]
            rfl
          refine ⟨keeps_judge ht hgone, ?_⟩
          intro u hu _
          refine ⟨lasting_out _ u hu hout, ?_⟩
          intro _
          refine ⟨inode, lasting_judged inode _ u hu ?_⟩
          intro _
          exact Dict.lookup_set_self _ _ _
        · exact hyoung
  · rintro old t _ ⟨hout, hold⟩
    split
    · rename_i htrue
      obtain ⟨n, hjudged⟩ := hold htrue
      apply answers_atomic
      rintro u hl hu ⟨halive, hraced⟩
      refine ⟨keeps_unlinkStale hu hraced (lasting_judged n t u hl hjudged halive), ?_⟩
      intro v hv _
      apply lasting_out _ v hv
      have houtu := lasting_out t u hl hout
      intro hd hin
      have hd' : i ∉ u.unlinkPath.dead := hd
      have hin' : i ∈ u.unlinkPath.inside := hin
      rw [unlinkPath_dead] at hd'
      rw [unlinkPath_inside] at hin'
      exact houtu hd' hin'
    · exact tame_pure lasting_out hout

theorem attempt_answers (hs : Out i s) :
    (charter uuid (some SpoolLock.takeoverAge)).Answers i
      (fun made t => Out i t ∧ (made = true → Owns i t)) (Out i) (SpoolLock.attempt i) s := by
  apply Tame.andThen (tame_check lasting_out hs)
  intro _ t _ ht
  apply answers_atomic
  rintro u hl hu ⟨halive, _⟩
  have hout := lasting_out t u hl ht
  split
  · refine ⟨keeps_refl hu, ?_⟩
    intro v hv _
    exact ⟨lasting_out u v hv hout, fun h => nomatch h⟩
  · rename_i hpath
    have hfree : u.path = none := by
      cases hp : u.path with
      | none => rfl
      | some n => rw [hp] at hpath; exact absurd rfl hpath
    constructor
    · apply keeps_createPath hu hfree
      intro most hmost
      cases hmost
      decide
    · intro v hv _
      refine ⟨lasting_out _ v hv hout, ?_⟩
      intro _
      apply lasting_owns _ v hv
      intro _
      exact ⟨u.drawn, List.mem_append_right _ List.mem_cons_self⟩

theorem acquire_answers (rounds : Nat) (hs : Out i s) :
    (charter uuid (some SpoolLock.takeoverAge)).Answers i (fun _ t => Out i t ∧ Owns i t) (Out i)
      (SpoolLock.acquire i rounds) s := by
  induction rounds generalizing s with
  | zero =>
    apply Answers.andThen (attempt_answers hs)
    intro made t _ ht
    split
    · rename_i hmade
      apply answers_pure
      intro u hl _
      exact ⟨lasting_out t u hl ht.1, lasting_owns t u hl (ht.2 hmade)⟩
    · apply answers_throw
      intro u hl _
      exact lasting_out t u hl ht.1
  | succ rounds ih =>
    apply Answers.andThen (attempt_answers hs)
    intro made t _ ht
    split
    · rename_i hmade
      apply answers_pure
      intro u hl _
      exact ⟨lasting_out t u hl ht.1, lasting_owns t u hl (ht.2 hmade)⟩
    · apply Tame.andThen (tame_expire ht.1)
      intro _ u _ hu
      exact ih hu

/-- A live process that is through with the body unlinks its own lock. -/
theorem tame_release (hs : Out i s ∧ Owns i s) :
    Tame uuid limit i (Out i) SpoolLock.release s := by
  have hboth : Lasting uuid i fun w => Out i w ∧ Owns i w := lasting_out.and lasting_owns
  apply answers_atomic
  rintro t hl ht ⟨halive, _⟩
  obtain ⟨hout, howns⟩ := hboth s t hl hs
  constructor
  · apply keeps_unlinkPath ht
    intro n hn
    obtain ⟨m, hm⟩ := howns halive
    have hpath := ht.stands i m hm halive
    rw [hn] at hpath
    cases hpath
    exact ⟨i, ht.made i n hm, .inr ⟨rfl, hout halive⟩⟩
  · intro u hu _
    apply lasting_out _ u hu
    intro hd
    rw [unlinkPath_dead] at hd
    rw [unlinkPath_inside]
    exact hout hd

theorem tame_spoolSession (rounds : Nat) (hs : Out i s) :
    Tame uuid (some SpoolLock.takeoverAge) i (Out i) (SpoolLock.session i rounds) s := by
  apply Answers.andThen (acquire_answers rounds hs)
  intro _ t _ ht
  have hnothing : Lasting uuid i fun _ => True := fun _ _ _ h => h
  have hbody : Tame uuid (some SpoolLock.takeoverAge) i (fun t => Out i t ∧ Owns i t ∧ True)
      (FileLock.body i) t :=
    body_answers hnothing (fun _ _ h => h) ⟨ht.1, ht.2, trivial⟩
  apply Answers.andThen (hbody.mono (fun _ _ _ h => h) fun _ h => h.1)
  intro _ u _ hu
  exact tame_release ⟨hu.1, hu.2.1⟩

end SpoolLocks

end Programs

/-- Processes die, the clock moves, and budgets run out. With a limit, no live process holds the
lock for longer. -/
def Elsewhere (limit : Option Int) (s t : LockWorld) : Prop :=
  t = { s with dead := t.dead, late := t.late, now := t.now } ∧ (∀ p ∈ s.dead, p ∈ t.dead) ∧
    ∀ most ∈ limit, ∀ entry ∈ t.held, entry.1 ∉ t.dead → ∀ m ∈ t.modifiedOf entry.2,
      t.now - m ≤ most

/-- In a run of the processes, one takes a step, or something happens elsewhere. -/
def Runs (may : Nat → LockWorld → Prop) (limit : Option Int)
    (pool : Pool LockWorld (Except Raised Unit)) : PoolMove LockWorld (Except Raised Unit) → Prop
  | .start _ => False
  | .run i => may i pool.state
  | .elsewhere t => Elsewhere limit pool.state t

def Alive (i : Nat) (w : LockWorld) : Prop :=
  i ∉ w.dead

/-- A process that is alive, and at a takeover finds no other file than the one it judged. -/
def Undisturbed (i : Nat) (w : LockWorld) : Prop :=
  i ∉ w.dead ∧ w.Unraced i

/-- One live process at most is in the body, and the lock that stands is its own. -/
structure Excludes (w : LockWorld) : Prop where
  single : ∀ p ∈ w.inside, ∀ q ∈ w.inside, p ∉ w.dead → q ∉ w.dead → p = q
  stands : ∀ p ∈ w.inside, p ∉ w.dead → ∃ n, w.path = some n ∧ w.pidOf n = some p

/-- The processes that take a file lock, each an entry with a token of its own. -/
def fileCrew (uuid : Nat → String) (count : Nat) : Pool LockWorld (Except Raised Unit) :=
  ⟨{}, (List.range count).map fun i => FileLock.session ⟨i, uuid i⟩⟩

/-- The processes that take a spool's lock, with the rounds each tries. -/
def spoolCrew (rounds : Nat → Nat) (count : Nat) : Pool LockWorld (Except Raised Unit) :=
  ⟨{}, (List.range count).map fun i => SpoolLock.session i (rounds i)⟩

abbrev lockRuns : Machine (Pool LockWorld (Except Raised Unit))
    (PoolMove LockWorld (Except Raised Unit)) Unit :=
  Pool.machine LockWorld (Except Raised Unit)

section Exclusion

variable {uuid : Nat → String} {limit : Option Int}

theorem holds_empty : Holds limit {} := by
  constructor
  · intro n p h
    cases h
  · intro n h
    cases h
  · intro p n h
    cases h
  · intro p n h
    cases h
  · intro p h
    cases h
  · intro p n h
    cases h
  · intro most _ p n m h
    cases h

theorem elsewhere_kept (h : Elsewhere limit s t) (hs : Holds limit s) :
    Holds limit t ∧ ∀ i, Leads uuid i s t := by
  obtain ⟨ht, hdead, hbrief⟩ := h
  rw [ht] at hdead hbrief ⊢
  constructor
  · constructor
    · exact hs.below
    · exact hs.owner
    · exact hs.made
    · intro p n hmem hp
      exact hs.stands p n hmem fun hd => hp (hdead p hd)
    · intro p hin hp
      exact hs.holder p hin fun hd => hp (hdead p hd)
    · intro p n hv
      obtain ⟨q, hq, hgone⟩ := hs.judged p n hv
      exact ⟨q, hq, hdead q hgone⟩
    · intro most hmost p n m hmem hp hm
      exact hbrief most hmost (p, n) hmem hp m hm
  · intro i
    constructor
    · exact hdead
    · exact fun _ _ hp => hp
    · exact fun _ _ => Iff.rfl
    · exact fun _ => Iff.rfl
    · exact fun _ => rfl
    · exact fun _ => rfl

theorem Holds.excludes (h : Holds limit w) : Excludes w := by
  have hown : ∀ p ∈ w.inside, p ∉ w.dead → ∃ n, w.path = some n ∧ w.pidOf n = some p := by
    intro p hin hp
    obtain ⟨n, hn⟩ := h.holder p hin hp
    exact ⟨n, h.stands p n hn hp, h.made p n hn⟩
  constructor
  · intro p hp q hq hpd hqd
    obtain ⟨n, hn, hpn⟩ := hown p hp hpd
    obtain ⟨m, hm, hqm⟩ := hown q hq hqd
    rw [hn] at hm
    cases hm
    rw [hpn] at hqm
    exact Option.some.inj hqm
  · exact hown

/-- Sessions that keep the charter exclude each other in every run of them. -/
theorem excludes_run (uuid : Nat → String) {session : Nat → LockCall Unit}
    (hsession : ∀ i, Tame uuid limit i (Out i) (session i) {})
    (hrun : lockRuns.Guarded (Runs Undisturbed limit) ⟨{}, (List.range count).map session⟩ moves) :
    Excludes (lockRuns.after ⟨{}, (List.range count).map session⟩ moves).state := by
  have hstart : Pool.Chartered (charter uuid limit) (fun _ _ => True)
      ⟨{}, (List.range count).map session⟩ := by
    constructor
    · exact holds_empty
    · intro i call hcall
      rw [List.getElem?_map, Option.map_eq_some_iff] at hcall
      obtain ⟨k, hk, rfl⟩ := hcall
      obtain ⟨hlt, rfl⟩ := List.getElem?_eq_some_iff.1 hk
      rw [List.getElem_range]
      exact Charter.Meets.mono (hsession i) fun _ _ _ _ => trivial
  have hcrewed : lockRuns.Guarded (Pool.Crewed (charter uuid limit) (Elsewhere limit))
      ⟨{}, (List.range count).map session⟩ moves := by
    intro earlier m later he
    have hm := hrun earlier m later he
    cases m with
    | start call => exact hm
    | run i => exact hm
    | elsewhere t => exact hm
  have hend := Pool.chartered_run hstart (fun s t h hs => elsewhere_kept h hs) hcrewed
  exact hend.holds.excludes

/-- In every run in which no takeover finds another file than the one it judged, both locks
exclude. -/
theorem locks_exclude (huuid : Function.Injective uuid) {rounds : Nat → Nat} {count : Nat}
    {moves : List (PoolMove LockWorld (Except Raised Unit))} :
    (lockRuns.Guarded (Runs Undisturbed none) (fileCrew uuid count) moves →
      Excludes (lockRuns.after (fileCrew uuid count) moves).state) ∧
    (lockRuns.Guarded (Runs Undisturbed (some SpoolLock.takeoverAge)) (spoolCrew rounds count)
        moves →
      Excludes (lockRuns.after (spoolCrew rounds count) moves).state) := by
  have hout : ∀ i, Out i {} := fun _ _ h => nomatch h
  constructor
  · intro hrun
    apply excludes_run uuid _ hrun
    exact fun i => tame_session huuid (hout i)
  · intro hrun
    apply excludes_run uuid _ hrun
    exact fun i => tame_spoolSession (rounds i) (hout i)

/-- A move that puts a new file at the lock's path. -/
def MakesLock (pool : Pool LockWorld (Except Raised Unit))
    (m : PoolMove LockWorld (Except Raised Unit)) : Prop :=
  (lockRuns.step pool m).1.state.path ≠ pool.state.path ∧
    (lockRuns.step pool m).1.state.path ≠ none

/-- A schedule in which no lock is made between the last look of a process at a lock that it judges
stale and the unlink. -/
def Uninterrupted (start : Pool LockWorld (Except Raised Unit))
    (moves : List (PoolMove LockWorld (Except Raised Unit))) : Prop :=
  ∀ earlier i later n, moves = earlier ++ .run i :: later →
    (lockRuns.after start earlier).state.verdicts.lookup i = some n →
    ∃ seen since, earlier = seen ++ since ∧ (lockRuns.after start seen).state.path = some n ∧
      lockRuns.Guarded (fun pool m => ¬MakesLock pool m) (lockRuns.after start seen) since

/-- While no lock is made, the file at the path stays there or is unlinked. -/
theorem path_of_none_made (h : lockRuns.Guarded (fun pool m => ¬MakesLock pool m) pool moves)
    (hpath : pool.state.path = none ∨ pool.state.path = some n) :
    (lockRuns.after pool moves).state.path = none ∨
      (lockRuns.after pool moves).state.path = some n := by
  apply Machine.guarded_invariant
    (I := fun other : Pool LockWorld (Except Raised Unit) =>
      other.state.path = none ∨ other.state.path = some n) lockRuns _ hpath h
  intro other m hother hmakes
  by_cases hnone : (lockRuns.step other m).1.state.path = none
  · exact .inl hnone
  · have hkept : (lockRuns.step other m).1.state.path = other.state.path := by
      by_contra hne
      exact hmakes ⟨hne, hnone⟩
    rw [hkept]
    exact hother

theorem undisturbed_of_schedule (halive : lockRuns.Guarded (Runs Alive limit) start moves)
    (h : Uninterrupted start moves) : lockRuns.Guarded (Runs Undisturbed limit) start moves := by
  intro earlier m later he
  have hm := halive earlier m later he
  cases m with
  | start call => exact hm
  | run i =>
    apply And.intro hm
    intro n hn
    obtain ⟨seen, since, hearlier, hpath, hsince⟩ := h earlier i later n he hn
    rw [hearlier, Machine.after_append]
    exact path_of_none_made hsince (.inr hpath)
  | elsewhere t => exact hm

/-- Both locks exclude in every schedule in which no lock is made between the look at a lock that is
judged stale and its unlink. -/
theorem exclude_of_schedule (huuid : Function.Injective uuid) {rounds : Nat → Nat} {count : Nat} :
    (lockRuns.Guarded (Runs Alive none) (fileCrew uuid count) moves →
      Uninterrupted (fileCrew uuid count) moves →
      Excludes (lockRuns.after (fileCrew uuid count) moves).state) ∧
    (lockRuns.Guarded (Runs Alive (some SpoolLock.takeoverAge)) (spoolCrew rounds count) moves →
      Uninterrupted (spoolCrew rounds count) moves →
      Excludes (lockRuns.after (spoolCrew rounds count) moves).state) := by
  have hout : ∀ i, Out i {} := fun _ _ h => nomatch h
  constructor
  · intro halive hschedule
    apply excludes_run uuid _ (undisturbed_of_schedule halive hschedule)
    exact fun i => tame_session huuid (hout i)
  · intro halive hschedule
    apply excludes_run uuid _ (undisturbed_of_schedule halive hschedule)
    exact fun i => tame_spoolSession (rounds i) (hout i)

end Exclusion

section Takeovers

instance (limit : Option Int) (s t : LockWorld) : Decidable (Elsewhere limit s t) :=
  inferInstanceAs (Decidable (_ ∧ _ ∧ _))

instance (i : Nat) (w : LockWorld) : Decidable (Alive i w) :=
  inferInstanceAs (Decidable (i ∉ w.dead))

instance (w : LockWorld) (i : Nat) : Decidable (w.Unraced i) :=
  inferInstanceAs (Decidable (∀ n ∈ w.verdicts.lookup i, w.path = none ∨ w.path = some n))

instance (i : Nat) (w : LockWorld) : Decidable (Undisturbed i w) :=
  inferInstanceAs (Decidable (i ∉ w.dead ∧ w.Unraced i))

instance {may : Nat → LockWorld → Prop} [∀ i w, Decidable (may i w)] (limit : Option Int)
    (pool : Pool LockWorld (Except Raised Unit)) : ∀ m, Decidable (Runs may limit pool m)
  | .start _ => inferInstanceAs (Decidable False)
  | .run i => inferInstanceAs (Decidable (may i pool.state))
  | .elsewhere t => inferInstanceAs (Decidable (Elsewhere limit pool.state t))

def sampleToken (n : Nat) : String :=
  String.ofList (List.replicate n '0')

theorem sampleToken_injective : Function.Injective sampleToken := by
  intro n m h
  have hlength := congrArg (fun s => s.toList.length) h
  simpa [sampleToken] using hlength

abbrev LockMoves : Type :=
  List (PoolMove LockWorld (Except Raised Unit))

/-- The first process dies in the body; the others find its lock. -/
def fileMoves (others : LockMoves) : LockMoves :=
  List.replicate 13 (.run 0) ++ .elsewhere
    { (lockRuns.after (fileCrew sampleToken 3) (List.replicate 13 (.run 0))).state with
      dead := [0] } :: others

def spoolMoves (others : LockMoves) : LockMoves :=
  List.replicate 3 (.run 0) ++ .elsewhere
    { (lockRuns.after (spoolCrew (fun _ => 3) 3) (List.replicate 3 (.run 0))).state with
      dead := [0], now := 130000000 } :: others

theorem locks_exclude_sample :
    Excludes (lockRuns.after (fileCrew sampleToken 3)
      (fileMoves (List.replicate 25 (.run 1)))).state ∧
    Excludes (lockRuns.after (spoolCrew (fun _ => 3) 3)
      (spoolMoves (List.replicate 7 (.run 1)))).state :=
  ⟨(@locks_exclude sampleToken sampleToken_injective (fun _ => 3) _ _).1 (by decide),
    (locks_exclude sampleToken_injective).2 (by decide)⟩

/-- A second process unlinks the lock of the first after both found the same stale one. -/
theorem takeovers_race :
    (¬∀ moves, lockRuns.Guarded (Runs Alive none) (fileCrew sampleToken 3) moves →
      Excludes (lockRuns.after (fileCrew sampleToken 3) moves).state) ∧
    ¬∀ moves, lockRuns.Guarded (Runs Alive (some SpoolLock.takeoverAge))
        (spoolCrew (fun _ => 3) 3) moves →
      Excludes (lockRuns.after (spoolCrew (fun _ => 3) 3) moves).state := by
  constructor
  · intro h
    have hexcludes := h (fileMoves (List.replicate 17 (.run 2) ++ List.replicate 25 (.run 1) ++
      List.replicate 8 (.run 2))) (by decide +kernel)
    have hsame := hexcludes.single 1 (by decide +kernel) 2 (by decide +kernel) (by decide +kernel)
      (by decide +kernel)
    cases hsame
  · intro h
    have hexcludes := h (spoolMoves (List.replicate 3 (.run 1) ++ List.replicate 7 (.run 2) ++
      List.replicate 4 (.run 1))) (by decide)
    have hsame := hexcludes.single 1 (by decide) 2 (by decide) (by decide)
      (by decide)
    cases hsame

end Takeovers

end LockWorld

end ExternalIntelligence
