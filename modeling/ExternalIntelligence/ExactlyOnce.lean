import ExternalIntelligence.TeamDelivery

namespace ExternalIntelligence
set_option autoImplicit true

namespace FrozenDelivery

open Discipline

variable {T : TeamPlatform} {F : FrozenDelivery T} {s t w : TeamWorld}

/-- A store and an outbox that have nothing of the decision yet. -/
structure Fresh (F : FrozenDelivery T) (w : TeamWorld) : Prop where
  files : ∀ path content, w.team.files.lookup path = some content → isTemporary path = false →
    ¬Carries F.key content
  receipt : w.receipts.lookup F.receiptId = none
  foreign : ∀ id receipt, w.receipts.lookup id = some receipt → F.Foreign receipt
  body : w.bodies.lookup F.spoolId = none
  foreignBody : ∀ id body, w.bodies.lookup id = some body → F.ForeignBody body.payload
  trace : w.trace = []

/-- What other calls, other machines and the world may do between two steps. Nothing of the
decision changes, except that another machine may store its event; what is up, what fails, the
clock and all other work change freely. -/
structure Elsewhere (F : FrozenDelivery T) (s t : TeamWorld) : Prop where
  keyed : ∀ path content, t.team.files.lookup path = some content → isTemporary path = false →
    Carries F.key content →
    s.team.files.lookup path = some content ∨ path = F.target ∧ content = F.content
  stored : F.Stored s → F.Stored t
  drawn : s.drawn ≤ t.drawn
  temporaries : ∀ n directory content, n < s.drawn →
    t.team.files.lookup (directory ++ [temporaryPrefix ++ T.uuid n]) = some content →
    s.team.files.lookup (directory ++ [temporaryPrefix ++ T.uuid n]) = some content
  receipt : t.receipts.lookup F.receiptId = s.receipts.lookup F.receiptId
  foreign : ∀ id receipt, t.receipts.lookup id = some receipt → id ≠ F.receiptId →
    s.receipts.lookup id = some receipt ∨ F.Foreign receipt
  body : t.bodies.lookup F.spoolId = s.bodies.lookup F.spoolId
  foreignBody : ∀ id body, t.bodies.lookup id = some body → id ≠ F.spoolId →
    s.bodies.lookup id = some body ∨ F.ForeignBody body.payload
  trace : ∃ more, t.trace = s.trace ++ more ∧
    (∀ status, .receipt F.receiptId status ∉ more) ∧ ∀ cause, .removed F.spoolId cause ∉ more

theorem Fresh.holds (h : F.Fresh w) : F.Holds w := by
  constructor
  · intro path content hl htemp hc
    exact absurd hc (h.files path content hl htemp)
  · intro receipt hl
    rw [h.receipt] at hl
    cases hl
  · intro id receipt hl _
    exact h.foreign id receipt hl
  · intro body hl
    rw [h.body] at hl
    cases hl
  · intro id body hl _
    exact h.foreignBody id body hl
  · intro cause hc
    rw [h.trace] at hc
    cases hc

theorem Elsewhere.kept (h : F.Elsewhere s t) (hk : F.Kept s) : F.Kept t := by
  obtain ⟨more, ht, _, _⟩ := h.trace
  rcases hk with hb | ⟨cause, hc⟩
  · left
    rw [h.body]
    exact hb
  · right
    rw [ht]
    exact ⟨cause, List.mem_append_left _ hc⟩

theorem Elsewhere.keeps (h : F.Elsewhere s t) (hs : F.Holds s) : F.Keeps s t := by
  obtain ⟨more, ht, _, hremoved⟩ := h.trace
  constructor
  · constructor
    · intro path content hl htemp hc
      rcases h.keyed path content hl htemp hc with hl | hown
      · exact hs.keyed path content hl htemp hc
      · exact hown
    · intro receipt hl
      rw [h.receipt] at hl
      obtain ⟨hown, hkept, hr⟩ := hs.own receipt hl
      refine ⟨hown, h.kept hkept, ?_⟩
      rw [ht]
      exact List.mem_append_left _ hr
    · intro id receipt hl hne
      rcases h.foreign id receipt hl hne with hl | hf
      · exact hs.foreign id receipt hl hne
      · exact hf
    · rw [h.body]
      exact hs.body
    · intro id body hl hne
      rcases h.foreignBody id body hl hne with hl | hf
      · exact hs.foreignBody id body hl hne
      · exact hf
    · intro cause hc
      rw [ht] at hc
      rcases List.mem_append.1 hc with hc | hc
      · exact hs.removals cause hc
      · exact absurd hc (hremoved cause)
  · exact ⟨h.stored, h.kept, h.drawn, h.temporaries⟩

/-- A change of what is up, of what fails and of the clock. -/
theorem elsewhere_weather (F : FrozenDelivery T) (s : TeamWorld) (teamUp runtimeUp : Bool)
    (spoolFault : Option Raised) (clock : Int) :
    F.Elsewhere s { s with teamUp, runtimeUp, spoolFault, clock } := by
  constructor
  · intro path content hl _ _
    exact .inl hl
  · exact id
  · exact le_refl _
  · intro _ _ _ _ hl
    exact hl
  · rfl
  · intro id receipt hl _
    exact .inl hl
  · rfl
  · intro id body hl _
    exact .inl hl
  · exact ⟨[], by simp, by simp, by simp⟩

theorem elsewhere_later (F : FrozenDelivery T) (s : TeamWorld) (clock : Int) :
    F.Elsewhere s { s with clock } :=
  elsewhere_weather F s s.teamUp s.runtimeUp s.spoolFault clock

/-- The calls of the decision, and drains. -/
inductive Starts (F : FrozenDelivery T) : Proc TeamWorld (Except Raised TeamAnswer) → Prop where
  | deliver (bounded : Bool) (settings : TeamSettings) (eventIds : List String) :
    Starts F (deliveryCall T bounded settings F.prepared F.personalEventHash eventIds)
  | drain (bounded : Bool) (settings : TeamSettings) (maxItems : Nat) (given : Option Int) :
    Starts F (drainCall T bounded settings maxItems given)

/-- A decision that is answered is an honest one. -/
def HonestAnswer (F : FrozenDelivery T) (result : Except Raised TeamAnswer) (w : TeamWorld) :
    Prop :=
  ∀ answer, result = .ok answer → ∀ decision, answer = .decision decision → F.Honest decision w

theorem Starts.meets {call : Proc TeamWorld (Except Raised TeamAnswer)}
    (hT : Function.Injective T.uuid) (hP : T.HexDigests) (hs : F.prepared.status = .eligible)
    (h : F.Starts call) : F.discipline.Meets F.HonestAnswer call s := by
  cases h with
  | deliver bounded settings eventIds =>
    apply Answers.andThen (deliverPreparedTeamRouting_answers hT hs eventIds)
    intro decision t _ _ hhonest
    apply answers_pure
    intro u hu _ decision' hd
    cases hd
    intro hrecorded
    obtain ⟨hstored, hrest⟩ := hhonest hrecorded
    exact ⟨hu.stored hstored, hrest⟩
  | drain bounded settings maxItems given =>
    apply Tame.andThen (tame_drainTeamOutbox hT hP maxItems given)
    intro report t _ _
    apply answers_pure
    intro u _ _ decision hd
    cases hd

/-- The machines and calls around one decision. -/
abbrev runs :
    Machine (Pool TeamWorld (Except Raised TeamAnswer))
      (PoolMove TeamWorld (Except Raised TeamAnswer)) Unit :=
  Pool.machine TeamWorld (Except Raised TeamAnswer)

theorem run_disciplined {moves : List (PoolMove TeamWorld (Except Raised TeamAnswer))}
    (hT : Function.Injective T.uuid) (hP : T.HexDigests) (hs : F.prepared.status = .eligible)
    (hw : F.Fresh w) (hrun : runs.Guarded (Pool.Allows F.Starts F.Elsewhere) ⟨w, []⟩ moves) :
    Pool.Disciplined F.discipline F.HonestAnswer w (runs.after ⟨w, []⟩ moves) := by
  apply Pool.disciplined_run hw.holds _ _ hrun
  · intro call t hstart _ _
    exact hstart.meets hT hP hs
  · intro t u ht hhold
    exact ht.keeps hhold

end FrozenDelivery

namespace FrozenDelivery

variable {T : TeamPlatform} {F : FrozenDelivery T} {w : TeamWorld}

/-- What a decision's store, outbox and answers are at any time. -/
structure DeliveredOnce (F : FrozenDelivery T)
    (pool : Pool TeamWorld (Except Raised TeamAnswer)) : Prop where
  /-- Every event with the key of the decision is the frozen one, in its one place. -/
  unique : ∀ path content, pool.state.team.files.lookup path = some content →
    isTemporary path = false → Carries F.key content → path = F.target ∧ content = F.content
  answered : ∀ decision, .done (.ok (.decision decision)) ∈ pool.calls →
    decision.reasonCode = "TEAM_EVENT_RECORDED" → F.Stored pool.state ∧
      decision.deliveryEventId = some F.event.eventId ∧
      decision.deliveryEventHash = some (eventIntegrity T.toPlatform F.event)
  delivered : ∀ receipt, pool.state.receipts.lookup F.receiptId = some receipt →
    receipt.status = .delivered → F.Stored pool.state ∧
      receipt.finalEventHash = some (eventIntegrity T.toPlatform F.event)
  /-- The body a receipt was written for is there until it is removed. -/
  kept : ∀ receipt, pool.state.receipts.lookup F.receiptId = some receipt → F.Kept pool.state
  removed : ∀ earlier cause later,
    pool.state.trace = earlier ++ .removed F.spoolId cause :: later →
    .receipt F.receiptId .delivered ∈ earlier ∨
      ∃ expiresAt readAt, cause = .expired expiresAt readAt ∧ expiresAt ≤ readAt

/-- In every run of deliveries of one decision and of drains, in which calls are killed at any step
and everything else changes as it may, the decision is delivered once. -/
theorem team_delivery_exactly_once (hT : Function.Injective T.uuid) (hP : T.HexDigests)
    (hs : F.prepared.status = .eligible) (hw : F.Fresh w)
    {moves : List (PoolMove TeamWorld (Except Raised TeamAnswer))}
    (hrun : runs.Guarded (Pool.Allows F.Starts F.Elsewhere) ⟨w, []⟩ moves) :
    F.DeliveredOnce (runs.after ⟨w, []⟩ moves) := by
  have hpool := run_disciplined hT hP hs hw hrun
  have hholds := hpool.holds
  constructor
  · exact hholds.keyed
  · intro decision hdone hrecorded
    exact hpool.answer hdone _ rfl decision rfl hrecorded
  · intro receipt hl hdelivered
    obtain ⟨hown, _⟩ := hholds.own receipt hl
    exact absurd hdelivered hown.waits
  · intro receipt hl
    obtain ⟨_, hkept, _⟩ := hholds.own receipt hl
    exact hkept
  · intro earlier cause later htrace
    right
    apply hholds.removals
    rw [htrace]
    exact List.mem_append_right _ List.mem_cons_self

/-- The lowest decimal digits of a number. -/
def decimalDigits : Nat → Nat → List Char
  | 0, _ => []
  | digits + 1, n => decimalDigits digits (n / 10) ++ [Nat.digitChar (n % 10)]

/-- The text that `sampleMoment` reads as an instant. -/
def sampleStamp (instant : Int) : String :=
  let seconds := instant.toNat / 1000000
  let days := seconds / 86400 - 1
  let months := days / 31 - 1
  String.ofList (decimalDigits 4 (months / 12) ++ '-' :: decimalDigits 2 (months % 12 + 1) ++
    '-' :: decimalDigits 2 (days % 31 + 1) ++ 'T' :: decimalDigits 2 (seconds / 3600 % 24) ++
    ':' :: decimalDigits 2 (seconds / 60 % 60) ++ ':' :: decimalDigits 2 (seconds % 60) ++ ['Z'])

/-- A small platform for team stores. -/
def sampleTeam : TeamPlatform :=
  { samplePlatform with
    isoformat := sampleStamp
    strftime := fun _ instant => toString instant
    uuid := fun n => String.ofList (List.replicate n '0')
    keyId := none }

def sampleSettings : TeamSettings :=
  { team := some
      { root := some "/team", storeId := "team_0123456789abcdef", memberId := "member-one",
        writerId := "writer_0123456789abcdef" } }

def samplePrepared : PreparedTeamRouting :=
  let binding := ((bindingFields sampleTeam.toPlatform sampleSettings
    sampleSettings.team).toOption).getD {}
  { status := .eligible
    reasonCode := "TEAM_ELIGIBLE"
    normalizedPayload := some
      [("scope", .list [.str "builds"]), ("preconditions", .list [.str "a clean tree"]),
        ("failure_modes", .list [.str "a stale cache"]), ("title", .str "Clean before a release"),
        ("claim", .str "A release build starts from a clean tree."),
        ("benefit", .str "Releases can be repeated."),
        ("classification", .str "private-reusable")]
    teamStoreId := binding.teamStoreId
    teamMemberId := binding.teamMemberId
    writerId := binding.writerId
    teamRootHash := binding.teamRootHash
    actorHash := binding.actorHash
    machineHash := binding.machineHash
    preparedAt := "2024-03-05T10:20:30Z" }

def sampleHash : String :=
  "sha256:" ++ String.ofList (List.replicate 64 'a')

def sampleDelivery : FrozenDelivery sampleTeam where
  prepared := samplePrepared
  personalEventHash := sampleHash
  event := ((preparedEvent sampleTeam samplePrepared sampleHash).toOption).getD
    ⟨"", "", "", "", "", [], 2, "", "", [], []⟩
  frozen := by decide +kernel

def sampleCall : Proc TeamWorld (Except Raised TeamAnswer) :=
  deliveryCall sampleTeam false sampleSettings samplePrepared sampleHash
    ["evt_changeset_" ++ String.ofList (List.replicate 32 'a'),
      "evt_changeset_" ++ String.ofList (List.replicate 32 'b')]

/-- The shared root is away. -/
def sampleStart : TeamWorld :=
  { teamUp := false, clock := 65061483630000000 }

def sampleEnqueued : Pool TeamWorld (Except Raised TeamAnswer) :=
  runs.after ⟨sampleStart, []⟩ (.start sampleCall :: List.replicate 9 (.run 0))

/-- A delivery that the outbox takes, and another one eight days later. -/
def sampleMoves : List (PoolMove TeamWorld (Except Raised TeamAnswer)) :=
  (.start sampleCall :: List.replicate 9 (.run 0)) ++
    .elsewhere { sampleEnqueued.state with clock := 65061483630000000 + 8 * 86400000000 } ::
      .start sampleCall :: List.replicate 8 (.run 1)

theorem sampleTeam_uuid : Function.Injective sampleTeam.uuid := by
  intro n m h
  have hlength := congrArg (fun s => s.toList.length) h
  simpa [sampleTeam] using hlength

theorem sampleStart_fresh : sampleDelivery.Fresh sampleStart := by
  constructor
  · intro path content hl
    cases hl
  · rfl
  · intro id receipt hl
    cases hl
  · rfl
  · intro id body hl
    cases hl
  · rfl

theorem sampleMoves_guarded : runs.Guarded
    (Pool.Allows sampleDelivery.Starts sampleDelivery.Elsewhere) ⟨sampleStart, []⟩ sampleMoves := by
  have hcall : sampleDelivery.Starts sampleCall := .deliver false sampleSettings _
  apply Machine.Guarded.append
  · exact (Machine.guarded_cons _).2 ⟨hcall, Pool.guarded_runs _ _ _ 9 0⟩
  · rw [← sampleEnqueued, Machine.guarded_cons]
    constructor
    · exact elsewhere_later sampleDelivery sampleEnqueued.state _
    · exact (Machine.guarded_cons _).2 ⟨hcall, Pool.guarded_runs _ _ _ 8 1⟩

theorem team_delivery_sample :
    sampleDelivery.DeliveredOnce (runs.after ⟨sampleStart, []⟩ sampleMoves) :=
  team_delivery_exactly_once sampleTeam_uuid samplePlatform_hexDigests rfl sampleStart_fresh
    sampleMoves_guarded

/-- The second delivery reads the body, finds it expired and removes it, though the receipt was
never delivered. -/
theorem expired_body_removed_undelivered :
    ¬∀ moves, runs.Guarded (Pool.Allows sampleDelivery.Starts sampleDelivery.Elsewhere)
        ⟨sampleStart, []⟩ moves →
      ∀ earlier cause later, (runs.after ⟨sampleStart, []⟩ moves).state.trace =
          earlier ++ .removed sampleDelivery.spoolId cause :: later →
        (∃ status, .receipt sampleDelivery.receiptId status ∈ earlier) →
        .receipt sampleDelivery.receiptId .delivered ∈ earlier := by
  intro h
  have htrace : (runs.after ⟨sampleStart, []⟩ sampleMoves).state.trace =
      [.receipt sampleDelivery.receiptId .pending] ++ .removed sampleDelivery.spoolId
        (.expired 65062088430000000 65062174830000000) :: [] := by
    decide +kernel
  have hdelivered := h sampleMoves sampleMoves_guarded _ _ _ htrace
    ⟨_, List.mem_cons_self⟩
  cases List.mem_singleton.1 hdelivered

end FrozenDelivery

end ExternalIntelligence
