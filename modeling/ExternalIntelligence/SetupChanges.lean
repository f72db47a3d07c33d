import ExternalIntelligence.SetupPlan

namespace ExternalIntelligence
set_option autoImplicit true

theorem foldl_append_actions (l : List HostChanges) (a : HostChanges) :
    (l.foldl HostChanges.append a).actions = a.actions ++ l.flatMap HostChanges.actions := by
  induction l generalizing a with
  | nil => exact (List.append_nil _).symm
  | cons b l ih =>
    rw [List.foldl_cons, ih, HostChanges.append, List.flatMap_cons, List.append_assoc]

theorem foldl_append_managed (l : List HostChanges) (a : HostChanges) :
    (l.foldl HostChanges.append a).managed = (a.managed || l.any HostChanges.managed) := by
  induction l generalizing a with
  | nil => exact (Bool.or_false _).symm
  | cons b l ih => rw [List.foldl_cons, ih, HostChanges.append, List.any_cons, Bool.or_assoc]

/-- Changes of hosts that no step is planned for. -/
def HostChanges.Quiet (c : HostChanges) : Prop :=
  c.actions = [] ∧ c.managed = false

theorem quiet_foldl_append {l : List HostChanges} :
    (l.foldl HostChanges.append {}).Quiet ↔ ∀ c ∈ l, c.Quiet := by
  rw [HostChanges.Quiet, foldl_append_actions, foldl_append_managed, List.nil_append,
    List.flatMap_eq_nil_iff, Bool.false_or, List.any_eq_false]
  apply Iff.intro
  · intro h c hc
    exact ⟨h.1 c hc, Bool.not_eq_true _ ▸ h.2 c hc⟩
  · intro h
    apply And.intro
    · intro c hc
      exact (h c hc).1
    · intro c hc
      rw [(h c hc).2]
      exact Bool.false_ne_true

theorem not_quiet_removeHost (P : Platform) (host : String) (record : Value) :
    ¬(removeHost P host record).Quiet :=
  fun h => List.cons_ne_nil _ _ h.1

theorem not_quiet_addHost (P : Platform) (host : String) (record : Value) :
    ¬(addHost P host record).Quiet :=
  fun h => List.cons_ne_nil _ _ h.1

theorem keysOnlyIn_eq_nil {a b : Fields} :
    keysOnlyIn a b = [] ↔ ∀ key, (a.lookup key).isSome → (b.lookup key).isSome := by
  rw [List.eq_nil_iff_forall_not_mem]
  apply forall_congr'
  intro key
  rw [keysOnlyIn, mem_sortedSet, List.mem_filter, ← Dict.lookup_isSome_iff, not_and,
    Option.isNone_iff_eq_none, ← ne_eq, Option.ne_none_iff_isSome]

theorem mem_keysInBoth {a b : Fields} :
    key ∈ keysInBoth a b ↔ (a.lookup key).isSome ∧ (b.lookup key).isSome := by
  rw [keysInBoth, mem_sortedSet, List.mem_filter, ← Dict.lookup_isSome_iff]

theorem rewriteHost_eq_nil : rewriteHost P kind target old new changed missing = [] ↔
    changed = false ∧ missing = false := by
  rw [rewriteHost, ← Bool.or_eq_false_iff]
  split
  · rename_i h
    rw [h]
    exact iff_of_false (List.cons_ne_nil _ _) Bool.false_ne_true.symm
  · rename_i h
    exact iff_of_true rfl (Bool.eq_false_iff.2 h)

/-- Whether a target of a record that stays a mapping is missing. -/
def needsRepair (live : Fields) : Value → Value → Bool
  | .dict old, .dict _ => repairsBinding live old || repairsSkill live old
  | _, _ => false

theorem needsRepair_of_not_dict (h : ∀ a b, old = .dict a → new = .dict b → False) :
    needsRepair live old new = false := by
  unfold needsRepair
  split
  · rename_i a b
    exact (h a b rfl rfl).elim
  · rfl

theorem quiet_compareHost_dict :
    (compareHost S live host (.dict old) (.dict new)).Quiet ↔
      sameStable S (.dict old) (.dict new) = true ∧
        needsRepair live (.dict old) (.dict new) = false := by
  rw [compareHost, needsRepair]
  cases sameStable S (.dict old) (.dict new) with
  | false => exact iff_of_false (fun h => Bool.false_ne_true h.2.symm) fun h =>
      Bool.false_ne_true h.1
  | true =>
    cases hmissing : repairsBinding live old || repairsSkill live old with
    | false => exact iff_of_true ⟨rfl, rfl⟩ ⟨rfl, rfl⟩
    | true =>
      apply iff_of_false
      · intro h
        rw [Bool.true_and, Bool.not_true, if_neg Bool.false_ne_true] at h
        have hnil := List.append_eq_nil_iff.1 h.1
        rw [(rewriteHost_eq_nil.1 hnil.1).2, (rewriteHost_eq_nil.1 hnil.2).2] at hmissing
        exact Bool.false_ne_true hmissing
      · exact fun h => Bool.false_ne_true h.2.symm

theorem quiet_compareHost : (compareHost S live host old new).Quiet ↔
    sameStable S old new = true ∧ needsRepair live old new = false := by
  by_cases hdict : ∃ a b, old = .dict a ∧ new = .dict b
  · obtain ⟨a, b, rfl, rfl⟩ := hdict
    exact quiet_compareHost_dict
  · have hnot (a b : Fields) (ha : old = .dict a) (hb : new = .dict b) : False :=
      hdict ⟨a, b, ha, hb⟩
    rw [needsRepair_of_not_dict hnot, compareHost]
    · cases sameStable S old new with
      | false => exact iff_of_false (fun h => Bool.false_ne_true h.2.symm) fun h =>
          Bool.false_ne_true h.1
      | true => exact iff_of_true ⟨rfl, rfl⟩ ⟨rfl, rfl⟩
    · exact hnot

/-- Two states have the same hosts, and the same is recorded of each. -/
structure SameHosts (S : SetupPlatform) (current desired live : Fields) : Prop where
  hosts : ∀ host, ((hostMap current).lookup host).isSome = ((hostMap desired).lookup host).isSome
  records : ∀ host old new, (hostMap current).lookup host = some old →
    (hostMap desired).lookup host = some new → sameStable S old new = true
  found : ∀ host old new, (hostMap current).lookup host = some old →
    (hostMap desired).lookup host = some new → needsRepair live old new = false

theorem quiet_hostActionChanges :
    (hostActionChanges S current desired live).Quiet ↔ SameHosts S current desired live := by
  rw [hostActionChanges, quiet_foldl_append]
  apply Iff.intro
  · intro h
    have hremoved : keysOnlyIn (hostMap current) (hostMap desired) = [] := by
      rw [List.eq_nil_iff_forall_not_mem]
      intro host hmem
      exact not_quiet_removeHost _ _ _ (h _ (List.mem_append_left _ (List.mem_append_left _
        (List.mem_map_of_mem hmem))))
    have hadded : keysOnlyIn (hostMap desired) (hostMap current) = [] := by
      rw [List.eq_nil_iff_forall_not_mem]
      intro host hmem
      exact not_quiet_addHost _ _ _ (h _ (List.mem_append_left _ (List.mem_append_right _
        (List.mem_map_of_mem hmem))))
    have hkept (host : String) (old new : Value) (hold : (hostMap current).lookup host = some old)
        (hnew : (hostMap desired).lookup host = some new) :
        sameStable S old new = true ∧ needsRepair live old new = false := by
      have hmem : host ∈ keysInBoth (hostMap current) (hostMap desired) := by
        rw [mem_keysInBoth, hold, hnew]
        exact ⟨rfl, rfl⟩
      have hquiet := h _ (List.mem_append_right _ (List.mem_map_of_mem hmem))
      rw [getOr, getOr, hold, hnew] at hquiet
      exact quiet_compareHost.1 hquiet
    exact
      { hosts := fun host => Bool.eq_iff_iff.2
          ⟨keysOnlyIn_eq_nil.1 hremoved host, keysOnlyIn_eq_nil.1 hadded host⟩
        records := fun host old new hold hnew => (hkept host old new hold hnew).1
        found := fun host old new hold hnew => (hkept host old new hold hnew).2 }
  · intro h c hc
    have hremoved : keysOnlyIn (hostMap current) (hostMap desired) = [] :=
      keysOnlyIn_eq_nil.2 fun host hsome => (h.hosts host).symm.trans hsome
    have hadded : keysOnlyIn (hostMap desired) (hostMap current) = [] :=
      keysOnlyIn_eq_nil.2 fun host hsome => (h.hosts host).trans hsome
    rw [hremoved, hadded, List.map_nil, List.map_nil, List.nil_append, List.nil_append] at hc
    obtain ⟨host, hmem, rfl⟩ := List.mem_map.1 hc
    rw [mem_keysInBoth] at hmem
    obtain ⟨old, hold⟩ := Option.isSome_iff_exists.1 hmem.1
    obtain ⟨new, hnew⟩ := Option.isSome_iff_exists.1 hmem.2
    rw [getOr, getOr, hold, hnew]
    exact quiet_compareHost.2 ⟨h.records host old new hold hnew, h.found host old new hold hnew⟩

/-- What the planner looks at is the same in two states, and nothing keeps it from a plan. -/
structure Unnoticed (S : SetupPlatform) (current desired live : Fields) : Prop where
  unblocked : blockingError S current desired live = none
  personal : personalStore current = none → personalStore desired = none
  team : enabledStore (teamStore current) = enabledStore (teamStore desired)
  member : memberChanged S current desired = false
  settings : ∀ key ∈ settingKeys,
    sameStable S (fieldValue current key .none) (fieldValue desired key .none) = true
  hosts : SameHosts S current desired live
  scheduler : schedulerEnabled (fieldValue current "scheduler" (.dict [])) =
    schedulerEnabled (fieldValue desired "scheduler" (.dict []))

theorem preparePersonal_eq_nil : preparePersonal P current desired = [] ↔
    (personalStore current = none → personalStore desired = none) := by
  unfold preparePersonal
  split
  · rename_i hnone hsome
    rw [hnone, hsome]
    exact iff_of_false (List.cons_ne_nil _ _) fun h => Option.some_ne_none _ (h rfl)
  · rename_i hother
    apply iff_of_true rfl
    intro hnone
    cases hdesired : personalStore desired with
    | none => rfl
    | some store => exact (hother store hnone hdesired).elim

theorem prepareTeam_eq_nil
    (h : enabledStore (teamStore current) = enabledStore (teamStore desired)) :
    prepareTeam P current desired = [] := by
  rw [prepareTeam, if_neg]
  intro henabled
  exact henabled.2 (h.trans henabled.1)

theorem writeSettings_eq_nil : writeSettings P current desired changes = [] ↔ changes = [] := by
  rw [writeSettings]
  cases changes with
  | nil => exact iff_of_true rfl rfl
  | cons => exact iff_of_false (List.cons_ne_nil _ _) (List.cons_ne_nil _ _)

theorem switchScheduler_eq_nil : switchScheduler P current desired = [] ↔
    schedulerEnabled (fieldValue current "scheduler" (.dict [])) =
      schedulerEnabled (fieldValue desired "scheduler" (.dict [])) := by
  rw [switchScheduler]
  split
  · rename_i h
    exact iff_of_true rfl h
  · rename_i h
    exact iff_of_false (List.cons_ne_nil _ _) h

theorem settingsChanges_eq_nil : settingsChanges S current desired = [] ↔
    (∀ key ∈ settingKeys,
      sameStable S (fieldValue current key .none) (fieldValue desired key .none) = true) ∧
    enabledStore (teamStore current) = enabledStore (teamStore desired) ∧
    memberChanged S current desired = false := by
  rw [settingsChanges, List.append_eq_nil_iff, List.append_eq_nil_iff, List.filter_eq_nil_iff,
    and_assoc]
  apply and_congr
  · apply forall_congr'
    intro key
    rw [Bool.not_eq_true, Bool.not_eq_false']
  · apply and_congr
    · split
      · rename_i h
        exact iff_of_false (List.cons_ne_nil _ _) h
      · rename_i h
        exact iff_of_true rfl (not_not.1 h)
    · cases memberChanged S current desired with
      | true => exact iff_of_false (List.cons_ne_nil _ _) Bool.false_ne_true.symm
      | false => exact iff_of_true rfl rfl

theorem plannedActions_eq_nil : plannedActions S current desired live = [] ↔
    preparePersonal S.toPlatform current desired = [] ∧
    prepareTeam S.toPlatform current desired = [] ∧
    (hostActionChanges S current desired live).actions = [] ∧
    plannedSettings S current desired live = [] ∧
    switchScheduler S.toPlatform current desired = [] := by
  rw [plannedActions, ← List.length_eq_zero_iff, List.length_mergeSort, List.length_eq_zero_iff]
  simp only [List.append_eq_nil_iff, writeSettings_eq_nil, and_assoc]

theorem plannedSettings_eq_nil : plannedSettings S current desired live = [] ↔
    settingsChanges S current desired = [] ∧
      (hostActionChanges S current desired live).managed = false := by
  rw [plannedSettings, List.append_eq_nil_iff]
  apply and_congr_right
  intro
  cases (hostActionChanges S current desired live).managed with
  | true => exact iff_of_false (List.cons_ne_nil _ _) Bool.false_ne_true.symm
  | false => exact iff_of_true rfl rfl

theorem status_planSetupReconciliation :
    (planSetupReconciliation S current desired live).status = .alreadyCurrent ↔
      blockingError S current desired live = none ∧
        plannedActions S current desired live = [] := by
  rw [planSetupReconciliation]
  cases blockingError S current desired live with
  | some error => exact iff_of_false SetupStatus.noConfusion fun h => Option.some_ne_none _ h.1
  | none =>
    dsimp only
    cases plannedActions S current desired live with
    | nil => exact iff_of_true rfl ⟨rfl, rfl⟩
    | cons action actions =>
      apply iff_of_false
      · dsimp only [List.isEmpty_cons]
        rw [if_neg Bool.false_ne_true]
        dsimp only
        split
        · exact SetupStatus.noConfusion
        · exact SetupStatus.noConfusion
      · exact fun h => List.cons_ne_nil _ _ h.2

/-- The planner finds a state current exactly when all that it looks at is the same. -/
theorem alreadyCurrent_iff :
    (planSetupReconciliation S current desired live).status = .alreadyCurrent ↔
      Unnoticed S current desired live := by
  rw [status_planSetupReconciliation, plannedActions_eq_nil, plannedSettings_eq_nil,
    settingsChanges_eq_nil, preparePersonal_eq_nil, switchScheduler_eq_nil]
  apply Iff.intro
  · intro h
    obtain ⟨hblock, hpersonal, _, hactions, ⟨⟨hsettings, hteam, hmember⟩, hmanaged⟩, hscheduler⟩ := h
    exact
      { unblocked := hblock
        personal := hpersonal
        team := hteam
        member := hmember
        settings := hsettings
        hosts := quiet_hostActionChanges.1 ⟨hactions, hmanaged⟩
        scheduler := hscheduler }
  · intro h
    have hhosts := quiet_hostActionChanges.2 h.hosts
    exact ⟨h.unblocked, h.personal, prepareTeam_eq_nil h.team, hhosts.1,
      ⟨⟨h.settings, h.team, h.member⟩, hhosts.2⟩, h.scheduler⟩

def sampleSetup : SetupPlatform where
  toPlatform := samplePlatform
  wholeFloat _ := none
  windows := false

/-- An installation with one work host. -/
def installedState : Fields :=
  [("personal_knowledge_root", .str "/personal"), ("runtime_root", .str "/runtime"),
    ("personal", .dict [("enabled", .bool true), ("mode", .str "local")]), ("team", .none),
    ("providers", .list [.str "ollama"]), ("work_hosts", .list [.str "codex-cli"]),
    ("hosts", .dict []), ("scheduler", .dict [("enabled", .bool false)])]

end ExternalIntelligence
