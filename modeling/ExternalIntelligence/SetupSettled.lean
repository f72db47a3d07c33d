import ExternalIntelligence.SetupViews

namespace ExternalIntelligence
set_option autoImplicit true

open Value (ordered ordered_dict ordered_dict_eq_iff)

/-- Whether no target that a state says setup owns is looked for and not found. -/
def NothingMissing (state live : Fields) : Prop :=
  ∀ host record, (hostMap state).lookup host = some (.dict record) →
    repairsBinding live record = false ∧ repairsSkill live record = false

theorem sameHosts_self (hfound : NothingMissing a live) : SameHosts S a a live where
  hosts _ := rfl
  records host old new hold hnew := by
    obtain rfl := Option.some.inj (hold.symm.trans hnew)
    exact beq_self_eq_true _
  found host old new hold _ := by
    cases old with
    | dict record =>
      cases new with
      | dict =>
        rw [needsRepair, (hfound host record hold).1, (hfound host record hold).2]
        rfl
      | _ => rfl
    | _ => rfl

/-- Nothing is planned from a state to itself. -/
theorem unnoticed_self (hblock : blockingError S a a live = none) (hfound : NothingMissing a live) :
    Unnoticed S a a live where
  unblocked := hblock
  personal h := h
  team := rfl
  member := by
    rw [memberChanged]
    cases teamStore a with
    | none => rfl
    | some store =>
      dsimp only
      rw [differsIn, List.any_cons, List.any_nil, Bool.or_false, equalValues, beq_self_eq_true]
      rfl
  settings _ _ := beq_self_eq_true _
  hosts := sameHosts_self hfound
  scheduler := rfl

/-- Nothing is planned from a state to one that is the same but for the order of keys. -/
theorem Alike.unnoticed (h : Alike (.dict a) (.dict b)) (hblock : blockingError S a b live = none)
    (hfound : NothingMissing a live) : Unnoticed S a b live := by
  apply h.shows.unnoticed
  apply unnoticed_self _ hfound
  rw [h.shows.blockingError, hblock]

theorem Alike.status (h : Alike (.dict a) (.dict b)) (hfound : NothingMissing a live) :
    (planSetupReconciliation S a b live).status ∈ [SetupStatus.alreadyCurrent, .blocked] := by
  cases hblock : blockingError S a b live with
  | none =>
    rw [alreadyCurrent_iff.2 (h.unnoticed hblock hfound)]
    exact List.mem_cons_self
  | some error =>
    rw [planSetupReconciliation, hblock]
    exact List.mem_cons_of_mem _ List.mem_cons_self

/-- Whether the options of setup turn the team store on or off. -/
def switchesTeam (explicit state : Fields) : Bool :=
  (disablesTeam explicit || enablesTeam explicit) && (teamStore state).isSome

/-- Whether a manifest given as an option keeps each store that only options before it give: the
store is written to the manifest and the option merged again, and nothing changes. -/
def ManifestKeeps (current explicit : Fields) : Prop :=
  ∀ before given after state kind, explicit = before ++ ("manifest", .dict given) :: after →
    before.foldlM applyOption (startState current) = .ok state →
    before.any (givesStore kind) = true → after.any (givesStore kind) = false →
    (kind = .team → switchesTeam explicit state = false) →
    KeepsStore (setOption state "manifest" (.dict given)) given kind

/-- Setup run again with the same options gives the same state, and nothing is planned then. -/
def Settles (S : SetupPlatform) (desired explicit : Fields) : Prop :=
  ∃ again, buildDesiredState S.toPlatform desired explicit = .ok again ∧
    ordered (.dict again) = ordered (.dict desired) ∧
    ∀ live, NothingMissing desired live →
      (planSetupReconciliation S desired again live).status ∈ [.alreadyCurrent, .blocked]

theorem append_cons_inj {l m : List α} {r t : List α} {f : α → β}
    (h : l ++ x :: r = m ++ y :: t) (hnodup : ((l ++ x :: r).map f).Nodup) (hf : f x = f y) :
    l = m ∧ x = y ∧ r = t := by
  induction l generalizing m with
  | nil =>
    cases m with
    | nil =>
      cases h
      exact ⟨rfl, rfl, rfl⟩
    | cons z m =>
      cases h
      rw [List.nil_append, List.map_cons, List.nodup_cons] at hnodup
      exact (hnodup.1 (List.mem_map.2 ⟨y, List.mem_append_right _ List.mem_cons_self,
        hf.symm⟩)).elim
  | cons z l ih =>
    cases m with
    | nil =>
      cases h
      rw [List.cons_append, List.map_cons, List.nodup_cons] at hnodup
      exact (hnodup.1 (List.mem_map.2 ⟨x, List.mem_append_right _ List.mem_cons_self,
        hf⟩)).elim
    | cons w m =>
      rw [List.cons_append, List.cons_append, List.cons_eq_cons] at h
      rw [List.cons_append, List.map_cons, List.nodup_cons] at hnodup
      obtain ⟨hl, hrest⟩ := ih h.2 hnodup.2
      exact ⟨List.cons_eq_cons.2 ⟨h.1, hl⟩, hrest⟩

theorem uniqueKeys_startState (h : (Value.dict current).UniqueKeys) :
    (Value.dict (startState current)).UniqueKeys := by
  rw [startState]
  split
  · exact uniqueKeys_firstState
  · exact h

theorem optionWrites_manifest (given : Value) :
    optionWrites ("manifest", given) = .ok [.merge "manifest" given] :=
  rfl

theorem uniqueKeys_stampDigest (h : (Value.dict state).UniqueKeys) :
    (Value.dict (stampDigest P state)).UniqueKeys :=
  uniqueKeys_stampWith h (show Value.UniqueKeys (.str _) from trivial)

section Settled

variable {current explicit : Fields} {ws : List Write}
  (hcurrent : (Value.dict current).UniqueKeys) (hexplicit : (Value.dict explicit).UniqueKeys)
  (hws : allWrites explicit = .ok ws)

/-- The state that setup leaves. -/
def leftState (P : Platform) (current explicit : Fields) (ws : List Write) : Fields :=
  stampDigest P (settledRun (setupWrites explicit ws (startState current)) (startState current))

include hcurrent hexplicit hws in
/-- Setup settles exactly when the second run has the manifest of the first one. -/
theorem settles_iff_manifest {S : SetupPlatform}
    (hvolatile : isVolatile S.toPlatform "desired_state_digest" = true) :
    Settles S (leftState S.toPlatform current explicit ws) explicit ↔
      ((runWrites (setupWrites explicit ws (startState current))
        (leftState S.toPlatform current explicit ws)).lookup "manifest").map ordered =
      ((leftState S.toPlatform current explicit ws).lookup "manifest").map ordered := by
  have hsteps := steps_allWrites hexplicit hws
  have hstart := uniqueKeys_startState hcurrent
  have hall := hsteps.switch explicit (runWrites ws (startState current))
  have hiff := ordered_again_iff hall hstart hvolatile
  have hstamped := stampDigest_eq S.toPlatform
    (settledRun (setupWrites explicit ws (startState current)) (startState current))
  have hagain := buildDesiredState_again (P := S.toPlatform) hsteps hws
    (.str (stateDigest S.toPlatform
      (settledRun (setupWrites explicit ws (startState current)) (startState current))))
    (startState current)
  rw [← hstamped] at hagain
  apply Iff.trans _ hiff
  apply Iff.intro
  · intro h
    obtain ⟨again, hbuild, hsame, _⟩ := h
    obtain rfl := Except.ok.inj (hagain.symm.trans hbuild)
    exact hsame
  · intro hsame
    have hleft := uniqueKeys_stampDigest (P := S.toPlatform)
      (uniqueKeys_settleStores (uniqueKeys_runWrites hall.unique hstart))
    have hright := uniqueKeys_stampDigest (P := S.toPlatform)
      (uniqueKeys_runWrites hall.unique hleft)
    have halike : Alike (.dict (leftState S.toPlatform current explicit ws)) (.dict _) :=
      ⟨hleft, hright, hsame.symm⟩
    exact ⟨_, hagain, hsame, fun live hfound => halike.status hfound⟩

end Settled

theorem teamStore_before_manifest (h : Steps (first ++ .merge "manifest" (.dict given) :: second))
    (htouch : first.any (Write.touches .team) = true)
    (hnot : second.any (Write.touches .team) = false) (start : Fields) :
    teamStore (runWrites first start) =
      teamStore (runWrites (first ++ .merge "manifest" (.dict given) :: second) start) := by
  have hproper := h.proper
  rw [List.forall_mem_append, List.forall_mem_cons] at hproper
  obtain ⟨store, hstore⟩ := exists_hasStore hproper.1 htouch start
  have hlookup := lookup_runWrites_name hproper.2.2 hnot (mergedState first given start)
  rw [lookup_mergedState_name, hstore.lookup, ← runWrites_merge] at hlookup
  rw [teamStore_of_lookup hlookup, teamStore_of_lookup hstore.lookup]

/-- The options before the manifest, the manifest and the options after it write one after the
other. -/
theorem allWrites_manifest
    (h : allWrites (before ++ ("manifest", given) :: after) = .ok ws) :
    ∃ vs us, allWrites before = .ok vs ∧ allWrites after = .ok us ∧
      ws = vs ++ .merge "manifest" given :: us := by
  obtain ⟨vs, rest, hvs, hrest, rfl⟩ := allWrites_append h
  rw [allWrites, optionWrites_manifest] at hrest
  obtain ⟨os, hos, hrest⟩ := Except.bind_eq_ok.1 hrest
  obtain ⟨us, hus, hrest⟩ := Except.bind_eq_ok.1 hrest
  cases hos
  cases hrest
  exact ⟨vs, us, hvs, hus, rfl⟩

/-- A manifest that is given is merged once, and no other option writes it. -/
theorem exists_manifest_split (hkeys : (Dict.keys explicit).Nodup)
    (h : allWrites explicit = .ok ws) (hmem : "manifest" ∈ Dict.keys explicit) :
    ∃ before given after vs us, explicit = before ++ ("manifest", given) :: after ∧
      allWrites before = .ok vs ∧ allWrites after = .ok us ∧
      ws = vs ++ .merge "manifest" given :: us ∧
      (∀ w ∈ vs, Write.Keeps "manifest" w) ∧ ∀ w ∈ us, Write.Keeps "manifest" w := by
  obtain ⟨⟨key, given⟩, hgiven, hkey⟩ := List.mem_map.1 hmem
  obtain rfl : key = "manifest" := hkey
  obtain ⟨before, after, rfl⟩ := List.append_of_mem hgiven
  obtain ⟨vs, us, hvs, hus, hwrites⟩ := allWrites_manifest h
  rw [Dict.keys, List.map_append, List.map_cons, List.nodup_append] at hkeys
  have hbefore : "manifest" ∉ Dict.keys before := fun h =>
    hkeys.2.2 _ h _ List.mem_cons_self rfl
  have hafter : "manifest" ∉ Dict.keys after := (List.nodup_cons.1 hkeys.2.1).1
  exact ⟨before, given, after, vs, us, rfl, hvs, hus, hwrites, keeps_manifest hvs hbefore,
    keeps_manifest hus hafter⟩

section Settled

variable {current explicit : Fields} {ws : List Write}
  (hcurrent : (Value.dict current).UniqueKeys) (hexplicit : (Value.dict explicit).UniqueKeys)
  (hws : allWrites explicit = .ok ws)

include hexplicit hws in
/-- A manifest keeps what is given before it when it keeps each store that nothing writes after
it. -/
theorem manifestKeeps_iff (hsplit : explicit = before ++ ("manifest", .dict given) :: after)
    (hvs : allWrites before = .ok vs) (hus : allWrites after = .ok us)
    (hwrites : ws = vs ++ .merge "manifest" (.dict given) :: us) :
    ManifestKeeps current explicit ↔ ∀ kind, vs.any (Write.touches kind) = true →
      (us ++ switchWrites explicit (runWrites ws (startState current))).any (Write.touches kind) =
        false → KeepsStore (mergedState vs given (startState current)) given kind := by
  have hsteps := steps_allWrites hexplicit hws
  have hstate := foldlM_applyOption before (startState current)
  rw [hvs] at hstate
  have hkeys := hexplicit.1
  rw [hsplit] at hkeys
  have hteam (htouch : vs.any (Write.touches .team) = true)
      (hnot : us.any (Write.touches .team) = false) :
      switchesTeam explicit (runWrites vs (startState current)) =
        (switchWrites explicit (runWrites ws (startState current))).any (Write.touches .team) := by
    rw [any_touches_switchWrites, switchesTeam]
    rw [hwrites] at hsteps ⊢
    rw [teamStore_before_manifest hsteps htouch hnot]
    rfl
  apply Iff.intro
  · intro h kind htouch hnot
    rw [List.any_append, Bool.or_eq_false_iff] at hnot
    apply h before given after _ kind hsplit hstate
    · rw [← any_touches_allWrites hvs, htouch]
    · rw [← any_touches_allWrites hus, hnot.1]
    · rintro rfl
      exact (hteam htouch hnot.1).trans hnot.2
  · intro h before' given' after' state kind hsplit' hstate' hgives hgives' hswitch
    obtain ⟨rfl, hgiven, rfl⟩ := append_cons_inj (hsplit.symm.trans hsplit') hkeys rfl
    cases hgiven
    obtain rfl := Except.ok.inj (hstate.symm.trans hstate')
    rw [← any_touches_allWrites hvs] at hgives
    rw [← any_touches_allWrites hus] at hgives'
    apply h kind hgives
    rw [List.any_append, hgives', Bool.false_or]
    cases kind with
    | personal =>
      rw [any_touches_switchWrites]
      rfl
    | team => exact (hteam hgives hgives').symm.trans (hswitch rfl)

include hcurrent hexplicit hws in
theorem manifest_iff_keeps (P : Platform) :
    ((runWrites (setupWrites explicit ws (startState current))
        (leftState P current explicit ws)).lookup "manifest").map ordered =
      ((leftState P current explicit ws).lookup "manifest").map ordered ↔
      ManifestKeeps current explicit := by
  have hstart := uniqueKeys_startState hcurrent
  have hsteps := steps_allWrites hexplicit hws
  have hall := hsteps.switch explicit (runWrites ws (startState current))
  have hdigest : (Value.str (stateDigest P (settledRun (setupWrites explicit ws
    (startState current)) (startState current)))).UniqueKeys := trivial
  by_cases hmem : "manifest" ∈ Dict.keys explicit
  · obtain ⟨before, given, after, vs, us, hsplit, hvs, hus, hwrites, hvsKeeps, hkeeps⟩ :=
      exists_manifest_split hexplicit.1 hws hmem
    have husKeeps := List.forall_mem_append.2 ⟨hkeeps,
      keeps_switchWrites "manifest" explicit (runWrites ws (startState current))⟩
    have hwhole : setupWrites explicit ws (startState current) = vs ++ .merge "manifest" given ::
        (us ++ switchWrites explicit (runWrites ws (startState current))) := by
      rw [setupWrites, ← List.cons_append, ← List.append_assoc, ← hwrites]
    rw [← setupWrites, hwhole] at hall
    by_cases hdict : ∃ fields, given = .dict fields
    · obtain ⟨fields, rfl⟩ := hdict
      rw [manifestKeeps_iff hexplicit hws hsplit hvs hus hwrites, leftState, stampDigest_eq, hwhole]
      exact rerun_manifest_iff hall hvsKeeps husKeeps hstart trivial
    · rw [not_exists] at hdict
      have hproper := hall.proper
      rw [List.forall_mem_append, List.forall_mem_cons] at hproper
      have hvalue (state : Fields) : (runWrites (vs ++ .merge "manifest" given ::
          (us ++ switchWrites explicit (runWrites ws (startState current)))) state).lookup
            "manifest" = some given :=
        runWrites_manifest_value hproper.2.2 husKeeps hdict state
      apply iff_of_true
      · rw [leftState, stampDigest_eq, lookup_stamped (by decide), lookup_settledRun (by decide),
          hwhole, hvalue, hvalue]
      · intro before' given' after' state kind hsplit'
        have hinj := append_cons_inj (hsplit.symm.trans hsplit') (hsplit ▸ hexplicit.1) rfl
        exact (hdict given' (congrArg Prod.snd hinj.2.1)).elim
  · have hkeeps := List.forall_mem_append.2 ⟨keeps_manifest hws hmem,
      keeps_switchWrites "manifest" explicit (runWrites ws (startState current))⟩
    apply iff_of_true
    · rw [leftState, stampDigest_eq]
      apply rerun_site hall hstart hdigest manifestSite hkeeps (by decide)
      intro a b ha hb hnests hview
      exact (ordered_manifest_iff ha hb hnests).2 hview
    · intro before given after state kind hsplit
      apply (hmem _).elim
      rw [hsplit, Dict.keys, List.map_append, List.map_cons]
      exact List.mem_append_right _ List.mem_cons_self

end Settled

/-- Setup settles with the first run exactly when a manifest that is given as an option keeps the
stores that the options before it give. -/
theorem settles_iff {S : SetupPlatform} (hcurrent : (Value.dict current).UniqueKeys)
    (hexplicit : (Value.dict explicit).UniqueKeys)
    (hfold : S.casefold (Text.chars "desired_state_digest") = Text.chars "desired_state_digest")
    (h : buildDesiredState S.toPlatform current explicit = .ok desired) :
    Settles S desired explicit ↔ ManifestKeeps current explicit := by
  obtain ⟨ws, hws, rfl⟩ := buildDesiredState_ok h
  have hvolatile : isVolatile S.toPlatform "desired_state_digest" = true := by
    rw [isVolatile, hfold]
    decide
  exact (settles_iff_manifest hcurrent hexplicit hws hvolatile).trans
    (manifest_iff_keeps hcurrent hexplicit hws S.toPlatform)

/-- An installation whose options name a team store, and a manifest that has it too. -/
def manifestOption (stores : Fields) : Fields :=
  [("team", .dict [("root", .str "/team")]), ("manifest", .dict stores)]

theorem settles_iff_team :
    ∃ desired, buildDesiredState samplePlatform installedState
        (manifestOption [("team", .dict [("root", .str "/team")])]) = .ok desired ∧
      (Settles sampleSetup desired (manifestOption [("team", .dict [("root", .str "/team")])]) ↔
        ManifestKeeps installedState
          (manifestOption [("team", .dict [("root", .str "/team")])])) := by
  obtain ⟨desired, hbuilt⟩ : ∃ desired, buildDesiredState samplePlatform installedState
      (manifestOption [("team", .dict [("root", .str "/team")])]) = .ok desired :=
    Except.exists_ok_of_isOk rfl
  have hinstalled : (Value.dict installedState).UniqueKeys := by
    apply And.intro (by decide)
    simp [Value.UniqueKeys, Value.UniqueFields, Value.UniqueItems, installedState, Dict.keys]
  have hoptions : (Value.dict (manifestOption
      [("team", .dict [("root", .str "/team")])])).UniqueKeys := by
    apply And.intro (by decide)
    simp [Value.UniqueKeys, Value.UniqueFields, manifestOption, Dict.keys]
  exact ⟨desired, hbuilt, settles_iff (S := sampleSetup) hinstalled hoptions (by decide) hbuilt⟩

/-- A manifest without the team store that is given before it has the store after a second run. -/
theorem unsettled_manifest :
    ∃ desired, buildDesiredState samplePlatform installedState (manifestOption []) = .ok desired ∧
      ¬Settles sampleSetup desired (manifestOption []) := by
  obtain ⟨desired, hbuilt, hagain⟩ : ∃ desired,
      buildDesiredState samplePlatform installedState (manifestOption []) = .ok desired ∧
        (buildDesiredState samplePlatform desired (manifestOption [])).toOption.all (fun again =>
          decide (ordered (.dict again) ≠ ordered (.dict desired))) = true :=
    Except.exists_ok_of_decide (by decide +kernel)
  apply Exists.intro desired
  apply And.intro hbuilt
  intro h
  obtain ⟨again, hbuild, hsame, _⟩ := h
  change buildDesiredState samplePlatform desired (manifestOption []) = .ok again at hbuild
  rw [hbuild] at hagain
  exact of_decide_eq_true hagain hsame

end ExternalIntelligence
