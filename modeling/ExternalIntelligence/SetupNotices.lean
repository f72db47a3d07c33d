import ExternalIntelligence.SetupOptions

namespace ExternalIntelligence
set_option autoImplicit true

open Value (ordered ordered_dict ordered_dict_eq_iff)

/-- The hosts that a state has records of. -/
def recordedHosts (state : Fields) : Fields :=
  (mapping? (stateValue state ["hosts"])).getD []

/-- The changes that a plan has a step for, or is stopped by: something is wrong with what is
installed, or the state that is asked for differs from the current one in one of these. -/
inductive NoticedChange (S : SetupPlatform) (current asked live : Fields) : Prop
  | conflict : managedConflict S current live = true → NoticedChange S current asked live
  | liveTeam : (liveTeamError live).isSome → NoticedChange S current asked live
  | bound : bindingRuntimeMismatch S asked live = true → NoticedChange S current asked live
  | root (kind : RootKind) (old new : List Char) : kind ∈ [.personal, .runtime] →
      normalPath S (rootOf current kind) = some old → normalPath S (rootOf asked kind) = some new →
      old ≠ new → NoticedChange S current asked live
  | personal : personalStore current = none → personalStore asked ≠ none →
      NoticedChange S current asked live
  | identity (old : Fields) (key : String) : personalStore current = some old →
      key ∈ ["mode", "remote_name", "remote_fingerprint", "remote_classification", "branch"] →
      equalValues S (getOr old key .none)
        (getOr ((personalStore asked).getD []) key .none) = false →
      NoticedChange S current asked live
  | teamRoot (old new : Fields) : teamStore current = some old → teamStore asked = some new →
      normalPath S (getOr old "root" .none) ≠ normalPath S (getOr new "root" .none) →
      NoticedChange S current asked live
  | teamId (old new : Fields) : teamStore current = some old → teamStore asked = some new →
      getOr old "store_id" .none ≠ .none → getOr new "store_id" .none ≠ .none →
      equalValues S (getOr old "store_id" .none) (getOr new "store_id" .none) = false →
      NoticedChange S current asked live
  | teamMember (old new : Fields) : teamStore current = some old → teamStore asked = some new →
      equalValues S (getOr old "team_member_id" .none) (getOr new "team_member_id" .none) = false →
      NoticedChange S current asked live
  | teamEnabled : enabledStore (teamStore current) ≠ enabledStore (teamStore asked) →
      NoticedChange S current asked live
  | setting (key : String) : key ∈ ["providers", "privacy_profile", "experiment_enabled",
      "engine_root", "sync_enabled"] →
      sameStable S (fieldValue current key .none) (fieldValue asked key .none) = false →
      NoticedChange S current asked live
  | host (name : String) :
      ((recordedHosts current).lookup name).isSome ≠ ((recordedHosts asked).lookup name).isSome →
      NoticedChange S current asked live
  | record (name : String) (old new : Value) : (recordedHosts current).lookup name = some old →
      (recordedHosts asked).lookup name = some new → sameStable S old new = false →
      NoticedChange S current asked live
  | missing (name : String) (old new : Fields) :
      (recordedHosts current).lookup name = some (.dict old) →
      (recordedHosts asked).lookup name = some (.dict new) →
      (liveTargetMissing live (getOr old "skill_binding_path" .none)
          (getOr old "skill_binding_hash" .none) ||
        liveTargetMissing live (getOr old "skill_destination" .none)
          (getOr old "installed_skill_hash" .none)) = true → NoticedChange S current asked live
  | scheduler : schedulerEnabled (fieldValue current "scheduler" (.dict [])) ≠
      schedulerEnabled (fieldValue asked "scheduler" (.dict [])) →
      NoticedChange S current asked live

theorem rootChanged_iff : rootChanged S current asked kind = true ↔
    ∃ old new, normalPath S (rootOf current kind) = some old ∧
      normalPath S (rootOf asked kind) = some new ∧ old ≠ new := by
  rw [rootChanged]
  cases normalPath S (rootOf current kind) with
  | none =>
    apply iff_of_false Bool.false_ne_true
    intro h
    obtain ⟨_, _, hold, _⟩ := h
    cases hold
  | some old =>
    cases normalPath S (rootOf asked kind) with
    | none =>
      apply iff_of_false Bool.false_ne_true
      intro h
      obtain ⟨_, _, _, hnew, _⟩ := h
      cases hnew
    | some new =>
      dsimp only
      rw [decide_eq_true_eq]
      apply Iff.intro
      · exact fun h => ⟨old, new, rfl, rfl, h⟩
      · intro h
        obtain ⟨_, _, hold, hnew, hne⟩ := h
        cases hold
        cases hnew
        exact hne

/-- What two team stores are told apart by, where there are two. -/
theorem teamStores_iff {f : Fields → Fields → Bool} :
    (match teamStore current, teamStore asked with
      | some old, some new => f old new
      | _, _ => false) = true ↔
    ∃ old new, teamStore current = some old ∧ teamStore asked = some new ∧ f old new = true := by
  cases teamStore current with
  | none =>
    apply iff_of_false Bool.false_ne_true
    intro h
    obtain ⟨_, _, hold, _⟩ := h
    cases hold
  | some old =>
    cases teamStore asked with
    | none =>
      apply iff_of_false Bool.false_ne_true
      intro h
      obtain ⟨_, _, _, hnew, _⟩ := h
      cases hnew
    | some new =>
      apply Iff.intro
      · exact fun h => ⟨old, new, rfl, rfl, h⟩
      · intro h
        obtain ⟨_, _, hold, hnew, hf⟩ := h
        cases hold
        cases hnew
        exact hf

theorem teamIdentityChanged_iff : teamIdentityChanged S current asked = true ↔
    ∃ old new, teamStore current = some old ∧ teamStore asked = some new ∧
      (normalPath S (getOr old "root" .none) ≠ normalPath S (getOr new "root" .none) ∨
        getOr old "store_id" .none ≠ .none ∧ getOr new "store_id" .none ≠ .none ∧
        equalValues S (getOr old "store_id" .none) (getOr new "store_id" .none) = false) := by
  unfold teamIdentityChanged
  apply Iff.trans teamStores_iff
  simp only [Bool.or_eq_true, Bool.and_eq_true, decide_eq_true_eq, bne_iff_ne, Bool.not_eq_true',
    and_assoc]

theorem memberChanged_iff : memberChanged S current asked = true ↔
    ∃ old new, teamStore current = some old ∧ teamStore asked = some new ∧
      equalValues S (getOr old "team_member_id" .none) (getOr new "team_member_id" .none) =
        false := by
  unfold memberChanged
  apply Iff.trans teamStores_iff
  simp only [differsIn, List.any_cons, List.any_nil, Bool.or_false, Bool.not_eq_true']

theorem personalRemoteChanged_iff : personalRemoteChanged S current asked = true ↔
    ∃ old, personalStore current = some old ∧ ∃ key ∈ personalIdentityKeys,
      equalValues S (getOr old key .none) (getOr ((personalStore asked).getD []) key .none) =
        false := by
  rw [personalRemoteChanged, Bool.and_eq_true, Bool.not_eq_true', ← Bool.not_eq_true,
    personalIdentity, personalIdentity, equalValues_map_keys (by decide)]
  cases personalStore current with
  | none =>
    apply iff_of_false fun h => Bool.false_ne_true h.1
    intro h
    obtain ⟨_, hold, _⟩ := h
    cases hold
  | some old =>
    simp only [Option.isSome_some, true_and, Option.getD_some, not_forall, Bool.not_eq_true,
      Option.some.injEq, exists_eq_left', exists_prop]

theorem ite_some_eq_none {c : Prop} [Decidable c] {x : α} {y : Option α} :
    (if c then some x else y) = none ↔ ¬c ∧ y = none := by
  split
  · rename_i h
    exact iff_of_false (Option.some_ne_none _) fun hnone => hnone.1 h
  · rename_i h
    exact (and_iff_right h).symm

/-- Nothing stops a plan exactly when none of the checks does. -/
theorem blockingError_eq_none : blockingError S current asked live = none ↔
    (rootChanged S current asked .personal = false ∧ teamIdentityChanged S current asked = false ∧
      rootChanged S current asked .runtime = false ∧
      personalRemoteChanged S current asked = false) ∧
    bindingRuntimeMismatch S asked live = false ∧ liveTeamError live = none ∧
    managedConflict S current live = false := by
  rw [blockingError, Option.or_eq_none_iff, Option.or_eq_none_iff, Option.or_eq_none_iff,
    identityError, ite_some_eq_none, ite_some_eq_none, ite_some_eq_none, ite_some_eq_none,
    ite_some_eq_none, ite_some_eq_none]
  simp only [Bool.not_eq_true, and_true]

theorem not_unnoticed_of_noticedChange (h : NoticedChange S current asked live) :
    ¬Unnoticed S current asked live := by
  intro hsame
  obtain ⟨⟨hpersonal, hteam, hruntime, hremote⟩, hbound, hlive, hconflict⟩ :=
    blockingError_eq_none.1 hsame.unblocked
  cases h with
  | conflict h => exact Bool.false_ne_true (hconflict.symm.trans h)
  | liveTeam h =>
    rw [hlive] at h
    exact Bool.false_ne_true h
  | bound h => exact Bool.false_ne_true (hbound.symm.trans h)
  | root kind old new hkind hold hnew hne =>
    have hchanged := rootChanged_iff.2 ⟨old, new, hold, hnew, hne⟩
    simp only [List.mem_cons, List.not_mem_nil, or_false] at hkind
    obtain rfl | rfl := hkind
    · exact Bool.false_ne_true (hpersonal.symm.trans hchanged)
    · exact Bool.false_ne_true (hruntime.symm.trans hchanged)
  | personal hold hnew => exact hnew (hsame.personal hold)
  | identity old key hold hkey hne =>
    exact Bool.false_ne_true
      (hremote.symm.trans (personalRemoteChanged_iff.2 ⟨old, hold, key, hkey, hne⟩))
  | teamRoot old new hold hnew hne =>
    exact Bool.false_ne_true
      (hteam.symm.trans (teamIdentityChanged_iff.2 ⟨old, new, hold, hnew, .inl hne⟩))
  | teamId old new hold hnew ho hn hne =>
    exact Bool.false_ne_true
      (hteam.symm.trans (teamIdentityChanged_iff.2 ⟨old, new, hold, hnew, .inr ⟨ho, hn, hne⟩⟩))
  | teamMember old new hold hnew hne =>
    exact Bool.false_ne_true
      (hsame.member.symm.trans (memberChanged_iff.2 ⟨old, new, hold, hnew, hne⟩))
  | teamEnabled h => exact h hsame.team
  | setting key hkey hne => exact Bool.false_ne_true (hne.symm.trans (hsame.settings key hkey))
  | host name hne => exact hne (hsame.hosts.hosts name)
  | record name old new hold hnew hne =>
    exact Bool.false_ne_true (hne.symm.trans (hsame.hosts.records name old new hold hnew))
  | missing name old new hold hnew hmissing =>
    exact Bool.false_ne_true ((hsame.hosts.found name _ _ hold hnew).symm.trans hmissing)
  | scheduler h => exact h hsame.scheduler

theorem eq_false_of_not {b : Bool} (h : b = true → False) : b = false :=
  Bool.eq_false_iff.2 h

theorem blockingError_of_not_noticedChange (h : ¬NoticedChange S current asked live) :
    blockingError S current asked live = none := by
  have hroot (kind : RootKind) (hkind : kind ∈ [.personal, .runtime]) :
      rootChanged S current asked kind = false := by
    apply eq_false_of_not
    intro hchanged
    obtain ⟨old, new, hold, hnew, hne⟩ := rootChanged_iff.1 hchanged
    exact h (.root kind old new hkind hold hnew hne)
  rw [blockingError_eq_none]
  refine ⟨⟨hroot _ (by decide), ?_, hroot _ (by decide), ?_⟩, ?_, ?_, ?_⟩
  · apply eq_false_of_not
    intro hchanged
    obtain ⟨old, new, hold, hnew, hne | ⟨ho, hn, hne⟩⟩ := teamIdentityChanged_iff.1 hchanged
    · exact h (.teamRoot old new hold hnew hne)
    · exact h (.teamId old new hold hnew ho hn hne)
  · apply eq_false_of_not
    intro hchanged
    obtain ⟨old, hold, key, hkey, hne⟩ := personalRemoteChanged_iff.1 hchanged
    exact h (.identity old key hold hkey hne)
  · exact eq_false_of_not fun hbound => h (.bound hbound)
  · cases hlive : liveTeamError live with
    | none => rfl
    | some error => exact (h (.liveTeam (hlive ▸ rfl))).elim
  · exact eq_false_of_not fun hconflict => h (.conflict hconflict)

theorem sameHosts_of_not_noticedChange (h : ¬NoticedChange S current asked live) :
    SameHosts S current asked live where
  hosts host := by
    by_contra hne
    exact h (.host host hne)
  records host old new hold hnew := by
    rw [← Bool.not_eq_false]
    exact fun hne => h (.record host old new hold hnew hne)
  found host old new hold hnew := by
    apply eq_false_of_not
    intro hrepair
    cases old with
    | dict old =>
      cases new with
      | dict new => exact h (.missing host old new hold hnew hrepair)
      | _ => cases hrepair
    | _ => cases hrepair

theorem unnoticed_of_not_noticedChange (h : ¬NoticedChange S current asked live) :
    Unnoticed S current asked live where
  unblocked := blockingError_of_not_noticedChange h
  personal hold := by
    by_contra hnew
    exact h (.personal hold hnew)
  team := by
    by_contra hne
    exact h (.teamEnabled hne)
  member := by
    apply eq_false_of_not
    intro hchanged
    obtain ⟨old, new, hold, hnew, hne⟩ := memberChanged_iff.1 hchanged
    exact h (.teamMember old new hold hnew hne)
  settings key hkey := by
    rw [← Bool.not_eq_false]
    exact fun hne => h (.setting key hkey hne)
  hosts := sameHosts_of_not_noticedChange h
  scheduler := by
    by_contra hne
    exact h (.scheduler hne)

theorem not_unnoticed_iff :
    ¬Unnoticed S current asked live ↔ NoticedChange S current asked live := by
  apply Iff.intro
  · intro hnot
    by_contra hunnoticed
    exact hnot (unnoticed_of_not_noticedChange hunnoticed)
  · exact not_unnoticed_of_noticedChange

theorem Shows.unnoticed_iff (h : Shows a b) :
    Unnoticed S current a live ↔ Unnoticed S current b live :=
  ⟨h.unnoticed, h.symm.unnoticed⟩

/-- The planner notices a change exactly when it is one of these. -/
theorem not_alreadyCurrent_iff (h : Shows desired asked) :
    (planSetupReconciliation S current desired live).status ≠ .alreadyCurrent ↔
      NoticedChange S current asked live := by
  rw [ne_eq, alreadyCurrent_iff, h.unnoticed_iff, not_unnoticed_iff]

/-- Whether two values are equal but for what is volatile, where there are two. -/
def sameValues (S : SetupPlatform) : Option Value → Option Value → Bool
  | some v, some w => sameStable S v w
  | none, none => true
  | _, _ => false

theorem lookup_stableFields (P : Platform) (fields : Fields) (key : String) :
    (stableFields P fields).lookup key =
      if isVolatile P key then none else (fields.lookup key).map (withoutVolatile P) := by
  induction fields with
  | nil => rw [stableFields, List.lookup_nil, Option.map_none, ite_self]
  | cons p fields ih =>
    obtain ⟨name, v⟩ := p
    rw [stableFields, Dict.lookup_cons]
    by_cases hname : name = key
    · subst hname
      rw [if_pos rfl, Option.map_some]
      split
      · rename_i hvolatile
        rw [ih, if_pos hvolatile]
      · rw [Dict.lookup_cons, if_pos rfl]
    · rw [if_neg hname]
      split
      · exact ih
      · rw [Dict.lookup_cons, if_neg hname, ih]

/-- States are the same but for what is volatile when the values of each stable key are. -/
theorem sameStable_dict_iff {a b : Fields} (ha : (Dict.keys a).Nodup) (hb : (Dict.keys b).Nodup) :
    sameStable S (.dict a) (.dict b) = true ↔
      ∀ key, isVolatile S.toPlatform key = false →
        sameValues S (a.lookup key) (b.lookup key) = true := by
  rw [sameStable, equalValues, beq_iff_eq, withoutVolatile, withoutVolatile,
    plainValue_dict_eq_iff ((keys_stableFields _ a).nodup ha) ((keys_stableFields _ b).nodup hb)]
  apply forall_congr'
  intro key
  rw [lookup_stableFields, lookup_stableFields]
  cases isVolatile S.toPlatform key with
  | true => exact iff_of_true rfl fun h => Bool.noConfusion h
  | false =>
    rw [if_neg Bool.false_ne_true, if_neg Bool.false_ne_true]
    cases a.lookup key with
    | none =>
      cases b.lookup key with
      | none => exact iff_of_true rfl fun _ => rfl
      | some w =>
        exact iff_of_false (Option.some_ne_none _).symm fun h => Bool.false_ne_true (h rfl)
    | some v =>
      cases b.lookup key with
      | none => exact iff_of_false (Option.some_ne_none _) fun h => Bool.false_ne_true (h rfl)
      | some w =>
        rw [Option.map_some, Option.map_some, Option.map_some, Option.map_some,
          Option.some.injEq, sameValues, sameStable, equalValues, beq_iff_eq]
        exact ⟨fun h _ => h, fun h => h rfl⟩

theorem AlikeStores.storeValue (h : AlikeStores a b) : Alike (storeValue a) (storeValue b) := by
  cases h with
  | none => exact alike_none
  | some h => exact h

theorem alike_enabled :
    Alike (.dict [("enabled", .bool true)]) (.dict [("enabled", .bool true)]) :=
  .refl ⟨List.nodup_singleton _, trivial, trivial⟩

theorem Alike.settleStores (h : Alike (.dict a) (.dict b)) :
    Alike (.dict (settleStores a)) (.dict (settleStores b)) := by
  have ha := uniqueKeys_settleStores h.left
  have hb := uniqueKeys_settleStores h.right
  refine ⟨ha, hb, (ordered_dict_eq_iff ha.1 hb.1).2 ?_⟩
  intro key
  rw [lookup_settleStores, lookup_settleStores]
  split
  · exact congrArg some (alike_getD (h.lookup "team") h.shows.team.storeValue).same
  · split
    · exact congrArg some (alike_getD (h.lookup "personal") alike_enabled).same
    · exact (ordered_dict_eq_iff h.left.1 h.right.1).1 h.same key

/-- The state that the options ask for, with the stores that a state must have. -/
def wantedState (current explicit : Fields) : Fields :=
  settleStores (requestedState current explicit)

/-- A state with what setup itself adds to it. -/
def settledState (P : Platform) (current : Fields) : Fields :=
  stampDigest P (settleStores (startState current))

/-- The options ask for no other value of a stable key than the one that setup starts from. -/
def AsksNothing (S : SetupPlatform) (current explicit : Fields) : Prop :=
  ∀ key, isVolatile S.toPlatform key = false →
    sameValues S ((wantedState current explicit).lookup key)
      ((settleStores (startState current)).lookup key) = true

theorem shows_settleStores (hteam : AlikeStores (teamStore a) (teamStore b))
    (h : ∀ key ∈ sourceKeys ++ readKeys, Option.Rel Alike (a.lookup key) (b.lookup key)) :
    Shows (settleStores a) (settleStores b) := by
  apply shows_of_lookup
  intro key hkey
  rw [lookup_settleStores, lookup_settleStores]
  split
  · exact .some (alike_getD (h "team" (by decide)) hteam.storeValue)
  · split
    · exact .some (alike_getD (h "personal" (by decide)) alike_enabled)
    · exact h key hkey

/-- Changes under keys that the planner does not read are not noticed: what is noticed with them
is noticed without. -/
theorem noticedChange_unread (hcurrent : (Value.dict current).UniqueKeys)
    (hws : allWrites explicit = .ok ws) (hunread : ∀ w ∈ ws, w.key ∉ sourceKeys ++ readKeys)
    (hdisable : disablesTeam explicit = false) (henable : enablesTeam explicit = false) :
    NoticedChange S current (wantedState current explicit) live ↔
      NoticedChange S current (settleStores (startState current)) live := by
  have hstart := uniqueKeys_startState hcurrent
  have hunwritten (key : String) (hkey : key ∈ sourceKeys ++ readKeys) :
      key ∉ ws.map Write.key := by
    intro hmem
    obtain ⟨w, hw, rfl⟩ := List.mem_map.1 hmem
    exact hunread w hw hkey
  have hread (key : String) (hkey : key ∈ sourceKeys ++ readKeys) :
      (requestedState current explicit).lookup key = (startState current).lookup key := by
    rw [requestedState, hws]
    dsimp only
    rw [switchWrites, hdisable, henable, Bool.or_self, Bool.false_and,
      if_neg Bool.false_ne_true, List.append_nil, lookup_askedState]
    apply askedValue_unwritten (hunwritten key hkey)
    right
    intro kind
    apply hunwritten
    cases kind <;> decide
  have hrel (key : String) (hkey : key ∈ sourceKeys ++ readKeys) : Option.Rel Alike
      ((requestedState current explicit).lookup key) ((startState current).lookup key) := by
    rw [hread key hkey]
    exact (Alike.refl hstart).lookup key
  have hshows := shows_settleStores (shows_of_lookup hrel).team hrel
  rw [← not_unnoticed_iff, ← not_unnoticed_iff, wantedState, hshows.unnoticed_iff]

theorem sameStable_comm : sameStable S v w = sameStable S w v := by
  rw [sameStable, sameStable, equalValues, equalValues]
  exact Bool.beq_comm

theorem sameStable_stampDigest (hvolatile : isVolatile S.toPlatform "desired_state_digest" = true)
    (a b : Fields) : sameStable S (.dict (stampDigest S.toPlatform a))
        (.dict (stampDigest S.toPlatform b)) = sameStable S (.dict a) (.dict b) := by
  have hstable (state : Fields) : withoutVolatile S.toPlatform
      (.dict (stampDigest S.toPlatform state)) = withoutVolatile S.toPlatform (.dict state) := by
    rw [stampDigest_eq, withoutVolatile, withoutVolatile, stableFields_stampWith hvolatile]
  rw [sameStable, sameStable, hstable, hstable]

/-- Setup misses no change exactly when the options ask for none, or for one that is noticed. -/
theorem planned_or_unchanged_iff {S : SetupPlatform} (hcurrent : (Value.dict current).UniqueKeys)
    (hexplicit : (Value.dict explicit).UniqueKeys)
    (hfold : S.casefold (Text.chars "desired_state_digest") = Text.chars "desired_state_digest")
    (h : buildDesiredState S.toPlatform current explicit = .ok desired) :
    ((planSetupReconciliation S current desired live).status = .alreadyCurrent →
        sameStable S (.dict desired) (.dict (settledState S.toPlatform current)) = true) ↔
      AsksNothing S current explicit ∨
        NoticedChange S current (wantedState current explicit) live := by
  obtain ⟨ws, hws, rfl⟩ := buildDesiredState_ok h
  have hvolatile : isVolatile S.toPlatform "desired_state_digest" = true := by
    rw [isVolatile, hfold]
    decide
  have halike : Alike (.dict (settledRun (setupWrites explicit ws (startState current))
      (startState current))) (.dict (wantedState current explicit)) :=
    (alike_requestedState hcurrent hexplicit hws).settleStores
  have hpresent := uniqueKeys_settleStores (uniqueKeys_startState hcurrent)
  have hsame : sameStable S (.dict (stampDigest S.toPlatform (settledRun
        (setupWrites explicit ws (startState current)) (startState current))))
      (.dict (settledState S.toPlatform current)) = true ↔ AsksNothing S current explicit := by
    rw [settledState, sameStable_stampDigest hvolatile, sameStable_comm, halike.sameStable,
      sameStable_comm, sameStable_dict_iff halike.right.1 hpresent.1, AsksNothing]
  have hnoticed : NoticedChange S current (wantedState current explicit) live ↔
      (planSetupReconciliation S current (stampDigest S.toPlatform (settledRun
        (setupWrites explicit ws (startState current)) (startState current))) live).status ≠
          .alreadyCurrent := by
    rw [stampDigest_eq]
    exact (not_alreadyCurrent_iff (halike.shows_stamped _)).symm
  rw [hsame, hnoticed]
  exact imp_iff_not_or.trans or_comm

def providersOption : Fields :=
  [("providers", .list [.str "ollama", .str "openai"])]

/-- Another provider is asked for, and the change is noticed. -/
theorem planned_or_unchanged_providers :
    ∃ desired, buildDesiredState samplePlatform installedState providersOption = .ok desired ∧
      (((planSetupReconciliation sampleSetup installedState desired installedState).status =
          .alreadyCurrent → sameStable sampleSetup (.dict desired)
            (.dict (settledState samplePlatform installedState)) = true) ↔
        AsksNothing sampleSetup installedState providersOption ∨
          NoticedChange sampleSetup installedState (wantedState installedState providersOption)
            installedState) ∧
      NoticedChange sampleSetup installedState (wantedState installedState providersOption)
        installedState := by
  obtain ⟨desired, hbuilt⟩ : ∃ desired,
      buildDesiredState samplePlatform installedState providersOption = .ok desired :=
    Except.exists_ok_of_isOk rfl
  have hinstalled : (Value.dict installedState).UniqueKeys := by
    apply And.intro (by decide)
    simp [Value.UniqueKeys, Value.UniqueFields, Value.UniqueItems, installedState, Dict.keys]
  have hoptions : (Value.dict providersOption).UniqueKeys := by
    apply And.intro (by decide)
    simp [Value.UniqueKeys, Value.UniqueFields, Value.UniqueItems, providersOption]
  exact ⟨desired, hbuilt,
    planned_or_unchanged_iff (S := sampleSetup) hinstalled hoptions (by decide) hbuilt,
    .setting "providers" (by decide) (by decide +kernel)⟩

def workHostsOption : Fields :=
  [("work_hosts", .list [.str "codex-cli", .str "claude-code"])]

/-- Other work hosts are asked for, and the state is said to be current. -/
theorem missed_work_hosts :
    ∃ desired, buildDesiredState samplePlatform installedState workHostsOption = .ok desired ∧
      (planSetupReconciliation sampleSetup installedState desired installedState).status =
        .alreadyCurrent ∧
      sameStable sampleSetup (.dict desired)
        (.dict (settledState samplePlatform installedState)) = false :=
  Except.exists_ok_of_decide (by decide +kernel)

end ExternalIntelligence
