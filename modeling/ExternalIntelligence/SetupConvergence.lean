import ExternalIntelligence.SetupKeys

namespace ExternalIntelligence
set_option autoImplicit true

open Value (ordered ordered_dict ordered_dict_eq_iff)

theorem stableFields_set_volatile (h : isVolatile P key = true) (v : Value) (fields : Fields) :
    stableFields P (Dict.set key v fields) = stableFields P fields := by
  induction fields with
  | nil => exact if_pos h
  | cons p fields ih =>
    obtain ⟨name, w⟩ := p
    rw [Dict.set]
    split
    · rename_i hname
      rw [stableFields, if_pos h, stableFields, hname, if_pos h]
    · rw [stableFields, stableFields, ih]

theorem stableFields_set_stable {fields : Fields} (h : fields.lookup key = some v)
    (hv : withoutVolatile P w = withoutVolatile P v) :
    stableFields P (Dict.set key w fields) = stableFields P fields := by
  induction fields with
  | nil => cases h
  | cons p fields ih =>
    obtain ⟨name, u⟩ := p
    rw [Dict.lookup_cons] at h
    rw [Dict.set]
    by_cases hname : name = key
    · rw [if_pos hname] at h
      rw [if_pos hname, stableFields, stableFields, hv, hname, Option.some.inj h]
    · rw [if_neg hname] at h
      rw [if_neg hname, stableFields, stableFields, ih h]

/-- A digest that is kept in a state does not count for its digest. -/
theorem stableFields_stampWith (h : isVolatile P "desired_state_digest" = true) (digest : Value)
    (state : Fields) : stableFields P (stampWith digest state) = stableFields P state := by
  rw [stampWith, mirror]
  split
  · rename_i fields hfields
    have hstable : withoutVolatile P (.dict (Dict.set "desired_state_digest" digest fields)) =
        withoutVolatile P (.dict fields) := by
      rw [withoutVolatile, withoutVolatile, stableFields_set_volatile h]
    rw [stableFields_set_stable (mapping_getOr.1 hfields) hstable, stableFields_set_volatile h]
  · exact stableFields_set_volatile h digest state

theorem stateDigest_stampWith (h : isVolatile P "desired_state_digest" = true) (digest : Value)
    (state : Fields) : stateDigest P (stampWith digest state) = stateDigest P state := by
  rw [stateDigest, stateDigest, withoutVolatile, withoutVolatile, stableFields_stampWith h]

/-- The state that options are applied to. -/
def startState (current : Fields) : Fields :=
  if current.isEmpty then firstState else current

theorem buildDesiredState_eq (P : Platform) (current explicit : Fields) :
    buildDesiredState P current explicit = (allWrites explicit).map fun ws =>
      stampDigest P (settleStores (runWrites
        (ws ++ switchWrites explicit (runWrites ws (startState current))) (startState current))) := by
  rw [buildDesiredState, ← startState, applyExplicit_eq]
  cases allWrites explicit with
  | error => rfl
  | ok ws => rfl

theorem setDefault_of_isSome {fields : Fields} (h : (fields.lookup key).isSome) :
    setDefault key v fields = fields :=
  if_pos h

theorem settleStores_eq_self (hpersonal : (state.lookup "personal").isSome)
    (hteam : (state.lookup "team").isSome) : settleStores state = state := by
  have hfirst : setDefault "personal" (.dict [("enabled", .bool true)]) state = state :=
    setDefault_of_isSome hpersonal
  rw [settleStores, hfirst]
  exact setDefault_of_isSome hteam

theorem teamStore_setDefault (v : Value) (state : Fields) :
    teamStore (setDefault "personal" v state) = teamStore state := by
  have hlookup (key : String) (h : key ≠ "personal") :
      (setDefault "personal" v state).lookup key = state.lookup key := by
    rw [lookup_setDefault, if_neg h]
  have hsource : teamSource (setDefault "personal" v state) = teamSource state := by
    rw [teamSource, teamSource, getOr, getOr, hlookup _ (by decide), hlookup _ (by decide)]
  rw [teamStore, teamStore, stateSources, stateSources, List.findSome?_cons, List.findSome?_cons,
    hsource, stateManifest, stateManifest, getOr, getOr, hlookup _ (by decide)]

theorem lookup_settleStores (state : Fields) (key : String) : (settleStores state).lookup key =
    if key = "team" then some ((state.lookup "team").getD (storeValue (teamStore state)))
    else if key = "personal" then
      some ((state.lookup "personal").getD (.dict [("enabled", .bool true)]))
    else state.lookup key := by
  rw [settleStores, lookup_setDefault, lookup_setDefault, lookup_setDefault, teamStore_setDefault,
    if_neg (show "team" ≠ "personal" by decide)]

theorem teamStore_of_lookup (h : state.lookup "team" = some v) : teamStore state = mapping? v := by
  have hsource : teamSource state = some (mapping? v) := by rw [teamSource, h]
  rw [teamStore, stateSources, List.findSome?_cons, hsource, Option.join_some]

theorem teamStore_settleStores (state : Fields) : teamStore (settleStores state) =
    teamStore state := by
  have hlookup := lookup_settleStores state "team"
  rw [if_pos rfl] at hlookup
  rw [teamStore_of_lookup hlookup]
  cases h : state.lookup "team" with
  | none => exact mapping_storeValue _
  | some v => exact (teamStore_of_lookup h).symm

/-- The state that setup gives, but for the digest that is kept in it. -/
def settledRun (writes : List Write) (state : Fields) : Fields :=
  settleStores (runWrites writes state)

theorem ne_of_not_mem {keys : List String} (h : key ∉ keys) (hname : name ∈ keys) :
    key ≠ name := by
  rintro rfl
  exact h hname

theorem lookup_settledRun (h : key ∉ ["personal", "team"]) (writes : List Write) (start : Fields) :
    (settledRun writes start).lookup key = (runWrites writes start).lookup key := by
  rw [settledRun, lookup_settleStores, if_neg (ne_of_not_mem h (by decide)),
    if_neg (ne_of_not_mem h (by decide))]

theorem lookup_settleStores_personal (state : Fields) :
    (settleStores state).lookup "personal" =
      some ((state.lookup "personal").getD (.dict [("enabled", .bool true)])) := by
  rw [lookup_settleStores, if_neg (by decide), if_pos rfl]

theorem lookup_settleStores_team (state : Fields) : (settleStores state).lookup "team" =
    some ((state.lookup "team").getD (storeValue (teamStore state))) := by
  rw [lookup_settleStores, if_pos rfl]

theorem lookup_settledRun_name (h : (runWrites writes start).lookup (StoreKind.name kind) = some v) :
    (settledRun writes start).lookup kind.name = some v := by
  cases kind with
  | personal =>
    apply (lookup_settleStores_personal _).trans
    rw [show (runWrites writes start).lookup "personal" = some v from h, Option.getD_some]
  | team =>
    apply (lookup_settleStores_team _).trans
    rw [show (runWrites writes start).lookup "team" = some v from h, Option.getD_some]

theorem settledRun_isSome (writes : List Write) (start : Fields) (kind : StoreKind) :
    ((settledRun writes start).lookup kind.name).isSome := by
  rw [Option.isSome_iff_exists]
  cases kind with
  | personal => exact ⟨_, lookup_settleStores_personal _⟩
  | team => exact ⟨_, lookup_settleStores_team _⟩

theorem runWrites_isSome (hw : ∀ w ∈ writes, Write.Proper w)
    (h : (state.lookup (StoreKind.name kind)).isSome) :
    ((runWrites writes state).lookup kind.name).isSome := by
  cases htouch : writes.any (Write.touches kind) with
  | false => rwa [lookup_runWrites_name hw htouch]
  | true =>
    obtain ⟨store, hstore⟩ := exists_hasStore hw htouch state
    rw [hstore.lookup]
    rfl

theorem ordered_storeValue (h : SameStore a b) (ha : UniqueStore a) (hb : UniqueStore b) :
    ordered (storeValue a) = ordered (storeValue b) := by
  cases a with
  | none =>
    cases b with
    | none => rfl
    | some fields => cases h.isSome
  | some as =>
    cases b with
    | none => cases h.isSome
    | some bs =>
      apply (ordered_dict_eq_iff (ha as rfl).1 (hb bs rfl).1).2
      intro key
      exact congrArg (Option.map ordered) (h.field key)

/-- What is merged into a store depends on the fields of the store alone. -/
theorem ordered_mergedAt (h : SameStore a b) (ha : UniqueStore a) (hb : UniqueStore b)
    (hu : ∀ u, given = some u → u.UniqueKeys) :
    (mergedAt given (some (storeValue a))).map ordered =
      (mergedAt given (some (storeValue b))).map ordered := by
  cases given with
  | none => exact congrArg some (ordered_storeValue h ha hb)
  | some u =>
    apply congrArg some
    cases u with
    | dict update =>
      cases a with
      | none =>
        cases b with
        | none => rfl
        | some fields => cases h.isSome
      | some as =>
        cases b with
        | none => cases h.isSome
        | some bs =>
          have hunique := hu _ rfl
          have hafter {fields : Fields} (hfields : (Value.dict fields).UniqueKeys) :=
            uniqueKeys_mergeMapping update hunique.2 fields hfields
          apply (ordered_dict_eq_iff (hafter (ha as rfl)).1 (hafter (hb bs rfl)).1).2
          intro key
          have hfield : as.lookup key = bs.lookup key := h.field key
          rw [lookup_merge hunique, lookup_merge hunique, hfield]
    | _ => rfl

section Rerun

variable {writes : List Write} {start : Fields} {digest : Value} (h : Steps writes)
theorem lookup_stamped_plain (hkey : key ∉ storeKeys)
    (hstamp : key ∉ ["desired_state_digest", "reconciliation"]) :
    (stampWith digest (settledRun writes start)).lookup key =
      (runWrites writes start).lookup key := by
  rw [lookup_stampWith, if_neg (ne_of_not_mem hstamp (by decide)),
    if_neg (ne_of_not_mem hstamp (by decide)).symm, lookup_settledRun]
  exact fun hmem => hkey (by revert hmem; simp [storeKeys]; tauto)

theorem lookup_stamped (hkey : key ∈ ["personal", "team", "knowledge_stores", "manifest"]) :
    (stampWith digest (settledRun writes start)).lookup key =
      (settledRun writes start).lookup key := by
  rw [lookup_stampWith, if_neg, if_neg]
  · rintro rfl
    revert hkey
    decide
  · rintro rfl
    revert hkey
    decide

include h in
theorem rerun_plain (hkey : key ∉ storeKeys)
    (hstamp : key ∉ ["desired_state_digest", "reconciliation"]) :
    (runWrites writes (stampWith digest (settledRun writes start))).lookup key =
      (stampWith digest (settledRun writes start)).lookup key := by
  apply lookup_rerun_plain h hkey (lookup_stamped_plain hkey hstamp)
  rw [← syncsRoot_runWrites h.proper start, syncsRoot, syncsRoot,
    lookup_stamped_plain (by decide) (by decide), lookup_stamped_plain (by decide) (by decide)]

variable (start digest) in
include h in
/-- A store that is written to has the same fields after the second run. -/
theorem rerun_hasStore (htouch : writes.any (Write.touches kind) = true) :
    ∃ a b, HasStore (runWrites writes start) kind a ∧
      HasStore (stampWith digest (settledRun writes start)) kind a ∧
      HasStore (runWrites writes (stampWith digest (settledRun writes start))) kind b ∧
      SameStore b a := by
  obtain ⟨first, hfirst⟩ := exists_hasStore h.proper htouch start
  have hagain : HasStore (stampWith digest (settledRun writes start)) kind
      (runStore kind writes first) := by
    apply HasStore.mk _ hfirst.given
    rw [lookup_stamped (by cases kind <;> decide)]
    exact lookup_settledRun_name hfirst.lookup
  exact ⟨_, _, hfirst, hagain, hagain.runWrites h.proper, rerun_store h kind first⟩

end Rerun

theorem HasStore.unique (h : HasStore state kind store) (hstate : (Value.dict state).UniqueKeys) :
    UniqueStore store := by
  have hvalue := uniqueKeys_lookup hstate h.lookup
  intro fields hfields
  rw [hfields] at hvalue
  exact hvalue

theorem Mirrors.dict_of_dict (h : Mirrors site touched state after)
    (hafter : after.lookup site.key = some (.dict written)) :
    ∃ fields, state.lookup site.key = some (.dict fields) := by
  by_contra hnot
  rw [not_exists] at hnot
  exact hnot written ((h.other hnot).symm.trans hafter)

/-- A store that was written to is in its place. -/
theorem Mirrors.view_store (h : Mirrors site touched state after)
    (hafter : after.lookup site.key = some (.dict written)) (hkind : touched kind = true) :
    site.view written (site.place (site.shape written) kind) = after.lookup kind.name := by
  obtain ⟨fields, hfields⟩ := h.dict_of_dict hafter
  obtain ⟨others, hothers, hshape, _, hstores⟩ := h.mapping fields hfields
  rw [hafter] at hothers
  obtain rfl := Value.dict.inj (Option.some.inj hothers)
  rw [hshape, hstores kind hkind]

section Rerun

variable {writes : List Write} {start : Fields} {digest : Value} (h : Steps writes)
  (hstart : (Value.dict start).UniqueKeys) (hdigest : digest.UniqueKeys)

include h hstart hdigest in
theorem uniqueKeys_stamped :
    (Value.dict (stampWith digest (settledRun writes start))).UniqueKeys :=
  uniqueKeys_stampWith (uniqueKeys_settleStores (uniqueKeys_runWrites h.unique hstart)) hdigest

include h hstart hdigest in
theorem uniqueKeys_rerun :
    (Value.dict (runWrites writes (stampWith digest (settledRun writes start)))).UniqueKeys :=
  uniqueKeys_runWrites h.unique (uniqueKeys_stamped h hstart hdigest)

include h hstart hdigest in
theorem rerun_name (kind : StoreKind) :
    ((runWrites writes (stampWith digest (settledRun writes start))).lookup kind.name).map ordered =
      ((stampWith digest (settledRun writes start)).lookup kind.name).map ordered := by
  cases htouch : writes.any (Write.touches kind) with
  | false => rw [lookup_runWrites_name h.proper htouch]
  | true =>
    obtain ⟨a, b, _, hagain, hrerun, hsame⟩ := rerun_hasStore start digest h htouch
    rw [hagain.lookup, hrerun.lookup, Option.map_some, Option.map_some,
      ordered_storeValue hsame (hrerun.unique (uniqueKeys_rerun h hstart hdigest))
        (hagain.unique (uniqueKeys_stamped h hstart hdigest))]

include h hstart hdigest in
theorem rerun_site (site : MirrorSite) (hkeeps : ∀ w ∈ writes, Write.Keeps site.key w)
    (hkey : site.key ∈ ["knowledge_stores", "manifest"])
    (hviews : ∀ a b, (Value.dict a).UniqueKeys → (Value.dict b).UniqueKeys →
      site.shape a = site.shape b → (∀ p, (site.view a p).map ordered = (site.view b p).map ordered) →
      ordered (.dict a) = ordered (.dict b)) :
    ((runWrites writes (stampWith digest (settledRun writes start))).lookup site.key).map ordered =
      ((stampWith digest (settledRun writes start)).lookup site.key).map ordered := by
  have hfirst := site.mirrors h.proper hkeeps start
  have hsecond := site.mirrors h.proper hkeeps (stampWith digest (settledRun writes start))
  have hstamped : (stampWith digest (settledRun writes start)).lookup site.key =
      (runWrites writes start).lookup site.key := by
    rw [lookup_stamped (List.mem_append_right ["personal", "team"] hkey), lookup_settledRun]
    intro hmem
    revert hmem hkey
    generalize site.key = key
    simp only [List.mem_cons, List.not_mem_nil, or_false]
    rintro (rfl | rfl) <;> decide
  by_cases hdict : ∃ fields,
      (stampWith digest (settledRun writes start)).lookup site.key = some (.dict fields)
  · obtain ⟨fields, hfields⟩ := hdict
    obtain ⟨written, hwritten, hshape, hother, hstores⟩ := hsecond.mapping fields hfields
    have hrun := hstamped.symm.trans hfields
    rw [hwritten, hfields, Option.map_some, Option.map_some, Option.some.injEq]
    apply hviews written fields
      (uniqueKeys_lookup (uniqueKeys_rerun h hstart hdigest) hwritten)
      (uniqueKeys_lookup (uniqueKeys_stamped h hstart hdigest) hfields) hshape
    intro p
    by_cases hplace : ∃ kind, writes.any (Write.touches kind) = true ∧
        site.place (site.shape fields) kind = p
    · obtain ⟨kind, htouch, rfl⟩ := hplace
      rw [hstores kind htouch, hfirst.view_store hrun htouch, rerun_name h hstart hdigest kind]
      obtain ⟨a, b, hstore, hagain, _, _⟩ := rerun_hasStore start digest h htouch
      rw [hstore.lookup, hagain.lookup]
    · rw [hother p fun kind htouch he => hplace ⟨kind, htouch, he⟩]
  · rw [not_exists] at hdict
    rw [hsecond.other hdict]

end Rerun

section Rerun

variable {writes : List Write} {start : Fields} {digest : Value} (h : Steps writes)
  (hstart : (Value.dict start).UniqueKeys) (hdigest : digest.UniqueKeys)

include h in
theorem syncsRoot_stamped :
    syncsRoot (stampWith digest (settledRun writes start)) = syncsRoot start := by
  rw [← syncsRoot_runWrites h.proper start, syncsRoot, syncsRoot,
    lookup_stamped_plain (by decide) (by decide), lookup_stamped_plain (by decide) (by decide)]

/-- What is merged is merged, and nothing else is written, where the digest is kept. -/
theorem plainEdit_reconciliation {w : Write} (hw : w.Proper) (syncs : Bool) :
    w.plainEdit "reconciliation" syncs = .keep ∨
      ∃ u, w = .merge "reconciliation" u ∧ w.plainEdit "reconciliation" syncs = .merge u := by
  cases w with
  | put name v =>
    have hname : name ≠ "reconciliation" := by
      rintro rfl
      revert hw
      simp [Write.Proper, putKeys, settingOptions]
    exact .inl (if_neg hname)
  | knowledgeRoot v =>
    apply Or.inl
    rw [Write.plainEdit, if_neg]
    intro hkey
    exact absurd hkey.1 (by decide)
  | merge name v =>
    by_cases hname : name = "reconciliation"
    · exact .inr ⟨v, hname ▸ rfl, if_pos hname⟩
    · exact .inl (if_neg hname)
  | store kind edit => exact .inl rfl

theorem lookup_reconciliation (digest : Value) (state : Fields) :
    (stampWith digest state).lookup "reconciliation" =
      mirrored (Dict.set "desired_state_digest" digest) (state.lookup "reconciliation") := by
  rw [lookup_stampWith, if_pos rfl]

theorem mirrored_set_set (key : String) (digest : Value) (v : Option Value) :
    mirrored (Dict.set key digest) (mirrored (Dict.set key digest) v) =
      mirrored (Dict.set key digest) v := by
  by_cases hdict : ∃ fields, v = some (.dict fields)
  · obtain ⟨fields, rfl⟩ := hdict
    rw [mirrored, mirrored, set_eq_self (Dict.lookup_set_self _ _ _)]
  · rw [not_exists] at hdict
    rw [mirrored_eq_self hdict, mirrored_eq_self hdict]

/-- A mapping with a digest set has the same fields after it is merged with what was merged. -/
theorem ordered_set_merge (hu : (Value.dict update).UniqueKeys)
    (hf : (Value.dict fields).UniqueKeys) (hdigest : digest.UniqueKeys)
    (hmerged : mergeMapping fields update = fields) :
    ordered (.dict (Dict.set key digest (mergeMapping (Dict.set key digest fields) update))) =
      ordered (.dict (Dict.set key digest fields)) := by
  have hset : (Value.dict (Dict.set key digest fields)).UniqueKeys := uniqueKeys_set hf hdigest
  have hagain := uniqueKeys_mergeMapping update hu.2 _ hset
  apply (ordered_dict_eq_iff (uniqueKeys_set hagain hdigest).1 hset.1).2
  intro name
  apply congrArg (Option.map ordered)
  rw [Dict.lookup_set, lookup_merge hu, Dict.lookup_set]
  split
  · rfl
  · rw [← lookup_merge hu, hmerged]

include h hstart hdigest in
theorem rerun_reconciliation :
    ((stampWith digest (runWrites writes (stampWith digest
      (settledRun writes start)))).lookup "reconciliation").map ordered =
      ((stampWith digest (settledRun writes start)).lookup "reconciliation").map ordered := by
  have hplain : "reconciliation" ∉ storeKeys := by decide
  rw [lookup_reconciliation, lookup_runWrites_plain h.proper hplain, lookup_reconciliation,
    lookup_settledRun (by decide), lookup_runWrites_plain h.proper hplain, syncsRoot_stamped h]
  by_cases hmerge : ∃ u, .merge "reconciliation" u ∈ writes
  · obtain ⟨u, hu⟩ := hmerge
    have hunique : u.UniqueKeys := h.unique _ hu
    have hedits : ∀ e ∈ writes.map (Write.plainEdit "reconciliation" (syncsRoot start)),
        e = .keep ∨ e = .merge u := by
      intro e he
      obtain ⟨w, hw, rfl⟩ := List.mem_map.1 he
      cases plainEdit_reconciliation (h.proper w hw) (syncsRoot start) with
      | inl hkeep => exact .inl hkeep
      | inr hmerge =>
        obtain ⟨v, rfl, hv⟩ := hmerge
        rw [hv, h.merges _ v u hw hu]
        exact .inr rfl
    have hmem : Edit.merge u ∈
        writes.map (Write.plainEdit "reconciliation" (syncsRoot start)) := by
      apply List.mem_map.2
      apply Exists.intro (Write.merge "reconciliation" u)
      rw [Write.plainEdit, if_pos rfl]
      exact ⟨hu, rfl⟩
    have hrun := Edit.run_of_merge mergedValue hedits hmem (mergedValue_mergedValue hunique)
    rw [hrun, hrun]
    cases u with
    | dict update =>
      have hself := mergedValue_mergedValue hunique (start.lookup "reconciliation")
      cases hm : mergedValue (start.lookup "reconciliation") (.dict update) with
      | dict fields =>
        rw [hm] at hself
        have hfields : (Value.dict fields).UniqueKeys :=
          hm ▸ uniqueKeys_mergeValue _ hunique _ (uniqueKeys_getOr hstart)
        exact congrArg some (ordered_set_merge hunique hfields hdigest (Value.dict.inj hself))
      | _ =>
        rw [mergedValue] at hm
        cases hv : (start.lookup "reconciliation").getD .none <;> rw [hv] at hm <;> cases hm
    | _ => rfl
  · have hkeep : ∀ e ∈ writes.map (Write.plainEdit "reconciliation" (syncsRoot start)),
        e = .keep := by
      intro e he
      obtain ⟨w, hw, rfl⟩ := List.mem_map.1 he
      cases plainEdit_reconciliation (h.proper w hw) (syncsRoot start) with
      | inl hkeep => exact hkeep
      | inr hfound =>
        obtain ⟨v, rfl, _⟩ := hfound
        exact (hmerge ⟨v, hw⟩).elim
    rw [Edit.run_of_keep mergedValue hkeep, Edit.run_of_keep mergedValue hkeep, mirrored_set_set]

include h hstart hdigest in
/-- All but the manifest is as before after the second run. -/
theorem rerun_other (hkey : key ≠ "manifest") :
    ((stampWith digest (runWrites writes (stampWith digest
      (settledRun writes start)))).lookup key).map ordered =
      ((stampWith digest (settledRun writes start)).lookup key).map ordered := by
  by_cases hrec : key = "reconciliation"
  · rw [hrec]
    exact rerun_reconciliation h hstart hdigest
  by_cases hdig : key = "desired_state_digest"
  · rw [lookup_stampWith, lookup_stampWith, if_neg hrec, if_neg hrec, if_pos hdig.symm,
      if_pos hdig.symm]
  rw [lookup_stampWith, if_neg hrec, if_neg (Ne.symm hdig)]
  by_cases hplain : key ∈ storeKeys
  · simp only [storeKeys, List.mem_cons, List.not_mem_nil, or_false] at hplain
    rcases hplain with rfl | rfl | rfl | rfl
    · exact rerun_name h hstart hdigest .personal
    · exact rerun_name h hstart hdigest .team
    · apply rerun_site h hstart hdigest storesSite
      · intro w hw
        have hproper := h.proper w hw
        cases w with
        | put name v =>
          exact ne_of_not_reserved (putKeys_not_reserved name hproper).1 (by decide)
        | knowledgeRoot v => exact show "knowledge_root" ≠ "knowledge_stores" by decide
        | merge name v => exact ne_of_not_reserved hproper (by decide)
        | store kind edit => trivial
      · exact List.mem_cons_self
      · intro a b ha hb _ hview
        exact (ordered_dict_eq_iff ha.1 hb.1).2 hview
    · exact (hkey rfl).elim
  · rw [rerun_plain h hplain]
    simp only [List.mem_cons, List.not_mem_nil, or_false, not_or]
    exact ⟨hdig, hrec⟩

end Rerun

/-- Whether a manifest has a store the way that it has it when the store is written to it before
the manifest given as an option is merged again. -/
def KeepsStore (state given : Fields) (kind : StoreKind) : Prop :=
  ∀ manifest, stateManifest state = some manifest →
    ordered (.dict (mergeMapping
      (setManifestStore manifest kind.name (storeValue (storeOf state kind))) given)) =
      ordered (.dict manifest)

theorem mergedValue_dict (v : Option Value) (given : Fields) :
    ∃ fields, mergedValue v (.dict given) = .dict fields := by
  rw [mergedValue]
  cases v.getD .none with
  | dict base => exact ⟨_, rfl⟩
  | _ => exact ⟨given, rfl⟩

/-- A store is kept exactly when merging into its place gives back what is there. -/
theorem keepsStore_iff (hg : (Value.dict given).UniqueKeys)
    (hm : (Value.dict manifest).UniqueKeys)
    (hmerged : mergedValue v (.dict given) = .dict manifest)
    (hmanifest : state.lookup "manifest" = some (.dict manifest))
    (hstore : UniqueStore (storeOf state kind)) : KeepsStore state given kind ↔
      (mergedAt (viewOf given (storePlace (nests manifest) kind))
        (some (storeValue (storeOf state kind)))).map ordered =
      (viewOf manifest (storePlace (nests manifest) kind)).map ordered := by
  have hwritten : (Value.dict (setManifestStore manifest kind.name
      (storeValue (storeOf state kind)))).UniqueKeys :=
    uniqueKeys_setManifestStore hm (uniqueKeys_storeValue hstore)
  have hnests := nests_setManifestStore kind (storeValue (storeOf state kind)) manifest
  have hfits : Fits given (setManifestStore manifest kind.name
      (storeValue (storeOf state kind))) := by
    intro u hu
    rw [hnests, fits_merged hg hmerged u hu]
  have hkeeps : KeepsStore state given kind ↔ ordered (.dict (mergeMapping
      (setManifestStore manifest kind.name (storeValue (storeOf state kind))) given)) =
      ordered (.dict manifest) := by
    apply Iff.intro
    · intro h
      exact h manifest (mapping_getOr.2 hmanifest)
    · intro h other hother
      rw [stateManifest, mapping_getOr, hmanifest] at hother
      obtain rfl := Value.dict.inj (Option.some.inj hother)
      exact h
  rw [hkeeps, ordered_manifest_iff (uniqueKeys_mergeMapping given hg.2 _ hwritten) hm
    ((nests_merge hg hfits).trans hnests)]
  simp only [viewOf_merge hg hfits, viewOf_setManifestStore]
  apply Iff.intro
  · intro h
    have hplace := h (storePlace (nests manifest) kind)
    rwa [if_pos rfl] at hplace
  · intro h p
    by_cases hplace : storePlace (nests manifest) kind = p
    · rw [if_pos hplace, ← hplace]
      exact h
    · rw [if_neg hplace, mergedAt_merged hg hmerged]

theorem manifest_runWrites (hw : ∀ w ∈ writes, Write.Proper w)
    (hkeeps : ∀ w ∈ writes, Write.Keeps "manifest" w)
    (h : state.lookup "manifest" = some (.dict manifest)) :
    ∃ written, (runWrites writes state).lookup "manifest" = some (.dict written) ∧
      nests written = nests manifest ∧
      (∀ p, (∀ kind, writes.any (Write.touches kind) = true → storePlace (nests manifest) kind ≠ p) →
        viewOf written p = viewOf manifest p) ∧
      ∀ kind, writes.any (Write.touches kind) = true →
        viewOf written (storePlace (nests manifest) kind) =
          (runWrites writes state).lookup kind.name :=
  (manifestSite.mirrors hw hkeeps state).mapping manifest h

section Remerge

variable {first second : List Write} {given start : Fields} {digest : Value}
  (h : Steps (first ++ .merge "manifest" (.dict given) :: second))
  (hfirst : ∀ w ∈ first, Write.Keeps "manifest" w)
  (hsecond : ∀ w ∈ second, Write.Keeps "manifest" w)
  (hstart : (Value.dict start).UniqueKeys) (hdigest : digest.UniqueKeys)

/-- The state once the manifest given as an option is merged. -/
def mergedState (first : List Write) (given start : Fields) : Fields :=
  (Write.merge "manifest" (.dict given)).apply (runWrites first start)

theorem runWrites_merge (first second : List Write) (given start : Fields) :
    runWrites (first ++ .merge "manifest" (.dict given) :: second) start =
      runWrites second (mergedState first given start) := by
  rw [runWrites_append, runWrites_cons, mergedState]

theorem lookup_mergedState_name (first : List Write) (given start : Fields) (kind : StoreKind) :
    (mergedState first given start).lookup kind.name =
      (runWrites first start).lookup kind.name := by
  have hname : "manifest" ≠ kind.name := by cases kind <;> decide
  exact Dict.lookup_set_of_ne hname _ _

theorem lookup_mergedState (first : List Write) (given start : Fields) :
    (mergedState first given start).lookup "manifest" =
      some (mergedValue ((runWrites first start).lookup "manifest") (.dict given)) :=
  Dict.lookup_set_self _ _ _

include h in
/-- A store that is written to before the manifest is merged, and not after, is what it is when
the manifest is merged. -/
theorem storeOf_mergedState (htouch : first.any (Write.touches kind) = true)
    (hnot : second.any (Write.touches kind) = false)
    (hstore : HasStore (runWrites (first ++ .merge "manifest" (.dict given) :: second) start)
      kind store) : storeOf (mergedState first given start) kind = store := by
  have hproper := h.proper
  rw [List.forall_mem_append, List.forall_mem_cons] at hproper
  obtain ⟨given', hgiven⟩ := exists_hasStore hproper.1 htouch start
  have hlookup := hstore.lookup
  rw [runWrites_merge, lookup_runWrites_name hproper.2.2 hnot, lookup_mergedState_name,
    hgiven.lookup] at hlookup
  have hsame := congrArg mapping? (Option.some.inj hlookup)
  rw [mapping_storeValue, mapping_storeValue] at hsame
  apply HasStore.storeOf
  apply HasStore.mk _ (hsame ▸ hgiven.given)
  rw [lookup_mergedState_name, hgiven.lookup, hsame]

/-- What is in a manifest after the stores are written and it is merged with what was merged into
it before. -/
theorem viewOf_remerged (hg : (Value.dict given).UniqueKeys)
    (hmerged : mergedValue v (.dict given) = .dict manifest)
    (hfits : Fits given before) (hp : viewOf before p = viewOf manifest p) :
    viewOf (mergeMapping before given) p = viewOf manifest p := by
  rw [viewOf_merge hg hfits, hp, mergedAt_merged hg hmerged]

include h hfirst hsecond hstart hdigest in
/-- A manifest that is merged again is the same exactly when it keeps every store that is given
before it alone. -/
theorem rerun_manifest_iff :
    ((runWrites (first ++ .merge "manifest" (.dict given) :: second) (stampWith digest
      (settledRun (first ++ .merge "manifest" (.dict given) :: second) start))).lookup
        "manifest").map ordered =
      ((stampWith digest (settledRun (first ++ .merge "manifest" (.dict given) :: second)
        start)).lookup "manifest").map ordered ↔
    ∀ kind, first.any (Write.touches kind) = true → second.any (Write.touches kind) = false →
      KeepsStore (mergedState first given start) given kind := by
  have hproper := h.proper
  rw [List.forall_mem_append, List.forall_mem_cons] at hproper
  have hunique := h.unique
  rw [List.forall_mem_append, List.forall_mem_cons] at hunique
  have hg : (Value.dict given).UniqueKeys := hunique.2.1
  have hrerun := uniqueKeys_rerun h hstart hdigest
  have hstamp := uniqueKeys_stamped h hstart hdigest
  have hname := rerun_name h hstart hdigest
  have hhas (kind : StoreKind) (htouch : first.any (Write.touches kind) = true) :=
    rerun_hasStore start digest h (by
      show (first ++ Write.merge "manifest" (.dict given) :: second).any (Write.touches kind) = true
      rw [List.any_append, htouch, Bool.true_or])
  have hmergedUnique : (Value.dict (mergedState first given start)).UniqueKeys :=
    Write.uniqueKeys hunique.2.1 (uniqueKeys_runWrites hunique.1 hstart)
  -- what the first run makes of the manifest
  obtain ⟨manifest, hmerged⟩ := mergedValue_dict ((runWrites first start).lookup "manifest") given
  have hlookup := lookup_mergedState first given start
  rw [hmerged] at hlookup
  have hmanifest := uniqueKeys_lookup hmergedUnique hlookup
  obtain ⟨written, hwritten, hnests, hother, hstores⟩ :=
    manifest_runWrites hproper.2.2 hsecond hlookup
  rw [← runWrites_merge first second given start] at hwritten hstores
  have hstamped : (stampWith digest (settledRun
      (first ++ .merge "manifest" (.dict given) :: second) start)).lookup "manifest" =
      some (.dict written) := by
    rw [lookup_stamped (by decide), lookup_settledRun (by decide)]
    exact hwritten
  have hsame (kind : StoreKind) (htouch : second.any (Write.touches kind) = true) :
      (stampWith digest (settledRun (first ++ .merge "manifest" (.dict given) :: second)
        start)).lookup kind.name =
      (runWrites (first ++ .merge "manifest" (.dict given) :: second) start).lookup kind.name := by
    have hall : (first ++ .merge "manifest" (.dict given) :: second).any (Write.touches kind) =
        true := by
      rw [List.any_append, List.any_cons, htouch, Bool.or_true, Bool.or_true]
    obtain ⟨a, _, ha, hagain, _⟩ := rerun_hasStore start digest h hall
    rw [ha.lookup, hagain.lookup]
  generalize stampWith digest (settledRun (first ++ .merge "manifest" (.dict given) :: second)
    start) = again at *
  -- what the second run makes of it
  obtain ⟨before, hbefore, hnests', hother', hstores'⟩ :=
    manifest_runWrites hproper.1 hfirst hstamped
  have hlookup' : (mergedState first given again).lookup "manifest" =
      some (.dict (mergeMapping before given)) := by
    rw [lookup_mergedState, hbefore]
    rfl
  have hfits : Fits given before := by
    intro v hv
    rw [hnests', hnests, fits_merged hg hmerged v hv]
  have hnests'' := nests_merge hg hfits
  rw [hnests', hnests] at hnests''
  obtain ⟨final, hfinal, hnestsF, hotherF, hstoresF⟩ :=
    manifest_runWrites hproper.2.2 hsecond hlookup'
  rw [← runWrites_merge first second given again] at hfinal hstoresF
  rw [hnests''] at hnestsF hotherF hstoresF
  rw [hnests] at hother' hstores' 
  rw [hfinal, hstamped, Option.map_some, Option.map_some, Option.some.injEq, ordered_manifest_iff
    (uniqueKeys_lookup hrerun hfinal) (uniqueKeys_lookup hstamp hstamped) (hnestsF.trans hnests.symm)]
  -- a place that no store is written to
  have hplain (p : ManifestPlace)
      (hfirst' : ∀ kind, first.any (Write.touches kind) = true →
        storePlace (nests manifest) kind ≠ p)
      (hsecond' : ∀ kind, second.any (Write.touches kind) = true →
        storePlace (nests manifest) kind ≠ p) : viewOf final p = viewOf written p := by
    rw [hotherF p hsecond', hother p hsecond',
      viewOf_remerged hg hmerged hfits ((hother' p hfirst').trans (hother p hsecond'))]
  -- the place of a store that is given before the manifest alone
  have hgiven (kind : StoreKind) (htouch : first.any (Write.touches kind) = true)
      (hnot : second.any (Write.touches kind) = false) :
      (viewOf final (storePlace (nests manifest) kind)).map ordered =
        (viewOf written (storePlace (nests manifest) kind)).map ordered ↔
      KeepsStore (mergedState first given start) given kind := by
    have hsecond' (other : StoreKind) (hother : second.any (Write.touches other) = true) :
        storePlace (nests manifest) other ≠ storePlace (nests manifest) kind := by
      intro hplace
      rw [manifestSite.place_inj _ _ _ hplace] at hother
      exact Bool.false_ne_true (hnot.symm.trans hother)
    obtain ⟨a, b, ha, hagain, hb, hstore⟩ := hhas kind htouch
    have hua := hagain.unique hstamp
    have hub := hb.unique hrerun
    have hstoreOf := storeOf_mergedState h htouch hnot ha
    have hvalue : (runWrites first again).lookup kind.name = some (storeValue b) := by
      rw [← hb.lookup, runWrites_merge, lookup_runWrites_name hproper.2.2 hnot,
        lookup_mergedState_name]
    rw [hotherF _ hsecond', hother _ hsecond', viewOf_merge hg hfits, hstores' kind htouch, hvalue,
      ordered_mergedAt hstore hub hua fun u hu => uniqueKeys_viewOf hg hu,
      keepsStore_iff hg hmanifest hmerged hlookup (hstoreOf.symm ▸ hua), hstoreOf]
  apply Iff.intro
  · intro hviews kind htouch hnot
    exact (hgiven kind htouch hnot).1 (hviews _)
  · intro hkeeps p
    by_cases hplace : ∃ kind, second.any (Write.touches kind) = true ∧
        storePlace (nests manifest) kind = p
    · obtain ⟨kind, htouch, rfl⟩ := hplace
      rw [hstoresF kind htouch, hstores kind htouch, hname, hsame kind htouch]
    · rw [not_exists] at hplace
      by_cases hplace' : ∃ kind, first.any (Write.touches kind) = true ∧
          storePlace (nests manifest) kind = p
      · obtain ⟨kind, htouch, rfl⟩ := hplace'
        have hnot : second.any (Write.touches kind) = false := by
          rw [← Bool.not_eq_true]
          exact fun hsecond' => hplace kind ⟨hsecond', rfl⟩
        exact (hgiven kind htouch hnot).2 (hkeeps kind htouch hnot)
      · rw [not_exists] at hplace'
        rw [hplain p (fun kind htouch he => hplace' kind ⟨htouch, he⟩)
          fun kind htouch he => hplace kind ⟨htouch, he⟩]

end Remerge

theorem runWrites_manifest_value {first second : List Write} {given : Value}
    (hproper : ∀ w ∈ second, Write.Proper w) (hkeeps : ∀ w ∈ second, Write.Keeps "manifest" w)
    (hgiven : ∀ fields, given ≠ .dict fields) (state : Fields) :
    (runWrites (first ++ .merge "manifest" given :: second) state).lookup "manifest" =
      some given := by
  have hmerged (old : Value) : mergeValue old given = given := by
    cases given with
    | dict fields => exact (hgiven fields rfl).elim
    | _ => rfl
  have hlookup : ((Write.merge "manifest" given).apply (runWrites first state)).lookup "manifest" =
      some given := by
    rw [Write.apply, setOption, Dict.lookup_set_self, hmerged]
  rw [runWrites_append, runWrites_cons, ← hlookup]
  apply (manifestSite.mirrors hproper hkeeps _).other
  intro fields hfields
  exact hgiven fields (Option.some.inj (hlookup.symm.trans hfields))

theorem keeps_manifest (h : allWrites options = .ok ws) (hkeys : "manifest" ∉ Dict.keys options) :
    ∀ w ∈ ws, Write.Keeps "manifest" w := by
  intro w hw
  obtain ⟨option, hmem, vs, hvs, hw⟩ := mem_allWrites h hw
  cases w with
  | put name v =>
    exact (ne_of_not_mem (putKeys_not_reserved name (hvs.proper _ hw)).2 (by decide))
  | knowledgeRoot v => exact show "knowledge_root" ≠ "manifest" by decide
  | merge name v =>
    rw [hvs.merge hw] at hmem
    rintro rfl
    exact hkeys (List.mem_map_of_mem hmem)
  | store kind edit => trivial

theorem switchWrites_cases (explicit state : Fields) :
    switchWrites explicit state = [] ∨
      switchWrites explicit state = [.store .team (.enable (!disablesTeam explicit))] := by
  rw [switchWrites]
  split
  · exact .inr rfl
  · exact .inl rfl

theorem keeps_switchWrites (key : String) (explicit state : Fields) :
    ∀ w ∈ switchWrites explicit state, Write.Keeps key w := by
  cases switchWrites_cases explicit state with
  | inl h =>
    rw [h]
    exact fun _ hw => (List.not_mem_nil hw).elim
  | inr h =>
    rw [h]
    exact List.forall_mem_singleton.2 trivial

theorem Steps.switch (h : Steps ws) (explicit state : Fields) :
    Steps (ws ++ switchWrites explicit state) := by
  cases switchWrites_cases explicit state with
  | inl hnone => rwa [hnone, List.append_nil]
  | inr hswitch =>
    rw [hswitch]
    have hmem {w : Write} (hw : w ∈ ws ++ [.store .team (.enable (!disablesTeam explicit))])
        (hne : w ≠ .store .team (.enable (!disablesTeam explicit))) : w ∈ ws := by
      cases List.mem_append.1 hw with
      | inl hw => exact hw
      | inr hw => exact (hne (List.mem_singleton.1 hw)).elim
    exact
      { proper := List.forall_mem_append.2 ⟨h.proper, List.forall_mem_singleton.2 nofun⟩
        unique := List.forall_mem_append.2 ⟨h.unique, List.forall_mem_singleton.2 trivial⟩
        merges := fun key u v hu hv => h.merges key u v (hmem hu nofun) (hmem hv nofun)
        storeMerges := fun kind u v hu hv =>
          h.storeMerges kind u v (hmem hu nofun) (hmem hv nofun) }

theorem any_touches_switchWrites (explicit state : Fields) (kind : StoreKind) :
    (switchWrites explicit state).any (Write.touches kind) =
      (decide (kind = .team) && ((disablesTeam explicit || enablesTeam explicit) &&
        (teamStore state).isSome)) := by
  rw [switchWrites]
  cases (disablesTeam explicit || enablesTeam explicit) && (teamStore state).isSome with
  | false =>
    rw [Bool.and_false]
    rfl
  | true => cases kind <;> rfl

/-- All that setup writes to a state. -/
def setupWrites (explicit : Fields) (ws : List Write) (state : Fields) : List Write :=
  ws ++ switchWrites explicit (runWrites ws state)

theorem teamStore_runWrites (h : Steps ws) (explicit start : Fields) (digest : Value) :
    (teamStore (runWrites ws (stampWith digest
      (settledRun (setupWrites explicit ws start) start)))).isSome =
      (teamStore (runWrites ws start)).isSome := by
  cases htouch : ws.any (Write.touches .team) with
  | true =>
    obtain ⟨a, ha⟩ := exists_hasStore h.proper htouch start
    obtain ⟨b, hb⟩ := exists_hasStore h.proper htouch
      (stampWith digest (settledRun (setupWrites explicit ws start) start))
    have hsome := isSome_runStore htouch a b
    rw [← ha.storeOf, ← hb.storeOf] at hsome
    exact hsome.symm
  | false =>
    have hteam : teamStore (runWrites ws (stampWith digest
        (settledRun (setupWrites explicit ws start) start))) =
        teamStore (runWrites (setupWrites explicit ws start) start) := by
      obtain ⟨v, hv⟩ := Option.isSome_iff_exists.1
        (settledRun_isSome (setupWrites explicit ws start) start .team)
      have hlookup := lookup_runWrites_name h.proper htouch (stampWith digest
        (settledRun (setupWrites explicit ws start) start))
      rw [lookup_stamped (by decide), hv] at hlookup
      rw [teamStore_of_lookup hlookup, ← teamStore_of_lookup hv, settledRun,
        teamStore_settleStores]
    rw [hteam, setupWrites, runWrites_append]
    rw [switchWrites]
    split
    · rename_i hswitch
      have hproper : Write.Proper (.store .team (.enable (!disablesTeam explicit))) := by
        intro h
        cases h
      have hstore := hasStore_apply_store hproper (runWrites ws start)
      rw [(Bool.and_eq_true_iff.1 hswitch).2]
      exact congrArg Option.isSome hstore.storeOf
    · rfl

/-- The second run of setup writes the same. -/
theorem setupWrites_again (h : Steps ws) (explicit start : Fields) (digest : Value) :
    setupWrites explicit ws (stampWith digest
      (settledRun (setupWrites explicit ws start) start)) = setupWrites explicit ws start := by
  have hswitch : switchWrites explicit (runWrites ws (stampWith digest
      (settledRun (setupWrites explicit ws start) start))) =
      switchWrites explicit (runWrites ws start) := by
    rw [switchWrites, switchWrites, teamStore_runWrites h]
  exact congrArg (ws ++ ·) hswitch

theorem startState_stampWith (digest : Value) (state : Fields) :
    startState (stampWith digest state) = stampWith digest state := by
  have hlookup := lookup_stampWith digest state "desired_state_digest"
  rw [if_neg (by decide), if_pos rfl] at hlookup
  rw [startState]
  cases h : stampWith digest state with
  | nil =>
    rw [h] at hlookup
    cases hlookup
  | cons => rfl

theorem buildDesiredState_ok (h : buildDesiredState P current explicit = .ok desired) :
    ∃ ws, allWrites explicit = .ok ws ∧ desired = stampDigest P
      (settledRun (setupWrites explicit ws (startState current)) (startState current)) := by
  rw [buildDesiredState_eq] at h
  obtain ⟨ws, hws, h⟩ := map_eq_ok h
  exact ⟨ws, hws, h.symm⟩

theorem buildDesiredState_again (hsteps : Steps ws) (hws : allWrites explicit = .ok ws)
    (digest : Value) (start : Fields) :
    buildDesiredState P (stampWith digest (settledRun (setupWrites explicit ws start) start))
      explicit = .ok (stampDigest P (runWrites (setupWrites explicit ws start)
        (stampWith digest (settledRun (setupWrites explicit ws start) start)))) := by
  have hpresent (kind : StoreKind) : ((runWrites (setupWrites explicit ws start)
      (stampWith digest (settledRun (setupWrites explicit ws start) start))).lookup
        kind.name).isSome := by
    apply runWrites_isSome (hsteps.switch explicit (runWrites ws start)).proper
    rw [lookup_stamped (by cases kind <;> decide)]
    exact settledRun_isSome _ _ kind
  rw [buildDesiredState_eq, hws, startState_stampWith]
  apply congrArg Except.ok
  change stampDigest P (settleStores (runWrites (setupWrites explicit ws (stampWith digest
    (settledRun (setupWrites explicit ws start) start))) _)) = _
  rw [setupWrites_again hsteps]
  exact congrArg (stampDigest P) (settleStores_eq_self (hpresent .personal) (hpresent .team))

/-- The second run of setup gives the same state exactly when it gives the same manifest. -/
theorem ordered_again_iff (h : Steps writes) (hstart : (Value.dict start).UniqueKeys)
    (hvolatile : isVolatile P "desired_state_digest" = true) :
    ordered (.dict (stampDigest P (runWrites writes (stampDigest P (settledRun writes start))))) =
        ordered (.dict (stampDigest P (settledRun writes start))) ↔
      ((runWrites writes (stampDigest P (settledRun writes start))).lookup
          "manifest").map ordered =
        ((stampDigest P (settledRun writes start)).lookup "manifest").map ordered := by
  have hdigest : (Value.str (stateDigest P (settledRun writes start))).UniqueKeys := trivial
  have hfirst := uniqueKeys_stamped h hstart hdigest
  have hrun := uniqueKeys_rerun h hstart hdigest
  rw [stampDigest_eq P (settledRun writes start)]
  have hsecond {digest : Value} (hd : digest.UniqueKeys) := uniqueKeys_stampWith hrun hd
  have hmanifest (digest : Value) (state : Fields) : (stampWith digest state).lookup "manifest" =
      state.lookup "manifest" := by
    rw [lookup_stampWith, if_neg (by decide), if_neg (by decide)]
  apply Iff.intro
  · intro heq
    rw [stampDigest_eq, ordered_dict_eq_iff
      (hsecond (show Value.UniqueKeys (.str _) from trivial)).1 hfirst.1] at heq
    rw [← heq "manifest", hmanifest]
  · intro hlookup
    have hsame : ordered (.dict (stampWith (.str (stateDigest P (settledRun writes start)))
        (runWrites writes (stampWith (.str (stateDigest P (settledRun writes start)))
          (settledRun writes start))))) =
        ordered (.dict (stampWith (.str (stateDigest P (settledRun writes start)))
          (settledRun writes start))) := by
      apply (ordered_dict_eq_iff (hsecond hdigest).1 hfirst.1).2
      intro key
      by_cases hkey : key = "manifest"
      · rw [hkey, ← hlookup, hmanifest]
      · exact rerun_other h hstart hdigest hkey
    have hdigests := stateDigest_of_ordered (P := P) (hsecond hdigest) hfirst hsame
    rw [stateDigest_stampWith hvolatile, stateDigest_stampWith hvolatile] at hdigests
    rw [stampDigest_eq, hdigests]
    exact hsame

end ExternalIntelligence
