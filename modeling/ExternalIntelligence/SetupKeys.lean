import ExternalIntelligence.SetupManifests

namespace ExternalIntelligence
set_option autoImplicit true

theorem uniqueKeys_set (h : (Value.dict fields).UniqueKeys) (hv : v.UniqueKeys) :
    (Value.dict (Dict.set key v fields)).UniqueKeys := by
  apply And.intro (Dict.keys_set_nodup h.1)
  rw [Value.uniqueFields_iff]
  intro p hp
  cases Dict.mem_of_mem_set hp with
  | inl he => exact he ▸ hv
  | inr hmem => exact Value.uniqueFields_iff.1 h.2 p hmem

theorem uniqueKeys_getOr (h : (Value.dict fields).UniqueKeys) :
    (getOr fields key .none).UniqueKeys := by
  rw [getOr]
  cases hv : fields.lookup key with
  | none => trivial
  | some v => exact uniqueKeys_lookup h hv

theorem uniqueKeys_nil : (Value.dict []).UniqueKeys :=
  ⟨List.nodup_nil, trivial⟩

mutual

theorem uniqueKeys_mergeValue : ∀ u : Value, u.UniqueKeys → ∀ old : Value, old.UniqueKeys →
    (mergeValue old u).UniqueKeys
  | .none, h, _, _ | .bool _, h, _, _ | .int _, h, _, _ | .float _, h, _, _ | .str _, h, _, _
  | .list _, h, _, _ | .tuple _, h, _, _ => h
  | .dict update, h, old, hold => by
    cases old with
    | dict base => exact uniqueKeys_mergeMapping update h.2 base hold
    | _ => exact h

theorem uniqueKeys_mergeMapping : ∀ update : Fields, Value.UniqueFields update →
    ∀ base : Fields, (Value.dict base).UniqueKeys → (Value.dict (mergeMapping base update)).UniqueKeys
  | [], _, _, hbase => hbase
  | (_, u) :: update, h, _, hbase =>
    uniqueKeys_mergeMapping update h.2 _
      (uniqueKeys_set hbase (uniqueKeys_mergeValue u h.1 _ (uniqueKeys_getOr hbase)))

end

/-- Every mapping of a store has unique keys, if there is a store. -/
def UniqueStore (store : Option Fields) : Prop :=
  ∀ fields, store = some fields → (Value.dict fields).UniqueKeys

theorem uniqueStore_mapping (h : v.UniqueKeys) : UniqueStore (mapping? v) := by
  intro fields hfields
  rwa [← mapping_eq_some.1 hfields]

theorem uniqueStore_bind {store : Option Fields} {f : Fields → Option Fields}
    (h : UniqueStore store)
    (hf : ∀ fields, (Value.dict fields).UniqueKeys → UniqueStore (f fields)) :
    UniqueStore (store.bind f) := by
  cases store with
  | none => exact nofun
  | some fields => exact hf fields (h fields rfl)

theorem uniqueStore_or (ha : UniqueStore a) (hb : UniqueStore b) : UniqueStore (a.or b) := by
  cases a with
  | none => exact hb
  | some => exact ha

theorem uniqueStore_getD (h : UniqueStore store) : (Value.dict (store.getD [])).UniqueKeys := by
  cases store with
  | none => exact uniqueKeys_nil
  | some fields => exact h fields rfl

theorem uniqueKeys_storeValue (h : UniqueStore store) : (storeValue store).UniqueKeys := by
  cases store with
  | none => trivial
  | some fields => exact h fields rfl

theorem uniqueKeys_sources (h : (Value.dict state).UniqueKeys) :
    ∀ source ∈ stateSources state, (Value.dict source).UniqueKeys := by
  intro source hsource
  cases List.mem_cons.1 hsource with
  | inl he => exact he ▸ h
  | inr hmem =>
    rw [Option.mem_toList] at hmem
    exact uniqueStore_mapping (uniqueKeys_getOr h) source hmem

theorem uniqueStore_personalStore (h : (Value.dict state).UniqueKeys) :
    UniqueStore (personalStore state) := by
  intro fields hfields
  obtain ⟨source, hsource, hfound⟩ := List.exists_of_findSome?_eq_some hfields
  have hunique := uniqueKeys_sources h source hsource
  revert hfound
  apply uniqueStore_or (uniqueStore_mapping (uniqueKeys_getOr hunique))
  apply uniqueStore_or
  · exact uniqueStore_bind (uniqueStore_mapping (uniqueKeys_getOr hunique)) fun stores hstores =>
      uniqueStore_mapping (uniqueKeys_getOr hstores)
  · exact uniqueStore_mapping (uniqueKeys_getOr hunique)

theorem uniqueStore_teamStore (h : (Value.dict state).UniqueKeys) :
    UniqueStore (teamStore state) := by
  intro fields hfields
  rw [teamStore, Option.join_eq_some_iff] at hfields
  obtain ⟨source, hsource, hfound⟩ := List.exists_of_findSome?_eq_some hfields
  have hunique := uniqueKeys_sources h source hsource
  rw [teamSource] at hfound
  cases hteam : source.lookup "team" with
  | some v =>
    rw [hteam] at hfound
    exact uniqueStore_mapping (uniqueKeys_lookup hunique hteam) fields (Option.some.inj hfound)
  | none =>
    rw [hteam] at hfound
    obtain ⟨stores, hstores, hv⟩ := Option.map_eq_some_iff.1 hfound
    exact uniqueStore_mapping (uniqueKeys_getOr
      (uniqueStore_mapping (uniqueKeys_getOr hunique) stores hstores)) fields hv

theorem uniqueStore_storeOf (h : (Value.dict state).UniqueKeys) (kind : StoreKind) :
    UniqueStore (storeOf state kind) := by
  cases kind with
  | personal => exact uniqueStore_personalStore h
  | team => exact uniqueStore_teamStore h

theorem uniqueKeys_setDefault (h : (Value.dict fields).UniqueKeys) (hv : v.UniqueKeys) :
    (Value.dict (setDefault key v fields)).UniqueKeys := by
  rw [setDefault]
  split
  · exact h
  · exact uniqueKeys_set h hv

theorem StoreEdit.uniqueStore {edit : StoreEdit} (h : edit.Unique) (hstore : UniqueStore store) :
    UniqueStore (edit.apply store) := by
  have hfields := uniqueStore_getD hstore
  intro fields hfields'
  cases edit with
  | field key v =>
    obtain rfl := Option.some.inj hfields'
    exact uniqueKeys_set hfields h
  | rooted v =>
    obtain rfl := Option.some.inj hfields'
    exact uniqueKeys_setDefault (uniqueKeys_set hfields h) trivial
  | merge update =>
    obtain rfl := Option.some.inj hfields'
    exact uniqueKeys_mergeMapping update h.2 _ hfields
  | reset given => exact h fields hfields'
  | enable enabled =>
    obtain rfl := Option.some.inj hfields'
    exact uniqueKeys_set (uniqueKeys_set hfields trivial) trivial

theorem uniqueKeys_mirror {write : Fields → Fields} (h : (Value.dict state).UniqueKeys)
    (hwrite : ∀ fields, (Value.dict fields).UniqueKeys → (Value.dict (write fields)).UniqueKeys) :
    (Value.dict (mirror write name state)).UniqueKeys := by
  rw [mirror]
  split
  · rename_i fields hfields
    exact uniqueKeys_set h (hwrite fields (uniqueStore_mapping (uniqueKeys_getOr h) fields hfields))
  · exact h

theorem uniqueKeys_setManifestStore (h : (Value.dict manifest).UniqueKeys) (hv : v.UniqueKeys) :
    (Value.dict (setManifestStore manifest name v)).UniqueKeys := by
  rw [setManifestStore]
  split
  · rename_i stores hstores
    exact uniqueKeys_set h (uniqueKeys_set (uniqueStore_mapping (uniqueKeys_getOr h) stores hstores)
      hv)
  · exact uniqueKeys_set h hv

theorem uniqueKeys_setStore (h : (Value.dict state).UniqueKeys) (hstore : UniqueStore store) :
    (Value.dict (setStore state name store)).UniqueKeys := by
  have hv := uniqueKeys_storeValue hstore
  rw [setStore_eq]
  apply uniqueKeys_mirror
  · apply uniqueKeys_mirror
    · exact uniqueKeys_set h hv
    · exact fun fields hfields => uniqueKeys_set hfields hv
  · exact fun manifest hmanifest => uniqueKeys_setManifestStore hmanifest hv

theorem Write.uniqueKeys {w : Write} (hw : w.Unique) (h : (Value.dict state).UniqueKeys) :
    (Value.dict (w.apply state)).UniqueKeys := by
  cases w with
  | put key v => exact uniqueKeys_set h hw
  | knowledgeRoot v =>
    rw [Write.apply]
    split
    · exact uniqueKeys_set h hw
    · exact h
  | merge key v => exact uniqueKeys_set h (uniqueKeys_mergeValue v hw _ (uniqueKeys_getOr h))
  | store kind edit => exact uniqueKeys_setStore h (StoreEdit.uniqueStore hw (uniqueStore_storeOf h kind))

theorem uniqueKeys_runWrites (hw : ∀ w ∈ writes, Write.Unique w)
    (h : (Value.dict state).UniqueKeys) : (Value.dict (runWrites writes state)).UniqueKeys := by
  induction writes generalizing state with
  | nil => exact h
  | cons w writes ih =>
    exact ih (fun v hv => hw v (List.mem_cons_of_mem _ hv))
      (Write.uniqueKeys (hw w List.mem_cons_self) h)

theorem uniqueKeys_settleStores (h : (Value.dict state).UniqueKeys) :
    (Value.dict (settleStores state)).UniqueKeys := by
  have hpersonal : (Value.dict (setDefault "personal" (.dict [("enabled", .bool true)])
      state)).UniqueKeys :=
    uniqueKeys_setDefault h ⟨List.nodup_singleton _, trivial, trivial⟩
  exact uniqueKeys_setDefault hpersonal (uniqueKeys_storeValue (uniqueStore_teamStore hpersonal))

/-- Writes a digest to where it is kept. -/
def stampWith (digest : Value) (state : Fields) : Fields :=
  mirror (Dict.set "desired_state_digest" digest) "reconciliation"
    (Dict.set "desired_state_digest" digest state)

theorem stampDigest_eq (P : Platform) (state : Fields) :
    stampDigest P state = stampWith (.str (stateDigest P state)) state :=
  rfl

theorem uniqueKeys_stampWith (h : (Value.dict state).UniqueKeys) (hdigest : digest.UniqueKeys) :
    (Value.dict (stampWith digest state)).UniqueKeys :=
  uniqueKeys_mirror (uniqueKeys_set h hdigest) fun _ hfields => uniqueKeys_set hfields hdigest

theorem uniqueKeys_firstState : (Value.dict firstState).UniqueKeys := by
  apply And.intro (by decide)
  rw [Value.uniqueFields_iff]
  intro p hp
  simp only [firstState, List.mem_cons, List.not_mem_nil, or_false] at hp
  rcases hp with rfl | rfl | rfl | rfl | rfl | rfl | rfl
  · exact ⟨List.nodup_singleton _, trivial, trivial⟩
  · trivial
  · trivial
  · trivial
  · trivial
  · exact uniqueKeys_nil
  · exact ⟨List.nodup_singleton _, trivial, trivial⟩

theorem lookup_stampWith (digest : Value) (state : Fields) (key : String) :
    (stampWith digest state).lookup key =
      if key = "reconciliation" then
        mirrored (Dict.set "desired_state_digest" digest) (state.lookup "reconciliation")
      else if "desired_state_digest" = key then some digest else state.lookup key := by
  rw [stampWith, lookup_mirror, Dict.lookup_set_of_ne (by decide), Dict.lookup_set]

end ExternalIntelligence
