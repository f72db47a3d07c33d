import ExternalIntelligence.SetupWrites

namespace ExternalIntelligence
set_option autoImplicit true

theorem set_eq_self {fields : Fields} (h : fields.lookup key = some v) :
    Dict.set key v fields = fields := by
  induction fields with
  | nil => cases h
  | cons p fields ih =>
    obtain ⟨name, w⟩ := p
    rw [Dict.lookup_cons] at h
    rw [Dict.set]
    by_cases hname : name = key
    · rw [if_pos hname] at h
      rw [if_pos hname, ← hname, Option.some.inj h]
    · rw [if_neg hname] at h
      rw [if_neg hname, ih h]

theorem mergeValue_none (u : Value) : mergeValue .none u = u := by
  cases u <;> rfl

theorem lookup_mergeMapping {update : Fields} (h : (Dict.keys update).Nodup) (base : Fields)
    (key : String) : (mergeMapping base update).lookup key =
      match update.lookup key with
      | some u => some (mergeValue (getOr base key .none) u)
      | none => base.lookup key := by
  induction update generalizing base with
  | nil => rfl
  | cons p update ih =>
    obtain ⟨name, u⟩ := p
    have h' := List.nodup_cons.1 h
    rw [mergeMapping, ih h'.2, Dict.lookup_cons]
    by_cases hname : name = key
    · subst hname
      rw [Dict.lookup_eq_none_iff.2 h'.1, if_pos rfl]
      exact Dict.lookup_set_self _ _ _
    · rw [if_neg hname, getOr, Dict.lookup_set_of_ne hname]
      rfl

/-- Merging what is there already changes nothing. -/
theorem mergeMapping_eq_self {update : Fields}
    (h : ∀ p ∈ update, ∃ v, fields.lookup p.1 = some v ∧ mergeValue v p.2 = v) :
    mergeMapping fields update = fields := by
  induction update with
  | nil => rfl
  | cons p update ih =>
    obtain ⟨name, u⟩ := p
    obtain ⟨v, hv, hmerge⟩ := h (name, u) List.mem_cons_self
    have hset : Dict.set name (mergeValue (getOr fields name .none) u) fields = fields := by
      rw [getOr, hv, Option.getD_some, hmerge]
      exact set_eq_self hv
    rw [mergeMapping, hset]
    exact ih fun q hq => h q (List.mem_cons_of_mem _ hq)

mutual

theorem mergeValue_mergeValue : ∀ u : Value, u.UniqueKeys → ∀ v,
    mergeValue (mergeValue v u) u = mergeValue v u
  | .none, _, _ | .bool _, _, _ | .int _, _, _ | .float _, _, _ | .str _, _, _ | .list _, _, _
  | .tuple _, _, _ => rfl
  | .dict update, h, v => by
    have hfields (fields : Fields) (hlookup : ∀ p ∈ update, ∃ w,
        fields.lookup p.1 = some (mergeValue w p.2)) : mergeMapping fields update = fields := by
      apply mergeMapping_eq_self
      intro p hp
      obtain ⟨w, hw⟩ := hlookup p hp
      exact ⟨_, hw, mergeValue_mergeFields update h.2 p hp w⟩
    have hupdate : mergeMapping update update = update := by
      apply hfields
      intro p hp
      apply Exists.intro Value.none
      rw [mergeValue_none]
      exact Dict.lookup_of_mem h.1 hp
    cases v with
    | dict base =>
      apply congrArg Value.dict
      apply hfields
      intro p hp
      apply Exists.intro (getOr base p.1 .none)
      rw [lookup_mergeMapping h.1, Dict.lookup_of_mem h.1 hp]
    | _ => exact congrArg Value.dict hupdate

theorem mergeValue_mergeFields : ∀ update : Fields, Value.UniqueFields update →
    ∀ p ∈ update, ∀ v, mergeValue (mergeValue v p.2) p.2 = mergeValue v p.2
  | [], _, p, hp, _ => (List.not_mem_nil hp).elim
  | (name, u) :: update, h, p, hp, v => by
    cases List.mem_cons.1 hp with
    | inl he =>
      rw [he]
      exact mergeValue_mergeValue u h.1 v
    | inr hp => exact mergeValue_mergeFields update h.2 p hp v

end

/-- What an option is merged to, where there may be no value yet. -/
def mergedValue (v : Option Value) (u : Value) : Value :=
  mergeValue (v.getD .none) u

theorem mergedValue_mergedValue (h : u.UniqueKeys) (v : Option Value) :
    mergedValue (some (mergedValue v u)) u = mergedValue v u :=
  mergeValue_mergeValue u h _

/-- What a write does to the value of a key that holds no store. -/
def Write.plainEdit (key : String) (syncs : Bool) : Write → Edit Value
  | put name v => if name = key then .put (some v) else .keep
  | knowledgeRoot v => if key = "knowledge_root" ∧ syncs = true then .put (some v) else .keep
  | merge name v => if name = key then .merge v else .keep
  | store _ _ => .keep

theorem lookup_apply_plain (h : key ∉ storeKeys) (w : Write) (state : Fields) :
    (w.apply state).lookup key =
      (w.plainEdit key (syncsRoot state)).apply mergedValue (state.lookup key) := by
  cases w with
  | put name v =>
    rw [Write.apply, Write.plainEdit, Dict.lookup_set]
    split
    · rfl
    · rfl
  | knowledgeRoot v =>
    rw [Write.apply, Write.plainEdit]
    cases syncsRoot state with
    | false =>
      rw [if_neg Bool.false_ne_true, if_neg fun h => Bool.false_ne_true h.2]
      rfl
    | true =>
      rw [if_pos rfl, Dict.lookup_set]
      by_cases hkey : key = "knowledge_root"
      · rw [if_pos hkey.symm, if_pos ⟨hkey, rfl⟩]
        rfl
      · rw [if_neg (Ne.symm hkey), if_neg fun h => hkey h.1]
        rfl
  | merge name v =>
    rw [Write.apply, Write.plainEdit, setOption, Dict.lookup_set]
    by_cases hname : name = key
    · rw [if_pos hname, if_pos hname, ← hname]
      rfl
    · rw [if_neg hname, if_neg hname]
      rfl
  | store kind edit => exact lookup_setStore_of_plain h state kind _

theorem ne_of_not_reserved (h : name ∉ reservedKeys) (hkey : key ∈ reservedKeys) : name ≠ key := by
  rintro rfl
  exact h hkey

theorem syncsRoot_apply (h : Write.Proper w) (state : Fields) :
    syncsRoot (w.apply state) = syncsRoot state := by
  have hcongr {after : Fields} (hroot : after.lookup "knowledge_root" =
      state.lookup "knowledge_root") (hpersonal : after.lookup "personal_root" =
      state.lookup "personal_root") : syncsRoot after = syncsRoot state := by
    rw [syncsRoot, syncsRoot, hroot, hpersonal]
  cases w with
  | put name v =>
    have hname := (putKeys_not_reserved name h).1
    apply hcongr
    · exact Dict.lookup_set_of_ne (ne_of_not_reserved hname (by decide)) v state
    · exact Dict.lookup_set_of_ne (ne_of_not_reserved hname (by decide)) v state
  | knowledgeRoot v =>
    rw [Write.apply]
    split
    · rename_i hsyncs
      rw [hsyncs, syncsRoot, Dict.lookup_set_self]
      rfl
    · rfl
  | merge name v =>
    apply hcongr
    · exact Dict.lookup_set_of_ne (ne_of_not_reserved h (by decide)) _ state
    · exact Dict.lookup_set_of_ne (ne_of_not_reserved h (by decide)) _ state
  | store kind edit =>
    apply hcongr
    · exact lookup_setStore_of_plain (by decide) state kind _
    · exact lookup_setStore_of_plain (by decide) state kind _

theorem syncsRoot_runWrites (h : ∀ w ∈ writes, Write.Proper w) (state : Fields) :
    syncsRoot (runWrites writes state) = syncsRoot state := by
  induction writes generalizing state with
  | nil => rfl
  | cons w writes ih =>
    rw [runWrites_cons, ih (fun v hv => h v (List.mem_cons_of_mem _ hv)),
      syncsRoot_apply (h w List.mem_cons_self)]

theorem lookup_runWrites_plain (h : ∀ w ∈ writes, Write.Proper w) (hkey : key ∉ storeKeys)
    (state : Fields) : (runWrites writes state).lookup key =
      Edit.run mergedValue (writes.map (Write.plainEdit key (syncsRoot state)))
        (state.lookup key) := by
  induction writes generalizing state with
  | nil => rfl
  | cons w writes ih =>
    rw [runWrites_cons, ih (fun v hv => h v (List.mem_cons_of_mem _ hv)),
      syncsRoot_apply (h w List.mem_cons_self), lookup_apply_plain hkey, List.map_cons,
      Edit.run_cons]

theorem merge_of_plainEdit {writes : List Write}
    (h : Edit.merge u ∈ writes.map (Write.plainEdit key syncs)) :
    .merge key u ∈ writes := by
  obtain ⟨w, hw, he⟩ := List.mem_map.1 h
  cases w with
  | put name v =>
    rw [Write.plainEdit] at he
    split at he <;> cases he
  | knowledgeRoot v =>
    rw [Write.plainEdit] at he
    split at he <;> cases he
  | merge name v =>
    rw [Write.plainEdit] at he
    split at he
    · rename_i hname
      cases he
      exact hname ▸ hw
    · cases he
  | store kind edit => cases he

/-- Writing the same again leaves the keys that hold no store as they are. -/
theorem lookup_rerun_plain (h : Steps writes) (hkey : key ∉ storeKeys)
    (hvalue : again.lookup key = (runWrites writes state).lookup key)
    (hsyncs : syncsRoot again = syncsRoot state) :
    (runWrites writes again).lookup key = again.lookup key := by
  rw [lookup_runWrites_plain h.proper hkey, hvalue, lookup_runWrites_plain h.proper hkey, hsyncs]
  apply Edit.run_run
  · intro u v hu hv
    exact h.merges key u v (merge_of_plainEdit hu) (merge_of_plainEdit hv)
  · intro x u hu
    exact mergedValue_mergedValue (h.unique _ (merge_of_plainEdit hu)) x

theorem mapping_storeValue (store : Option Fields) : mapping? (storeValue store) = store := by
  cases store <;> rfl

/-- A state holds a store where it is looked for first. -/
structure HasStore (state : Fields) (kind : StoreKind) (store : Option Fields) : Prop where
  lookup : state.lookup kind.name = some (storeValue store)
  given : kind = .personal → store.isSome

theorem HasStore.storeOf (h : HasStore state kind store) : storeOf state kind = store := by
  cases kind with
  | personal =>
    obtain ⟨fields, rfl⟩ := Option.isSome_iff_exists.1 (h.given rfl)
    have hmapping : mapping? (getOr state "personal" .none) = some fields :=
      mapping_getOr.2 h.lookup
    rw [ExternalIntelligence.storeOf, personalStore, stateSources, List.findSome?_cons, hmapping,
      Option.some_or]
  | team =>
    have hsource : teamSource state = some store := by
      have hteam : state.lookup "team" = some (storeValue store) := h.lookup
      rw [teamSource, hteam]
      exact congrArg some (mapping_storeValue store)
    rw [ExternalIntelligence.storeOf, teamStore, stateSources, List.findSome?_cons, hsource,
      Option.join_some]

/-- What a write does to a store. -/
def Write.onStore (kind : StoreKind) (given : Option Fields) : Write → Option Fields
  | store other edit => if other = kind then edit.apply given else given
  | _ => given

def runStore (kind : StoreKind) (writes : List Write) (given : Option Fields) : Option Fields :=
  writes.foldl (Write.onStore kind) given

theorem runStore_cons (kind : StoreKind) (w : Write) (ws : List Write) (given : Option Fields) :
    runStore kind (w :: ws) given = runStore kind ws (w.onStore kind given) :=
  rfl

theorem onStore_of_not_touches {w : Write} (h : w.touches kind = false) (given : Option Fields) :
    w.onStore kind given = given := by
  cases w with
  | store other edit => exact if_neg (of_decide_eq_false h)
  | _ => rfl

theorem runStore_of_not_touches {ws : List Write} (h : ws.any (Write.touches kind) = false)
    (given : Option Fields) : runStore kind ws given = given := by
  induction ws with
  | nil => rfl
  | cons w ws ih =>
    rw [List.any_cons, Bool.or_eq_false_iff] at h
    rw [runStore_cons, onStore_of_not_touches h.1, ih h.2]

theorem StoreKind.name_reserved (kind : StoreKind) : kind.name ∈ reservedKeys := by
  cases kind <;> decide

theorem lookup_apply_name (hw : Write.Proper w) (h : w.touches kind = false) (state : Fields) :
    (w.apply state).lookup kind.name = state.lookup kind.name := by
  cases w with
  | put name v =>
    exact Dict.lookup_set_of_ne
      (ne_of_not_reserved (putKeys_not_reserved name hw).1 kind.name_reserved) v state
  | knowledgeRoot v =>
    rw [Write.apply]
    split
    · have hname : "knowledge_root" ≠ kind.name := by cases kind <;> decide
      exact Dict.lookup_set_of_ne hname v state
    · rfl
  | merge name v => exact Dict.lookup_set_of_ne (ne_of_not_reserved hw kind.name_reserved) _ state
  | store other edit =>
    rw [Write.apply, lookup_setStore_name, if_neg (of_decide_eq_false h)]

theorem hasStore_apply_store (hw : Write.Proper (.store kind edit)) (state : Fields) :
    HasStore ((Write.store kind edit).apply state) kind (edit.apply (storeOf state kind)) where
  lookup := by rw [Write.apply, lookup_setStore_name, if_pos rfl]
  given hkind := hw hkind _

theorem HasStore.apply (hw : Write.Proper w) (h : HasStore state kind store) :
    HasStore (w.apply state) kind (w.onStore kind store) := by
  cases htouch : w.touches kind with
  | false =>
    rw [onStore_of_not_touches htouch]
    exact ⟨(lookup_apply_name hw htouch state).trans h.lookup, h.given⟩
  | true =>
    cases w with
    | store other edit =>
      obtain rfl : other = kind := of_decide_eq_true htouch
      rw [Write.onStore, if_pos rfl, ← h.storeOf]
      exact hasStore_apply_store hw state
    | _ => cases htouch

theorem HasStore.runWrites (hw : ∀ w ∈ writes, Write.Proper w) (h : HasStore state kind store) :
    HasStore (runWrites writes state) kind (runStore kind writes store) := by
  induction writes generalizing state store with
  | nil => exact h
  | cons w writes ih =>
    exact ih (fun v hv => hw v (List.mem_cons_of_mem _ hv)) (h.apply (hw w List.mem_cons_self))

theorem lookup_runWrites_name (hw : ∀ w ∈ writes, Write.Proper w)
    (h : writes.any (Write.touches kind) = false) (state : Fields) :
    (runWrites writes state).lookup kind.name = state.lookup kind.name := by
  induction writes generalizing state with
  | nil => rfl
  | cons w writes ih =>
    rw [List.any_cons, Bool.or_eq_false_iff] at h
    rw [runWrites_cons, ih (fun v hv => hw v (List.mem_cons_of_mem _ hv)) h.2,
      lookup_apply_name (hw w List.mem_cons_self) h.1]

/-- A store that is written to is then where it is looked for first. -/
theorem exists_hasStore (hw : ∀ w ∈ writes, Write.Proper w)
    (h : writes.any (Write.touches kind) = true) (state : Fields) :
    ∃ store, HasStore (runWrites writes state) kind (runStore kind writes store) := by
  induction writes generalizing state with
  | nil => cases h
  | cons w writes ih =>
    have hrest (v : Write) (hv : v ∈ writes) : v.Proper := hw v (List.mem_cons_of_mem _ hv)
    cases htouch : w.touches kind with
    | false =>
      rw [List.any_cons, htouch, Bool.false_or] at h
      obtain ⟨store, hstore⟩ := ih hrest h (w.apply state)
      apply Exists.intro store
      rw [runStore_cons, onStore_of_not_touches htouch]
      exact hstore
    | true =>
      cases w with
      | store other edit =>
        obtain rfl : other = kind := of_decide_eq_true htouch
        apply Exists.intro (storeOf state other)
        rw [runStore_cons, Write.onStore, if_pos rfl]
        exact (hasStore_apply_store (hw _ List.mem_cons_self) state).runWrites hrest
      | _ => cases htouch

/-- A field of a store, if there is a store and it has the field. -/
def storeField (store : Option Fields) (name : String) : Option Value :=
  (store.getD []).lookup name

/-- What an edit of a store does to one of its fields. -/
def StoreEdit.fieldEdit (name : String) : StoreEdit → Edit Value
  | field key v => if key = name then .put (some v) else .keep
  | rooted v =>
    if name = "root" then .put (some v)
    else if name = "enabled" then .fill (.bool true) else .keep
  | merge update =>
    match update.lookup name with
    | some u => .merge u
    | none => .keep
  | reset given => .put (storeField given name)
  | enable enabled =>
    if name = "status" then .put (some (.str (if enabled then "READY" else "DISABLED")))
    else if name = "enabled" then .put (some (.bool enabled)) else .keep

theorem lookup_setDefault (key name : String) (v : Value) (fields : Fields) :
    (setDefault key v fields).lookup name =
      if name = key then some ((fields.lookup key).getD v) else fields.lookup name := by
  rw [setDefault]
  cases h : fields.lookup key with
  | none =>
    rw [Option.isSome_none, if_neg Bool.false_ne_true, Dict.lookup_set, Option.getD_none]
    simp only [eq_comm]
  | some w =>
    rw [Option.isSome_some, if_pos rfl, Option.getD_some]
    split
    · rename_i he
      exact he ▸ h
    · rfl

theorem storeField_apply {edit : StoreEdit} (h : edit.Unique) (store : Option Fields)
    (name : String) : storeField (edit.apply store) name =
      (edit.fieldEdit name).apply mergedValue (storeField store name) := by
  cases edit with
  | field key v =>
    rw [StoreEdit.apply, StoreEdit.fieldEdit, storeField, Option.getD_some, Dict.lookup_set]
    split
    · rfl
    · rfl
  | rooted v =>
    rw [StoreEdit.apply, StoreEdit.fieldEdit, storeField, Option.getD_some, lookup_setDefault,
      Dict.lookup_set_of_ne (show "root" ≠ "enabled" by decide), Dict.lookup_set]
    by_cases hroot : name = "root"
    · rw [hroot, if_neg (show "root" ≠ "enabled" by decide), if_pos rfl, if_pos rfl]
      rfl
    · rw [if_neg (Ne.symm hroot), if_neg hroot]
      by_cases henabled : name = "enabled"
      · rw [henabled, if_pos rfl, if_pos rfl]
        rfl
      · rw [if_neg henabled, if_neg henabled]
        rfl
  | merge update =>
    rw [StoreEdit.apply, StoreEdit.fieldEdit, storeField, Option.getD_some,
      lookup_mergeMapping h.1]
    cases update.lookup name with
    | none => rfl
    | some u => rfl
  | reset given => rfl
  | enable enabled =>
    rw [StoreEdit.apply, StoreEdit.fieldEdit, storeField, Option.getD_some, Dict.lookup_set,
      Dict.lookup_set]
    by_cases hstatus : name = "status"
    · rw [if_pos hstatus.symm, if_pos hstatus]
      rfl
    · rw [if_neg (Ne.symm hstatus), if_neg hstatus]
      by_cases henabled : name = "enabled"
      · rw [if_pos henabled.symm, if_pos henabled]
        rfl
      · rw [if_neg (Ne.symm henabled), if_neg henabled]
        rfl

def Write.fieldEdit (kind : StoreKind) (name : String) : Write → Edit Value
  | store other edit => if other = kind then edit.fieldEdit name else .keep
  | _ => .keep

theorem storeField_onStore {w : Write} (h : w.Unique) (kind : StoreKind) (store : Option Fields)
    (name : String) : storeField (w.onStore kind store) name =
      (w.fieldEdit kind name).apply mergedValue (storeField store name) := by
  cases w with
  | store other edit =>
    rw [Write.onStore, Write.fieldEdit]
    split
    · exact storeField_apply h store name
    · rfl
  | _ => rfl

theorem storeField_runStore (h : ∀ w ∈ writes, Write.Unique w) (kind : StoreKind)
    (store : Option Fields) (name : String) : storeField (runStore kind writes store) name =
      Edit.run mergedValue (writes.map (Write.fieldEdit kind name)) (storeField store name) := by
  induction writes generalizing store with
  | nil => rfl
  | cons w writes ih =>
    rw [runStore_cons, ih (fun v hv => h v (List.mem_cons_of_mem _ hv)),
      storeField_onStore (h w List.mem_cons_self), List.map_cons, Edit.run_cons]

theorem merge_of_fieldEdit {writes : List Write}
    (h : Edit.merge u ∈ writes.map (Write.fieldEdit kind name)) :
    ∃ update, .store kind (.merge update) ∈ writes ∧ update.lookup name = some u := by
  obtain ⟨w, hw, he⟩ := List.mem_map.1 h
  cases w with
  | store other edit =>
    rw [Write.fieldEdit] at he
    split at he
    · rename_i hkind
      subst hkind
      cases edit with
      | merge update =>
        rw [StoreEdit.fieldEdit] at he
        cases hlookup : update.lookup name with
        | none =>
          rw [hlookup] at he
          cases he
        | some v =>
          rw [hlookup] at he
          cases he
          exact ⟨update, hw, hlookup⟩
      | field key v =>
        rw [StoreEdit.fieldEdit] at he
        split at he <;> cases he
      | rooted v =>
        rw [StoreEdit.fieldEdit] at he
        split at he
        · cases he
        · split at he <;> cases he
      | reset given => cases he
      | enable enabled =>
        rw [StoreEdit.fieldEdit] at he
        split at he
        · cases he
        · split at he <;> cases he
    · cases he
  | _ => cases he

/-- Two stores have the same fields. -/
structure SameStore (a b : Option Fields) : Prop where
  isSome : a.isSome = b.isSome
  field : ∀ name, storeField a name = storeField b name

theorem isSome_runStore {writes : List Write} (h : writes.any (Write.touches kind) = true)
    (a b : Option Fields) :
    (runStore kind writes a).isSome = (runStore kind writes b).isSome := by
  induction writes generalizing a b with
  | nil => cases h
  | cons w writes ih =>
    rw [runStore_cons, runStore_cons]
    cases hrest : writes.any (Write.touches kind) with
    | true => exact ih hrest _ _
    | false =>
      rw [runStore_of_not_touches hrest, runStore_of_not_touches hrest]
      rw [List.any_cons, hrest, Bool.or_false] at h
      cases w with
      | store other edit =>
        rw [Write.onStore, Write.onStore, if_pos (of_decide_eq_true h),
          if_pos (of_decide_eq_true h)]
        cases edit <;> rfl
      | _ => cases h

/-- Writing the same to a store again leaves its fields as they are. -/
theorem rerun_store (h : Steps writes) (kind : StoreKind) (store : Option Fields) :
    SameStore (runStore kind writes (runStore kind writes store)) (runStore kind writes store) where
  isSome := by
    cases htouch : writes.any (Write.touches kind) with
    | true => exact isSome_runStore htouch _ _
    | false => rw [runStore_of_not_touches htouch, runStore_of_not_touches htouch]
  field name := by
    rw [storeField_runStore h.unique, storeField_runStore h.unique]
    apply Edit.run_run
    · intro u v hu hv
      obtain ⟨a, ha, hu⟩ := merge_of_fieldEdit hu
      obtain ⟨b, hb, hv⟩ := merge_of_fieldEdit hv
      rw [h.storeMerges kind a b ha hb, hv] at hu
      exact (Option.some.inj hu).symm
    · intro x u hu
      obtain ⟨update, hmem, hu⟩ := merge_of_fieldEdit hu
      exact mergedValue_mergedValue (uniqueKeys_lookup (h.unique _ hmem) hu) x

/-- A mapping of a state in which the stores are written as well, and what it is made of: a store
has a place in it that depends on its shape alone. -/
structure MirrorSite where
  key : String
  Place : Type
  shape : Fields → Bool
  view : Fields → Place → Option Value
  place : Bool → StoreKind → Place
  write : StoreKind → Value → Fields → Fields
  shape_write : ∀ kind v fields, shape (write kind v fields) = shape fields
  view_place : ∀ kind v fields, view (write kind v fields) (place (shape fields) kind) = some v
  view_other : ∀ kind v fields p, place (shape fields) kind ≠ p →
    view (write kind v fields) p = view fields p
  place_inj : ∀ b kind other, place b kind = place b other → kind = other
  lookup_setStore : ∀ state kind store, (setStore state (StoreKind.name kind) store).lookup key =
    mirrored (write kind (storeValue store)) (state.lookup key)

/-- Whether a write leaves a key alone that stores are mirrored under. -/
def Write.Keeps (key : String) : Write → Prop
  | put name _ => name ≠ key
  | knowledgeRoot _ => "knowledge_root" ≠ key
  | merge name _ => name ≠ key
  | store _ _ => True

theorem lookup_apply_of_keeps (h : Write.Keeps key w) (hstore : ∀ kind edit, w ≠ .store kind edit)
    (state : Fields) : (w.apply state).lookup key = state.lookup key := by
  cases w with
  | put name v => exact Dict.lookup_set_of_ne h v state
  | knowledgeRoot v =>
    rw [Write.apply]
    split
    · exact Dict.lookup_set_of_ne h v state
    · rfl
  | merge name v => exact Dict.lookup_set_of_ne h _ state
  | store kind edit => exact (hstore kind edit rfl).elim

/-- What writes to some of the stores make of a mapping in which they are written as well. -/
structure Mirrors (site : MirrorSite) (touched : StoreKind → Bool) (state after : Fields) :
    Prop where
  other : (∀ fields, state.lookup site.key ≠ some (.dict fields)) →
    after.lookup site.key = state.lookup site.key
  mapping : ∀ fields, state.lookup site.key = some (.dict fields) →
    ∃ written, after.lookup site.key = some (.dict written) ∧
      site.shape written = site.shape fields ∧
      (∀ p, (∀ kind, touched kind = true → site.place (site.shape fields) kind ≠ p) →
        site.view written p = site.view fields p) ∧
      ∀ kind, touched kind = true →
        site.view written (site.place (site.shape fields) kind) = after.lookup kind.name

theorem Mirrors.of_keeps (h : Mirrors site touched middle after)
    (hkeeps : middle.lookup site.key = state.lookup site.key) :
    Mirrors site touched state after where
  other hother := by
    rw [← hkeeps] at hother ⊢
    exact h.other hother
  mapping fields hfields := h.mapping fields (hkeeps.trans hfields)

theorem Mirrors.of_store (hwrites : ∀ w ∈ writes, Write.Proper w)
    (h : Mirrors site (fun kind => writes.any (Write.touches kind)) (setStore state kind.name store)
      (runWrites writes (setStore state kind.name store))) :
    Mirrors site (fun other => decide (kind = other) || writes.any (Write.touches other)) state
      (runWrites writes (setStore state kind.name store)) where
  other hother := by
    have hsame := (site.lookup_setStore state kind store).trans (mirrored_eq_self hother)
    rw [h.other (hsame ▸ hother), hsame]
  mapping fields hfields := by
    have hset := site.lookup_setStore state kind store
    rw [hfields, mirrored] at hset
    obtain ⟨written, hwritten, hshape, hviews, hstores⟩ := h.mapping _ hset
    rw [site.shape_write] at hshape hviews hstores
    apply Exists.intro written
    apply And.intro hwritten
    apply And.intro hshape
    apply And.intro
    · intro p hp
      rw [hviews p fun other hother => hp other (Bool.or_eq_true_iff.2 (.inr hother))]
      exact site.view_other kind _ fields p (hp kind (Bool.or_eq_true_iff.2
        (.inl (decide_eq_true rfl))))
    · intro other hother
      cases htouch : writes.any (Write.touches other) with
      | true => exact hstores other htouch
      | false =>
        rw [htouch, Bool.or_false] at hother
        obtain rfl : kind = other := of_decide_eq_true hother
        rw [lookup_runWrites_name hwrites htouch, lookup_setStore_name, if_pos rfl,
          hviews _ fun other hother hplace => ?_, site.view_place]
        rw [site.place_inj _ _ _ hplace] at hother
        exact Bool.false_ne_true (htouch.symm.trans hother)

theorem MirrorSite.mirrors (site : MirrorSite) (hwrites : ∀ w ∈ writes, Write.Proper w)
    (hkeeps : ∀ w ∈ writes, Write.Keeps site.key w) (state : Fields) :
    Mirrors site (fun kind => writes.any (Write.touches kind)) state (runWrites writes state) := by
  induction writes generalizing state with
  | nil =>
    exact
      { other := fun _ => rfl
        mapping := fun fields hfields => ⟨fields, hfields, rfl, fun _ _ => rfl, nofun⟩ }
  | cons w writes ih =>
    have hrest (v : Write) (hv : v ∈ writes) : v.Proper :=
      hwrites v (List.mem_cons_of_mem _ hv)
    have hrun := ih hrest (fun v hv => hkeeps v (List.mem_cons_of_mem _ hv)) (w.apply state)
    cases w with
    | store kind edit => exact hrun.of_store hrest
    | _ =>
      exact hrun.of_keeps (lookup_apply_of_keeps (hkeeps _ List.mem_cons_self) nofun state)

end ExternalIntelligence
