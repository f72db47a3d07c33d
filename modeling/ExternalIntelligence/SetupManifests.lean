import ExternalIntelligence.SetupRuns

namespace ExternalIntelligence
set_option autoImplicit true

open Value (ordered ordered_dict ordered_dict_eq_iff)

def storesSite : MirrorSite where
  key := "knowledge_stores"
  Place := String
  shape _ := false
  view fields name := fields.lookup name
  place _ kind := kind.name
  write kind v fields := Dict.set kind.name v fields
  shape_write _ _ _ := rfl
  view_place _ _ _ := Dict.lookup_set_self _ _ _
  view_other _ _ _ _ h := Dict.lookup_set_of_ne h _ _
  place_inj _ kind other h := by
    revert h
    cases kind <;> cases other <;> decide
  lookup_setStore := lookup_setStore_stores

/-- A value of a manifest: one of its own, or one of the stores that are kept together. -/
inductive ManifestPlace where
  | top (name : String)
  | nested (name : String)
deriving DecidableEq

/-- Whether a manifest keeps its stores together. -/
def nests (manifest : Fields) : Bool :=
  (mapping? (getOr manifest "knowledge_stores" .none)).isSome

/-- What a manifest is made of; the mapping of the stores counts as empty among its own values. -/
def viewOf (manifest : Fields) : ManifestPlace → Option Value
  | .top name =>
    if name = "knowledge_stores" ∧ nests manifest = true then some (.dict [])
    else manifest.lookup name
  | .nested name =>
    (mapping? (getOr manifest "knowledge_stores" .none)).bind fun stores => stores.lookup name

/-- Where a manifest has a store. -/
def storePlace (nested : Bool) (kind : StoreKind) : ManifestPlace :=
  if nested then .nested kind.name else .top kind.name

theorem nests_eq_true_iff {manifest : Fields} : nests manifest = true ↔
    ∃ stores, manifest.lookup "knowledge_stores" = some (.dict stores) := by
  rw [nests, Option.isSome_iff_exists]
  simp only [mapping_getOr]

theorem nests_of_lookup (h : manifest.lookup "knowledge_stores" = some v) :
    nests manifest = (mapping? v).isSome := by
  rw [nests, getOr, h, Option.getD_some]

theorem viewOf_nested (h : manifest.lookup "knowledge_stores" = some (.dict stores))
    (name : String) : viewOf manifest (.nested name) = stores.lookup name := by
  rw [viewOf, mapping_getOr.2 h, Option.bind_some]

theorem viewOf_nested_of_not_nests (h : nests manifest = false) (name : String) :
    viewOf manifest (.nested name) = none := by
  rw [viewOf, Option.isSome_eq_false_iff.1 h |> Option.isNone_iff_eq_none.1, Option.bind_none]

theorem viewOf_stores (h : nests manifest = true) :
    viewOf manifest (.top "knowledge_stores") = some (.dict []) :=
  if_pos ⟨rfl, h⟩

theorem viewOf_top (h : name ≠ "knowledge_stores" ∨ nests manifest = false) :
    viewOf manifest (.top name) = manifest.lookup name := by
  apply if_neg
  rintro ⟨hname, hnests⟩
  cases h with
  | inl h => exact h hname
  | inr h => exact Bool.false_ne_true (h.symm.trans hnests)

theorem StoreKind.name_ne_stores (kind : StoreKind) : kind.name ≠ "knowledge_stores" := by
  cases kind <;> decide

theorem setManifestStore_nested
    (h : manifest.lookup "knowledge_stores" = some (.dict stores)) (name : String) (v : Value) :
    setManifestStore manifest name v =
      Dict.set "knowledge_stores" (.dict (Dict.set name v stores)) manifest := by
  rw [setManifestStore, mapping_getOr.2 h]

theorem setManifestStore_top (h : nests manifest = false) (name : String) (v : Value) :
    setManifestStore manifest name v = Dict.set name v manifest := by
  rw [setManifestStore, Option.isSome_eq_false_iff.1 h |> Option.isNone_iff_eq_none.1]

theorem nests_setManifestStore (kind : StoreKind) (v : Value) (manifest : Fields) :
    nests (setManifestStore manifest kind.name v) = nests manifest := by
  cases h : nests manifest with
  | true =>
    obtain ⟨stores, hstores⟩ := nests_eq_true_iff.1 h
    rw [setManifestStore_nested hstores, nests_eq_true_iff]
    exact ⟨_, Dict.lookup_set_self _ _ _⟩
  | false =>
    rw [setManifestStore_top h, nests, getOr, Dict.lookup_set_of_ne kind.name_ne_stores]
    exact h

theorem viewOf_setManifestStore (kind : StoreKind) (v : Value) (manifest : Fields)
    (p : ManifestPlace) : viewOf (setManifestStore manifest kind.name v) p =
      if storePlace (nests manifest) kind = p then some v else viewOf manifest p := by
  have hnests := nests_setManifestStore kind v manifest
  cases h : nests manifest with
  | true =>
    rw [h] at hnests
    obtain ⟨stores, hstores⟩ := nests_eq_true_iff.1 h
    have hset := setManifestStore_nested hstores kind.name v
    cases p with
    | top name =>
      rw [storePlace, if_pos rfl, if_neg nofun]
      by_cases hname : name = "knowledge_stores"
      · rw [hname, viewOf_stores hnests, viewOf_stores h]
      · rw [viewOf_top (.inl hname), viewOf_top (.inl hname), hset,
          Dict.lookup_set_of_ne (Ne.symm hname)]
    | nested name =>
      rw [storePlace, if_pos rfl, viewOf_nested hstores,
        viewOf_nested (hset ▸ Dict.lookup_set_self _ _ _), Dict.lookup_set]
      simp only [ManifestPlace.nested.injEq]
  | false =>
    rw [h] at hnests
    rw [storePlace, if_neg Bool.false_ne_true]
    cases p with
    | top name =>
      rw [viewOf_top (.inr hnests), viewOf_top (.inr h), setManifestStore_top h, Dict.lookup_set]
      simp only [ManifestPlace.top.injEq]
    | nested name =>
      rw [viewOf_nested_of_not_nests hnests, viewOf_nested_of_not_nests h, if_neg nofun]

def manifestSite : MirrorSite where
  key := "manifest"
  Place := ManifestPlace
  shape := nests
  view := viewOf
  place := storePlace
  write kind v manifest := setManifestStore manifest kind.name v
  shape_write := nests_setManifestStore
  view_place kind v manifest := by rw [viewOf_setManifestStore, if_pos rfl]
  view_other kind v manifest p h := by rw [viewOf_setManifestStore, if_neg h]
  place_inj b kind other h := by
    revert h
    cases b <;> cases kind <;> cases other <;> decide
  lookup_setStore := lookup_setStore_manifest

/-- What merging an option makes of a place. -/
def mergedAt (given v : Option Value) : Option Value :=
  match given with
  | some u => some (mergedValue v u)
  | none => v

theorem lookup_merge (h : (Value.dict update).UniqueKeys) (base : Fields) (key : String) :
    (mergeMapping base update).lookup key = mergedAt (update.lookup key) (base.lookup key) := by
  rw [lookup_mergeMapping h.1]
  cases update.lookup key <;> rfl

/-- A manifest keeps its stores together if what is merged into it does. -/
def Fits (given manifest : Fields) : Prop :=
  ∀ v, given.lookup "knowledge_stores" = some v → nests manifest = (mapping? v).isSome

theorem mapping_mergeValue (old u : Value) :
    (mapping? (mergeValue old u)).isSome = (mapping? u).isSome := by
  cases u with
  | dict update => cases old <;> rfl
  | _ => rfl

theorem fits_merge (h : (Value.dict given).UniqueKeys) (base : Fields) :
    Fits given (mergeMapping base given) := by
  intro v hv
  have hlookup := lookup_merge h base "knowledge_stores"
  rw [hv, mergedAt] at hlookup
  rw [nests_of_lookup hlookup, mergedValue, mapping_mergeValue]

theorem fits_self (given : Fields) : Fits given given :=
  fun _ hv => nests_of_lookup hv

theorem nests_merge (h : (Value.dict given).UniqueKeys) (hfits : Fits given manifest) :
    nests (mergeMapping manifest given) = nests manifest := by
  have hlookup := lookup_merge h manifest "knowledge_stores"
  cases hgiven : given.lookup "knowledge_stores" with
  | none =>
    rw [hgiven, mergedAt] at hlookup
    rw [nests, nests, getOr, getOr, hlookup]
  | some v => rw [fits_merge h manifest v hgiven, hfits v hgiven]

/-- Merging into a manifest of the same shape merges into each of its places. -/
theorem viewOf_merge (h : (Value.dict given).UniqueKeys) (hfits : Fits given manifest)
    (p : ManifestPlace) : viewOf (mergeMapping manifest given) p =
      mergedAt (viewOf given p) (viewOf manifest p) := by
  have hnests := nests_merge h hfits
  have hstores := lookup_merge h manifest "knowledge_stores"
  cases hm : nests manifest with
  | false =>
    rw [hm] at hnests
    have hgiven : nests given = false := by
      cases hg : given.lookup "knowledge_stores" with
      | none => rw [nests, getOr, hg]; rfl
      | some v => rw [nests_of_lookup hg, ← hfits v hg, hm]
    cases p with
    | top name =>
      rw [viewOf_top (.inr hnests), viewOf_top (.inr hgiven), viewOf_top (.inr hm),
        lookup_merge h]
    | nested name =>
      rw [viewOf_nested_of_not_nests hnests, viewOf_nested_of_not_nests hgiven,
        viewOf_nested_of_not_nests hm, mergedAt]
  | true =>
    rw [hm] at hnests
    obtain ⟨stores, hmap⟩ := nests_eq_true_iff.1 hm
    cases hg : given.lookup "knowledge_stores" with
    | none =>
      have hgiven : nests given = false := by rw [nests, getOr, hg]; rfl
      rw [hg, mergedAt, hmap] at hstores
      cases p with
      | top name =>
        by_cases hname : name = "knowledge_stores"
        · rw [hname, viewOf_stores hnests, viewOf_stores hm, viewOf_top (.inr hgiven), hg, mergedAt]
        · rw [viewOf_top (.inl hname), viewOf_top (.inl hname), viewOf_top (.inl hname),
            lookup_merge h]
      | nested name =>
        rw [viewOf_nested hstores, viewOf_nested hmap, viewOf_nested_of_not_nests hgiven, mergedAt]
    | some v =>
      have hdict : (mapping? v).isSome = true := (hfits v hg).symm.trans hm
      obtain ⟨update, hupdate⟩ := Option.isSome_iff_exists.1 hdict
      obtain rfl := mapping_eq_some.1 hupdate
      have hgiven : nests given = true := nests_eq_true_iff.2 ⟨update, hg⟩
      rw [hg, hmap, mergedAt] at hstores
      cases p with
      | top name =>
        by_cases hname : name = "knowledge_stores"
        · rw [hname, viewOf_stores hnests, viewOf_stores hm, viewOf_stores hgiven]
          rfl
        · rw [viewOf_top (.inl hname), viewOf_top (.inl hname), viewOf_top (.inl hname),
            lookup_merge h]
      | nested name =>
        rw [viewOf_nested hmap, viewOf_nested hg,
          viewOf_nested (show (mergeMapping manifest given).lookup "knowledge_stores" =
            some (.dict (mergeMapping stores update)) from hstores),
          lookup_merge (uniqueKeys_lookup h hg)]

theorem viewOf_nested_eq_some (h : viewOf manifest (.nested name) = some v) :
    ∃ stores, manifest.lookup "knowledge_stores" = some (.dict stores) ∧
      stores.lookup name = some v := by
  cases hnests : nests manifest with
  | false =>
    rw [viewOf_nested_of_not_nests hnests] at h
    cases h
  | true =>
    obtain ⟨stores, hstores⟩ := nests_eq_true_iff.1 hnests
    exact ⟨stores, hstores, (viewOf_nested hstores name).symm.trans h⟩

theorem viewOf_mergeMapping (h : (Value.dict given).UniqueKeys) (base : Fields)
    (hu : viewOf given p = some u) :
    ∃ old, viewOf (mergeMapping base given) p = some (mergedValue old u) := by
  have hlookup := lookup_merge h base
  cases p with
  | top name =>
    by_cases hname : name = "knowledge_stores"
    · subst hname
      cases hnests : nests given with
      | true =>
        obtain ⟨stores, hstores⟩ := nests_eq_true_iff.1 hnests
        rw [viewOf_stores hnests] at hu
        obtain rfl := Option.some.inj hu
        apply Exists.intro none
        rw [viewOf_stores (fits_merge h base _ hstores)]
        rfl
      | false =>
        rw [viewOf_top (.inr hnests)] at hu
        have hmerged := fits_merge h base u hu
        rw [← nests_of_lookup hu, hnests] at hmerged
        apply Exists.intro (base.lookup "knowledge_stores")
        rw [viewOf_top (.inr hmerged), hlookup, hu, mergedAt]
    · rw [viewOf_top (.inl hname)] at hu
      apply Exists.intro (base.lookup name)
      rw [viewOf_top (.inl hname), hlookup, hu, mergedAt]
  | nested name =>
    obtain ⟨update, hupdate, hu⟩ := viewOf_nested_eq_some hu
    have hstores := hlookup "knowledge_stores"
    rw [hupdate, mergedAt, mergedValue] at hstores
    cases hbase : (base.lookup "knowledge_stores").getD .none with
    | dict stores =>
      rw [hbase, mergeValue] at hstores
      apply Exists.intro (stores.lookup name)
      rw [viewOf_nested hstores, lookup_merge (uniqueKeys_lookup h hupdate), hu, mergedAt]
    | _ =>
      rw [hbase, mergeValue] at hstores
      · apply Exists.intro none
        rw [viewOf_nested hstores, hu, mergedValue, Option.getD_none, mergeValue_none]
      · exact nofun

/-- What was merged into a manifest is in each of its places. -/
theorem viewOf_merged (h : (Value.dict given).UniqueKeys)
    (hmerged : mergedValue v (.dict given) = .dict manifest) (hu : viewOf given p = some u) :
    ∃ old, viewOf manifest p = some (mergedValue old u) := by
  rw [mergedValue] at hmerged
  cases hv : v.getD .none with
  | dict base =>
    rw [hv, mergeValue] at hmerged
    rw [← Value.dict.inj hmerged]
    exact viewOf_mergeMapping h base hu
  | _ =>
    rw [hv, mergeValue] at hmerged
    · apply Exists.intro none
      rw [← Value.dict.inj hmerged, hu, mergedValue, Option.getD_none, mergeValue_none]
    · exact nofun

theorem fits_merged (h : (Value.dict given).UniqueKeys)
    (hmerged : mergedValue v (.dict given) = .dict manifest) : Fits given manifest := by
  rw [mergedValue] at hmerged
  cases hv : v.getD .none with
  | dict base =>
    rw [hv, mergeValue] at hmerged
    rw [← Value.dict.inj hmerged]
    exact fits_merge h base
  | _ =>
    rw [hv, mergeValue] at hmerged
    · rw [← Value.dict.inj hmerged]
      exact fits_self given
    · exact nofun

theorem uniqueKeys_viewOf (h : (Value.dict manifest).UniqueKeys) (hv : viewOf manifest p = some v) :
    v.UniqueKeys := by
  cases p with
  | top name =>
    rw [viewOf] at hv
    split at hv
    · obtain rfl := Option.some.inj hv
      exact ⟨List.nodup_nil, trivial⟩
    · exact uniqueKeys_lookup h hv
  | nested name =>
    obtain ⟨stores, hstores, hv⟩ := viewOf_nested_eq_some hv
    exact uniqueKeys_lookup (uniqueKeys_lookup h hstores) hv

/-- A place into which an option was merged stays as it is when the option is merged again. -/
theorem mergedAt_merged (h : (Value.dict given).UniqueKeys)
    (hmerged : mergedValue v (.dict given) = .dict manifest) (p : ManifestPlace) :
    mergedAt (viewOf given p) (viewOf manifest p) = viewOf manifest p := by
  cases hu : viewOf given p with
  | none => rfl
  | some u =>
    obtain ⟨old, hold⟩ := viewOf_merged h hmerged hu
    rw [mergedAt, hold, mergedValue_mergedValue (uniqueKeys_viewOf h hu)]

theorem ordered_eq_dict (h : ordered v = ordered (.dict fields)) : ∃ others, v = .dict others := by
  cases v with
  | dict others => exact ⟨others, rfl⟩
  | _ => rw [ordered_dict] at h; cases h

/-- Manifests are the same but for the order of keys when all of their places are. -/
theorem ordered_manifest_iff (ha : (Value.dict a).UniqueKeys) (hb : (Value.dict b).UniqueKeys)
    (hnests : nests a = nests b) : ordered (.dict a) = ordered (.dict b) ↔
      ∀ p, (viewOf a p).map ordered = (viewOf b p).map ordered := by
  rw [ordered_dict_eq_iff ha.1 hb.1]
  apply Iff.intro
  · intro h p
    cases p with
    | top name =>
      rw [viewOf, viewOf, hnests]
      split
      · rfl
      · exact h name
    | nested name =>
      cases hn : nests b with
      | false =>
        rw [viewOf_nested_of_not_nests hn, viewOf_nested_of_not_nests (hnests.trans hn)]
      | true =>
        obtain ⟨as, has⟩ := nests_eq_true_iff.1 (hnests.trans hn)
        obtain ⟨bs, hbs⟩ := nests_eq_true_iff.1 hn
        have hstores := h "knowledge_stores"
        rw [has, hbs, Option.map_some, Option.map_some, Option.some.injEq,
          ordered_dict_eq_iff (uniqueKeys_lookup ha has).1 (uniqueKeys_lookup hb hbs).1] at hstores
        rw [viewOf_nested has, viewOf_nested hbs, hstores]
  · intro h key
    by_cases hkey : key = "knowledge_stores" ∧ nests b = true
    · obtain ⟨rfl, hn⟩ := hkey
      obtain ⟨as, has⟩ := nests_eq_true_iff.1 (hnests.trans hn)
      obtain ⟨bs, hbs⟩ := nests_eq_true_iff.1 hn
      rw [has, hbs, Option.map_some, Option.map_some, Option.some.injEq,
        ordered_dict_eq_iff (uniqueKeys_lookup ha has).1 (uniqueKeys_lookup hb hbs).1]
      intro name
      have hname := h (.nested name)
      rwa [viewOf_nested has, viewOf_nested hbs] at hname
    · have hname := h (.top key)
      rwa [viewOf, viewOf, hnests, if_neg hkey, if_neg hkey] at hname

end ExternalIntelligence
