import ExternalIntelligence.SetupChanges
import ExternalIntelligence.SetupConvergence

namespace ExternalIntelligence
set_option autoImplicit true

open Value (ordered ordered_dict ordered_dict_eq_iff)

/-- Values that differ in the order of keys at most. -/
structure Alike (v w : Value) : Prop where
  left : v.UniqueKeys
  right : w.UniqueKeys
  same : ordered v = ordered w

theorem Alike.lookup (h : Alike (.dict a) (.dict b)) (key : String) :
    Option.Rel Alike (a.lookup key) (b.lookup key) := by
  have hsame := (ordered_dict_eq_iff h.left.1 h.right.1).1 h.same key
  cases ha : a.lookup key with
  | none =>
    cases hb : b.lookup key with
    | none => exact .none
    | some w =>
      rw [ha, hb] at hsame
      cases hsame
  | some v =>
    cases hb : b.lookup key with
    | none =>
      rw [ha, hb] at hsame
      cases hsame
    | some w =>
      rw [ha, hb] at hsame
      exact .some ⟨uniqueKeys_lookup h.left ha, uniqueKeys_lookup h.right hb,
        Option.some.inj hsame⟩

theorem alike_getD (h : Option.Rel Alike v w) (hd : Alike d e) : Alike (v.getD d) (w.getD e) := by
  cases h with
  | none => exact hd
  | some h => exact h

theorem Alike.refl (h : v.UniqueKeys) : Alike v v :=
  ⟨h, h, rfl⟩

theorem Alike.symm (h : Alike v w) : Alike w v :=
  ⟨h.right, h.left, h.same.symm⟩

theorem alike_none : Alike .none .none :=
  .refl trivial

theorem Alike.getOr (h : Alike (.dict a) (.dict b)) (key : String) :
    Alike (getOr a key .none) (getOr b key .none) :=
  alike_getD (h.lookup key) alike_none

/-- Stores that differ in the order of keys at most. -/
def AlikeStores : Option Fields → Option Fields → Prop :=
  Option.Rel fun a b => Alike (.dict a) (.dict b)

theorem Alike.mapping (h : Alike v w) : AlikeStores (mapping? v) (mapping? w) := by
  cases v with
  | dict a =>
    obtain ⟨b, rfl⟩ := ordered_eq_dict h.same.symm
    exact .some h
  | _ =>
    cases w with
    | dict b =>
      obtain ⟨a, ha⟩ := ordered_eq_dict h.same
      cases ha
    | _ => exact .none

theorem rel_or {r : α → β → Prop} {a c : Option α} {b d : Option β} (h : Option.Rel r a b)
    (h' : Option.Rel r c d) : Option.Rel r (a.or c) (b.or d) := by
  cases h with
  | none => exact h'
  | some h => exact .some h

theorem rel_bind {r : α → β → Prop} {s : γ → δ → Prop} {a : Option α} {b : Option β}
    {f : α → Option γ} {g : β → Option δ} (h : Option.Rel r a b)
    (hfg : ∀ x y, r x y → Option.Rel s (f x) (g y)) : Option.Rel s (a.bind f) (b.bind g) := by
  cases h with
  | none => exact .none
  | some h => exact hfg _ _ h

theorem rel_map {r : α → β → Prop} {s : γ → δ → Prop} {a : Option α} {b : Option β}
    {f : α → γ} {g : β → δ} (h : Option.Rel r a b) (hfg : ∀ x y, r x y → s (f x) (g y)) :
    Option.Rel s (a.map f) (b.map g) := by
  cases h with
  | none => exact .none
  | some h => exact .some (hfg _ _ h)

theorem rel_join {r : α → β → Prop} {a : Option (Option α)} {b : Option (Option β)}
    (h : Option.Rel (Option.Rel r) a b) : Option.Rel r a.join b.join := by
  cases h with
  | none => exact .none
  | some h => exact h

theorem rel_isSome {r : α → β → Prop} {a : Option α} {b : Option β} (h : Option.Rel r a b) :
    a.isSome = b.isSome := by
  cases h with
  | none => rfl
  | some => rfl

theorem rel_findSome {r : α → β → Prop} {f : γ → Option α} {g : γ → Option β} {l : List γ}
    (h : ∀ x ∈ l, Option.Rel r (f x) (g x)) : Option.Rel r (l.findSome? f) (l.findSome? g) := by
  induction l with
  | nil => exact .none
  | cons x l ih =>
    have hx := h x List.mem_cons_self
    have hl := ih fun y hy => h y (List.mem_cons_of_mem _ hy)
    rw [List.findSome?_cons, List.findSome?_cons]
    generalize f x = u at hx
    generalize g x = v at hx
    cases hx with
    | none => exact hl
    | some hx => exact .some hx

theorem findSome_stateSources (f : Fields → Option α) (state : Fields) :
    (stateSources state).findSome? f = (f state).or ((stateManifest state).bind f) := by
  rw [stateSources, List.findSome?_cons]
  cases f state with
  | some v => rfl
  | none =>
    cases stateManifest state with
    | none => rfl
    | some manifest =>
      rw [Option.toList_some, List.findSome?_cons, List.findSome?_nil, Option.bind_some,
        Option.none_or]
      cases f manifest <;> rfl

theorem teamSource_eq (source : Fields) : teamSource source =
    ((source.lookup "team").map mapping?).or
      ((mapping? (getOr source "knowledge_stores" .none)).map fun stores =>
        mapping? (getOr stores "team" .none)) := by
  rw [teamSource]
  cases source.lookup "team" <;> rfl

theorem ordered_eq_none (h : ordered v = .none) : v = .none := by
  cases v with
  | none => rfl
  | _ => simp [ordered] at h

theorem ordered_eq_bool (h : ordered v = .bool b) : v = .bool b := by
  cases v with
  | bool c => exact h
  | _ => simp [ordered] at h

theorem ordered_eq_str (h : ordered v = .str text) : v = .str text := by
  cases v with
  | str other => exact h
  | _ => simp [ordered] at h

theorem Alike.eq_bool (h : Alike v w) (hv : v = .bool b) : w = .bool b := by
  apply ordered_eq_bool
  rw [← h.same, hv]
  rfl

theorem Alike.beq_bool (h : Alike v w) (b : Bool) : (v == .bool b) = (w == .bool b) := by
  rw [Bool.eq_iff_iff, beq_iff_eq, beq_iff_eq]
  apply Iff.intro
  · exact h.eq_bool
  · exact h.symm.eq_bool

theorem enabledStore_some : enabledStore (some fields) = some b ↔
    getOr fields "enabled" .none = .bool b := by
  rw [enabledStore, Option.map_some]
  cases getOr fields "enabled" .none with
  | bool c => rw [Option.some.injEq, Value.bool.injEq]
  | _ => exact iff_of_false (Option.some_ne_none _).symm fun h => Value.noConfusion h

theorem AlikeStores.enabled (h : AlikeStores a b) : enabledStore a = enabledStore b := by
  cases h with
  | none => rfl
  | some h =>
    apply Option.ext
    intro flag
    rw [enabledStore_some, enabledStore_some]
    have henabled := h.getOr "enabled"
    exact ⟨henabled.eq_bool, henabled.symm.eq_bool⟩

theorem AlikeStores.symm (h : AlikeStores a b) : AlikeStores b a := by
  cases h with
  | none => exact .none
  | some h => exact .some (Alike.symm h)

theorem AlikeStores.eq_none (h : AlikeStores a b) (ha : a = none) : b = none := by
  rw [ha] at h
  cases h
  rfl

theorem Alike.schedulerEnabled (h : Alike v w) : schedulerEnabled v = schedulerEnabled w := by
  cases v with
  | dict a =>
    obtain ⟨b, rfl⟩ := ordered_eq_dict h.same.symm
    exact (h.getOr "enabled").beq_bool true
  | _ =>
    cases w with
    | dict b =>
      obtain ⟨a, ha⟩ := ordered_eq_dict h.same
      cases ha
    | _ => exact h.beq_bool true

theorem Alike.equalValues (h : Alike v w) (x : Value) : equalValues S x v = equalValues S x w :=
  equalValues_congr h.same x

theorem Alike.sameStable (h : Alike v w) (x : Value) : sameStable S x v = sameStable S x w :=
  equalValues_congr (withoutVolatile_of_ordered h.left h.right h.same) _

theorem Alike.eq_none (h : Alike v w) (hv : v = .none) : w = .none := by
  apply ordered_eq_none
  rw [← h.same, hv]
  rfl

theorem Alike.eq_none_iff (h : Alike v w) : v = .none ↔ w = .none :=
  ⟨h.eq_none, h.symm.eq_none⟩

theorem Alike.normalPath (h : Alike v w) : normalPath S v = normalPath S w := by
  cases v with
  | str text =>
    have hw : w = .str text := ordered_eq_str h.same.symm
    rw [hw]
  | _ =>
    cases w with
    | str text =>
      cases ordered_eq_str h.same
    | _ => rfl

/-- Mappings of the same names are equal when the values of each name are. -/
theorem plainValue_dict_eq_iff {a b : Fields} (ha : (Dict.keys a).Nodup)
    (hb : (Dict.keys b).Nodup) : plainValue S (.dict a) = plainValue S (.dict b) ↔
      ∀ key, (a.lookup key).map (plainValue S) = (b.lookup key).map (plainValue S) := by
  rw [plainValue, plainValue, plainFields_eq_map, plainFields_eq_map, Value.dict.injEq]
  apply Iff.intro
  · intro h key
    rw [← Value.lookup_sortFields_map (plainValue S) ha, ← Value.lookup_sortFields_map
      (plainValue S) hb, h]
  · intro h
    apply Value.sortFields_of_lookup
    · rwa [Dict.keys_map]
    · rwa [Dict.keys_map]
    · intro key
      rw [Dict.lookup_map, Dict.lookup_map, h]

theorem lookup_filterMap_keys (f : String → Option Value) (keys : List String) (key : String) :
    (keys.filterMap fun name => (f name).map (name, ·)).lookup key =
      if key ∈ keys then f key else none := by
  induction keys with
  | nil => rfl
  | cons name keys ih =>
    rw [List.filterMap_cons]
    by_cases hname : name = key
    · subst hname
      rw [if_pos List.mem_cons_self]
      cases hv : f name with
      | none =>
        rw [Option.map_none]
        dsimp only
        rw [ih, hv, ite_self]
      | some v =>
        rw [Option.map_some]
        dsimp only
        rw [Dict.lookup_cons, if_pos rfl]
    · simp only [List.mem_cons, Ne.symm hname, false_or]
      cases f name with
      | none => exact ih
      | some v =>
        rw [Option.map_some]
        dsimp only
        rw [Dict.lookup_cons, if_neg hname, ih]

theorem lookup_map_keys (f : String → Value) (keys : List String) (key : String) :
    (keys.map fun name => (name, f name)).lookup key =
      if key ∈ keys then some (f key) else none := by
  rw [← lookup_filterMap_keys fun name => some (f name), ← List.filterMap_eq_map]
  rfl

/-- Records of some keys are equal when the values of each key are. -/
theorem equalValues_map_keys {keys : List String} (hkeys : keys.Nodup) (f g : String → Value) :
    equalValues S (.dict (keys.map fun key => (key, f key)))
        (.dict (keys.map fun key => (key, g key))) = true ↔
      ∀ key ∈ keys, equalValues S (f key) (g key) = true := by
  have hnodup (f : String → Value) : (Dict.keys (keys.map fun key => (key, f key))).Nodup := by
    rw [Dict.keys, List.map_map]
    exact (List.map_id keys).symm ▸ hkeys
  rw [equalValues, beq_iff_eq, plainValue_dict_eq_iff (hnodup f) (hnodup g)]
  simp only [lookup_map_keys, equalValues, beq_iff_eq]
  apply forall_congr'
  intro key
  by_cases hkey : key ∈ keys
  · rw [if_pos hkey, if_pos hkey, Option.map_some, Option.map_some, Option.some.injEq]
    exact ⟨fun h _ => h, fun h => h hkey⟩
  · rw [if_neg hkey, if_neg hkey]
    exact iff_of_true rfl fun h => (hkey h).elim

/-- The keys that the planner reads, of a state or of its manifest. -/
def readKeys : List String :=
  ["personal_knowledge_root", "personal_root", "knowledge_root", "team_knowledge_root", "team_root",
    "runtime_root", "providers", "privacy_profile", "experiment_enabled", "engine_root",
    "sync_enabled", "hosts", "scheduler"]

/-- The keys in which the planner looks for stores. -/
def sourceKeys : List String :=
  ["personal", "team", "knowledge_stores", "knowledge_repository", "manifest"]

/-- Two states that look the same to the planner. -/
structure Shows (a b : Fields) : Prop where
  personal : AlikeStores (personalStore a) (personalStore b)
  team : AlikeStores (teamStore a) (teamStore b)
  value : ∀ keys ⊆ readKeys, Alike (stateValue a keys) (stateValue b keys)

theorem Shows.symm (h : Shows a b) : Shows b a where
  personal := h.personal.symm
  team := h.team.symm
  value keys hkeys := (h.value keys hkeys).symm

/-- States that have the same under the keys that are read look the same. -/
theorem shows_of_lookup (h : ∀ key ∈ sourceKeys ++ readKeys,
    Option.Rel Alike (a.lookup key) (b.lookup key)) : Shows a b := by
  have hsource (key : String) (hkey : key ∈ sourceKeys) :
      Alike (getOr a key .none) (getOr b key .none) :=
    alike_getD (h key (List.mem_append_left _ hkey)) alike_none
  have hmanifest := (hsource "manifest" (by decide)).mapping
  have hstores := (hsource "knowledge_stores" (by decide)).mapping
  constructor
  · rw [personalStore, personalStore, findSome_stateSources, findSome_stateSources]
    apply rel_or
    · apply rel_or (hsource "personal" (by decide)).mapping
      apply rel_or _ (hsource "knowledge_repository" (by decide)).mapping
      exact rel_bind hstores fun _ _ hxy => (Alike.getOr hxy "personal").mapping
    · apply rel_bind hmanifest
      intro x y hxy
      apply rel_or (Alike.getOr hxy "personal").mapping
      apply rel_or _ (Alike.getOr hxy "knowledge_repository").mapping
      exact rel_bind (Alike.getOr hxy "knowledge_stores").mapping fun _ _ hxy =>
        (Alike.getOr hxy "personal").mapping
  · rw [teamStore, teamStore, findSome_stateSources, findSome_stateSources]
    apply rel_join
    apply rel_or
    · rw [teamSource_eq, teamSource_eq]
      apply rel_or
      · exact rel_map (h "team" (by decide)) fun _ _ hteam => hteam.mapping
      · exact rel_map hstores fun _ _ hxy => (Alike.getOr hxy "team").mapping
    · apply rel_bind hmanifest
      intro x y hxy
      rw [teamSource_eq, teamSource_eq]
      apply rel_or
      · exact rel_map (Alike.lookup hxy "team") fun _ _ hteam => hteam.mapping
      · exact rel_map (Alike.getOr hxy "knowledge_stores").mapping fun _ _ hxy =>
          (Alike.getOr hxy "team").mapping
  · intro keys hkeys
    apply alike_getD _ alike_none
    rw [findSome_stateSources, findSome_stateSources]
    apply rel_or
    · exact rel_findSome fun key hkey => h key (List.mem_append_right _ (hkeys hkey))
    · exact rel_bind hmanifest fun _ _ hxy => rel_findSome fun key _ => Alike.lookup hxy key

theorem Alike.shows (h : Alike (.dict a) (.dict b)) : Shows a b :=
  shows_of_lookup fun key _ => h.lookup key

/-- A digest that is written to a state does not show. -/
theorem Alike.shows_stamped (h : Alike (.dict a) (.dict b)) (digest : Value) :
    Shows (stampWith digest a) b := by
  apply shows_of_lookup
  intro key hkey
  rw [lookup_stampWith, if_neg, if_neg]
  · exact h.lookup key
  · rintro rfl
    revert hkey
    decide
  · rintro rfl
    revert hkey
    decide

namespace Shows

variable {a b current live : Fields} {S : SetupPlatform} (h : Shows a b)

include h

theorem rootOf (kind : RootKind) : Alike (rootOf a kind) (rootOf b kind) := by
  have hvalue : Alike (stateValue a kind.topKeys) (stateValue b kind.topKeys) := by
    apply h.value
    cases kind <;> decide
  have hroot {x y : Option Fields} (hxy : AlikeStores x y) :
      Alike ((x.map fun fields => getOr fields "root" .none).getD .none)
        ((y.map fun fields => getOr fields "root" .none).getD .none) :=
    alike_getD (rel_map hxy fun _ _ hfields => Alike.getOr hfields "root") alike_none
  unfold ExternalIntelligence.rootOf
  dsimp only
  by_cases hnone : stateValue a kind.topKeys = .none
  · rw [if_neg (not_not.2 hnone), if_neg (not_not.2 (hvalue.eq_none_iff.1 hnone))]
    cases kind with
    | personal => exact hroot h.personal
    | team => exact hroot h.team
    | runtime => exact hroot .none
  · rw [if_pos hnone, if_pos fun he => hnone (hvalue.eq_none_iff.2 he)]
    exact hvalue

theorem rootChanged (kind : RootKind) :
    rootChanged S current a kind = rootChanged S current b kind := by
  rw [ExternalIntelligence.rootChanged, ExternalIntelligence.rootChanged,
    (h.rootOf kind).normalPath]

theorem bindingRuntimeMismatch :
    bindingRuntimeMismatch S a live = bindingRuntimeMismatch S b live := by
  rw [ExternalIntelligence.bindingRuntimeMismatch, ExternalIntelligence.bindingRuntimeMismatch,
    (h.rootOf .runtime).normalPath]

theorem teamIdentityChanged :
    teamIdentityChanged S current a = teamIdentityChanged S current b := by
  have hteam := h.team
  rw [ExternalIntelligence.teamIdentityChanged, ExternalIntelligence.teamIdentityChanged]
  generalize teamStore a = old at hteam
  generalize teamStore b = new at hteam
  cases hteam with
  | none => rfl
  | some hteam =>
    cases teamStore current with
    | none => rfl
    | some store =>
      have hroot := (Alike.getOr hteam "root").normalPath (S := S)
      have hid := Alike.getOr hteam "store_id"
      dsimp only
      rw [hroot, hid.equalValues, Bool.eq_iff_iff]
      simp only [Bool.or_eq_true, Bool.and_eq_true, bne_iff_ne, ne_eq, hid.eq_none_iff]

theorem memberChanged : memberChanged S current a = memberChanged S current b := by
  have hteam := h.team
  rw [ExternalIntelligence.memberChanged, ExternalIntelligence.memberChanged]
  generalize teamStore a = old at hteam
  generalize teamStore b = new at hteam
  cases hteam with
  | none => rfl
  | some hteam =>
    cases teamStore current with
    | none => rfl
    | some store =>
      dsimp only
      rw [differsIn, differsIn, List.any_cons, List.any_cons,
        (Alike.getOr hteam "team_member_id").equalValues]
      rfl

theorem personalField (key : String) :
    Alike (getOr ((personalStore a).getD []) key .none)
      (getOr ((personalStore b).getD []) key .none) := by
  have hpersonal := h.personal
  generalize personalStore a = old at hpersonal
  generalize personalStore b = new at hpersonal
  cases hpersonal with
  | none => exact alike_none
  | some hpersonal => exact Alike.getOr hpersonal key

theorem personalRemoteChanged :
    personalRemoteChanged S current a = personalRemoteChanged S current b := by
  have hidentity : equalValues S (.dict (personalIdentity current)) (.dict (personalIdentity a)) =
      equalValues S (.dict (personalIdentity current)) (.dict (personalIdentity b)) := by
    rw [Bool.eq_iff_iff, personalIdentity, personalIdentity, personalIdentity,
      equalValues_map_keys (by decide), equalValues_map_keys (by decide)]
    simp only [(h.personalField _).equalValues]
  rw [ExternalIntelligence.personalRemoteChanged, ExternalIntelligence.personalRemoteChanged,
    hidentity]

theorem blockingError : blockingError S current a live = blockingError S current b live := by
  rw [ExternalIntelligence.blockingError, ExternalIntelligence.blockingError, identityError,
    identityError, h.rootChanged, h.rootChanged, h.teamIdentityChanged, h.personalRemoteChanged,
    h.bindingRuntimeMismatch]

theorem fieldValue (hkey : key ∈ readKeys) (hd : d.UniqueKeys) :
    Alike (fieldValue a key d) (fieldValue b key d) := by
  have hvalue := h.value [key] (List.cons_subset.2 ⟨hkey, List.nil_subset _⟩)
  rw [ExternalIntelligence.fieldValue, ExternalIntelligence.fieldValue]
  by_cases hnone : stateValue a [key] = .none
  · rw [if_pos hnone, if_pos (hvalue.eq_none_iff.1 hnone)]
    exact .refl hd
  · rw [if_neg hnone, if_neg fun he => hnone (hvalue.eq_none_iff.2 he)]
    exact hvalue

theorem hostMap (host : String) :
    Option.Rel Alike ((hostMap a).lookup host) ((hostMap b).lookup host) := by
  have hhosts := (h.value ["hosts"] (by decide)).mapping
  rw [ExternalIntelligence.hostMap, ExternalIntelligence.hostMap]
  generalize mapping? (stateValue a ["hosts"]) = old at hhosts
  generalize mapping? (stateValue b ["hosts"]) = new at hhosts
  cases hhosts with
  | none => exact .none
  | some hhosts => exact Alike.lookup hhosts host

theorem host_alike (hnew : (ExternalIntelligence.hostMap b).lookup host = some new) :
    ∃ other, (ExternalIntelligence.hostMap a).lookup host = some other ∧ Alike other new := by
  have hhost := h.hostMap host
  rw [hnew] at hhost
  generalize (ExternalIntelligence.hostMap a).lookup host = v at hhost
  cases hhost with
  | some halike => exact ⟨_, rfl, halike⟩

theorem sameHosts (hsame : SameHosts S current a live) : SameHosts S current b live where
  hosts host := (hsame.hosts host).trans (rel_isSome (h.hostMap host))
  records host old new hold hnew := by
    obtain ⟨other, hother, halike⟩ := h.host_alike hnew
    rw [← halike.sameStable]
    exact hsame.records host old other hold hother
  found host old new hold hnew := by
    obtain ⟨other, hother, halike⟩ := h.host_alike hnew
    rw [← hsame.found host old other hold hother]
    cases new with
    | dict new =>
      obtain ⟨fields, rfl⟩ := ordered_eq_dict halike.same
      cases old <;> rfl
    | _ =>
      cases other with
      | dict fields =>
        obtain ⟨others, hothers⟩ := ordered_eq_dict halike.same.symm
        cases hothers
      | _ => cases old <;> rfl

/-- What looks the same to the planner, it notices alike. -/
theorem unnoticed (hsame : Unnoticed S current a live) : Unnoticed S current b live where
  unblocked := h.blockingError ▸ hsame.unblocked
  personal hnone := h.personal.eq_none (hsame.personal hnone)
  team := hsame.team.trans h.team.enabled
  member := h.memberChanged ▸ hsame.member
  settings key hkey := by
    have hfield : Alike (ExternalIntelligence.fieldValue a key .none)
        (ExternalIntelligence.fieldValue b key .none) := by
      apply h.fieldValue (d := .none) _ trivial
      exact (show settingKeys ⊆ readKeys by decide) hkey
    rw [← hfield.sameStable]
    exact hsame.settings key hkey
  hosts := h.sameHosts hsame.hosts
  scheduler := hsame.scheduler.trans
    (h.fieldValue (by decide) uniqueKeys_nil).schedulerEnabled

end Shows

end ExternalIntelligence
