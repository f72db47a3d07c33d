import ExternalIntelligence.KeyOrder
import ExternalIntelligence.Edits

namespace ExternalIntelligence
set_option autoImplicit true

inductive StoreKind where
  | personal
  | team
deriving DecidableEq, Repr

def StoreKind.name : StoreKind → String
  | .personal => "personal"
  | .team => "team"

def storeOf (state : Fields) : StoreKind → Option Fields
  | .personal => personalStore state
  | .team => teamStore state

/-- What an option does to a store. -/
inductive StoreEdit where
  | field (key : String) (value : Value)
  | rooted (value : Value)
  | merge (update : Fields)
  | reset (store : Option Fields)
  | enable (enabled : Bool)

def StoreEdit.apply (store : Option Fields) : StoreEdit → Option Fields
  | field key value => some (Dict.set key value (store.getD []))
  | rooted value =>
    some (setDefault "enabled" (.bool true) (Dict.set "root" value (store.getD [])))
  | merge update => some (mergeMapping (store.getD []) update)
  | reset given => given
  | enable enabled => some (Dict.set "status" (.str (if enabled then "READY" else "DISABLED"))
      (Dict.set "enabled" (.bool enabled) (store.getD [])))

/-- What options write to a state. -/
inductive Write where
  | put (key : String) (value : Value)
  | knowledgeRoot (value : Value)
  | merge (key : String) (value : Value)
  | store (kind : StoreKind) (edit : StoreEdit)

/-- Whether a new root is written under its older name too. -/
def syncsRoot (state : Fields) : Bool :=
  (state.lookup "knowledge_root").isSome || (state.lookup "personal_root").isNone

def Write.apply (state : Fields) : Write → Fields
  | put key value => Dict.set key value state
  | knowledgeRoot value =>
    if syncsRoot state then Dict.set "knowledge_root" value state else state
  | merge key value => setOption state key value
  | store kind edit => setStore state kind.name (edit.apply (storeOf state kind))

def runWrites (writes : List Write) (state : Fields) : Fields :=
  writes.foldl Write.apply state

theorem runWrites_cons (w : Write) (ws : List Write) (state : Fields) :
    runWrites (w :: ws) state = runWrites ws (w.apply state) :=
  rfl

theorem runWrites_append (vs ws : List Write) (state : Fields) :
    runWrites (vs ++ ws) state = runWrites ws (runWrites vs state) :=
  List.foldl_append

/-- What the personal store given with both stores writes. -/
def personalWrites (stores : Fields) : Except Raised (List Write) :=
  match stores.lookup "personal" with
  | some given => (mappingOr given).map fun store => [.store .personal (.reset (some store))]
  | none => .ok []

/-- What the team store given with both stores writes. -/
def teamWrites (stores : Fields) : List Write :=
  match stores.lookup "team" with
  | some given => [.store .team (.reset (mapping? given))]
  | none => []

/-- What one option writes, whatever the state. -/
def optionWrites (option : String × Value) : Except Raised (List Write) :=
  let key := option.1
  let value := option.2
  if ["desired_state_digest", "no_team_knowledge", "team_knowledge", "team_enabled"].contains key
    then .ok []
  else if ["personal_root", "personal_knowledge_root", "knowledge_root"].contains key then
    .ok [.put "personal_knowledge_root" value, .knowledgeRoot value,
      .store .personal (.rooted value)]
  else if ["team_root", "team_knowledge_root"].contains key then
    .ok [.store .team (.field "root" value)]
  else if key = "team_member_id" then .ok [.store .team (.field "team_member_id" value)]
  else if ["remote_fingerprint", "personal_remote_fingerprint"].contains key then
    .ok [.store .personal (.field "remote_fingerprint" value)]
  else if ["sync", "sync_enabled"].contains key then
    .ok [.put "sync_enabled" value, .store .personal (.field "sync_enabled" value)]
  else if key = "experiment" then .ok [.put "experiment_enabled" value]
  else if ["scheduler", "hosts", "managed_targets", "providers", "privacy_profile", "engine_root",
      "runtime_root"].contains key then
    .ok [.put key value]
  else if key = "personal" then
    (mappingOr value).map fun update => [.store .personal (.merge update)]
  else if key = "team" then
    if value = .none then .ok [.store .team (.reset none)]
    else (mappingOr value).map fun update => [.store .team (.merge update)]
  else if key = "knowledge_stores" then
    (mappingOr value).bind fun stores => (personalWrites stores).map (· ++ teamWrites stores)
  else .ok [.merge key value]

def allWrites : Fields → Except Raised (List Write)
  | [] => .ok []
  | option :: options => do
    let ws ← optionWrites option
    let rest ← allWrites options
    pure (ws ++ rest)

theorem ite_eq_map_ite {c : Prop} [Decidable c] {x y : Except ε α} {f : α → β}
    (ht : c → a = x.map f) (he : ¬c → b = y.map f) :
    (if c then a else b) = (if c then x else y).map f := by
  by_cases h : c
  · rw [if_pos h, if_pos h, ht h]
  · rw [if_neg h, if_neg h, he h]

theorem runTeamWrites (stores state : Fields) : runWrites (teamWrites stores) state =
    match stores.lookup "team" with
    | some given => setStore state "team" (mapping? given)
    | none => state := by
  rw [teamWrites]
  cases stores.lookup "team" with
  | none => rfl
  | some given => rfl

theorem applyOption_eq (state : Fields) (option : String × Value) :
    applyOption state option = (optionWrites option).map fun ws => runWrites ws state := by
  obtain ⟨key, value⟩ := option
  rw [applyOption, optionWrites]
  apply ite_eq_map_ite
  · exact fun _ => rfl
  intro _
  apply ite_eq_map_ite
  · exact fun _ => rfl
  intro _
  apply ite_eq_map_ite
  · exact fun _ => rfl
  intro _
  apply ite_eq_map_ite
  · exact fun _ => rfl
  intro _
  apply ite_eq_map_ite
  · exact fun _ => rfl
  intro _
  apply ite_eq_map_ite
  · exact fun _ => rfl
  intro _
  apply ite_eq_map_ite
  · exact fun _ => rfl
  intro _
  apply ite_eq_map_ite
  · exact fun _ => rfl
  intro _
  apply ite_eq_map_ite
  · intro _
    cases mappingOr value with
    | error => rfl
    | ok update => rfl
  intro _
  apply ite_eq_map_ite
  · intro _
    apply ite_eq_map_ite
    · exact fun _ => rfl
    · intro _
      cases mappingOr value with
      | error => rfl
      | ok update => rfl
  intro _
  apply ite_eq_map_ite
  · intro _
    cases mappingOr value with
    | error => rfl
    | ok stores =>
      rw [ok_bind, Except.bind, personalWrites]
      cases hpersonal : stores.lookup "personal" with
      | none => exact congrArg Except.ok (runTeamWrites stores state).symm
      | some given =>
        dsimp +zetaHave only
        cases mappingOr given with
        | error => rfl
        | ok store => exact congrArg Except.ok (runTeamWrites stores _).symm
  · exact fun _ => rfl

theorem foldlM_applyOption (options state : Fields) : options.foldlM applyOption state =
    (allWrites options).map fun ws => runWrites ws state := by
  induction options generalizing state with
  | nil => rfl
  | cons option options ih =>
    rw [List.foldlM_cons, applyOption_eq, allWrites]
    cases optionWrites option with
    | error => rfl
    | ok ws =>
      change options.foldlM applyOption (runWrites ws state) = _
      rw [ih, ok_bind]
      cases allWrites options with
      | error => rfl
      | ok rest => exact congrArg Except.ok (runWrites_append ws rest state).symm

/-- What enabling or disabling the team store writes, if there is one. -/
def switchWrites (explicit state : Fields) : List Write :=
  if (disablesTeam explicit || enablesTeam explicit) && (teamStore state).isSome then
    [.store .team (.enable (!disablesTeam explicit))]
  else []

theorem setTeamField_enabled (state : Fields) (enabled : Bool) :
    setTeamField state "enabled" (.bool enabled) =
      (Write.store .team (.enable enabled)).apply state := by
  cases enabled with
  | false => rfl
  | true => rfl

theorem switchTeam_eq (state : Fields) (enabled : Bool) : switchTeam state enabled =
    runWrites (if (teamStore state).isSome then [.store .team (.enable enabled)] else []) state := by
  rw [switchTeam]
  split
  · exact setTeamField_enabled state enabled
  · rfl

theorem applyExplicit_eq (state explicit : Fields) : applyExplicit state explicit =
    (allWrites explicit).map fun ws =>
      runWrites (ws ++ switchWrites explicit (runWrites ws state)) state := by
  rw [applyExplicit, foldlM_applyOption]
  cases allWrites explicit with
  | error => rfl
  | ok ws =>
    apply congrArg Except.ok
    dsimp only
    rw [runWrites_append, switchWrites]
    cases disablesTeam explicit with
    | true => exact switchTeam_eq _ _
    | false =>
      cases enablesTeam explicit with
      | true => exact switchTeam_eq _ _
      | false => rfl

/-- Where a state keeps its stores. -/
def storeKeys : List String :=
  ["personal", "team", "knowledge_stores", "manifest"]

theorem mapping_eq_some {v : Value} : mapping? v = some fields ↔ v = .dict fields := by
  cases v with
  | dict => rw [mapping?, Option.some.injEq, Value.dict.injEq]
  | _ => exact iff_of_false nofun nofun

theorem mapping_getOr {state : Fields} :
    mapping? (getOr state name .none) = some fields ↔ state.lookup name = some (.dict fields) := by
  rw [mapping_eq_some, getOr]
  cases state.lookup name with
  | none =>
    apply iff_of_false
    · intro h
      cases h
    · intro h
      cases h
  | some v => exact Option.some_inj.symm

/-- A value in which a store is kept beside the other, if it is a mapping. -/
def mirrored (write : Fields → Fields) : Option Value → Option Value
  | some (.dict fields) => some (.dict (write fields))
  | v => v

theorem mirrored_eq_self {v : Option Value} (h : ∀ fields, v ≠ some (.dict fields)) :
    mirrored write v = v := by
  unfold mirrored
  split
  · rename_i fields
    exact (h fields rfl).elim
  · rfl

/-- Writes a store into the mapping that a state has for a key, if it has one. -/
def mirror (write : Fields → Fields) (name : String) (state : Fields) : Fields :=
  match mapping? (getOr state name .none) with
  | some fields => Dict.set name (.dict (write fields)) state
  | none => state

theorem lookup_mirror (write : Fields → Fields) (name : String) (state : Fields) (key : String) :
    (mirror write name state).lookup key =
      if key = name then mirrored write (state.lookup name) else state.lookup key := by
  rw [mirror]
  cases h : mapping? (getOr state name .none) with
  | some fields =>
    rw [mapping_getOr] at h
    dsimp only
    rw [h, mirrored, Dict.lookup_set]
    simp only [eq_comm]
  | none =>
    rw [mirrored_eq_self]
    · by_cases hkey : key = name
      · rw [if_pos hkey, hkey]
      · rw [if_neg hkey]
    · intro fields hdict
      rw [mapping_getOr.2 hdict] at h
      cases h

theorem setStore_eq (state : Fields) (name : String) (store : Option Fields) :
    setStore state name store =
      mirror (fun manifest => setManifestStore manifest name (storeValue store)) "manifest"
        (mirror (Dict.set name (storeValue store)) "knowledge_stores"
          (Dict.set name (storeValue store) state)) :=
  rfl

theorem lookup_setStore (state : Fields) (kind : StoreKind) (store : Option Fields) (key : String) :
    (setStore state kind.name store).lookup key =
      if key = "manifest" then
        mirrored (fun manifest => setManifestStore manifest kind.name (storeValue store))
          (state.lookup "manifest")
      else if key = "knowledge_stores" then
        mirrored (Dict.set kind.name (storeValue store)) (state.lookup "knowledge_stores")
      else if kind.name = key then some (storeValue store) else state.lookup key := by
  have hstores : kind.name ≠ "knowledge_stores" := by cases kind <;> decide
  have hmanifest : kind.name ≠ "manifest" := by cases kind <;> decide
  rw [setStore_eq, lookup_mirror, lookup_mirror, lookup_mirror,
    if_neg (show "manifest" ≠ "knowledge_stores" by decide), Dict.lookup_set_of_ne hstores,
    Dict.lookup_set_of_ne hmanifest, Dict.lookup_set]

theorem StoreKind.name_mem (kind : StoreKind) : kind.name ∈ storeKeys := by
  cases kind <;> decide

theorem lookup_setStore_of_plain (h : key ∉ storeKeys) (state : Fields) (kind : StoreKind)
    (store : Option Fields) : (setStore state kind.name store).lookup key = state.lookup key := by
  have hname : kind.name ≠ key := fun he => h (he ▸ kind.name_mem)
  have hmanifest : key ≠ "manifest" := by
    rintro rfl
    exact h (by decide)
  have hstores : key ≠ "knowledge_stores" := by
    rintro rfl
    exact h (by decide)
  rw [lookup_setStore, if_neg hmanifest, if_neg hstores, if_neg hname]

theorem lookup_setStore_name (state : Fields) (kind other : StoreKind) (store : Option Fields) :
    (setStore state kind.name store).lookup other.name =
      if kind = other then some (storeValue store) else state.lookup other.name := by
  have hmanifest : other.name ≠ "manifest" := by cases other <;> decide
  have hstores : other.name ≠ "knowledge_stores" := by cases other <;> decide
  have hname : kind.name = other.name ↔ kind = other := by cases kind <;> cases other <;> decide
  rw [lookup_setStore, if_neg hmanifest, if_neg hstores]
  simp only [hname]

theorem lookup_setStore_stores (state : Fields) (kind : StoreKind) (store : Option Fields) :
    (setStore state kind.name store).lookup "knowledge_stores" =
      mirrored (Dict.set kind.name (storeValue store)) (state.lookup "knowledge_stores") := by
  rw [lookup_setStore, if_neg (by decide), if_pos rfl]

theorem lookup_setStore_manifest (state : Fields) (kind : StoreKind) (store : Option Fields) :
    (setStore state kind.name store).lookup "manifest" =
      mirrored (fun manifest => setManifestStore manifest kind.name (storeValue store))
        (state.lookup "manifest") := by
  rw [lookup_setStore, if_pos rfl]

def ignoredKeys : List String :=
  ["desired_state_digest", "no_team_knowledge", "team_knowledge", "team_enabled"]

def rootKeys : List String :=
  ["personal_root", "personal_knowledge_root", "knowledge_root"]

def settingOptions : List String :=
  ["scheduler", "hosts", "managed_targets", "providers", "privacy_profile", "engine_root",
    "runtime_root"]

/-- The keys of options that are not merged into the state as they are. -/
def optionKeys : List String :=
  ignoredKeys ++ rootKeys ++ ["team_root", "team_knowledge_root", "team_member_id",
    "remote_fingerprint", "personal_remote_fingerprint", "sync", "sync_enabled", "experiment"] ++
    settingOptions ++ ["personal", "team", "knowledge_stores"]

/-- The options there are, and what each writes. -/
inductive OptionWrites : String × Value → List Write → Prop
  | ignored : key ∈ ignoredKeys → OptionWrites (key, v) []
  | root : key ∈ rootKeys → OptionWrites (key, v)
      [.put "personal_knowledge_root" v, .knowledgeRoot v, .store .personal (.rooted v)]
  | teamRoot : key ∈ ["team_root", "team_knowledge_root"] →
      OptionWrites (key, v) [.store .team (.field "root" v)]
  | teamMember : OptionWrites ("team_member_id", v) [.store .team (.field "team_member_id" v)]
  | remote : key ∈ ["remote_fingerprint", "personal_remote_fingerprint"] →
      OptionWrites (key, v) [.store .personal (.field "remote_fingerprint" v)]
  | sync : key ∈ ["sync", "sync_enabled"] → OptionWrites (key, v)
      [.put "sync_enabled" v, .store .personal (.field "sync_enabled" v)]
  | experiment : OptionWrites ("experiment", v) [.put "experiment_enabled" v]
  | setting : key ∈ settingOptions → OptionWrites (key, v) [.put key v]
  | personal : OptionWrites ("personal", .dict update) [.store .personal (.merge update)]
  | noTeam : OptionWrites ("team", .none) [.store .team (.reset none)]
  | team : OptionWrites ("team", .dict update) [.store .team (.merge update)]
  | stores : personalWrites stores = .ok ws →
      OptionWrites ("knowledge_stores", .dict stores) (ws ++ teamWrites stores)
  | other : key ∉ optionKeys → OptionWrites (key, v) [.merge key v]

theorem ite_eq_ok {c : Prop} [Decidable c] {x y : Except ε α}
    (h : (if c then x else y) = .ok a) : c ∧ x = .ok a ∨ ¬c ∧ y = .ok a := by
  by_cases hc : c
  · rw [if_pos hc] at h
    exact .inl ⟨hc, h⟩
  · rw [if_neg hc] at h
    exact .inr ⟨hc, h⟩

theorem mappingOr_eq_ok {v : Value} : mappingOr v = .ok fields ↔ v = .dict fields := by
  rw [mappingOr, ← mapping_eq_some]
  cases mapping? v with
  | none => exact iff_of_false nofun nofun
  | some => rw [Except.ok.injEq, Option.some.injEq]

theorem map_eq_ok {x : Except ε α} {f : α → β} (h : x.map f = .ok b) : ∃ a, x = .ok a ∧ f a = b := by
  cases x with
  | error => cases h
  | ok a => exact ⟨a, rfl, Except.ok.inj h⟩

theorem map_mappingOr {v : Value} {f : Fields → α} (h : (mappingOr v).map f = .ok a) :
    ∃ fields, v = .dict fields ∧ f fields = a := by
  obtain ⟨fields, hv, hf⟩ := map_eq_ok h
  exact ⟨fields, mappingOr_eq_ok.1 hv, hf⟩

theorem optionWrites_ok (h : optionWrites option = .ok ws) : OptionWrites option ws := by
  obtain ⟨key, v⟩ := option
  rw [optionWrites] at h
  obtain ⟨hkey, h⟩ | ⟨h0, h⟩ := ite_eq_ok h
  · cases h
    exact .ignored (List.contains_iff_mem.1 hkey)
  obtain ⟨hkey, h⟩ | ⟨h1, h⟩ := ite_eq_ok h
  · cases h
    exact .root (List.contains_iff_mem.1 hkey)
  obtain ⟨hkey, h⟩ | ⟨h2, h⟩ := ite_eq_ok h
  · cases h
    exact .teamRoot (List.contains_iff_mem.1 hkey)
  obtain ⟨hkey, h⟩ | ⟨h3, h⟩ := ite_eq_ok h
  · cases h
    obtain rfl : key = _ := hkey
    exact .teamMember
  obtain ⟨hkey, h⟩ | ⟨h4, h⟩ := ite_eq_ok h
  · cases h
    exact .remote (List.contains_iff_mem.1 hkey)
  obtain ⟨hkey, h⟩ | ⟨h5, h⟩ := ite_eq_ok h
  · cases h
    exact .sync (List.contains_iff_mem.1 hkey)
  obtain ⟨hkey, h⟩ | ⟨h6, h⟩ := ite_eq_ok h
  · cases h
    obtain rfl : key = _ := hkey
    exact .experiment
  obtain ⟨hkey, h⟩ | ⟨h7, h⟩ := ite_eq_ok h
  · cases h
    exact .setting (List.contains_iff_mem.1 hkey)
  obtain ⟨hkey, h⟩ | ⟨h8, h⟩ := ite_eq_ok h
  · obtain ⟨update, rfl, rfl⟩ := map_mappingOr h
    obtain rfl : key = _ := hkey
    exact .personal
  obtain ⟨hkey, h⟩ | ⟨h9, h⟩ := ite_eq_ok h
  · obtain ⟨hnone, h⟩ | ⟨_, h⟩ := ite_eq_ok h
    · cases h
      obtain rfl : key = _ := hkey
      obtain rfl : v = _ := hnone
      exact .noTeam
    · obtain ⟨update, rfl, rfl⟩ := map_mappingOr h
      obtain rfl : key = _ := hkey
      exact .team
  obtain ⟨hkey, h⟩ | ⟨h10, h⟩ := ite_eq_ok h
  · obtain ⟨stores, hstores, h⟩ := Except.bind_eq_ok.1 h
    obtain ⟨personal, hpersonal, rfl⟩ := map_eq_ok h
    obtain rfl : key = _ := hkey
    obtain rfl : v = _ := mappingOr_eq_ok.1 hstores
    exact .stores hpersonal
  cases h
  apply OptionWrites.other
  simp only [List.contains_iff_mem] at h0 h1 h2 h4 h5 h7
  simp only [List.mem_cons, List.not_mem_nil, or_false, not_or] at h0 h1 h2 h4 h5 h7
  simp only [optionKeys, ignoredKeys, rootKeys, settingOptions, List.mem_append, List.mem_cons,
    List.not_mem_nil, or_false, not_or]
  tauto

def putKeys : List String :=
  ["personal_knowledge_root", "sync_enabled", "experiment_enabled"] ++ settingOptions

/-- The keys that no option is merged into. -/
def reservedKeys : List String :=
  ["personal", "team", "knowledge_stores", "personal_root", "knowledge_root",
    "desired_state_digest"]

/-- The writes that there are. -/
def Write.Proper : Write → Prop
  | put key _ => key ∈ putKeys
  | knowledgeRoot _ => True
  | merge key _ => key ∉ reservedKeys
  | store kind edit => kind = .personal → ∀ given, (edit.apply given).isSome

theorem putKeys_not_reserved : ∀ key ∈ putKeys, key ∉ reservedKeys ∧ key ∉ storeKeys := by
  decide

theorem reservedKeys_options : ∀ key ∈ reservedKeys, key ∈ optionKeys := by
  decide

/-- Both stores given together are each set to what is given. -/
theorem mem_storesWrites (h : personalWrites stores = .ok ws) (hw : w ∈ ws ++ teamWrites stores) :
    ∃ kind v, stores.lookup (StoreKind.name kind) = some v ∧
      w = .store kind (.reset (mapping? v)) ∧ (kind = .personal → (mapping? v).isSome) := by
  cases List.mem_append.1 hw with
  | inl hw =>
    rw [personalWrites] at h
    cases hgiven : stores.lookup "personal" with
    | none =>
      rw [hgiven] at h
      cases h
      cases hw
    | some v =>
      rw [hgiven] at h
      obtain ⟨store, rfl, rfl⟩ := map_mappingOr h
      exact ⟨.personal, _, hgiven, List.mem_singleton.1 hw, fun _ => rfl⟩
  | inr hw =>
    rw [teamWrites] at hw
    cases hgiven : stores.lookup "team" with
    | none =>
      rw [hgiven] at hw
      cases hw
    | some v =>
      rw [hgiven] at hw
      exact ⟨.team, v, hgiven, List.mem_singleton.1 hw, nofun⟩

theorem OptionWrites.proper (h : OptionWrites option ws) : ∀ w ∈ ws, w.Proper := by
  cases h with
  | ignored => exact fun _ hw => (List.not_mem_nil hw).elim
  | root =>
    rw [List.forall_mem_cons, List.forall_mem_cons, List.forall_mem_singleton]
    exact ⟨show _ ∈ putKeys by decide, trivial, fun _ _ => rfl⟩
  | teamRoot => exact List.forall_mem_singleton.2 nofun
  | teamMember => exact List.forall_mem_singleton.2 nofun
  | remote => exact List.forall_mem_singleton.2 fun _ _ => rfl
  | sync =>
    rw [List.forall_mem_cons, List.forall_mem_singleton]
    exact ⟨show _ ∈ putKeys by decide, fun _ _ => rfl⟩
  | experiment => exact List.forall_mem_singleton.2 (show _ ∈ putKeys by decide)
  | setting hkey => exact List.forall_mem_singleton.2 (List.mem_append_right _ hkey)
  | personal => exact List.forall_mem_singleton.2 fun _ _ => rfl
  | noTeam => exact List.forall_mem_singleton.2 nofun
  | team => exact List.forall_mem_singleton.2 nofun
  | stores hpersonal =>
    intro w hw
    obtain ⟨kind, v, _, rfl, hsome⟩ := mem_storesWrites hpersonal hw
    exact fun hkind _ => hsome hkind
  | other hkey =>
    exact List.forall_mem_singleton.2 fun hmem => hkey (reservedKeys_options _ hmem)

/-- An option is merged under its own key alone. -/
theorem OptionWrites.merge (h : OptionWrites option ws) (hw : .merge key v ∈ ws) :
    option = (key, v) := by
  cases h with
  | stores hpersonal =>
    obtain ⟨kind, v, _, hreset, _⟩ := mem_storesWrites hpersonal hw
    cases hreset
  | other =>
    cases List.mem_singleton.1 hw
    rfl
  | _ => simp at hw

/-- What is merged into a store is the option of its name. -/
theorem OptionWrites.storeMerge (h : OptionWrites option ws)
    (hw : .store kind (.merge update) ∈ ws) : option = (kind.name, .dict update) := by
  cases h with
  | stores hpersonal =>
    obtain ⟨kind, v, _, hreset, _⟩ := mem_storesWrites hpersonal hw
    cases hreset
  | personal =>
    cases List.mem_singleton.1 hw
    rfl
  | team =>
    cases List.mem_singleton.1 hw
    rfl
  | _ => simp at hw

/-- Whether a write is one of a store. -/
def Write.touches (kind : StoreKind) : Write → Bool
  | store other _ => decide (other = kind)
  | _ => false

def StoreKind.optionKeys : StoreKind → List String
  | personal => rootKeys ++ ["remote_fingerprint", "personal_remote_fingerprint", "sync",
      "sync_enabled", "personal"]
  | team => ["team_root", "team_knowledge_root", "team_member_id", "team"]

/-- Whether an option gives a store or something of it. -/
def givesStore (kind : StoreKind) (option : String × Value) : Bool :=
  kind.optionKeys.contains option.1 || option.1 == "knowledge_stores" &&
    ((mapping? option.2).any fun stores => (stores.lookup kind.name).isSome)

theorem givesStore_of_ne (h : key ≠ "knowledge_stores") :
    givesStore kind (key, v) = kind.optionKeys.contains key := by
  rw [givesStore, beq_eq_false_iff_ne.2 h, Bool.false_and, Bool.or_false]

theorem givesStore_stores : givesStore kind ("knowledge_stores", .dict stores) =
    (stores.lookup kind.name).isSome := by
  cases kind <;> rfl

/-- The stores that the options of some keys give. -/
theorem optionKeys_contains (kind : StoreKind) :
    (∀ key ∈ rootKeys ++ ["remote_fingerprint", "personal_remote_fingerprint", "sync",
      "sync_enabled"], key ≠ "knowledge_stores" ∧
        kind.optionKeys.contains key = decide (StoreKind.personal = kind)) ∧
    (∀ key ∈ ["team_root", "team_knowledge_root"], key ≠ "knowledge_stores" ∧
      kind.optionKeys.contains key = decide (StoreKind.team = kind)) ∧
    ∀ key ∈ ignoredKeys ++ settingOptions, key ≠ "knowledge_stores" ∧
      kind.optionKeys.contains key = false := by
  cases kind <;> decide

theorem optionKeys_subset (kind : StoreKind) : kind.optionKeys ⊆ optionKeys := by
  cases kind <;> decide

theorem any_touches_personalWrites (h : personalWrites stores = .ok ws) :
    ws.any (Write.touches kind) =
      (decide (.personal = kind) && (stores.lookup "personal").isSome) := by
  rw [personalWrites] at h
  cases hgiven : stores.lookup "personal" with
  | none =>
    rw [hgiven] at h
    cases h
    exact (Bool.and_false _).symm
  | some v =>
    rw [hgiven] at h
    obtain ⟨store, rfl, rfl⟩ := map_mappingOr h
    exact (Bool.or_false _).trans (Bool.and_true _).symm

theorem any_touches_teamWrites (stores : Fields) : (teamWrites stores).any (Write.touches kind) =
    (decide (.team = kind) && (stores.lookup "team").isSome) := by
  rw [teamWrites]
  cases stores.lookup "team" with
  | none => exact (Bool.and_false _).symm
  | some v => exact (Bool.or_false _).trans (Bool.and_true _).symm

theorem OptionWrites.any_touches (h : OptionWrites option ws) (kind : StoreKind) :
    ws.any (Write.touches kind) = givesStore kind option := by
  have hkeys := optionKeys_contains kind
  cases h with
  | ignored hkey =>
    have hkey := hkeys.2.2 _ (List.mem_append_left _ hkey)
    rw [givesStore_of_ne hkey.1, hkey.2]
    rfl
  | root hkey =>
    have hkey := hkeys.1 _ (List.mem_append_left _ hkey)
    rw [givesStore_of_ne hkey.1, hkey.2]
    exact Bool.or_false _
  | teamRoot hkey =>
    have hkey := hkeys.2.1 _ hkey
    rw [givesStore_of_ne hkey.1, hkey.2]
    exact Bool.or_false _
  | teamMember => cases kind <;> rfl
  | remote hkey =>
    have hkey := hkeys.1 _ (List.mem_append_right _ (List.mem_append_left ["sync", _] hkey))
    rw [givesStore_of_ne hkey.1, hkey.2]
    exact Bool.or_false _
  | sync hkey =>
    have hkey := hkeys.1 _ (List.mem_append_right _
      (List.mem_append_right ["remote_fingerprint", _] hkey))
    rw [givesStore_of_ne hkey.1, hkey.2]
    exact Bool.or_false _
  | experiment => cases kind <;> rfl
  | setting hkey =>
    have hkey := hkeys.2.2 _ (List.mem_append_right _ hkey)
    rw [givesStore_of_ne hkey.1, hkey.2]
    rfl
  | personal => cases kind <;> rfl
  | noTeam => cases kind <;> rfl
  | team => cases kind <;> rfl
  | stores hpersonal =>
    rw [List.any_append, any_touches_personalWrites hpersonal, any_touches_teamWrites,
      givesStore_stores]
    cases kind with
    | personal => exact Bool.or_false _
    | team => rfl
  | other hkey =>
    rw [givesStore_of_ne]
    · apply Eq.symm
      apply Bool.eq_false_iff.2
      rw [ne_eq, List.contains_iff_mem]
      exact fun hmem => hkey (optionKeys_subset kind hmem)
    · rintro rfl
      exact hkey (by decide)

def StoreEdit.Unique : StoreEdit → Prop
  | field _ v => v.UniqueKeys
  | rooted v => v.UniqueKeys
  | merge update => (Value.dict update).UniqueKeys
  | reset given => ∀ store, given = some store → (Value.dict store).UniqueKeys
  | enable _ => True

/-- The values that are written have no mapping with two fields of one name. -/
def Write.Unique : Write → Prop
  | put _ v => v.UniqueKeys
  | knowledgeRoot v => v.UniqueKeys
  | merge _ v => v.UniqueKeys
  | store _ edit => edit.Unique

theorem uniqueKeys_lookup (h : (Value.dict fields).UniqueKeys) (hv : fields.lookup key = some v) :
    v.UniqueKeys :=
  Value.uniqueFields_iff.1 h.2 (key, v) (Dict.mem_of_lookup hv)

theorem OptionWrites.unique (h : OptionWrites option ws) (hv : option.2.UniqueKeys) :
    ∀ w ∈ ws, w.Unique := by
  cases h with
  | ignored => exact fun _ hw => (List.not_mem_nil hw).elim
  | root =>
    rw [List.forall_mem_cons, List.forall_mem_cons, List.forall_mem_singleton]
    exact ⟨hv, hv, hv⟩
  | teamRoot => exact List.forall_mem_singleton.2 hv
  | teamMember => exact List.forall_mem_singleton.2 hv
  | remote => exact List.forall_mem_singleton.2 hv
  | sync =>
    rw [List.forall_mem_cons, List.forall_mem_singleton]
    exact ⟨hv, hv⟩
  | experiment => exact List.forall_mem_singleton.2 hv
  | setting => exact List.forall_mem_singleton.2 hv
  | personal => exact List.forall_mem_singleton.2 hv
  | noTeam => exact List.forall_mem_singleton.2 nofun
  | team => exact List.forall_mem_singleton.2 hv
  | stores hpersonal =>
    intro w hw
    obtain ⟨kind, v, hlookup, rfl, _⟩ := mem_storesWrites hpersonal hw
    intro store hstore
    rw [← mapping_eq_some.1 hstore]
    exact uniqueKeys_lookup hv hlookup
  | other => exact List.forall_mem_singleton.2 hv

theorem mem_allWrites (h : allWrites options = .ok writes) (hw : w ∈ writes) :
    ∃ option ∈ options, ∃ ws, OptionWrites option ws ∧ w ∈ ws := by
  induction options generalizing writes with
  | nil =>
    cases h
    cases hw
  | cons option options ih =>
    rw [allWrites] at h
    obtain ⟨ws, hws, h⟩ := Except.bind_eq_ok.1 h
    obtain ⟨rest, hrest, h⟩ := Except.bind_eq_ok.1 h
    cases h
    cases List.mem_append.1 hw with
    | inl hw => exact ⟨option, List.mem_cons_self, ws, optionWrites_ok hws, hw⟩
    | inr hw =>
      obtain ⟨other, hmem, vs, hvs, hw⟩ := ih hrest hw
      exact ⟨other, List.mem_cons_of_mem _ hmem, vs, hvs, hw⟩

theorem any_touches_allWrites (h : allWrites options = .ok writes) (kind : StoreKind) :
    writes.any (Write.touches kind) = options.any (givesStore kind) := by
  induction options generalizing writes with
  | nil =>
    cases h
    rfl
  | cons option options ih =>
    rw [allWrites] at h
    obtain ⟨ws, hws, h⟩ := Except.bind_eq_ok.1 h
    obtain ⟨rest, hrest, h⟩ := Except.bind_eq_ok.1 h
    cases h
    rw [List.any_append, List.any_cons, ih hrest, (optionWrites_ok hws).any_touches]

theorem allWrites_append (h : allWrites (before ++ after) = .ok writes) :
    ∃ vs ws, allWrites before = .ok vs ∧ allWrites after = .ok ws ∧ writes = vs ++ ws := by
  induction before generalizing writes with
  | nil => exact ⟨[], writes, rfl, h, rfl⟩
  | cons option before ih =>
    rw [List.cons_append, allWrites] at h
    obtain ⟨os, hos, h⟩ := Except.bind_eq_ok.1 h
    obtain ⟨rest, hrest, h⟩ := Except.bind_eq_ok.1 h
    cases h
    obtain ⟨vs, ws, hvs, hws, rfl⟩ := ih hrest
    apply Exists.intro (os ++ vs)
    apply Exists.intro ws
    rw [allWrites, hos, ok_bind, hvs]
    exact ⟨rfl, hws, (List.append_assoc _ _ _).symm⟩

/-- Writes of options that have one value each. -/
structure Steps (writes : List Write) : Prop where
  proper : ∀ w ∈ writes, w.Proper
  unique : ∀ w ∈ writes, w.Unique
  merges : ∀ key u v, .merge key u ∈ writes → .merge key v ∈ writes → u = v
  storeMerges : ∀ kind u v, .store kind (.merge u) ∈ writes → .store kind (.merge v) ∈ writes →
    u = v

theorem steps_allWrites (hunique : (Value.dict options).UniqueKeys)
    (h : allWrites options = .ok writes) : Steps writes where
  proper w hw := by
    obtain ⟨option, _, ws, hws, hw⟩ := mem_allWrites h hw
    exact hws.proper w hw
  unique w hw := by
    obtain ⟨option, hmem, ws, hws, hw⟩ := mem_allWrites h hw
    exact hws.unique (Value.uniqueFields_iff.1 hunique.2 option hmem) w hw
  merges key u v hu hv := by
    obtain ⟨option, hmem, ws, hws, hu⟩ := mem_allWrites h hu
    obtain ⟨other, hmem', vs, hvs, hv⟩ := mem_allWrites h hv
    rw [hws.merge hu] at hmem
    rw [hvs.merge hv] at hmem'
    exact Option.some.inj ((Dict.lookup_of_mem hunique.1 hmem).symm.trans
      (Dict.lookup_of_mem hunique.1 hmem'))
  storeMerges kind u v hu hv := by
    obtain ⟨option, hmem, ws, hws, hu⟩ := mem_allWrites h hu
    obtain ⟨other, hmem', vs, hvs, hv⟩ := mem_allWrites h hv
    rw [hws.storeMerge hu] at hmem
    rw [hvs.storeMerge hv] at hmem'
    exact Value.dict.inj (Option.some.inj ((Dict.lookup_of_mem hunique.1 hmem).symm.trans
      (Dict.lookup_of_mem hunique.1 hmem')))

end ExternalIntelligence
