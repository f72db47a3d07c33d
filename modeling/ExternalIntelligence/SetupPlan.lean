import ExternalIntelligence.ChangesetMapping
import ExternalIntelligence.CaptureLedger

namespace ExternalIntelligence
set_option autoImplicit true

/-- What setup needs of the runtime besides: the int that a float is equal to, and whether paths
are compared as on Windows. -/
structure SetupPlatform extends Platform where
  wholeFloat : String → Option Int
  windows : Bool

inductive ActionKind where
  | preparePersonal
  | prepareTeam
  | removeHost
  | writeManaged
  | installSkill
  | writeBinding
  | schedulerEnable
  | schedulerDisable
  | writeManifest
deriving DecidableEq, Repr

def actionOrder : ActionKind → Nat
  | .preparePersonal => 10
  | .prepareTeam => 20
  | .removeHost => 30
  | .writeManaged => 40
  | .installSkill => 50
  | .writeBinding => 60
  | .schedulerEnable | .schedulerDisable => 70
  | .writeManifest => 80

def volatileKeys : List String :=
  ["timestamp", "timestamps", "occurred_at", "created_at", "installed_at", "uninstalled_at",
    "generated_at", "started_at", "updated_at", "completed_at", "transaction_id",
    "transaction_ids", "receipt", "receipt_path", "receipt_paths", "receipt_sha256",
    "operation_receipt", "diagnostic", "diagnostics", "diagnostic_output", "desired_state_digest",
    "live_state_digest"]

def personalIdentityKeys : List String :=
  ["mode", "remote_name", "remote_fingerprint", "remote_classification", "branch"]

structure ReconciliationAction where
  kind : ActionKind
  target : String
  beforeHash : Option String
  afterHash : Option String
  owned : Bool
deriving DecidableEq, Repr

structure SetupError where
  errorCode : String
  retryable : Bool
  dataLossRisk : Bool
  userAction : String
  recoveryCommand : String
  targetKind : String
deriving DecidableEq, Repr

inductive SetupStatus where
  | created
  | updated
  | alreadyCurrent
  | blocked
deriving DecidableEq, Repr

structure SetupReconciliationPlan where
  status : SetupStatus
  desiredStateDigest : String
  liveStateDigest : String
  actions : List ReconciliationAction := []
  changedPaths : List String := []
  retainedPaths : List String
  errors : List SetupError := []
deriving DecidableEq, Repr

/-- The fields of a value that is a mapping. -/
def mapping? : Value → Option Fields
  | .dict fields => some fields
  | _ => none

def mappingOr (value : Value) : Except Raised Fields :=
  match mapping? value with
  | some fields => .ok fields
  | none => .error (valueError "SETUP_STATE_INVALID")

/-- A key that changes from one run to the next. -/
def isVolatile (P : Platform) (name : String) : Bool :=
  let lowered := P.casefold (Text.chars name)
  (texts volatileKeys).contains lowered || (Text.chars "_receipt_path").isSuffixOf lowered ||
    (Text.chars "_diagnostics").isSuffixOf lowered

mutual

def withoutVolatile (P : Platform) : Value → Value
  | .dict fields => .dict (stableFields P fields)
  | .list items | .tuple items => .list (stableItems P items)
  | v => v

def stableItems (P : Platform) : List Value → List Value
  | [] => []
  | v :: items => withoutVolatile P v :: stableItems P items

/-- The fields that do not change from one run to the next. -/
def stableFields (P : Platform) : Fields → Fields
  | [] => []
  | (name, v) :: fields =>
    if isVolatile P name then stableFields P fields
    else (name, withoutVolatile P v) :: stableFields P fields

end

mutual

/-- What is the same for all values that Python takes to be equal: a truth value is a number, a
whole float is an int, and the order of keys does not matter. -/
def plainValue (S : SetupPlatform) : Value → Value
  | .bool b => .int (if b then 1 else 0)
  | .float text => ((S.wholeFloat text).map Value.int).getD (.float text)
  | .list items => .list (plainItems S items)
  | .tuple items => .tuple (plainItems S items)
  | .dict fields => .dict (Value.sortFields (plainFields S fields))
  | v => v

def plainItems (S : SetupPlatform) : List Value → List Value
  | [] => []
  | v :: items => plainValue S v :: plainItems S items

def plainFields (S : SetupPlatform) : Fields → Fields
  | [] => []
  | (name, v) :: fields => (name, plainValue S v) :: plainFields S fields

end

/-- Python's equality. -/
def equalValues (S : SetupPlatform) (a b : Value) : Bool :=
  plainValue S a == plainValue S b

/-- Python's equality of two values, but for what is volatile. -/
def sameStable (S : SetupPlatform) (a b : Value) : Bool :=
  equalValues S (withoutVolatile S.toPlatform a) (withoutVolatile S.toPlatform b)

def valueHash (P : Platform) (value : Value) : String :=
  "sha256:" ++ P.sha256 (canonicalJson value)

def stateDigest (P : Platform) (state : Fields) : String :=
  valueHash P (withoutVolatile P (.dict state))

/-- A path without slashes at its end. -/
def trimSlashes (path : List Char) : List Char :=
  match path with
  | [] => []
  | c :: rest => c :: rest.rdropWhile (· == '/')

/-- A path as paths are compared; another value has none. -/
def normalPath (S : SetupPlatform) (value : Value) : Option (List Char) :=
  match value with
  | .str "" => none
  | .str text =>
    let normalized := trimSlashes (slashed (Text.chars text))
    some (if S.windows then S.casefold normalized else normalized)
  | _ => none

def stateManifest (state : Fields) : Option Fields :=
  mapping? (getOr state "manifest" .none)

/-- A state and its manifest, which a value is looked up in one after the other. -/
def stateSources (state : Fields) : List Fields :=
  state :: (stateManifest state).toList

def stateValue (state : Fields) (keys : List String) : Value :=
  ((stateSources state).findSome? fun source =>
    keys.findSome? fun key => source.lookup key).getD .none

def nestedStore (source : Fields) (kind : String) : Option Fields :=
  (mapping? (getOr source "knowledge_stores" .none)).bind fun stores =>
    mapping? (getOr stores kind .none)

def personalStore (state : Fields) : Option Fields :=
  (stateSources state).findSome? fun source =>
    (mapping? (getOr source "personal" .none)).or
      ((nestedStore source "personal").or (mapping? (getOr source "knowledge_repository" .none)))

/-- The team store that a source has, or that it has none; not every source says. -/
def teamSource (source : Fields) : Option (Option Fields) :=
  match source.lookup "team" with
  | some value => some (mapping? value)
  | none =>
    (mapping? (getOr source "knowledge_stores" .none)).map fun stores =>
      mapping? (getOr stores "team" .none)

def teamStore (state : Fields) : Option Fields :=
  ((stateSources state).findSome? teamSource).join

inductive RootKind where
  | personal
  | team
  | runtime
deriving DecidableEq, Repr

def RootKind.topKeys : RootKind → List String
  | .personal => ["personal_knowledge_root", "personal_root", "knowledge_root"]
  | .team => ["team_knowledge_root", "team_root"]
  | .runtime => ["runtime_root"]

def rootOf (state : Fields) (kind : RootKind) : Value :=
  let value := stateValue state kind.topKeys
  if value ≠ .none then value
  else
    let store := match kind with
      | .personal => personalStore state
      | .team => teamStore state
      | .runtime => none
    (store.map fun fields => getOr fields "root" .none).getD .none

def personalIdentity (state : Fields) : Fields :=
  personalIdentityKeys.map fun key => (key, getOr ((personalStore state).getD []) key .none)

/-- Whether a store is enabled, if it says so. -/
def enabledStore (store : Option Fields) : Option Bool :=
  match store.map fun fields => getOr fields "enabled" .none with
  | some (.bool b) => some b
  | _ => none

mutual

/-- A value that an update puts in the place of another. -/
def mergeValue (old : Value) : Value → Value
  | .dict update =>
    match old with
    | .dict base => .dict (mergeMapping base update)
    | _ => .dict update
  | v => v

def mergeMapping (base : Fields) : Fields → Fields
  | [] => base
  | (key, v) :: update =>
    mergeMapping (Dict.set key (mergeValue (getOr base key .none) v) base) update

end

/-- A store as a value of a state. -/
def storeValue (store : Option Fields) : Value :=
  (store.map Value.dict).getD .none

def setManifestStore (manifest : Fields) (kind : String) (value : Value) : Fields :=
  match mapping? (getOr manifest "knowledge_stores" .none) with
  | some stores => Dict.set "knowledge_stores" (.dict (Dict.set kind value stores)) manifest
  | none => Dict.set kind value manifest

/-- Sets a store wherever the state has it. -/
def setStore (state : Fields) (kind : String) (store : Option Fields) : Fields :=
  let value := storeValue store
  let top := Dict.set kind value state
  let nested := match mapping? (getOr top "knowledge_stores" .none) with
    | some stores => Dict.set "knowledge_stores" (.dict (Dict.set kind value stores)) top
    | none => top
  match stateManifest nested with
  | some manifest => Dict.set "manifest" (.dict (setManifestStore manifest kind value)) nested
  | none => nested

def setPersonalField (state : Fields) (key : String) (value : Value) : Fields :=
  setStore state "personal" (some (Dict.set key value ((personalStore state).getD [])))

def setPersonalRoot (state : Fields) (value : Value) : Fields :=
  let rooted := Dict.set "personal_knowledge_root" value state
  let known := if (rooted.lookup "knowledge_root").isSome || (rooted.lookup "personal_root").isNone
    then Dict.set "knowledge_root" value rooted else rooted
  let personal := Dict.set "root" value ((personalStore known).getD [])
  setStore known "personal" (some (if (personal.lookup "enabled").isSome then personal
    else Dict.set "enabled" (.bool true) personal))

def setTeamField (state : Fields) (key : String) (value : Value) : Fields :=
  let team := Dict.set key value ((teamStore state).getD [])
  setStore state "team" (some (if key = "enabled" then
    Dict.set "status" (.str (if value = .bool true then "READY" else "DISABLED")) team else team))

/-- Merges an option into what the state has for its key, as far as both are mappings. -/
def setOption (state : Fields) (key : String) (value : Value) : Fields :=
  Dict.set key (mergeValue (getOr state key .none) value) state

def applyOption (state : Fields) (option : String × Value) : Except Raised Fields :=
  let key := option.1
  let value := option.2
  if ["desired_state_digest", "no_team_knowledge", "team_knowledge", "team_enabled"].contains key
    then .ok state
  else if ["personal_root", "personal_knowledge_root", "knowledge_root"].contains key then
    .ok (setPersonalRoot state value)
  else if ["team_root", "team_knowledge_root"].contains key then
    .ok (setTeamField state "root" value)
  else if key = "team_member_id" then .ok (setTeamField state "team_member_id" value)
  else if ["remote_fingerprint", "personal_remote_fingerprint"].contains key then
    .ok (setPersonalField state "remote_fingerprint" value)
  else if ["sync", "sync_enabled"].contains key then
    .ok (setPersonalField (Dict.set "sync_enabled" value state) "sync_enabled" value)
  else if key = "experiment" then .ok (Dict.set "experiment_enabled" value state)
  else if ["scheduler", "hosts", "managed_targets", "providers", "privacy_profile", "engine_root",
      "runtime_root"].contains key then
    .ok (Dict.set key value state)
  else if key = "personal" then
    (mappingOr value).map fun update =>
      setStore state "personal" (some (mergeMapping ((personalStore state).getD []) update))
  else if key = "team" then
    if value = .none then .ok (setStore state "team" none)
    else
      (mappingOr value).map fun update =>
        setStore state "team" (some (mergeMapping ((teamStore state).getD []) update))
  else if key = "knowledge_stores" then do
    let stores ← mappingOr value
    let personal ← match stores.lookup "personal" with
      | some given => (mappingOr given).map fun store => setStore state "personal" (some store)
      | none => pure state
    pure (match stores.lookup "team" with
      | some given => setStore personal "team" (mapping? given)
      | none => personal)
  else .ok (setOption state key value)

def disablesTeam (explicit : Fields) : Bool :=
  getOr explicit "no_team_knowledge" .none == .bool true ||
    getOr explicit "team_knowledge" .none == .bool false ||
    getOr explicit "team_enabled" .none == .bool false

def enablesTeam (explicit : Fields) : Bool :=
  getOr explicit "team_knowledge" .none == .bool true ||
    getOr explicit "team_enabled" .none == .bool true ||
    (Dict.keys explicit).any ["team_root", "team_knowledge_root"].contains

/-- Enables or disables the team store, if there is one. -/
def switchTeam (state : Fields) (enabled : Bool) : Fields :=
  if (teamStore state).isSome then setTeamField state "enabled" (.bool enabled) else state

def applyExplicit (state explicit : Fields) : Except Raised Fields :=
  (explicit.foldlM applyOption state).map fun applied =>
    if disablesTeam explicit then switchTeam applied false
    else if enablesTeam explicit then switchTeam applied true
    else applied

/-- What setup starts from. -/
def firstState : Fields :=
  [("personal", .dict [("enabled", .bool true)]), ("team", .none), ("providers", .list []),
    ("privacy_profile", .str "private-reusable"), ("experiment_enabled", .bool false),
    ("hosts", .dict []), ("scheduler", .dict [("enabled", .bool false)])]

def setDefault (key : String) (value : Value) (state : Fields) : Fields :=
  if (state.lookup key).isSome then state else Dict.set key value state

/-- Adds the stores that a state must have. -/
def settleStores (state : Fields) : Fields :=
  let personal := setDefault "personal" (.dict [("enabled", .bool true)]) state
  setDefault "team" (storeValue (teamStore personal)) personal

/-- Writes the digest of a state to where it is kept. -/
def stampDigest (P : Platform) (state : Fields) : Fields :=
  let digest := Value.str (stateDigest P state)
  let stamped := Dict.set "desired_state_digest" digest state
  match mapping? (getOr stamped "reconciliation" .none) with
  | some reconciliation =>
    Dict.set "reconciliation" (.dict (Dict.set "desired_state_digest" digest reconciliation)) stamped
  | none => stamped

def buildDesiredState (P : Platform) (current explicit : Fields) : Except Raised Fields :=
  (applyExplicit (if current.isEmpty then firstState else current) explicit).map fun applied =>
    stampDigest P (settleStores applied)

/-- What is said of an error: whether trying again can help, whether data may be lost, what to do
and the command for it. -/
def errorAdvice (code : String) : Bool × Bool × String × String :=
  if code = "PERSONAL_ROOT_CHANGE_REQUIRES_MIGRATION" then
    (false, true, "Run an explicit personal-root migration.", "ei migrate plan")
  else if code = "PERSONAL_REMOTE_CHANGE_REQUIRES_MIGRATION" then
    (false, true, "Run an explicit personal-remote migration.", "ei migrate plan")
  else if code = "TEAM_ROOT_CHANGE_REQUIRES_MIGRATION" then
    (false, true, "Run an explicit team-store reattach or migration.", "ei migrate plan")
  else if code = "RUNTIME_ROOT_CHANGE_REQUIRES_MIGRATION" then
    (false, true, "Run an explicit runtime migration.", "ei migrate plan")
  else if code = "MANAGED_TARGET_CONFLICT" then
    (false, true, "Review the managed target and approve a fresh setup plan.",
      "ei setup --check-only")
  else if code = "ACTIVE_RUNTIME_MISMATCH" then
    (false, true, "Repair or remove the binding owned by the other runtime.",
      "ei setup --check-only")
  else if code = "TEAM_ROOT_CONTRACT_INVALID" then
    (true, true, "Repair the selected team store and retry setup.", "ei setup --check-only")
  else if code = "TEAM_STORE_MANIFEST_INVALID" then
    (true, true, "Repair the selected team store manifest and retry setup.",
      "ei setup --check-only")
  else if code = "TEAM_STORE_ID_MISMATCH" then
    (false, true, "Use the original team store or run an explicit migration.", "ei migrate plan")
  else if code = "TEAM_ROOT_UNAVAILABLE" then
    (true, false, "Make the selected team store available and retry setup.",
      "ei setup --check-only")
  else if code = "SETUP_PLAN_STALE" then
    (true, false, "Re-run setup planning before applying changes.", "ei setup --check-only")
  else if code = "LIVE_STATE_MISMATCH" then
    (true, false, "Re-read the live state and create a fresh plan.", "ei setup --check-only")
  else (false, true, "Review the setup state and create a fresh plan.", "ei setup --check-only")

def setupError (code targetKind : String) : SetupError :=
  let advice := errorAdvice code
  ⟨code, advice.1, advice.2.1, advice.2.2.1, advice.2.2.2, targetKind⟩

def managedRecords (state : Fields) : Fields :=
  match ["managed_targets", "managed", "target_hashes"].findSome?
      fun key => mapping? (getOr state key .none) with
  | some records => records
  | none =>
    ((stateManifest state).bind fun manifest =>
      mapping? (getOr manifest "managed_targets" .none)).getD []

/-- The value of the first of some keys that a record has. -/
def recordField (keys : List String) (record : Value) : Option Value :=
  (mapping? record).bind fun fields => keys.findSome? fun key => fields.lookup key

def recordHash (record : Value) : Value :=
  (recordField ["hash", "live_hash", "current_hash", "installed_hash"] record).getD record

def ownershipHash (record : Value) : Value :=
  (recordField ["ownership_hash", "manifest_hash", "owned_hash", "expected_hash"] record).getD .none

def isOwned (record : Value) : Bool :=
  (mapping? record).any fun fields => getOr fields "owned" .none == .bool true

/-- Whether a record that setup owns says one hash and the target has another. -/
def hashesDiffer (S : SetupPlatform) (record live : Value) : Bool :=
  let expected := ownershipHash record
  let actual := recordHash live
  isOwned record && expected != .none && actual != .none && !equalValues S actual expected

def managedConflict (S : SetupPlatform) (current live : Fields) : Bool :=
  let liveRecords := managedRecords live
  (managedRecords current).any (fun p =>
    hashesDiffer S p.2 ((liveRecords.lookup p.1).getD p.2)) ||
    liveRecords.any fun p => hashesDiffer S p.2 p.2

/-- The values of a field that is a mapping. -/
def fieldValues (state : Fields) (key : String) : List Value :=
  ((mapping? (getOr state key .none)).getD []).map Prod.snd

def bindingRuntimeMismatch (S : SetupPlatform) (desired live : Fields) : Bool :=
  match normalPath S (rootOf desired .runtime) with
  | none => false
  | some runtime =>
    (fieldValues live "hosts" ++ fieldValues live "bindings").any fun item =>
      let bound := (recordField ["runtime_root", "binding_runtime_root", "bound_runtime_root",
        "runtime"] item).getD .none
      bound != .none && decide (normalPath S bound ≠ some runtime)

def teamIdentityChanged (S : SetupPlatform) (current desired : Fields) : Bool :=
  match teamStore current, teamStore desired with
  | some old, some new =>
    let oldId := getOr old "store_id" .none
    let newId := getOr new "store_id" .none
    decide (normalPath S (getOr old "root" .none) ≠ normalPath S (getOr new "root" .none)) ||
      oldId != .none && newId != .none && !equalValues S oldId newId
  | _, _ => false

/-- Whether both states have a root of a kind, and not the same. -/
def rootChanged (S : SetupPlatform) (current desired : Fields) (kind : RootKind) : Bool :=
  match normalPath S (rootOf current kind), normalPath S (rootOf desired kind) with
  | some old, some new => decide (old ≠ new)
  | _, _ => false

/-- A first setup has no identity of a repository to protect. -/
def personalRemoteChanged (S : SetupPlatform) (current desired : Fields) : Bool :=
  (personalStore current).isSome &&
    !equalValues S (.dict (personalIdentity current)) (.dict (personalIdentity desired))

def identityError (S : SetupPlatform) (current desired : Fields) : Option SetupError :=
  if rootChanged S current desired .personal then
    some (setupError "PERSONAL_ROOT_CHANGE_REQUIRES_MIGRATION" "personal-root")
  else if teamIdentityChanged S current desired then
    some (setupError "TEAM_ROOT_CHANGE_REQUIRES_MIGRATION" "team-store")
  else if rootChanged S current desired .runtime then
    some (setupError "RUNTIME_ROOT_CHANGE_REQUIRES_MIGRATION" "runtime-root")
  else if personalRemoteChanged S current desired then
    some (setupError "PERSONAL_REMOTE_CHANGE_REQUIRES_MIGRATION" "personal-remote")
  else none

/-- The error that the team store as found is reported with. -/
def liveTeamError (live : Fields) : Option SetupError :=
  match (teamStore live).map fun fields => getOr fields "live_error" .none with
  | some (.str code) =>
    let known := ["TEAM_ROOT_CONTRACT_INVALID", "TEAM_STORE_MANIFEST_INVALID",
      "TEAM_STORE_ID_MISMATCH", "TEAM_ROOT_UNAVAILABLE"]
    some (setupError (if known.contains code then code else "TEAM_ROOT_CONTRACT_INVALID")
      "team-store")
  | _ => none

def blockingError (S : SetupPlatform) (current desired live : Fields) : Option SetupError :=
  (identityError S current desired).or
    ((if bindingRuntimeMismatch S desired live then
        some (setupError "ACTIVE_RUNTIME_MISMATCH" "host-binding") else none).or
      ((liveTeamError live).or
        (if managedConflict S current live then
          some (setupError "MANAGED_TARGET_CONFLICT" "managed-target") else none)))

def fieldValue (state : Fields) (key : String) (absent : Value) : Value :=
  let value := stateValue state [key]
  if value = .none then absent else value

def hostMap (state : Fields) : Fields :=
  (mapping? (stateValue state ["hosts"])).getD []

/-- Whether a target that setup owns was looked for and not found. -/
def liveTargetMissing (live : Fields) (target expected : Value) : Bool :=
  match target, expected with
  | .str path, .str _ =>
    path != "" && ((managedRecords live).lookup path).any fun record =>
      (mapping? record).any fun fields => getOr fields "hash" .none == .none
  | _, _ => false

structure HostChanges where
  actions : List ReconciliationAction := []
  changed : List String := []
  managed : Bool := false
deriving DecidableEq, Repr

def HostChanges.append (a b : HostChanges) : HostChanges :=
  ⟨a.actions ++ b.actions, a.changed ++ b.changed, a.managed || b.managed⟩

def removeHost (P : Platform) (host : String) (record : Value) : HostChanges :=
  let target := "hosts/" ++ host
  { actions := [⟨.removeHost, target, some (valueHash P record), none, true⟩]
    changed := [target] }

def addHost (P : Platform) (host : String) (record : Value) : HostChanges :=
  let target := "hosts/" ++ host
  let after := some (valueHash P record)
  { actions := [⟨.installSkill, target ++ "/skill", none, after, true⟩,
      ⟨.writeBinding, target ++ "/binding", none, after, true⟩]
    changed := [target] }

/-- Whether two records differ in one of some keys. -/
def differsIn (S : SetupPlatform) (keys : List String) (old new : Fields) : Bool :=
  keys.any fun key => !equalValues S (getOr old key .none) (getOr new key .none)

/-- Whether the binding of a host is missing. -/
def repairsBinding (live record : Fields) : Bool :=
  liveTargetMissing live (getOr record "skill_binding_path" .none)
    (getOr record "skill_binding_hash" .none)

/-- Whether the skill of a host is missing. -/
def repairsSkill (live record : Fields) : Bool :=
  liveTargetMissing live (getOr record "skill_destination" .none)
    (getOr record "installed_skill_hash" .none)

def rewriteHost (P : Platform) (kind : ActionKind) (target : String) (old new : Fields)
    (changed missing : Bool) : List ReconciliationAction :=
  if changed || missing then
    [⟨kind, target, if missing then none else some (valueHash P (.dict old)),
      some (valueHash P (.dict new)), true⟩]
  else []

def compareHost (S : SetupPlatform) (live : Fields) (host : String) (old new : Value) :
    HostChanges :=
  let target := "hosts/" ++ host
  let same := sameStable S old new
  match old, new with
  | .dict oldFields, .dict newFields =>
    let missingBinding := repairsBinding live oldFields
    let missingSkill := repairsSkill live oldFields
    if same && !(missingBinding || missingSkill) then {}
    else
      { actions :=
          rewriteHost S.toPlatform .writeBinding (target ++ "/binding") oldFields newFields
            (differsIn S ["skill_binding_hash", "binding_hash"] oldFields newFields)
            missingBinding ++
          rewriteHost S.toPlatform .installSkill (target ++ "/skill") oldFields newFields
            (differsIn S ["installed_skill_hash", "skill_hash"] oldFields newFields) missingSkill
        changed := [target]
        managed := !same }
  | _, _ => if same then {} else { changed := [target], managed := true }

/-- The keys of one mapping that are not of another, sorted. -/
def keysOnlyIn (a b : Fields) : List String :=
  sortedSet ((Dict.keys a).filter fun key => (b.lookup key).isNone)

def keysInBoth (a b : Fields) : List String :=
  sortedSet ((Dict.keys a).filter fun key => (b.lookup key).isSome)

def hostActionChanges (S : SetupPlatform) (current desired live : Fields) : HostChanges :=
  let old := hostMap current
  let new := hostMap desired
  let removed := (keysOnlyIn old new).map fun host =>
    removeHost S.toPlatform host (getOr old host .none)
  let added := (keysOnlyIn new old).map fun host =>
    addHost S.toPlatform host (getOr new host .none)
  let kept := (keysInBoth old new).map fun host =>
    compareHost S live host (getOr old host .none) (getOr new host .none)
  (removed ++ added ++ kept).foldl HostChanges.append {}

def settingKeys : List String :=
  ["providers", "privacy_profile", "experiment_enabled", "engine_root", "sync_enabled"]

def memberChanged (S : SetupPlatform) (current desired : Fields) : Bool :=
  match teamStore current, teamStore desired with
  | some old, some new => differsIn S ["team_member_id"] old new
  | _, _ => false

def settingsChanges (S : SetupPlatform) (current desired : Fields) : List String :=
  settingKeys.filter (fun key =>
      !sameStable S (fieldValue current key .none) (fieldValue desired key .none)) ++
    (if enabledStore (teamStore current) ≠ enabledStore (teamStore desired) then ["team"] else []) ++
    (if memberChanged S current desired then ["team_member_id"] else [])

/-- The settings of a state that a change of settings is hashed over. -/
def settingsOf (state : Fields) (changes : List String) : Value :=
  .dict (((changes.filter fun key => !(["team", "team_member_id", "hosts"].contains key)).map
    fun key => (key, fieldValue state key .none)) ++
      [("team", storeValue (teamStore state)), ("hosts", .dict (hostMap state))])

def retainedTexts (state : Fields) : List String :=
  match getOr state "retained_paths" .none with
  | .list items | .tuple items => items.filterMap fun item =>
    match item with
    | .str text => some text
    | _ => none
  | _ => []

def retainedRoots (P : Platform) (state : Fields) : List String :=
  [RootKind.personal, .team].filterMap fun kind =>
    let root := rootOf state kind
    if root = .none then none else some (pyStr P root)

def retainedPaths (P : Platform) (current desired : Fields) : List String :=
  ([current, desired].flatMap retainedTexts ++
    [current, desired].flatMap (retainedRoots P)).eraseDups

def schedulerEnabled (scheduler : Value) : Bool :=
  match scheduler with
  | .dict fields => getOr fields "enabled" .none == .bool true
  | v => v == .bool true

def preparePersonal (P : Platform) (current desired : Fields) : List ReconciliationAction :=
  match personalStore current, personalStore desired with
  | none, some store =>
    [⟨.preparePersonal, "personal", none, some (valueHash P (.dict store)), false⟩]
  | _, _ => []

def prepareTeam (P : Platform) (current desired : Fields) : List ReconciliationAction :=
  if enabledStore (teamStore desired) = some true ∧ enabledStore (teamStore current) ≠ some true then
    [⟨.prepareTeam, "team", none, some (valueHash P (storeValue (teamStore desired))), false⟩]
  else []

def writeSettings (P : Platform) (current desired : Fields) (changes : List String) :
    List ReconciliationAction :=
  if changes.isEmpty then []
  else
    [⟨.writeManaged, "managed-settings", some (valueHash P (settingsOf current changes)),
      some (valueHash P (settingsOf desired changes)), true⟩]

def switchScheduler (P : Platform) (current desired : Fields) : List ReconciliationAction :=
  let old := fieldValue current "scheduler" (.dict [])
  let new := fieldValue desired "scheduler" (.dict [])
  if schedulerEnabled old = schedulerEnabled new then []
  else
    [⟨if schedulerEnabled new then .schedulerEnable else .schedulerDisable, "scheduler",
      some (valueHash P old), some (valueHash P new), true⟩]

/-- The settings that a plan changes; the hosts are one of them when a record of one changes. -/
def plannedSettings (S : SetupPlatform) (current desired live : Fields) : List String :=
  settingsChanges S current desired ++
    (if (hostActionChanges S current desired live).managed then ["hosts"] else [])

def plannedActions (S : SetupPlatform) (current desired live : Fields) :
    List ReconciliationAction :=
  let P := S.toPlatform
  (preparePersonal P current desired ++ prepareTeam P current desired ++
    (hostActionChanges S current desired live).actions ++
    writeSettings P current desired (plannedSettings S current desired live) ++
    switchScheduler P current desired).mergeSort fun a b =>
      decide (actionOrder a.kind < actionOrder b.kind) ||
        actionOrder a.kind == actionOrder b.kind && decide (a.target ≤ b.target)

/-- The paths that the steps of a plan change, the manifest apart. -/
def plannedPaths (S : SetupPlatform) (current desired live : Fields) : List String :=
  let P := S.toPlatform
  (preparePersonal P current desired).map (·.target) ++
    (prepareTeam P current desired).map (·.target) ++
    (hostActionChanges S current desired live).changed ++
    plannedSettings S current desired live ++
    (switchScheduler P current desired).map (·.target)

def planSetupReconciliation (S : SetupPlatform) (current desired live : Fields) :
    SetupReconciliationPlan :=
  let P := S.toPlatform
  let digest := stateDigest P desired
  let retained := retainedPaths P current desired
  match blockingError S current desired live with
  | some error =>
    { status := .blocked, desiredStateDigest := digest, liveStateDigest := stateDigest P live
      retainedPaths := retained, errors := [error] }
  | none =>
    let actions := plannedActions S current desired live
    if actions.isEmpty then
      { status := .alreadyCurrent, desiredStateDigest := digest
        liveStateDigest := stateDigest P live
        changedPaths := (plannedPaths S current desired live).eraseDups
        retainedPaths := retained }
    else
      { status := if current.isEmpty then .created else .updated
        desiredStateDigest := digest, liveStateDigest := stateDigest P live
        actions := actions ++ [⟨.writeManifest, "install-manifest",
          some (stateDigest P current), some digest, true⟩]
        changedPaths :=
          (plannedPaths S current desired live ++ ["install-manifest"]).eraseDups
        retainedPaths := retained }

end ExternalIntelligence
