import ExternalIntelligence.Durable
import ExternalIntelligence.Models

namespace ExternalIntelligence.Catalog
set_option autoImplicit true

/-- The digest of bytes in hexadecimal digits, and the time stamp of a change of a directory. -/
structure CatalogPlatform where
  sha256 : List UInt8 → String
  modified : Nat → Nat

/-- A CatalogUnknown, another ValueError or an OSError, and whatever else a callback raises. -/
inductive CatalogFault where
  | unknown (code : String)
  | value (code : String)
  | other (code : String)
deriving DecidableEq, Repr

inductive EntryPhase where
  | prepared
  | writing
  | registered
  | deleting
deriving DecidableEq, Repr

/-- A row of the table `entries`. -/
structure CatalogEntry where
  shard : String
  phase : EntryPhase
  digest : String
  size : Nat
  purpose : String
  targetSize : Nat
  oldDigest : String := ""
  tag : String := ""
  retryTag : String := ""
  createdAt : String := ""
  expiresAt : String := ""
deriving DecidableEq, Repr

/-- The tables; the names of the table `state` are fields, with the shards they are about. -/
structure CatalogTables where
  entries : List (String × CatalogEntry) := []
  accounting : List (String × Nat × Nat) := []
  membership : List (String × Nat) := []
  complete : Bool := false
  halted : String := ""
  blocked : List (String × (Option Nat × Nat) × Nat) := []
  temporary : List (String × String) := []
  revision : List (String × Nat) := []
deriving DecidableEq, Repr

/-- An entry root on disk: what stands in it by name, the shard directories of `managed` with
their stamps, the payload files in them by entry id, temporary files by shard and name. -/
structure CatalogRoot where
  names : List (String × List UInt8) := []
  shards : List (String × Nat) := []
  files : List (String × List UInt8) := []
  temporaries : List (String × String) := []
  tables : Option CatalogTables := none
  changes : Nat := 0
deriving DecidableEq, Repr

/-- A catalog over a root, and the milliseconds that the budget of a call allows. -/
structure RuntimeCatalog where
  filePrefix : String := ""
  cleanTemporary : Option (String → Except CatalogFault Bool) := none
  remainingMs : Nat := 5000

abbrev CatalogM (α : Type) : Type :=
  Durable CatalogRoot CatalogFault α

def catalogPurposes : List String :=
  ["unknown", "legacy", "pending", "validated-result", "queue", "intent"]

def maxEntryBytes : Nat :=
  4 * 1024 * 1024

def isEntryId (id : String) : Bool :=
  match Text.chars id with
  | [] => false
  | c :: cs =>
    (isAsciiLetter c || Text.isDigit c) && cs.length ≤ 127 &&
      cs.all fun d => isAsciiLetter d || Text.isDigit d || (Text.chars "_.-").contains d

/-- The directory of an entry in `managed`. -/
def shardOf (P : CatalogPlatform) (id : String) : String :=
  takeText 2 (P.sha256 ((Text.chars id).map fun c => c.toNat.toUInt8))

def isShardName (name : String) : Bool :=
  (Text.chars name).length == 2 && (Text.chars name).all isLowerHex

def startsWith (start text : String) : Bool :=
  (Text.chars start).isPrefixOf (Text.chars text)

def endsWith (ending text : String) : Bool :=
  (Text.chars ending).isSuffixOf (Text.chars text)

def databaseName : String :=
  ".runtime-catalog.sqlite"

/-- The name of an entry that is not in `managed` yet. -/
def flatName (id : String) : String :=
  id ++ ".json"

def stemOf (name : String) : String :=
  takeText ((Text.chars name).length - 5) name

/-- Validated results are charged to the item they belong to. -/
def itemCharge (purpose : String) : Nat :=
  if purpose = "validated-result" then 0 else 1

def charge (purpose : String) (size : Nat) (accounting : List (String × Nat × Nat)) :
    List (String × Nat × Nat) :=
  let old := (accounting.lookup purpose).getD (0, 0)
  Dict.set purpose (old.1 + itemCharge purpose, old.2 + size) accounting

def discharge (purpose : String) (size : Nat) (accounting : List (String × Nat × Nat)) :
    List (String × Nat × Nat) :=
  match accounting.lookup purpose with
  | some old => Dict.set purpose (old.1 - itemCharge purpose, old.2 - size) accounting
  | none => accounting

namespace CatalogTables

def insert (t : CatalogTables) (id : String) (entry : CatalogEntry) : CatalogTables :=
  { t with
    entries := Dict.set id entry t.entries
    accounting := charge entry.purpose entry.size t.accounting }

/-- An update of a row that names its size, with the trigger on it. -/
def resize (t : CatalogTables) (id : String) (change : CatalogEntry → CatalogEntry) :
    CatalogTables :=
  match t.entries.lookup id with
  | none => t
  | some old =>
    { t with
      entries := Dict.set id (change old) t.entries
      accounting := charge (change old).purpose (change old).size
        (discharge old.purpose old.size t.accounting) }

def setPhase (t : CatalogTables) (id : String) (phase : EntryPhase) : CatalogTables :=
  match t.entries.lookup id with
  | none => t
  | some old => { t with entries := Dict.set id { old with phase } t.entries }

def remove (t : CatalogTables) (id : String) : CatalogTables :=
  match t.entries.lookup id with
  | none => t
  | some old =>
    { t with
      entries := t.entries.filter (·.1 != id)
      accounting := discharge old.purpose old.size t.accounting }

/-- The upsert of a write: a row that is there keeps its shard and at least its size. -/
def reserve (t : CatalogTables) (id : String) (entry : CatalogEntry) : CatalogTables :=
  match t.entries.lookup id with
  | none => t.insert id entry
  | some _ => t.resize id fun old =>
      { entry with shard := old.shard, size := max old.size entry.size }

/-- The upsert of a migration: a row that is there is only prepared again. -/
def prepare (t : CatalogTables) (id : String) (entry : CatalogEntry) : CatalogTables :=
  match t.entries.lookup id with
  | none => t.insert id entry
  | some _ => t.setPhase id .prepared

def register (t : CatalogTables) (id : String) : CatalogTables :=
  t.resize id fun old => { old with phase := .registered, size := old.targetSize, oldDigest := "" }

def restore (t : CatalogTables) (id digest : String) (size : Nat) : CatalogTables :=
  t.resize id fun old =>
    { old with phase := .registered, digest, size, targetSize := size, oldDigest := "" }

/-- The rows of a phase in the order of their ids. -/
def rowsIn (t : CatalogTables) (phase : EntryPhase) : List (String × CatalogEntry) :=
  (t.entries.filter fun row => row.2.phase = phase).insertionSort fun a b => a.1 ≤ b.1

/-- The first row, but for one, that waits for its end. -/
def pending (t : CatalogTables) (excludeId : String) : Option (String × CatalogEntry) :=
  [EntryPhase.deleting, .prepared, .writing].findSome? fun phase =>
    (t.rowsIn phase).find? fun row => row.1 ≠ excludeId

/-- The totals of a purpose do not fit the rows that there are of it. -/
def misfits (t : CatalogTables) (totals : List (String × Nat × Nat)) (purpose : String) : Bool :=
  let present := t.entries.any fun row => row.2.purpose = purpose
  let total := (totals.lookup purpose).getD (0, 0)
  (present && ((totals.lookup purpose).isNone || total.2 = 0 ||
      (purpose ≠ "validated-result" && total.1 = 0))) ||
    (!present && (total.1 ≠ 0 || total.2 ≠ 0)) ||
    (purpose = "validated-result" && total.1 ≠ 0)

def totals (t : CatalogTables) : Except CatalogFault (List (String × Nat × Nat)) :=
  let rows := t.accounting.take 7
  if rows.all (fun row => catalogPurposes.contains row.1) ∧
      ¬catalogPurposes.any (t.misfits rows) then .ok rows
  else .error (.unknown "RUNTIME_ACCOUNTING_UNKNOWN")

end CatalogTables

/-- A change in a shard directory gives it a new stamp. -/
def CatalogRoot.touch (P : CatalogPlatform) (shard : String) (c : CatalogRoot) : CatalogRoot :=
  { c with shards := Dict.set shard (P.modified c.changes) c.shards, changes := c.changes + 1 }

def unknown (code : String) : CatalogM α :=
  Durable.raise (.unknown code)

def expect (p : Prop) [Decidable p] (code : String) : CatalogM Unit :=
  Durable.require p (.unknown code)

def tables : CatalogM CatalogTables := do
  let c ← Durable.read
  match c.tables with
  | some t => pure t
  | none => unknown "RUNTIME_CATALOG_UNAVAILABLE"

def update (f : CatalogTables → CatalogTables) : CatalogM Unit :=
  Durable.commit fun c => { c with tables := c.tables.map f }

/-- Opens the database, or makes it in a root that has neither it nor managed entries. -/
def connection : CatalogM Unit := do
  let c ← Durable.read
  match c.tables with
  | some _ => pure ()
  | none =>
    if (c.names.lookup "managed").isSome then
      unknown (if (c.names.lookup databaseName).isSome then "RUNTIME_CATALOG_UNAVAILABLE"
        else "RUNTIME_CATALOG_MISSING")
    else do
      Durable.commit fun c => { c with names := Dict.set databaseName [] c.names }
      Durable.commit fun c => { c with tables := some {} }

def managedPath (id : String) : CatalogM Unit :=
  expect (isEntryId id = true) "RUNTIME_ID_INVALID"

def ensureManaged : CatalogM Unit := do
  let c ← Durable.read
  if (c.names.lookup "managed").isSome then pure ()
  else Durable.commit fun c => { c with names := Dict.set "managed" [] c.names }

def ensureDirectory (P : CatalogPlatform) (shard : String) : CatalogM Unit := do
  let c ← Durable.read
  if (c.shards.lookup shard).isSome then pure ()
  else Durable.commit (CatalogRoot.touch P shard)

/-- The directory of an entry, made where it is missing. -/
def ensureShard (P : CatalogPlatform) (id : String) : CatalogM Unit := do
  managedPath id
  ensureManaged
  ensureDirectory P (shardOf P id)

def digestOf (P : CatalogPlatform) (file : Option (List UInt8)) : CatalogM (String × Nat) :=
  match file with
  | none => Durable.raise (.value "SAFE_PATH_MISSING")
  | some data => do
    expect (data.length ≤ maxEntryBytes) "RUNTIME_ENTRY_TOO_LARGE"
    pure (P.sha256 data, data.length)

/-- The file of an entry, in `managed` or flat. -/
def lookupEntry (P : CatalogPlatform) (id : String) : CatalogM (Option (List UInt8)) := do
  managedPath id
  let c ← Durable.read
  match c.files.lookup id, c.names.lookup (flatName id) with
  | some data, some flat => do
    let managed ← digestOf P (some data)
    let other ← digestOf P (some flat)
    expect (other = managed) "RUNTIME_DUPLICATE_MISMATCH"
    pure (some data)
  | some data, none => pure (some data)
  | none, flat => pure flat

def membership : CatalogM (List (String × Nat)) := do
  let c ← Durable.read
  expect (c.shards.all (fun shard => isShardName shard.1) = true) "RUNTIME_MEMBERSHIP_UNKNOWN"
  pure c.shards

/-- Two listings agree but for some shards. -/
def sameExcept (touched : List String) (a b : List (String × Nat)) : Bool :=
  (Dict.keys a ++ Dict.keys b).all fun shard =>
    touched.contains shard || a.lookup shard == b.lookup shard

def membershipExcept (touched : List String) : CatalogM (List (String × Nat)) := do
  let t ← tables
  let current ← membership
  expect (sameExcept touched t.membership current = true) "RUNTIME_MEMBERSHIP_UNKNOWN"
  pure current

/-- Whether the caller's cleaner removed a temporary file of a shard. -/
def cleaned (P : CatalogPlatform) (cat : RuntimeCatalog) (shard name : String) : CatalogM Bool :=
  match cat.cleanTemporary with
  | none => pure false
  | some clean => do
    let gone ← Durable.lift (clean name)
    if gone then do
      Durable.commit fun c =>
        { c with temporaries := c.temporaries.erase (shard, name) }.touch P shard
      pure true
    else pure false

/-- The temporary file that an earlier scan stopped at is tried again. -/
def recallTemporary (P : CatalogPlatform) (cat : RuntimeCatalog) (shard : String) :
    CatalogM Unit := do
  let t ← tables
  match t.temporary.lookup shard, cat.cleanTemporary with
  | some hint, some _ => do
    expect (endsWith ".tmp" hint = true ∧ '/' ∉ Text.chars hint) "RUNTIME_CATALOG_UNAVAILABLE"
    let c ← Durable.read
    if (shard, hint) ∈ c.temporaries then do
      let _ ← cleaned P cat shard hint
      pure ()
    else pure ()
  | _, _ => pure ()

/-- A scan that did not end is only tried again after a change or with a larger allowance. -/
def enterShard (cat : RuntimeCatalog) (shard : String) : CatalogM Unit := do
  let c ← Durable.read
  let t ← tables
  let stamp := (c.shards.lookup shard, (t.revision.lookup shard).getD 0)
  expect (((t.blocked.lookup shard).all fun saved => saved.1 ≠ stamp ∨
    saved.2 + max 100 (saved.2 / 2) ≤ cat.remainingMs) = true) "RUNTIME_SHARD_INVENTORY_UNKNOWN"
  update fun t => { t with blocked := Dict.set shard (stamp, cat.remainingMs) t.blocked }

def sweepTemporary (P : CatalogPlatform) (cat : RuntimeCatalog) (shard name : String) :
    CatalogM Unit := do
  expect (cat.cleanTemporary.isSome = true) "RUNTIME_SHARD_INVENTORY_UNKNOWN"
  update fun t => { t with temporary := Dict.set shard name t.temporary }
  let gone ← cleaned P cat shard name
  expect (gone = true) "RUNTIME_SHARD_INVENTORY_UNKNOWN"

/-- One pass over a shard: whether a temporary file was removed, and the entries seen. -/
def scanShard (P : CatalogPlatform) (cat : RuntimeCatalog) (shard : String) :
    CatalogM (Bool × List String) := do
  let c ← Durable.read
  let temporaries := (c.temporaries.filter fun file => file.1 = shard).map Prod.snd
  Durable.each (sweepTemporary P cat shard) temporaries
  let t ← tables
  let seen := (Dict.keys c.files).filter fun id => shardOf P id = shard
  expect (∀ id ∈ seen, isEntryId id = true ∧ (t.entries.lookup id).any (·.shard = shard) = true)
    "RUNTIME_SHARD_INVENTORY_UNKNOWN"
  pure (!temporaries.isEmpty, seen)

/-- A pass that removed a file is made once more. -/
def scanStable (P : CatalogPlatform) (cat : RuntimeCatalog) (shard : String) :
    CatalogM (List String) := do
  let first ← scanShard P cat shard
  if first.1 then do
    let second ← scanShard P cat shard
    expect (second.1 = false) "RUNTIME_SHARD_INVENTORY_UNKNOWN"
    pure second.2
  else pure first.2

/-- Every settled entry of a shard was seen, but for one that is to be absent. -/
def confirmShard (P : CatalogPlatform) (cat : RuntimeCatalog) (shard : String)
    (absentId : Option String) : CatalogM Unit := do
  let seen ← scanStable P cat shard
  let t ← tables
  expect (∀ row ∈ t.entries, row.2.shard = shard → row.1 ∈ seen ∨ absentId = some row.1 ∨
    row.2.phase ∈ [EntryPhase.prepared, .writing]) "RUNTIME_SHARD_INVENTORY_UNKNOWN"

def shardFault : CatalogFault → CatalogM α
  | .other code => Durable.raise (.other code)
  | _ => unknown "RUNTIME_SHARD_INVENTORY_UNKNOWN"

def validateShard (P : CatalogPlatform) (cat : RuntimeCatalog) (shard : String)
    (absentId : Option String) : CatalogM (Option Nat) := do
  recallTemporary P cat shard
  enterShard cat shard
  (confirmShard P cat shard absentId).handle shardFault
  update fun t => { t with blocked := t.blocked.filter (·.1 != shard) }
  update fun t => { t with temporary := t.temporary.filter (·.1 != shard) }
  let c ← Durable.read
  pure (c.shards.lookup shard)

/-- The shard is as it should be and the others have not changed; the listing to be recorded. -/
def confirmedMembership (P : CatalogPlatform) (cat : RuntimeCatalog) (shard : String)
    (absentId : Option String) : CatalogM (List (String × Nat)) := do
  let current ← membershipExcept [shard]
  let stamp ← validateShard P cat shard absentId
  let after ← membership
  expect (after.lookup shard = stamp ∧ sameExcept [shard] current after = true)
    "RUNTIME_SHARD_INVENTORY_UNKNOWN"
  pure after

def settleEntry (P : CatalogPlatform) (cat : RuntimeCatalog) (id shard : String)
    (deleted : Bool) : CatalogM Unit := do
  let after ← confirmedMembership P cat shard (if deleted then some id else none)
  update fun t =>
    { (if deleted then t.remove id else t.register id) with
      blocked := t.blocked.filter (·.1 != shard)
      membership := after }

/-- A name of the root that the inventory is about. -/
def RuntimeCatalog.covers (cat : RuntimeCatalog) (name : String) : Bool :=
  endsWith ".json" name && !startsWith "." name && startsWith cat.filePrefix name

/-- More than 256 other names in the root close the catalog. -/
def ignoreName (ignored : Nat) : CatalogM Unit :=
  if 256 < ignored + 1 then do
    update fun t => { t with halted := "RUNTIME_ROOT_INVENTORY_UNKNOWN" }
    unknown "RUNTIME_ROOT_INVENTORY_UNKNOWN"
  else pure ()

/-- No entry waits in the root for its migration. -/
def scanRoot (cat : RuntimeCatalog) (ignored : Nat) : List String → CatalogM Unit
  | [] => pure ()
  | name :: names =>
    if cat.covers name then unknown "RUNTIME_INVENTORY_PARTIAL"
    else do
      ignoreName ignored
      scanRoot cat (ignored + 1) names

/-- The shard of a replayed entry is looked through. -/
def confirmReplay (P : CatalogPlatform) (cat : RuntimeCatalog)
    (replay : Option (String × CatalogEntry)) : CatalogM Unit :=
  match replay with
  | some row => do
    let _ ← validateShard P cat row.2.shard none
    pure ()
  | none => pure ()

/-- The totals of a root whose inventory is complete, but for a replayed entry. -/
def known (P : CatalogPlatform) (cat : RuntimeCatalog) (replay : Option (String × CatalogEntry)) :
    CatalogM (List (String × Nat × Nat)) := do
  let t ← tables
  match t.pending ((replay.map Prod.fst).getD "") with
  | some row =>
    unknown (if row.2.phase = .deleting then "RUNTIME_DELETE_UNCONFIRMED"
      else "RUNTIME_PREPARED_UNRESOLVED")
  | none => do
    expect (t.halted = "") t.halted
    expect (t.complete = true) "RUNTIME_CAPACITY_UNKNOWN"
    let _ ← membershipExcept ((replay.map fun row => row.2.shard).toList)
    confirmReplay P cat replay
    let c ← Durable.read
    scanRoot cat 0 (Dict.keys c.names)
    let t ← tables
    Durable.lift t.totals

/-- What a write is asked to store. -/
structure CatalogPayload where
  data : List UInt8
  purpose : String := "unknown"
  tag : String := ""
  retryTag : String := ""
  createdAt : String := ""
  expiresAt : String := ""
deriving DecidableEq, Repr

def CatalogPayload.entry (P : CatalogPlatform) (payload : CatalogPayload)
    (shard oldDigest : String) : CatalogEntry where
  shard := shard
  phase := .writing
  digest := P.sha256 payload.data
  size := payload.data.length
  purpose := payload.purpose
  targetSize := payload.data.length
  oldDigest := oldDigest
  tag := payload.tag
  retryTag := payload.retryTag
  createdAt := payload.createdAt
  expiresAt := payload.expiresAt

def exactReplay (P : CatalogPlatform) (entry : CatalogEntry) (payload : CatalogPayload) : Bool :=
  entry.digest = P.sha256 payload.data && entry.targetSize = payload.data.length &&
    entry.purpose = payload.purpose && entry.tag = payload.tag &&
    entry.retryTag = payload.retryTag && entry.createdAt = payload.createdAt &&
    entry.expiresAt = payload.expiresAt

def semanticReplay (entry : CatalogEntry) (payload : CatalogPayload) : Bool :=
  isHash payload.retryTag && payload.createdAt ≠ "" && payload.expiresAt ≠ "" &&
    entry.purpose = payload.purpose && entry.retryTag = payload.retryTag &&
    entry.createdAt = payload.createdAt && entry.expiresAt = payload.expiresAt

/-- Takes up an interrupted write; whether its file was there and is settled now. -/
def replayWrite (P : CatalogPlatform) (cat : RuntimeCatalog) (id : String)
    (entry : CatalogEntry) (payload : CatalogPayload) : CatalogM Bool := do
  let c ← Durable.read
  expect (exactReplay P entry payload = true ∨ (semanticReplay entry payload = true ∧
    c.files.lookup id = none ∧ entry.oldDigest = "" ∧ payload.data.length ≤ entry.size))
    "RUNTIME_RETRY_MISMATCH"
  let _ ← known P cat (some (id, entry))
  let c ← Durable.read
  match c.files.lookup id with
  | none => pure false
  | some data => do
    let actual ← digestOf P (some data)
    if actual = (entry.digest, entry.targetSize) then do
      settleEntry P cat id entry.shard false
      pure true
    else do
      expect (actual.1 = entry.oldDigest) "RUNTIME_WRITE_UNCONFIRMED"
      pure false

def bumpRevision (shard : String) (t : CatalogTables) : CatalogTables :=
  { t with revision := Dict.set shard ((t.revision.lookup shard).getD 0 + 1) t.revision }

/-- A new file takes the place of the old one in one step, by way of a temporary file. -/
def writeFile (P : CatalogPlatform) (id : String) (data : List UInt8) : CatalogM Unit := do
  let temporary := (shardOf P id, "." ++ flatName id ++ ".tmp")
  Durable.commit fun c =>
    { c with temporaries := temporary :: c.temporaries }.touch P (shardOf P id)
  Durable.commit fun c =>
    { c with
      temporaries := c.temporaries.erase temporary
      files := Dict.set id data c.files }.touch P (shardOf P id)

/-- The reservation, the file, and the settlement. -/
def storePayload (P : CatalogPlatform) (cat : RuntimeCatalog) (id oldDigest : String)
    (payload : CatalogPayload) : CatalogM Unit := do
  update fun t =>
    bumpRevision (shardOf P id) (t.reserve id (payload.entry P (shardOf P id) oldDigest))
  ensureShard P id
  writeFile P id payload.data
  let c ← Durable.read
  let actual ← digestOf P (c.files.lookup id)
  expect (actual = (P.sha256 payload.data, payload.data.length)) "RUNTIME_WRITE_UNCONFIRMED"
  let t ← tables
  match t.entries.lookup id with
  | some row => settleEntry P cat id row.shard false
  | none => unknown "RUNTIME_CATALOG_UNAVAILABLE"

def RuntimeCatalog.write (P : CatalogPlatform) (cat : RuntimeCatalog) (id : String)
    (payload : CatalogPayload) : CatalogM Unit := do
  expect (payload.purpose ∈ catalogPurposes) "RUNTIME_PURPOSE_INVALID"
  managedPath id
  connection
  let t ← tables
  match t.entries.lookup id with
  | none => do
    let _ ← known P cat none
    storePayload P cat id "" payload
  | some entry => do
    expect (entry.purpose = payload.purpose) "RUNTIME_PURPOSE_MISMATCH"
    if entry.phase = .writing then do
      let settled ← replayWrite P cat id entry payload
      if settled then pure () else storePayload P cat id entry.oldDigest payload
    else do
      let _ ← known P cat none
      let file ← lookupEntry P id
      let actual ← digestOf P file
      expect (actual = (entry.digest, entry.size)) "RUNTIME_ENTRY_CHANGED"
      storePayload P cat id entry.digest payload

/-- The row is marked, the file removed, and the row after it. -/
def removeEntry (P : CatalogPlatform) (cat : RuntimeCatalog) (id shard : String) :
    CatalogM Unit := do
  update (·.setPhase id .deleting)
  Durable.commit fun c =>
    { c with files := c.files.filter (·.1 != id) }.touch P (shardOf P id)
  settleEntry P cat id shard true

def RuntimeCatalog.delete (P : CatalogPlatform) (cat : RuntimeCatalog) (id : String) :
    CatalogM Bool := do
  connection
  let t ← tables
  let file ← lookupEntry P id
  let c ← Durable.read
  if t.entries.lookup id = none ∧ file = none then pure false
  else do
    expect (c.names.lookup (flatName id) = none) "RUNTIME_DUPLICATE_UNRESOLVED"
    match t.entries.lookup id, file with
    | some entry, some data => do
      let actual ← digestOf P (some data)
      expect (actual = (entry.digest, entry.size)) "RUNTIME_DELETE_UNCONFIRMED"
      let _ ← membershipExcept [entry.shard]
      let _ ← validateShard P cat entry.shard none
      removeEntry P cat id entry.shard
      pure true
    | _, _ => unknown "RUNTIME_DELETE_UNCONFIRMED"

/-- A file that is there has the digest and size of its row. -/
def confirmFile (P : CatalogPlatform) (entry : CatalogEntry) (file : Option (List UInt8)) :
    CatalogM Unit :=
  match file with
  | none => pure ()
  | some data => do
    let actual ← digestOf P (some data)
    expect (actual = (entry.digest, entry.size)) "RUNTIME_PREPARED_MISMATCH"

/-- A flat file moves into its shard, or goes where the shard has the file. -/
def placeFlat (P : CatalogPlatform) (id : String) (flat file : Option (List UInt8)) :
    CatalogM Unit :=
  match flat, file with
  | some data, none =>
    Durable.commit fun c =>
      { c with
        names := c.names.filter (·.1 != flatName id)
        files := Dict.set id data c.files }.touch P (shardOf P id)
  | some _, some _ =>
    Durable.commit fun c => { c with names := c.names.filter (·.1 != flatName id) }
  | none, _ => pure ()

/-- Settles a prepared row whose file is flat, in its shard, or in both places. -/
def repair (P : CatalogPlatform) (cat : RuntimeCatalog) (row : String × CatalogEntry) :
    CatalogM Unit := do
  let _ ← membershipExcept [row.2.shard]
  ensureShard P row.1
  let c ← Durable.read
  expect (¬(c.names.lookup (flatName row.1) = none ∧ c.files.lookup row.1 = none))
    "RUNTIME_PREPARED_MISMATCH"
  confirmFile P row.2 (c.names.lookup (flatName row.1))
  confirmFile P row.2 (c.files.lookup row.1)
  placeFlat P row.1 (c.names.lookup (flatName row.1)) (c.files.lookup row.1)
  settleEntry P cat row.1 row.2.shard false

/-- Cancels a replacement that never reached its file. -/
def restoreUpdate (P : CatalogPlatform) (cat : RuntimeCatalog) (row : String × CatalogEntry)
    (inspectUpdate : List UInt8 → Except CatalogFault (List String)) : CatalogM Unit := do
  let _ ← known P cat (some row)
  let c ← Durable.read
  let metadata ← Durable.lift (inspectUpdate ((c.files.lookup row.1).getD []))
  expect (metadata = [row.2.purpose, row.2.tag, row.2.retryTag, row.2.createdAt,
    row.2.expiresAt]) "RUNTIME_UPDATE_METADATA_UNKNOWN"
  let actual ← digestOf P (c.files.lookup row.1)
  expect (row.2.oldDigest ≠ "" ∧ actual.1 = row.2.oldDigest) "RUNTIME_WRITE_UNCONFIRMED"
  let after ← confirmedMembership P cat row.2.shard none
  update fun t => { t.restore row.1 actual.1 actual.2 with membership := after }

def repairWrite (P : CatalogPlatform) (cat : RuntimeCatalog)
    (inspectUpdate : Option (List UInt8 → Except CatalogFault (List String)))
    (row : String × CatalogEntry) : CatalogM Unit := do
  managedPath row.1
  let c ← Durable.read
  match c.files.lookup row.1 with
  | none => pure ()
  | some data => do
    let actual ← digestOf P (some data)
    if actual = (row.2.digest, row.2.targetSize) then
      settleEntry P cat row.1 row.2.shard false
    else do
      expect (actual.1 = row.2.oldDigest) "RUNTIME_WRITE_UNCONFIRMED"
      match inspectUpdate with
      | some inspect => restoreUpdate P cat row inspect
      | none => pure ()

/-- The callbacks of a migration: the purpose and tag of a flat file, the metadata of a managed
one. -/
structure MigrationCallbacks where
  inspectMetadata : Option (List UInt8 → Except CatalogFault (String × String)) := none
  inspectUpdate : Option (List UInt8 → Except CatalogFault (List String)) := none

def migrateFile (P : CatalogPlatform) (cat : RuntimeCatalog) (calls : MigrationCallbacks)
    (name : String) : CatalogM Unit := do
  let id := stemOf name
  managedPath id
  let c ← Durable.read
  let actual ← digestOf P (c.names.lookup name)
  let metadata ← Durable.lift (match calls.inspectMetadata with
    | some inspect => inspect ((c.names.lookup name).getD [])
    | none => .ok ("unknown", ""))
  let t ← tables
  expect ((t.entries.lookup id).all (fun entry => (entry.digest, entry.size) = actual) = true)
    "RUNTIME_DUPLICATE_MISMATCH"
  expect (metadata.1 ∈ catalogPurposes) "RUNTIME_PURPOSE_INVALID"
  let _ ← membershipExcept []
  update (·.prepare id
    { shard := shardOf P id
      phase := .prepared
      digest := actual.1
      size := actual.2
      purpose := metadata.1
      targetSize := actual.2
      tag := metadata.2 })
  let t ← tables
  match t.entries.lookup id with
  | some entry => repair P cat (id, entry)
  | none => unknown "RUNTIME_CATALOG_UNAVAILABLE"

/-- A temporary file in the root goes where the cleaner says so. -/
def sweepName (cat : RuntimeCatalog) (name : String) : CatalogM Unit :=
  match cat.cleanTemporary with
  | some clean =>
    if endsWith ".tmp" name then do
      let gone ← Durable.lift (clean name)
      if gone then Durable.commit fun c => { c with names := c.names.filter (·.1 != name) }
      else pure ()
    else pure ()
  | none => pure ()

/-- Migrates the flat files up to a number; whether there were no more. -/
def migrateFiles (P : CatalogPlatform) (cat : RuntimeCatalog) (calls : MigrationCallbacks)
    (limit ignored done : Nat) : List String → CatalogM Bool
  | [] => pure true
  | name :: names =>
    if cat.covers name then
      if limit ≤ done then pure false
      else do
        migrateFile P cat calls name
        migrateFiles P cat calls limit ignored (done + 1) names
    else do
      ignoreName ignored
      sweepName cat name
      migrateFiles P cat calls limit (ignored + 1) done names

def migrateBody (P : CatalogPlatform) (cat : RuntimeCatalog) (calls : MigrationCallbacks)
    (limit : Nat) : CatalogM Bool := do
  let t ← tables
  let _ ← Durable.lift t.totals
  expect ((t.rowsIn .deleting).isEmpty = true) "RUNTIME_DELETE_UNCONFIRMED"
  Durable.each (repairWrite P cat calls.inspectUpdate) ((t.rowsIn .writing).take limit)
  let t ← tables
  let prepared := (t.rowsIn .prepared).take limit
  Durable.each (repair P cat) prepared
  let c ← Durable.read
  let complete ← migrateFiles P cat calls limit 0 prepared.length (Dict.keys c.names)
  update fun t => { t with complete }
  let t ← tables
  let _ ← membershipExcept ((t.pending "").map fun row => row.2.shard).toList
  pure (complete && (t.pending "").isNone)

def halt (code : String) : CatalogM Bool := do
  update fun t => { t with halted := code }
  unknown code

/-- What a page fails with closes the catalog, unless it can be taken up again. -/
def haltOn : CatalogFault → CatalogM Bool
  | .other code => Durable.raise (.other code)
  | .value _ => halt "RUNTIME_INVENTORY_UNSAFE"
  | .unknown code =>
    if code ∈ ["RUNTIME_SHARD_INVENTORY_UNKNOWN", "RUNTIME_MEMBERSHIP_UNKNOWN",
        "RUNTIME_DELETE_UNCONFIRMED"] then unknown code
    else halt code

/-- One page of the migration; whether the inventory is complete. -/
def RuntimeCatalog.migratePage (P : CatalogPlatform) (cat : RuntimeCatalog)
    (calls : MigrationCallbacks) (limit : Nat) : CatalogM Bool := do
  Durable.require (0 < limit) (.value "RUNTIME_PAGE_LIMIT_INVALID")
  connection
  let t ← tables
  expect (t.halted = "") t.halted
  (migrateBody P cat calls limit).handle haltOn

/-- The items and bytes that are charged to a purpose. -/
def RuntimeCatalog.capacity (P : CatalogPlatform) (cat : RuntimeCatalog) (purpose : String) :
    CatalogM (Nat × Nat) := do
  connection
  let totals ← known P cat none
  pure ((totals.lookup purpose).getD (0, 0))

/-- A call on a catalog. -/
inductive CatalogCall where
  | write (cat : RuntimeCatalog) (id : String) (payload : CatalogPayload)
  | delete (cat : RuntimeCatalog) (id : String)
  | migratePage (cat : RuntimeCatalog) (calls : MigrationCallbacks) (limit : Nat)
  | capacity (cat : RuntimeCatalog) (purpose : String)

/-- What a call leaves behind, also where it is killed on the way. -/
def CatalogCall.leaves (P : CatalogPlatform) (c : CatalogRoot) (killed : Option Nat) :
    CatalogCall → CatalogRoot
  | .write cat id payload => (cat.write P id payload).left killed c
  | .delete cat id => (cat.delete P id).left killed c
  | .migratePage cat calls limit => (cat.migratePage P calls limit).left killed c
  | .capacity cat purpose => (cat.capacity P purpose).left killed c

/-- The root after some calls, each carried out or killed after so many commits. -/
def catalogRun (P : CatalogPlatform) (start : CatalogRoot)
    (calls : List (CatalogCall × Option Nat)) : CatalogRoot :=
  calls.foldl (fun c call => call.1.leaves P c call.2) start

end ExternalIntelligence.Catalog
