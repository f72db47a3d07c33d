import ExternalIntelligence.Crew
import ExternalIntelligence.TeamStore

namespace ExternalIntelligence
set_option autoImplicit true

/-- A file of a lock's directory: the process that made it, the token it writes into it, and the
times that a stat gives. -/
structure LockNode where
  pid : Nat
  token : String
  written : Bool
  modified : Int
  changed : Nat
deriving DecidableEq, Repr

/-- The directory of a lock, and which processes are gone. What a process holds, that it is between
its enter and its exit, and the file it is about to unlink as stale are kept for the proofs. -/
structure LockWorld where
  path : Option Nat := none
  stagings : List (String × Nat) := []
  nodes : List (Nat × LockNode) := []
  drawn : Nat := 0
  ticks : Nat := 0
  now : Int := 0
  late : Bool := false
  dead : List Nat := []
  held : List (Nat × Nat) := []
  inside : List Nat := []
  verdicts : List (Nat × Nat) := []
deriving DecidableEq, Repr

abbrev LockCall : Type → Type :=
  Call LockWorld Raised

def fileNotFound : Raised :=
  ⟨"FileNotFoundError", ""⟩

def fileExists : Raised :=
  ⟨"FileExistsError", ""⟩

def lockBusy : Raised :=
  ⟨"RuntimeError", "SYNC_LOCK_BUSY"⟩

namespace LockWorld

/-- A change of a file's names changes its time of change. -/
def touch (w : LockWorld) (inode : Nat) : LockWorld :=
  match w.nodes.lookup inode with
  | none => w
  | some node =>
    { w with nodes := Dict.set inode { node with changed := w.ticks } w.nodes, ticks := w.ticks + 1 }

/-- The number of names of a file. -/
def links (w : LockWorld) (inode : Nat) : Nat :=
  (if w.path = some inode then 1 else 0) + (w.stagings.filter (·.2 == inode)).length

def unlinkPath (w : LockWorld) : LockWorld :=
  match w.path with
  | none => w
  | some inode =>
    ({ w with path := none, held := w.held.filter (·.2 != inode) } : LockWorld).touch inode

/-- A new file under a private name. -/
def createStaging (w : LockWorld) (pid : Nat) (token : String) : LockWorld :=
  { w with
    stagings := Dict.set token w.drawn w.stagings
    nodes := Dict.set w.drawn ⟨pid, token, false, w.now, w.ticks⟩ w.nodes
    drawn := w.drawn + 1
    ticks := w.ticks + 1 }

def writeRecord (w : LockWorld) (inode : Nat) : LockWorld :=
  match w.nodes.lookup inode with
  | none => w
  | some node =>
    { w with nodes := Dict.set inode { node with written := true, modified := w.now } w.nodes }

def linkPath (w : LockWorld) (pid inode : Nat) : LockWorld :=
  ({ w with path := some inode, held := w.held ++ [(pid, inode)] } : LockWorld).touch inode

def unlinkStaging (w : LockWorld) (token : String) (inode : Nat) : LockWorld :=
  ({ w with stagings := w.stagings.filter (·.1 != token) } : LockWorld).touch inode

/-- A new file at the lock's own path. -/
def createPath (w : LockWorld) (pid : Nat) : LockWorld :=
  { w with
    path := some w.drawn
    nodes := Dict.set w.drawn ⟨pid, "", true, w.now, w.ticks⟩ w.nodes
    drawn := w.drawn + 1
    ticks := w.ticks + 1
    held := w.held ++ [(pid, w.drawn)] }

def judge (w : LockWorld) (pid inode : Nat) : LockWorld :=
  { w with verdicts := Dict.set pid inode w.verdicts }

def settleVerdict (w : LockWorld) (pid : Nat) : LockWorld :=
  { w with verdicts := w.verdicts.filter (·.1 != pid) }

end LockWorld

/-- A lock object: its process and the token it drew. -/
structure FileLock where
  pid : Nat
  token : String
deriving DecidableEq, Repr

namespace FileLock

/-- The budget's check. -/
def check : LockCall Unit :=
  Call.look fun w => if w.late then .error ⟨"TimeoutError", "OPERATION_TIMEOUT"⟩ else .ok ()

def unlessRelease (release : Bool) : LockCall Unit :=
  if release then pure () else check

/-- The file at the path and the record in it; the file must be the same before and after. -/
def record (release : Bool) : LockCall (Nat × LockNode) := do
  unlessRelease release
  let (inode, node) ← Call.look fun w =>
    match w.path with
    | none => .error fileNotFound
    | some inode =>
      match w.nodes.lookup inode with
      | none => .error fileNotFound
      | some node => .ok (inode, node)
  Call.look fun w =>
    if w.path = some inode then .ok () else .error ⟨"ValueError", "INDEX_FILE_CHANGED"⟩
  if node.written then pure (inode, node) else throw ⟨"JSONDecodeError", ""⟩

/-- What identifies the file at the path: itself, and its time of change. -/
def statPath : LockCall (Nat × Nat) :=
  Call.look fun w =>
    match w.path with
    | none => .error fileNotFound
    | some inode =>
      match w.nodes.lookup inode with
      | none => .error fileNotFound
      | some node => .ok (inode, node.changed)

/-- The file whose owner is gone, and the identity that is stated after its record was read. -/
def inspect : LockCall (Option (Nat × Nat × Nat)) := do
  let (inode, node) ← record false
  let identity ← statPath
  let gone ← Call.look fun w => .ok (w.dead.contains node.pid)
  pure (if gone then some (inode, identity) else none)

def stale : LockCall (Option (Nat × Nat × Nat)) := do
  check
  tryCatch inspect fun error =>
    if error.isA ["TimeoutError"] then throw error
    else if error.isA ["OSError", "UnicodeError", "ValueError"] then pure none
    else throw error

variable (self : FileLock)

def create : LockCall Nat :=
  Call.atomic fun w =>
    if (w.stagings.lookup self.token).isSome then (.error fileExists, w)
    else (.ok w.drawn, w.createStaging self.pid self.token)

def statStaging (inode : Nat) : LockCall Unit :=
  Call.look fun w =>
    match w.stagings.lookup self.token with
    | none => .error fileNotFound
    | some found =>
      if found = inode ∧ w.links inode = 1 then .ok ()
      else .error ⟨"OSError", "SYNC_LOCK_STAGING_REPLACED"⟩

/-- Makes the staged file the lock, unless there is one. -/
def link : LockCall Unit :=
  Call.atomic fun w =>
    match w.stagings.lookup self.token with
    | none => (.error fileNotFound, w)
    | some inode =>
      if w.path.isSome then (.error fileExists, w) else (.ok (), w.linkPath self.pid inode)

/-- Whether a file is at the path that was judged stale. -/
def confirm (inode : Nat) : LockCall Bool :=
  Call.atomic fun w =>
    (.ok w.path.isSome, if w.path.isSome then w.judge self.pid inode else w)

/-- Unlinks what is at the path. -/
def unlinkStale : LockCall Unit :=
  Call.atomic fun w => (.ok (), w.unlinkPath.settleVerdict self.pid)

def removeStale (inode : Nat) : LockCall Unit := do
  if ← self.confirm inode then self.unlinkStale else pure ()

/-- Removes a stale lock, if its identity has not changed, and links its own. -/
def takeOver : LockCall Unit := do
  match ← stale with
  | none => throw lockBusy
  | some (inode, identity) => do
    check
    let info ← statPath
    if info = identity then do
      self.removeStale inode
      check
      tryCatch self.link fun error =>
        if error.isA ["FileExistsError"] then throw lockBusy else throw error
    else throw lockBusy

def publish (inode : Nat) : LockCall Unit := do
  check
  Call.atomic fun w => (.ok (), w.writeRecord inode)
  check
  self.statStaging inode
  check
  tryCatch self.link fun error =>
    if error.isA ["FileExistsError"] then self.takeOver else throw error
  check

def unlinkOwned : LockCall Unit := do
  let present ← Call.look fun w => .ok w.path.isSome
  if present then Call.atomic fun w => (.ok (), w.unlinkPath) else pure ()

/-- Unlinks the lock if it is its own file with its own token. -/
def releaseOwned (inode : Nat) : LockCall Unit :=
  tryCatch
    (do
      let (_, node) ← record true
      let info ← statPath
      if info.1 = inode ∧ node.token = self.token then unlinkOwned else pure ())
    fun error =>
      if error.isA ["OSError", "UnicodeError", "ValueError"] then pure () else throw error

/-- Unlinks the private name if it is its own and the file has the expected number of names. -/
def releaseStaging (inode expectedLinks : Nat) : LockCall Unit :=
  tryCatch
    (do
      let own ← Call.look fun w =>
        match w.stagings.lookup self.token with
        | none => .error fileNotFound
        | some found => .ok (found == inode && w.links inode == expectedLinks)
      if own then Call.atomic fun w => (.ok (), w.unlinkStaging self.token inode) else pure ())
    fun error => if error.isA ["OSError", "ValueError"] then pure () else throw error

/-- Nothing is to be released when the private name could not be made. -/
def enter : LockCall Nat := do
  check
  check
  let inode ← self.create
  tryCatch (self.publish inode) fun error => do
    self.releaseOwned inode
    self.releaseStaging inode 1
    throw error
  self.releaseStaging inode 2
  pure inode

/-- A process in the body of the lock, then out of it. -/
def body (pid : Nat) : LockCall Unit := do
  Call.atomic fun w => (.ok (), { w with inside := w.inside ++ [pid] })
  Call.atomic fun w => (.ok (), { w with inside := w.inside.filter (· != pid) })

def session : LockCall Unit := do
  let inode ← self.enter
  body self.pid
  self.releaseOwned inode

end FileLock

namespace SpoolLock

/-- The age at which the spool's lock is taken over. -/
def takeoverAge : Int :=
  120 * 1000000

/-- Whether the file at the path is old enough to be unlinked. -/
def old (pid : Nat) : LockCall Bool :=
  Call.atomic fun w =>
    match w.path with
    | none => (.ok false, w)
    | some inode =>
      match w.nodes.lookup inode with
      | none => (.ok false, w)
      | some node =>
        if takeoverAge < w.now - node.modified then (.ok true, w.judge pid inode) else (.ok false, w)

def expire (pid : Nat) : LockCall Unit := do
  if ← old pid then Call.atomic fun w => (.ok (), w.unlinkPath.settleVerdict pid) else pure ()

def create (pid : Nat) : LockCall Bool :=
  Call.atomic fun w => if w.path.isSome then (.ok false, w) else (.ok true, w.createPath pid)

def attempt (pid : Nat) : LockCall Bool := do
  FileLock.check
  create pid

/-- Tries until the lock is made; the deadline comes after some rounds. -/
def acquire (pid : Nat) : Nat → LockCall Unit
  | 0 => do
    if ← attempt pid then pure () else throw ⟨"SpoolError", "SPOOL_LOCK_TIMEOUT"⟩
  | rounds + 1 => do
    if ← attempt pid then pure ()
    else do
      expire pid
      acquire pid rounds

def release : LockCall Unit :=
  Call.atomic fun w => (.ok (), w.unlinkPath)

def session (pid rounds : Nat) : LockCall Unit := do
  acquire pid rounds
  FileLock.body pid
  release

end SpoolLock

end ExternalIntelligence
