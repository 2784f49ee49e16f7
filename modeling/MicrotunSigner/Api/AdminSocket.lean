import Mathlib.Logic.Function.Basic
import MicrotunSigner.Config
import MicrotunSigner.Key.ProtectedFile
import MicrotunSigner.Lib.World

/-!
# The socket of the admin API (`main.rs`)

The end of `run_server`, from its TCP listener on: the group of the socket is looked up, the socket is
bound, both APIs are served, and the socket is removed. The functions are programs (`SocketProg`)
whose calls act on the directory of the socket (`AdminFs`), on which the users of the machine act too
(`adminWorld`).

* Any call may fail at any time. `getgrnam_r` gives an entry of the group database, which need not be
  the one that was asked for.
* The directories above the parent are taken as they are: the parent stays the same directory.
* Numbers of files are not used twice. A symlink has the file where it leads in the end.
-/

namespace MicrotunSigner

open Lib Lib.Text

/-! ## Calls -/

structure IoError where
  notFound : Bool
  text : String

inductive GroupAnswer where
  | error (rc : Nat) (text : String)
  | missing
  | found (grName : List UInt8) (grGid : UInt32)

/-- The calls: `metadata` is that of the parent, all other file operations are on the socket's
path. -/
inductive SocketOp where
  | bindTcp
  | getgrnamR (name : String) (bufferLen : Nat)
  | metadata
  | symlinkMetadata
  | removeFile
  | bind
  | chown (gid : UInt32)
  | setPermissions (mode : UInt32)
  | serve (listener : Nat)
  | warn (text : String)

@[reducible] def SocketOp.Ans : SocketOp → Type
  | .bindTcp => Except String Unit
  | .getgrnamR _ _ => GroupAnswer
  | .metadata => Except String Metadata
  | .symlinkMetadata => Except IoError Metadata
  | .removeFile => Except String Unit
  | .bind => Except String Nat
  | .chown _ => Except String Unit
  | .setPermissions _ => Except String Unit
  | .serve _ => Except String Unit
  | .warn _ => Unit

abbrev SocketProg := Prog SocketOp SocketOp.Ans String

namespace SocketProg

def call (op : SocketOp) : SocketProg op.Ans := Prog.op op

def bindTcp : SocketProg (Except String Unit) := call .bindTcp

def getgrnamR (name : String) (bufferLen : Nat) : SocketProg GroupAnswer :=
  call (.getgrnamR name bufferLen)

def metadata : SocketProg (Except String Metadata) := call .metadata

def symlinkMetadata : SocketProg (Except IoError Metadata) := call .symlinkMetadata

def removeFile : SocketProg (Except String Unit) := call .removeFile

def bind : SocketProg (Except String Nat) := call .bind

def chown (gid : UInt32) : SocketProg (Except String Unit) := call (.chown gid)

def setPermissions (mode : UInt32) : SocketProg (Except String Unit) :=
  call (.setPermissions mode)

def serve (listener : Nat) : SocketProg (Except String Unit) := call (.serve listener)

def warn (text : String) : SocketProg Unit := call (.warn text)

end SocketProg

/-! ## The functions -/

def erange : Nat := 34

def maxGroupBuffer : Nat := 1024 * 1024

/-- The loop of `lookup_group_id`, with a buffer of `bufferLen` bytes. -/
def lookupGroupIdWith (name : String) (bufferLen : Nat) : SocketProg UInt32 := do
  match ← SocketProg.getgrnamR name bufferLen with
  | .error rc text =>
    if h : rc = erange ∧ 0 < bufferLen ∧ bufferLen < maxGroupBuffer then
      lookupGroupIdWith name (bufferLen * 2)
    else
      Prog.fail s!"failed to look up group {name}: {text}"
  | .missing => Prog.fail s!"admin socket group {name} does not exist"
  | .found grName grGid =>
    bailIf (grName != bytes name) s!"group lookup for {name} returned a different group"
    return grGid
termination_by maxGroupBuffer - bufferLen

def lookupGroupId (name : String) : SocketProg UInt32 := do
  if let some position := (bytes name).findIdx? (· == 0) then
    Prog.fail s!"group name contains a NUL byte: nul byte found in provided data at position: {position}"
  else
    lookupGroupIdWith name (16 * 1024)

/-- A reversed path without the separators and the `.` components at its end. -/
def trimPathEnd : List Char → List Char
  | '/' :: cs => trimPathEnd cs
  | ['.'] => []
  | '.' :: '/' :: cs => trimPathEnd cs
  | cs => cs

/-- `Path::parent` of an absolute path. -/
def pathParent (path : String) : Option String :=
  match trimPathEnd (path.toList.drop 1).reverse with
  | [] => none
  | cs => some ("/" ++ String.ofList (trimPathEnd (cs.dropWhile (· != '/'))).reverse)

/-- Only its owner may change the parent of the socket. -/
def checkParent (path : String) : SocketProg Unit := do
  let parent ← okOr (pathParent path) s!"admin socket path {path} has no parent directory"
  let parentMetadata ← withContext (← SocketProg.metadata)
    s!"failed to stat admin socket parent directory {parent}"
  bailIf (parentMetadata.fileType != .directory) s!"admin socket parent {parent} is not a directory"
  let parentMode := parentMetadata.mode &&& 0o777
  bailIf (parentMode &&& 0o022 != 0)
    s!"admin socket parent {parent} must not be writable by group/other users (mode {octal3 parentMode})"

/-- A socket that an earlier run left behind. -/
def removeStaleSocket (path : String) : SocketProg Unit := do
  match ← SocketProg.symlinkMetadata with
  | .error _ => return ()
  | .ok metadata =>
    bailIf (metadata.fileType != .socket) s!"refusing to replace non-socket admin path {path}"
    withContext (← SocketProg.removeFile) s!"failed to remove stale admin socket {path}"

/-- The result is the number of the socket file that the listener has bound. -/
def bindAdminSocket (path : String) (mode : UInt32) (gid : Option UInt32) : SocketProg Nat := do
  checkParent path
  removeStaleSocket path
  let listener ← withContext (← SocketProg.bind) s!"failed to bind admin socket {path}"
  if let some gid := gid then
    withContext (← SocketProg.chown gid)
      s!"failed to set admin socket group on {path} (is the service a member of the group?)"
  withContext (← SocketProg.setPermissions mode)
    s!"failed to set admin socket permissions on {path}"
  return listener

def AdminSocketGuard.drop : SocketProg Unit := do
  match ← SocketProg.symlinkMetadata with
  | .error error =>
    if error.notFound then return ()
    else SocketProg.warn "failed to stat admin socket during shutdown"
  | .ok metadata =>
    if metadata.fileType != .socket then
      SocketProg.warn "refusing to remove admin path because it is no longer a Unix socket"
    else match ← SocketProg.removeFile with
      | .error _ => SocketProg.warn "failed to remove admin socket during shutdown"
      | .ok () => return ()

/-- `run_server` from its TCP listener on. -/
def runListeners (server : ServerConfig) : SocketProg Unit := do
  withContext (← SocketProg.bindTcp) s!"failed to bind {server.listen.display}"
  let gid ← match server.adminSocketGroup with
    | none => pure none
    | some group => some <$> lookupGroupId group
  let listener ← bindAdminSocket server.adminSocketPath server.adminSocketMode gid
  let served ← SocketProg.serve listener
  AdminSocketGuard.drop
  withContext served "HTTP server failed"

/-! ## The directory of the socket -/

structure AdminNode where
  fileType : FileType
  uid : UInt32
  gid : UInt32
  mode : UInt32
  /-- Where a symlink leads in the end. -/
  target : Option Nat

/-- The parent directory, the file at the socket's path, and the socket that the service listens
on. -/
structure AdminFs where
  parent : Option AdminNode
  entry : Option Nat
  nodes : Nat → Option AdminNode
  listening : Option Nat

def AdminNode.metadata (node : AdminNode) : Metadata := ⟨node.fileType, node.uid, node.mode, 0⟩

/-- Write permission on a socket is what `connect` asks for. -/
def AdminNode.connectableBy (user : UInt32) (groups : List UInt32) (node : AdminNode) : Bool :=
  user == 0 ||
    if user == node.uid then node.mode &&& 0o200 != 0
    else if groups.contains node.gid then node.mode &&& 0o020 != 0
    else node.mode &&& 0o002 != 0

/-- Who may change the names in a directory; group write is write for everyone. -/
def AdminNode.writableBy (user : UInt32) (node : AdminNode) : Bool :=
  user == 0 || node.uid == user || node.mode &&& 0o022 != 0

namespace AdminFs

variable (fs : AdminFs)

def set (number : Nat) (node : AdminNode) : AdminFs :=
  { fs with nodes := Function.update fs.nodes number (some node) }

/-- The file at the path, without following a symlink. -/
def node? : Option AdminNode := fs.entry.bind fs.nodes

/-- The file that an operation which follows symlinks acts on. -/
def follow : Option Nat := fs.entry.bind fun number => (fs.nodes number).bind fun node =>
  if node.fileType = .symlink then node.target else some number

/-- A change of the file at the path, through symlinks. -/
def change (f : AdminNode → AdminNode) : Option AdminFs :=
  fs.follow.bind fun number => (fs.nodes number).map fun node => fs.set number (f node)

end AdminFs

/-- What the users of the machine do. -/
inductive AdminFsOp where
  /-- The path gets or loses a file. -/
  | relink (number : Option Nat)
  | create (number : Nat) (node : AdminNode)
  | chmod (number : Nat) (mode : UInt32)
  | chgrp (number : Nat) (gid : UInt32)
  | chmodParent (mode : UInt32)

def AdminFs.apply (user : UInt32) (fs : AdminFs) : AdminFsOp → Option AdminFs
  | .relink number => fs.parent.bind fun parent =>
    if parent.writableBy user then some { fs with entry := number } else none
  | .create number node =>
    if fs.nodes number = none ∧ node.uid = user then some (fs.set number node) else none
  | .chmod number mode => (fs.nodes number).bind fun node =>
    if user = 0 ∨ node.uid = user then some (fs.set number { node with mode }) else none
  | .chgrp number gid => (fs.nodes number).bind fun node =>
    if user = 0 ∨ node.uid = user then some (fs.set number { node with gid }) else none
  | .chmodParent mode => fs.parent.bind fun parent =>
    if user = 0 ∨ parent.uid = user then some { fs with parent := some { parent with mode } }
    else none

/-- The service's process, and the group database. -/
structure AdminProcess where
  euid : UInt32
  egid : UInt32
  umask : UInt32
  groups : List UInt8 → UInt32 → Bool

namespace AdminProcess

variable (process : AdminProcess)

/-- The group of a new file: the service's, or that of a set-group-ID directory. -/
def newGid (parent : Option AdminNode) : UInt32 :=
  match parent with
  | some node => if node.mode &&& 0o2000 = 0 then process.egid else node.gid
  | none => process.egid

/-- The socket that `bind` makes in the directory `parent`. -/
def newSocket (parent : Option AdminNode) : AdminNode :=
  ⟨.socket, process.euid, process.newGid parent, 0o777 &&& ~~~process.umask, none⟩

def call (fs : AdminFs) (e : Prog.Event SocketOp.Ans) : Option AdminFs :=
  match e with
  | ⟨.getgrnamR _ _, .found grName grGid⟩ => if process.groups grName grGid then some fs else none
  | ⟨.metadata, .ok metadata⟩ =>
    if fs.parent.map AdminNode.metadata = some metadata then some fs else none
  | ⟨.symlinkMetadata, .ok metadata⟩ =>
    if fs.node?.map AdminNode.metadata = some metadata then some fs else none
  | ⟨.removeFile, .ok ()⟩ => if fs.entry.isSome then some { fs with entry := none } else none
  | ⟨.bind, .ok number⟩ =>
    if fs.entry = none ∧ fs.nodes number = none then
      some { fs.set number (process.newSocket fs.parent) with
        entry := some number, listening := some number }
    else none
  | ⟨.chown gid, .ok ()⟩ => fs.change fun node => { node with gid }
  | ⟨.setPermissions mode, .ok ()⟩ => fs.change fun node => { node with mode }
  | _ => some fs

/-- A user other than root and the service. -/
def Other (user : UInt32) : Prop := user ≠ 0 ∧ user ≠ process.euid

instance (user : UInt32) : Decidable (process.Other user) :=
  inferInstanceAs (Decidable (user ≠ 0 ∧ user ≠ process.euid))

/-- The service among the other users. -/
def adminWorld : World SocketOp SocketOp.Ans AdminFs (UInt32 × AdminFsOp) where
  call := process.call
  other fs act := if process.Other act.1 then fs.apply act.1 act.2 else none

end AdminProcess

end MicrotunSigner
