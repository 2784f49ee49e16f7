import Mathlib.Data.List.DropRight
import MicrotunSigner.Lib.Result
import MicrotunSigner.Lib.Sys
import MicrotunSigner.Lib.Text

/-!
# Files with secrets (`read_protected_file`, `load_systemd_credential` of `key.rs`)

A reader opens a path without following a final symlink, looks at the metadata of the descriptor it
got, and reads it to its end. Between these system calls any user of the machine may act on the file
system (`FsOp`), as far as the permissions let that user.

* A `Reader` is one of the two functions: its texts, what it asks of the metadata and what it does
  with the contents. `Reader.read` is the whole function on a file system at rest, `Reader.sys` the
  one with its system calls apart.
* Permissions are checked when a file is opened for writing. Who holds a writable descriptor may
  write with it as long as it is open, or pass it on, whatever has become of the mode since; a
  writable mapping counts as a descriptor.
-/

namespace MicrotunSigner

open Lib Lib.Text

inductive FileType where
  | regular
  | directory
  | symlink
  | socket
  | other
  deriving DecidableEq, Repr

structure Metadata where
  fileType : FileType
  uid : UInt32
  mode : UInt32
  len : Nat
  deriving DecidableEq

structure Inode where
  fileType : FileType
  uid : UInt32
  mode : UInt32
  contents : List UInt8
  deriving DecidableEq

def Inode.metadata (inode : Inode) : Metadata :=
  ⟨inode.fileType, inode.uid, inode.mode, inode.contents.length⟩

/-- Where each path leads, without following a symlink at its end, what is there, and which users
hold a writable descriptor of it. -/
structure FileSystem where
  names : String → Option Nat
  inodes : Nat → Option Inode
  writers : Nat → List UInt32

/-! ## What the users of the machine do -/

inductive FsOp where
  /-- A file gets or loses a name; a path leads elsewhere after a rename on it. -/
  | link (path : String) (number : Option Nat)
  | create (number : Nat) (inode : Inode)
  | openWrite (number : Nat)
  | close (number : Nat)
  /-- A writable descriptor is passed to another user. -/
  | give (number : Nat) (uid : UInt32)
  | write (number : Nat) (contents : List UInt8)
  | chmod (number : Nat) (mode : UInt32)
  | chown (number : Nat) (uid : UInt32)
  /-- The last name of a file is gone and no one has it open. -/
  | free (number : Nat)

/-- Root may open a file for writing, as may the owner; for the others the mode decides. The groups
of a user are not modelled: group write is write for everyone. -/
def Inode.writableBy (user : UInt32) (inode : Inode) : Bool :=
  user == 0 || inode.uid == user || inode.mode &&& 0o022 != 0

namespace FileSystem

def set (fs : FileSystem) (number : Nat) (inode : Option Inode) : FileSystem :=
  { fs with inodes := Function.update fs.inodes number inode }

def setWriters (fs : FileSystem) (number : Nat) (uids : List UInt32) : FileSystem :=
  { fs with writers := Function.update fs.writers number uids }

/-- What an operation of `user` does, if it is permitted. `held` is the open file of the reader. -/
def apply (user : UInt32) (held : Option Nat) (fs : FileSystem) : FsOp → Option FileSystem
  | .link path number => some { fs with names := Function.update fs.names path number }
  | .create number inode =>
    if fs.inodes number = none ∧ inode.uid = user then some (fs.set number inode) else none
  | .openWrite number => (fs.inodes number).bind fun inode =>
    if inode.writableBy user then some (fs.setWriters number (user :: fs.writers number)) else none
  | .close number =>
    if user ∈ fs.writers number then some (fs.setWriters number ((fs.writers number).erase user))
    else none
  | .give number uid =>
    if user ∈ fs.writers number then some (fs.setWriters number (uid :: fs.writers number)) else none
  | .write number contents => (fs.inodes number).bind fun inode =>
    if user ∈ fs.writers number then some (fs.set number (some { inode with contents })) else none
  | .chmod number mode => (fs.inodes number).bind fun inode =>
    if user = 0 ∨ inode.uid = user then some (fs.set number (some { inode with mode })) else none
  | .chown number uid => (fs.inodes number).bind fun inode =>
    if user = 0 then some (fs.set number (some { inode with uid })) else none
  | .free number =>
    if held = some number ∨ fs.writers number ≠ [] then none else some (fs.set number none)

end FileSystem

/-! ## The functions -/

def maxProtectedFileBytes : Nat := 1024 * 1024

/-- `{:03o}` -/
def octal3 (n : UInt32) : String :=
  let digits := Nat.toDigits 8 n.toNat
  String.ofList (List.replicate (3 - digits.length) '0' ++ digits)

def validateProtectedMetadata (euid : UInt32) (metadata : Metadata) (forbiddenModeBits : UInt32) :
    Except String Unit := do
  bailIf (metadata.fileType != .regular) "not a regular file"
  bailIf (metadata.uid != 0 && metadata.uid != euid)
    s!"owned by uid {metadata.uid}; expected root or the service user (uid {euid})"
  let mode := metadata.mode &&& 0o777
  bailIf (mode &&& forbiddenModeBits != 0)
    s!"mode {octal3 mode} grants access forbidden by mask {octal3 forbiddenModeBits}"

/-- `open` with `O_NOFOLLOW`, for a file that the service may read. A socket is connected to, not
opened. -/
def openNoFollow (fs : FileSystem) (path : String) : Except String Nat := do
  let number ← okOr (fs.names path) "No such file or directory (os error 2)"
  let inode ← okOr (fs.inodes number) "No such file or directory (os error 2)"
  bailIf (inode.fileType == .symlink) "Too many levels of symbolic links (os error 40)"
  bailIf (inode.fileType == .socket) "No such device or address (os error 6)"
  return number

/-- What the two functions share, and what each of them has of its own. -/
structure Reader where
  path : String
  label : String
  openContext : String
  validate : Metadata → Except String Unit
  finish : String → Except String String

def readProtectedFile (euid : UInt32) (path : String) (forbiddenModeBits : UInt32)
    (label : String) : Reader where
  path := path
  label := label
  openContext := s!"failed to open {label} {path}"
  validate metadata := (validateProtectedMetadata euid metadata forbiddenModeBits).mapError fun e =>
    s!"{label} {path} has unsafe ownership or permissions: {e}"
  finish := .ok

/-- `Path::join` -/
def joinPath (directory name : String) : String :=
  if startsWith name "/" then name
  else if isEmpty directory || endsWith directory "/" then directory ++ name
  else directory ++ "/" ++ name

/-- The loop that pops `\n` and `\r` from the end. -/
def popLineEnds (value : String) : String :=
  String.ofList (value.toList.rdropWhile fun c => c == '\n' || c == '\r')

def loadCredentialFrom (directory name label : String) : Reader where
  path := joinPath directory name
  label := label
  openContext :=
    s!"failed to open {label} (systemd credential {name}) at {joinPath directory name}"
  validate metadata := bailIf (metadata.fileType != .regular)
    s!"{label} {joinPath directory name} is not a regular file"
  finish value := do
    let value := popLineEnds value
    bailIf (isEmpty value) s!"{label} {joinPath directory name} is empty"
    return value

/-- The reader of a systemd credential, from the directory that the environment names. -/
def loadSystemdCredential (credentialsDirectory : Option String) (name label : String) :
    Except String Reader := do
  let directory ← okOr (credentialsDirectory.filter fun value => !isEmpty value)
    s!"{label} is required: provide systemd credential {name} (CREDENTIALS_DIRECTORY is not set)"
  return loadCredentialFrom directory name label

namespace Reader

/-- The checks on the metadata of the open file, the first of `read_limited` with them. -/
def checkMetadata (reader : Reader) (metadata : Metadata) : Except String Unit := do
  reader.validate metadata
  bailIf (maxProtectedFileBytes < metadata.len)
    s!"{reader.label} {reader.path} is unexpectedly large"

/-- The rest of `read_limited`, and what the caller does with the contents. -/
def checkContents (reader : Reader) (read : List UInt8) : Except String String := do
  let contents ← okOr (fromUtf8 read)
    s!"failed to read {reader.label} {reader.path}: stream did not contain valid UTF-8"
  bailIf (maxProtectedFileBytes < len contents)
    s!"{reader.label} {reader.path} is unexpectedly large"
  reader.finish contents

/-- The whole function, on a file system at rest. -/
def read (reader : Reader) (fs : FileSystem) : Except String String := do
  let number ← (openNoFollow fs reader.path).mapError fun e => s!"{reader.openContext}: {e}"
  let inode ← okOr (fs.inodes number) s!"failed to stat {reader.label} {reader.path}"
  reader.checkMetadata inode.metadata
  reader.checkContents (inode.contents.take (maxProtectedFileBytes + 1))

end Reader

/-! ## System call after system call -/

inductive ReadPc where
  | opening
  | opened (number : Nat)
  | reading (number : Nat) (metadata : Metadata) (read : List UInt8)
  | finished (result : Except String String)

/-- The open file. -/
def ReadPc.held : ReadPc → Option Nat
  | .opened number | .reading number _ _ => some number
  | _ => none

structure ReadState where
  fs : FileSystem
  pc : ReadPc

inductive ReadAction where
  | openat
  | fstat
  /-- A `read` that gets `count` bytes. -/
  | read (count : Nat)
  /-- A `read` at the end of the file, or the limit of `take` is reached. -/
  | eof
  /-- The system call fails. -/
  | fail (error : String)
  | user (uid : UInt32) (op : FsOp)

namespace Reader

variable (reader : Reader)

/-- Where the function is after a look at the metadata. -/
def stated (number : Nat) (metadata : Metadata) : ReadPc :=
  match reader.checkMetadata metadata with
  | .ok () => .reading number metadata []
  | .error e => .finished (.error e)

/-- What a failing system call ends the function with. -/
def failed (error : String) : ReadPc → Option String
  | .opening => some s!"{reader.openContext}: {error}"
  | .opened _ => some s!"failed to stat {reader.label} {reader.path}: {error}"
  | .reading _ _ _ => some s!"failed to read {reader.label} {reader.path}: {error}"
  | .finished _ => none

def step (s : ReadState) : ReadAction → Option ReadState
  | .openat => match s.pc with
    | .opening => some { s with pc := match openNoFollow s.fs reader.path with
        | .ok number => .opened number
        | .error e => .finished (.error s!"{reader.openContext}: {e}") }
    | _ => none
  | .fstat => match s.pc with
    | .opened number => (s.fs.inodes number).map fun inode =>
        { s with pc := reader.stated number inode.metadata }
    | _ => none
  | .read count => match s.pc with
    | .reading number metadata read => (s.fs.inodes number).bind fun inode =>
        let got := (inode.contents.drop read.length).take count
        if count ≠ 0 ∧ got.length = count ∧ read.length + count ≤ maxProtectedFileBytes + 1 then
          some { s with pc := .reading number metadata (read ++ got) }
        else none
    | _ => none
  | .eof => match s.pc with
    | .reading number _ read => (s.fs.inodes number).bind fun inode =>
        if inode.contents.length ≤ read.length ∨ read.length = maxProtectedFileBytes + 1 then
          some { s with pc := .finished (reader.checkContents read) }
        else none
    | _ => none
  | .fail error => (reader.failed error s.pc).map fun e => { s with pc := .finished (.error e) }
  | .user uid op => (s.fs.apply uid s.pc.held op).map fun fs => { s with fs }

/-- The function among the other users of the machine, from any file system. -/
def sys : Sys ReadState ReadAction where
  init s := s.pc = .opening
  step := reader.step

end Reader

end MicrotunSigner
