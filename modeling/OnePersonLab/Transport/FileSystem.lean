import Mathlib.Logic.Function.Basic
import OnePersonLab.Contract.Text
import OnePersonLab.Lib.Ownership

/-!
# The files of the review transport

The disk under the store: names, the files that they are linked to, and the calls of the
file system, one step each. A read or a write may transfer fewer bytes than asked, and
any call may fail. The directories above the store and the source files of a copy belong to
others: what a call is told of them is anything at all.
-/

namespace OnePersonLab.Transport

open Contract Lib

abbrev Bytes := List UInt8

abbrev Digest := { text : String // isSha256Digest text = true }

/-- `process.pid` and `crypto.randomUUID()`: no two calls have the same. -/
structure CallId where
  pid : Nat
  uuid : String
  deriving DecidableEq, Repr

inductive Extension where
  | json
  | bin
  deriving DecidableEq, Repr

/-- A name in a directory of the store. -/
inductive Path where
  /-- `.<digest>.<pid>.<uuid>.tmp` -/
  | temporary (directory : String) (digest : Digest) (id : CallId)
  /-- `<digest>.json` or `<digest>.bin` -/
  | object (directory : String) (digest : Digest) (extension : Extension)
  deriving DecidableEq

/-- What `lstat` and `fstat` tell. `file` stands for device and inode. -/
structure Stat where
  file : Nat
  size : Nat
  mtime : Nat
  ctime : Nat
  isFile : Bool
  isSymbolicLink : Bool
  deriving DecidableEq, Repr

def sameFileIdentity (left right : Stat) : Bool := left.file = right.file

def sameStableFile (left right : Stat) : Bool :=
  sameFileIdentity left right && left.size = right.size && left.mtime = right.mtime &&
    left.ctime = right.ctime

structure File where
  bytes : Bytes
  synced : Bool
  mtime : Nat
  ctime : Nat
  deriving DecidableEq, Repr

structure Disk where
  names : Path → Option Nat
  files : Nat → File
  /-- The files that have been created so far. -/
  created : Nat

/-! ## Calls -/

/-- The loop that a write belongs to. -/
inductive WriteLoop where
  /-- `fs.writeFileSync`, which goes on until everything is written. -/
  | writeFile
  /-- The loop that copies a source, which writes every chunk once. -/
  | copy
  deriving DecidableEq, Repr

inductive Fault where
  /-- `EEXIST`. -/
  | alreadyExists
  /-- Any other error of the file system. -/
  | io
  /-- `FrameworkContractError`. -/
  | rejected (failureCode : Option String) (message : String)
  deriving DecidableEq, Repr

inductive Request where
  | ensureDirectory (directory : String)
  | present (path : Path)
  /-- `openSync(path, 'wx', 0o600)`. -/
  | create (path : Path)
  | openRead (path : Path)
  | lstat (path : Path)
  | fstat (file : Nat)
  | read (file position : Nat)
  | write (loop : WriteLoop) (file : Nat) (bytes : Bytes)
  | fsync (file : Nat)
  | close (file : Nat)
  | link (existing new : Path)
  | chmod (path : Path)
  /-- `rmSync(path, { force: true })`. -/
  | remove (path : Path)
  /-- `pathInside`. -/
  | inside (path : Path) (root : String)
  /-- `stableDirectoryChain`: the directories above a file, with what `lstat` tells of them. -/
  | directoryChain (path : Path) (anchor : String)
  /-- Whether the canonical URL of a path is the URL itself. -/
  | isCanonical (path : Path)
  | sourceInside (sourcePath workspaceRoot : String)
  | lstatSource (sourcePath : String)
  | openSource (sourcePath : String)
  | fstatSource
  | readSource
  | closeSource

def Request.Response : Request → Type
  | .present _ | .inside _ _ | .isCanonical _ | .sourceInside _ _ => Bool
  | .create _ | .openRead _ | .write _ _ _ => Nat
  | .lstat _ | .fstat _ | .lstatSource _ | .fstatSource => Stat
  | .read _ _ | .readSource => Bytes
  | .directoryChain _ _ => List Stat
  | .ensureDirectory _ | .fsync _ | .close _ | .link _ _ | .chmod _ | .remove _ | .openSource _
  | .closeSource => Unit

def fileSystem : Interface where
  Request := Request
  Response := Request.Response
  Failure := Fault

/-- A part of a call, with the requests that it makes. -/
abbrev Call := Program fileSystem

/-! ## What calls do -/

namespace Disk

def empty : Disk := ⟨fun _ => none, fun _ => ⟨[], true, 0, 0⟩, 0⟩

variable (disk : Disk)

def stat (file : Nat) : Stat :=
  { file
    size := (disk.files file).bytes.length
    mtime := (disk.files file).mtime
    ctime := (disk.files file).ctime
    isFile := true
    isSymbolicLink := false }

def setFile (file : Nat) (content : File) : Disk :=
  { disk with files := Function.update disk.files file content }

/-- The change of a name or a mode is seen in the time of the file. -/
def touch (file time : Nat) : Disk := disk.setFile file { disk.files file with ctime := time }

def create (path : Path) (time : Nat) : Disk :=
  { disk.setFile disk.created ⟨[], false, time, time⟩ with
    names := Function.update disk.names path (some disk.created)
    created := disk.created + 1 }

/-- A file is written by the descriptor that created it, at its end. -/
def append (file : Nat) (bytes : Bytes) (time : Nat) : Disk :=
  disk.setFile file ⟨(disk.files file).bytes ++ bytes, false, time, time⟩

def sync (file : Nat) : Disk := disk.setFile file { disk.files file with synced := true }

def link (path : Path) (file time : Nat) : Disk :=
  { disk.touch file time with names := Function.update disk.names path (some file) }

def remove (path : Path) (time : Nat) : Disk :=
  { (match disk.names path with
      | none => disk
      | some file => disk.touch file time) with
    names := Function.update disk.names path none }

def readChunkBytes : Nat := 64 * 1024

/-- A part of the file from a position on, that is empty at the end of the file only. -/
def Reads (file position : Nat) (chunk : Bytes) : Prop :=
  ∃ count, 0 < count ∧ count ≤ readChunkBytes ∧
    chunk = ((disk.files file).bytes.drop position).take count

/-- A request on a disk, the disk after it, and the answer. -/
def Performs (disk : Disk) (request : Request) (after : Disk) (answer : fileSystem.Answer request) :
    Prop :=
  match request, answer with
  | .present path, answer =>
    after = disk ∧ (answer = .ok true → disk.names path ≠ none)
  | .create path, .ok file =>
    disk.names path = none ∧ file = disk.created ∧ ∃ time, after = disk.create path time
  | .openRead path, .ok file => after = disk ∧ disk.names path = some file
  | .lstat path, .ok stat =>
    after = disk ∧ ∃ file, disk.names path = some file ∧ stat = disk.stat file
  | .fstat file, .ok stat => after = disk ∧ stat = disk.stat file
  | .read file position, .ok chunk => after = disk ∧ disk.Reads file position chunk
  | .write _ file bytes, .ok count =>
    Nat.le count bytes.length ∧ ∃ time, after = disk.append file (bytes.take count) time
  | .write _ file bytes, .error _ =>
    ∃ count time, after = disk.append file (bytes.take count) time
  | .fsync file, .ok _ => after = disk.sync file
  | .link existing new, .ok _ =>
    disk.names new = none ∧
      ∃ file time, disk.names existing = some file ∧ after = disk.link new file time
  | .link _ new, .error fault =>
    after = disk ∧ (fault = .alreadyExists → disk.names new ≠ none)
  | .chmod path, .ok _ => ∃ file time, disk.names path = some file ∧ after = disk.touch file time
  | .remove path, .ok _ => ∃ time, after = disk.remove path time
  | _, _ => after = disk

/-- Power is lost: what has not been synchronised is anything. -/
def Outage (disk after : Disk) : Prop :=
  after.names = disk.names ∧ after.created = disk.created ∧
    ∀ file, (disk.files file).synced = true → after.files file = disk.files file

end Disk

end OnePersonLab.Transport
