import MirrordLean.Agent.File.Path

/-!
# mirrord agent - File requests, responses and the host

The remote file manager answers the {lit}`FileRequest`s of
{lit}`mirrord_protocol`.  This module fixes the request and response types as
{lit}`handle_message` matches and builds them, the errors it reports, and the
host operating system it calls.  The host is an explicit record of functions:
every system call the handlers make is one field, so a run of the file manager
can be taken under any host, where each call may succeed or fail.

Main results:

- Definition {lit}`Os`: every host call of {lit}`file.rs`, with its arguments;
  its only constraint is that a link target is a path Rust could parse.
- Definition {lit}`FileRequest`: the twenty-two requests {lit}`handle_message`
  dispatches on.
- Definition {lit}`FileResponse.allocatedFd`: the fresh id a response carries.

Current gaps:

- Payloads that the handlers only copy from the host to the response (the
  fields of {lit}`MetadataInternal` and {lit}`FsMetadataInternal`) are kept as
  the few fields the handlers read.
-/

namespace Mirrord
namespace File

/-! ## Errors -/

/-- {lit}`std::io::ErrorKind`, as far as the file manager raises it itself. -/
inductive ErrorKind
  | invalidInput
  | other
deriving DecidableEq, Repr

/-- An {lit}`std::io::Error`: the host supplies both fields for its own
failures; the agent writes the message of those it raises. -/
structure IoError where
  kind : ErrorKind
  message : String
deriving DecidableEq, Repr

/-- {lit}`ResponseError`, the error half of {lit}`RemoteResult`. -/
inductive ResponseError
  | notFound (fd : Nat)
  | notDirectory (fd : Nat)
  | notFile (fd : Nat)
  | idsExhausted (op : String)
  | stripPrefix (message : String)
  | remoteIo (err : IoError)
deriving DecidableEq, Repr

/-- Results compare by their payloads, so responses can be compared and tested. -/
instance instDecidableEqExcept {ε α : Type} [DecidableEq ε] [DecidableEq α] :
    DecidableEq (Except ε α)
  | .ok a, .ok b => decidable_of_iff (a = b) (by simp)
  | .error a, .error b => decidable_of_iff (a = b) (by simp)
  | .ok _, .error _ => isFalse (by simp)
  | .error _, .ok _ => isFalse (by simp)

/-- {lit}`RemoteResult`: a response payload or a {lit}`ResponseError`. -/
abbrev RemoteResult (α : Type) := Except ResponseError α

/-- The agent's own error, raised by {lit}`handle_message` when an absolute
path was expected ({lit}`StripPrefixError` through {lit}`?`). -/
inductive AgentError
  | stripPrefix
deriving DecidableEq, Repr

/-! ## Payloads -/

/-- {lit}`OpenOptionsInternal`, passed unchanged to {lit}`OpenOptions::open`. -/
structure OpenOptionsInternal where
  read : Bool
  write : Bool
  append : Bool
  truncate : Bool
  create : Bool
  createNew : Bool
deriving DecidableEq, Repr

/-- The options of a plain read-only open. -/
def OpenOptionsInternal.readOnly : OpenOptionsInternal :=
  ⟨true, false, false, false, false, false⟩

/-- {lit}`SeekFromInternal` (converted one to one into {lit}`SeekFrom`). -/
inductive SeekFrom
  | start (offset : Nat)
  | «end» (offset : Int)
  | current (offset : Int)
deriving DecidableEq, Repr

/-- The host file object behind a {lit}`RemoteFile::File`. -/
abbrev FileHandle := Nat

/-- {lit}`MetadataInternal`, reduced to what the handlers inspect. -/
structure MetadataInternal where
  isDir : Bool
  inode : Nat
deriving DecidableEq, Repr

/-- {lit}`FsMetadataInternal`, copied from {lit}`statfs`. -/
structure FsMetadataInternal where
  filesystemType : Nat
  blocks : Nat
deriving DecidableEq, Repr

/-- An entry of a host directory listing ({lit}`std::fs::DirEntry`), with the
fields {lit}`DirEntryInternal`'s conversion reads. -/
structure DirEntry where
  inode : Nat
  name : String
  fileType : Nat
deriving DecidableEq, Repr

/-- {lit}`DirEntryInternal`: one directory entry on the wire. -/
structure DirEntryInternal where
  inode : Nat
  position : Nat
  name : String
  fileType : Nat
deriving DecidableEq, Repr

/-- {lit}`TryFrom<(usize, io::Result<DirEntry>)>` for {lit}`DirEntryInternal`:
the listing position becomes the entry's position; a failed listing item
stays an error. -/
def DirEntryInternal.tryFrom (position : Nat) :
    Except IoError DirEntry → Except IoError DirEntryInternal
  | .ok e => .ok ⟨e.inode, position, e.name, e.fileType⟩
  | .error err => .error err

/-- {lit}`libc::DT_DIR`, the type {lit}`.` and {lit}`..` are reported with. -/
def dtDir : Nat := 4

/-- {lit}`nix::unistd::UnlinkatFlags`. -/
inductive UnlinkatFlags
  | removeDir
  | noRemoveDir
deriving DecidableEq, Repr

/-! ## The host -/

/-- Every host call of {lit}`file.rs`.  Paths are host paths; a directory
listing is the sequence {lit}`ReadDir` yields. -/
structure Os where
  /-- {lit}`Path::is_symlink`. -/
  isSymlink : PathBuf → Bool
  /-- {lit}`Path::read_link` and {lit}`std::fs::read_link`. -/
  readLink : PathBuf → Except IoError PathBuf
  /-- {lit}`OpenOptions::open`. -/
  openFile : PathBuf → OpenOptionsInternal → Except IoError FileHandle
  /-- {lit}`File::metadata`. -/
  fileMetadata : FileHandle → Except IoError MetadataInternal
  /-- {lit}`std::fs::metadata` and {lit}`Path::metadata`. -/
  metadata : PathBuf → Except IoError MetadataInternal
  /-- {lit}`Path::symlink_metadata`. -/
  symlinkMetadata : PathBuf → Except IoError MetadataInternal
  /-- {lit}`Read::read` into the given buffer: the amount read and the buffer. -/
  read : FileHandle → List UInt8 → Except IoError (Nat × List UInt8)
  /-- {lit}`FileExt::read_at` into the given buffer from an offset. -/
  readAt : FileHandle → List UInt8 → Nat → Except IoError (Nat × List UInt8)
  /-- {lit}`Write::write`: the amount written. -/
  write : FileHandle → List UInt8 → Except IoError Nat
  /-- {lit}`FileExt::write_at` at an offset. -/
  writeAt : FileHandle → List UInt8 → Nat → Except IoError Nat
  /-- {lit}`Seek::seek`: the resulting offset. -/
  seek : FileHandle → SeekFrom → Except IoError Nat
  /-- {lit}`nix::unistd::mkdir`. -/
  mkdir : PathBuf → Nat → Except IoError Unit
  /-- {lit}`std::fs::remove_dir`. -/
  removeDir : PathBuf → Except IoError Unit
  /-- {lit}`nix::unistd::unlink`. -/
  unlink : PathBuf → Except IoError Unit
  /-- {lit}`nix::unistd::unlinkat`, with its raw directory descriptor. -/
  unlinkat : Option Int → PathBuf → UnlinkatFlags → Except IoError Unit
  /-- {lit}`faccess::PathExt::access` with an {lit}`AccessMode` bit set. -/
  access : PathBuf → Nat → Except IoError Unit
  /-- {lit}`nix::sys::statfs::fstatfs`. -/
  fstatfs : FileHandle → Except IoError FsMetadataInternal
  /-- {lit}`nix::sys::statfs::statfs`. -/
  statfs : PathBuf → Except IoError FsMetadataInternal
  /-- {lit}`Path::read_dir`: the listing the returned {lit}`ReadDir` yields. -/
  readDir : PathBuf → Except IoError (List (Except IoError DirEntry))
  /-- A link target is a parsed path: its root, if any, comes first. -/
  readLink_rootFirst : ∀ p q, readLink p = .ok q → q.RootFirst

/-! ## Requests and responses -/

/-- {lit}`FileRequest`, the requests {lit}`handle_message` dispatches on. -/
inductive FileRequest
  | «open» (path : PathBuf) (openOptions : OpenOptionsInternal)
  | openRelative (relativeFd : Nat) (path : PathBuf) (openOptions : OpenOptionsInternal)
  | read (remoteFd bufferSize : Nat)
  | readLimited (remoteFd bufferSize startFrom : Nat)
  | readLink (path : PathBuf)
  | seek (fd : Nat) (seekFrom : SeekFrom)
  | write (fd : Nat) (writeBytes : List UInt8)
  | writeLimited (remoteFd startFrom : Nat) (writeBytes : List UInt8)
  | close (fd : Nat)
  | access (pathname : PathBuf) (mode : UInt8)
  | xstat (path : Option PathBuf) (fd : Option Nat) (followSymlink : Bool)
  | xstatFs (fd : Nat)
  | fdOpenDir (remoteFd : Nat)
  | readDir (remoteFd : Nat)
  | readDirBatch (remoteFd amount : Nat)
  | closeDir (remoteFd : Nat)
  | getDEnts64 (remoteFd bufferSize : Nat)
  | makeDir (pathname : PathBuf) (mode : Nat)
  | makeDirAt (dirfd : Nat) (pathname : PathBuf) (mode : Nat)
  | removeDir (pathname : PathBuf)
  | unlink (pathname : PathBuf)
  | unlinkAt (dirfd : Option Nat) (pathname : PathBuf) (flags : Nat)
deriving Repr

/-- {lit}`ReadFileResponse`. -/
structure ReadFileResponse where
  bytes : List UInt8
  readAmount : Nat
deriving DecidableEq, Repr

/-- {lit}`ReadDirBatchResponse`. -/
structure ReadDirBatchResponse where
  fd : Nat
  dirEntries : List DirEntryInternal
deriving DecidableEq, Repr

/-- {lit}`GetDEnts64Response`. -/
structure GetDEnts64Response where
  fd : Nat
  entries : List DirEntryInternal
  resultSize : Nat
deriving DecidableEq, Repr

/-- {lit}`FileResponse`; an id-carrying {lit}`OpenFileResponse` or
{lit}`OpenDirResponse` is its id, the other unit-like payloads are their
values. -/
inductive FileResponse
  | «open» (result : RemoteResult Nat)
  | read (result : RemoteResult ReadFileResponse)
  | readLimited (result : RemoteResult ReadFileResponse)
  | readLink (result : RemoteResult PathBuf)
  | seek (result : RemoteResult Nat)
  | write (result : RemoteResult Nat)
  | writeLimited (result : RemoteResult Nat)
  | access (result : RemoteResult Unit)
  | xstat (result : RemoteResult MetadataInternal)
  | xstatFs (result : RemoteResult FsMetadataInternal)
  | openDir (result : RemoteResult Nat)
  | readDir (result : RemoteResult (Option DirEntryInternal))
  | readDirBatch (result : RemoteResult ReadDirBatchResponse)
  | getDEnts64 (result : RemoteResult GetDEnts64Response)
  | makeDir (result : RemoteResult Unit)
  | removeDir (result : RemoteResult Unit)
  | unlink (result : RemoteResult Unit)
deriving DecidableEq, Repr

/-- The fresh id a response hands out: the id of a successful {lit}`Open`,
{lit}`OpenRelative` or {lit}`FdOpenDir`. -/
def FileResponse.allocatedFd : FileResponse → Option Nat
  | .open (.ok fd) => some fd
  | .openDir (.ok fd) => some fd
  | _ => none

/-- Whether a response reports {lit}`IdsExhausted`. -/
def FileResponse.isIdsExhausted : FileResponse → Bool
  | .open (.error (.idsExhausted _)) => true
  | .openDir (.error (.idsExhausted _)) => true
  | _ => false

end File
end Mirrord
