import MirrordLean.Agent.File.ResolvePath
import MirrordLean.Agent.File.Streams

/-!
# mirrord agent - The remote file manager

{lit}`FileManager` owns the agent's table of remote files.  Each request of the
layer is one call of {lit}`handle_message`, which dispatches to a handler; the
handlers look ids up in {lit}`open_files`, {lit}`dir_streams` and
{lit}`getdents_streams`, take fresh ids from {lit}`fds_iter`, and call the host.
A handler's result and the manager's new state are returned together, because
Rust's {lit}`&mut self` keeps what a handler changed before an error.

Main results:

- Definition {lit}`FileManager.handleMessage`: {lit}`handle_message`, with every
  handler of {lit}`file.rs` it reaches.
- Definition {lit}`FileManager.run`: the state after a sequence of requests,
  each under its own host.

Current gaps:

- {lit}`read_line` is not reachable from {lit}`handle_message` and is not
  modelled.
- {lit}`DirEntryInternal::get_d_reclen64` lives in {lit}`mirrord_protocol`; the
  model takes it as the parameter {lit}`reclen`.
-/

namespace Mirrord
namespace File

/-- {lit}`RemoteFile`: an open host file, or a directory kept by its path. -/
inductive RemoteFile
  | file (file : FileHandle)
  | directory (path : PathBuf)
deriving DecidableEq, Repr

/-- A {lit}`HashMap<u64, _>` of the file manager, by its lookup function. -/
abbrev Table (α : Type) := Nat → Option α

namespace Table

variable {α : Type}

/-- {lit}`HashMap::insert`. -/
def insert (m : Table α) (k : Nat) (v : α) : Table α :=
  fun j => if j = k then some v else m j

/-- {lit}`HashMap::remove`. -/
def remove (m : Table α) (k : Nat) : Table α :=
  fun j => if j = k then none else m j

@[simp]
theorem insert_self (m : Table α) (k : Nat) (v : α) : m.insert k v k = some v := by
  simp [insert]

@[simp]
theorem insert_ne (m : Table α) {j k : Nat} (v : α) (h : j ≠ k) : m.insert k v j = m j := by
  simp [insert, h]

@[simp]
theorem remove_self (m : Table α) (k : Nat) : m.remove k k = none := by
  simp [remove]

@[simp]
theorem remove_ne (m : Table α) {j k : Nat} (h : j ≠ k) : m.remove k j = m j := by
  simp [remove, h]

/-- Removing a key the table does not hold leaves it as it was. -/
theorem remove_of_none {m : Table α} {k : Nat} (h : m k = none) : m.remove k = m := by
  funext j
  by_cases hj : j = k
  · subst hj; simp [h]
  · simp [hj]

end Table

/-- {lit}`u64::MAX`, the last id {lit}`fds_iter` hands out. -/
def u64Max : Nat := 2 ^ 64 - 1

/-- {lit}`FileManager`.  {lit}`fdsIter` is the start of the range
{lit}`fds_iter`; it passes {lit}`u64::MAX` exactly when the range is
exhausted. -/
structure FileManager where
  rootPath : PathBuf
  openFiles : Table RemoteFile
  dirStreams : Table DirStream
  getdentsStreams : Table GetDEnts64Peekable
  fdsIter : Nat

namespace FileManager

/-- {lit}`FileManager::new`: the root of the target, empty tables, and the id
range {lit}`0..=u64::MAX`. -/
def new (pid : Option Nat) : FileManager where
  rootPath := getRootPathFromOptionalPid pid
  openFiles := fun _ => none
  dirStreams := fun _ => none
  getdentsStreams := fun _ => none
  fdsIter := 0

/-- {lit}`self.fds_iter.next()`: the next id and the advanced range, or nothing
once {lit}`u64::MAX` has been handed out. -/
def nextFd (s : FileManager) : Option (Nat × FileManager) :=
  if s.fdsIter ≤ u64Max then some (s.fdsIter, { s with fdsIter := s.fdsIter + 1 }) else none

/-- A host error as a response error ({lit}`ResponseError::from` through {lit}`?`). -/
def remote {α : Type} (r : Except IoError α) : RemoteResult α :=
  r.mapError .remoteIo

/-- {lit}`u64 as RawFd`: the low 32 bits, as a signed descriptor. -/
def asRawFd (fd : Nat) : Int := (BitVec.ofNat 32 fd).toInt

/-- {lit}`u8::reverse_bits`. -/
def reverseBits8 (b : UInt8) : UInt8 :=
  ((List.range 8).foldl (fun acc i => if b.toNat.testBit i then acc + 2 ^ (7 - i) else acc) 0 :
    Nat).toUInt8

/-- The {lit}`AccessMode` of {lit}`access`:
{lit}`AccessMode::from_bits((mode << 4).reverse_bits() | 1).unwrap_or(AccessMode::EXISTS)`,
where the four defined flags are the low four bits and {lit}`EXISTS` is 1. -/
def accessMode (mode : UInt8) : Nat :=
  let bits := (reverseBits8 (mode <<< 4)).toNat ||| 1
  if bits < 16 then bits else 1

variable (os : Os)

/-! ## Opening -/

/-- The part {lit}`open` and {lit}`open_relative` share once the host path is
known: open it, take an id (reporting {lit}`IdsExhausted(op)` when there is
none), read the metadata, and file a directory by its path or a file by its
handle. -/
def openAt (s : FileManager) (path : PathBuf) (openOptions : OpenOptionsInternal)
    (op : String) : RemoteResult Nat × FileManager :=
  match os.openFile path openOptions with
  | .error e => (.error (.remoteIo e), s)
  | .ok file =>
      match s.nextFd with
      | none => (.error (.idsExhausted op), s)
      | some (fd, s) =>
          match os.fileMetadata file with
          | .error e => (.error (.remoteIo e), s)
          | .ok metadata =>
              let remoteFile := if metadata.isDir then RemoteFile.directory path else .file file
              (.ok fd, { s with openFiles := s.openFiles.insert fd remoteFile })

/-- {lit}`FileManager::open`: resolve the path under the root, then open it. -/
def «open» (s : FileManager) (path : PathBuf) (openOptions : OpenOptionsInternal) :
    RemoteResult Nat × FileManager :=
  match resolvePath os path s.rootPath with
  | .error e => (.error (.remoteIo e), s)
  | .ok path => s.openAt os path openOptions "open"

/-- The directory behind an id, as the requests relative to a directory look
it up: {lit}`NotFound` for an unknown id, {lit}`NotDirectory` for a file. -/
def relativeDir (s : FileManager) (fd : Nat) : RemoteResult PathBuf :=
  match s.openFiles fd with
  | none => .error (.notFound fd)
  | some (.directory dir) => .ok dir
  | some (.file _) => .error (.notDirectory fd)

/-- The host path of a path relative to a directory id:
{lit}`relative_dir.join(path)`. -/
def relativePath (s : FileManager) (fd : Nat) (path : PathBuf) : RemoteResult PathBuf :=
  (s.relativeDir fd).map fun dir => dir.join path

/-- {lit}`FileManager::open_relative`: join the path onto the directory's host
path, then open it. -/
def openRelative (s : FileManager) (relativeFd : Nat) (path : PathBuf)
    (openOptions : OpenOptionsInternal) : RemoteResult Nat × FileManager :=
  match s.relativePath relativeFd path with
  | .error e => (.error e, s)
  | .ok path => s.openAt os path openOptions "FileManager::open_relative"

/-! ## File operations -/

/-- The lookup every file-only request starts with: {lit}`NotFound` for an
unknown id, {lit}`NotFile` for a directory. -/
def withFile {α : Type} (s : FileManager) (fd : Nat) (k : FileHandle → RemoteResult α) :
    RemoteResult α :=
  match s.openFiles fd with
  | none => .error (.notFound fd)
  | some (.file file) => k file
  | some (.directory _) => .error (.notFile fd)

/-- {lit}`FileManager::read`: read into a zeroed buffer of the requested size
and truncate it to the amount read. -/
def read (s : FileManager) (fd bufferSize : Nat) : RemoteResult ReadFileResponse :=
  s.withFile fd fun file =>
    (remote (os.read file (List.replicate bufferSize 0))).map fun (readAmount, buffer) =>
      ⟨buffer.take readAmount, readAmount⟩

/-- {lit}`FileManager::read_limited`: {lit}`read` at an offset. -/
def readLimited (s : FileManager) (fd bufferSize startFrom : Nat) :
    RemoteResult ReadFileResponse :=
  s.withFile fd fun file =>
    (remote (os.readAt file (List.replicate bufferSize 0) startFrom)).map
      fun (readAmount, buffer) => ⟨buffer.take readAmount, readAmount⟩

/-- {lit}`FileManager::write`. -/
def write (s : FileManager) (fd : Nat) (writeBytes : List UInt8) : RemoteResult Nat :=
  s.withFile fd fun file => remote (os.write file writeBytes)

/-- {lit}`FileManager::write_limited`. -/
def writeLimited (s : FileManager) (fd startFrom : Nat) (buffer : List UInt8) :
    RemoteResult Nat :=
  s.withFile fd fun file => remote (os.writeAt file buffer startFrom)

/-- {lit}`FileManager::seek`. -/
def seek (s : FileManager) (fd : Nat) (seekFrom : SeekFrom) : RemoteResult Nat :=
  s.withFile fd fun file => remote (os.seek file seekFrom)

/-- {lit}`FileManager::close`: forget the id; an unknown id is only logged. -/
def close (s : FileManager) (fd : Nat) : FileManager :=
  { s with openFiles := s.openFiles.remove fd }

/-! ## Path operations -/

/-- {lit}`FileManager::read_link`: the link under the root, without resolving
the path. -/
def readLink (s : FileManager) (path : PathBuf) : RemoteResult PathBuf :=
  match path.stripRoot with
  | none => .error (.stripPrefix "prefix not found")
  | some path => remote (os.readLink (s.rootPath.join path))

/-- {lit}`FileManager::mkdir`. -/
def mkdir (s : FileManager) (path : PathBuf) (mode : Nat) : RemoteResult Unit :=
  (remote (resolvePath os path s.rootPath)).bind fun path => remote (os.mkdir path mode)

/-- {lit}`FileManager::mkdirat`: relative to a directory id. -/
def mkdirat (s : FileManager) (dirfd : Nat) (path : PathBuf) (mode : Nat) : RemoteResult Unit :=
  (s.relativePath dirfd path).bind fun path => remote (os.mkdir path mode)

/-- {lit}`FileManager::rmdir`. -/
def rmdir (s : FileManager) (path : PathBuf) : RemoteResult Unit :=
  (remote (resolvePath os path s.rootPath)).bind fun path => remote (os.removeDir path)

/-- {lit}`FileManager::unlink`. -/
def unlink (s : FileManager) (path : PathBuf) : RemoteResult Unit :=
  (remote (resolvePath os path s.rootPath)).bind fun path => remote (os.unlink path)

/-- The host path of {lit}`unlinkat`: joined onto the directory of
{lit}`dirfd`, or resolved under the root without one. -/
def unlinkatPath (s : FileManager) (dirfd : Option Nat) (path : PathBuf) : RemoteResult PathBuf :=
  match dirfd with
  | some dirfd => s.relativePath dirfd path
  | none => remote (resolvePath os path s.rootPath)

/-- {lit}`FileManager::unlinkat`: flags 0 select {lit}`RemoveDir`, any other
value {lit}`NoRemoveDir`, and the id is passed on as a raw descriptor. -/
def unlinkat (s : FileManager) (dirfd : Option Nat) (path : PathBuf) (flags : Nat) :
    RemoteResult Unit :=
  (s.unlinkatPath os dirfd path).bind fun path =>
    remote (os.unlinkat (dirfd.map asRawFd) path
      (if flags = 0 then .removeDir else .noRemoveDir))

/-- {lit}`FileManager::access`. -/
def access (s : FileManager) (pathname : PathBuf) (mode : UInt8) : RemoteResult Unit :=
  (remote (resolvePath os pathname s.rootPath)).bind fun pathname =>
    remote (os.access pathname (accessMode mode))

/-- The error of {lit}`xstat` with neither a path nor an id. -/
def invalidInput : IoError := ⟨.invalidInput, "invalid input parameter"⟩

/-- The path {lit}`xstat` stats, before its leading {lit}`/` is stripped: the
path itself, or the path joined onto the directory of {lit}`fd`. -/
def xstatPath (s : FileManager) (path : PathBuf) : Option Nat → RemoteResult PathBuf
  | none => .ok path
  | some fd => s.relativePath fd path

/-- The host path {lit}`xstat` stats a path at: after the leading {lit}`/` is
stripped, {lit}`resolve_path` under the root when following symlinks, else the
root joined with the path. -/
def xstatHostPath (s : FileManager) (path : PathBuf) (fd : Option Nat) (followSymlink : Bool) :
    RemoteResult PathBuf :=
  (s.xstatPath path fd).bind fun path =>
    match path.stripRoot with
    | none => .error (.remoteIo couldntStripPrefix)
    | some path =>
        if followSymlink then remote (resolvePath os path s.rootPath)
        else .ok (s.rootPath.join path)

/-- {lit}`FileManager::xstat`: {lit}`fstat` on an id alone; otherwise strip the
leading {lit}`/` and stat under the root, through {lit}`resolve_path` when
following symlinks. -/
def xstat (s : FileManager) : Option PathBuf → Option Nat → Bool → RemoteResult MetadataInternal
  | none, some fd, _ =>
      match s.openFiles fd with
      | none => .error (.notFound fd)
      | some (.file file) => remote (os.fileMetadata file)
      | some (.directory path) => remote (os.metadata path)
  | none, none, _ => .error (.remoteIo invalidInput)
  | some path, fd, followSymlink =>
      (s.xstatHostPath os path fd followSymlink).bind fun path =>
        remote (if followSymlink then os.metadata path else os.symlinkMetadata path)

/-- {lit}`FileManager::xstatfs`. -/
def xstatfs (s : FileManager) (fd : Nat) : RemoteResult FsMetadataInternal :=
  match s.openFiles fd with
  | none => .error (.notFound fd)
  | some (.file file) => remote (os.fstatfs file)
  | some (.directory path) => remote (os.statfs path)

/-! ## Directory streams -/

/-- {lit}`FileManager::fdopen_dir`: check the id names a directory, take a
fresh id, and only then list the directory. -/
def fdopenDir (s : FileManager) (fd : Nat) : RemoteResult Nat × FileManager :=
  match s.relativeDir fd with
  | .error e => (.error e, s)
  | .ok path =>
      match s.nextFd with
      | none => (.error (.idsExhausted "fdopen_dir"), s)
      | some (fd, s) =>
          match os.readDir path with
          | .error e => (.error (.remoteIo e), s)
          | .ok listing => (.ok fd, { s with dirStreams := s.dirStreams.insert fd (DirStream.new listing) })

/-- {lit}`FileManager::read_dir`: the next entry of a directory stream. -/
def readDir (s : FileManager) (fd : Nat) : RemoteResult (Option DirEntryInternal) × FileManager :=
  match s.dirStreams fd with
  | none => (.error (.notFound fd), s)
  | some stream =>
      let (item, stream) := stream.next
      let s := { s with dirStreams := s.dirStreams.insert fd stream }
      match item with
      | none => (.ok none, s)
      | some (position, entry) => ((remote (DirEntryInternal.tryFrom position entry)).map some, s)

/-- {lit}`take(amount).map(DirEntryInternal::try_from).try_collect()`: at most
{lit}`amount` entries, stopping at the first failed conversion. -/
def readDirBatchLoop : Nat → DirStream → List DirEntryInternal →
    Except IoError (List DirEntryInternal) × DirStream
  | 0, stream, entries => (.ok entries, stream)
  | amount + 1, stream, entries =>
      match stream.next with
      | (none, stream) => (.ok entries, stream)
      | (some (position, entry), stream) =>
          match DirEntryInternal.tryFrom position entry with
          | .error e => (.error e, stream)
          | .ok entry => readDirBatchLoop amount stream (entries ++ [entry])

/-- {lit}`FileManager::read_dir_batch`. -/
def readDirBatch (s : FileManager) (fd amount : Nat) :
    RemoteResult ReadDirBatchResponse × FileManager :=
  match s.dirStreams fd with
  | none => (.error (.notFound fd), s)
  | some stream =>
      let (result, stream) := readDirBatchLoop amount stream []
      ((remote result).map fun entries => ⟨fd, entries⟩,
        { s with dirStreams := s.dirStreams.insert fd stream })

/-- {lit}`FileManager::close_dir`: drop the directory stream of the id, and only
if there is none, its {lit}`getdents64` stream. -/
def closeDir (s : FileManager) (fd : Nat) : FileManager :=
  match s.dirStreams fd with
  | some _ => { s with dirStreams := s.dirStreams.remove fd }
  | none => { s with getdentsStreams := s.getdentsStreams.remove fd }

/-- {lit}`FileManager::get_current_and_parent_entries`: {lit}`.` at position 0
and, when the directory has a parent, {lit}`..` at position 1, each with the
inode of its metadata. -/
def getCurrentAndParentEntries (current : PathBuf) : List (Except IoError DirEntryInternal) :=
  let pathToDirEntryInternal (path : PathBuf) (position : Nat) (name : String) :=
    (os.metadata path).map fun metadata => (⟨metadata.inode, position, name, dtDir⟩ : DirEntryInternal)
  pathToDirEntryInternal current 0 "." ::
    match current.parent with
    | some parent => [pathToDirEntryInternal parent 1 ".."]
    | none => []

/-- {lit}`FileManager::get_or_create_getdents64_stream`: the stored stream of the
id, or a new one over the directory it names. -/
def getOrCreateGetdents64Stream (s : FileManager) (fd : Nat) :
    RemoteResult GetDEnts64Peekable × FileManager :=
  match s.getdentsStreams fd with
  | some stream => (.ok stream, s)
  | none =>
      match s.openFiles fd with
      | none => (.error (.notFound fd), s)
      | some (.file _) => (.error (.notDirectory fd), s)
      | some (.directory dir) =>
          let currentAndParent := getCurrentAndParentEntries os dir
          match os.readDir dir with
          | .error e => (.error (.remoteIo e), s)
          | .ok listing =>
              let stream := Peekable.new (GetDEnts64Stream.new listing currentAndParent)
              (.ok stream, { s with getdentsStreams := s.getdentsStreams.insert fd stream })

/-- {lit}`FileManager::getdents64`: an empty batch once the stream is
exhausted; otherwise the entries that fit in {lit}`bufferSize` bytes, the
stream keeping the rest for the next call. -/
def getdents64 (reclen : DirEntryInternal → Nat) (s : FileManager) (fd bufferSize : Nat) :
    RemoteResult GetDEnts64Response × FileManager :=
  match s.getOrCreateGetdents64Stream os fd with
  | (.error e, s) => (.error e, s)
  | (.ok stream, s) =>
      let (head, stream) := stream.peek GetDEnts64Stream.next
      match head with
      | none =>
          (.ok ⟨fd, [], 0⟩, { s with getdentsStreams := s.getdentsStreams.insert fd stream })
      | some _ =>
          let (result, stream) := getdents64Loop reclen bufferSize (GetDEnts64Peekable.remaining stream + 1) stream 0 []
          ((remote result).map fun (entries, resultSize) => ⟨fd, entries, resultSize⟩,
            { s with getdentsStreams := s.getdentsStreams.insert fd stream })

/-! ## Dispatch -/

/-- {lit}`FileManager::handle_message`.  {lit}`Open` and {lit}`Access` strip the
leading {lit}`/` with {lit}`?` on the agent's own error; {lit}`Close` and
{lit}`CloseDir` have no response. -/
def handleMessage (reclen : DirEntryInternal → Nat) (s : FileManager) :
    FileRequest → Except AgentError (Option FileResponse) × FileManager
  | .open path openOptions =>
      match path.stripRoot with
      | none => (.error .stripPrefix, s)
      | some path =>
          let (result, s) := s.open os path openOptions
          (.ok (some (.open result)), s)
  | .openRelative relativeFd path openOptions =>
      let (result, s) := s.openRelative os relativeFd path openOptions
      (.ok (some (.open result)), s)
  | .read remoteFd bufferSize => (.ok (some (.read (s.read os remoteFd bufferSize))), s)
  | .readLimited remoteFd bufferSize startFrom =>
      (.ok (some (.readLimited (s.readLimited os remoteFd bufferSize startFrom))), s)
  | .readLink path => (.ok (some (.readLink (s.readLink os path))), s)
  | .seek fd seekFrom => (.ok (some (.seek (s.seek os fd seekFrom))), s)
  | .write fd writeBytes => (.ok (some (.write (s.write os fd writeBytes))), s)
  | .writeLimited remoteFd startFrom writeBytes =>
      (.ok (some (.writeLimited (s.writeLimited os remoteFd startFrom writeBytes))), s)
  | .close fd => (.ok none, s.close fd)
  | .access pathname mode =>
      match pathname.stripRoot with
      | none => (.error .stripPrefix, s)
      | some pathname => (.ok (some (.access (s.access os pathname mode))), s)
  | .xstat path fd followSymlink => (.ok (some (.xstat (s.xstat os path fd followSymlink))), s)
  | .xstatFs fd => (.ok (some (.xstatFs (s.xstatfs os fd))), s)
  | .fdOpenDir remoteFd =>
      let (result, s) := s.fdopenDir os remoteFd
      (.ok (some (.openDir result)), s)
  | .readDir remoteFd =>
      let (result, s) := s.readDir remoteFd
      (.ok (some (.readDir result)), s)
  | .readDirBatch remoteFd amount =>
      let (result, s) := s.readDirBatch remoteFd amount
      (.ok (some (.readDirBatch result)), s)
  | .closeDir remoteFd => (.ok none, s.closeDir remoteFd)
  | .getDEnts64 remoteFd bufferSize =>
      let (result, s) := s.getdents64 os reclen remoteFd bufferSize
      (.ok (some (.getDEnts64 result)), s)
  | .makeDir pathname mode => (.ok (some (.makeDir (s.mkdir os pathname mode))), s)
  | .makeDirAt dirfd pathname mode => (.ok (some (.makeDir (s.mkdirat os dirfd pathname mode))), s)
  | .removeDir pathname => (.ok (some (.removeDir (s.rmdir os pathname))), s)
  | .unlink pathname => (.ok (some (.unlink (s.unlink os pathname))), s)
  | .unlinkAt dirfd pathname flags =>
      (.ok (some (.unlink (s.unlinkat os dirfd pathname flags))), s)

end FileManager

/-- One request of a session, with the host it meets. -/
abbrev Step := Os × FileRequest

/-- The state after a session's requests, each handled under its own host. -/
def FileManager.run (reclen : DirEntryInternal → Nat) (s : FileManager) : List Step → FileManager
  | [] => s
  | (os, req) :: steps => (s.handleMessage os reclen req).2.run reclen steps

/-- The responses of a session's requests, in order. -/
def FileManager.responses (reclen : DirEntryInternal → Nat) (s : FileManager) :
    List Step → List (Except AgentError (Option FileResponse))
  | [] => []
  | (os, req) :: steps =>
      (s.handleMessage os reclen req).1 :: (s.handleMessage os reclen req).2.responses reclen steps

end File
end Mirrord
