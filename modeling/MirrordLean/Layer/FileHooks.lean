import Mathlib
import MirrordLean.Layer.Close

/-!
# mirrord layer - The file hooks

{lit}`enable_file_hooks` puts a detour in front of {lit}`open`, {lit}`openat`,
{lit}`fopen`, {lit}`fdopen`, {lit}`read`, {lit}`fread`, {lit}`fileno`,
{lit}`lseek` and {lit}`write`.  Each detour decides where the call goes: to
the layer's {lit}`ops`, which ask the agent, for an absolute path that
{lit}`IGNORE_FILES` does not match or for a descriptor that {lit}`OPEN_FILES`
files a remote descriptor under; to the original libc function with the
application's own arguments otherwise.  This module models each detour as
that decision, over the {lit}`OPEN_FILES` of the layer's state.

Main results:

- Theorem {lit}`close_race_routes_opener_read`: after {lit}`close_detour`
  races a remote open, under every interleaving, the opener's {lit}`read` of
  its descriptor goes to the agent with its remote descriptor, except when it
  filed the closed descriptor inside the close's window: then it goes to libc,
  which reads the local placeholder.
- Theorems {lit}`freadDetour_returns_byte_count` and
  {lit}`lseekDetour_seekSet_of_neg`: {lit}`fread_detour` returns a number of
  bytes where {lit}`fread` returns a number of elements, and a negative
  {lit}`SEEK_SET` offset reaches the agent as the position {lit}`2^64` above
  it.

Current gaps:

- The layer's {lit}`ops` and the conversions of {lit}`LayerError` into return
  values are not among the sources: a remote call is the call made, and a
  failed UTF-8 conversion is {lit}`utf8Error`.
- {lit}`IGNORE_FILES` is the parameter {lit}`ignoreFiles`;
  {lit}`OpenOptionsInternalExt::from_flags` and {lit}`from_mode` are not among
  the sources, so the remote calls carry the flags and the mode.
- {lit}`AT_FDCWD` and the {lit}`SEEK_*` constants take their Linux values.
-/

namespace Mirrord
namespace Layer

/-! ## Calls -/

/-- {lit}`SeekFrom`. -/
inductive SeekFrom
  | start (offset : Nat)
  | current (offset : Int)
  | «end» (offset : Int)
deriving DecidableEq, Repr

/-- A {lit}`FILE` stream, by what {lit}`fileno_detour` reads of it: the
integer at its start, which is the local descriptor for a stream of the layer,
and what libc's {lit}`fileno` answers for it. -/
structure FileStream where
  head : Int
  fileno : Int
deriving DecidableEq, Repr

/-- A call that a file hook intercepts, with its arguments.  A C string is
what {lit}`CStr::to_str` reads, none when it is not UTF-8; a buffer is its
bytes, none when it is null. -/
inductive HookCall
  | «open» (rawPath : Option String) (openFlags : Int)
  | fopen (rawPath rawMode : Option String)
  | fdopen (fd : Int) (rawMode : Option String)
  | openat (fd : Int) (rawPath : Option String) (openFlags : Int)
  | read (fd : Int) (count : Nat)
  | fread (elementSize numberOfElements : Nat) (fileStream : FileStream)
  | lseek (fd : Int) (offset : BitVec 64) (whence : Int)
  | write (fd : Int) (buffer : Option (List UInt8)) (count : Nat)
deriving DecidableEq, Repr

/-- A call of the layer's {lit}`ops`, which the agent serves, with the remote
descriptors of {lit}`OPEN_FILES`. -/
inductive RemoteCall
  | «open» (path : String) (openFlags : Int)
  | fopen (path mode : String)
  | fdopen (localFd : Int) (remoteFd : Nat) (mode : String)
  | openat (path : String) (openFlags : Int) (remoteFd : Nat)
  | read (remoteFd count : Nat)
  | lseek (remoteFd : Nat) (seekFrom : SeekFrom)
  | write (remoteFd : Nat) (writeBytes : List UInt8)
deriving DecidableEq, Repr

/-- What a detour does with a call: hand it to {lit}`ops`, pass it to the
original libc function, return the conversion of a UTF-8 error, or return a
value at once. -/
inductive Dispatch
  | remote (call : RemoteCall)
  | libc (call : HookCall)
  | utf8Error
  | returns (value : Int)
deriving DecidableEq, Repr

/-- {lit}`AT_FDCWD`. -/
def atFdcwd : Int := -100

/-- {lit}`SEEK_SET`. -/
def seekSet : Int := 0

/-- {lit}`SEEK_CUR`. -/
def seekCur : Int := 1

/-- {lit}`SEEK_END`. -/
def seekEnd : Int := 2

/-- {lit}`Path::is_absolute` on Unix: the path starts at the root. -/
def isAbsolute (path : String) : Bool := path.startsWith "/"

/-- {lit}`OPEN_FILES.get(&fd)`.  Its keys are descriptors the kernel handed
out, so a negative descriptor has no entry. -/
def LayerState.remoteFdOf (l : LayerState) (fd : Int) : Option Nat :=
  if 0 ≤ fd then l.openFiles fd.toNat else none

@[simp] theorem LayerState.remoteFdOf_natCast (l : LayerState) (fd : Nat) :
    l.remoteFdOf fd = l.openFiles fd := by
  simp [LayerState.remoteFdOf]

/-! ## The detours -/

section Detours

variable (ignoreFiles : String → Bool) (l : LayerState)

/-- The pattern the descriptor detours share: the detour's remote call with
the remote descriptor that {lit}`OPEN_FILES` files under the descriptor, and
otherwise the original function with the application's arguments. -/
def withRemoteFd (fd : Int) (remote : Nat → Dispatch) (call : HookCall) : Dispatch :=
  match l.remoteFdOf fd with
  | some remoteFd => remote remoteFd
  | none => .libc call

theorem withRemoteFd_of_some {fd : Int} {remoteFd : Nat} (h : l.remoteFdOf fd = some remoteFd)
    (remote : Nat → Dispatch) (call : HookCall) : withRemoteFd l fd remote call = remote remoteFd := by
  simp [withRemoteFd, h]

theorem withRemoteFd_of_none {fd : Int} (h : l.remoteFdOf fd = none) (remote : Nat → Dispatch)
    (call : HookCall) : withRemoteFd l fd remote call = .libc call := by
  simp [withRemoteFd, h]

/-- {lit}`open_detour`: an absolute path that {lit}`IGNORE_FILES` does not
match goes to the agent. -/
def openDetour (rawPath : Option String) (openFlags : Int) : Dispatch :=
  match rawPath with
  | none => .utf8Error
  | some path =>
      if ignoreFiles path || !isAbsolute path then .libc (.open rawPath openFlags)
      else .remote (.open path openFlags)

/-- {lit}`fopen_detour`: as {lit}`open_detour`, once the mode is read too. -/
def fopenDetour (rawPath rawMode : Option String) : Dispatch :=
  match rawPath, rawMode with
  | none, _ => .utf8Error
  | some _, none => .utf8Error
  | some path, some mode =>
      if ignoreFiles path || !isAbsolute path then .libc (.fopen rawPath rawMode)
      else .remote (.fopen path mode)

/-- {lit}`fdopen_detour`: a stream over a descriptor of {lit}`OPEN_FILES`. -/
def fdopenDetour (fd : Int) (rawMode : Option String) : Dispatch :=
  match rawMode with
  | none => .utf8Error
  | some mode =>
      withRemoteFd l fd (fun remoteFd => .remote (.fdopen fd remoteFd mode)) (.fdopen fd rawMode)

/-- {lit}`openat_detour`: {lit}`open_detour` for an absolute path or
{lit}`AT_FDCWD`, otherwise an open relative to the remote directory. -/
def openatDetour (fd : Int) (rawPath : Option String) (openFlags : Int) : Dispatch :=
  match rawPath with
  | none => .utf8Error
  | some path =>
      if isAbsolute path || fd == atFdcwd then openDetour ignoreFiles rawPath openFlags
      else
        withRemoteFd l fd (fun remoteFd => .remote (.openat path openFlags remoteFd))
          (.openat fd rawPath openFlags)

/-- {lit}`read_detour`. -/
def readDetour (fd : Int) (count : Nat) : Dispatch :=
  withRemoteFd l fd (fun remoteFd => .remote (.read remoteFd count)) (.read fd count)

/-- {lit}`fileno_detour`: the integer at the start of the stream when
{lit}`OPEN_FILES` has it, libc's {lit}`fileno` otherwise. -/
def filenoDetour (fileStream : FileStream) : Int :=
  if (l.remoteFdOf fileStream.head).isSome then fileStream.head else fileStream.fileno

/-- {lit}`fread_detour`: a read of {lit}`element_size * number_of_elements`
bytes, a {lit}`usize` product, on the descriptor {lit}`fileno_detour` gives. -/
def freadDetour (elementSize numberOfElements : Nat) (fileStream : FileStream) : Dispatch :=
  withRemoteFd l (filenoDetour l fileStream)
    (fun remoteFd => .remote (.read remoteFd (elementSize * numberOfElements % 2 ^ 64)))
    (.fread elementSize numberOfElements fileStream)

/-- {lit}`lseek_detour`: {lit}`SEEK_SET` takes the offset {lit}`as u64`, and a
{lit}`whence` of none of the three returns -1. -/
def lseekDetour (fd : Int) (offset : BitVec 64) (whence : Int) : Dispatch :=
  withRemoteFd l fd
    (fun remoteFd =>
      if whence = seekSet then .remote (.lseek remoteFd (.start offset.toNat))
      else if whence = seekCur then .remote (.lseek remoteFd (.current offset.toInt))
      else if whence = seekEnd then .remote (.lseek remoteFd (.end offset.toInt))
      else .returns (-1))
    (.lseek fd offset whence)

/-- {lit}`write_detour`: a null buffer returns -1, otherwise the
{lit}`count` bytes of the buffer are written. -/
def writeDetour (fd : Int) (buffer : Option (List UInt8)) (count : Nat) : Dispatch :=
  withRemoteFd l fd
    (fun remoteFd =>
      match buffer with
      | none => .returns (-1)
      | some bytes => .remote (.write remoteFd (bytes.take count)))
    (.write fd buffer count)

/-- The detour {lit}`enable_file_hooks` puts in front of each function. -/
def HookCall.dispatch : HookCall → Dispatch
  | .open rawPath openFlags => openDetour ignoreFiles rawPath openFlags
  | .fopen rawPath rawMode => fopenDetour ignoreFiles rawPath rawMode
  | .fdopen fd rawMode => fdopenDetour l fd rawMode
  | .openat fd rawPath openFlags => openatDetour ignoreFiles l fd rawPath openFlags
  | .read fd count => readDetour l fd count
  | .fread elementSize numberOfElements fileStream =>
      freadDetour l elementSize numberOfElements fileStream
  | .lseek fd offset whence => lseekDetour l fd offset whence
  | .write fd buffer count => writeDetour l fd buffer count

end Detours

/-! ## Replies -/

/-- {lit}`ReadFileResponse`. -/
structure ReadFileResponse where
  bytes : List UInt8
  readAmount : Nat
deriving DecidableEq, Repr

/-- The closure that {lit}`read_detour` and {lit}`fread_detour` run on the
agent's reply: the first {lit}`read_amount` bytes are copied over the buffer
when there are any, and {lit}`read_amount` is returned. -/
def copyReadReply (outBuffer : List UInt8) (response : ReadFileResponse) : List UInt8 × Nat :=
  (if 0 < response.readAmount then
      response.bytes.take response.readAmount ++ outBuffer.drop response.readAmount
    else outBuffer,
    response.readAmount)

/-- On a stream of the layer, {lit}`fread_detour` asks the agent for
{lit}`element_size` times {lit}`number_of_elements` bytes and returns the
number of bytes read, where {lit}`fread` returns a number of elements: a full
read of two or more bytes per element returns more than the number of
elements asked for. -/
theorem freadDetour_returns_byte_count (l : LayerState) {elementSize numberOfElements : Nat}
    {fileStream : FileStream} {remoteFd : Nat}
    (hfd : l.remoteFdOf (filenoDetour l fileStream) = some remoteFd) (hsize : 2 ≤ elementSize)
    (hn : 0 < numberOfElements) (hfit : elementSize * numberOfElements < 2 ^ 64)
    (outBuffer : List UInt8) {response : ReadFileResponse}
    (hfull : response.readAmount = elementSize * numberOfElements) :
    freadDetour l elementSize numberOfElements fileStream =
        .remote (.read remoteFd (elementSize * numberOfElements)) ∧
      numberOfElements < (copyReadReply outBuffer response).2 := by
  refine ⟨by rw [freadDetour, withRemoteFd_of_some l hfd, Nat.mod_eq_of_lt hfit], ?_⟩
  calc numberOfElements < 2 * numberOfElements := by omega
    _ ≤ elementSize * numberOfElements := Nat.mul_le_mul_right _ hsize
    _ = (copyReadReply outBuffer response).2 := hfull.symm

/-- A process whose descriptor 3 is a managed file of remote descriptor 7. -/
def managedFile : LayerState :=
  ⟨[0, 1, 2, 3], fun k => if k = 3 then some 7 else none, fun _ => false, true⟩

/-- Two four-byte elements read in full: {lit}`fread` answers 8. -/
example : freadDetour managedFile 4 2 ⟨3, 3⟩ = .remote (.read 7 8) ∧
    (copyReadReply (List.replicate 8 1) ⟨List.replicate 8 0, 8⟩).2 = 8 := ⟨rfl, rfl⟩

/-! ## Seeking -/

/-- A managed descriptor's {lit}`lseek` with a {lit}`whence` that is none of
{lit}`SEEK_SET`, {lit}`SEEK_CUR` and {lit}`SEEK_END` returns -1 without a
call. -/
theorem lseekDetour_invalid_whence (l : LayerState) {fd : Int} {remoteFd : Nat}
    (hfd : l.remoteFdOf fd = some remoteFd) (offset : BitVec 64) {whence : Int}
    (hw : whence ≠ seekSet ∧ whence ≠ seekCur ∧ whence ≠ seekEnd) :
    lseekDetour l fd offset whence = .returns (-1) := by
  simp [lseekDetour, withRemoteFd_of_some l hfd, hw.1, hw.2.1, hw.2.2]

/-- A negative offset with {lit}`SEEK_SET` reaches the agent, through
{lit}`offset as u64`, as the position {lit}`2^64` above it. -/
theorem lseekDetour_seekSet_of_neg (l : LayerState) {fd : Int} {remoteFd : Nat}
    (hfd : l.remoteFdOf fd = some remoteFd) {offset : BitVec 64} (hneg : offset.toInt < 0) :
    ∃ position : Nat, lseekDetour l fd offset seekSet = .remote (.lseek remoteFd (.start position)) ∧
      (position : Int) = offset.toInt + 2 ^ 64 := by
  refine ⟨offset.toNat, by simp [lseekDetour, withRemoteFd_of_some l hfd], ?_⟩
  rw [BitVec.toInt_eq_toNat_cond] at hneg ⊢
  split_ifs at hneg ⊢ <;> omega

example : lseekDetour managedFile 3 (BitVec.ofInt 64 (-1)) seekSet =
    .remote (.lseek 7 (.start (2 ^ 64 - 1))) := rfl

/-! ## Reads after a close races an open -/

section CloseRace

variable {fd r : Nat}

/-- After {lit}`close_detour` of a managed file's descriptor races a remote
open, once both have returned, the opener's {lit}`read` of the descriptor it
got goes to the agent with its remote descriptor, except when that descriptor
is the closed one and was filed between {lit}`FN_CLOSE` and
{lit}`close_layer_fd`: then the read goes to libc, which reads the local
placeholder. -/
theorem close_race_routes_opener_read (l : LayerState) (hfd : fd ∈ l.kernelFds)
    (hsock : l.sockets fd = false) (hfs : l.fsActive = true) (schedule : List Thread)
    {resA : Int} {fdB : Nat}
    (hA : ((Race.init l .start).run (closeDetourStep fd) (some r) schedule).closer = .returned resA)
    (hB : ((Race.init l .start).run (closeDetourStep fd) (some r) schedule).opener = .returned fdB)
    (count : Nat) :
    readDetour ((Race.init l .start).run (closeDetourStep fd) (some r) schedule).layer fdB count =
      if fdB = fd ∧ ((Race.init l .start).run (closeDetourStep fd) (some r)
          schedule).closerAtInsert.any CloseDetourPc.inWindow
      then .libc (.read fdB count) else .remote (.read r count) := by
  have hfiles := ((CloseInv.init hfd hsock hfs).run schedule).openFiles_of_returned hA hB
  unfold readDetour
  split_ifs with hreuse
  · exact withRemoteFd_of_none _ (by simpa [hreuse] using hfiles) _ _
  · exact withRemoteFd_of_some _ (by simpa [hreuse] using hfiles) _ _

theorem close_race_routes_opener_read_reused :
    3 ∈ managedThree.kernelFds ∧ managedThree.sockets 3 = false ∧ managedThree.fsActive = true ∧
      ((Race.init managedThree .start).run (closeDetourStep 3) (some 9)
        [.closer, .opener, .opener, .opener, .closer]).closer = .returned 0 ∧
      ((Race.init managedThree .start).run (closeDetourStep 3) (some 9)
        [.closer, .opener, .opener, .opener, .closer]).opener = .returned 3 ∧
      readDetour ((Race.init managedThree .start).run (closeDetourStep 3) (some 9)
          [.closer, .opener, .opener, .opener, .closer]).layer 3 64 =
        if 3 = 3 ∧ ((Race.init managedThree .start).run (closeDetourStep 3) (some 9)
            [.closer, .opener, .opener, .opener, .closer]).closerAtInsert.any CloseDetourPc.inWindow
        then .libc (.read 3 64) else .remote (.read 9 64) :=
  ⟨by decide, rfl, rfl, by decide, by decide,
    @close_race_routes_opener_read 3 9 managedThree (by decide) rfl rfl
      [.closer, .opener, .opener, .opener, .closer] 0 3 (by decide) (by decide) 64⟩

end CloseRace

end Layer
end Mirrord
