import MirrordLean.Agent.File.Getdents

/-!
# mirrord agent - Requests on the wrong id

Every request that names an id looks it up before it does anything else: the
file requests in {lit}`open_files` for a file, the requests relative to a
directory in {lit}`open_files` for a directory, {lit}`Xstat` on an id alone and
{lit}`XstatFs` in {lit}`open_files` for either, {lit}`ReadDir` and
{lit}`ReadDirBatch` in {lit}`dir_streams`, and {lit}`GetDEnts64` in
{lit}`getdents_streams` and then in {lit}`open_files` for a directory.  A lookup
that fails answers with its typed error and hands the manager back as it was:
no table changes and no id is taken.  {lit}`Close` and {lit}`CloseDir` have no
response, so an unknown id there is only logged.

Main results:

- Definition {lit}`FileRequest.idUse`: the id a request names and the lookup it
  makes with it.
- Definition {lit}`IdUse.lookupError`: the error that lookup gives in a state.
- Theorem {lit}`handleMessage_of_lookupError`: a request whose lookup fails
  answers with that error and leaves the state as it was.
- Theorem {lit}`handleMessage_of_absent_silent`: {lit}`Close` and
  {lit}`CloseDir` of an id no table holds answer nothing and change nothing.
- Theorem {lit}`id_misuse_errors_typed_and_atomic`: an absent id answers
  {lit}`NotFound` (or nothing, for the two closes), a file request on a
  directory {lit}`NotFile`, a directory request on a file {lit}`NotDirectory`,
  each with the state unchanged.
- Theorem {lit}`close_of_absent_id_answers_nothing`: {lit}`Close` and
  {lit}`CloseDir` of an unknown id have no {lit}`NotFound` to answer.

Current gaps:

- {lit}`Open`, {lit}`Access` and the other path requests name no id and are
  outside this classification.
-/

namespace Mirrord
namespace File

/-- The lookup a request makes with the id it names. -/
inductive IdUse
  /-- {lit}`open_files`, for a file. -/
  | file
  /-- {lit}`open_files`, for a directory to work relative to. -/
  | directory
  /-- {lit}`open_files`, for a file or a directory. -/
  | entry
  /-- {lit}`dir_streams`. -/
  | dirStream
  /-- {lit}`getdents_streams`, then {lit}`open_files` for a directory. -/
  | getdents
  /-- {lit}`open_files`, to remove the id, with no response. -/
  | close
  /-- {lit}`dir_streams`, then {lit}`getdents_streams`, to remove the id, with
  no response. -/
  | closeDir
deriving DecidableEq, Repr

/-- The id a request names and the lookup it makes with it. -/
def FileRequest.idUse : FileRequest → Option (Nat × IdUse)
  | .read fd _ | .readLimited fd _ _ | .seek fd _ | .write fd _ | .writeLimited fd _ _ =>
      some (fd, .file)
  | .openRelative fd _ _ | .makeDirAt fd _ _ | .unlinkAt (some fd) _ _ | .xstat (some _) (some fd) _
  | .fdOpenDir fd => some (fd, .directory)
  | .xstat none (some fd) _ | .xstatFs fd => some (fd, .entry)
  | .readDir fd | .readDirBatch fd _ => some (fd, .dirStream)
  | .getDEnts64 fd _ => some (fd, .getdents)
  | .close fd => some (fd, .close)
  | .closeDir fd => some (fd, .closeDir)
  | _ => none

namespace IdUse

/-- Whether the request answers: {lit}`Close` and {lit}`CloseDir` do not. -/
def responds : IdUse → Bool
  | .close | .closeDir => false
  | _ => true

/-- Whether no table the lookup consults holds the id. -/
def absent (s : FileManager) (fd : Nat) : IdUse → Bool
  | .dirStream => (s.dirStreams fd).isNone
  | .getdents => (s.getdentsStreams fd).isNone && (s.openFiles fd).isNone
  | .closeDir => (s.dirStreams fd).isNone && (s.getdentsStreams fd).isNone
  | .file | .directory | .entry | .close => (s.openFiles fd).isNone

/-- The error of looking an id up in {lit}`open_files` for a directory. -/
def directoryError (s : FileManager) (fd : Nat) : Option ResponseError :=
  match s.openFiles fd with
  | none => some (.notFound fd)
  | some (.file _) => some (.notDirectory fd)
  | some (.directory _) => none

/-- The error the lookup gives in a state, or nothing when it finds what the
request needs; the two closes never answer with one. -/
def lookupError (s : FileManager) (fd : Nat) : IdUse → Option ResponseError
  | .file =>
      match s.openFiles fd with
      | none => some (.notFound fd)
      | some (.file _) => none
      | some (.directory _) => some (.notFile fd)
  | .directory => directoryError s fd
  | .entry => if (s.openFiles fd).isNone then some (.notFound fd) else none
  | .dirStream => if (s.dirStreams fd).isNone then some (.notFound fd) else none
  | .getdents => if (s.getdentsStreams fd).isNone then directoryError s fd else none
  | .close | .closeDir => none

/-- A lookup that answers and finds nothing fails with {lit}`NotFound`. -/
theorem lookupError_of_absent {s : FileManager} {fd : Nat} {use : IdUse}
    (habs : use.absent s fd) (hresp : use.responds) :
    use.lookupError s fd = some (.notFound fd) := by
  cases use <;> simp_all [absent, responds, lookupError, directoryError]

end IdUse

namespace FileManager

variable (os : Os) (reclen : DirEntryInternal → Nat)

/-! ## One lookup, one typed error -/

theorem withFile_of_lookupError {α : Type} {s : FileManager} {fd : Nat} {err : ResponseError}
    (herr : IdUse.file.lookupError s fd = some err) (k : FileHandle → RemoteResult α) :
    s.withFile fd k = .error err := by
  simp only [IdUse.lookupError] at herr
  simp only [withFile]
  split <;> simp_all

theorem relativeDir_of_directoryError {s : FileManager} {fd : Nat} {err : ResponseError}
    (herr : IdUse.directoryError s fd = some err) : s.relativeDir fd = .error err := by
  simp only [IdUse.directoryError] at herr
  simp only [relativeDir]
  split <;> simp_all

theorem getOrCreateGetdents64Stream_of_lookupError {s : FileManager} {fd : Nat}
    {err : ResponseError} (herr : IdUse.getdents.lookupError s fd = some err) :
    s.getOrCreateGetdents64Stream os fd = (.error err, s) := by
  simp only [IdUse.lookupError, Option.isNone_iff_eq_none] at herr
  split at herr
  · have herr := relativeDir_of_directoryError herr
    simp only [relativeDir] at herr
    simp only [getOrCreateGetdents64Stream, ‹s.getdentsStreams fd = none›]
    split <;> simp_all
  · simp at herr

/-- A request whose lookup fails answers with the lookup's error, and hands
the manager back unchanged: the lookup comes before every table update and
before any id is taken. -/
theorem handleMessage_of_lookupError (s : FileManager) {req : FileRequest} {fd : Nat}
    {use : IdUse} (hreq : req.idUse = some (fd, use)) {err : ResponseError}
    (herr : use.lookupError s fd = some err) :
    ∃ response, s.handleMessage os reclen req = (.ok (some response), s) ∧
      response.failure = some err := by
  cases req
  case' xstat path fd' _ => cases path <;> cases fd'
  case' unlinkAt dirfd _ _ => cases dirfd
  all_goals
    simp only [FileRequest.idUse, Option.some.injEq, Prod.mk.injEq, reduceCtorEq] at hreq
  all_goals obtain ⟨rfl, rfl⟩ := hreq
  case read | readLimited | seek | write | writeLimited =>
    exact ⟨_, rfl, by simp only [FileResponse.failure, read, readLimited, seek, write,
      writeLimited, withFile_of_lookupError herr, errorOf]⟩
  case makeDirAt | unlinkAt.some | xstat.some.some =>
    have hdir := relativeDir_of_directoryError herr
    exact ⟨_, rfl, by simp only [FileResponse.failure, mkdirat, unlinkat, unlinkatPath, xstat,
      xstatHostPath, xstatPath, relativePath, hdir, Except.map, Except.bind, errorOf]⟩
  case openRelative | fdOpenDir =>
    have hdir := relativeDir_of_directoryError herr
    simp only [handleMessage, openRelative, fdopenDir, relativePath, hdir, Except.map]
    exact ⟨_, rfl, rfl⟩
  case xstat.none.some | xstatFs =>
    simp only [IdUse.lookupError, Option.isNone_iff_eq_none] at herr
    split at herr
    · obtain rfl := Option.some.inj herr
      exact ⟨_, rfl, by simp only [FileResponse.failure, xstat, xstatfs, ‹s.openFiles _ = none›,
        errorOf]⟩
    · cases herr
  case readDir | readDirBatch =>
    simp only [IdUse.lookupError, Option.isNone_iff_eq_none] at herr
    split at herr
    · obtain rfl := Option.some.inj herr
      simp only [handleMessage, readDir, readDirBatch, ‹s.dirStreams _ = none›]
      exact ⟨_, rfl, rfl⟩
    · cases herr
  case getDEnts64 =>
    simp only [handleMessage, getdents64, getOrCreateGetdents64Stream_of_lookupError os herr]
    exact ⟨_, rfl, rfl⟩
  case close | closeDir => cases herr

/-- {lit}`Close` and {lit}`CloseDir` of an id no table they consult holds
answer nothing and change nothing. -/
theorem handleMessage_of_absent_silent (s : FileManager) {req : FileRequest} {fd : Nat}
    {use : IdUse} (hreq : req.idUse = some (fd, use)) (habs : use.absent s fd)
    (hsilent : use.responds = false) :
    s.handleMessage os reclen req = (.ok none, s) := by
  cases req
  case' xstat path fd' _ => cases path <;> cases fd'
  case' unlinkAt dirfd _ _ => cases dirfd
  all_goals
    simp only [FileRequest.idUse, Option.some.injEq, Prod.mk.injEq, reduceCtorEq] at hreq
  all_goals obtain ⟨rfl, rfl⟩ := hreq
  all_goals simp only [IdUse.responds, reduceCtorEq] at hsilent
  case close =>
    simp only [IdUse.absent, Option.isNone_iff_eq_none] at habs
    simp [handleMessage, close, Table.remove_of_none habs]
  case closeDir =>
    simp only [IdUse.absent, Bool.and_eq_true, Option.isNone_iff_eq_none] at habs
    simp [handleMessage, closeDir, habs.1, Table.remove_of_none habs.2]

/-- A request on an id no table it consults holds answers {lit}`NotFound`, or
nothing for {lit}`Close` and {lit}`CloseDir`; a file request on a directory
answers {lit}`NotFile`; a directory request on a file, and {lit}`GetDEnts64` on
a file with no stream, answer {lit}`NotDirectory`; and in each case the
manager is left exactly as it was. -/
theorem id_misuse_errors_typed_and_atomic (s : FileManager) {req : FileRequest} {fd : Nat}
    {use : IdUse} (hreq : req.idUse = some (fd, use)) :
    (use.absent s fd → use.responds →
      ∃ response, s.handleMessage os reclen req = (.ok (some response), s) ∧
        response.failure = some (.notFound fd)) ∧
    (use.absent s fd → use.responds = false →
      s.handleMessage os reclen req = (.ok none, s)) ∧
    (use = .file → (∃ dir, s.openFiles fd = some (.directory dir)) →
      ∃ response, s.handleMessage os reclen req = (.ok (some response), s) ∧
        response.failure = some (.notFile fd)) ∧
    (use = .directory ∨ use = .getdents ∧ s.getdentsStreams fd = none →
      (∃ file, s.openFiles fd = some (.file file)) →
      ∃ response, s.handleMessage os reclen req = (.ok (some response), s) ∧
        response.failure = some (.notDirectory fd)) := by
  refine ⟨fun habs hresp => handleMessage_of_lookupError os reclen s hreq
      (IdUse.lookupError_of_absent habs hresp),
    handleMessage_of_absent_silent os reclen s hreq, ?_, ?_⟩
  · rintro rfl ⟨dir, hdir⟩
    exact handleMessage_of_lookupError os reclen s hreq (by simp [IdUse.lookupError, hdir])
  · rintro huse ⟨file, hfile⟩
    refine handleMessage_of_lookupError os reclen s hreq ?_
    rcases huse with rfl | ⟨rfl, hnone⟩ <;>
      simp [IdUse.lookupError, IdUse.directoryError, hfile, *]

/-- {lit}`Read` of a directory id answers {lit}`NotFile`, with the manager
unchanged. -/
theorem id_misuse_errors_typed_and_atomic_readOfDirD :
    (FileRequest.read 0 16).idUse = some (0, .file) ∧
      dirDState.openFiles 0 = some (.directory dirD) ∧
      (IdUse.file.absent dirDState 0 → IdUse.file.responds →
        ∃ response, dirDState.handleMessage listingHost (fun _ => 24) (.read 0 16) =
            (.ok (some response), dirDState) ∧
          response.failure = some (.notFound 0)) ∧
      (IdUse.file.absent dirDState 0 → IdUse.file.responds = false →
        dirDState.handleMessage listingHost (fun _ => 24) (.read 0 16) = (.ok none, dirDState)) ∧
      (IdUse.file = .file → (∃ dir, dirDState.openFiles 0 = some (.directory dir)) →
        ∃ response, dirDState.handleMessage listingHost (fun _ => 24) (.read 0 16) =
            (.ok (some response), dirDState) ∧
          response.failure = some (.notFile 0)) ∧
      (IdUse.file = .directory ∨ IdUse.file = .getdents ∧ dirDState.getdentsStreams 0 = none →
        (∃ file, dirDState.openFiles 0 = some (.file file)) →
        ∃ response, dirDState.handleMessage listingHost (fun _ => 24) (.read 0 16) =
            (.ok (some response), dirDState) ∧
          response.failure = some (.notDirectory 0)) :=
  ⟨rfl, rfl, id_misuse_errors_typed_and_atomic listingHost (fun _ => 24) dirDState rfl⟩

/-- {lit}`Close` and {lit}`CloseDir` of an id that no table holds have no
response at all, so they cannot answer {lit}`NotFound`. -/
theorem close_of_absent_id_answers_nothing :
    (new none).openFiles 0 = none ∧
      ((new none).handleMessage listingHost (fun _ => 24) (.close 0)).1 = .ok none ∧
      (new none).dirStreams 0 = none ∧ (new none).getdentsStreams 0 = none ∧
      ((new none).handleMessage listingHost (fun _ => 24) (.closeDir 0)).1 = .ok none :=
  ⟨rfl, rfl, rfl, rfl, rfl⟩

end FileManager
end File
end Mirrord
