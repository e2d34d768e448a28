import MirrordLean.Agent.File.Ids

/-!
# mirrord agent - What a Close releases

{lit}`FileManager::close` removes the id from {lit}`open_files` and from
nothing else; {lit}`close_dir` removes a directory stream or, when there is
none, a {lit}`getdents64` stream.  Since ids are never reused, a closed id
stays out of {lit}`open_files` for the rest of the session, and every request
that looks the id up there answers {lit}`NotFound`.  {lit}`GetDEnts64` looks in
{lit}`getdents_streams` first, so a stream created for a directory opened with
{lit}`Open` outlives the {lit}`Close` of its id and keeps answering for it.

Main results:

- Theorem {lit}`handleMessage_notFound_of_closed`: a request on an id absent
  from {lit}`open_files` answers {lit}`NotFound`, except {lit}`GetDEnts64` on an
  id with a stored stream.
- Theorem {lit}`closed_stays_closed`: after {lit}`Close` of an id already handed
  out, no later request files anything under it in {lit}`open_files`.
- Theorem {lit}`session_closed_notFound`: in a session from
  {lit}`FileManager::new`, a closed id answers {lit}`NotFound` to every request
  that names it, {lit}`GetDEnts64` with a stored stream apart.
- Theorem {lit}`getdents64_stream_survives_close`: a session that opens a
  directory, reads it with {lit}`GetDEnts64` and closes it keeps the stream
  through every later {lit}`GetDEnts64` on the closed id, which answers other
  than {lit}`NotFound`, while every other request on the id answers
  {lit}`NotFound`.
-/

namespace Mirrord
namespace File

/-- The id a request looks up in {lit}`open_files`, as the file it operates on
or the directory it is relative to. -/
def FileRequest.fileFd : FileRequest → Option Nat
  | .openRelative fd _ _ => some fd
  | .read fd _ => some fd
  | .readLimited fd _ _ => some fd
  | .seek fd _ => some fd
  | .write fd _ => some fd
  | .writeLimited fd _ _ => some fd
  | .xstat _ (some fd) _ => some fd
  | .xstatFs fd => some fd
  | .fdOpenDir fd => some fd
  | .getDEnts64 fd _ => some fd
  | .makeDirAt fd _ _ => some fd
  | .unlinkAt (some fd) _ _ => some fd
  | _ => none

/-- The error of a result, if it failed. -/
def errorOf {α : Type} : RemoteResult α → Option ResponseError
  | .ok _ => none
  | .error e => some e

/-- The error a response reports, if any. -/
def FileResponse.failure : FileResponse → Option ResponseError
  | .open r => errorOf r
  | .read r => errorOf r
  | .readLimited r => errorOf r
  | .readLink r => errorOf r
  | .seek r => errorOf r
  | .write r => errorOf r
  | .writeLimited r => errorOf r
  | .access r => errorOf r
  | .xstat r => errorOf r
  | .xstatFs r => errorOf r
  | .openDir r => errorOf r
  | .readDir r => errorOf r
  | .readDirBatch r => errorOf r
  | .getDEnts64 r => errorOf r
  | .makeDir r => errorOf r
  | .removeDir r => errorOf r
  | .unlink r => errorOf r

namespace FileManager

variable (os : Os) (reclen : DirEntryInternal → Nat)

/-! ## Requests on a closed id -/

/-- An id absent from {lit}`open_files` is not a directory to be relative to. -/
theorem relativeDir_of_closed {s : FileManager} {fd : Nat} (h : s.openFiles fd = none) :
    s.relativeDir fd = .error (.notFound fd) := by
  simp [relativeDir, h]

/-- An id absent from {lit}`open_files` is not a file to operate on. -/
theorem withFile_of_closed {α : Type} {s : FileManager} {fd : Nat} (h : s.openFiles fd = none)
    (k : FileHandle → RemoteResult α) : s.withFile fd k = .error (.notFound fd) := by
  simp [withFile, h]

/-- A request on an id absent from {lit}`open_files` answers {lit}`NotFound`,
unless it is a {lit}`GetDEnts64` that finds a stored stream. -/
theorem handleMessage_notFound_of_closed (s : FileManager) (req : FileRequest) {fd : Nat}
    (hfd : req.fileFd = some fd) (hclosed : s.openFiles fd = none)
    (hstream : ∀ bufferSize, req = .getDEnts64 fd bufferSize → s.getdentsStreams fd = none) :
    ∃ response, (s.handleMessage os reclen req).1 = .ok (some response) ∧
      response.failure = some (.notFound fd) := by
  have hdir := relativeDir_of_closed hclosed
  cases req
  case' xstat path fd' _ => cases path <;> cases fd'
  case' unlinkAt dirfd _ _ => cases dirfd
  all_goals simp only [FileRequest.fileFd, Option.some.injEq, reduceCtorEq] at hfd
  all_goals subst hfd
  case getDEnts64 bufferSize =>
    simp only [handleMessage, getdents64, getOrCreateGetdents64Stream, hstream bufferSize rfl,
      hclosed]
    exact ⟨_, rfl, rfl⟩
  all_goals
    refine ⟨_, rfl, ?_⟩
    simp only [FileResponse.failure, openRelative, read, readLimited, seek, write, writeLimited,
      xstat, xstatfs, xstatHostPath, xstatPath, fdopenDir, mkdirat, unlinkat, unlinkatPath,
      relativePath, hdir, hclosed, withFile_of_closed, Except.map, Except.bind, errorOf]

/-! ## A closed id stays closed -/

/-- A well-formed state in which an id already handed out has no open file
keeps it so for a whole session: only the fresh id gains an entry. -/
theorem openFiles_none_run (s : FileManager) (hw : IdsWellFormed s) {fd : Nat}
    (hfd : fd < s.fdsIter) (hnone : s.openFiles fd = none) (steps : List Step) :
    (s.run reclen steps).openFiles fd = none := by
  induction steps generalizing s with
  | nil => exact hnone
  | cons st steps ih =>
    obtain ⟨os, req⟩ := st
    have heff := handleMessage_idEffect os reclen s req
    refine ih _ (heff.wellFormed hw) (lt_of_lt_of_le hfd heff.fdsIter_mono.1) ?_
    by_contra hsome
    have := ((heff.keepsEntries hw).2.2 fd (.inl ⟨hnone, hsome⟩)).1
    omega

/-- After {lit}`Close` of an id already handed out, no later request of the
session files anything under it in {lit}`open_files`. -/
theorem closed_stays_closed (s : FileManager) (hw : IdsWellFormed s) {fd : Nat}
    (hfd : fd < s.fdsIter) (os : Os) (steps : List Step) :
    ((s.handleMessage os reclen (.close fd)).2.run reclen steps).openFiles fd = none := by
  have heff := handleMessage_idEffect os reclen s (.close fd)
  exact openFiles_none_run reclen _ (heff.wellFormed hw) (by simpa [handleMessage, close] using hfd)
    (by simp [handleMessage, close]) steps

/-- An id a session returned is below the start of the range after it. -/
theorem lt_fdsIter_of_mem_allocatedIds (s : FileManager) (steps : List Step) {fd : Nat}
    (h : fd ∈ s.allocatedIds reclen steps) : fd < (s.run reclen steps).fdsIter := by
  have := (allocatedIds_sublist reclen s steps).subset h
  rw [yieldedIds_eq_range', List.mem_range'_1] at this
  omega

/-- In a session from {lit}`FileManager::new`, once an id the session returned
is closed, every later request that looks it up in {lit}`open_files` answers
{lit}`NotFound`, unless it is a {lit}`GetDEnts64` that finds a stored stream. -/
theorem session_closed_notFound (pid : Option Nat) (before after : List Step) {fd : Nat}
    (hfd : fd ∈ (new pid).allocatedIds reclen before) (os os' : Os) (req : FileRequest)
    (hreq : req.fileFd = some fd) :
    let s := (((new pid).run reclen before).handleMessage os reclen (.close fd)).2.run reclen after
    ∃ response, (s.handleMessage os' reclen req).1 = .ok (some response) ∧
      (response.failure = some (.notFound fd) ∨
        (∃ bufferSize, req = .getDEnts64 fd bufferSize) ∧ s.getdentsStreams fd ≠ none) := by
  intro s
  have hclosed : s.openFiles fd = none :=
    closed_stays_closed reclen _ (run_wellFormed reclen _ (new_wellFormed pid) before)
      (lt_fdsIter_of_mem_allocatedIds reclen _ before hfd) os after
  by_cases hg : (∃ bufferSize, req = .getDEnts64 fd bufferSize) ∧ s.getdentsStreams fd ≠ none
  · have ⟨⟨b, hb⟩, _⟩ := hg
    subst hb
    exact ⟨_, rfl, .inr hg⟩
  · obtain ⟨response, hr, hf⟩ := handleMessage_notFound_of_closed os' reclen s req hreq hclosed
      fun b hb => by_contra fun hs => hg ⟨⟨b, hb⟩, hs⟩
    exact ⟨response, hr, .inl hf⟩

/-! ## The getdents64 stream of a closed id -/

/-- A stored {lit}`getdents64` stream stays stored, whatever the request it
answers. -/
theorem getdents64_keeps_stream (s : FileManager) {fd : Nat} (bufferSize : Nat)
    (h : s.getdentsStreams fd ≠ none) :
    (s.getdents64 os reclen fd bufferSize).2.getdentsStreams fd ≠ none := by
  obtain ⟨stream, hs⟩ := Option.ne_none_iff_exists'.1 h
  simp only [getdents64, getOrCreateGetdents64Stream, hs]
  split <;> simp

/-- A stored {lit}`getdents64` stream stays stored over any run of
{lit}`GetDEnts64` requests on its id, whatever their hosts and buffer sizes. -/
theorem getdents64_run_keeps_stream (s : FileManager) {fd : Nat} (reads : List (Os × Nat))
    (h : s.getdentsStreams fd ≠ none) :
    (s.run reclen (reads.map fun r => (r.1, .getDEnts64 fd r.2))).getdentsStreams fd ≠ none := by
  induction reads generalizing s with
  | nil => exact h
  | cons r reads ih => exact ih _ (getdents64_keeps_stream r.1 reclen s r.2 h)

/-- A host result passed on as a response is never {lit}`NotFound`. -/
theorem remote_map_ne_notFound {α β : Type} (f : α → β) (r : Except IoError α) (e : Nat) :
    (remote r).map f ≠ .error (.notFound e) := by
  cases r <;> simp [remote, Except.mapError, Except.map]

/-- {lit}`GetDEnts64` on an id with a stored stream never answers
{lit}`NotFound`: the stream is used without looking at {lit}`open_files`. -/
theorem getdents64_ne_notFound (s : FileManager) {fd : Nat} (bufferSize : Nat)
    (h : s.getdentsStreams fd ≠ none) (e : Nat) :
    (s.getdents64 os reclen fd bufferSize).1 ≠ .error (.notFound e) := by
  obtain ⟨stream, hs⟩ := Option.ne_none_iff_exists'.1 h
  simp only [getdents64, getOrCreateGetdents64Stream, hs]
  split
  · simp
  · exact remote_map_ne_notFound _ _ _

/-- {lit}`GetDEnts64` on an id with a stored stream gets an answer, and not
{lit}`NotFound`. -/
theorem handleMessage_getDEnts64_ne_notFound (s : FileManager) {fd : Nat} (bufferSize : Nat)
    (h : s.getdentsStreams fd ≠ none) :
    ∃ response, (s.handleMessage os reclen (.getDEnts64 fd bufferSize)).1 = .ok (some response) ∧
      response.failure ≠ some (.notFound fd) := by
  have hne := getdents64_ne_notFound os reclen s bufferSize h fd
  rcases hgd : s.getdents64 os reclen fd bufferSize with ⟨r, t⟩
  rw [hgd] at hne
  simp only [handleMessage, hgd]
  refine ⟨_, rfl, ?_⟩
  cases r <;> simp_all [FileResponse.failure, errorOf]

/-- A {lit}`GetDEnts64` whose stream the file manager stores or creates keeps
it stored. -/
theorem getdents64_stores_stream (s : FileManager) {fd : Nat} (bufferSize : Nat)
    (h : ∃ stream t, s.getOrCreateGetdents64Stream os fd = (.ok stream, t)) :
    (s.getdents64 os reclen fd bufferSize).2.getdentsStreams fd ≠ none := by
  obtain ⟨stream, t, ht⟩ := h
  simp only [getdents64, ht]
  split <;> simp

/-- The directory {lit}`/d` of the failing session. -/
def dirD : PathBuf := ⟨[.rootDir, .normal "d"]⟩

/-- A host whose only file is the directory {lit}`/d`, with handle 3 and one
entry {lit}`a`. -/
def listingHost : Os where
  isSymlink _ := false
  readLink _ := .error ⟨.other, "not a link"⟩
  openFile p _ := if p = dirD then .ok 3 else .error ⟨.other, "absent"⟩
  fileMetadata h := if h = 3 then .ok ⟨true, 2⟩ else .error ⟨.other, "absent"⟩
  metadata _ := .ok ⟨true, 2⟩
  symlinkMetadata _ := .ok ⟨true, 2⟩
  read _ _ := .error ⟨.other, "is a directory"⟩
  readAt _ _ _ := .error ⟨.other, "is a directory"⟩
  write _ _ := .error ⟨.other, "is a directory"⟩
  writeAt _ _ _ := .error ⟨.other, "is a directory"⟩
  seek _ _ := .ok 0
  mkdir _ _ := .ok ()
  removeDir _ := .ok ()
  unlink _ := .ok ()
  unlinkat _ _ _ := .ok ()
  access _ _ := .ok ()
  fstatfs _ := .ok ⟨0, 0⟩
  statfs _ := .ok ⟨0, 0⟩
  readDir p := if p = dirD then .ok [.ok ⟨5, "a", 8⟩] else .error ⟨.other, "absent"⟩
  readLink_rootFirst _ _ h := nomatch h

/-- The failing session: open {lit}`/d`, list it with {lit}`GetDEnts64`, close
its id. -/
def closeSession (bufferSize : Nat) : List Step :=
  [(listingHost, .open dirD .readOnly), (listingHost, .getDEnts64 0 bufferSize),
    (listingHost, .close 0)]

/-- {lit}`Close` removes the id from {lit}`open_files` only.  A session that
opens {lit}`/d` (id 0), reads it with {lit}`GetDEnts64` and closes id 0 keeps
the {lit}`getdents64` stream of id 0 through any further {lit}`GetDEnts64`
requests, each answered without {lit}`NotFound` whatever the hosts, buffer
sizes and record lengths; every other request naming id 0 after the close
answers {lit}`NotFound`. -/
theorem getdents64_stream_survives_close (bufferSize bufferSize' : Nat) :
    ((new none).handleMessage listingHost reclen (.open dirD .readOnly)).1 =
        .ok (some (.open (.ok 0))) ∧
      ((new none).run reclen (closeSession bufferSize)).openFiles 0 = none ∧
      (∀ (reads : List (Os × Nat)) (os' : Os),
        ((new none).run reclen (closeSession bufferSize ++
            reads.map fun r => (r.1, .getDEnts64 0 r.2))).getdentsStreams 0 ≠ none ∧
        ∃ response, (((new none).run reclen (closeSession bufferSize ++
            reads.map fun r => (r.1, .getDEnts64 0 r.2))).handleMessage os' reclen
              (.getDEnts64 0 bufferSize')).1 = .ok (some response) ∧
          response.failure ≠ some (.notFound 0)) ∧
      ∀ (after : List Step) (os' : Os) (req : FileRequest), req.fileFd = some 0 →
        (∀ b, req ≠ .getDEnts64 0 b) →
        ∃ response, (((new none).run reclen (closeSession bufferSize ++ after)).handleMessage os'
            reclen req).1 = .ok (some response) ∧ response.failure = some (.notFound 0) := by
  have hopen : ((new none).handleMessage listingHost reclen (.open dirD .readOnly)).1 =
      .ok (some (.open (.ok 0))) := rfl
  have hcreate : ∃ stream t, ((new none).handleMessage listingHost reclen
      (.open dirD .readOnly)).2.getOrCreateGetdents64Stream listingHost 0 = (.ok stream, t) :=
    ⟨_, _, rfl⟩
  have hstream : ((new none).run reclen (closeSession bufferSize)).getdentsStreams 0 ≠ none :=
    getdents64_stores_stream listingHost reclen _ bufferSize hcreate
  have hfd : 0 ∈ (new none).allocatedIds reclen
      [(listingHost, .open dirD .readOnly), (listingHost, .getDEnts64 0 bufferSize)] :=
    List.mem_append_left _ (by rw [hopen]; exact List.mem_singleton_self 0)
  refine ⟨hopen, ?_, fun reads os' => ?_, fun after os' req hreq hne => ?_⟩
  · simp only [closeSession, run_cons, FileManager.run, handleMessage, close, Table.remove_self]
  · rw [run_append]
    have hkept := getdents64_run_keeps_stream reclen _ reads hstream
    exact ⟨hkept, handleMessage_getDEnts64_ne_notFound os' reclen _ bufferSize' hkept⟩
  · obtain ⟨response, hr, hf⟩ := session_closed_notFound reclen none _ after hfd listingHost os' req hreq
    exact ⟨response, hr, hf.resolve_right fun h => h.1.elim hne⟩

end FileManager
end File
end Mirrord
