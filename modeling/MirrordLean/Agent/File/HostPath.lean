import MirrordLean.Agent.File.Manager

/-!
# mirrord agent - Host paths of relative and absolute requests

A request on a path reaches the host with one host path.  The absolute
requests ({lit}`Open`, {lit}`MakeDir`, {lit}`UnlinkAt` without a directory,
{lit}`Xstat` with a path alone) resolve the target path under the root with
{lit}`resolve_path`, which follows symlinks itself.  The requests relative to a
directory id ({lit}`OpenRelative`, {lit}`MakeDirAt`, {lit}`UnlinkAt` with a
directory) join the path onto the directory's host path and leave symlinks and
{lit}`..` to the host kernel.  {lit}`Xstat` with both a path and a directory
joins the path onto the directory's host path, which already starts with the
root, and then resolves the result under the root once more.

The two kinds agree when the relative path is a sequence of names none of
which is a symlink below the directory; a symlink, in particular one with an
absolute target, makes them differ.

Main results:

- Definition {lit}`hostPath`: the host path each path request hands to the
  host, with one lemma per request kind saying that its host call is made
  there.
- Theorem {lit}`relative_hostPath_eq_absolute`: below a directory id opened
  at {lit}`resolve_path(/d)`, a relative path of names that meets no symlink
  gets the host path of {lit}`/d/x`; a path of names that meets no symlink
  under the root gets the same host path from {lit}`Xstat` with and without
  following symlinks.
- Theorem {lit}`relative_and_absolute_hostPaths_differ`: a symlink with an
  absolute target below the directory, a symlink earlier in the path, and the
  second resolution of {lit}`Xstat` relative to a directory each give another
  host path.
- Theorem {lit}`open_refuses_parentDir_readLink_and_lstat_pass_it`:
  {lit}`ReadLink` and an {lit}`Xstat` that does not follow symlinks join the
  request path onto the root without {lit}`resolve_path`, so a {lit}`..` that
  {lit}`Open` refuses as an LFI attempt reaches the host below the root.
-/

namespace Mirrord
namespace File
namespace FileManager

variable (os : Os)

/-- The host path a path request hands to the host, as its handler computes
it; {lit}`none` for a request without a path, and for an {lit}`Open` whose
path does not start with {lit}`/`. -/
def hostPath (s : FileManager) : FileRequest → Option (RemoteResult PathBuf)
  | .open path _ => path.stripRoot.map fun path => remote (resolvePath os path s.rootPath)
  | .openRelative fd path _ => some (s.relativePath fd path)
  | .makeDir path _ => some (remote (resolvePath os path s.rootPath))
  | .makeDirAt fd path _ => some (s.relativePath fd path)
  | .unlinkAt dirfd path _ => some (s.unlinkatPath os dirfd path)
  | .xstat (some path) fd followSymlink => some (s.xstatHostPath os path fd followSymlink)
  | _ => none

/-! ## Each handler calls the host at its host path -/

section Handlers

variable (reclen : DirEntryInternal → Nat) (s : FileManager) {p : PathBuf}

/-- An {lit}`Open` opens its host path, and the response carries the new id. -/
theorem handleMessage_open_at_hostPath {path : PathBuf} {o : OpenOptionsInternal}
    (h : hostPath os s (.open path o) = some (.ok p)) :
    s.handleMessage os reclen (.open path o) =
      (.ok (some (.open (s.openAt os p o "open").1)), (s.openAt os p o "open").2) := by
  simp only [hostPath, Option.map_eq_some', Option.some.injEq] at h
  obtain ⟨q, hq, hp⟩ := h
  cases hr : resolvePath os q s.rootPath <;>
    simp_all [handleMessage, FileManager.open, remote, Except.mapError]

/-- An {lit}`OpenRelative` opens its host path, under its own log label. -/
theorem handleMessage_openRelative_at_hostPath {fd : Nat} {path : PathBuf}
    {o : OpenOptionsInternal} (h : hostPath os s (.openRelative fd path o) = some (.ok p)) :
    s.handleMessage os reclen (.openRelative fd path o) =
      (.ok (some (.open (s.openAt os p o "FileManager::open_relative").1)),
        (s.openAt os p o "FileManager::open_relative").2) := by
  simp only [hostPath, Option.some.injEq] at h
  simp [handleMessage, openRelative, h]

/-- A {lit}`MakeDir` creates its host path and leaves the manager unchanged. -/
theorem handleMessage_makeDir_at_hostPath {path : PathBuf} {mode : Nat}
    (h : hostPath os s (.makeDir path mode) = some (.ok p)) :
    s.handleMessage os reclen (.makeDir path mode) =
      (.ok (some (.makeDir (remote (os.mkdir p mode)))), s) := by
  simp only [hostPath, Option.some.injEq] at h
  simp [handleMessage, mkdir, h, Except.bind]

/-- A {lit}`MakeDirAt` creates its host path and leaves the manager unchanged. -/
theorem handleMessage_makeDirAt_at_hostPath {fd : Nat} {path : PathBuf} {mode : Nat}
    (h : hostPath os s (.makeDirAt fd path mode) = some (.ok p)) :
    s.handleMessage os reclen (.makeDirAt fd path mode) =
      (.ok (some (.makeDir (remote (os.mkdir p mode)))), s) := by
  simp only [hostPath, Option.some.injEq] at h
  simp [handleMessage, mkdirat, h, Except.bind]

/-- An {lit}`UnlinkAt` unlinks its host path, with {lit}`RemoveDir` exactly when the
flags are zero. -/
theorem handleMessage_unlinkAt_at_hostPath {dirfd : Option Nat} {path : PathBuf} {flags : Nat}
    (h : hostPath os s (.unlinkAt dirfd path flags) = some (.ok p)) :
    s.handleMessage os reclen (.unlinkAt dirfd path flags) =
      (.ok (some (.unlink (remote (os.unlinkat (dirfd.map asRawFd) p
        (if flags = 0 then .removeDir else .noRemoveDir))))), s) := by
  simp only [hostPath, Option.some.injEq] at h
  simp [handleMessage, unlinkat, h, Except.bind]

/-- An {lit}`Xstat` with a path reads the metadata of its host path, through a final
symlink when asked to follow it. -/
theorem handleMessage_xstat_at_hostPath {path : PathBuf} {fd : Option Nat} {follow : Bool}
    (h : hostPath os s (.xstat (some path) fd follow) = some (.ok p)) :
    s.handleMessage os reclen (.xstat (some path) fd follow) =
      (.ok (some (.xstat (remote (if follow then os.metadata p else os.symlinkMetadata p)))), s) := by
  simp only [hostPath, Option.some.injEq] at h
  simp [handleMessage, xstat, h, Except.bind]

end Handlers

/-! ## A target with symlinks -/

/-- The target root {lit}`/proc/1/root` of the failing inputs. -/
def root1 : PathBuf := getRootPathFromOptionalPid (some 1)

/-- The host path {lit}`/proc/1/root/` followed by some names. -/
def underRoot1 (names : List String) : PathBuf := ⟨root1.components ++ names.map .normal⟩

/-- A target whose directory {lit}`/d` holds a symlink {lit}`l` to {lit}`/etc`,
and whose {lit}`/a` is a symlink to {lit}`d`. -/
def linkHost : Os where
  isSymlink p := p = underRoot1 ["d", "l"] || p = underRoot1 ["a"]
  readLink p :=
    if p = underRoot1 ["d", "l"] then .ok ⟨[.rootDir, .normal "etc"]⟩
    else if p = underRoot1 ["a"] then .ok ⟨[.normal "d"]⟩
    else .error ⟨.other, "not a link"⟩
  openFile _ _ := .ok 3
  fileMetadata _ := .ok ⟨true, 2⟩
  metadata _ := .ok ⟨true, 2⟩
  symlinkMetadata _ := .ok ⟨false, 2⟩
  read _ _ := .error ⟨.other, "is a directory"⟩
  readAt _ _ _ := .error ⟨.other, "is a directory"⟩
  write _ _ := .error ⟨.other, "is a directory"⟩
  writeAt _ _ _ := .error ⟨.other, "is a directory"⟩
  seek _ _ := .ok 0
  mkdir _ _ := .ok ()
  removeDir _ := .ok ()
  unlink _ := .ok ()
  unlinkat _ _ _ := .ok ()
  access _ _ := .ok ()
  fstatfs _ := .ok ⟨0, 0⟩
  statfs _ := .ok ⟨0, 0⟩
  readDir _ := .ok []
  readLink_rootFirst p q h := by
    dsimp only at h
    split at h
    · simp only [Except.ok.injEq] at h; subst h; decide
    · split at h <;> simp only [Except.ok.injEq, reduceCtorEq] at h
      subst h; decide

/-- The file manager of target 1 with id 0 the directory {lit}`/d`, at the
host path {lit}`resolve_path(/d)`. -/
def dirState : FileManager :=
  { new (some 1) with openFiles := (new (some 1)).openFiles.insert 0 (.directory (underRoot1 ["d"])) }

/-! ## Where the two kinds agree -/

/-- A leading root is skipped by the walk. -/
theorem resolvePath_rootDir_cons (cs : List Component) (root : PathBuf) :
    resolvePath os ⟨.rootDir :: cs⟩ root = resolvePath os ⟨cs⟩ root := by
  simp [resolvePath, List.foldlM_cons, resolveStep]
  rfl

/-- Below a directory id whose host path {lit}`resolve_path` gave for
{lit}`/d`, a relative path of names none of which is a symlink on the host
gets the host path of {lit}`/d/x` from {lit}`OpenRelative`, {lit}`MakeDirAt`
and {lit}`UnlinkAt`, as from their absolute counterparts; and a path of names
none of which is a symlink under the root gets the same host path from
{lit}`Xstat` whether it follows symlinks or not. -/
theorem relative_hostPath_eq_absolute (s : FileManager) {fd : Nat} {pd : PathBuf}
    (d : List Component) (names : List String)
    (hfd : s.openFiles fd = some (.directory pd))
    (hpd : resolvePath os ⟨.rootDir :: d⟩ s.rootPath = .ok pd)
    (hlinks : ∀ k, 0 < k → k ≤ names.length →
      os.isSymlink ⟨pd.components ++ (names.take k).map .normal⟩ = false)
    (o : OpenOptionsInternal) (mode flags : Nat) :
    hostPath os s (.openRelative fd ⟨names.map .normal⟩ o) =
        some (.ok (pd.join ⟨names.map .normal⟩)) ∧
      hostPath os s (.open ⟨.rootDir :: d ++ names.map .normal⟩ o) =
        some (.ok (pd.join ⟨names.map .normal⟩)) ∧
      hostPath os s (.makeDirAt fd ⟨names.map .normal⟩ mode) =
        hostPath os s (.makeDir ⟨.rootDir :: d ++ names.map .normal⟩ mode) ∧
      hostPath os s (.unlinkAt (some fd) ⟨names.map .normal⟩ flags) =
        hostPath os s (.unlinkAt none ⟨.rootDir :: d ++ names.map .normal⟩ flags) ∧
      ∀ q : List String, (∀ k, 0 < k → k ≤ q.length →
          os.isSymlink ⟨s.rootPath.components ++ (q.take k).map .normal⟩ = false) →
        hostPath os s (.xstat (some ⟨.rootDir :: q.map .normal⟩) none false) =
          hostPath os s (.xstat (some ⟨.rootDir :: q.map .normal⟩) none true) := by
  have hrel : s.relativePath fd ⟨names.map .normal⟩ = .ok (pd.join ⟨names.map .normal⟩) := by
    simp [relativePath, relativeDir, hfd, Except.map]
  have habs : resolvePath os ⟨d ++ names.map .normal⟩ s.rootPath =
      .ok (pd.join ⟨names.map .normal⟩) :=
    resolvePath_append_normals os s.rootPath d names
      ((resolvePath_rootDir_cons os d s.rootPath).symm.trans hpd) hlinks
  have habs' : resolvePath os ⟨.rootDir :: (d ++ names.map .normal)⟩ s.rootPath =
      .ok (pd.join ⟨names.map .normal⟩) := by
    rw [resolvePath_rootDir_cons, habs]
  refine ⟨by simp [hostPath, hrel], by simp [hostPath, PathBuf.stripRoot, habs, remote,
    Except.mapError], by simp [hostPath, hrel, habs', remote, Except.mapError],
    by simp [hostPath, unlinkatPath, hrel, habs', remote, Except.mapError], fun q hq => ?_⟩
  have hq' : (q.map Component.normal).foldlM (resolveStep os s.rootPath) ⟨[]⟩ =
      .ok ⟨q.map .normal⟩ := by
    simpa [PathBuf.empty] using foldlM_resolveStep_plain os s.rootPath q PathBuf.empty rfl
      fun k hk hk' => by rw [PathBuf.join_empty]; exact hq k hk hk'
  simp [hostPath, xstatHostPath, xstatPath, PathBuf.stripRoot, resolvePath, PathBuf.empty, hq',
    remote, Except.mapError, Except.bind, Except.map]

/-- Below {lit}`/d` of the symlinked target, {lit}`f` is no symlink. -/
theorem relative_hostPath_eq_absolute_below_d :
    (dirState.openFiles 0 = some (.directory (underRoot1 ["d"])) ∧
      resolvePath linkHost ⟨[.rootDir, .normal "d"]⟩ dirState.rootPath = .ok (underRoot1 ["d"]) ∧
      ∀ k, 0 < k → k ≤ 1 →
        linkHost.isSymlink ⟨(underRoot1 ["d"]).components ++ (["f"].take k).map .normal⟩ = false) ∧
    (hostPath linkHost dirState (.openRelative 0 ⟨[.normal "f"]⟩ .readOnly) =
        some (.ok ((underRoot1 ["d"]).join ⟨[.normal "f"]⟩)) ∧
      hostPath linkHost dirState (.open ⟨.rootDir :: [.normal "d"] ++ [.normal "f"]⟩ .readOnly) =
        some (.ok ((underRoot1 ["d"]).join ⟨[.normal "f"]⟩)) ∧
      hostPath linkHost dirState (.makeDirAt 0 ⟨[.normal "f"]⟩ 0) =
        hostPath linkHost dirState (.makeDir ⟨.rootDir :: [.normal "d"] ++ [.normal "f"]⟩ 0) ∧
      hostPath linkHost dirState (.unlinkAt (some 0) ⟨[.normal "f"]⟩ 0) =
        hostPath linkHost dirState (.unlinkAt none ⟨.rootDir :: [.normal "d"] ++ [.normal "f"]⟩ 0) ∧
      ∀ q : List String, (∀ k, 0 < k → k ≤ q.length →
          linkHost.isSymlink ⟨dirState.rootPath.components ++ (q.take k).map .normal⟩ = false) →
        hostPath linkHost dirState (.xstat (some ⟨.rootDir :: q.map .normal⟩) none false) =
          hostPath linkHost dirState (.xstat (some ⟨.rootDir :: q.map .normal⟩) none true)) :=
  have hlinks : ∀ k, 0 < k → k ≤ 1 →
      linkHost.isSymlink ⟨(underRoot1 ["d"]).components ++ (["f"].take k).map .normal⟩ = false := by
    intro k hk hk'
    obtain rfl : k = 1 := by omega
    decide
  have hfd : dirState.openFiles 0 = some (.directory (underRoot1 ["d"])) := rfl
  ⟨⟨hfd, by decide, hlinks⟩,
    relative_hostPath_eq_absolute linkHost dirState [.normal "d"] ["f"] hfd (by decide) hlinks
      .readOnly 0 0⟩

/-! ## Where they differ -/

/-- With {lit}`/d/l` a symlink to {lit}`/etc` and {lit}`/a` a symlink to
{lit}`d` under {lit}`/proc/1/root`: {lit}`OpenRelative(0, l)` opens the link
itself, which the host kernel follows out of the root, while {lit}`Open(/d/l)`
opens {lit}`/proc/1/root/etc`; {lit}`Xstat(/a/f)` stats {lit}`/proc/1/root/a/f`
without following symlinks and {lit}`/proc/1/root/d/f` with; and
{lit}`Xstat(f, 0)` stats {lit}`/proc/1/root/proc/1/root/d/f` instead of
{lit}`/proc/1/root/d/f`. -/
theorem relative_and_absolute_hostPaths_differ :
    resolvePath linkHost ⟨[.rootDir, .normal "d"]⟩ dirState.rootPath = .ok (underRoot1 ["d"]) ∧
      hostPath linkHost dirState (.openRelative 0 ⟨[.normal "l"]⟩ .readOnly) =
        some (.ok (underRoot1 ["d", "l"])) ∧
      hostPath linkHost dirState
          (.open ⟨[.rootDir, .normal "d", .normal "l"]⟩ .readOnly) =
        some (.ok (underRoot1 ["etc"])) ∧
      hostPath linkHost dirState (.xstat (some ⟨[.rootDir, .normal "a", .normal "f"]⟩) none false) =
        some (.ok (underRoot1 ["a", "f"])) ∧
      hostPath linkHost dirState (.xstat (some ⟨[.rootDir, .normal "a", .normal "f"]⟩) none true) =
        some (.ok (underRoot1 ["d", "f"])) ∧
      hostPath linkHost dirState (.xstat (some ⟨[.normal "f"]⟩) (some 0) true) =
        some (.ok (underRoot1 ["proc", "1", "root", "d", "f"])) ∧
      hostPath linkHost dirState (.xstat (some ⟨[.rootDir, .normal "d", .normal "f"]⟩) none true) =
        some (.ok (underRoot1 ["d", "f"])) := by
  decide

/-! ## Requests that skip resolve_path -/

/-- A walk that starts by climbing above the root fails as an LFI attempt. -/
theorem resolvePath_parentDir_cons (cs : List Component) (root : PathBuf) :
    resolvePath os ⟨.parentDir :: cs⟩ root = .error lfiAttempt := by
  simp [resolvePath, List.foldlM_cons, resolveStep, PathBuf.pop, PathBuf.parent, PathBuf.empty,
    bind, Except.bind, Except.map]

/-- A request path that climbs above the target root, {lit}`/..` followed by
anything: {lit}`Open` and an {lit}`Xstat` that follows symlinks refuse it as an
LFI attempt, while {lit}`ReadLink` and an {lit}`Xstat` that does not follow
symlinks join it onto the root as it is and hand the host the root followed by
that {lit}`..`. -/
theorem open_refuses_parentDir_readLink_and_lstat_pass_it (reclen : DirEntryInternal → Nat)
    (s : FileManager) (hroot : s.rootPath.components ≠ []) (rest : List Component)
    (o : OpenOptionsInternal) :
    s.handleMessage os reclen (.open ⟨.rootDir :: .parentDir :: rest⟩ o) =
        (.ok (some (.open (.error (.remoteIo lfiAttempt)))), s) ∧
      s.xstat os (some ⟨.rootDir :: .parentDir :: rest⟩) none true = .error (.remoteIo lfiAttempt) ∧
      s.xstat os (some ⟨.rootDir :: .parentDir :: rest⟩) none false =
        remote (os.symlinkMetadata ⟨s.rootPath.components ++ .parentDir :: rest⟩) ∧
      s.readLink os ⟨.rootDir :: .parentDir :: rest⟩ =
        remote (os.readLink ⟨s.rootPath.components ++ .parentDir :: rest⟩) := by
  have hjoin : s.rootPath.join ⟨.parentDir :: rest⟩ = ⟨s.rootPath.components ++ .parentDir :: rest⟩ :=
    PathBuf.join_relative rfl hroot
  have hwalk := resolvePath_parentDir_cons os rest s.rootPath
  refine ⟨?_, ?_, ?_, ?_⟩ <;>
    simp [handleMessage, FileManager.open, xstat, xstatHostPath, xstatPath, readLink,
      PathBuf.stripRoot, hwalk, hjoin, remote, Except.mapError, Except.bind]

end FileManager
end File
end Mirrord
