import MirrordLean.Agent.File.Protocol

/-!
# mirrord agent - Resolving a target path under the target root

{lit}`resolve_path` turns a path of the target's filesystem into a host path
under the target root {lit}`/proc/<pid>/root`.  It walks the components one by
one, keeping a relative path {lit}`temp_path`: {lit}`..` pops it and fails
("LFI attempt?") when there is nothing to pop, and a normal component is looked
up on the host under the root, where a symlink is replaced by its target.

Main results:

- Theorem {lit}`resolvePath_append`: resolving a concatenation resolves the
  first part and continues the walk with the second.
- Theorem {lit}`foldlM_resolveStep_plain`: a walk over normal names that meets
  no symlink appends the names.
- Theorem {lit}`resolvePath_escapes_through_symlink`: a symlink target is spliced
  in without the {lit}`..` check, so a link to {lit}`../../..` resolves to a
  host path whose walk leaves the target root.

Current gaps:

- The walk is modelled for Unix paths; the Windows prefix branch cannot occur.
-/

namespace Mirrord
namespace File

/-- The error of a {lit}`..` with nothing left to pop. -/
def lfiAttempt : IoError := ⟨.invalidInput, "LFI attempt?"⟩

/-- The error of a failed {lit}`strip_prefix("/")` on {lit}`temp_path`. -/
def couldntStripPrefix : IoError := ⟨.invalidInput, "couldn't strip prefix"⟩

/-- The end of a normal-component iteration: an absolute {lit}`temp_path` (a
spliced absolute link target) is made relative again. -/
def stripTempRoot (temp : PathBuf) : Except IoError PathBuf :=
  if temp.hasRoot then
    match temp.stripRoot with
    | some rest => .ok rest
    | none => .error couldntStripPrefix
  else .ok temp

/-- One iteration of the component loop of {lit}`resolve_path`, from
{lit}`temp_path`. -/
def resolveStep (os : Os) (root temp : PathBuf) : Component → Except IoError PathBuf
  | .rootDir => .ok temp
  | .curDir => .ok temp
  | .parentDir =>
      match temp.pop with
      | some parent => .ok parent
      | none => .error lfiAttempt
  | .normal name =>
      let realPath := (root.join temp).join ⟨[.normal name]⟩
      if os.isSymlink realPath then
        (os.readLink realPath).bind fun symDest => stripTempRoot (temp.join symDest)
      else stripTempRoot (temp.join ⟨[.normal name]⟩)

/-- {lit}`resolve_path`: walk the components from the empty path, then join the
result onto the root. -/
def resolvePath (os : Os) (path root : PathBuf) : Except IoError PathBuf :=
  (path.components.foldlM (resolveStep os root) PathBuf.empty).map root.join

/-! ## The walk -/

/-- Resolving a concatenation walks the first part, then the second from where
the first stopped. -/
theorem resolvePath_append (os : Os) (root : PathBuf) (cs ds : List Component) :
    resolvePath os ⟨cs ++ ds⟩ root =
      ((cs.foldlM (resolveStep os root) PathBuf.empty).bind fun temp =>
        ds.foldlM (resolveStep os root) temp).map root.join := by
  simp only [resolvePath, List.foldlM_append]
  rfl

/-- A normal component that is no symlink is appended to a relative
{lit}`temp_path`. -/
theorem resolveStep_normal_of_not_symlink {os : Os} {root temp : PathBuf} {name : String}
    (htemp : temp.hasRoot = false)
    (hlink : os.isSymlink ⟨(root.join temp).components ++ [.normal name]⟩ = false) :
    resolveStep os root temp (.normal name) = .ok ⟨temp.components ++ [.normal name]⟩ := by
  have hjoin := PathBuf.join_normals temp [name]
  have hreal := PathBuf.join_normals (root.join temp) [name]
  have hrel : (⟨temp.components ++ [.normal name]⟩ : PathBuf).hasRoot = false := by
    by_cases h : temp.components = []
    · simp [PathBuf.hasRoot, h]
    · rw [PathBuf.hasRoot_append h]; exact htemp
  simp only [List.map_cons, List.map_nil] at hjoin hreal
  simp [resolveStep, hreal, hlink, hjoin, stripTempRoot, hrel]

/-- Joining onto the root commutes with appending a normal name to a relative
{lit}`temp_path`. -/
theorem join_append_normal (root temp : PathBuf) (htemp : temp.hasRoot = false) (name : String) :
    root.join ⟨temp.components ++ [.normal name]⟩ =
      ⟨(root.join temp).components ++ [.normal name]⟩ := by
  have h1 := PathBuf.join_normals temp [name]
  have h2 := PathBuf.join_normals (root.join temp) [name]
  simp only [List.map_cons, List.map_nil] at h1 h2
  rw [← h1, ← PathBuf.join_assoc root temp ⟨[.normal name]⟩ htemp rfl, h2]

/-- A walk over normal names that meets no symlink appends the names: no
intermediate host path (the root joined with the walk's start, then
{lit}`x₁/…/xₖ`) is a symlink. -/
theorem foldlM_resolveStep_plain (os : Os) (root : PathBuf) (names : List String) :
    ∀ temp : PathBuf, temp.hasRoot = false →
      (∀ k, 0 < k → k ≤ names.length →
        os.isSymlink ⟨(root.join temp).components ++ (names.take k).map .normal⟩ = false) →
      (names.map Component.normal).foldlM (resolveStep os root) temp =
        .ok ⟨temp.components ++ names.map .normal⟩ := by
  induction names with
  | nil => intro temp _ _; simp; rfl
  | cons name names ih =>
    intro temp htemp hlinks
    have hstep := resolveStep_normal_of_not_symlink htemp (by simpa using hlinks 1 (by omega) (by simp))
    have hrel : (⟨temp.components ++ [.normal name]⟩ : PathBuf).hasRoot = false := by
      by_cases h : temp.components = []
      · simp [PathBuf.hasRoot, h]
      · rw [PathBuf.hasRoot_append h]; exact htemp
    have hrest := ih _ hrel fun k hk hkle => by
      simpa [join_append_normal root temp htemp name] using
        hlinks (k + 1) (by omega) (by simp; omega)
    simp only [List.map_cons, List.foldlM_cons, hstep]
    simpa using hrest

/-! ## The walk keeps a relative temp_path -/

/-- The end of an iteration leaves {lit}`temp_path` without a root when the
path it ends with has its root first. -/
theorem stripTempRoot_rootFree {t t' : PathBuf} (ht : t.RootFirst)
    (h : stripTempRoot t = .ok t') : Component.rootDir ∉ t'.components := by
  unfold stripTempRoot at h
  split at h
  · split at h <;> simp only [Except.ok.injEq, reduceCtorEq] at h
    subst h
    exact ht.stripRoot_rootFree ‹_›
  · simp only [Except.ok.injEq] at h
    subst h
    exact ht.rootFree (Bool.eq_false_iff.2 ‹_›)

/-- Every iteration keeps {lit}`temp_path` without a root: a link target is a
parsed path, so splicing it in and stripping a leading root removes every
root. -/
theorem resolveStep_rootFree {os : Os} {root temp t : PathBuf} {c : Component}
    (htemp : Component.rootDir ∉ temp.components) (h : resolveStep os root temp c = .ok t) :
    Component.rootDir ∉ t.components := by
  cases c with
  | rootDir | curDir => simp only [resolveStep, Except.ok.injEq] at h; exact h ▸ htemp
  | parentDir =>
    simp only [resolveStep] at h
    split at h <;> simp only [Except.ok.injEq, reduceCtorEq] at h
    exact h ▸ PathBuf.pop_rootFree htemp ‹_›
  | normal name =>
    simp only [resolveStep] at h
    split at h
    · cases hl : os.readLink ((root.join temp).join ⟨[.normal name]⟩) with
      | error e => simp [hl, Except.bind] at h
      | ok dest =>
        simp only [hl, Except.bind] at h
        exact stripTempRoot_rootFree (PathBuf.join_rootFirst htemp (os.readLink_rootFirst _ _ hl)) h
    · exact stripTempRoot_rootFree (PathBuf.join_rootFirst htemp (by simp [PathBuf.RootFirst])) h

/-- A walk from a {lit}`temp_path` without a root ends without one. -/
theorem foldlM_resolveStep_rootFree (os : Os) (root : PathBuf) (cs : List Component) :
    ∀ temp t, Component.rootDir ∉ temp.components →
      cs.foldlM (resolveStep os root) temp = .ok t → Component.rootDir ∉ t.components := by
  induction cs with
  | nil =>
    intro temp t htemp h
    cases h
    exact htemp
  | cons c cs ih =>
    intro temp t htemp h
    simp only [List.foldlM_cons] at h
    cases hs : resolveStep os root temp c with
    | error e => simp [hs] at h; cases h
    | ok t' =>
      simp only [hs] at h
      exact ih t' t (resolveStep_rootFree htemp hs) h

/-- A resolved path is the root joined with the relative path the walk ended
with. -/
theorem resolvePath_eq_ok {os : Os} {path root p : PathBuf} (h : resolvePath os path root = .ok p) :
    ∃ temp, path.components.foldlM (resolveStep os root) PathBuf.empty = .ok temp ∧
      Component.rootDir ∉ temp.components ∧ p = root.join temp := by
  unfold resolvePath at h
  cases hf : path.components.foldlM (resolveStep os root) PathBuf.empty with
  | error e => simp [hf, Except.map] at h
  | ok temp =>
    simp only [hf, Except.map, Except.ok.injEq] at h
    exact ⟨temp, rfl, foldlM_resolveStep_rootFree os root _ _ _ (by simp [PathBuf.empty]) hf, h.symm⟩

/-- Resolving a path followed by normal names, none of which is a symlink below
the resolved path, joins the names onto the resolved path. -/
theorem resolvePath_append_normals (os : Os) (root : PathBuf) (cs : List Component)
    (names : List String) {pd : PathBuf} (hd : resolvePath os ⟨cs⟩ root = .ok pd)
    (hlinks : ∀ k, 0 < k → k ≤ names.length →
      os.isSymlink ⟨pd.components ++ (names.take k).map .normal⟩ = false) :
    resolvePath os ⟨cs ++ names.map .normal⟩ root = .ok (pd.join ⟨names.map .normal⟩) := by
  obtain ⟨temp, hfold, hfree, rfl⟩ := resolvePath_eq_ok hd
  have hrel := PathBuf.hasRoot_eq_false_of_rootFree hfree
  have hnames : (⟨names.map .normal⟩ : PathBuf).hasRoot = false := by
    rcases names with _ | ⟨n, ns⟩ <;> rfl
  rw [resolvePath_append, hfold]
  simp only [Except.bind, foldlM_resolveStep_plain os root names temp hrel hlinks, Except.map,
    PathBuf.join_assoc root temp _ hrel hnames, PathBuf.join_normals]

/-! ## A link out of the root -/

/-- The host path {lit}`/proc/1/root/l`, a symlink in the failing input below. -/
def escapeLink : PathBuf :=
  ⟨[.rootDir, .normal "proc", .normal "1", .normal "root", .normal "l"]⟩

/-- A host on which {lit}`/proc/1/root/l` is a symlink to {lit}`../../..` and
nothing else exists. -/
def escapeHost : Os where
  isSymlink p := p == escapeLink
  readLink p := if p == escapeLink then .ok ⟨[.parentDir, .parentDir, .parentDir]⟩
    else .error ⟨.other, "not a link"⟩
  openFile _ _ := .error ⟨.other, "absent"⟩
  fileMetadata _ := .error ⟨.other, "absent"⟩
  metadata _ := .error ⟨.other, "absent"⟩
  symlinkMetadata _ := .error ⟨.other, "absent"⟩
  read _ _ := .error ⟨.other, "absent"⟩
  readAt _ _ _ := .error ⟨.other, "absent"⟩
  write _ _ := .error ⟨.other, "absent"⟩
  writeAt _ _ _ := .error ⟨.other, "absent"⟩
  seek _ _ := .error ⟨.other, "absent"⟩
  mkdir _ _ := .error ⟨.other, "absent"⟩
  removeDir _ := .error ⟨.other, "absent"⟩
  unlink _ := .error ⟨.other, "absent"⟩
  unlinkat _ _ _ := .error ⟨.other, "absent"⟩
  access _ _ := .error ⟨.other, "absent"⟩
  fstatfs _ := .error ⟨.other, "absent"⟩
  statfs _ := .error ⟨.other, "absent"⟩
  readDir _ := .error ⟨.other, "absent"⟩
  readLink_rootFirst p q h := by
    dsimp only at h
    split at h <;> simp only [Except.ok.injEq, reduceCtorEq] at h
    subst h; decide

/-- The link target is spliced into {lit}`temp_path` without the check the
walk applies to {lit}`..` components of the request: resolving {lit}`/l` under
{lit}`/proc/1/root` gives {lit}`/proc/1/root/../../..`, which the host kernel
walks to the host's own root. -/
theorem resolvePath_escapes_through_symlink :
    resolvePath escapeHost ⟨[.rootDir, .normal "l"]⟩ (getRootPathFromOptionalPid (some 1)) =
      .ok ⟨[.rootDir, .normal "proc", .normal "1", .normal "root",
        .parentDir, .parentDir, .parentDir]⟩ := by
  decide

end File
end Mirrord
