import Mathlib

/-!
# mirrord agent - Unix paths

The agent's file manager builds every host path with {lit}`std::path`.  This
module models a path by the components {lit}`Path::components` yields on Unix:
an optional root, then current-directory, parent-directory and normal
components.  Rust compares paths component by component, so structural
equality of {lean}`PathBuf` is the equality {lit}`PathBuf` implements.

Main results:

- Theorem {lit}`PathBuf.join_assoc`: joining relative paths associates, so a
  path built in two joins equals the one built from their concatenation.
- Theorem {lit}`PathBuf.join_relative`: joining a relative path onto a
  nonempty one appends its components.
- Theorem {lit}`PathBuf.stripRoot_eq_some_iff`: {lit}`strip_prefix("/")`
  succeeds exactly on absolute paths and keeps the rest.

Current gaps:

- Normal components are opaque names; the parser that produces them from a
  string is not modelled, only its output.
-/

namespace Mirrord
namespace File

/-- One component of a parsed Unix path: {lit}`std::path::Component` without
the Windows-only prefix. -/
inductive Component
  | rootDir
  | curDir
  | parentDir
  | normal (name : String)
deriving DecidableEq, Repr

/-- A path, as the list of components {lit}`Path::components` yields.  In
Rust the root only ever starts the list ({lean}`PathBuf.RootFirst`), and a
{lit}`.` survives only as the first component of a relative path. -/
@[ext]
structure PathBuf where
  components : List Component
deriving DecidableEq, Repr

/-- Whether a component is a normal name. -/
def Component.isNormal : Component → Bool
  | .normal _ => true
  | _ => false

namespace PathBuf

/-- {lit}`PathBuf::new()`, the empty relative path. -/
def empty : PathBuf := ⟨[]⟩

/-- {lit}`Path::has_root` (on Unix also {lit}`is_absolute`). -/
def hasRoot (p : PathBuf) : Bool :=
  p.components.head? == some .rootDir

/-- Rust's parser keeps a {lit}`.` only at the start of a path, so a joined
path loses a leading {lit}`.` of its second part. -/
def dropCurDir : List Component → List Component
  | .curDir :: cs => cs
  | cs => cs

/-- {lit}`Path::join` ({lit}`PathBuf::push` on a copy): an absolute argument
replaces the path, otherwise its components follow those of the path. -/
def join (p q : PathBuf) : PathBuf :=
  if q.hasRoot then q
  else if p.components = [] then q
  else ⟨p.components ++ dropCurDir q.components⟩

/-- {lit}`Path::parent`: drop the last component; a bare root and the empty
path have no parent. -/
def parent (p : PathBuf) : Option PathBuf :=
  match p.components.getLast? with
  | none => none
  | some .rootDir => none
  | some _ => some ⟨p.components.dropLast⟩

/-- {lit}`PathBuf::pop`: truncate to the parent, or report that there is none
(the {lit}`false` result of the Rust method). -/
def pop (p : PathBuf) : Option PathBuf :=
  p.parent

/-- {lit}`Path::strip_prefix("/")`: the components after the root, as a
relative path; a relative path has no such prefix. -/
def stripRoot (p : PathBuf) : Option PathBuf :=
  match p.components with
  | .rootDir :: cs => some ⟨cs⟩
  | _ => none

/-- A path is plain when every component is a normal name: no root, no
{lit}`.` and no {lit}`..`. -/
def IsPlain (p : PathBuf) : Prop :=
  ∀ c ∈ p.components, c.isNormal = true

/-- The root, if any, starts the path, as in every path Rust parses. -/
def RootFirst (p : PathBuf) : Prop :=
  Component.rootDir ∉ p.components.tail

instance : DecidablePred RootFirst := fun _ => inferInstanceAs (Decidable (_ ∉ _))

/-! ## Small lemmas -/

@[simp]
theorem hasRoot_mk_rootDir (cs : List Component) :
    hasRoot ⟨.rootDir :: cs⟩ = true := rfl

@[simp]
theorem dropCurDir_normal (name : String) (cs : List Component) :
    dropCurDir (.normal name :: cs) = .normal name :: cs := rfl

@[simp]
theorem dropCurDir_parentDir (cs : List Component) :
    dropCurDir (.parentDir :: cs) = .parentDir :: cs := rfl

@[simp]
theorem dropCurDir_nil : dropCurDir [] = [] := rfl

/-- A plain path is relative. -/
theorem IsPlain.hasRoot_eq_false {p : PathBuf} (h : p.IsPlain) : p.hasRoot = false := by
  rcases p with ⟨_ | ⟨c, cs⟩⟩
  · rfl
  · have hc := h c (List.mem_cons_self _ _)
    cases c <;> simp_all [Component.isNormal, hasRoot]

/-- A plain path has no leading {lit}`.` to drop. -/
theorem IsPlain.dropCurDir_eq {p : PathBuf} (h : p.IsPlain) :
    dropCurDir p.components = p.components := by
  rcases p with ⟨_ | ⟨c, cs⟩⟩
  · rfl
  · have hc := h c (List.mem_cons_self _ _)
    cases c <;> simp_all [Component.isNormal, dropCurDir]

/-- Joining a relative path onto a nonempty one appends its components. -/
theorem join_relative {p q : PathBuf} (hq : q.hasRoot = false) (hp : p.components ≠ []) :
    p.join q = ⟨p.components ++ dropCurDir q.components⟩ := by
  simp [join, hq, hp]

/-- Joining a plain path onto a nonempty one appends its components. -/
theorem join_plain {p q : PathBuf} (hq : q.IsPlain) (hp : p.components ≠ []) :
    p.join q = ⟨p.components ++ q.components⟩ := by
  rw [join_relative hq.hasRoot_eq_false hp, hq.dropCurDir_eq]

/-- Joining a path of normal names appends them. -/
theorem join_normals (p : PathBuf) (names : List String) :
    p.join ⟨names.map .normal⟩ = ⟨p.components ++ names.map .normal⟩ := by
  have hroot : hasRoot ⟨names.map .normal⟩ = false := by
    rcases names with _ | ⟨n, ns⟩ <;> rfl
  have hdrop : dropCurDir (names.map .normal) = names.map .normal := by
    rcases names with _ | ⟨n, ns⟩ <;> rfl
  by_cases hp : p.components = []
  · simp [join, hroot, hp]
  · simp [join, hroot, hp, hdrop]

/-- Joining the empty path leaves a path unchanged. -/
@[simp]
theorem join_empty (p : PathBuf) : p.join empty = p := by
  by_cases hp : p.components = []
  · rcases p with ⟨_ | _⟩ <;> simp_all [join, empty, hasRoot]
  · simp [join, empty, hasRoot, hp, dropCurDir]

/-- A leading {lit}`.` dropped from a nonempty prefix of a concatenation is
dropped from the concatenation. -/
theorem dropCurDir_append {cs : List Component} (h : cs ≠ []) (ds : List Component) :
    dropCurDir (cs ++ ds) = dropCurDir cs ++ ds := by
  rcases cs with _ | ⟨c, cs⟩
  · exact absurd rfl h
  · cases c <;> rfl

/-- The head of a concatenation with a nonempty first part is the head of that part. -/
theorem hasRoot_append {cs : List Component} (h : cs ≠ []) (ds : List Component) :
    hasRoot ⟨cs ++ ds⟩ = hasRoot ⟨cs⟩ := by
  rcases cs with _ | ⟨c, cs⟩
  · exact absurd rfl h
  · rfl

/-- Joining associates when the joined paths are relative: a path built by
two joins is the one built by joining their join. -/
theorem join_assoc (p q r : PathBuf) (hq : q.hasRoot = false) (hr : r.hasRoot = false) :
    (p.join q).join r = p.join (q.join r) := by
  by_cases hp : p.components = []
  · simp [join, hp, hq, hr]
  by_cases hqe : q.components = []
  · obtain ⟨qs⟩ := q
    simp only at hqe
    subst hqe
    rw [show (⟨[]⟩ : PathBuf) = empty from rfl, join_empty]
    simp [join, empty, hr]
  · have hqr : q.join r = ⟨q.components ++ dropCurDir r.components⟩ := join_relative hr hqe
    have hpq : p.join q = ⟨p.components ++ dropCurDir q.components⟩ := join_relative hq hp
    have hqr_root : (q.join r).hasRoot = false := by
      rw [hqr, hasRoot_append hqe]; exact hq
    rw [hpq, join_relative hr (by simp [hp]), join_relative hqr_root hp, hqr,
      dropCurDir_append hqe, List.append_assoc]

/-- A path without a root component is relative. -/
theorem hasRoot_eq_false_of_rootFree {p : PathBuf} (h : Component.rootDir ∉ p.components) :
    p.hasRoot = false := by
  rcases p with ⟨_ | ⟨c, cs⟩⟩
  · rfl
  · simp only [List.mem_cons, not_or] at h
    simp [hasRoot, Ne.symm h.1]

/-- A relative path whose root could only come first has no root at all. -/
theorem RootFirst.rootFree {p : PathBuf} (h : p.RootFirst) (hr : p.hasRoot = false) :
    Component.rootDir ∉ p.components := by
  rcases p with ⟨_ | ⟨c, cs⟩⟩
  · simp
  · have hc : c ≠ .rootDir := by rintro rfl; simp [hasRoot] at hr
    simp only [RootFirst, List.tail_cons] at h
    simp [Ne.symm hc, h]

/-- Dropping a leading {lit}`.` keeps a path free of roots. -/
theorem rootDir_not_mem_dropCurDir {cs : List Component} (h : Component.rootDir ∉ cs) :
    Component.rootDir ∉ dropCurDir cs := by
  rcases cs with _ | ⟨c, cs⟩
  · simp
  · cases c <;> simp_all [dropCurDir]

/-- Joining a path whose root comes first onto a rootless path gives a path
whose root comes first. -/
theorem join_rootFirst {p q : PathBuf} (hp : Component.rootDir ∉ p.components)
    (hq : q.RootFirst) : (p.join q).RootFirst := by
  unfold join
  split
  · exact hq
  split
  · exact hq
  rename_i hqr _
  have := rootDir_not_mem_dropCurDir (hq.rootFree (Bool.eq_false_iff.2 hqr))
  exact fun h => by simp_all [List.mem_append, RootFirst, List.mem_of_mem_tail]

/-- The parent of a rootless path is rootless. -/
theorem pop_rootFree {p q : PathBuf} (hp : Component.rootDir ∉ p.components)
    (h : p.pop = some q) : Component.rootDir ∉ q.components := by
  simp only [pop, parent] at h
  split at h <;> simp only [Option.some.injEq, reduceCtorEq] at h
  subst h
  exact fun hm => hp (List.dropLast_subset _ hm)

/-- {lit}`strip_prefix("/")` succeeds exactly on absolute paths and keeps the
components after the root. -/
theorem stripRoot_eq_some_iff (p q : PathBuf) :
    p.stripRoot = some q ↔ p.components = .rootDir :: q.components := by
  rcases p with ⟨_ | ⟨c, cs⟩⟩
  · simp [stripRoot]
  · cases c <;> simp [stripRoot, PathBuf.ext_iff, eq_comm]

/-- What {lit}`strip_prefix("/")` leaves of a path whose root comes first has
no root. -/
theorem RootFirst.stripRoot_rootFree {p q : PathBuf} (h : p.RootFirst) (hs : p.stripRoot = some q) :
    Component.rootDir ∉ q.components := by
  rw [stripRoot_eq_some_iff] at hs
  simpa [RootFirst, hs] using h

end PathBuf

/-- {lit}`get_root_path_from_optional_pid`: the target's root,
{lit}`/proc/<pid>/root`, or the host's {lit}`/` when there is no target. -/
def getRootPathFromOptionalPid : Option Nat → PathBuf
  | some pid =>
      ((⟨[.rootDir, .normal "proc"]⟩ : PathBuf).join ⟨[.normal (toString pid)]⟩).join
        ⟨[.normal "root"]⟩
  | none => ⟨[.rootDir]⟩

/-- The target root always has components, so joining onto it appends. -/
theorem getRootPathFromOptionalPid_ne_nil (pid : Option Nat) :
    (getRootPathFromOptionalPid pid).components ≠ [] := by
  cases pid <;> simp [getRootPathFromOptionalPid, PathBuf.join, PathBuf.hasRoot]

end File
end Mirrord
