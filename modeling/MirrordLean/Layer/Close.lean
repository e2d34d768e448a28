import Mathlib.Data.List.Nodup

/-!
# mirrord layer - A close racing an open

The layer keeps the local descriptors it manages in {lit}`OPEN_FILES`.
{lit}`close_detour` releases the descriptor in the kernel first and then
removes it from {lit}`OPEN_FILES` through {lit}`close_layer_fd`;
{lit}`uv_fs_close_detour` does the two the other way round.  An
{lit}`open_detour` on a remote absolute path calls {lit}`file::ops::open`,
which, per the spec, gets a local descriptor from a placeholder open, which
the kernel serves with the lowest free descriptor, and then files the remote
file under it.  This module runs one
close and one open as interleaved atomic steps over the kernel's descriptors
and {lit}`OPEN_FILES`, under every interleaving.

Main results:

- Theorem {lit}`close_keeps_open_entry_unless_reused`: with
  {lit}`close_detour`, the opener's entry survives unless its descriptor is
  the one being closed and was filed between the close's two steps, when it
  has no entry; with {lit}`uv_fs_close_detour`, it always survives.
- Theorem {lit}`close_detour_removes_reused_entry`: the interleaving in which
  the placeholder open reuses the closed descriptor inside that window, after
  which the opener's descriptor has no entry.

Current gaps:

- The open's request to the agent is one step whose answer the environment
  gives; the placeholder open is taken to succeed.
- A socket's {lit}`close` notifying the agent is not modelled.
-/

namespace Mirrord
namespace Layer

/-- The process state the detours share: the kernel's open local
descriptors, {lit}`OPEN_FILES` from a local descriptor to the remote one, the
keys of {lit}`SOCKETS`, and whether the file feature is active. -/
structure LayerState where
  kernelFds : List Nat
  openFiles : Nat → Option Nat
  sockets : Nat → Bool
  fsActive : Bool

/-- The lowest descriptor the kernel does not hold, which an {lit}`open`
returns. -/
def lowestFree (fds : List Nat) : Nat :=
  ((List.range (fds.length + 1)).find? (· ∉ fds)).getD 0

/-- Some descriptor up to the number of open ones is free, so the lowest free
one is not open. -/
theorem lowestFree_not_mem (fds : List Nat) : lowestFree fds ∉ fds := by
  have hsome : ((List.range (fds.length + 1)).find? (· ∉ fds)).isSome := by
    rw [List.find?_isSome]
    by_contra h
    have hsub : List.range (fds.length + 1) ⊆ fds := fun x hx => by
      by_contra hx'
      exact h ⟨x, hx, by simpa using hx'⟩
    have := (List.subperm_of_subset (List.nodup_range _) hsub).length_le
    simp only [List.length_range] at this
    omega
  obtain ⟨x, hx⟩ := Option.isSome_iff_exists.1 hsome
  simp only [lowestFree, hx, Option.getD_some]
  simpa using List.find?_some hx

/-- The kernel's {lit}`close`: the descriptor is released, or -1 when it was
not open. -/
def kernelClose (l : LayerState) (fd : Nat) : LayerState × Int :=
  if fd ∈ l.kernelFds then ({ l with kernelFds := l.kernelFds.erase fd }, 0) else (l, -1)

/-- {lit}`close_layer_fd`: a socket leaves {lit}`SOCKETS`; otherwise, with the
file feature active, the descriptor leaves {lit}`OPEN_FILES`. -/
def closeLayerFd (l : LayerState) (fd : Nat) : LayerState :=
  if l.sockets fd then { l with sockets := fun k => k != fd && l.sockets k }
  else if l.fsActive then { l with openFiles := fun k => if k = fd then none else l.openFiles k }
  else l

@[simp] theorem kernelClose_openFiles (l : LayerState) (fd : Nat) :
    (kernelClose l fd).1.openFiles = l.openFiles := by
  unfold kernelClose; split <;> rfl

@[simp] theorem kernelClose_sockets (l : LayerState) (fd : Nat) :
    (kernelClose l fd).1.sockets = l.sockets := by
  unfold kernelClose; split <;> rfl

@[simp] theorem kernelClose_fsActive (l : LayerState) (fd : Nat) :
    (kernelClose l fd).1.fsActive = l.fsActive := by
  unfold kernelClose; split <;> rfl

@[simp] theorem closeLayerFd_kernelFds (l : LayerState) (fd : Nat) :
    (closeLayerFd l fd).kernelFds = l.kernelFds := by
  unfold closeLayerFd; split <;> [rfl; split <;> rfl]

@[simp] theorem closeLayerFd_fsActive (l : LayerState) (fd : Nat) :
    (closeLayerFd l fd).fsActive = l.fsActive := by
  unfold closeLayerFd; split <;> [rfl; split <;> rfl]

/-- {lit}`close_layer_fd` touches no other descriptor's entry. -/
theorem closeLayerFd_openFiles_ne (l : LayerState) {fd k : Nat} (h : k ≠ fd) :
    (closeLayerFd l fd).openFiles k = l.openFiles k := by
  unfold closeLayerFd; split <;> [rfl; split <;> simp [h]]

/-- {lit}`close_layer_fd` on a managed file's descriptor removes its entry. -/
theorem closeLayerFd_openFiles_self {l : LayerState} {fd : Nat} (hs : l.sockets fd = false)
    (hf : l.fsActive = true) : (closeLayerFd l fd).openFiles fd = none := by
  simp [closeLayerFd, hs, hf]

theorem closeLayerFd_sockets_of_false {l : LayerState} {fd : Nat} (hs : l.sockets fd = false) :
    (closeLayerFd l fd).sockets fd = false := by
  unfold closeLayerFd
  simp only [hs, Bool.false_eq_true, if_false]
  split <;> exact hs

/-! ## The detours as atomic steps -/

/-- Where {lit}`close_detour` is: before {lit}`FN_CLOSE`, between it and
{lit}`close_layer_fd`, or returned with the close's result. -/
inductive CloseDetourPc
  | start
  | closed (res : Int)
  | returned (res : Int)
deriving DecidableEq, Repr

/-- {lit}`close_detour`: {lit}`FN_CLOSE`, then {lit}`close_layer_fd`. -/
def closeDetourStep (fd : Nat) (l : LayerState) : CloseDetourPc → LayerState × CloseDetourPc
  | .start => ((kernelClose l fd).1, .closed (kernelClose l fd).2)
  | .closed res => (closeLayerFd l fd, .returned res)
  | .returned res => (l, .returned res)

/-- Between {lit}`FN_CLOSE` and {lit}`close_layer_fd`. -/
def CloseDetourPc.inWindow : CloseDetourPc → Bool
  | .closed _ => true
  | _ => false

/-- Returned. -/
def CloseDetourPc.isReturned : CloseDetourPc → Bool
  | .returned _ => true
  | _ => false

/-- Where {lit}`uv_fs_close_detour` is: before {lit}`close_layer_fd`, between it
and {lit}`FN_UV_FS_CLOSE`, or returned. -/
inductive UvFsCloseDetourPc
  | start
  | removed
  | returned (res : Int)
deriving DecidableEq, Repr

/-- {lit}`uv_fs_close_detour`: {lit}`close_layer_fd`, then
{lit}`FN_UV_FS_CLOSE`. -/
def uvFsCloseDetourStep (fd : Nat) (l : LayerState) :
    UvFsCloseDetourPc → LayerState × UvFsCloseDetourPc
  | .start => (closeLayerFd l fd, .removed)
  | .removed => ((kernelClose l fd).1, .returned (kernelClose l fd).2)
  | .returned res => (l, .returned res)

/-- Returned. -/
def UvFsCloseDetourPc.isReturned : UvFsCloseDetourPc → Bool
  | .returned _ => true
  | _ => false

/-- Where {lit}`open_detour` on a remote absolute path is: before the request
to the agent, holding the remote descriptor, holding the placeholder's local
descriptor too, or returned. -/
inductive OpenDetourPc
  | start
  | requested (remoteFd : Nat)
  | placed (remoteFd localFd : Nat)
  | returned (result : Int)
deriving DecidableEq, Repr

/-- {lit}`open_detour` on a remote absolute path, which hands the path to
{lit}`file::ops::open`; that function is modelled from the spec: the agent's
answer, then a placeholder open for the local descriptor, then the entry in
{lit}`OPEN_FILES`. -/
def openDetourStep (answer : Option Nat) (l : LayerState) : OpenDetourPc → LayerState × OpenDetourPc
  | .start =>
      match answer with
      | some remoteFd => (l, .requested remoteFd)
      | none => (l, .returned (-1))
  | .requested remoteFd =>
      ({ l with kernelFds := lowestFree l.kernelFds :: l.kernelFds },
        .placed remoteFd (lowestFree l.kernelFds))
  | .placed remoteFd localFd =>
      ({ l with openFiles := fun k => if k = localFd then some remoteFd else l.openFiles k },
        .returned localFd)
  | .returned result => (l, .returned result)

/-- The two threads. -/
inductive Thread
  | closer
  | opener
deriving DecidableEq, Repr

/-- A close and an open running at once, with a ghost: where the closer was
when the opener filed its entry. -/
structure Race (σ : Type) where
  layer : LayerState
  closer : σ
  opener : OpenDetourPc
  closerAtInsert : Option σ

namespace Race

variable {σ : Type} (closerStep : LayerState → σ → LayerState × σ) (answer : Option Nat)

/-- The race before either thread moves. -/
def init (l : LayerState) (start : σ) : Race σ := ⟨l, start, .start, none⟩

/-- One atomic step of one thread. -/
def step (s : Race σ) : Thread → Race σ
  | .closer =>
      { s with layer := (closerStep s.layer s.closer).1, closer := (closerStep s.layer s.closer).2 }
  | .opener =>
      { s with
        layer := (openDetourStep answer s.layer s.opener).1
        opener := (openDetourStep answer s.layer s.opener).2
        closerAtInsert :=
          match s.opener with
          | .placed _ _ => some s.closer
          | _ => s.closerAtInsert }

/-- An interleaving: which thread steps, in order. -/
def run (s : Race σ) (schedule : List Thread) : Race σ :=
  schedule.foldl (step closerStep answer) s

theorem run_cons (s : Race σ) (t : Thread) (schedule : List Thread) :
    run closerStep answer s (t :: schedule) = run closerStep answer (step closerStep answer s t) schedule :=
  rfl

end Race

/-! ## close_detour against an open -/

section CloseDetour

variable (fd r : Nat)

/-- Where the opener may be, given the closer: its remote descriptor is the
agent's answer; a placeholder that is the closed descriptor came after
{lit}`FN_CLOSE`; and a filed entry is in {lit}`OPEN_FILES` unless it is the
closed descriptor's, was filed inside the window, and {lit}`close_layer_fd`
has run since. -/
def OpenerOk (s : Race CloseDetourPc) : Prop :=
  match s.opener with
  | .start => True
  | .requested remoteFd => remoteFd = r
  | .placed remoteFd localFd => remoteFd = r ∧ (localFd = fd → s.closer ≠ .start)
  | .returned result => ∃ localFd : Nat, result = localFd ∧ ∃ c, s.closerAtInsert = some c ∧
      (localFd = fd → c ≠ .start) ∧ (c.isReturned = true → s.closer.isReturned = true) ∧
      s.layer.openFiles localFd =
        if localFd = fd ∧ c.inWindow = true ∧ s.closer.isReturned = true then none else some r

/-- What every interleaving of {lit}`close_detour` on a managed file's
descriptor with a remote open keeps. -/
structure CloseInv (s : Race CloseDetourPc) : Prop where
  socket : s.layer.sockets fd = false
  fsActive : s.layer.fsActive = true
  open_before : s.closer = .start → fd ∈ s.layer.kernelFds
  opener_ok : OpenerOk fd r s

variable {fd r}

theorem CloseInv.init {l : LayerState} (hfd : fd ∈ l.kernelFds) (hsock : l.sockets fd = false)
    (hfs : l.fsActive = true) : CloseInv fd r (Race.init l .start) :=
  ⟨hsock, hfs, fun _ => hfd, trivial⟩

/-- A step of the closer keeps the invariant. -/
theorem CloseInv.closer_step {s : Race CloseDetourPc} (h : CloseInv fd r s) :
    CloseInv fd r (s.step (closeDetourStep fd) (some r) .closer) := by
  obtain ⟨hsock, hfs, hopen, hok⟩ := h
  simp only [Race.step]
  cases hc : s.closer with
  | start =>
    refine ⟨by simpa [closeDetourStep] using hsock, by simpa [closeDetourStep] using hfs, nofun, ?_⟩
    unfold OpenerOk at hok ⊢
    split at hok <;> simp only [closeDetourStep, kernelClose_openFiles] at hok ⊢ <;> rename_i ho <;>
      simp only [ho] at hok ⊢
    · exact hok
    · exact ⟨hok.1, nofun⟩
    · obtain ⟨localFd, hres, c, hghost, hne, hret, hfiles⟩ := hok
      refine ⟨localFd, hres, c, hghost, hne, fun hcr => ?_, ?_⟩
      · exact absurd (hret hcr) (by simp [hc, CloseDetourPc.isReturned])
      · simpa [hc, CloseDetourPc.isReturned] using hfiles
  | closed res =>
    refine ⟨closeLayerFd_sockets_of_false hsock, by simpa [closeDetourStep] using hfs, nofun, ?_⟩
    unfold OpenerOk at hok ⊢
    split at hok <;> simp only [closeDetourStep] at hok ⊢ <;> rename_i ho <;>
      simp only [ho] at hok ⊢
    · exact hok
    · exact ⟨hok.1, nofun⟩
    · obtain ⟨localFd, hres, c, hghost, hne, hret, hfiles⟩ := hok
      refine ⟨localFd, hres, c, hghost, hne, fun _ => rfl, ?_⟩
      by_cases hl : localFd = fd
      · subst hl
        have hw : c.inWindow = true := by
          cases c with
          | start => exact absurd rfl (hne rfl)
          | closed => rfl
          | returned => simp [hc, CloseDetourPc.isReturned] at hret
        simp [closeLayerFd_openFiles_self hsock hfs, hw, CloseDetourPc.isReturned]
      · simpa [closeLayerFd_openFiles_ne _ hl, hl, hc, CloseDetourPc.isReturned] using hfiles
  | returned res =>
    have : ({ s with layer := s.layer, closer := .returned res } : Race CloseDetourPc) = s := by
      rw [← hc]
    simp only [closeDetourStep, this]
    exact ⟨hsock, hfs, hopen, hok⟩

/-- A step of the opener keeps the invariant. -/
theorem CloseInv.opener_step {s : Race CloseDetourPc} (h : CloseInv fd r s) :
    CloseInv fd r (s.step (closeDetourStep fd) (some r) .opener) := by
  obtain ⟨hsock, hfs, hopen, hok⟩ := h
  unfold OpenerOk at hok
  simp only [Race.step]
  split at hok <;> rename_i ho <;> simp only [ho, openDetourStep]
  · exact ⟨hsock, hfs, hopen, rfl⟩
  · subst hok
    refine ⟨hsock, hfs, fun hc => List.mem_cons_of_mem _ (hopen hc), rfl, fun hl hc => ?_⟩
    exact lowestFree_not_mem s.layer.kernelFds (hl ▸ hopen hc)
  · obtain ⟨rfl, hne⟩ := hok
    refine ⟨hsock, hfs, hopen, _, rfl, s.closer, rfl, hne, id, ?_⟩
    cases hc : s.closer <;> simp [CloseDetourPc.inWindow, CloseDetourPc.isReturned]
  · exact ⟨hsock, hfs, hopen, hok⟩

theorem CloseInv.run {s : Race CloseDetourPc} (h : CloseInv fd r s) (schedule : List Thread) :
    CloseInv fd r (s.run (closeDetourStep fd) (some r) schedule) := by
  induction schedule generalizing s with
  | nil => exact h
  | cons t schedule ih =>
    cases t
    · exact ih h.closer_step
    · exact ih h.opener_step

/-- Once both threads have returned, the opener's descriptor maps to its
remote descriptor, unless it is the closed descriptor and was filed while the
closer was inside its window: then it has no entry. -/
theorem CloseInv.openFiles_of_returned {s : Race CloseDetourPc} (h : CloseInv fd r s)
    {resA : Int} {fdB : Nat} (hA : s.closer = .returned resA) (hB : s.opener = .returned fdB) :
    s.layer.openFiles fdB =
      if fdB = fd ∧ s.closerAtInsert.any CloseDetourPc.inWindow then none else some r := by
  have hok := h.opener_ok
  unfold OpenerOk at hok
  rw [hB] at hok
  obtain ⟨localFd, hres, c, hghost, -, -, hfiles⟩ := hok
  obtain rfl : fdB = localFd := by exact_mod_cast hres
  rw [hfiles, hghost, hA]
  cases c <;> simp [CloseDetourPc.inWindow, CloseDetourPc.isReturned]

end CloseDetour

/-! ## uv_fs_close_detour against an open -/

section UvFsCloseDetour

variable (fd r : Nat)

/-- Where the opener may be, given a closer that removes the entry first: a
placeholder that is the closed descriptor came after the whole close, and a
filed entry stays. -/
def UvOpenerOk (s : Race UvFsCloseDetourPc) : Prop :=
  match s.opener with
  | .start => True
  | .requested remoteFd => remoteFd = r
  | .placed remoteFd localFd => remoteFd = r ∧ (localFd = fd → s.closer.isReturned = true)
  | .returned result => ∃ localFd : Nat, result = localFd ∧
      (localFd = fd → s.closer.isReturned = true) ∧ s.layer.openFiles localFd = some r

/-- What every interleaving of {lit}`uv_fs_close_detour` with a remote open
keeps. -/
structure UvInv (s : Race UvFsCloseDetourPc) : Prop where
  open_before : s.closer.isReturned = false → fd ∈ s.layer.kernelFds
  opener_ok : UvOpenerOk fd r s

variable {fd r}

theorem UvInv.init {l : LayerState} (hfd : fd ∈ l.kernelFds) : UvInv fd r (Race.init l .start) :=
  ⟨fun _ => hfd, trivial⟩

/-- A step of the closer keeps the invariant. -/
theorem UvInv.closer_step {s : Race UvFsCloseDetourPc} (h : UvInv fd r s) :
    UvInv fd r (s.step (uvFsCloseDetourStep fd) (some r) .closer) := by
  obtain ⟨hopen, hok⟩ := h
  simp only [Race.step]
  cases hc : s.closer with
  | start =>
    refine ⟨fun _ => by simpa [uvFsCloseDetourStep] using hopen (by simp [hc,
      UvFsCloseDetourPc.isReturned]), ?_⟩
    have hfree : ∀ localFd, (localFd = fd → s.closer.isReturned = true) → localFd ≠ fd :=
      fun _ h hl => by simpa [hc, UvFsCloseDetourPc.isReturned] using h hl
    unfold UvOpenerOk at hok ⊢
    split at hok <;> simp only [uvFsCloseDetourStep] at hok ⊢ <;> rename_i ho <;>
      simp only [ho] at hok ⊢
    · exact hok
    · exact ⟨hok.1, fun hl => absurd hl (hfree _ hok.2)⟩
    · obtain ⟨localFd, hres, hne, hfiles⟩ := hok
      exact ⟨localFd, hres, fun hl => absurd hl (hfree _ hne),
        (closeLayerFd_openFiles_ne _ (hfree _ hne)).trans hfiles⟩
  | removed =>
    refine ⟨nofun, ?_⟩
    unfold UvOpenerOk at hok ⊢
    split at hok <;> simp only [uvFsCloseDetourStep, kernelClose_openFiles] at hok ⊢ <;>
      rename_i ho <;> simp only [ho] at hok ⊢
    · exact hok
    · exact ⟨hok.1, fun _ => rfl⟩
    · obtain ⟨localFd, hres, -, hfiles⟩ := hok
      exact ⟨localFd, hres, fun _ => rfl, hfiles⟩
  | returned res =>
    have : ({ s with layer := s.layer, closer := .returned res } : Race UvFsCloseDetourPc) = s := by
      rw [← hc]
    simp only [uvFsCloseDetourStep, this]
    exact ⟨hopen, hok⟩

/-- A step of the opener keeps the invariant. -/
theorem UvInv.opener_step {s : Race UvFsCloseDetourPc} (h : UvInv fd r s) :
    UvInv fd r (s.step (uvFsCloseDetourStep fd) (some r) .opener) := by
  obtain ⟨hopen, hok⟩ := h
  unfold UvOpenerOk at hok
  simp only [Race.step]
  split at hok <;> rename_i ho <;> simp only [ho, openDetourStep]
  · exact ⟨hopen, rfl⟩
  · subst hok
    refine ⟨fun hc => List.mem_cons_of_mem _ (hopen hc), rfl, fun hl => ?_⟩
    by_contra hc
    exact lowestFree_not_mem s.layer.kernelFds (hl ▸ hopen (by simpa using hc))
  · obtain ⟨rfl, hne⟩ := hok
    exact ⟨hopen, _, rfl, hne, by simp⟩
  · exact ⟨hopen, hok⟩

theorem UvInv.run {s : Race UvFsCloseDetourPc} (h : UvInv fd r s) (schedule : List Thread) :
    UvInv fd r (s.run (uvFsCloseDetourStep fd) (some r) schedule) := by
  induction schedule generalizing s with
  | nil => exact h
  | cons t schedule ih =>
    cases t
    · exact ih h.closer_step
    · exact ih h.opener_step

end UvFsCloseDetour

/-! ## After both return -/

/-- A close of a managed file's descriptor and a successful remote open, run
at once.  With {lit}`close_detour`, once both have returned, the opener's
descriptor maps to its remote file unless it is the closed descriptor and the
opener filed it between {lit}`FN_CLOSE` and {lit}`close_layer_fd`, in which
case the entry is gone.  With {lit}`uv_fs_close_detour`, which removes the
entry before releasing the descriptor, the opener's entry is there under
every interleaving. -/
theorem close_keeps_open_entry_unless_reused (l : LayerState) (fd r : Nat)
    (hfd : fd ∈ l.kernelFds) (hsock : l.sockets fd = false) (hfs : l.fsActive = true) :
    (∀ (schedule : List Thread) (resA : Int) (fdB : Nat),
      ((Race.init l .start).run (closeDetourStep fd) (some r) schedule).closer = .returned resA →
      ((Race.init l .start).run (closeDetourStep fd) (some r) schedule).opener = .returned fdB →
      ((Race.init l .start).run (closeDetourStep fd) (some r) schedule).layer.openFiles fdB =
        if fdB = fd ∧ ((Race.init l .start).run (closeDetourStep fd) (some r)
          schedule).closerAtInsert.any CloseDetourPc.inWindow then none else some r) ∧
    ∀ (schedule : List Thread) (resA : Int) (fdB : Nat),
      ((Race.init l .start).run (uvFsCloseDetourStep fd) (some r) schedule).closer = .returned resA →
      ((Race.init l .start).run (uvFsCloseDetourStep fd) (some r) schedule).opener = .returned fdB →
      ((Race.init l .start).run (uvFsCloseDetourStep fd) (some r) schedule).layer.openFiles fdB =
        some r := by
  refine ⟨fun schedule resA fdB hA hB =>
    ((CloseInv.init hfd hsock hfs).run schedule).openFiles_of_returned hA hB,
    fun schedule resA fdB hA hB => ?_⟩
  · have h₀ : UvInv fd r (Race.init l .start) := UvInv.init hfd
    have hok := (h₀.run schedule).opener_ok
    unfold UvOpenerOk at hok
    rw [hB] at hok
    obtain ⟨localFd, hres, -, hfiles⟩ := hok
    obtain rfl : fdB = localFd := by exact_mod_cast hres
    exact hfiles

/-- A process whose descriptors 0 to 2 are the standard streams and 3 a
managed file of remote descriptor 7. -/
def managedThree : LayerState :=
  ⟨[0, 1, 2, 3], fun k => if k = 3 then some 7 else none, fun _ => false, true⟩

theorem close_keeps_open_entry_unless_reused_three :
    3 ∈ managedThree.kernelFds ∧ managedThree.sockets 3 = false ∧ managedThree.fsActive = true ∧
    (∀ (schedule : List Thread) (resA : Int) (fdB : Nat),
      ((Race.init managedThree .start).run (closeDetourStep 3) (some 9) schedule).closer =
          .returned resA →
      ((Race.init managedThree .start).run (closeDetourStep 3) (some 9) schedule).opener =
          .returned fdB →
      ((Race.init managedThree .start).run (closeDetourStep 3) (some 9) schedule).layer.openFiles
          fdB =
        if fdB = 3 ∧ ((Race.init managedThree .start).run (closeDetourStep 3) (some 9)
          schedule).closerAtInsert.any CloseDetourPc.inWindow then none else some 9) ∧
    ∀ (schedule : List Thread) (resA : Int) (fdB : Nat),
      ((Race.init managedThree .start).run (uvFsCloseDetourStep 3) (some 9) schedule).closer =
          .returned resA →
      ((Race.init managedThree .start).run (uvFsCloseDetourStep 3) (some 9) schedule).opener =
          .returned fdB →
      ((Race.init managedThree .start).run (uvFsCloseDetourStep 3) (some 9) schedule).layer.openFiles
        fdB = some 9 :=
  ⟨by decide, rfl, rfl, close_keeps_open_entry_unless_reused managedThree 3 9 (by decide) rfl rfl⟩

/-- {lit}`close_detour` of descriptor 3 racing an open whose agent answers
with remote descriptor 9: the close releases 3, the open's placeholder gets 3
back and files it, and {lit}`close_layer_fd` then removes the open's entry.
Both return, the open with descriptor 3, which no longer maps to its remote
file. -/
theorem close_detour_removes_reused_entry :
    ((Race.init managedThree .start).run (closeDetourStep 3) (some 9)
        [.closer, .opener, .opener, .opener, .closer]).closer = .returned 0 ∧
      ((Race.init managedThree .start).run (closeDetourStep 3) (some 9)
        [.closer, .opener, .opener, .opener, .closer]).opener = .returned 3 ∧
      ((Race.init managedThree .start).run (closeDetourStep 3) (some 9)
        [.closer, .opener, .opener, .opener, .closer]).layer.openFiles 3 = none := by
  decide

end Layer
end Mirrord
