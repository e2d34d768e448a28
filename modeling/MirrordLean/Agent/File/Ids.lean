import MirrordLean.Agent.File.Manager

/-!
# mirrord agent - Remote ids are never reused

{lit}`fds_iter` is the range {lit}`0..=u64::MAX`: every id the file manager
hands out is the start of the range at that moment, and the start only moves
forward.  {lit}`Open`, {lit}`OpenRelative` and {lit}`FdOpenDir` take an id in
the middle of their work, so a host call that fails after it (the metadata of
the opened file, the listing of the directory) uses up an id without filing
anything under it.

All results follow from one inversion lemma, {lit}`handleMessage_idEffect`:
what a single request can do to {lit}`open_files`, to the ids of
{lit}`dir_streams` and to {lit}`fds_iter`.

Main results:

- Theorem {lit}`IdEffect.wellFormed`: every table key is an id already handed
  out and the two tables share no id, from every state a step starts in.
- Theorem {lit}`yieldedIds_pairwise_lt`: over a whole session the ids
  {lit}`fds_iter` yields strictly increase.
- Theorem {lit}`handleMessage_exhausted`: once {lit}`u64::MAX` has been handed
  out, a request that would take an id reports {lit}`IdsExhausted` instead.
- Theorem {lit}`session_ids_unique`: the above for every session started by
  {lit}`FileManager::new`, with the ids returned to the layer pairwise distinct.
-/

namespace Mirrord
namespace File

/-- The requests that take an id from {lit}`fds_iter`. -/
def FileRequest.TakesId : FileRequest → Prop
  | .open _ _ => True
  | .openRelative _ _ _ => True
  | .fdOpenDir _ => True
  | _ => False

namespace FileManager

/-- The fresh id a handled request returns, if any. -/
def allocated : Except AgentError (Option FileResponse) → Option Nat
  | .ok (some response) => response.allocatedFd
  | _ => none

/-- Whether an id has a directory stream. -/
def hasDirStream (s : FileManager) (fd : Nat) : Bool :=
  (s.dirStreams fd).isSome

/-- What one request can do to the ids of the file manager: keep the id tables,
release the id it closes, or take the next id and file at most one entry under
it, in the table its kind fills. -/
inductive IdEffect (s : FileManager) :
    FileRequest → Except AgentError (Option FileResponse) → FileManager → Prop
  | keep {req r s'} (hr : allocated r = none) (hf : s'.openFiles = s.openFiles)
      (hd : s'.hasDirStream = s.hasDirStream) (hi : s'.fdsIter = s.fdsIter) :
      IdEffect s req r s'
  | close {fd r s'} (hr : allocated r = none) (hf : s'.openFiles = s.openFiles.remove fd)
      (hd : s'.hasDirStream = s.hasDirStream) (hi : s'.fdsIter = s.fdsIter) :
      IdEffect s (.close fd) r s'
  | closeDir {fd r s'} (hr : allocated r = none) (hf : s'.openFiles = s.openFiles)
      (hd : ∀ j, s'.hasDirStream j = (s.hasDirStream j && j != fd)) (hi : s'.fdsIter = s.fdsIter) :
      IdEffect s (.closeDir fd) r s'
  | burn {req r s'} (hreq : req.TakesId) (hr : allocated r = none) (hmax : s.fdsIter ≤ u64Max)
      (hf : s'.openFiles = s.openFiles) (hd : s'.hasDirStream = s.hasDirStream)
      (hi : s'.fdsIter = s.fdsIter + 1) :
      IdEffect s req r s'
  | openFile {req r s' v} (hreq : req.TakesId) (hr : allocated r = some s.fdsIter)
      (hmax : s.fdsIter ≤ u64Max) (hf : s'.openFiles = s.openFiles.insert s.fdsIter v)
      (hd : s'.hasDirStream = s.hasDirStream) (hi : s'.fdsIter = s.fdsIter + 1) :
      IdEffect s req r s'
  | openDir {fd r s'} (hr : allocated r = some s.fdsIter) (hmax : s.fdsIter ≤ u64Max)
      (hf : s'.openFiles = s.openFiles)
      (hd : ∀ j, s'.hasDirStream j = (s.hasDirStream j || j == s.fdsIter))
      (hi : s'.fdsIter = s.fdsIter + 1) :
      IdEffect s (.fdOpenDir fd) r s'

/-! ## Handlers -/

variable (os : Os) (reclen : DirEntryInternal → Nat)

/-- What the shared tail of {lit}`open` and {lit}`open_relative` can do: fail
before taking an id, take one and fail, or take one and file the entry. -/
theorem openAt_cases (s : FileManager) (path : PathBuf) (o : OpenOptionsInternal) (op : String) :
    ((s.openAt os path o op).2 = s ∧ ∀ fd, (s.openAt os path o op).1 ≠ .ok fd) ∨
    (s.fdsIter ≤ u64Max ∧ (s.openAt os path o op).2 = { s with fdsIter := s.fdsIter + 1 } ∧
      ∀ fd, (s.openAt os path o op).1 ≠ .ok fd) ∨
    (s.fdsIter ≤ u64Max ∧ (s.openAt os path o op).1 = .ok s.fdsIter ∧
      ∃ v, (s.openAt os path o op).2 =
        { s with fdsIter := s.fdsIter + 1, openFiles := s.openFiles.insert s.fdsIter v }) := by
  unfold openAt
  cases os.openFile path o with
  | error e => exact .inl ⟨rfl, by simp⟩
  | ok file =>
    dsimp only
    by_cases hmax : s.fdsIter ≤ u64Max
    · rw [nextFd, if_pos hmax]
      dsimp only
      cases os.fileMetadata file with
      | error e => exact .inr (.inl ⟨hmax, rfl, by simp⟩)
      | ok md => exact .inr (.inr ⟨hmax, rfl, _, rfl⟩)
    · rw [nextFd, if_neg hmax]
      exact .inl ⟨rfl, by simp⟩

/-- What {lit}`fdopen_dir` can do: fail before taking an id, take one and fail
to list the directory, or take one and file the stream. -/
theorem fdopenDir_cases (s : FileManager) (fd : Nat) :
    ((s.fdopenDir os fd).2 = s ∧ ∀ fd', (s.fdopenDir os fd).1 ≠ .ok fd') ∨
    (s.fdsIter ≤ u64Max ∧ (s.fdopenDir os fd).2 = { s with fdsIter := s.fdsIter + 1 } ∧
      ∀ fd', (s.fdopenDir os fd).1 ≠ .ok fd') ∨
    (s.fdsIter ≤ u64Max ∧ (s.fdopenDir os fd).1 = .ok s.fdsIter ∧
      ∃ st, (s.fdopenDir os fd).2 =
        { s with fdsIter := s.fdsIter + 1, dirStreams := s.dirStreams.insert s.fdsIter st }) := by
  unfold fdopenDir
  cases s.relativeDir fd with
  | error e => exact .inl ⟨rfl, by simp⟩
  | ok path =>
    dsimp only
    by_cases hmax : s.fdsIter ≤ u64Max
    · rw [nextFd, if_pos hmax]
      dsimp only
      cases os.readDir path with
      | error e => exact .inr (.inl ⟨hmax, rfl, by simp⟩)
      | ok listing => exact .inr (.inr ⟨hmax, rfl, _, rfl⟩)
    · rw [nextFd, if_neg hmax]
      exact .inl ⟨rfl, by simp⟩

/-- Replacing the stream of an id that has one keeps the ids with streams. -/
theorem hasDirStream_insert_of_isSome (s : FileManager) {fd : Nat} (st : DirStream)
    (h : (s.dirStreams fd).isSome) :
    ({ s with dirStreams := s.dirStreams.insert fd st } : FileManager).hasDirStream =
      s.hasDirStream := by
  funext j
  by_cases hj : j = fd
  · subst hj; simp [hasDirStream, h]
  · simp [hasDirStream, hj]

/-- {lit}`read_dir` only advances the stream of an id that has one. -/
theorem readDir_tables (s : FileManager) (fd : Nat) :
    (s.readDir fd).2.openFiles = s.openFiles ∧
      (s.readDir fd).2.hasDirStream = s.hasDirStream ∧ (s.readDir fd).2.fdsIter = s.fdsIter := by
  unfold readDir
  split
  · exact ⟨rfl, rfl, rfl⟩
  · rename_i st hst
    have hsome : (s.dirStreams fd).isSome := by simp [hst]
    dsimp only
    split <;> exact ⟨rfl, hasDirStream_insert_of_isSome s _ hsome, rfl⟩

/-- {lit}`read_dir_batch` only advances the stream of an id that has one. -/
theorem readDirBatch_tables (s : FileManager) (fd amount : Nat) :
    (s.readDirBatch fd amount).2.openFiles = s.openFiles ∧
      (s.readDirBatch fd amount).2.hasDirStream = s.hasDirStream ∧
      (s.readDirBatch fd amount).2.fdsIter = s.fdsIter := by
  unfold readDirBatch
  split
  · exact ⟨rfl, rfl, rfl⟩
  · rename_i st hst
    exact ⟨rfl, hasDirStream_insert_of_isSome s _ (by simp [hst]), rfl⟩

/-- {lit}`getdents64` only touches {lit}`getdents_streams`. -/
theorem getdents64_tables (s : FileManager) (fd bufferSize : Nat) :
    (s.getdents64 os reclen fd bufferSize).2.openFiles = s.openFiles ∧
      (s.getdents64 os reclen fd bufferSize).2.dirStreams = s.dirStreams ∧
      (s.getdents64 os reclen fd bufferSize).2.fdsIter = s.fdsIter := by
  have hget : (s.getOrCreateGetdents64Stream os fd).2.openFiles = s.openFiles ∧
      (s.getOrCreateGetdents64Stream os fd).2.dirStreams = s.dirStreams ∧
      (s.getOrCreateGetdents64Stream os fd).2.fdsIter = s.fdsIter := by
    unfold getOrCreateGetdents64Stream
    repeat' split
    all_goals exact ⟨rfl, rfl, rfl⟩
  unfold getdents64
  split
  · rename_i e t heq
    simpa [heq] using hget
  · rename_i st t heq
    rw [heq] at hget
    repeat' split
    all_goals exact hget

/-- {lit}`close_dir` leaves the open files and the id range alone. -/
theorem closeDir_tables (s : FileManager) (fd : Nat) :
    (s.closeDir fd).openFiles = s.openFiles ∧ (s.closeDir fd).fdsIter = s.fdsIter := by
  unfold closeDir
  split <;> exact ⟨rfl, rfl⟩

/-- What {lit}`close_dir` does to the ids with streams: it drops the id's. -/
theorem closeDir_hasDirStream (s : FileManager) (fd j : Nat) :
    (s.closeDir fd).hasDirStream j = (s.hasDirStream j && j != fd) := by
  unfold closeDir
  split
  · by_cases hj : j = fd
    · subst hj; simp [hasDirStream]
    · simp [hasDirStream, hj]
  · rename_i hnone
    by_cases hj : j = fd
    · subst hj; simp [hasDirStream, hnone]
    · simp [hasDirStream, hj]

/-- The shared open tail has the effect of a request that takes an id. -/
theorem openAt_idEffect (s : FileManager) (p : PathBuf) (o : OpenOptionsInternal) (op : String)
    {req : FileRequest} (hreq : req.TakesId) :
    IdEffect s req (.ok (some (.open (s.openAt os p o op).1))) (s.openAt os p o op).2 := by
  rcases openAt_cases os s p o op with ⟨h2, h1⟩ | ⟨hmax, h2, h1⟩ | ⟨hmax, h1, v, h2⟩
  · refine .keep ?_ (by rw [h2]) (by rw [h2]) (by rw [h2])
    cases h : (s.openAt os p o op).1 <;> simp_all [allocated, FileResponse.allocatedFd]
  · refine .burn hreq ?_ hmax (by rw [h2]) (by rw [h2]; rfl) (by rw [h2])
    cases h : (s.openAt os p o op).1 <;> simp_all [allocated, FileResponse.allocatedFd]
  · exact .openFile hreq (by simp [h1, allocated, FileResponse.allocatedFd]) hmax
      (by rw [h2]) (by rw [h2]; rfl) (by rw [h2])

/-- Everything one request can do to the ids of the file manager. -/
theorem handleMessage_idEffect (s : FileManager) (req : FileRequest) :
    IdEffect s req (s.handleMessage os reclen req).1 (s.handleMessage os reclen req).2 := by
  cases req with
  | «open» path o =>
    simp only [handleMessage]
    split
    · exact .keep rfl rfl rfl rfl
    · simp only [FileManager.open]
      split
      · exact .keep rfl rfl rfl rfl
      · exact openAt_idEffect os s _ o _ trivial
  | openRelative fd path o =>
    simp only [handleMessage, openRelative]
    split
    · exact .keep rfl rfl rfl rfl
    · exact openAt_idEffect os s _ o _ trivial
  | fdOpenDir fd =>
    simp only [handleMessage]
    rcases fdopenDir_cases os s fd with ⟨h2, h1⟩ | ⟨hmax, h2, h1⟩ | ⟨hmax, h1, st, h2⟩
    · refine .keep ?_ (by rw [h2]) (by rw [h2]) (by rw [h2])
      cases h : (s.fdopenDir os fd).1 <;> simp_all [allocated, FileResponse.allocatedFd]
    · refine .burn trivial ?_ hmax (by rw [h2]) (by rw [h2]; rfl) (by rw [h2])
      cases h : (s.fdopenDir os fd).1 <;> simp_all [allocated, FileResponse.allocatedFd]
    · refine .openDir (by simp [h1, allocated, FileResponse.allocatedFd]) hmax (by rw [h2]) ?_
        (by rw [h2])
      intro j
      rw [h2]
      by_cases hj : j = s.fdsIter
      · subst hj; simp [hasDirStream]
      · simp [hasDirStream, hj]
  | close fd => exact .close rfl rfl rfl rfl
  | closeDir fd =>
    exact .closeDir rfl (closeDir_tables s fd).1 (closeDir_hasDirStream s fd) (closeDir_tables s fd).2
  | readDir fd =>
    obtain ⟨hf, hd, hi⟩ := readDir_tables s fd
    exact .keep rfl hf hd hi
  | readDirBatch fd amount =>
    obtain ⟨hf, hd, hi⟩ := readDirBatch_tables s fd amount
    exact .keep rfl hf hd hi
  | getDEnts64 fd bufferSize =>
    obtain ⟨hf, hd, hi⟩ := getdents64_tables os reclen s fd bufferSize
    simp only [handleMessage]
    exact .keep rfl hf (by funext j; simp [hasDirStream, hd]) hi
  | access path mode =>
    simp only [handleMessage]
    split <;> exact .keep rfl rfl rfl rfl
  | read | readLimited | readLink | seek | write | writeLimited | xstat | xstatFs | makeDir
  | makeDirAt | removeDir | unlink | unlinkAt => exact .keep rfl rfl rfl rfl

/-! ## The id invariant -/

/-- The ids of the file manager are well formed: {lit}`fds_iter` has not run
past its end, every table key is an id it has already handed out (an id below
its start), and no id is both an open file and a directory stream. -/
structure IdsWellFormed (s : FileManager) : Prop where
  fdsIter_le : s.fdsIter ≤ u64Max + 1
  openFiles_lt : ∀ fd, s.openFiles fd ≠ none → fd < s.fdsIter
  dirStreams_lt : ∀ fd, s.hasDirStream fd = true → fd < s.fdsIter
  disjoint : ∀ fd, s.openFiles fd ≠ none → s.hasDirStream fd = false

/-- A new file manager has handed out no id and holds nothing. -/
theorem new_wellFormed (pid : Option Nat) : IdsWellFormed (new pid) where
  fdsIter_le := by simp [new]
  openFiles_lt := by simp [new]
  dirStreams_lt := by simp [new, hasDirStream]
  disjoint := by simp [new]

/-- Every request keeps the ids well formed. -/
theorem IdEffect.wellFormed {s s' : FileManager} {req r} (h : IdEffect s req r s')
    (hw : IdsWellFormed s) : IdsWellFormed s' := by
  obtain ⟨hle, hof, hds, hdis⟩ := hw
  cases h with
  | keep _ hf hd hi => exact ⟨hi ▸ hle, by simp_all, by simp_all, by simp_all⟩
  | @close fd' _ _ _ hf hd hi =>
    refine ⟨hi ▸ hle, fun fd h => ?_, by simp_all, fun fd h => ?_⟩
    · by_cases hj : fd = fd' <;> simp_all [Table.remove]
    · by_cases hj : fd = fd' <;> simp_all [Table.remove]
  | closeDir _ hf hd hi =>
    refine ⟨hi ▸ hle, by simp_all, fun fd h => ?_, fun fd h => ?_⟩
    · simp only [hd, Bool.and_eq_true] at h; rw [hi]; exact hds fd h.1
    · simp [hd, hdis fd (hf ▸ h)]
  | burn _ _ hmax hf hd hi =>
    refine ⟨by omega, fun fd h => ?_, fun fd h => ?_, by simp_all⟩
    · have := hof fd (hf ▸ h); omega
    · have := hds fd (hd ▸ h); omega
  | openFile _ _ hmax hf hd hi =>
    refine ⟨by omega, fun fd h => ?_, fun fd h => ?_, fun fd h => ?_⟩
    · by_cases hj : fd = s.fdsIter
      · omega
      · have := hof fd (by simpa [hf, hj] using h); omega
    · have := hds fd (hd ▸ h); omega
    · by_cases hj : fd = s.fdsIter
      · rw [hd]; cases hds' : s.hasDirStream fd
        · rfl
        · have := hds fd hds'; omega
      · rw [hd]; exact hdis fd (by simpa [hf, hj] using h)
  | openDir _ hmax hf hd hi =>
    refine ⟨by omega, fun fd h => ?_, fun fd h => ?_, fun fd h => ?_⟩
    · have := hof fd (hf ▸ h); omega
    · rw [hd] at h
      rcases Bool.or_eq_true _ _ ▸ h with h | h
      · have := hds fd h; omega
      · simp at h; omega
    · have hlt := hof fd (hf ▸ h)
      rw [hd, hdis fd (hf ▸ h)]
      simp; omega

/-- The id start never moves backwards, and moves by at most one. -/
theorem IdEffect.fdsIter_mono {s s' : FileManager} {req r} (h : IdEffect s req r s') :
    s.fdsIter ≤ s'.fdsIter ∧ s'.fdsIter ≤ s.fdsIter + 1 := by
  cases h <;> omega

/-- A returned id is the start of the range when the request came in, which
then moves past it. -/
theorem IdEffect.allocated_eq {s s' : FileManager} {req r} (h : IdEffect s req r s') {fd : Nat}
    (hfd : allocated r = some fd) : fd = s.fdsIter ∧ s'.fdsIter = fd + 1 ∧ fd ≤ u64Max := by
  cases h <;> simp_all

/-! ## Sessions -/

/-- The ids a session's requests return to the layer, in order. -/
def allocatedIds (s : FileManager) : List Step → List Nat
  | [] => []
  | (os, req) :: steps =>
      (allocated (s.handleMessage os reclen req).1).toList ++
        (s.handleMessage os reclen req).2.allocatedIds steps

/-- The ids {lit}`fds_iter` yields during a session, in order: the start of the
range at each request that moves it. -/
def yieldedIds (s : FileManager) : List Step → List Nat
  | [] => []
  | (os, req) :: steps =>
      (if (s.handleMessage os reclen req).2.fdsIter = s.fdsIter + 1 then [s.fdsIter] else []) ++
        (s.handleMessage os reclen req).2.yieldedIds steps

@[simp]
theorem run_cons (s : FileManager) (os : Os) (req : FileRequest) (steps : List Step) :
    s.run reclen ((os, req) :: steps) = (s.handleMessage os reclen req).2.run reclen steps := rfl

/-- A session split in two runs its second part from where the first ends. -/
theorem run_append (s : FileManager) (steps steps' : List Step) :
    s.run reclen (steps ++ steps') = (s.run reclen steps).run reclen steps' := by
  induction steps generalizing s with
  | nil => rfl
  | cons st steps ih => exact ih _

/-- The id start never moves backwards over a session. -/
theorem fdsIter_le_run (s : FileManager) (steps : List Step) :
    s.fdsIter ≤ (s.run reclen steps).fdsIter := by
  induction steps generalizing s with
  | nil => exact le_rfl
  | cons st steps ih =>
    obtain ⟨os, req⟩ := st
    exact ((handleMessage_idEffect os reclen s req).fdsIter_mono.1).trans (ih _)

/-- The ids {lit}`fds_iter` yields during a session are exactly the ids from
its start before the session up to its start after it. -/
theorem yieldedIds_eq_range' (s : FileManager) (steps : List Step) :
    s.yieldedIds reclen steps =
      List.range' s.fdsIter ((s.run reclen steps).fdsIter - s.fdsIter) := by
  induction steps generalizing s with
  | nil => simp [yieldedIds, FileManager.run]
  | cons st steps ih =>
    obtain ⟨os, req⟩ := st
    have hmono := (handleMessage_idEffect os reclen s req).fdsIter_mono
    have hrun := fdsIter_le_run reclen (s.handleMessage os reclen req).2 steps
    simp only [yieldedIds, run_cons, ih]
    generalize (run reclen (s.handleMessage os reclen req).2 steps).fdsIter = e at hrun ⊢
    split
    · rename_i h
      rw [h] at hrun ⊢
      obtain ⟨k, rfl⟩ : ∃ k, e = s.fdsIter + 1 + k := ⟨e - (s.fdsIter + 1), by omega⟩
      rw [show s.fdsIter + 1 + k - s.fdsIter = k + 1 by omega, Nat.add_sub_cancel_left,
        List.range'_succ]
      rfl
    · rw [show (s.handleMessage os reclen req).2.fdsIter = s.fdsIter by omega]
      rfl

/-- {lit}`fds_iter` yields no id twice: the ids it yields strictly increase. -/
theorem yieldedIds_pairwise_lt (s : FileManager) (steps : List Step) :
    (s.yieldedIds reclen steps).Pairwise (· < ·) := by
  rw [yieldedIds_eq_range']
  exact List.pairwise_lt_range' _ _

/-- The ids returned to the layer are yielded ids, in the same order. -/
theorem allocatedIds_sublist (s : FileManager) (steps : List Step) :
    (s.allocatedIds reclen steps).Sublist (s.yieldedIds reclen steps) := by
  induction steps generalizing s with
  | nil => exact .slnil
  | cons st steps ih =>
    obtain ⟨os, req⟩ := st
    simp only [allocatedIds, yieldedIds]
    refine List.Sublist.append ?_ (ih _)
    cases h : allocated (s.handleMessage os reclen req).1 with
    | none => simp
    | some fd =>
      obtain ⟨rfl, hi, -⟩ := (handleMessage_idEffect os reclen s req).allocated_eq h
      simp [hi]

/-- Every state a session reaches from {lit}`FileManager::new` has well-formed ids. -/
theorem run_wellFormed (s : FileManager) (hs : IdsWellFormed s) (steps : List Step) :
    IdsWellFormed (s.run reclen steps) := by
  induction steps generalizing s with
  | nil => exact hs
  | cons st steps ih =>
    obtain ⟨os, req⟩ := st
    exact ih _ ((handleMessage_idEffect os reclen s req).wellFormed hs)

/-! ## Entries are never replaced -/

/-- A request keeps every entry it does not close: an open file stays the same
file until a {lit}`Close` of its id, a directory stream's id keeps a stream
until a {lit}`CloseDir` of it, and an id that gains an entry is the fresh one,
which had none in either table. -/
def KeepsEntries (s : FileManager) (req : FileRequest) (s' : FileManager) : Prop :=
  (∀ fd, s.openFiles fd ≠ none → s'.openFiles fd = s.openFiles fd ∨ req = .close fd) ∧
  (∀ fd, s.hasDirStream fd = true → s'.hasDirStream fd = true ∨ req = .closeDir fd) ∧
  (∀ fd, (s.openFiles fd = none ∧ s'.openFiles fd ≠ none) ∨
      (s.hasDirStream fd = false ∧ s'.hasDirStream fd = true) →
    fd = s.fdsIter ∧ s.openFiles fd = none ∧ s.hasDirStream fd = false)

/-- In a well-formed state no request replaces an entry. -/
theorem IdEffect.keepsEntries {s s' : FileManager} {req r} (h : IdEffect s req r s')
    (hw : IdsWellFormed s) : KeepsEntries s req s' := by
  have hfresh : s.openFiles s.fdsIter = none ∧ s.hasDirStream s.fdsIter = false := by
    constructor
    · by_contra hne; exact absurd (hw.openFiles_lt _ hne) (lt_irrefl _)
    · cases hd : s.hasDirStream s.fdsIter
      · rfl
      · exact absurd (hw.dirStreams_lt _ hd) (lt_irrefl _)
  cases h with
  | keep _ hf hd hi => exact ⟨by simp [hf], fun fd h => .inl (hd ▸ h), by simp_all⟩
  | @close fd' _ _ _ hf hd hi =>
    refine ⟨fun fd _ => ?_, fun fd h => .inl (hd ▸ h), fun fd hfd => ?_⟩
    · by_cases hj : fd = fd' <;> simp_all
    · rcases hfd with ⟨h1, h2⟩ | ⟨h1, h2⟩
      · by_cases hj : fd = fd' <;> simp_all
      · simp_all
  | @closeDir fd' _ _ _ hf hd hi =>
    refine ⟨by simp [hf], fun fd hfd => ?_, fun fd hfd => ?_⟩
    · by_cases hj : fd = fd' <;> simp_all
    · rcases hfd with ⟨h1, h2⟩ | ⟨h1, h2⟩
      · simp_all
      · simp_all
  | burn _ _ _ hf hd hi => exact ⟨by simp [hf], fun fd h => .inl (hd ▸ h), by simp_all⟩
  | openFile _ _ _ hf hd hi =>
    refine ⟨fun fd hfd => .inl ?_, fun fd h => .inl (hd ▸ h), fun fd hfd => ?_⟩
    · have : fd ≠ s.fdsIter := fun h => hfd (h ▸ hfresh.1)
      simp [hf, this]
    · rcases hfd with ⟨h1, h2⟩ | ⟨h1, h2⟩
      · by_cases hj : fd = s.fdsIter
        · exact ⟨hj, hj ▸ hfresh.1, hj ▸ hfresh.2⟩
        · simp_all
      · simp_all
  | openDir _ _ hf hd hi =>
    refine ⟨by simp [hf], fun fd hfd => .inl (by simp [hd, hfd]), fun fd hfd => ?_⟩
    rcases hfd with ⟨h1, h2⟩ | ⟨h1, h2⟩
    · simp_all
    · have : fd = s.fdsIter := by simpa [hd, h1] using h2
      exact ⟨this, this ▸ hfresh.1, this ▸ hfresh.2⟩

/-! ## Exhaustion -/

/-- The shared open tail on an exhausted range: the host's error, or
{lit}`IdsExhausted(op)` once the file is open. -/
theorem openAt_exhausted (s : FileManager) (hs : u64Max < s.fdsIter) (path : PathBuf)
    (o : OpenOptionsInternal) (op : String) :
    s.openAt os path o op =
      match os.openFile path o with
      | .error e => (.error (.remoteIo e), s)
      | .ok _ => (.error (.idsExhausted op), s) := by
  unfold openAt
  cases os.openFile path o with
  | error e => rfl
  | ok file => simp [nextFd, Nat.not_le.2 hs]

/-- The shared open tail takes an id only when the host opened the file. -/
theorem openAt_takes_only_if_opened (t : FileManager) (path : PathBuf) (o : OpenOptionsInternal)
    (op : String) (h : (t.openAt os path o op).2.fdsIter = t.fdsIter + 1) :
    ∃ file, os.openFile path o = .ok file := by
  unfold openAt at h
  split at h
  · simp at h
  · exact ⟨_, ‹_›⟩

/-- Once {lit}`u64::MAX` has been handed out, a request that would take an id
from a range with ids left reports {lit}`IdsExhausted` instead, and no request
moves the range or returns an id. -/
theorem handleMessage_exhausted (s : FileManager) (hs : s.fdsIter = u64Max + 1)
    (req : FileRequest) :
    (s.handleMessage os reclen req).2.fdsIter = s.fdsIter ∧
      allocated (s.handleMessage os reclen req).1 = none ∧
      ∀ n ≤ u64Max,
        (({ s with fdsIter := n } : FileManager).handleMessage os reclen req).2.fdsIter = n + 1 →
        ∃ response, (s.handleMessage os reclen req).1 = .ok (some response) ∧
          response.isIdsExhausted = true := by
  have hgt : u64Max < s.fdsIter := by omega
  have heff := handleMessage_idEffect os reclen s req
  refine ⟨?_, ?_, fun n hn htakes => ?_⟩
  · cases heff <;> first | assumption | omega
  · cases heff <;> first | assumption | omega
  cases req with
  | «open» path o =>
    simp only [handleMessage] at htakes ⊢
    split at htakes
    · simp at htakes
    · rename_i p hp
      simp only [FileManager.open] at htakes ⊢
      split at htakes
      · simp at htakes
      · rename_i q hq
        obtain ⟨file, hfile⟩ := openAt_takes_only_if_opened os _ q o "open" htakes
        rw [openAt_exhausted os s hgt, hfile]
        exact ⟨_, rfl, rfl⟩
  | openRelative fd path o =>
    simp only [handleMessage, openRelative] at htakes ⊢
    split at htakes
    · simp at htakes
    · rename_i dir hdir
      obtain ⟨file, hfile⟩ := openAt_takes_only_if_opened os _ _ o _ htakes
      simp only [show s.relativePath fd path = .ok dir from hdir]
      rw [openAt_exhausted os s hgt, hfile]
      exact ⟨_, rfl, rfl⟩
  | fdOpenDir fd =>
    simp only [handleMessage, fdopenDir] at htakes ⊢
    split at htakes
    · simp at htakes
    · rename_i dir hdir
      have hdir' : s.relativeDir fd = .ok dir := hdir
      rw [hdir']
      simp [nextFd, Nat.not_le.2 hgt, FileResponse.isIdsExhausted]
  | close fd => simp [handleMessage, close] at htakes
  | closeDir fd =>
    have := (closeDir_tables { s with fdsIter := n } fd).2
    simp [handleMessage] at htakes this; omega
  | readDir fd =>
    have := (readDir_tables { s with fdsIter := n } fd).2.2
    simp [handleMessage] at htakes this; omega
  | readDirBatch fd amount =>
    have := (readDirBatch_tables { s with fdsIter := n } fd amount).2.2
    simp [handleMessage] at htakes this; omega
  | getDEnts64 fd bufferSize =>
    have := (getdents64_tables os reclen { s with fdsIter := n } fd bufferSize).2.2
    simp [handleMessage] at htakes this; omega
  | access path mode =>
    simp only [handleMessage] at htakes
    split at htakes <;> simp at htakes
  | read | readLimited | readLink | seek | write | writeLimited | xstat | xstatFs | makeDir
  | makeDirAt | removeDir | unlink | unlinkAt => simp [handleMessage] at htakes

/-! ## Sessions from a new file manager -/

/-- Every session from {lit}`FileManager::new`, whatever the host answers: each
table key is an id {lit}`fds_iter` has yielded, the two tables share no key,
no id is yielded twice or past {lit}`u64::MAX`, the ids returned to the layer
strictly increase, the next request replaces no entry, and once the range is
used up no request takes an id and one that would reports
{lit}`IdsExhausted`. -/
theorem session_ids_unique (pid : Option Nat) (steps : List Step) :
    let s := (new pid).run reclen steps
    let yielded := (new pid).yieldedIds reclen steps
    (∀ fd, s.openFiles fd ≠ none → fd ∈ yielded) ∧
    (∀ fd, s.hasDirStream fd = true → fd ∈ yielded) ∧
    (∀ fd, s.openFiles fd ≠ none → s.hasDirStream fd = false) ∧
    yielded.Pairwise (· < ·) ∧ (∀ fd ∈ yielded, fd ≤ u64Max) ∧
    ((new pid).allocatedIds reclen steps).Pairwise (· < ·) ∧
    (∀ os req, KeepsEntries s req (s.handleMessage os reclen req).2) ∧
    (s.fdsIter = u64Max + 1 → ∀ os req,
      (s.handleMessage os reclen req).2.fdsIter = s.fdsIter ∧
      allocated (s.handleMessage os reclen req).1 = none ∧
      ∀ n ≤ u64Max,
        (({ s with fdsIter := n } : FileManager).handleMessage os reclen req).2.fdsIter = n + 1 →
        ∃ response, (s.handleMessage os reclen req).1 = .ok (some response) ∧
          response.isIdsExhausted = true) := by
  dsimp only
  have hw := run_wellFormed reclen _ (new_wellFormed pid) steps
  have hyield : (new pid).yieldedIds reclen steps =
      List.range' 0 ((new pid).run reclen steps).fdsIter := by
    simpa [new] using yieldedIds_eq_range' reclen (new pid) steps
  have hpair := yieldedIds_pairwise_lt reclen (new pid) steps
  refine ⟨fun fd h => ?_, fun fd h => ?_, hw.disjoint, hpair, fun fd h => ?_,
    hpair.sublist (allocatedIds_sublist reclen _ steps),
    fun os req => (handleMessage_idEffect os reclen _ req).keepsEntries hw,
    fun hs os req => handleMessage_exhausted os reclen _ hs req⟩
  · simpa [hyield] using hw.openFiles_lt fd h
  · simpa [hyield] using hw.dirStreams_lt fd h
  · have := hw.fdsIter_le
    simp only [hyield, List.mem_range'_1] at h
    omega

end FileManager
end File
end Mirrord
