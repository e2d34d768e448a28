import MirrordLean.Agent.File.Getdents

/-!
# mirrord agent - Reading a directory stream

{lit}`FdOpenDir` files an enumerated {lit}`ReadDir` of a directory under a
fresh id.  {lit}`ReadDir` then takes one item of it and {lit}`ReadDirBatch` up
to {lit}`amount` items, each converted at its listing index.  Between two
reads of a stream a session may do anything else: open and close other ids,
read other streams, list directories through {lit}`getdents64`.

On a listing whose items all convert, the stream is a cursor
({lit}`cursorResponses`): whatever else the session does, each read answers
the next entries it asks for, numbered on from where the last read stopped.
An item that fails to convert is where the two reads part: {lit}`ReadDir`
answers the error and the next read goes on after it, while
{lit}`ReadDirBatch` answers only the error, and the entries it had taken
before it in the same batch are gone from the stream.

{lit}`CloseDir` drops the directory stream of its id and, only when there is
none, the id's {lit}`getdents64` stream.  The two kinds of stream live on
separate ids in every reachable state, so that is all the id has.

Main results:

- Theorem {lit}`dirStreams_handleMessage_of_dirRead_eq_none`: a request that
  neither reads nor closes the stream of a handed-out id leaves it as it was.
- Theorem {lit}`dirReadResponses_cursor`: over any session, the answers to the
  reads of one stream are those of the cursor.
- Theorem {lit}`fdopenDir_reads_follow_cursor`: the same for the stream a
  successful {lit}`FdOpenDir` creates, from position 0.
- Theorem {lit}`dir_reads_list_entries_once_in_order`: all answers together
  are the first entries of the listing, as many as the reads asked for, each
  once, in order.
- Theorem {lit}`readDirBatch_error_drops_taken_entries`: a batch that meets an
  item that does not convert moves the stream as far as the same number of
  {lit}`ReadDir` calls would, but answers only the error, where those calls
  answer every entry before it.
- Theorem {lit}`StreamsDisjoint.step`: no request files a {lit}`getdents64`
  stream and a directory stream under one id.
- Theorem {lit}`closeDir_releases_every_stream`: in every state a session
  reaches, {lit}`CloseDir` leaves its id no stream of either kind.

Current gaps:

- A listing is fixed when {lit}`FdOpenDir` creates the stream.
-/

namespace Mirrord
namespace File

open FileManager (listedEntries)

namespace Table

variable {α : Type}

theorem insert_insert (m : Table α) (k : Nat) (v w : α) : (m.insert k v).insert k w = m.insert k w := by
  funext j
  by_cases hj : j = k <;> simp [insert, hj]

theorem insert_of_eq {m : Table α} {k : Nat} {v : α} (h : m k = some v) : m.insert k v = m := by
  funext j
  by_cases hj : j = k
  · subst hj; simp [h]
  · simp [hj]

end Table

/-! ## Reads of a stream -/

/-- A read of a directory stream: {lit}`ReadDir`, or {lit}`ReadDirBatch` with
its amount. -/
inductive DirRead
  | one
  | batch (amount : Nat)
deriving DecidableEq, Repr

namespace DirRead

/-- The request of a read on the stream of an id. -/
def request (fd : Nat) : DirRead → FileRequest
  | one => .readDir fd
  | batch amount => .readDirBatch fd amount

/-- How many listing items a read asks for. -/
def demand : DirRead → Nat
  | one => 1
  | batch amount => amount

/-- The answer of a read that took the given entries. -/
def respond (fd : Nat) : DirRead → List DirEntryInternal → FileResponse
  | one, entries => .readDir (.ok entries.head?)
  | batch _, entries => .readDirBatch (.ok ⟨fd, entries⟩)

end DirRead

/-- The read a request makes of the stream of {lit}`fd`, if it reads it. -/
def FileRequest.dirRead (fd : Nat) : FileRequest → Option DirRead
  | .readDir fd' => if fd' = fd then some .one else none
  | .readDirBatch fd' amount => if fd' = fd then some (.batch amount) else none
  | _ => none

theorem FileRequest.eq_request_of_dirRead {req : FileRequest} {fd : Nat} {r : DirRead}
    (h : req.dirRead fd = some r) : req = r.request fd := by
  cases req <;> simp only [FileRequest.dirRead, Option.ite_none_right_eq_some, Option.some.injEq,
    reduceCtorEq] at h <;> simp [← h.2, h.1, DirRead.request]

/-- The directory entries a response carries. -/
def FileResponse.dirEntries : FileResponse → List DirEntryInternal
  | .readDir (.ok entry) => entry.toList
  | .readDirBatch (.ok batch) => batch.dirEntries
  | _ => []

/-- The directory entries an answer carries. -/
def answerDirEntries : Except AgentError (Option FileResponse) → List DirEntryInternal
  | .ok (some response) => response.dirEntries
  | _ => []

/-! ## The cursor -/

/-- The stream as a cursor over a listing whose items all convert: every read
takes the next entries it asks for, numbered from the cursor's position. -/
def cursorResponses (fd : Nat) : Nat → List DirEntry → List DirRead → List FileResponse
  | _, _, [] => []
  | position, listing, r :: reads =>
      r.respond fd (listedEntries position (listing.take r.demand)) ::
        cursorResponses fd (position + (listing.take r.demand).length) (listing.drop r.demand) reads

@[simp]
theorem length_listedEntries (start : Nat) (listing : List DirEntry) :
    (listedEntries start listing).length = listing.length := by
  induction listing generalizing start <;> simp [listedEntries, *]

theorem listedEntries_append (start : Nat) (a b : List DirEntry) :
    listedEntries start (a ++ b) = listedEntries start a ++ listedEntries (start + a.length) b := by
  induction a generalizing start with
  | nil => rfl
  | cons e a ih => simp [listedEntries, ih, Nat.add_assoc, Nat.add_comm 1]

/-- A read hands back exactly the entries it took. -/
theorem dirEntries_respond (fd position : Nat) (listing : List DirEntry) (r : DirRead) :
    (r.respond fd (listedEntries position (listing.take r.demand))).dirEntries =
      listedEntries position (listing.take r.demand) := by
  cases r with
  | one => cases listing <;> simp [DirRead.respond, DirRead.demand, FileResponse.dirEntries, listedEntries]
  | batch amount => rfl

/-- All the cursor's answers together: the first entries of the listing, as
many as the reads asked for, each once and in order. -/
theorem flatMap_dirEntries_cursorResponses (fd : Nat) (reads : List DirRead) :
    ∀ (position : Nat) (listing : List DirEntry),
      (cursorResponses fd position listing reads).flatMap FileResponse.dirEntries =
        listedEntries position (listing.take (reads.map DirRead.demand).sum) := by
  induction reads with
  | nil => intro position listing; simp [cursorResponses, listedEntries]
  | cons r reads ih =>
    intro position listing
    rw [cursorResponses, List.flatMap_cons, dirEntries_respond, ih, List.map_cons, List.sum_cons,
      List.take_add, listedEntries_append]

/-! ## One read -/

namespace FileManager

/-- The answers a session gives to the reads of the stream of {lit}`fd`, in
order. -/
def dirReadResponses (reclen : DirEntryInternal → Nat) (fd : Nat) (s : FileManager) :
    List Step → List (Except AgentError (Option FileResponse))
  | [] => []
  | (os, req) :: steps =>
      ((req.dirRead fd).map fun _ => (s.handleMessage os reclen req).1).toList ++
        (s.handleMessage os reclen req).2.dirReadResponses reclen fd steps

variable (os : Os) (reclen : DirEntryInternal → Nat)

/-- {lit}`read_dir` on a listing whose items all convert: the entry at the
cursor, if any, and the cursor moved past it. -/
theorem readDir_map_ok (s : FileManager) {fd c : Nat} {listing : List DirEntry}
    (hs : s.dirStreams fd = some ⟨listing.map .ok, c⟩) :
    s.readDir fd = (.ok (listedEntries c (listing.take 1)).head?,
      { s with dirStreams := s.dirStreams.insert fd ⟨(listing.drop 1).map .ok, c + (listing.take 1).length⟩ }) := by
  cases listing <;>
    simp [readDir, hs, DirStream.next, listedEntries, remote, DirEntryInternal.tryFrom, Except.map,
      Except.mapError]

/-- The take loop of {lit}`read_dir_batch` on items that all convert: the next
{lit}`amount` entries after those already taken. -/
theorem readDirBatchLoop_map_ok (amount c : Nat) (listing : List DirEntry)
    (entries : List DirEntryInternal) :
    readDirBatchLoop amount ⟨listing.map .ok, c⟩ entries =
      (.ok (entries ++ listedEntries c (listing.take amount)),
        ⟨(listing.drop amount).map .ok, c + (listing.take amount).length⟩) := by
  induction amount generalizing listing c entries with
  | zero => simp [readDirBatchLoop, listedEntries]
  | succ amount ih =>
    cases listing with
    | nil => simp [readDirBatchLoop, DirStream.next, listedEntries]
    | cons e rest =>
      simp only [readDirBatchLoop, DirStream.next, List.map_cons, DirEntryInternal.tryFrom, ih,
        List.take_succ_cons, listedEntries, List.append_assoc, List.singleton_append, List.drop_succ_cons,
        List.length_cons, Nat.add_assoc, Nat.add_comm 1]

/-- One read of a stream whose items all convert: the next {lit}`demand`
entries, the cursor moved past them, and nothing else changed. -/
theorem handleMessage_dirRead_map_ok (s : FileManager) {fd c : Nat} {listing : List DirEntry}
    (hs : s.dirStreams fd = some ⟨listing.map .ok, c⟩) (r : DirRead) :
    s.handleMessage os reclen (r.request fd) =
      (.ok (some (r.respond fd (listedEntries c (listing.take r.demand)))),
        { s with dirStreams :=
            s.dirStreams.insert fd ⟨(listing.drop r.demand).map .ok, c + (listing.take r.demand).length⟩ }) := by
  cases r with
  | one => simp [DirRead.request, DirRead.respond, DirRead.demand, handleMessage, readDir_map_ok s hs]
  | batch amount =>
    simp [DirRead.request, DirRead.respond, DirRead.demand, handleMessage, readDirBatch, hs,
      readDirBatchLoop_map_ok, remote, Except.map, Except.mapError]

/-! ## Everything else leaves the stream alone -/

theorem openAt_dirStreams (s : FileManager) (path : PathBuf) (o : OpenOptionsInternal) (op : String) :
    (s.openAt os path o op).2.dirStreams = s.dirStreams := by
  rcases openAt_cases os s path o op with ⟨h, -⟩ | ⟨-, h, -⟩ | ⟨-, -, v, h⟩ <;> rw [h]

/-- A request that neither reads nor closes the stream of a handed-out id
leaves that stream as it was: a new stream goes under the fresh id, which is
not the one. -/
theorem dirStreams_handleMessage_of_dirRead_eq_none (s : FileManager) (req : FileRequest) {fd : Nat}
    (hlt : fd < s.fdsIter) (hread : req.dirRead fd = none) (hclose : req ≠ .closeDir fd) :
    (s.handleMessage os reclen req).2.dirStreams fd = s.dirStreams fd := by
  cases req with
  | «open» path o =>
    simp only [handleMessage]
    split
    · rfl
    · simp only [FileManager.open]
      split
      · rfl
      · rw [openAt_dirStreams]
  | openRelative relativeFd path o =>
    simp only [handleMessage, openRelative]
    split
    · rfl
    · rw [openAt_dirStreams]
  | fdOpenDir remoteFd =>
    simp only [handleMessage]
    rcases fdopenDir_cases os s remoteFd with ⟨h, -⟩ | ⟨-, h, -⟩ | ⟨-, -, st, h⟩ <;> rw [h]
    exact Table.insert_ne _ _ (Nat.ne_of_lt hlt)
  | readDir fd' =>
    have hne : fd' ≠ fd := by simpa [FileRequest.dirRead] using hread
    simp only [handleMessage, readDir]
    split
    · rfl
    · split <;> exact Table.insert_ne _ _ hne.symm
  | readDirBatch fd' amount =>
    have hne : fd' ≠ fd := by simpa [FileRequest.dirRead] using hread
    simp only [handleMessage, readDirBatch]
    split
    · rfl
    · exact Table.insert_ne _ _ hne.symm
  | closeDir fd' =>
    have hne : fd ≠ fd' := fun h => hclose (h ▸ rfl)
    simp only [handleMessage, closeDir]
    split
    · exact Table.remove_ne _ hne
    · rfl
  | getDEnts64 fd' bufferSize => exact congrFun (getdents64_tables os reclen s fd' bufferSize).2.1 fd
  | access path mode =>
    simp only [handleMessage]
    split <;> rfl
  | read | readLimited | readLink | seek | write | writeLimited | close | xstat | xstatFs | makeDir
  | makeDirAt | removeDir | unlink | unlinkAt => rfl

/-! ## Sessions -/

/-- Over any session that does not close the stream of a handed-out id, the
answers to the reads of that stream are the cursor's, if the listing's items
all convert. -/
theorem dirReadResponses_cursor (fd : Nat) (steps : List Step) :
    ∀ (s : FileManager) (c : Nat) (listing : List DirEntry),
      s.dirStreams fd = some ⟨listing.map .ok, c⟩ → fd < s.fdsIter →
      (∀ st ∈ steps, st.2 ≠ .closeDir fd) →
      s.dirReadResponses reclen fd steps =
        (cursorResponses fd c listing (steps.filterMap fun st => st.2.dirRead fd)).map
          fun r => .ok (some r) := by
  induction steps with
  | nil => intros; rfl
  | cons st steps ih =>
    obtain ⟨os, req⟩ := st
    intro s c listing hs hlt hclose
    have hclose' : ∀ st ∈ steps, st.2 ≠ .closeDir fd := fun st h => hclose st (.tail _ h)
    cases hr : req.dirRead fd with
    | none =>
      have hmono := (handleMessage_idEffect os reclen s req).fdsIter_mono.1
      have hs' := dirStreams_handleMessage_of_dirRead_eq_none os reclen s req hlt hr
        (hclose _ (.head _))
      simp only [dirReadResponses, hr, Option.map_none', Option.toList_none, List.nil_append,
        List.filterMap_cons]
      exact ih _ c listing (hs' ▸ hs) (by omega) hclose'
    | some r =>
      obtain rfl := FileRequest.eq_request_of_dirRead hr
      simp only [dirReadResponses, hr, List.filterMap_cons, handleMessage_dirRead_map_ok os reclen s hs,
        Option.map_some', Option.toList_some, cursorResponses, List.map_cons, List.singleton_append]
      exact congrArg _ (ih _ _ _ (Table.insert_self _ _ _) hlt hclose')

/-- After a successful {lit}`FdOpenDir` of a directory whose listing's items
all convert, the reads of the new id, interleaved with any requests that do
not close it, are answered as the cursor from position 0 answers them. -/
theorem fdopenDir_reads_follow_cursor (s : FileManager) {fd : Nat} {path : PathBuf}
    {listing : List DirEntry} (hdir : s.openFiles fd = some (.directory path))
    (hlist : os.readDir path = .ok (listing.map .ok)) (hmax : s.fdsIter ≤ u64Max) (steps : List Step)
    (hclose : ∀ st ∈ steps, st.2 ≠ .closeDir s.fdsIter) :
    (s.handleMessage os reclen (.fdOpenDir fd)).1 = .ok (some (.openDir (.ok s.fdsIter))) ∧
      (s.handleMessage os reclen (.fdOpenDir fd)).2.dirReadResponses reclen s.fdsIter steps =
        (cursorResponses s.fdsIter 0 listing (steps.filterMap fun st => st.2.dirRead s.fdsIter)).map
          fun r => .ok (some r) := by
  have hopen : s.handleMessage os reclen (.fdOpenDir fd) =
      (.ok (some (.openDir (.ok s.fdsIter))),
        { s with fdsIter := s.fdsIter + 1,
                 dirStreams := s.dirStreams.insert s.fdsIter (DirStream.new (listing.map .ok)) }) := by
    simp [handleMessage, fdopenDir, relativeDir, hdir, nextFd, hmax, hlist]
  rw [hopen]
  exact ⟨rfl, dirReadResponses_cursor reclen _ steps _ 0 listing (Table.insert_self _ _ _)
    (Nat.lt_succ_self _) hclose⟩

/-- A session started on {lit}`/d`, listing {lit}`a` and {lit}`b`, with one id
handed out. -/
def dirDOpened : FileManager := { dirDState with fdsIter := 1 }

/-- Reads of the stream {lit}`FdOpenDir` files under id 1, around other
requests. -/
def readsAround : List Step :=
  [(directoryHost (filesAB.map .ok), .readDir 1), (directoryHost (filesAB.map .ok), .xstatFs 0),
    (directoryHost (filesAB.map .ok), .readDirBatch 1 5), (directoryHost (filesAB.map .ok), .readDir 1)]

theorem fdopenDir_reads_follow_cursor_dirD :
    dirDOpened.openFiles 0 = some (.directory dirD) ∧
      (directoryHost (filesAB.map .ok)).readDir dirD = .ok (filesAB.map .ok) ∧
      dirDOpened.fdsIter ≤ u64Max ∧ (∀ st ∈ readsAround, st.2 ≠ .closeDir dirDOpened.fdsIter) ∧
      ((dirDOpened.handleMessage (directoryHost (filesAB.map .ok)) (fun _ => 24) (.fdOpenDir 0)).1 =
          .ok (some (.openDir (.ok dirDOpened.fdsIter))) ∧
        (dirDOpened.handleMessage (directoryHost (filesAB.map .ok)) (fun _ => 24) (.fdOpenDir 0)).2.dirReadResponses
            (fun _ => 24) dirDOpened.fdsIter readsAround =
          (cursorResponses dirDOpened.fdsIter 0 filesAB
              (readsAround.filterMap fun st => st.2.dirRead dirDOpened.fdsIter)).map
            fun r => .ok (some r)) :=
  ⟨rfl, rfl, by decide, by simp [readsAround, dirDOpened],
    @fdopenDir_reads_follow_cursor (directoryHost (filesAB.map .ok)) (fun _ => 24) dirDOpened 0 dirD filesAB
      rfl rfl (by decide) readsAround (by simp [readsAround, dirDOpened])⟩

example : (cursorResponses 1 0 filesAB [.one, .batch 5, .one]) =
    [.readDir (.ok (some ⟨10, 0, "a", 8⟩)), .readDirBatch (.ok ⟨1, [⟨11, 1, "b", 8⟩]⟩), .readDir (.ok none)] :=
  rfl

/-- Whatever else a session does, as long as it does not close the stream, the
reads of a stream whose items all convert list the next entries of the
listing, as many as they asked for, each once and in order, at the positions
that follow the cursor. -/
theorem dir_reads_list_entries_once_in_order (s : FileManager) {fd c : Nat} {listing : List DirEntry}
    (hs : s.dirStreams fd = some ⟨listing.map .ok, c⟩) (hlt : fd < s.fdsIter) (steps : List Step)
    (hclose : ∀ st ∈ steps, st.2 ≠ .closeDir fd) :
    (s.dirReadResponses reclen fd steps).flatMap answerDirEntries =
      listedEntries c (listing.take ((steps.filterMap fun st => st.2.dirRead fd).map DirRead.demand).sum) := by
  rw [dirReadResponses_cursor reclen fd steps s c listing hs hlt hclose, List.flatMap_map,
    ← flatMap_dirEntries_cursorResponses fd]
  rfl

/-- The stream of id 1 in {lit}`dirDOpened` after its {lit}`FdOpenDir`. -/
def dirDStreamed : FileManager :=
  (dirDOpened.handleMessage (directoryHost (filesAB.map .ok)) (fun _ => 24) (.fdOpenDir 0)).2

theorem dir_reads_list_entries_once_in_order_dirD :
    dirDStreamed.dirStreams 1 = some ⟨filesAB.map .ok, 0⟩ ∧ 1 < dirDStreamed.fdsIter ∧
      (∀ st ∈ readsAround, st.2 ≠ .closeDir 1) ∧
      (dirDStreamed.dirReadResponses (fun _ => 24) 1 readsAround).flatMap answerDirEntries =
        listedEntries 0 (filesAB.take ((readsAround.filterMap fun st => st.2.dirRead 1).map DirRead.demand).sum) :=
  ⟨rfl, by decide, by simp [readsAround],
    @dir_reads_list_entries_once_in_order (fun _ => 24) dirDStreamed 1 0 filesAB rfl (by decide) readsAround
      (by simp [readsAround])⟩

/-! ## A listing item that does not convert -/

/-- {lit}`read_dir` answers every item of the listing in turn, converted at its
index, errors included, and each call moves the cursor by one. -/
theorem run_readDir (s : FileManager) {fd : Nat} (items : List (Except IoError DirEntry)) :
    ∀ {c : Nat} {more : List (Except IoError DirEntry)}, s.dirStreams fd = some ⟨items ++ more, c⟩ →
      s.responses reclen (List.replicate items.length (os, .readDir fd)) =
          (convertFrom c items).map (fun r => .ok (some (.readDir ((remote r).map some)))) ∧
        s.run reclen (List.replicate items.length (os, .readDir fd)) =
          { s with dirStreams := s.dirStreams.insert fd ⟨more, c + items.length⟩ } := by
  induction items generalizing s with
  | nil =>
    intro c more hs
    rw [List.nil_append] at hs
    refine ⟨rfl, ?_⟩
    simp only [List.length_nil, Nat.add_zero, Table.insert_of_eq hs]
    rfl
  | cons item items ih =>
    intro c more hs
    have hstep : s.handleMessage os reclen (.readDir fd) =
        (.ok (some (.readDir ((remote (DirEntryInternal.tryFrom c item)).map some))),
          { s with dirStreams := s.dirStreams.insert fd ⟨items ++ more, c + 1⟩ }) := by
      simp only [handleMessage, readDir, hs, DirStream.next, List.cons_append]
    obtain ⟨hresp, hrun⟩ := ih (s := { s with dirStreams := s.dirStreams.insert fd ⟨items ++ more, c + 1⟩ })
      (Table.insert_self _ _ _)
    simp only [List.length_cons, List.replicate_succ, responses, FileManager.run, hstep, hresp, hrun,
      convertFrom, logErr, List.map_cons, Table.insert_insert, true_and, Nat.add_assoc, Nat.add_comm 1]

theorem convertFrom_append (start : Nat) (a b : List (Except IoError DirEntry)) :
    convertFrom start (a ++ b) = convertFrom start a ++ convertFrom (start + a.length) b := by
  induction a generalizing start with
  | nil => rfl
  | cons item a ih => simp [convertFrom, ih, Nat.add_assoc, Nat.add_comm 1]

/-- The take loop meeting an item that does not convert before its amount runs
out: the error, with the stream moved past the item. -/
theorem readDirBatchLoop_error (e : IoError) (rest : List (Except IoError DirEntry)) (taken : List DirEntry) :
    ∀ {amount c : Nat} (entries : List DirEntryInternal), taken.length < amount →
      readDirBatchLoop amount ⟨taken.map .ok ++ .error e :: rest, c⟩ entries =
        (.error e, ⟨rest, c + taken.length + 1⟩) := by
  induction taken with
  | nil =>
    intro amount c entries h
    obtain ⟨amount, rfl⟩ : ∃ k, amount = k + 1 := ⟨amount - 1, by simp at h; omega⟩
    rfl
  | cons d taken ih =>
    intro amount c entries h
    obtain ⟨amount, rfl⟩ : ∃ k, amount = k + 1 := ⟨amount - 1, by simp at h; omega⟩
    simp only [readDirBatchLoop, DirStream.next, List.map_cons, List.cons_append, DirEntryInternal.tryFrom]
    rw [ih _ (by simpa using h)]
    simp only [List.length_cons]
    congr 2
    omega

/-- A {lit}`ReadDirBatch` whose batch meets an item that does not convert ends
where that many {lit}`ReadDir` calls end, the item included, but answers only
the error: those calls answer every entry before it, the batch none of
them, and no later read of the stream gets them back. -/
theorem readDirBatch_error_drops_taken_entries (s : FileManager) {fd c amount : Nat}
    {taken : List DirEntry} {e : IoError} {rest : List (Except IoError DirEntry)}
    (hs : s.dirStreams fd = some ⟨taken.map .ok ++ .error e :: rest, c⟩) (hlt : taken.length < amount) :
    s.handleMessage os reclen (.readDirBatch fd amount) =
        (.ok (some (.readDirBatch (.error (.remoteIo e)))),
          s.run reclen (List.replicate (taken.length + 1) (os, .readDir fd))) ∧
      s.responses reclen (List.replicate (taken.length + 1) (os, .readDir fd)) =
        (listedEntries c taken).map (fun entry => .ok (some (.readDir (.ok (some entry))))) ++
          [.ok (some (.readDir (.error (.remoteIo e))))] := by
  have hs' : s.dirStreams fd = some ⟨(taken.map .ok ++ [.error e]) ++ rest, c⟩ := by simpa using hs
  have hlen : (taken.map Except.ok ++ [Except.error e]).length = taken.length + 1 := by simp
  obtain ⟨hresp, hrun⟩ := run_readDir os reclen s _ hs'
  rw [hlen] at hresp hrun
  refine ⟨?_, ?_⟩
  · rw [hrun]
    simp only [handleMessage, readDirBatch, hs, readDirBatchLoop_error e rest taken [] hlt, remote]
    rfl
  · rw [hresp, convertFrom_append, convertFrom_map_ok]
    simp [convertFrom, logErr, DirEntryInternal.tryFrom, remote, Except.map, Except.mapError]

/-- {lit}`/d` listing {lit}`a`, an entry whose name does not convert, and
{lit}`b`, with its stream filed under id 1. -/
def dirDBadStream : FileManager :=
  { dirDOpened with fdsIter := 2, dirStreams := dirDOpened.dirStreams.insert 1 ⟨listingABad, 0⟩ }

theorem readDirBatch_error_drops_taken_entries_listingABad :
    dirDBadStream.dirStreams 1 =
        some ⟨(filesAB.take 1).map .ok ++ .error badName :: [.ok ⟨11, "b", 8⟩], 0⟩ ∧
      (filesAB.take 1).length < 4 ∧
      (dirDBadStream.handleMessage (directoryHost listingABad) (fun _ => 24) (.readDirBatch 1 4) =
          (.ok (some (.readDirBatch (.error (.remoteIo badName)))),
            dirDBadStream.run (fun _ => 24)
              (List.replicate ((filesAB.take 1).length + 1) (directoryHost listingABad, .readDir 1))) ∧
        dirDBadStream.responses (fun _ => 24)
            (List.replicate ((filesAB.take 1).length + 1) (directoryHost listingABad, .readDir 1)) =
          (listedEntries 0 (filesAB.take 1)).map (fun entry => .ok (some (.readDir (.ok (some entry))))) ++
            [.ok (some (.readDir (.error (.remoteIo badName))))]) :=
  ⟨rfl, by decide,
    @readDirBatch_error_drops_taken_entries (directoryHost listingABad) (fun _ => 24) dirDBadStream 1 0 4
      (filesAB.take 1) badName [.ok ⟨11, "b", 8⟩] rfl
      (by decide)⟩

/-! ## Closing a directory id -/

/-- What {lit}`get_or_create_getdents64_stream` can do: hand back the stored
stream, or fail, with the manager as it was; or create and file a stream for
an open directory. -/
theorem getOrCreateGetdents64Stream_cases (s : FileManager) (fd : Nat) :
    (s.getOrCreateGetdents64Stream os fd).2 = s ∧
        (∀ st, (s.getOrCreateGetdents64Stream os fd).1 = .ok st → s.getdentsStreams fd ≠ none) ∨
      ∃ dir st, s.openFiles fd = some (.directory dir) ∧
        s.getOrCreateGetdents64Stream os fd =
          (.ok st, { s with getdentsStreams := s.getdentsStreams.insert fd st }) := by
  unfold getOrCreateGetdents64Stream
  split
  · rename_i stream hs
    exact .inl ⟨rfl, fun _ _ => by simp [hs]⟩
  · split
    · exact .inl ⟨rfl, by simp⟩
    · exact .inl ⟨rfl, by simp⟩
    · rename_i dir hdir
      dsimp only
      split
      · exact .inl ⟨rfl, by simp⟩
      · exact .inr ⟨dir, _, hdir, rfl⟩

/-- What {lit}`getdents64` can do to {lit}`getdents_streams`: nothing, or file
a stream under its id, which had one already or is an open directory. -/
theorem getdents64_getdentsStreams (s : FileManager) (fd bufferSize : Nat) :
    (s.getdents64 os reclen fd bufferSize).2.getdentsStreams = s.getdentsStreams ∨
      ∃ p, (s.getdents64 os reclen fd bufferSize).2.getdentsStreams = s.getdentsStreams.insert fd p ∧
        (s.getdentsStreams fd ≠ none ∨ ∃ dir, s.openFiles fd = some (.directory dir)) := by
  rcases getOrCreateGetdents64Stream_cases os s fd with ⟨h2, h1⟩ | ⟨dir, st, hdir, hc⟩
  · rcases hc : s.getOrCreateGetdents64Stream os fd with ⟨_ | stream, t⟩ <;> rw [hc] at h2 <;>
      subst h2
    · exact .inl (by simp only [getdents64, hc])
    · right
      simp only [getdents64, hc]
      split <;> exact ⟨_, rfl, .inl (h1 _ (by rw [hc]))⟩
  · right
    simp only [getdents64, hc]
    split <;> exact ⟨_, Table.insert_insert _ _ _ _, .inr ⟨dir, hdir⟩⟩

/-- What one request can do to {lit}`getdents_streams`: nothing, file a stream
under an id that had one or is an open directory ({lit}`GetDEnts64`), or drop
the stream of an id ({lit}`CloseDir`). -/
theorem getdentsStreams_handleMessage (s : FileManager) (req : FileRequest) :
    (s.handleMessage os reclen req).2.getdentsStreams = s.getdentsStreams ∨
      (∃ fd p, (s.handleMessage os reclen req).2.getdentsStreams = s.getdentsStreams.insert fd p ∧
        (s.getdentsStreams fd ≠ none ∨ ∃ dir, s.openFiles fd = some (.directory dir))) ∨
      ∃ fd, (s.handleMessage os reclen req).2.getdentsStreams = s.getdentsStreams.remove fd := by
  have hopen : ∀ p o op, (s.openAt os p o op).2.getdentsStreams = s.getdentsStreams := fun p o op => by
    rcases openAt_cases os s p o op with ⟨h, -⟩ | ⟨-, h, -⟩ | ⟨-, -, v, h⟩ <;> rw [h]
  cases req with
  | «open» path o =>
    left
    simp only [handleMessage]
    split
    · rfl
    · simp only [FileManager.open]
      split
      · rfl
      · exact hopen _ _ _
  | openRelative relativeFd path o =>
    left
    simp only [handleMessage, openRelative]
    split
    · rfl
    · exact hopen _ _ _
  | fdOpenDir remoteFd =>
    left
    simp only [handleMessage]
    rcases fdopenDir_cases os s remoteFd with ⟨h, -⟩ | ⟨-, h, -⟩ | ⟨-, -, st, h⟩ <;> rw [h]
  | readDir fd =>
    left
    simp only [handleMessage, readDir]
    split
    · rfl
    · split <;> rfl
  | readDirBatch fd amount =>
    left
    simp only [handleMessage, readDirBatch]
    split <;> rfl
  | closeDir fd =>
    simp only [handleMessage, closeDir]
    split
    · exact .inl rfl
    · exact .inr (.inr ⟨fd, rfl⟩)
  | getDEnts64 fd bufferSize =>
    rcases getdents64_getdentsStreams os reclen s fd bufferSize with h | ⟨p, h, hp⟩
    · exact .inl h
    · exact .inr (.inl ⟨fd, p, h, hp⟩)
  | access path mode =>
    left
    simp only [handleMessage]
    split <;> rfl
  | read | readLimited | readLink | seek | write | writeLimited | close | xstat | xstatFs | makeDir
  | makeDirAt | removeDir | unlink | unlinkAt => exact .inl rfl

/-- An id already handed out gains a directory stream only from
{lit}`FdOpenDir`, which files it under the fresh id. -/
theorem IdEffect.hasDirStream_of_lt {s s' : FileManager} {req r} (h : IdEffect s req r s') {fd : Nat}
    (hlt : fd < s.fdsIter) (hd : s'.hasDirStream fd = true) : s.hasDirStream fd = true := by
  cases h with
  | closeDir _ _ hd' => rw [hd'] at hd; exact (Bool.and_eq_true _ _ ▸ hd).1
  | openDir _ _ _ hd' =>
    rw [hd'] at hd
    rcases Bool.or_eq_true _ _ ▸ hd with h | h
    · exact h
    · simp at h; omega
  | keep _ _ hd' | close _ _ hd' | burn _ _ _ _ hd' | openFile _ _ _ _ hd' => rwa [hd'] at hd

/-- The {lit}`getdents64` streams are filed under ids already handed out, none
of which has a directory stream. -/
structure StreamsDisjoint (s : FileManager) : Prop where
  getdents_lt : ∀ fd, s.getdentsStreams fd ≠ none → fd < s.fdsIter
  getdents_noDirStream : ∀ fd, s.getdentsStreams fd ≠ none → s.hasDirStream fd = false

/-- Every request keeps the two kinds of stream on separate ids. -/
theorem StreamsDisjoint.step {s : FileManager} (hw : IdsWellFormed s) (hd : StreamsDisjoint s)
    (req : FileRequest) : StreamsDisjoint (s.handleMessage os reclen req).2 := by
  have he := handleMessage_idEffect os reclen s req
  -- an id with a stream after the request was handed out before it, without a directory stream
  have hbefore : ∀ fd, (s.handleMessage os reclen req).2.getdentsStreams fd ≠ none →
      fd < s.fdsIter ∧ s.hasDirStream fd = false := fun fd h => by
    have hold : s.getdentsStreams fd ≠ none → fd < s.fdsIter ∧ s.hasDirStream fd = false :=
      fun h => ⟨hd.getdents_lt fd h, hd.getdents_noDirStream fd h⟩
    rcases getdentsStreams_handleMessage os reclen s req with hg | ⟨fd', p, hg, hp⟩ | ⟨fd', hg⟩
    · exact hold (hg ▸ h)
    · by_cases hj : fd = fd'
      · subst hj
        rcases hp with hp | ⟨dir, hdir⟩
        · exact hold hp
        · have hne : s.openFiles fd ≠ none := by simp [hdir]
          exact ⟨hw.openFiles_lt fd hne, hw.disjoint fd hne⟩
      · exact hold (by rwa [hg, Table.insert_ne _ _ hj] at h)
    · by_cases hj : fd = fd'
      · simp [hg, hj] at h
      · exact hold (by rwa [hg, Table.remove_ne _ hj] at h)
  refine ⟨fun fd h => lt_of_lt_of_le (hbefore fd h).1 he.fdsIter_mono.1, fun fd h => ?_⟩
  cases hds : (s.handleMessage os reclen req).2.hasDirStream fd
  · rfl
  · simpa [(hbefore fd h).2] using he.hasDirStream_of_lt (hbefore fd h).1 hds

/-- Over any session from a state with well-formed ids, the two kinds of stream
stay on separate ids. -/
theorem StreamsDisjoint.run (s : FileManager) (hw : IdsWellFormed s) (hd : StreamsDisjoint s)
    (steps : List Step) : StreamsDisjoint (s.run reclen steps) := by
  induction steps generalizing s with
  | nil => exact hd
  | cons st steps ih =>
    obtain ⟨os', req⟩ := st
    exact ih _ ((handleMessage_idEffect os' reclen s req).wellFormed hw) (hd.step os' reclen hw req)

/-- In every state a session reaches from {lit}`FileManager::new`, a
{lit}`CloseDir` leaves its id no stream of either kind: an id with a directory
stream never has a {lit}`getdents64` stream, so dropping the one
{lit}`close_dir` finds drops all. -/
theorem closeDir_releases_every_stream (pid : Option Nat) (steps : List Step) (fd : Nat) :
    (((new pid).run reclen steps).handleMessage os reclen (.closeDir fd)).2.dirStreams fd = none ∧
      (((new pid).run reclen steps).handleMessage os reclen (.closeDir fd)).2.getdentsStreams fd =
        none := by
  have hd := StreamsDisjoint.run reclen (new pid) (new_wellFormed pid) ⟨by simp [new], by simp [new]⟩
    steps
  simp only [handleMessage, closeDir]
  split
  · rename_i st hst
    refine ⟨Table.remove_self _ _, ?_⟩
    by_contra hne
    simpa [hasDirStream, hst] using hd.getdents_noDirStream fd hne
  · exact ⟨‹_›, Table.remove_self _ _⟩

end FileManager
end File
end Mirrord
