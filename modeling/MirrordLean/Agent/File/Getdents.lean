import MirrordLean.Agent.File.Close

/-!
# mirrord agent - Directory enumeration with getdents64

{lit}`FileManager::getdents64` serves the {lit}`getdents64` syscall of the
layer: the first call on a directory id creates a stream that yields
{lit}`.`, {lit}`..` and then the listing, and every call answers the entries
that fit in the caller's buffer, the stream keeping the rest for the next
call.  The caller keeps calling until it gets no entries.

The stream is a list iterator under its {lit}`Peekable` cache
({lit}`GetDEnts64Peekable.pending`), and one call takes {lit}`takeBatch` of
the items to come: the entries while the next item converted and fits.  An
item that did not convert, or an entry larger than the buffer, stops the
batch and stays in the stream: the loop's {lit}`.transpose()?` never sees an
error, so the call answers {lit}`Ok`.

Main results:

- Theorem {lit}`getdents64_stored`: one call on a stored stream, as
  {lit}`takeBatch` of the items to come.
- Theorem {lit}`responses_getdents64_stored`: a run of calls, as the
  successive batches of the items to come.
- Theorem {lit}`getdents64_enumerates_directory_once`: when every item
  converts and every buffer holds the largest record, successive calls list
  {lit}`.`, {lit}`..` and the listing once each, in order, at positions
  0, 1, 2, ..., and answer no entries from the end on.
- Theorem {lit}`getdents64_reports_false_end`: an item that did not convert,
  or a record larger than the buffer, gets an empty {lit}`Ok` answer, the one
  that ends the caller's listing, and an item that did not convert gets it for
  every later call.
- Theorem {lit}`responses_getdents64_of_metadata_error`: so a directory whose
  own metadata cannot be read lists nothing at all, since its {lit}`.` is the
  first item.

Current gaps:

- {lit}`result_size` is a {lit}`u64` in the source and a {lit}`Nat` here: it
  could wrap only after a single batch of more than 2^48 entries, more than
  the agent can hold in memory.
- {lit}`DirEntryInternal::get_d_reclen64` is the parameter {lit}`reclen`.
-/

namespace Mirrord
namespace File
namespace FileManager

variable (os : Os) (reclen : DirEntryInternal → Nat)

/-! ## One call -/

/-- On an id with a stored stream, {lit}`getdents64` answers {lit}`takeBatch`
of the items to come, and no entries once they are all out; it never answers
an error, and the stream keeps the items left. -/
theorem getdents64_stored (s : FileManager) (fd bufferSize : Nat) {p : GetDEnts64Peekable}
    (hs : s.getdentsStreams fd = some p) (hp : p.Coherent) :
    ∃ p' : GetDEnts64Peekable,
      s.getdents64 os reclen fd bufferSize =
          (.ok ⟨fd, (takeBatch reclen bufferSize 0 p.pending).1,
              (takeBatch reclen bufferSize 0 p.pending).2.1⟩,
            { s with getdentsStreams := s.getdentsStreams.insert fd p' }) ∧
        p'.pending = (takeBatch reclen bufferSize 0 p.pending).2.2 ∧ p'.Coherent := by
  obtain ⟨hhead, hpend, hcoh⟩ := p.peek_pending hp
  unfold getdents64 getOrCreateGetdents64Stream
  simp only [hs]
  rcases hk : p.peek GetDEnts64Stream.next with ⟨head, (p₁ : GetDEnts64Peekable)⟩
  rw [hk] at hhead hpend hcoh
  dsimp only at hhead hpend hcoh ⊢
  cases hq : p.pending with
  | nil =>
    rw [hq, List.head?_nil] at hhead
    rw [hq] at hpend
    subst hhead
    exact ⟨p₁, rfl, hpend, hcoh⟩
  | cons item rest =>
    rw [hq, List.head?_cons] at hhead
    subst hhead
    have hlen : p₁.pending.length < p₁.remaining + 1 :=
      Nat.lt_succ_of_le p₁.length_pending_le
    obtain ⟨h1, h2, h3⟩ := getdents64Loop_eq reclen bufferSize _ p₁ hcoh hlen 0 []
    rw [hpend, hq] at h1 h2
    rcases hl : getdents64Loop reclen bufferSize (p₁.remaining + 1) p₁ 0 [] with ⟨result, p₂⟩
    rw [hl] at h1 h2 h3
    subst h1
    exact ⟨p₂, rfl, h2, h3⟩

/-- {lit}`get_or_create_getdents64_stream` on a directory id without a stream
stores a new stream over its listing. -/
theorem getOrCreateGetdents64Stream_of_directory (s : FileManager) {fd : Nat} {dir : PathBuf}
    {listing : List (Except IoError DirEntry)} (hnone : s.getdentsStreams fd = none)
    (hdir : s.openFiles fd = some (.directory dir)) (hlisting : os.readDir dir = .ok listing) :
    s.getOrCreateGetdents64Stream os fd =
      (.ok (Peekable.new (GetDEnts64Stream.new listing (getCurrentAndParentEntries os dir))),
        { s with getdentsStreams := s.getdentsStreams.insert fd (Peekable.new
          (GetDEnts64Stream.new listing (getCurrentAndParentEntries os dir))) }) := by
  simp [getOrCreateGetdents64Stream, hnone, hdir, hlisting]

/-- A call that finds or creates a stream answers as if it had found the stream
stored. -/
theorem getdents64_of_getOrCreate {s s' : FileManager} {fd : Nat} {p : GetDEnts64Peekable}
    (h : s.getOrCreateGetdents64Stream os fd = (.ok p, s'))
    (hs' : s'.getdentsStreams fd = some p) (bufferSize : Nat) :
    s.getdents64 os reclen fd bufferSize = s'.getdents64 os reclen fd bufferSize := by
  have h' : s'.getOrCreateGetdents64Stream os fd = (.ok p, s') := by
    simp [getOrCreateGetdents64Stream, hs']
  simp only [getdents64, h, h']

/-! ## Successive calls -/

/-- The batches successive calls take, one buffer size each, from the items
to come: entries and {lit}`result_size`. -/
def batches : List Nat → List (Except IoError DirEntryInternal) →
    List (List DirEntryInternal × Nat)
  | [], _ => []
  | n :: sizes, items =>
      ((takeBatch reclen n 0 items).1, (takeBatch reclen n 0 items).2.1) ::
        batches sizes (takeBatch reclen n 0 items).2.2

/-- The responses of a run of {lit}`GetDEnts64` calls on an id with a stored
stream: the successive batches of its items. -/
theorem responses_getdents64_stored (fd : Nat) (sizes : List Nat) :
    ∀ (s : FileManager) {p : GetDEnts64Peekable}, s.getdentsStreams fd = some p → p.Coherent →
      s.responses reclen (sizes.map fun n => (os, .getDEnts64 fd n)) =
        (batches reclen sizes p.pending).map fun b => .ok (some (.getDEnts64 (.ok ⟨fd, b.1, b.2⟩))) := by
  induction sizes with
  | nil => intros; rfl
  | cons n sizes ih =>
    intro s p hs hp
    obtain ⟨p', heq, hpend, hcoh⟩ := getdents64_stored os reclen s fd n hs hp
    simp only [List.map_cons, FileManager.responses, handleMessage, heq, batches] at ih ⊢
    rw [ih _ (Table.insert_self _ _ _) hcoh, hpend]

/-! ## Enumerating a directory whose entries all convert -/

/-- The listing's entries as the stream converts them: in listing order, at
the positions from {lit}`start` on. -/
def listedEntries : Nat → List DirEntry → List DirEntryInternal
  | _, [] => []
  | start, e :: rest => ⟨e.inode, start, e.name, e.fileType⟩ :: listedEntries (start + 1) rest

theorem convertFrom_map_ok (start : Nat) (listing : List DirEntry) :
    convertFrom start (listing.map .ok) = (listedEntries start listing).map .ok := by
  induction listing generalizing start with
  | nil => rfl
  | cons e rest ih =>
    simp [convertFrom, listedEntries, ih, DirEntryInternal.tryFrom, logErr]

theorem positions_listedEntries (start : Nat) (listing : List DirEntry) :
    (listedEntries start listing).map (·.position) = List.range' start listing.length := by
  induction listing generalizing start with
  | nil => rfl
  | cons e rest ih => simp [listedEntries, ih, List.range'_succ]

/-- One {lit}`getdents64` batch out of the entries still to come: a prefix of
them, whose record lengths add up to its {lit}`result_size` within the
buffer, that stops only at their end or before an entry that does not fit. -/
structure IsBatch (bufferSize : Nat) (rest : List DirEntryInternal) (b : GetDEnts64Response) :
    Prop where
  prefix_rest : b.entries <+: rest
  resultSize_eq : b.resultSize = (b.entries.map reclen).sum
  resultSize_le : b.resultSize ≤ bufferSize
  stops : ∀ e ∈ (rest.drop b.entries.length).head?, bufferSize < reclen e + b.resultSize

/-- Successive batches of one id, one per buffer size, each out of the entries
the ones before left. -/
def IsEnumeration (fd : Nat) :
    List DirEntryInternal → List Nat → List GetDEnts64Response → Prop
  | _, [], [] => True
  | rest, n :: sizes, b :: bs =>
      b.fd = fd ∧ IsBatch reclen n rest b ∧ IsEnumeration fd (rest.drop b.entries.length) sizes bs
  | _, _, _ => False

/-- On entries that all converted, a batch is the longest prefix that fits. -/
theorem takeBatch_map_ok (bufferSize : Nat) :
    ∀ (entries : List DirEntryInternal) (resultSize : Nat), ∃ k ≤ entries.length,
      takeBatch reclen bufferSize resultSize (entries.map .ok) =
          (entries.take k, resultSize + ((entries.take k).map reclen).sum,
            (entries.drop k).map .ok) ∧
        (resultSize ≤ bufferSize →
          resultSize + ((entries.take k).map reclen).sum ≤ bufferSize) ∧
        ∀ e ∈ (entries.drop k).head?,
          bufferSize < reclen e + (resultSize + ((entries.take k).map reclen).sum)
  | [], resultSize => ⟨0, le_rfl, by simp [takeBatch]⟩
  | e :: rest, resultSize => by
    by_cases hfit : reclen e + resultSize ≤ bufferSize
    · obtain ⟨k, hk, heq, hle, hstop⟩ :=
        takeBatch_map_ok bufferSize rest (resultSize + reclen e)
      have hsum : resultSize + (((e :: rest).take (k + 1)).map reclen).sum =
          resultSize + reclen e + ((rest.take k).map reclen).sum := by simp [Nat.add_assoc]
      refine ⟨k + 1, by simpa using hk, ?_, fun _ => ?_, ?_⟩
      · simp only [List.map_cons, takeBatch, if_pos hfit, heq, hsum]
        simp
      · rw [hsum]; exact hle (by omega)
      · rw [hsum]; simpa using hstop
    · refine ⟨0, Nat.zero_le _, ?_, fun h => by simpa using h, ?_⟩
      · simp [takeBatch, hfit]
      · simp only [List.drop_zero, List.head?_cons, Option.mem_def, Option.some.injEq]
        rintro _ rfl
        simp only [List.take_zero, List.map_nil, List.sum_nil, Nat.add_zero]
        omega

/-- Successive calls on entries that all converted form an enumeration. -/
theorem isEnumeration_batches (fd : Nat) : ∀ (sizes : List Nat) (entries : List DirEntryInternal),
    IsEnumeration reclen fd entries sizes
      ((batches reclen sizes (entries.map .ok)).map fun b => ⟨fd, b.1, b.2⟩)
  | [], _ => trivial
  | n :: sizes, entries => by
    obtain ⟨k, hk, heq, hle, hstop⟩ := takeBatch_map_ok reclen n entries 0
    have hlen : (entries.take k).length = k := List.length_take_of_le hk
    simp only [batches, heq, List.map_cons]
    rw [IsEnumeration]
    refine ⟨rfl, ⟨List.take_prefix _ _, Nat.zero_add _, hle (Nat.zero_le _), ?_⟩, ?_⟩
    · simpa only [hlen] using hstop
    · simpa only [hlen] using isEnumeration_batches fd sizes (entries.drop k)

variable {reclen}

/-- An enumeration's entries are a prefix of the entries to come. -/
theorem IsEnumeration.flatMap_prefix {fd : Nat} :
    ∀ {rest : List DirEntryInternal} {sizes : List Nat} {bs : List GetDEnts64Response},
      IsEnumeration reclen fd rest sizes bs → bs.flatMap (·.entries) <+: rest
  | _, [], [], _ => List.nil_prefix
  | rest, _ :: _, b :: _, ⟨_, hb, h⟩ => by
    obtain ⟨t, ht⟩ := hb.prefix_rest
    have := h.flatMap_prefix
    rw [← ht, List.drop_left] at this
    rw [List.flatMap_cons, ← ht]
    exact (List.prefix_append_right_inj _).2 this
  | _, [], _ :: _, h => h.elim
  | _, _ :: _, [], h => h.elim

/-- With every buffer at least as large as every record to come, a batch is
empty only once nothing is left. -/
theorem IsBatch.eq_nil_of_entries_eq_nil {n : Nat} {rest : List DirEntryInternal}
    {b : GetDEnts64Response} (h : IsBatch reclen n rest b) (hfit : ∀ e ∈ rest, reclen e ≤ n)
    (hb : b.entries = []) : rest = [] := by
  cases rest with
  | nil => rfl
  | cons e rest =>
    have := h.stops e (by simp [hb])
    rw [h.resultSize_eq, hb] at this
    have := hfit e (List.mem_cons_self _ _)
    simp at *
    omega

/-- With every buffer at least as large as every record to come, an empty
batch ends the enumeration: the batches before it hold every entry, and every
batch after it is empty. -/
theorem IsEnumeration.empty_batch {fd : Nat} {b : GetDEnts64Response}
    (hb : b.entries = []) : ∀ {rest : List DirEntryInternal} {sizes : List Nat}
      {pre post : List GetDEnts64Response},
      IsEnumeration reclen fd rest sizes (pre ++ b :: post) →
      (∀ n ∈ sizes, ∀ e ∈ rest, reclen e ≤ n) →
      pre.flatMap (·.entries) = rest ∧ ∀ b' ∈ post, b'.entries = []
  | rest, n :: sizes, [], post, ⟨_, hbatch, h⟩, hfit => by
    have hnil := hbatch.eq_nil_of_entries_eq_nil (hfit n (List.mem_cons_self _ _)) hb
    subst hnil
    refine ⟨rfl, fun b' hb' => ?_⟩
    have := h.flatMap_prefix
    simp only [List.drop_nil, List.prefix_nil, List.flatMap_eq_nil_iff] at this
    exact this b' hb'
  | rest, n :: sizes, b₀ :: pre, post, ⟨_, hb₀, h⟩, hfit => by
    obtain ⟨ih, hpost⟩ := IsEnumeration.empty_batch hb h fun n' hn' e he =>
      hfit n' (List.mem_cons_of_mem _ hn') e (List.mem_of_mem_drop he)
    obtain ⟨t, ht⟩ := hb₀.prefix_rest
    refine ⟨?_, hpost⟩
    rw [List.flatMap_cons, ih, ← ht, List.drop_left]
  | _, [], [], _, h, _ => h.elim
  | _, [], _ :: _, _, h, _ => h.elim

variable (reclen)

/-- {lit}`.` and {lit}`..` as {lit}`get_current_and_parent_entries` converts
them: {lit}`.` at position 0 and, when the directory has a parent, {lit}`..`
at position 1. -/
theorem currentAndParent_of_ok {dir : PathBuf} {dots : List DirEntryInternal}
    (hdots : getCurrentAndParentEntries os dir = dots.map .ok) :
    dots.map (fun e => (e.position, e.name)) =
      if dir.parent.isSome then [(0, "."), (1, "..")] else [(0, ".")] := by
  have hmap : ∀ (path : PathBuf) (position : Nat) (name : String) (d : DirEntryInternal),
      (os.metadata path).map (fun m => (⟨m.inode, position, name, dtDir⟩ : DirEntryInternal)) =
        .ok d → d.position = position ∧ d.name = name := by
    intro path position name d h
    cases hm : os.metadata path <;> simp only [hm, Except.map, reduceCtorEq, Except.ok.injEq] at h
    exact ⟨h ▸ rfl, h ▸ rfl⟩
  simp only [getCurrentAndParentEntries] at hdots
  cases hp : dir.parent <;> simp only [hp] at hdots
  · obtain ⟨d₀, rfl⟩ : ∃ d₀, dots = [d₀] := by
      rcases dots with _ | ⟨d₀, _ | _⟩ <;> simp at hdots
      exact ⟨d₀, rfl⟩
    simp only [List.map_cons, List.map_nil, List.cons.injEq, and_true] at hdots
    obtain ⟨h₀, h₁⟩ := hmap _ _ _ _ hdots
    simp [h₀, h₁]
  · obtain ⟨d₀, d₁, rfl⟩ : ∃ d₀ d₁, dots = [d₀, d₁] := by
      rcases dots with _ | ⟨d₀, _ | ⟨d₁, _ | _⟩⟩ <;> simp at hdots
      exact ⟨d₀, d₁, rfl⟩
    simp only [List.map_cons, List.map_nil, List.cons.injEq, and_true] at hdots
    obtain ⟨h₀, h₁⟩ := hmap _ _ _ _ hdots.1
    obtain ⟨h₂, h₃⟩ := hmap _ _ _ _ hdots.2
    simp [h₀, h₁, h₂, h₃]

/-- The entries {lit}`getdents64` lists for a directory whose {lit}`.`,
{lit}`..` and listing all convert are at positions 0, 1, 2, .... -/
theorem positions_enumeration {dir : PathBuf} {dots : List DirEntryInternal}
    (hdots : getCurrentAndParentEntries os dir = dots.map .ok) (listing : List DirEntry) :
    (dots ++ listedEntries dots.length listing).map (·.position) =
      List.range (dots.length + listing.length) := by
  have hshape := currentAndParent_of_ok os hdots
  have hdots' : dots.map (·.position) = List.range dots.length := by
    have hpos : dots.map (·.position) = (if dir.parent.isSome then [(0, "."), (1, "..")]
        else [(0, ".")]).map Prod.fst := by
      rw [← hshape, List.map_map]; rfl
    have hlen : dots.length = (if dir.parent.isSome then [(0, "."), (1, "..")]
        else [(0, ".")]).length := by
      rw [← hshape, List.length_map]
    rw [hpos, hlen]
    split <;> rfl
  rw [List.map_append, hdots', positions_listedEntries, List.range_eq_range', List.range_eq_range',
    Nat.add_comm, ← List.range'_append_1, Nat.zero_add]

/-- From the first {lit}`GetDEnts64` on a directory id without a stream, a run
of calls answers the successive batches of {lit}`.`, {lit}`..` and the
converted listing. -/
theorem responses_getdents64_of_directory (s : FileManager) {fd : Nat} {dir : PathBuf}
    {listing : List (Except IoError DirEntry)} (hnone : s.getdentsStreams fd = none)
    (hdir : s.openFiles fd = some (.directory dir)) (hlisting : os.readDir dir = .ok listing)
    (sizes : List Nat) :
    s.responses reclen (sizes.map fun n => (os, .getDEnts64 fd n)) =
      (batches reclen sizes (getCurrentAndParentEntries os dir ++
          convertFrom (getCurrentAndParentEntries os dir).length listing)).map
        fun b => .ok (some (.getDEnts64 (.ok ⟨fd, b.1, b.2⟩))) := by
  have hcreate := getOrCreateGetdents64Stream_of_directory os s hnone hdir hlisting
  have hstored : ({ s with getdentsStreams := s.getdentsStreams.insert fd (Peekable.new
      (GetDEnts64Stream.new listing (getCurrentAndParentEntries os dir))) } :
        FileManager).getdentsStreams fd =
      some (Peekable.new (GetDEnts64Stream.new listing (getCurrentAndParentEntries os dir))) :=
    Table.insert_self _ _ _
  rw [← GetDEnts64Peekable.pending_new, ← responses_getdents64_stored os reclen fd sizes _ hstored
    (GetDEnts64Peekable.coherent_new _)]
  cases sizes with
  | nil => rfl
  | cons n sizes =>
    simp only [List.map_cons, FileManager.responses, handleMessage,
      getdents64_of_getOrCreate os reclen hcreate hstored n]

/-- Directory enumeration with {lit}`getdents64`.  Take a directory id with no
stream yet, whose listing converts entry by entry and whose {lit}`.` and
{lit}`..` convert to {lit}`dots`.  For any buffer sizes that each hold the
largest record, successive {lit}`GetDEnts64` calls answer batches that each
take, from the entries still to come, the longest prefix that fits, with
{lit}`result_size` the sum of its record lengths.  The entries to come are
{lit}`.`, {lit}`..` when the directory has a parent, and the listing in its
order, at positions 0, 1, 2, ...; the batches hold a prefix of them, all of
them before the first empty batch, and every batch after an empty one is
empty. -/
theorem getdents64_enumerates_directory_once (s : FileManager) (fd : Nat) (dir : PathBuf)
    (listing : List DirEntry) (dots : List DirEntryInternal)
    (hdir : s.openFiles fd = some (.directory dir)) (hnone : s.getdentsStreams fd = none)
    (hlisting : os.readDir dir = .ok (listing.map .ok))
    (hdots : getCurrentAndParentEntries os dir = dots.map .ok) (sizes : List Nat)
    (hsizes : ∀ n ∈ sizes, ∀ e ∈ dots ++ listedEntries dots.length listing, reclen e ≤ n) :
    dots.map (fun e => (e.position, e.name)) =
        (if dir.parent.isSome then [(0, "."), (1, "..")] else [(0, ".")]) ∧
      (dots ++ listedEntries dots.length listing).map (·.position) =
        List.range (dots.length + listing.length) ∧
      ∃ batches : List GetDEnts64Response,
        s.responses reclen (sizes.map fun n => (os, .getDEnts64 fd n)) =
          batches.map (fun b => .ok (some (.getDEnts64 (.ok b)))) ∧
        IsEnumeration reclen fd (dots ++ listedEntries dots.length listing) sizes batches ∧
        batches.flatMap (·.entries) <+: dots ++ listedEntries dots.length listing ∧
        ∀ pre b post, batches = pre ++ b :: post → b.entries = [] →
          pre.flatMap (·.entries) = dots ++ listedEntries dots.length listing ∧
          ∀ b' ∈ post, b'.entries = [] := by
  have hitems : getCurrentAndParentEntries os dir ++
      convertFrom (getCurrentAndParentEntries os dir).length (listing.map .ok) =
        (dots ++ listedEntries dots.length listing).map .ok := by
    rw [hdots, List.length_map, convertFrom_map_ok, List.map_append]
  have henum := isEnumeration_batches reclen fd sizes (dots ++ listedEntries dots.length listing)
  refine ⟨currentAndParent_of_ok os hdots, positions_enumeration os hdots listing, _, ?_, henum,
    henum.flatMap_prefix, fun pre b post hbs hb => IsEnumeration.empty_batch hb
      (hbs ▸ henum : IsEnumeration reclen fd _ sizes (pre ++ b :: post)) hsizes⟩
  rw [responses_getdents64_of_directory os reclen s hnone hdir hlisting, hitems, List.map_map]
  rfl

/-! ## A false end of directory -/

/-- Behind an item that did not convert, every batch is empty. -/
theorem batches_error (e : IoError) (rest : List (Except IoError DirEntryInternal)) :
    ∀ sizes : List Nat, batches reclen sizes (.error e :: rest) = sizes.map fun _ => ([], 0)
  | [] => rfl
  | n :: sizes => by simp [batches, takeBatch, batches_error e rest sizes]

/-- A {lit}`GetDEnts64` on a stored stream whose next item did not convert, or
holds a record larger than the buffer, answers {lit}`Ok` with no entries and
{lit}`result_size` 0, the answer the caller takes for the end of the
directory, and the stream keeps the item and everything after it; when the
item did not convert, every later call answers the same, so the entries after
it are never listed. -/
theorem getdents64_reports_false_end (s : FileManager) (fd : Nat) {p : GetDEnts64Peekable}
    (hs : s.getdentsStreams fd = some p) (hp : p.Coherent)
    (item : Except IoError DirEntryInternal) (rest : List (Except IoError DirEntryInternal))
    (hnext : p.pending = item :: rest) (bufferSize : Nat)
    (hstuck : fitsBuffer reclen bufferSize 0 item = false) :
    (∃ p' : GetDEnts64Peekable,
      s.getdents64 os reclen fd bufferSize =
          (.ok ⟨fd, [], 0⟩, { s with getdentsStreams := s.getdentsStreams.insert fd p' }) ∧
        p'.pending = item :: rest) ∧
      ∀ (e : IoError) (sizes : List Nat), item = .error e →
        s.responses reclen (sizes.map fun n => (os, .getDEnts64 fd n)) =
          sizes.map fun _ => .ok (some (.getDEnts64 (.ok ⟨fd, [], 0⟩))) := by
  refine ⟨?_, fun e sizes he => ?_⟩
  · obtain ⟨p', heq, hpend, -⟩ := getdents64_stored os reclen s fd bufferSize hs hp
    rw [hnext, takeBatch_of_fitsBuffer_eq_false reclen hstuck] at heq hpend
    exact ⟨p', heq, hpend⟩
  · rw [responses_getdents64_stored os reclen fd sizes s hs hp, hnext, he, batches_error,
      List.map_map]
    rfl

/-- When {lit}`std::fs::metadata` of the directory fails, its {lit}`.` did not
convert and comes first in the new stream, so every {lit}`GetDEnts64` call on
a directory id with no stream yet answers no entries: none of {lit}`.`,
{lit}`..` or the listing is ever listed, however well the listing converts. -/
theorem responses_getdents64_of_metadata_error (s : FileManager) {fd : Nat} {dir : PathBuf}
    {listing : List (Except IoError DirEntry)} (hnone : s.getdentsStreams fd = none)
    (hdir : s.openFiles fd = some (.directory dir)) (hlisting : os.readDir dir = .ok listing)
    {e : IoError} (hmeta : os.metadata dir = .error e) (sizes : List Nat) :
    s.responses reclen (sizes.map fun n => (os, .getDEnts64 fd n)) =
      sizes.map fun _ => .ok (some (.getDEnts64 (.ok ⟨fd, [], 0⟩))) := by
  obtain ⟨rest, hdot⟩ : ∃ rest, getCurrentAndParentEntries os dir = .error e :: rest :=
    ⟨_, by simp only [getCurrentAndParentEntries, hmeta]; rfl⟩
  rw [responses_getdents64_of_directory os reclen s hnone hdir hlisting, hdot, List.cons_append,
    batches_error, List.map_map]
  rfl

/-! ## Sessions on one directory -/

/-- A host on which every directory lists {lit}`listing`, every path is a
directory of inode 2, and nothing is a link. -/
def directoryHost (listing : List (Except IoError DirEntry)) : Os where
  isSymlink _ := false
  readLink _ := .error ⟨.other, "not a link"⟩
  openFile _ _ := .ok 3
  fileMetadata _ := .ok ⟨true, 2⟩
  metadata _ := .ok ⟨true, 2⟩
  symlinkMetadata _ := .ok ⟨true, 2⟩
  read _ _ := .error ⟨.other, "is a directory"⟩
  readAt _ _ _ := .error ⟨.other, "is a directory"⟩
  write _ _ := .error ⟨.other, "is a directory"⟩
  writeAt _ _ _ := .error ⟨.other, "is a directory"⟩
  seek _ _ := .ok 0
  mkdir _ _ := .ok ()
  removeDir _ := .ok ()
  unlink _ := .ok ()
  unlinkat _ _ _ := .ok ()
  access _ _ := .ok ()
  fstatfs _ := .ok ⟨0, 0⟩
  statfs _ := .ok ⟨0, 0⟩
  readDir _ := .ok listing
  readLink_rootFirst _ _ h := nomatch h

/-- A new file manager with id 0 the directory {lit}`/d`. -/
def dirDState : FileManager :=
  { new none with openFiles := (new none).openFiles.insert 0 (.directory dirD) }

/-- The regular files {lit}`a` and {lit}`b`. -/
def filesAB : List DirEntry := [⟨10, "a", 8⟩, ⟨11, "b", 8⟩]

/-- {lit}`.` and {lit}`..` of {lit}`/d` on {lit}`directoryHost`. -/
def dotsD : List DirEntryInternal := [⟨2, 0, ".", dtDir⟩, ⟨2, 1, "..", dtDir⟩]

theorem getdents64_enumerates_directory_once_filesAB :
    dirDState.openFiles 0 = some (.directory dirD) ∧ dirDState.getdentsStreams 0 = none ∧
      (directoryHost (filesAB.map .ok)).readDir dirD = .ok (filesAB.map .ok) ∧
      getCurrentAndParentEntries (directoryHost (filesAB.map .ok)) dirD = dotsD.map .ok ∧
      (∀ n ∈ [48, 48, 48], ∀ e ∈ dotsD ++ listedEntries dotsD.length filesAB,
        (fun _ => 24) e ≤ n) ∧
      (dotsD.map (fun e => (e.position, e.name)) =
          (if dirD.parent.isSome then [(0, "."), (1, "..")] else [(0, ".")]) ∧
        (dotsD ++ listedEntries dotsD.length filesAB).map (·.position) =
          List.range (dotsD.length + filesAB.length) ∧
        ∃ batches : List GetDEnts64Response,
          dirDState.responses (fun _ => 24)
              ([48, 48, 48].map fun n => (directoryHost (filesAB.map .ok), .getDEnts64 0 n)) =
            batches.map (fun b => .ok (some (.getDEnts64 (.ok b)))) ∧
          IsEnumeration (fun _ => 24) 0 (dotsD ++ listedEntries dotsD.length filesAB)
            [48, 48, 48] batches ∧
          batches.flatMap (·.entries) <+: dotsD ++ listedEntries dotsD.length filesAB ∧
          ∀ pre b post, batches = pre ++ b :: post → b.entries = [] →
            pre.flatMap (·.entries) = dotsD ++ listedEntries dotsD.length filesAB ∧
            ∀ b' ∈ post, b'.entries = []) :=
  ⟨rfl, rfl, rfl, rfl, by decide,
    getdents64_enumerates_directory_once (directoryHost (filesAB.map .ok)) (fun _ => 24) dirDState
      0 dirD filesAB dotsD rfl rfl rfl rfl [48, 48, 48] (by decide)⟩

/-- {lit}`directoryHost` with {lit}`std::fs::metadata` failing on every path. -/
def noMetadataHost (listing : List (Except IoError DirEntry)) : Os :=
  { directoryHost listing with metadata := fun _ => .error ⟨.other, "permission denied"⟩ }

theorem getdents64_lists_nothing_without_metadata :
    dirDState.openFiles 0 = some (.directory dirD) ∧ dirDState.getdentsStreams 0 = none ∧
      (noMetadataHost (filesAB.map .ok)).readDir dirD = .ok (filesAB.map .ok) ∧
      dirDState.responses (fun _ => 24)
          ([48, 48, 48].map fun n => (noMetadataHost (filesAB.map .ok), .getDEnts64 0 n)) =
        [48, 48, 48].map fun _ => .ok (some (.getDEnts64 (.ok ⟨0, [], 0⟩))) := by
  have hdir : dirDState.openFiles 0 = some (.directory dirD) := rfl
  have hnone : dirDState.getdentsStreams 0 = none := rfl
  exact ⟨hdir, hnone, rfl, responses_getdents64_of_metadata_error _ _ _ hnone hdir rfl rfl _⟩

/-- A name the host cannot convert. -/
def badName : IoError := ⟨.other, "invalid UTF-8 in file name"⟩

/-- The listing {lit}`a`, an entry whose name does not convert, {lit}`b`. -/
def listingABad : List (Except IoError DirEntry) := [.ok ⟨10, "a", 8⟩, .error badName, .ok ⟨11, "b", 8⟩]

/-- The session after one {lit}`GetDEnts64(0, 4096)` on {lit}`/d` listing
{lit}`listingABad`, which answered {lit}`.`, {lit}`..` and {lit}`a`. -/
def afterFirstCall : FileManager :=
  (dirDState.handleMessage (directoryHost listingABad) (fun _ => 24) (.getDEnts64 0 4096)).2

example : (dirDState.handleMessage (directoryHost listingABad) (fun _ => 24) (.getDEnts64 0 4096)).1 =
    .ok (some (.getDEnts64 (.ok ⟨0, dotsD ++ [⟨10, 2, "a", 8⟩], 72⟩))) := rfl

theorem getdents64_reports_false_end_listingABad :
    afterFirstCall.getdentsStreams 0 =
        some ⟨⟨[.ok ⟨11, "b", 8⟩], [], 4⟩, some (some (.error badName))⟩ ∧
      GetDEnts64Peekable.Coherent ⟨⟨[.ok ⟨11, "b", 8⟩], [], 4⟩, some (some (.error badName))⟩ ∧
      GetDEnts64Peekable.pending ⟨⟨[.ok ⟨11, "b", 8⟩], [], 4⟩, some (some (.error badName))⟩ =
        [.error badName, .ok ⟨11, 4, "b", 8⟩] ∧
      fitsBuffer (fun _ => 24) 4096 0 (.error badName) = false ∧
      ((∃ p' : GetDEnts64Peekable,
          afterFirstCall.getdents64 (directoryHost listingABad) (fun _ => 24) 0 4096 =
            (.ok ⟨0, [], 0⟩,
              { afterFirstCall with getdentsStreams := afterFirstCall.getdentsStreams.insert 0 p' }) ∧
          p'.pending = [.error badName, .ok ⟨11, 4, "b", 8⟩]) ∧
        ∀ (e : IoError) (sizes : List Nat),
          (Except.error badName : Except IoError DirEntryInternal) = .error e →
          afterFirstCall.responses (fun _ => 24)
              (sizes.map fun n => (directoryHost listingABad, .getDEnts64 0 n)) =
            sizes.map fun _ => .ok (some (.getDEnts64 (.ok ⟨0, [], 0⟩)))) :=
  ⟨rfl, nofun, rfl, rfl,
    getdents64_reports_false_end (directoryHost listingABad) (fun _ => 24) afterFirstCall 0 rfl nofun
      (.error badName) [.ok ⟨11, 4, "b", 8⟩] rfl 4096 rfl⟩

end FileManager
end File
end Mirrord
