import MirrordLean.Agent.File.Protocol

/-!
# mirrord agent - Directory streams

The file manager keeps two kinds of directory iterator.  A directory stream
({lit}`Enumerate<ReadDir>`) serves {lit}`ReadDir` and {lit}`ReadDirBatch`.  A
{lit}`getdents64` stream first yields the synthetic entries for {lit}`.` and
{lit}`..`, then the listing, numbering every item with a running index; it is
wrapped in a {lit}`Peekable` so that {lit}`getdents64` can look at the next
entry before deciding whether it fits in the caller's buffer.

Main results:

- Definition {lit}`GetDEnts64Stream.next`: {lit}`Iterator::next` of the
  {lit}`getdents64` stream, index bookkeeping included.
- Definitions {lit}`Peekable.peek` and {lit}`Peekable.nextIf`: the standard
  library's peeking adaptor, with its cached lookahead.
- Definition {lit}`getdents64Loop`: the {lit}`while let` loop of
  {lit}`getdents64`.

Current gaps:

- A listing is the sequence {lit}`ReadDir` yields, fixed when the stream is
  created.
-/

namespace Mirrord
namespace File

/-! ## Directory streams -/

/-- {lit}`Enumerate<ReadDir>`: the rest of a listing and the number of items
already yielded. -/
structure DirStream where
  rest : List (Except IoError DirEntry)
  count : Nat
deriving DecidableEq, Repr

/-- {lit}`path.read_dir()?.enumerate()`. -/
def DirStream.new (listing : List (Except IoError DirEntry)) : DirStream :=
  ⟨listing, 0⟩

/-- {lit}`Enumerate::next`: the next listing item with its index. -/
def DirStream.next (d : DirStream) : Option (Nat × Except IoError DirEntry) × DirStream :=
  match d.rest with
  | [] => (none, d)
  | item :: rest => (some (d.count, item), ⟨rest, d.count + 1⟩)

/-! ## The getdents64 stream -/

/-- {lit}`GetDEnts64Stream`: the listing, the pending {lit}`.` and {lit}`..`
entries, and the index the next item gets. -/
structure GetDEnts64Stream where
  inner : List (Except IoError DirEntry)
  currentAndParent : List (Except IoError DirEntryInternal)
  currentIndex : Nat
deriving DecidableEq, Repr

/-- {lit}`GetDEnts64Stream::new`. -/
def GetDEnts64Stream.new (inner : List (Except IoError DirEntry))
    (currentAndParent : List (Except IoError DirEntryInternal)) : GetDEnts64Stream :=
  ⟨inner, currentAndParent, 0⟩

/-- {lit}`log_err`: logs a failed conversion and passes the result on. -/
def logErr (entryRes : Except IoError DirEntryInternal) : Except IoError DirEntryInternal :=
  entryRes

/-- {lit}`Iterator::next` for {lit}`GetDEnts64Stream`: the pending {lit}`.` and
{lit}`..` first, then the listing converted at the running index.  The index
advances on every call, also past the end. -/
def GetDEnts64Stream.next (st : GetDEnts64Stream) :
    Option (Except IoError DirEntryInternal) × GetDEnts64Stream :=
  match st.currentAndParent with
  | entry :: rest =>
      (some entry, { st with currentAndParent := rest, currentIndex := st.currentIndex + 1 })
  | [] =>
      match st.inner with
      | [] => (none, { st with currentIndex := st.currentIndex + 1 })
      | item :: rest =>
          (some (logErr (DirEntryInternal.tryFrom st.currentIndex item)),
            { st with inner := rest, currentIndex := st.currentIndex + 1 })

/-! ## Peekable -/

/-- {lit}`std::iter::Peekable`: an iterator state and the cached lookahead
({lit}`some none` once the end has been seen). -/
structure Peekable (σ α : Type) where
  iter : σ
  peeked : Option (Option α)
deriving DecidableEq, Repr

namespace Peekable

variable {σ α : Type} (step : σ → Option α × σ)

/-- {lit}`Iterator::peekable`. -/
def new (iter : σ) : Peekable σ α := ⟨iter, none⟩

/-- {lit}`Peekable::next`: the cached item if there is one, else the
iterator's next. -/
def next (p : Peekable σ α) : Option α × Peekable σ α :=
  match p.peeked with
  | some v => (v, ⟨p.iter, none⟩)
  | none =>
      let (v, iter) := step p.iter
      (v, ⟨iter, none⟩)

/-- {lit}`Peekable::peek`: the next item, cached for the following call. -/
def peek (p : Peekable σ α) : Option α × Peekable σ α :=
  match p.peeked with
  | some v => (v, p)
  | none =>
      let (v, iter) := step p.iter
      (v, ⟨iter, some v⟩)

/-- {lit}`Peekable::next_if`: consume the next item only when it satisfies the
predicate; otherwise put it back. -/
def nextIf (f : α → Bool) (p : Peekable σ α) : Option α × Peekable σ α :=
  match p.next step with
  | (some a, p') => if f a then (some a, p') else (none, { p' with peeked := some (some a) })
  | (none, p') => (none, { p' with peeked := some none })

end Peekable

/-- The {lit}`getdents64` stream as the file manager stores it. -/
abbrev GetDEnts64Peekable := Peekable GetDEnts64Stream (Except IoError DirEntryInternal)

/-- Items a stored {lit}`getdents64` stream can still yield. -/
def GetDEnts64Peekable.remaining (p : GetDEnts64Peekable) : Nat :=
  (match p.peeked with
    | some (some _) => 1
    | _ => 0) + p.iter.currentAndParent.length + p.iter.inner.length

/-- Whether an entry fits: it converted, and its record still fits in the
buffer after {lit}`resultSize` bytes. -/
def fitsBuffer (reclen : DirEntryInternal → Nat) (bufferSize resultSize : Nat) :
    Except IoError DirEntryInternal → Bool
  | .ok entry => decide (reclen entry + resultSize ≤ bufferSize)
  | .error _ => false

/-- The {lit}`while let ... next_if(..).transpose()?` loop of {lit}`getdents64`:
take entries while the next one converts and fits, adding up their record
lengths.  {lit}`fuel` bounds the iterations; {lit}`getdents64` gives one more
than the items the stream can still yield. -/
def getdents64Loop (reclen : DirEntryInternal → Nat) (bufferSize : Nat) :
    Nat → GetDEnts64Peekable → Nat → List DirEntryInternal →
      Except IoError (List DirEntryInternal × Nat) × GetDEnts64Peekable
  | 0, p, resultSize, entries => (.ok (entries, resultSize), p)
  | fuel + 1, p, resultSize, entries =>
      match p.nextIf GetDEnts64Stream.next (fitsBuffer reclen bufferSize resultSize) with
      | (none, p') => (.ok (entries, resultSize), p')
      | (some (.error e), p') => (.error e, p')
      | (some (.ok entry), p') =>
          getdents64Loop reclen bufferSize fuel p' (resultSize + reclen entry) (entries ++ [entry])

/-! ## What the getdents64 stream yields -/

/-- The listing items from index {lit}`start` on, as {lit}`GetDEnts64Stream::next`
converts them: each at the running index it is reached at. -/
def convertFrom (start : Nat) :
    List (Except IoError DirEntry) → List (Except IoError DirEntryInternal)
  | [] => []
  | item :: rest => logErr (DirEntryInternal.tryFrom start item) :: convertFrom (start + 1) rest

@[simp]
theorem length_convertFrom (start : Nat) (listing : List (Except IoError DirEntry)) :
    (convertFrom start listing).length = listing.length := by
  induction listing generalizing start <;> simp [convertFrom, *]

/-- The items a {lit}`GetDEnts64Stream` still yields, in order: the pending
{lit}`.` and {lit}`..`, then the listing at the indices that follow them. -/
def GetDEnts64Stream.items (st : GetDEnts64Stream) : List (Except IoError DirEntryInternal) :=
  st.currentAndParent ++ convertFrom (st.currentIndex + st.currentAndParent.length) st.inner

/-- {lit}`GetDEnts64Stream::next` yields the first of its items and keeps the
rest. -/
theorem GetDEnts64Stream.next_items (st : GetDEnts64Stream) :
    st.next.1 = st.items.head? ∧ st.next.2.items = st.items.tail := by
  unfold next items
  cases hcp : st.currentAndParent with
  | cons entry rest =>
    simp only [List.cons_append, List.head?_cons, List.tail_cons, List.length_cons, true_and]
    congr 2
    omega
  | nil => cases st.inner <;> simp [convertFrom]

namespace Peekable

variable {σ α : Type} (step : σ → Option α × σ) (items : σ → List α)

/-- The iterator {lit}`step` walks the list {lit}`items`: it yields its first
item and keeps the rest. -/
def Lists : Prop :=
  ∀ st, (step st).1 = (items st).head? ∧ items (step st).2 = (items st).tail

/-- The items a peekable iterator still yields: the cached lookahead, then the
iterator's own; none after a cached end. -/
def pending (p : Peekable σ α) : List α :=
  match p.peeked with
  | some (some a) => a :: items p.iter
  | some none => []
  | none => items p.iter

/-- A cached end is the end of the iterator. -/
def Coherent (p : Peekable σ α) : Prop :=
  p.peeked = some none → items p.iter = []

/-- {lit}`next_if` on the list of items to come: the first item if it satisfies
the predicate, and the items left. -/
def takeIf (f : α → Bool) : List α → Option α × List α
  | a :: rest => if f a then (some a, rest) else (none, a :: rest)
  | [] => (none, [])

variable {step items}

theorem next_peeked (p : Peekable σ α) : (p.next step).2.peeked = none := by
  unfold next
  split
  · rfl
  · rcases step p.iter with ⟨v, iter⟩; rfl

/-- {lit}`Peekable::next` yields the first pending item and keeps the rest. -/
theorem next_pending (h : Lists step items) {p : Peekable σ α} (hp : Coherent items p) :
    (p.next step).1 = (pending items p).head? ∧
      pending items (p.next step).2 = (pending items p).tail := by
  unfold next pending
  rcases hpk : p.peeked with _ | _ | a
  · rcases hs : step p.iter with ⟨v, iter⟩
    have := h p.iter
    rw [hs] at this
    exact this
  · simp [hp hpk]
  · simp

/-- {lit}`Peekable::peek` shows the first pending item and keeps them all. -/
theorem peek_pending (h : Lists step items) {p : Peekable σ α} (hp : Coherent items p) :
    (p.peek step).1 = (pending items p).head? ∧
      pending items (p.peek step).2 = pending items p ∧ Coherent items (p.peek step).2 := by
  unfold peek
  rcases hpk : p.peeked with _ | _ | a
  · rcases hs : step p.iter with ⟨v, iter⟩
    obtain ⟨hv, hiter⟩ := h p.iter
    rw [hs] at hv hiter
    simp only [pending, hpk]
    refine ⟨hv, ?_, fun hnone => ?_⟩
    · cases hi : items p.iter with
      | nil => simp_all
      | cons a rest => simp_all
    · cases hi : items p.iter <;> simp_all
  · exact ⟨by simp [pending, hpk], rfl, fun _ => hp hpk⟩
  · exact ⟨by simp [pending, hpk], rfl, fun hnone => by simp_all⟩

/-- {lit}`Peekable::next_if` is {lit}`takeIf` on the pending items. -/
theorem nextIf_pending (h : Lists step items) {p : Peekable σ α} (hp : Coherent items p)
    (f : α → Bool) :
    ((p.nextIf step f).1, pending items (p.nextIf step f).2) = takeIf f (pending items p) ∧
      Coherent items (p.nextIf step f).2 := by
  obtain ⟨hv, hrest⟩ := next_pending h hp
  have hpk : (p.next step).2.peeked = none := next_peeked p
  unfold nextIf
  rcases hn : p.next step with ⟨v, p'⟩
  rw [hn] at hv hrest hpk
  dsimp only at hv hrest hpk
  have hp' : pending items p' = items p'.iter := by simp [pending, hpk]
  cases hq : pending items p with
  | nil =>
    rw [hq, List.head?_nil] at hv
    rw [hq, List.tail_nil] at hrest
    subst hv
    exact ⟨by simp [takeIf, pending], fun _ => hp'.symm.trans hrest⟩
  | cons a rest =>
    rw [hq, List.head?_cons] at hv
    rw [hq, List.tail_cons] at hrest
    subst hv
    by_cases hf : f a = true
    · simp only [hf, if_true, takeIf]
      exact ⟨by rw [hrest], fun hnone => absurd (hpk ▸ hnone) nofun⟩
    · simp only [hf, Bool.false_eq_true, if_false, takeIf, pending]
      exact ⟨by rw [← hp', hrest], nofun⟩

end Peekable

/-! ## The getdents64 loop on the items to come -/

/-- {lit}`GetDEnts64Stream::next` walks its items. -/
theorem GetDEnts64Stream.lists_items : Peekable.Lists GetDEnts64Stream.next GetDEnts64Stream.items :=
  fun st => st.next_items

/-- The items a stored {lit}`getdents64` stream still yields, in order. -/
def GetDEnts64Peekable.pending (p : GetDEnts64Peekable) : List (Except IoError DirEntryInternal) :=
  Peekable.pending GetDEnts64Stream.items p

/-- A stored {lit}`getdents64` stream whose cached end is the end of its
iterator. -/
def GetDEnts64Peekable.Coherent (p : GetDEnts64Peekable) : Prop :=
  Peekable.Coherent GetDEnts64Stream.items p

namespace GetDEnts64Peekable

theorem peek_pending {p : GetDEnts64Peekable} (hp : p.Coherent) :
    (p.peek GetDEnts64Stream.next).1 = p.pending.head? ∧
      pending (p.peek GetDEnts64Stream.next).2 = p.pending ∧
      Coherent (p.peek GetDEnts64Stream.next).2 :=
  Peekable.peek_pending GetDEnts64Stream.lists_items hp

theorem nextIf_pending {p : GetDEnts64Peekable} (hp : p.Coherent)
    (f : Except IoError DirEntryInternal → Bool) :
    ((p.nextIf GetDEnts64Stream.next f).1, pending (p.nextIf GetDEnts64Stream.next f).2) =
        Peekable.takeIf f p.pending ∧ Coherent (p.nextIf GetDEnts64Stream.next f).2 :=
  Peekable.nextIf_pending GetDEnts64Stream.lists_items hp f

/-- A new stream yields the pending {lit}`.` and {lit}`..`, then the listing
from the index after them. -/
theorem pending_new (listing : List (Except IoError DirEntry))
    (currentAndParent : List (Except IoError DirEntryInternal)) :
    pending (Peekable.new (GetDEnts64Stream.new listing currentAndParent)) =
      currentAndParent ++ convertFrom currentAndParent.length listing := by
  simp [pending, Peekable.pending, Peekable.new, GetDEnts64Stream.new, GetDEnts64Stream.items]

theorem coherent_new (st : GetDEnts64Stream) : Coherent (Peekable.new st) := nofun

/-- The fuel {lit}`getdents64` gives its loop covers every pending item. -/
theorem length_pending_le (p : GetDEnts64Peekable) : p.pending.length ≤ p.remaining := by
  unfold pending Peekable.pending remaining GetDEnts64Stream.items
  rcases p.peeked with _ | _ | _ <;> simp
  omega

end GetDEnts64Peekable

/-- The batch a buffer of {lit}`bufferSize` bytes takes from the items to come,
after {lit}`resultSize` bytes: the entries while the next item converted and
fits, the bytes they come to, and the items left. -/
def takeBatch (reclen : DirEntryInternal → Nat) (bufferSize : Nat) :
    Nat → List (Except IoError DirEntryInternal) →
      List DirEntryInternal × Nat × List (Except IoError DirEntryInternal)
  | resultSize, [] => ([], resultSize, [])
  | resultSize, .error e :: rest => ([], resultSize, .error e :: rest)
  | resultSize, .ok entry :: rest =>
      if reclen entry + resultSize ≤ bufferSize then
        let b := takeBatch reclen bufferSize (resultSize + reclen entry) rest
        (entry :: b.1, b.2.1, b.2.2)
      else ([], resultSize, .ok entry :: rest)

/-- A batch takes nothing when the next item did not convert or does not fit. -/
theorem takeBatch_of_fitsBuffer_eq_false (reclen : DirEntryInternal → Nat) {bufferSize resultSize : Nat}
    {item : Except IoError DirEntryInternal} (h : fitsBuffer reclen bufferSize resultSize item = false)
    (rest : List (Except IoError DirEntryInternal)) :
    takeBatch reclen bufferSize resultSize (item :: rest) = ([], resultSize, item :: rest) := by
  cases item with
  | error e => rfl
  | ok entry =>
    simp only [fitsBuffer, decide_eq_false_iff_not] at h
    simp [takeBatch, h]

/-- With fuel for every pending item, the loop of {lit}`getdents64` takes
{lit}`takeBatch` of them and never fails: an item that did not convert is put
back in the stream, not returned. -/
theorem getdents64Loop_eq (reclen : DirEntryInternal → Nat) (bufferSize : Nat) :
    ∀ (fuel : Nat) (p : GetDEnts64Peekable), p.Coherent → p.pending.length < fuel →
      ∀ resultSize entries,
        (getdents64Loop reclen bufferSize fuel p resultSize entries).1 =
            .ok (entries ++ (takeBatch reclen bufferSize resultSize p.pending).1,
              (takeBatch reclen bufferSize resultSize p.pending).2.1) ∧
          (getdents64Loop reclen bufferSize fuel p resultSize entries).2.pending =
            (takeBatch reclen bufferSize resultSize p.pending).2.2 ∧
          (getdents64Loop reclen bufferSize fuel p resultSize entries).2.Coherent
  | 0, _, _, hlen, _, _ => absurd hlen (Nat.not_lt_zero _)
  | fuel + 1, p, hp, hlen, resultSize, entries => by
    obtain ⟨hq, hcoh⟩ := p.nextIf_pending hp (fitsBuffer reclen bufferSize resultSize)
    simp only [getdents64Loop]
    rcases hn : p.nextIf GetDEnts64Stream.next (fitsBuffer reclen bufferSize resultSize) with
      ⟨r, p'⟩
    rw [hn] at hq hcoh
    simp only at hq hcoh
    cases hpend : p.pending with
    | nil =>
      simp only [hpend, Peekable.takeIf, Prod.mk.injEq] at hq
      obtain ⟨rfl, hp'⟩ := hq
      simp [takeBatch, hp', hcoh]
    | cons item rest =>
      rw [hpend] at hq hlen
      cases hfit : fitsBuffer reclen bufferSize resultSize item
      · simp only [Peekable.takeIf, hfit, Bool.false_eq_true, if_false, Prod.mk.injEq] at hq
        obtain ⟨rfl, hp'⟩ := hq
        simp [takeBatch_of_fitsBuffer_eq_false reclen hfit, hp', hcoh]
      · simp only [Peekable.takeIf, hfit, if_true, Prod.mk.injEq] at hq
        obtain ⟨rfl, hp'⟩ := hq
        cases item with
        | error e => cases hfit
        | ok entry =>
          obtain ⟨h1, h2, h3⟩ := getdents64Loop_eq reclen bufferSize fuel p' hcoh
            (by rw [hp']; simpa using hlen) (resultSize + reclen entry) (entries ++ [entry])
          rw [hp'] at h1 h2
          simp only [takeBatch, if_pos (of_decide_eq_true hfit)]
          exact ⟨by rw [h1]; simp, h2, h3⟩

end File
end Mirrord
