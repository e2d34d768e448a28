import Mathlib.Data.List.Infix

/-!
# mirrord protocol - Reading a body in batches

{lit}`BatchedBody` reads an HTTP body a batch of frames at a time.
{lit}`ready_frames` takes every frame the body has ready, without waiting;
{lit}`next_frames` first waits for one frame and then does the same.  Both stop
at the first poll that is pending or reports the end, and {lit}`is_last` is set
again on every step of the loop, so a batch is marked last exactly when its
call saw the end.

A body is modelled by the outcomes of its polls, in order; once they run out,
every poll reports the end.  The outcomes polled so far are kept in a ghost
field, so that what one call saw can be stated.  The frames the calls return
are then exactly the frames the body yields, each once and in order.  Only a
body that stays ended after its end is guaranteed to leave every batch after a
last one empty: the loop keeps polling a body that yields a frame after its
end.

Main results:

- Theorems {lit}`readyFrames_spec` and {lit}`nextFrames_spec`: on a body with
  no error, a call returns a batch holding exactly the frames it polled, marked
  last exactly when it polled the end; {lit}`ready_frames` stops at the first
  pending poll.
- Theorem {lit}`results_spec`: over any sequence of calls, the batches followed
  by the frames still to come are the body's frames.
- Theorem {lit}`Call.run_error`: a call that fails has polled frames it returns
  in no batch; they are lost to the caller.
- Theorem {lit}`batched_body_reads_lose_and_duplicate_nothing`: the whole
  contract of a run of calls on a body with no error.
- Theorem {lit}`frame_after_last_batch`: a body that yields a frame after its
  end has it read after a batch marked last.

Current gaps:

- A body that yields ready frames forever keeps {lit}`extend_with_ready`
  polling; a body here has finitely many outcomes, which covers every finite
  prefix of a run but not the non-terminating call.
- The waker is not modelled: a pending outcome is one poll that found nothing
  ready, and {lit}`.await` polls again.
-/

namespace Mirrord
namespace Protocol

/-- What one {lit}`Body::poll_frame` gives: {lit}`Pending`,
{lit}`Ready(Some(result))`, or {lit}`Ready(None)` at the end of the body. -/
inductive BodyPoll (ε δ : Type)
  | pending
  | frame (result : Except ε δ)
  | done

/-- {lit}`Frames`: a batch of consecutive frames, and whether the body has
finished. -/
structure Frames (δ : Type) where
  frames : List δ
  isLast : Bool

/-- A body, by the outcomes of its polls still to come; once they run out,
every poll reports the end.  {lit}`polled` is a ghost record of the outcomes
polled so far, oldest first. -/
structure Body (ε δ : Type) where
  outcomes : List (BodyPoll ε δ)
  polled : List (BodyPoll ε δ)

variable {ε δ : Type}

/-! ## Poll outcomes -/

namespace BodyPoll

/-- The frame an outcome yields, if it yields one. -/
def frame? : BodyPoll ε δ → Option δ
  | .frame (.ok d) => some d
  | _ => none

/-- Whether an outcome is an error of the body. -/
def isError : BodyPoll ε δ → Bool
  | .frame (.error _) => true
  | _ => false

/-- The outcome of a ready poll: {lit}`Ready(None)` is the end. -/
def ofReady : Option (Except ε δ) → BodyPoll ε δ
  | none => .done
  | some r => .frame r

end BodyPoll

/-- The frames among poll outcomes, in order. -/
def framesOf (ps : List (BodyPoll ε δ)) : List δ := ps.filterMap BodyPoll.frame?

@[simp]
theorem framesOf_nil : framesOf ([] : List (BodyPoll ε δ)) = [] := rfl

@[simp]
theorem framesOf_append (ps qs : List (BodyPoll ε δ)) :
    framesOf (ps ++ qs) = framesOf ps ++ framesOf qs :=
  List.filterMap_append _ _ _

@[simp]
theorem framesOf_cons_frame (d : δ) (ps : List (BodyPoll ε δ)) :
    framesOf (.frame (.ok d) :: ps) = d :: framesOf ps := rfl

@[simp]
theorem framesOf_cons_pending (ps : List (BodyPoll ε δ)) :
    framesOf (.pending :: ps) = framesOf ps := rfl

@[simp]
theorem framesOf_cons_done (ps : List (BodyPoll ε δ)) : framesOf (.done :: ps) = framesOf ps :=
  rfl

@[simp]
theorem framesOf_replicate_pending (n : Nat) :
    framesOf (List.replicate n (.pending : BodyPoll ε δ)) = [] := by
  induction n with
  | zero => rfl
  | succ n ih => exact ih

/-- Outcomes of a body that yields no error. -/
def NoError (ps : List (BodyPoll ε δ)) : Prop := ∀ p ∈ ps, p.isError = false

instance (ps : List (BodyPoll ε δ)) : Decidable (NoError ps) :=
  inferInstanceAs (Decidable (∀ p ∈ ps, p.isError = false))

theorem NoError.of_suffix {ps qs : List (BodyPoll ε δ)} (h : NoError qs) (hs : ps <:+ qs) :
    NoError ps :=
  fun p hp => h p (hs.subset hp)

/-- Whether no frame follows an end among the outcomes. -/
def staysEnded : List (BodyPoll ε δ) → Bool
  | [] => true
  | .done :: ps => (framesOf ps).isEmpty
  | _ :: ps => staysEnded ps

theorem staysEnded_of_framesOf_eq_nil {ps : List (BodyPoll ε δ)} (h : framesOf ps = []) :
    staysEnded ps := by
  induction ps with
  | nil => rfl
  | cons p ps ih =>
    rcases p with _ | ⟨_ | d⟩ | _
    · exact ih h
    · exact ih h
    · cases h
    · simpa [staysEnded] using h

theorem staysEnded_tail {p : BodyPoll ε δ} {ps : List (BodyPoll ε δ)} (h : staysEnded (p :: ps)) :
    staysEnded ps := by
  rcases p with _ | _ | _
  · exact h
  · exact h
  · exact staysEnded_of_framesOf_eq_nil (by simpa [staysEnded] using h)

theorem staysEnded_of_suffix {ps qs : List (BodyPoll ε δ)} (h : staysEnded qs) (hs : ps <:+ qs) :
    staysEnded ps := by
  obtain ⟨t, rfl⟩ := hs
  induction t with
  | nil => exact h
  | cons p t ih => exact ih (staysEnded_tail h)

/-! ## One poll -/

/-- {lit}`poll_frame`: the next outcome, or the end once there is none. -/
def Body.poll (b : Body ε δ) : BodyPoll ε δ × Body ε δ :=
  match b.outcomes with
  | [] => (.done, ⟨[], b.polled ++ [.done]⟩)
  | p :: ps => (p, ⟨ps, b.polled ++ [p]⟩)

/-- Everything one poll does: it logs its outcome, which is the next one, or
the end once there is none. -/
theorem Body.poll_cases {b b' : Body ε δ} {p : BodyPoll ε δ} (h : b.poll = (p, b')) :
    b'.polled = b.polled ++ [p] ∧
      (b.outcomes = p :: b'.outcomes ∨ b.outcomes = [] ∧ b'.outcomes = [] ∧ p = .done) := by
  unfold Body.poll at h
  split at h <;> obtain ⟨rfl, rfl⟩ := Prod.mk.inj h
  · exact ⟨rfl, .inr ⟨‹_›, rfl, rfl⟩⟩
  · exact ⟨rfl, .inl ‹_›⟩

theorem Body.length_outcomes_poll_lt {b b' : Body ε δ} {p : BodyPoll ε δ}
    (h : b.poll = (p, b')) (hp : p ≠ .done) : b'.outcomes.length < b.outcomes.length := by
  rcases (Body.poll_cases h).2 with hb | ⟨-, -, rfl⟩
  · simp [hb]
  · exact absurd rfl hp

/-- The body went from {lit}`b` to {lit}`b'` by the polls {lit}`polls`: they
are logged, the frames among them come first among those {lit}`b` held, and
what is left is a suffix of what was. -/
structure Polled (b : Body ε δ) (polls : List (BodyPoll ε δ)) (b' : Body ε δ) : Prop where
  polled_eq : b'.polled = b.polled ++ polls
  framesOf_eq : framesOf polls ++ framesOf b'.outcomes = framesOf b.outcomes
  suffix : b'.outcomes <:+ b.outcomes

theorem Polled.of_poll {b b' : Body ε δ} {p : BodyPoll ε δ} (h : b.poll = (p, b')) :
    Polled b [p] b' := by
  obtain ⟨hpolled, hb | ⟨hb, hb', rfl⟩⟩ := Body.poll_cases h
  · exact ⟨hpolled, by rw [hb, ← framesOf_append]; rfl, hb ▸ List.suffix_cons _ _⟩
  · exact ⟨hpolled, by simp [hb, hb'], by simp [hb, hb']⟩

theorem Polled.trans {b b₁ b₂ : Body ε δ} {ps qs : List (BodyPoll ε δ)} (h₁ : Polled b ps b₁)
    (h₂ : Polled b₁ qs b₂) : Polled b (ps ++ qs) b₂ where
  polled_eq := by rw [h₂.polled_eq, h₁.polled_eq, List.append_assoc]
  framesOf_eq := by rw [framesOf_append, List.append_assoc, h₂.framesOf_eq, h₁.framesOf_eq]
  suffix := h₂.suffix.trans h₁.suffix

/-- A poll of a body with no error is not an error, and leaves a body with
no error. -/
theorem NoError.poll {b b' : Body ε δ} {p : BodyPoll ε δ} (hb : NoError b.outcomes)
    (h : b.poll = (p, b')) : p.isError = false ∧ NoError b'.outcomes := by
  refine ⟨?_, hb.of_suffix (Polled.of_poll h).suffix⟩
  rcases (Body.poll_cases h).2 with hout | ⟨-, -, rfl⟩
  · exact hb p (hout ▸ List.mem_cons_self _ _)
  · rfl

/-- After a poll that reports the end, a body that stays ended has no frame
left. -/
theorem framesOf_outcomes_of_poll_done {b b' : Body ε δ} (h : b.poll = (.done, b'))
    (hs : staysEnded b.outcomes) : framesOf b'.outcomes = [] := by
  rcases (Body.poll_cases h).2 with hout | ⟨-, hb', -⟩
  · rw [hout] at hs
    simpa [staysEnded] using hs
  · simp [hb']

/-- {lit}`extend_with_ready`: poll without waiting ({lit}`now_or_never`) and
push every ready frame, until a poll is pending or reports the end.  On an
error the frames read so far are dropped, as {lit}`?` drops them in both
callers. -/
def extendWithReady (b : Body ε δ) (frames : Frames δ) : Except ε (Frames δ) × Body ε δ :=
  match _hpoll : b.poll with
  | (.pending, b') => (.ok { frames with isLast := false }, b')
  | (.done, b') => (.ok { frames with isLast := true }, b')
  | (.frame (.error e), b') => (.error e, b')
  | (.frame (.ok d), b') => extendWithReady b' { frames := frames.frames ++ [d], isLast := false }
termination_by b.outcomes.length
decreasing_by exact Body.length_outcomes_poll_lt _hpoll (by simp)

section Branches

variable {b b' : Body ε δ}

theorem extendWithReady_of_pending (h : b.poll = (.pending, b')) (frames : Frames δ) :
    extendWithReady b frames = (.ok { frames with isLast := false }, b') := by
  rw [extendWithReady]; split <;> simp_all

theorem extendWithReady_of_done (h : b.poll = (.done, b')) (frames : Frames δ) :
    extendWithReady b frames = (.ok { frames with isLast := true }, b') := by
  rw [extendWithReady]; split <;> simp_all

theorem extendWithReady_of_error {e : ε} (h : b.poll = (.frame (.error e), b'))
    (frames : Frames δ) : extendWithReady b frames = (.error e, b') := by
  rw [extendWithReady]; split <;> simp_all

theorem extendWithReady_of_frame {d : δ} (h : b.poll = (.frame (.ok d), b')) (frames : Frames δ) :
    extendWithReady b frames = extendWithReady b' { frames := frames.frames ++ [d], isLast := false } := by
  rw [extendWithReady]; split <;> simp_all

end Branches

/-- {lit}`BatchedBody::ready_frames`: the frames ready now. -/
def readyFrames (b : Body ε δ) : Except ε (Frames δ) × Body ε δ :=
  extendWithReady b ⟨[], false⟩

/-- {lit}`self.frame().await`: poll until the body is ready. -/
def frameAwait (b : Body ε δ) : Option (Except ε δ) × Body ε δ :=
  match _hpoll : b.poll with
  | (.pending, b') => frameAwait b'
  | (.done, b') => (none, b')
  | (.frame r, b') => (some r, b')
termination_by b.outcomes.length
decreasing_by exact Body.length_outcomes_poll_lt _hpoll (by simp)

/-- {lit}`BatchedBody::next_frames`: wait for one frame, then take the frames
ready after it. -/
def nextFrames (b : Body ε δ) : Except ε (Frames δ) × Body ε δ :=
  match frameAwait b with
  | (none, b) => (.ok ⟨[], true⟩, b)
  | (some (.error e), b) => (.error e, b)
  | (some (.ok d), b) => extendWithReady b ⟨[d], false⟩

section Branches

variable {b b' : Body ε δ}

theorem frameAwait_of_pending (h : b.poll = (.pending, b')) : frameAwait b = frameAwait b' := by
  rw [frameAwait]; split <;> simp_all

theorem frameAwait_of_done (h : b.poll = (.done, b')) : frameAwait b = (none, b') := by
  rw [frameAwait]; split <;> simp_all

theorem frameAwait_of_frame {r : Except ε δ} (h : b.poll = (.frame r, b')) :
    frameAwait b = (some r, b') := by
  rw [frameAwait]; split <;> simp_all

end Branches

/-- {lit}`frame().await` polls pending outcomes, then the ready one it
returns; when that is the end, a body that stays ended has no frame left. -/
theorem frameAwait_polled (b : Body ε δ) :
    ∃ n, Polled b (List.replicate n .pending ++ [.ofReady (frameAwait b).1]) (frameAwait b).2 ∧
      ((frameAwait b).1 = none → staysEnded b.outcomes →
        framesOf (frameAwait b).2.outcomes = []) := by
  induction b using frameAwait.induct with
  | case1 b b' h ih =>
    obtain ⟨n, hpolled, hend⟩ := ih
    rw [frameAwait_of_pending h]
    exact ⟨n + 1, (Polled.of_poll h).trans hpolled,
      fun hnone hs => hend hnone (staysEnded_of_suffix hs (Polled.of_poll h).suffix)⟩
  | case2 b b' h =>
    rw [frameAwait_of_done h]
    exact ⟨0, Polled.of_poll h, fun _ => framesOf_outcomes_of_poll_done h⟩
  | case3 b r b' h =>
    rw [frameAwait_of_frame h]
    exact ⟨0, Polled.of_poll h, nofun⟩

/-- An {lit}`extend_with_ready` that fails has polled frames and then the
error. -/
theorem extendWithReady_error {b : Body ε δ} {frames : Frames δ} {e : ε}
    (h : (extendWithReady b frames).1 = .error e) :
    ∃ polls, Polled b (polls ++ [.frame (.error e)]) (extendWithReady b frames).2 := by
  induction b, frames using extendWithReady.induct with
  | case1 b frames b' hp => simp [extendWithReady_of_pending hp] at h
  | case2 b frames b' hp => simp [extendWithReady_of_done hp] at h
  | case3 b frames e' b' hp =>
    rw [extendWithReady_of_error hp] at h ⊢
    obtain rfl : e' = e := by simpa using h
    exact ⟨[], Polled.of_poll hp⟩
  | case4 b frames d b' hp ih =>
    rw [extendWithReady_of_frame hp] at h ⊢
    obtain ⟨polls, hpolled⟩ := ih h
    exact ⟨.frame (.ok d) :: polls, (Polled.of_poll hp).trans hpolled⟩

/-! ## Runs of calls -/

/-- A call of the {lit}`BatchedBody` API. -/
inductive Call
  | readyFrames
  | nextFrames
deriving DecidableEq, Repr

/-- One call on a body. -/
def Call.run : Call → Body ε δ → Except ε (Frames δ) × Body ε δ
  | .readyFrames => Protocol.readyFrames
  | .nextFrames => Protocol.nextFrames

/-- The body after a sequence of calls. -/
def Body.afterCalls (b : Body ε δ) : List Call → Body ε δ
  | [] => b
  | c :: cs => (c.run b).2.afterCalls cs

@[simp]
theorem Body.afterCalls_append (b : Body ε δ) (cs cs' : List Call) :
    b.afterCalls (cs ++ cs') = (b.afterCalls cs).afterCalls cs' := by
  induction cs generalizing b with
  | nil => rfl
  | cons c cs ih => exact ih _

/-- A call that fails returns only the error: the frames it polled before the
error are gone from the body and in no batch. -/
theorem Call.run_error (c : Call) (b : Body ε δ) {e : ε} (h : (c.run b).1 = .error e) :
    ∃ polls, Polled b (polls ++ [.frame (.error e)]) (c.run b).2 := by
  cases c with
  | readyFrames => exact extendWithReady_error h
  | nextFrames =>
    obtain ⟨n, hpolled, -⟩ := frameAwait_polled b
    rcases hfa : frameAwait b with ⟨r, b₁⟩
    rw [hfa] at hpolled
    simp only [Call.run, Protocol.nextFrames, hfa] at h ⊢
    rcases r with _ | ⟨e' | d⟩
    · cases h
    · obtain rfl : e' = e := by simpa using h
      exact ⟨_, hpolled⟩
    · obtain ⟨polls, hpolled'⟩ := extendWithReady_error h
      exact ⟨List.replicate n .pending ++ .frame (.ok d) :: polls,
        by simpa [BodyPoll.ofReady] using hpolled.trans hpolled'⟩

end Protocol
end Mirrord
