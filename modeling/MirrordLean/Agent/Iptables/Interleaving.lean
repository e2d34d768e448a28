import MirrordLean.Agent.Iptables.Chain

/-!
# mirrord agent - Two add_rule calls at once

{lit}`add_rule` takes {lit}`&self`, so two threads can run it on one handle at
the same time.  Each call is three atomic steps: the {lit}`fetch_add` on the
counter, the {lit}`insert_rule` at the fetched index, and then the
{lit}`load` that is returned on success or the {lit}`fetch_sub` that rolls
back on failure.  This module runs two such calls under every interleaving of
their steps, the environment answering each insert.

Main results:

- Structure {lit}`TwoCalls.Counts`: the counter is the chain's rules plus the
  calls that have fetched and not yet inserted, and each inserted rule is in
  the chain; every step keeps it ({lit}`TwoCalls.Counts.run`).
- Theorem {lit}`TwoCalls.chainSize_of_returned`: once both calls have
  returned, under any interleaving, the counter is the number of rules and
  each call that returned {lit}`Ok` has its rule in the chain.
- Theorem {lit}`add_rules_interleaved_leave_rule_after_return`: when the call
  with the higher index inserts first, it appends after RETURN, and both calls
  still return {lit}`Ok`; the count of {lit}`chainSize_of_returned` holds all
  the same.
-/

namespace Mirrord
namespace Iptables

/-- Where an {lit}`add_rule` call is: before its {lit}`fetch_add`, holding the
fetched index, after a successful insert before the {lit}`load`, after a
failed insert before the {lit}`fetch_sub`, or returned with its result. -/
inductive AddRulePc
  | start
  | fetched (index : BitVec 32)
  | inserted
  | failed (e : IPTablesError)
  | returnedOk (size : BitVec 32)
  | returnedError (e : IPTablesError)
deriving DecidableEq, Repr

/-- The two threads calling {lit}`add_rule`. -/
inductive Caller
  | a
  | b
deriving DecidableEq, Repr

namespace AddRulePc

/-- Whether the call's {lit}`fetch_add` counts in the counter: fetched and not
rolled back. -/
def fetches : AddRulePc → Nat
  | .start | .returnedError _ => 0
  | _ => 1

/-- Whether the call's rule is in the chain. -/
def inserts : AddRulePc → Nat
  | .inserted | .returnedOk _ => 1
  | _ => 0

/-- Whether the call has returned. -/
def isReturned : AddRulePc → Bool
  | .returnedOk _ | .returnedError _ => true
  | _ => false

end AddRulePc

/-- Two {lit}`add_rule` calls on one handle: the table, the handle with its
shared counter, and each call's rule and place. -/
structure TwoCalls where
  table : NatTable
  chain : IPTableChain
  rule : Caller → String
  pc : Caller → AddRulePc

namespace TwoCalls

open IPTableChain (Tracks ofNat_add_one)

/-- The two calls before their first step. -/
def init (t : NatTable) (c : IPTableChain) (ruleA ruleB : String) : TwoCalls :=
  ⟨t, c, fun | .a => ruleA | .b => ruleB, fun _ => .start⟩

/-- The state with one call moved to a new place. -/
def setPc (s : TwoCalls) (i : Caller) (p : AddRulePc) : TwoCalls :=
  { s with pc := fun j => if j = i then p else s.pc j }

/-- One atomic step of a call, with the environment's answer to an insert. -/
def step (s : TwoCalls) (i : Caller) (ok : Bool) : TwoCalls :=
  match s.pc i with
  | .start =>
      { s with chain := { s.chain with chainSize := s.chain.chainSize + 1 } }.setPc i
        (.fetched s.chain.chainSize)
  | .fetched index =>
      match s.table.insertRule s.chain.chainName (s.rule i) index.toInt ok with
      | .ok t => { s with table := t }.setPc i .inserted
      | .error e => s.setPc i (.failed e)
  | .inserted => s.setPc i (.returnedOk s.chain.chainSize)
  | .failed e =>
      { s with chain := { s.chain with chainSize := s.chain.chainSize - 1 } }.setPc i
        (.returnedError e)
  | .returnedOk _ | .returnedError _ => s

/-- An interleaving: which call steps, and the environment's answer, in
order. -/
def run (s : TwoCalls) (schedule : List (Caller × Bool)) : TwoCalls :=
  schedule.foldl (fun s e => s.step e.1 e.2) s

@[simp] theorem setPc_table (s : TwoCalls) (i : Caller) (p : AddRulePc) :
    (s.setPc i p).table = s.table := rfl
@[simp] theorem setPc_chain (s : TwoCalls) (i : Caller) (p : AddRulePc) :
    (s.setPc i p).chain = s.chain := rfl
@[simp] theorem setPc_rule (s : TwoCalls) (i : Caller) (p : AddRulePc) :
    (s.setPc i p).rule = s.rule := rfl
@[simp] theorem setPc_pc (s : TwoCalls) (i : Caller) (p : AddRulePc) :
    (s.setPc i p).pc = fun j => if j = i then p else s.pc j := rfl

/-! ## What the counter counts -/

/-- The sum of a quantity over both calls. -/
def total (f : AddRulePc → Nat) (pc : Caller → AddRulePc) : Nat := f (pc .a) + f (pc .b)

theorem total_update (f : AddRulePc → Nat) (pc : Caller → AddRulePc) (i : Caller)
    (p : AddRulePc) : total f (fun j => if j = i then p else pc j) + f (pc i) = total f pc + f p := by
  cases i <;> simp [total] <;> omega

/-- The counter is the chain's rules and the fetches not yet inserted or
rolled back; the chain grows by the inserted rules, each of which is in it. -/
structure Counts (s : TwoCalls) (n : Nat) : Prop where
  chainSize_eq : s.chain.chainSize = BitVec.ofNat 32 (n + total AddRulePc.fetches s.pc)
  rules_eq : ∃ rs, s.table.rules s.chain.chainName = some rs ∧
    rs.length = n + total AddRulePc.inserts s.pc ∧
    ∀ i, (s.pc i).inserts = 1 → s.rule i ∈ rs

/-- A step that moves one call to a new place keeps the count when the
counter moves with the call's fetches and the chain with its inserts, keeping
the rules it had. -/
theorem Counts.of_step {s s' : TwoCalls} {n : Nat} (h : Counts s n) {i : Caller} {p : AddRulePc}
    (hpc : s'.pc = fun j => if j = i then p else s.pc j) (hrule : s'.rule = s.rule)
    (hname : s'.chain.chainName = s.chain.chainName)
    (hsize : s'.chain.chainSize =
      s.chain.chainSize + BitVec.ofNat 32 p.fetches - BitVec.ofNat 32 (s.pc i).fetches)
    (htable : ∀ rs, s.table.rules s.chain.chainName = some rs →
      (∀ j, (s.pc j).inserts = 1 → s.rule j ∈ rs) →
      ∃ rs', s'.table.rules s.chain.chainName = some rs' ∧
        rs'.length + (s.pc i).inserts = rs.length + p.inserts ∧ (∀ x ∈ rs, x ∈ rs') ∧
        (p.inserts = 1 → s.rule i ∈ rs')) :
    Counts s' n := by
  obtain ⟨hsize₀, rs, hrs, hlen, hmem⟩ := h
  obtain ⟨rs', hrs', hlen', hkeep, hnew⟩ := htable rs hrs hmem
  have hf := total_update AddRulePc.fetches s.pc i p
  have hi := total_update AddRulePc.inserts s.pc i p
  refine ⟨?_, rs', hname ▸ hrs', ?_, fun j hj => ?_⟩
  · rw [hsize, hsize₀, BitVec.ofNat_add_ofNat, Nat.add_assoc, ← hf, ← Nat.add_assoc,
      ← BitVec.ofNat_add_ofNat, BitVec.add_sub_cancel, hpc]
  · rw [hpc]; omega
  · rw [hrule]
    rw [hpc] at hj
    by_cases hji : j = i
    · subst hji; exact hnew (by simpa using hj)
    · simp only [hji, if_false] at hj
      exact hkeep _ (hmem j hj)

/-- Every atomic step keeps the count. -/
theorem Counts.step {s : TwoCalls} {n : Nat} (h : Counts s n) (i : Caller) (ok : Bool) :
    Counts (s.step i ok) n := by
  unfold TwoCalls.step
  split
  · rename_i hpc
    exact h.of_step rfl rfl rfl (by simp [hpc, AddRulePc.fetches, BitVec.add_sub_cancel])
      fun rs hrs _ => ⟨rs, hrs, by simp [hpc, AddRulePc.inserts], fun _ hx => hx, nofun⟩
  · rename_i index hpc
    split
    · rename_i t ht
      obtain ⟨rs₀, rs', hrs₀, -, hins, rfl⟩ := NatTable.edit_eq_ok.1 ht
      refine h.of_step rfl rfl rfl (by simp [hpc, AddRulePc.fetches, BitVec.add_sub_cancel]) fun rs hrs _ => ?_
      rw [hrs] at hrs₀
      cases hrs₀
      obtain ⟨hlen', hin, hkeep⟩ := NatTable.insertAt_eq_some hins
      exact ⟨rs', by simp [NatTable.rules_setRules, hrs], by simp [hpc, AddRulePc.inserts, hlen'],
        hkeep, fun _ => hin⟩
    · exact h.of_step rfl rfl rfl (by simp [hpc, AddRulePc.fetches, BitVec.add_sub_cancel])
        fun rs hrs _ => ⟨rs, hrs, by simp [hpc, AddRulePc.inserts], fun _ hx => hx, nofun⟩
  · rename_i hpc
    exact h.of_step rfl rfl rfl (by simp [hpc, AddRulePc.fetches, BitVec.add_sub_cancel]) fun rs hrs hmem =>
      ⟨rs, hrs, by simp [hpc, AddRulePc.inserts], fun _ hx => hx,
        fun _ => hmem i (by simp [hpc, AddRulePc.inserts])⟩
  · rename_i e hpc
    exact h.of_step rfl rfl rfl (by simp [hpc, AddRulePc.fetches, BitVec.add_sub_cancel])
      fun rs hrs _ => ⟨rs, hrs, by simp [hpc, AddRulePc.inserts], fun _ hx => hx, nofun⟩
  · exact h
  · exact h

/-- Every interleaving keeps the count. -/
theorem Counts.run {s : TwoCalls} {n : Nat} (h : Counts s n) (schedule : List (Caller × Bool)) :
    Counts (s.run schedule) n := by
  induction schedule generalizing s with
  | nil => exact h
  | cons e schedule ih => exact ih (h.step e.1 e.2)

/-- Two calls on a tracked handle start out counted. -/
theorem Counts.init {c : IPTableChain} {t : NatTable} {rs : List String} (h : Tracks c t rs)
    (ruleA ruleB : String) : Counts (init t c ruleA ruleB) (rs.length + 1) :=
  ⟨by simp [TwoCalls.init, total, AddRulePc.fetches, h.chainSize_eq],
    ⟨_, h.rules_eq, by simp [TwoCalls.init, total, AddRulePc.inserts], fun i hi => by
      cases i <;> simp [TwoCalls.init, AddRulePc.inserts] at hi⟩⟩

@[simp]
theorem step_chainName (s : TwoCalls) (i : Caller) (ok : Bool) :
    (s.step i ok).chain.chainName = s.chain.chainName := by
  unfold step
  split
  · rfl
  · split <;> rfl
  all_goals rfl

@[simp]
theorem run_chainName (s : TwoCalls) (schedule : List (Caller × Bool)) :
    (s.run schedule).chain.chainName = s.chain.chainName := by
  induction schedule generalizing s with
  | nil => rfl
  | cons e schedule ih => exact (ih _).trans (step_chainName s e.1 e.2)

theorem fetches_eq_inserts {p : AddRulePc} (h : p.isReturned = true) : p.fetches = p.inserts := by
  cases p <;> simp_all [AddRulePc.isReturned, AddRulePc.fetches, AddRulePc.inserts]

/-- Under any interleaving of two calls on a tracked handle, once both have
returned the counter is the number of rules in the chain, and each call that
returned {lit}`Ok` has its rule in the chain. -/
theorem chainSize_of_returned {c : IPTableChain} {t : NatTable} {rs : List String}
    (h : Tracks c t rs) (ruleA ruleB : String) (schedule : List (Caller × Bool))
    (hret : ∀ i, (((init t c ruleA ruleB).run schedule).pc i).isReturned = true) :
    ∃ rules, ((init t c ruleA ruleB).run schedule).table.rules c.chainName = some rules ∧
      ((init t c ruleA ruleB).run schedule).chain.chainSize = BitVec.ofNat 32 rules.length ∧
      ∀ i size, ((init t c ruleA ruleB).run schedule).pc i = .returnedOk size →
        ((init t c ruleA ruleB).run schedule).rule i ∈ rules := by
  obtain ⟨hsize, rules, hrules, hlen, hmem⟩ := (Counts.init h ruleA ruleB).run schedule
  simp only [run_chainName] at hrules
  refine ⟨rules, hrules, ?_, fun i size hi => hmem i (by simp [hi, AddRulePc.inserts])⟩
  rw [hsize, hlen]
  simp only [total, fetches_eq_inserts (hret .a), fetches_eq_inserts (hret .b)]

/-! ## The racing inserts -/

/-- Two calls adding redirects to a new {lit}`MIRRORD_INPUT` in the built-in
table: A fetches index 1 and B index 2, B inserts first, then A, then both
return. -/
def racingAdds : TwoCalls :=
  (init (IPTableChain.create IPTableChain.builtinNat "MIRRORD_INPUT" true true).1 ⟨"MIRRORD_INPUT", 1⟩
    "-m tcp -p tcp --dport 80 -j REDIRECT --to-ports 8080"
    "-m tcp -p tcp --dport 81 -j REDIRECT --to-ports 8081").run
    [(.a, true), (.b, true), (.b, true), (.a, true), (.a, true), (.b, true)]

/-- In that interleaving both calls return {lit}`Ok` and the counter matches
the three rules, but B's insert at index 2 came when the chain held RETURN
alone, so B's rule sits after RETURN, where no packet reaches it.  What holds
under every interleaving on a created chain is the count: once both calls have
returned, the counter is the number of rules, and each call that returned
{lit}`Ok` has its rule somewhere in the chain. -/
theorem add_rules_interleaved_leave_rule_after_return :
    racingAdds.pc .a = .returnedOk 3 ∧ racingAdds.pc .b = .returnedOk 3 ∧
      racingAdds.table.rules "MIRRORD_INPUT" =
        some ["-m tcp -p tcp --dport 80 -j REDIRECT --to-ports 8080", returnRule,
          "-m tcp -p tcp --dport 81 -j REDIRECT --to-ports 8081"] ∧
      ∀ t chainName okNew okAppend t₁ c,
        IPTableChain.create t chainName okNew okAppend = (t₁, .ok c) →
        ∀ ruleA ruleB schedule,
          (∀ i, (((init t₁ c ruleA ruleB).run schedule).pc i).isReturned = true) →
          ∃ rules, ((init t₁ c ruleA ruleB).run schedule).table.rules chainName = some rules ∧
            ((init t₁ c ruleA ruleB).run schedule).chain.chainSize = BitVec.ofNat 32 rules.length ∧
            ∀ i size, ((init t₁ c ruleA ruleB).run schedule).pc i = .returnedOk size →
              ((init t₁ c ruleA ruleB).run schedule).rule i ∈ rules := by
  refine ⟨by decide, by decide, by decide, fun t chainName okNew okAppend t₁ c hcreate => ?_⟩
  obtain ⟨htracks, rfl, -, -⟩ := IPTableChain.Tracks.create hcreate
  exact chainSize_of_returned htracks

end TwoCalls
end Iptables
end Mirrord
