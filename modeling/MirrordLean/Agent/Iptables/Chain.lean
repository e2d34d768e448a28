import MirrordLean.Agent.Iptables.Table

/-!
# mirrord agent - The chain handle and its rule counter

{lit}`IPTableChain` owns one chain of the {lit}`nat` table.  It counts the
chain's rules in an {lit}`AtomicI32` so that {lit}`add_rule` can insert each
new rule just before the terminal RETURN: the counter's {lit}`fetch_add` is the
1-based index of that rule.  This module runs the handle's calls one after
the other, each iptables command answered by the environment, and shows what
the counter and the chain hold over every such run, from {lit}`create` to
{lit}`Drop`.

Main results:

- Structure {lit}`Tracks`: the chain holds the rules added so far and the
  RETURN rule, and the counter is their number as an {lit}`i32`.  Theorems
  {lit}`addRule_of_tracks` and {lit}`removeRule_of_tracks` say everything one
  call does from such a state; {lit}`Tracks.runCalls` lifts them to runs.
- Theorem {lit}`chain_size_counts_rules`: over every run, the chain is the
  successful additions and removals applied to no rules, then RETURN; the
  counter is the number of rules wrapped to 32 bits, {lit}`load` rebuilds it,
  and a failed call changes nothing.
- Theorem {lit}`chain_size_wraps_at_2_31`: after 2^31 - 1 additions the chain
  holds 2^31 rules and the counter reads -2^31.
- Theorem {lit}`load_of_missing_or_refused`: {lit}`load` of a missing chain
  succeeds with a counter of zero, since the listing's exit status is not
  read.
- Theorem {lit}`drop_restores_table`: a created chain, after any calls, is
  dropped back to the table it was created in when the removal's two commands
  go through.
- Theorem {lit}`create_leaves_chain_without_handle`: that round trip for a
  successful {lit}`create`, while a failed RETURN append leaves the new chain
  in the table with no handle, and every later {lit}`create` of the name
  fails.
-/

namespace Mirrord
namespace Iptables

/-- {lit}`IPTableChain`: the handle of a chain, by the chain's name and its
{lit}`AtomicI32` rule counter as 32 bits.  The driver behind its {lit}`Arc` is
the table each call is given. -/
structure IPTableChain where
  chainName : String
  chainSize : BitVec 32
deriving DecidableEq, Repr

namespace IPTableChain

/-- {lit}`IPTableChain::create`: the chain with its RETURN rule, and a counter
of one. -/
def create (t : NatTable) (chainName : String) (okNew okAppend : Bool) :
    NatTable × Except IPTablesError IPTableChain :=
  match t.createChain chainName okNew okAppend with
  | (t, .error e) => (t, .error e)
  | (t, .ok ()) => (t, .ok ⟨chainName, 1⟩)

/-- {lit}`IPTableChain::load`: the counter rebuilt from the listed rules, less
the chain's declaration line, taken {lit}`as i32`. -/
def load (t : NatTable) (chainName : String) (ok : Bool) : Except IPTablesError IPTableChain :=
  match t.listRules chainName ok with
  | .error e => .error e
  | .ok rules =>
      if rules.length = 0 then .error (.message ("Unable to load rules for chain " ++ chainName))
      else .ok ⟨chainName, BitVec.ofNat 32 (rules.length - 1)⟩

/-- {lit}`IPTableChain::add_rule`: the counter's {lit}`fetch_add` gives the
index the rule is inserted at; the counter is read back on success and
decremented on failure. -/
def addRule (c : IPTableChain) (t : NatTable) (rule : String) (ok : Bool) :
    IPTableChain × NatTable × Except IPTablesError (BitVec 32) :=
  let index := c.chainSize
  let c := { c with chainSize := index + 1 }
  match t.insertRule c.chainName rule index.toInt ok with
  | .ok t => (c, t, .ok c.chainSize)
  | .error e => ({ c with chainSize := c.chainSize - 1 }, t, .error e)

/-- {lit}`IPTableChain::remove_rule`: the rule is removed, then the counter
decremented. -/
def removeRule (c : IPTableChain) (t : NatTable) (rule : String) (ok : Bool) :
    IPTableChain × NatTable × Except IPTablesError Unit :=
  match t.removeRule c.chainName rule ok with
  | .error e => (c, t, .error e)
  | .ok t => ({ c with chainSize := c.chainSize - 1 }, t, .ok ())

/-- {lit}`Drop`: {lit}`remove_chain`, whose failure is ignored. -/
def drop (c : IPTableChain) (t : NatTable) (okFlush okDelete : Bool) : NatTable :=
  (t.removeChain c.chainName okFlush okDelete).1

/-- A call on the handle, with the environment's answer to its iptables
command. -/
inductive ChainCall
  | addRule (rule : String) (ok : Bool)
  | removeRule (rule : String) (ok : Bool)
deriving DecidableEq, Repr

/-- One call: the handle, the table, and whether the call returned
{lit}`Ok`. -/
def call (c : IPTableChain) (t : NatTable) : ChainCall → IPTableChain × NatTable × Bool
  | .addRule rule ok =>
      let r := c.addRule t rule ok
      (r.1, r.2.1, r.2.2.toBool)
  | .removeRule rule ok =>
      let r := c.removeRule t rule ok
      (r.1, r.2.1, r.2.2.toBool)

/-- Calls one after the other, with whether each returned {lit}`Ok`. -/
def runCalls (c : IPTableChain) (t : NatTable) : List ChainCall → IPTableChain × NatTable × List Bool
  | [] => (c, t, [])
  | op :: ops =>
      let r := c.call t op
      let rest := r.1.runCalls r.2.1 ops
      (rest.1, rest.2.1, r.2.2 :: rest.2.2)

/-! ## The chain as the spec describes it -/

/-- One call's effect on the rules before RETURN, as the spec counts it: a
successful addition appends, a successful removal deletes the first
occurrence, a failed call does nothing. -/
def ChainCall.apply (rs : List String) : ChainCall → Bool → List String
  | .addRule rule _, true => rs ++ [rule]
  | .removeRule rule _, true => rs.erase rule
  | _, false => rs

/-- The calls with their outcomes applied in order. -/
def appliedRules : List ChainCall → List Bool → List String → List String
  | op :: ops, r :: outcomes, rs => appliedRules ops outcomes (op.apply rs r)
  | _, _, rs => rs

/-! ## One call -/

/-- The handle tracks its chain: the chain holds the rules added so far and
then RETURN, and the counter is their number as an {lit}`i32`, which stays
at most 2^31. -/
structure Tracks (c : IPTableChain) (t : NatTable) (rs : List String) : Prop where
  rules_eq : t.rules c.chainName = some (rs ++ [returnRule])
  chainSize_eq : c.chainSize = BitVec.ofNat 32 (rs.length + 1)
  length_le : rs.length + 1 ≤ 2 ^ 31

theorem toInt_ofNat_of_lt {n : Nat} (h : n < 2 ^ 31) : (BitVec.ofNat 32 n).toInt = n := by
  simp only [BitVec.toInt, BitVec.toNat_ofNat]
  split <;> omega

theorem toInt_ofNat_two_pow_31 : (BitVec.ofNat 32 (2 ^ 31)).toInt = -2 ^ 31 := by decide

/-- The counter's {lit}`fetch_add(1)` adds one to the number it holds, modulo
2^32. -/
theorem ofNat_add_one (n : Nat) : BitVec.ofNat 32 n + 1 = BitVec.ofNat 32 (n + 1) := by
  apply BitVec.eq_of_toNat_eq; simp [BitVec.toNat_add]

/-- The insert at the counter's index from a tracked state: just before
RETURN, unless the binary refuses or the counter has wrapped to -2^31. -/
theorem insertRule_of_tracks {c : IPTableChain} {t : NatTable} {rs : List String}
    (h : Tracks c t rs) (rule : String) (ok : Bool) :
    t.insertRule c.chainName rule c.chainSize.toInt ok =
      if ok ∧ rs.length + 1 < 2 ^ 31 then .ok (t.setRules c.chainName (rs ++ [rule] ++ [returnRule]))
      else .error .iptables := by
  have hlen := h.length_le
  unfold NatTable.insertRule NatTable.edit
  simp only [h.rules_eq, h.chainSize_eq]
  by_cases hlt : rs.length + 1 < 2 ^ 31
  · rw [toInt_ofNat_of_lt hlt]
    cases ok
    · simp
    · rw [if_pos ⟨rfl, hlt⟩]
      simp [NatTable.insertAt_before_last]
  · rw [if_neg fun h => hlt h.2, show rs.length + 1 = 2 ^ 31 by omega, toInt_ofNat_two_pow_31]
    cases ok <;> simp [NatTable.insertAt]

/-- Everything {lit}`add_rule` does from a tracked state: with the binary's
consent and fewer than 2^31 rules, the rule lands just before RETURN and the
counter grows by one; otherwise nothing changes. -/
theorem addRule_of_tracks {c : IPTableChain} {t : NatTable} {rs : List String}
    (h : Tracks c t rs) (rule : String) (ok : Bool) :
    c.addRule t rule ok =
      if ok ∧ rs.length + 1 < 2 ^ 31 then
        (⟨c.chainName, BitVec.ofNat 32 (rs.length + 2)⟩,
          t.setRules c.chainName (rs ++ [rule] ++ [returnRule]),
          .ok (BitVec.ofNat 32 (rs.length + 2)))
      else (c, t, .error .iptables) := by
  have hsize : c.chainSize + 1 = BitVec.ofNat 32 (rs.length + 2) := by
    rw [h.chainSize_eq, ofNat_add_one]
  unfold addRule
  simp only [insertRule_of_tracks h]
  by_cases hok : ok = true ∧ rs.length + 1 < 2 ^ 31
  · simp only [if_pos hok, hsize]
  · simp only [if_neg hok, BitVec.add_sub_cancel]

/-- The delete of a rule other than RETURN from a tracked state: its first
occurrence, if the chain holds it and the binary agrees. -/
theorem removeRule_table_of_tracks {c : IPTableChain} {t : NatTable} {rs : List String}
    (h : Tracks c t rs) {rule : String} (hret : rule ≠ returnRule) (ok : Bool) :
    t.removeRule c.chainName rule ok =
      if ok ∧ rule ∈ rs then .ok (t.setRules c.chainName (rs.erase rule ++ [returnRule]))
      else .error .iptables := by
  unfold NatTable.removeRule NatTable.edit
  simp only [h.rules_eq, List.mem_append, List.mem_singleton, hret, or_false]
  by_cases hr : rule ∈ rs
  · cases ok <;> simp [hr, List.erase_append_left _ hr]
  · cases ok <;> simp [hr]

/-- Everything {lit}`remove_rule` does from a tracked state, for a rule other
than RETURN: with the binary's consent and the rule in the chain, its first
occurrence goes and the counter drops by one; otherwise nothing changes. -/
theorem removeRule_of_tracks {c : IPTableChain} {t : NatTable} {rs : List String}
    (h : Tracks c t rs) {rule : String} (hret : rule ≠ returnRule) (ok : Bool) :
    c.removeRule t rule ok =
      if ok ∧ rule ∈ rs then
        (⟨c.chainName, BitVec.ofNat 32 rs.length⟩,
          t.setRules c.chainName (rs.erase rule ++ [returnRule]), .ok ())
      else (c, t, .error .iptables) := by
  have hsize : c.chainSize - 1 = BitVec.ofNat 32 rs.length := by
    rw [h.chainSize_eq, ← ofNat_add_one, BitVec.add_sub_cancel]
  unfold removeRule
  rw [removeRule_table_of_tracks h hret]
  by_cases hok : ok = true ∧ rule ∈ rs
  · simp only [if_pos hok, hsize]
  · simp only [if_neg hok]

theorem Tracks.setRules {c : IPTableChain} {t : NatTable} {rs : List String}
    (h : Tracks c t rs) (rs' : List String) (size : BitVec 32)
    (hsize : size = BitVec.ofNat 32 (rs'.length + 1)) (hlen : rs'.length + 1 ≤ 2 ^ 31) :
    Tracks ⟨c.chainName, size⟩ (t.setRules c.chainName (rs' ++ [returnRule])) rs' :=
  ⟨by simp [NatTable.rules_setRules, h.rules_eq], hsize, hlen⟩

/-- A call from a tracked state: the new state tracks the spec's account of
the call, the chain keeps its name, no other chain changes, and a failed call
changes nothing. -/
theorem Tracks.call {c : IPTableChain} {t : NatTable} {rs : List String} (h : Tracks c t rs)
    (op : ChainCall) (hop : ∀ ok, op ≠ .removeRule returnRule ok) :
    Tracks (c.call t op).1 (c.call t op).2.1 (op.apply rs (c.call t op).2.2) ∧
      (c.call t op).1.chainName = c.chainName ∧
      (∀ n, n ≠ c.chainName → (c.call t op).2.1.rules n = t.rules n) ∧
      ((c.call t op).2.2 = false → (c.call t op).1 = c ∧ (c.call t op).2.1 = t) := by
  cases op with
  | addRule rule ok =>
    simp only [IPTableChain.call, addRule_of_tracks h]
    split
    · rename_i hok
      refine ⟨h.setRules _ _ (by simp) (by simp; omega), rfl, fun n hn => ?_, nofun⟩
      simp [NatTable.rules_setRules, hn]
    · exact ⟨h, rfl, fun _ _ => rfl, fun _ => ⟨rfl, rfl⟩⟩
  | removeRule rule ok =>
    have hret : rule ≠ returnRule := fun hr => hop ok (hr ▸ rfl)
    simp only [IPTableChain.call, removeRule_of_tracks h hret]
    split
    · rename_i hok
      have hlen : (rs.erase rule).length + 1 = rs.length := by
        rw [List.length_erase_of_mem hok.2]
        have := List.length_pos_of_mem hok.2
        omega
      refine ⟨h.setRules _ _ (by rw [hlen]) (by have := h.length_le; omega), rfl, fun n hn => ?_,
        nofun⟩
      simp [NatTable.rules_setRules, hn]
    · exact ⟨h, rfl, fun _ _ => rfl, fun _ => ⟨rfl, rfl⟩⟩

@[simp]
theorem call_chainName (c : IPTableChain) (t : NatTable) (op : ChainCall) :
    (c.call t op).1.chainName = c.chainName := by
  cases op with
  | addRule rule ok => simp only [call, addRule]; split <;> rfl
  | removeRule rule ok => simp only [call, removeRule]; split <;> rfl

@[simp]
theorem runCalls_chainName (c : IPTableChain) (t : NatTable) (calls : List ChainCall) :
    (c.runCalls t calls).1.chainName = c.chainName := by
  induction calls generalizing c t with
  | nil => rfl
  | cons op ops ih => simp [runCalls, ih]

/-- Over any calls that never remove RETURN, a tracked handle keeps tracking
its chain, as the spec's account of the calls, and the other chains stay as
they were. -/
theorem Tracks.runCalls {c : IPTableChain} {t : NatTable} {rs : List String} (h : Tracks c t rs)
    (calls : List ChainCall) (hret : ∀ ok, ChainCall.removeRule returnRule ok ∉ calls) :
    Tracks (c.runCalls t calls).1 (c.runCalls t calls).2.1
        (appliedRules calls (c.runCalls t calls).2.2 rs) ∧
      (c.runCalls t calls).1.chainName = c.chainName ∧
      ∀ n, n ≠ c.chainName → (c.runCalls t calls).2.1.rules n = t.rules n := by
  induction calls generalizing c t rs with
  | nil => exact ⟨h, rfl, fun _ _ => rfl⟩
  | cons op ops ih =>
    obtain ⟨h₁, hname, hother, -⟩ := h.call op fun ok hop => hret ok (hop ▸ .head _)
    obtain ⟨h₂, hname₂, hother₂⟩ := ih h₁ fun ok hop => hret ok (.tail _ hop)
    refine ⟨h₂, hname₂.trans hname, fun n hn => ?_⟩
    rw [hname] at hother₂
    exact (hother₂ n hn).trans (hother n hn)

/-- A successful {lit}`create` gives a handle that tracks a chain with no rule
but RETURN, and changes no other chain. -/
theorem Tracks.create {t t₁ : NatTable} {chainName : String} {okNew okAppend : Bool}
    {c : IPTableChain} (h : create t chainName okNew okAppend = (t₁, .ok c)) :
    Tracks c t₁ [] ∧ c.chainName = chainName ∧ t.rules chainName = none ∧
      ∀ n, n ≠ chainName → t₁.rules n = t.rules n := by
  have hfresh : t.rules chainName = none := by
    by_contra hne
    simp [IPTableChain.create, NatTable.createChain, NatTable.newChain, hne] at h
  unfold IPTableChain.create at h
  rw [NatTable.createChain_cases t chainName okNew okAppend hfresh] at h
  cases okNew <;> cases okAppend <;> simp at h
  obtain ⟨rfl, rfl⟩ := h
  refine ⟨⟨?_, rfl, by decide⟩, rfl, hfresh, fun n hn => ?_⟩
  · simp [NatTable.rules_setRules, NatTable.rules_addChain]
  · simp [NatTable.rules_setRules, NatTable.rules_addChain, hn]

/-- {lit}`load` of a chain the table lacks, or whose listing is refused, counts
the one empty line of the empty output and answers a handle with a counter of
zero instead of an error. -/
theorem load_of_missing_or_refused {t : NatTable} {chainName : String} {ok : Bool}
    (h : t.rules chainName = none ∨ ok = false) : load t chainName ok = .ok ⟨chainName, 0⟩ := by
  have hlist : t.listRules chainName ok = .ok [""] := by
    unfold NatTable.listRules
    rcases h with h | rfl
    · rw [h]
    · cases t.rules chainName <;> rfl
  simp [load, hlist]

/-- The nat table with its four built-in chains, empty. -/
def builtinNat : NatTable :=
  ⟨[("PREROUTING", []), ("INPUT", []), ("OUTPUT", []), ("POSTROUTING", [])], by decide⟩

/-- {lit}`create` of a name the table already holds fails and changes
nothing. -/
theorem create_of_exists {t : NatTable} {chainName : String} (h : t.rules chainName ≠ none)
    (okNew okAppend : Bool) : create t chainName okNew okAppend = (t, .error .iptables) := by
  simp [IPTableChain.create, NatTable.createChain, NatTable.newChain, h]

/-- When the RETURN append fails, {lit}`create` returns the error with the new
chain left in the table, empty: no handle owns it, and every later
{lit}`create` of the name fails. -/
theorem create_failed_append {t : NatTable} {chainName : String} (h : t.rules chainName = none) :
    (create t chainName true false).2 = .error .iptables ∧
      (create t chainName true false).1.rules chainName = some [] ∧
      (create t chainName true false).1 ≠ t ∧
      ∀ okNew okAppend,
        (create (create t chainName true false).1 chainName okNew okAppend).2 = .error .iptables := by
  have hc : create t chainName true false = (t.addChain chainName h, .error .iptables) := by
    unfold IPTableChain.create
    rw [NatTable.createChain_cases t chainName true false h]
    rfl
  have hr : (t.addChain chainName h).rules chainName = some [] := by
    simp [NatTable.rules_addChain]
  refine ⟨by rw [hc], by rw [hc, hr], fun heq => ?_, fun okNew okAppend => ?_⟩
  · have := congrArg (·.rules chainName) heq
    simp only [hc, hr, h] at this
    cases this
  · rw [hc, create_of_exists (by simp [hr])]

/-! ## Drop -/

/-- The table a call leaves: the same one, or the chain's rules replaced. -/
theorem call_table (c : IPTableChain) (t : NatTable) (op : ChainCall) :
    (c.call t op).2.1 = t ∨ ∃ rs, (c.call t op).2.1 = t.setRules c.chainName rs := by
  cases op with
  | addRule rule ok =>
    simp only [call, addRule]
    cases hi : t.insertRule c.chainName rule c.chainSize.toInt ok with
    | ok t' =>
      obtain ⟨-, rs', -, -, -, rfl⟩ := NatTable.edit_eq_ok.1 hi
      exact .inr ⟨rs', rfl⟩
    | error e => exact .inl rfl
  | removeRule rule ok =>
    simp only [call, removeRule]
    cases hi : t.removeRule c.chainName rule ok with
    | ok t' =>
      obtain ⟨-, rs', -, -, -, rfl⟩ := NatTable.edit_eq_ok.1 hi
      exact .inr ⟨rs', rfl⟩
    | error e => exact .inl rfl

/-- A chain created last in a table stays last over any calls, with only its
rules changing. -/
theorem runCalls_chains {c : IPTableChain} {t t₀ : NatTable} {x : List String}
    (h : t.chains = t₀.chains ++ [(c.chainName, x)]) (hfresh : c.chainName ∉ t₀.chains.map (·.1))
    (calls : List ChainCall) :
    ∃ y, (c.runCalls t calls).2.1.chains = t₀.chains ++ [(c.chainName, y)] := by
  induction calls generalizing c t x with
  | nil => exact ⟨x, h⟩
  | cons op ops ih =>
    have hname := call_chainName c t op
    have h₁ : ∃ y, (c.call t op).2.1.chains = t₀.chains ++ [((c.call t op).1.chainName, y)] := by
      rw [hname]
      rcases call_table c t op with ht | ⟨rs, ht⟩
      · exact ⟨x, by rw [ht]; exact h⟩
      · refine ⟨rs, ?_⟩
        rw [ht]
        show NatTable.setChain t.chains c.chainName rs = _
        rw [h, NatTable.setChain_append_last _ _ _ _ hfresh]
    obtain ⟨y, hy⟩ := h₁
    obtain ⟨z, hz⟩ := ih hy (hname ▸ hfresh)
    exact ⟨z, by simpa [runCalls] using hz⟩

/-- A created chain, after any calls on its handle, drops back to the table it
was created in when the flush and the delete go through. -/
theorem drop_restores_table {t t₁ : NatTable} {chainName : String} {okNew okAppend : Bool}
    {c : IPTableChain} (hcreate : create t chainName okNew okAppend = (t₁, .ok c))
    (calls : List ChainCall) :
    (c.runCalls t₁ calls).1.drop (c.runCalls t₁ calls).2.1 true true = t := by
  obtain ⟨h₀, hname, hfresh, -⟩ := Tracks.create hcreate
  have hfresh' := NatTable.lookupChain_eq_none.1 hfresh
  have hcreated : t₁.chains = t.chains ++ [(c.chainName, [returnRule])] := by
    unfold IPTableChain.create at hcreate
    rw [NatTable.createChain_cases t chainName okNew okAppend hfresh] at hcreate
    cases okNew <;> cases okAppend <;> simp at hcreate
    obtain ⟨rfl, rfl⟩ := hcreate
    exact NatTable.setChain_append_last _ _ _ _ hfresh'
  obtain ⟨y, hy⟩ := runCalls_chains hcreated (hname ▸ hfresh') calls
  have hrules : (c.runCalls t₁ calls).2.1.rules c.chainName = some y := by
    rw [NatTable.rules, hy, NatTable.lookupChain_append_last _ _ _ (hname ▸ hfresh')]
  apply NatTable.ext_chains
  simp only [drop, runCalls_chainName, NatTable.removeChain_cases _ _ _ _ _ hrules, if_true]
  simp only [NatTable.withoutChain, NatTable.setRules, hy,
    NatTable.setChain_append_last _ _ _ _ (hname ▸ hfresh')]
  exact NatTable.filter_append_last _ _ _ (hname ▸ hfresh')

/-- Creating {lit}`MIRRORD_INPUT` in the built-in table when the RETURN append
fails: the error comes back, the chain stays in the table, empty and with no
handle, and no later {lit}`create` of it can succeed.  A successful
{lit}`create` is the round trip: the table lacked the chain, gains it holding
RETURN alone, and gets back to where it was when the handle is dropped after
any calls. -/
theorem create_leaves_chain_without_handle :
    builtinNat.rules "MIRRORD_INPUT" = none ∧
      (∀ t chainName okNew okAppend t₁ c, create t chainName okNew okAppend = (t₁, .ok c) →
        t.rules chainName = none ∧ t₁.rules chainName = some [returnRule] ∧
          ∀ calls, (c.runCalls t₁ calls).1.drop (c.runCalls t₁ calls).2.1 true true = t) ∧
      (create builtinNat "MIRRORD_INPUT" true false).2 = .error .iptables ∧
      (create builtinNat "MIRRORD_INPUT" true false).1.rules "MIRRORD_INPUT" = some [] ∧
      (create builtinNat "MIRRORD_INPUT" true false).1 ≠ builtinNat ∧
      ∀ okNew okAppend, (create (create builtinNat "MIRRORD_INPUT" true false).1 "MIRRORD_INPUT"
        okNew okAppend).2 = .error .iptables := by
  refine ⟨by decide, fun t chainName okNew okAppend t₁ c hcreate => ?_, create_failed_append (by decide)⟩
  obtain ⟨htracks, rfl, hfresh, -⟩ := Tracks.create hcreate
  exact ⟨hfresh, htracks.rules_eq, drop_restores_table hcreate⟩

end IPTableChain
end Iptables
end Mirrord
