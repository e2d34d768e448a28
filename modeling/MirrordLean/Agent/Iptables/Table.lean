import Mathlib

/-!
# mirrord agent - The nat table and the iptables commands

The agent's iptables layer drives the {lit}`nat` table through
{lit}`IPTablesWrapper`, whose methods each run one iptables command (two for
{lit}`create_chain` and {lit}`remove_chain`).  The table is modelled as its
chains with their rules; a command either takes effect as a whole or fails and
leaves the table as it was, and whether the binary accepts it is the
environment's answer {lit}`ok`, next to the refusals that follow from the table
itself (a missing chain, a name taken, an index out of range, a rule that is
not there, a chain that is not empty).

Main results:

- Theorem {lit}`NatTable.edit_eq_ok`: what a command on one chain can do.
- Theorems {lit}`NatTable.createChain_cases` and
  {lit}`NatTable.removeChain_cases`: every outcome of the two-command methods,
  among them {lit}`create_chain` leaving an empty chain behind when the
  RETURN append fails.

Current gaps:

- Rules are compared as texts: iptables compares the parsed rule, so two
  spellings of one rule are two rules here.
- A chain that another chain jumps to cannot be deleted; that refusal is one
  of the failures the environment reports through {lit}`ok`.
-/

namespace Mirrord
namespace Iptables

/-- {lit}`IPTablesError`: a command the iptables binary refused, or a message
of the code's own. -/
inductive IPTablesError
  | iptables
  | message (text : String)
deriving DecidableEq, Repr

/-- The rule {lit}`create_chain` seeds every chain with. -/
def returnRule : String := "-j RETURN"

/-- The rules of the chain of a name, in an association list of chains. -/
def lookupChain : List (String × List String) → String → Option (List String)
  | [], _ => none
  | (name, rs) :: chains, chain => if name = chain then some rs else lookupChain chains chain

/-- The {lit}`nat` table: its chains in order of creation with their rules, no
name twice. -/
structure NatTable where
  chains : List (String × List String)
  names_nodup : (chains.map (·.1)).Nodup

namespace NatTable

instance : DecidableEq NatTable := fun a b =>
  decidable_of_iff (a.chains = b.chains) (by cases a; cases b; simp)

theorem ext_chains {a b : NatTable} (h : a.chains = b.chains) : a = b := by
  cases a; cases b; simp_all

/-- The rules of a chain, when it exists. -/
def rules (t : NatTable) (chain : String) : Option (List String) :=
  lookupChain t.chains chain

theorem lookupChain_eq_none {chains : List (String × List String)} {chain : String} :
    lookupChain chains chain = none ↔ chain ∉ chains.map (·.1) := by
  induction chains with
  | nil => simp [lookupChain]
  | cons e chains ih =>
    obtain ⟨name, rs⟩ := e
    by_cases h : name = chain
    · simp [lookupChain, h]
    · simp [lookupChain, h, ih, Ne.symm h]

/-- The association list with the rules of the first chain of a name replaced. -/
def setChain : List (String × List String) → String → List String → List (String × List String)
  | [], _, _ => []
  | (name, rs') :: chains, chain, rs =>
      if name = chain then (name, rs) :: chains else (name, rs') :: setChain chains chain rs

theorem map_fst_setChain (chains : List (String × List String)) (chain : String)
    (rs : List String) : (setChain chains chain rs).map (·.1) = chains.map (·.1) := by
  induction chains with
  | nil => rfl
  | cons e chains ih =>
    obtain ⟨name, rs'⟩ := e
    by_cases hn : name = chain <;> simp [setChain, hn, ih]

theorem lookupChain_set (chains : List (String × List String)) (chain c : String)
    (rs : List String) :
    lookupChain (setChain chains chain rs) c =
      if c = chain then (lookupChain chains chain).map fun _ => rs else lookupChain chains c := by
  induction chains with
  | nil => split <;> rfl
  | cons e chains ih =>
    obtain ⟨name, rs'⟩ := e
    by_cases hn : name = chain
    · subst hn
      by_cases hc : c = name
      · subst hc; simp [setChain, lookupChain]
      · simp [setChain, lookupChain, hc, Ne.symm hc]
    · by_cases hc : name = c
      · subst hc; simp [setChain, lookupChain, hn]
      · simp [setChain, lookupChain, hn, hc, ih]

/-- Replacing the rules of a chain that comes last and nowhere else. -/
theorem setChain_append_last (chains : List (String × List String)) (chain : String)
    (rs rs' : List String) (h : chain ∉ chains.map (·.1)) :
    setChain (chains ++ [(chain, rs)]) chain rs' = chains ++ [(chain, rs')] := by
  induction chains with
  | nil => simp [setChain]
  | cons e chains ih =>
    obtain ⟨name, rs''⟩ := e
    simp only [List.map_cons, List.mem_cons, not_or] at h
    simp [setChain, Ne.symm h.1, ih h.2]

theorem lookupChain_append_last (chains : List (String × List String)) (chain : String)
    (rs : List String) (h : chain ∉ chains.map (·.1)) :
    lookupChain (chains ++ [(chain, rs)]) chain = some rs := by
  induction chains with
  | nil => simp [lookupChain]
  | cons e chains ih =>
    obtain ⟨name, rs'⟩ := e
    simp only [List.map_cons, List.mem_cons, not_or] at h
    simp [lookupChain, Ne.symm h.1, ih h.2]

/-- Dropping a chain that comes last and nowhere else. -/
theorem filter_append_last (chains : List (String × List String)) (chain : String)
    (rs : List String) (h : chain ∉ chains.map (·.1)) :
    (chains ++ [(chain, rs)]).filter (·.1 ≠ chain) = chains := by
  rw [List.filter_append, List.filter_eq_self.2, List.filter_eq_nil_iff.2 (by simp), List.append_nil]
  intro e he
  simpa using fun hc => h (List.mem_map.2 ⟨e, he, hc⟩)

theorem lookupChain_filter (chains : List (String × List String)) (chain c : String) :
    lookupChain (chains.filter (·.1 ≠ chain)) c =
      if c = chain then none else lookupChain chains c := by
  induction chains with
  | nil => split <;> rfl
  | cons e chains ih =>
    obtain ⟨name, rs'⟩ := e
    by_cases hn : name = chain
    · subst hn
      by_cases hc : c = name
      · subst hc; simpa [List.filter_cons] using ih
      · simpa [List.filter_cons, lookupChain, Ne.symm hc, hc] using ih
    · by_cases hc : name = c
      · subst hc; simp [List.filter_cons, lookupChain, hn, Ne.symm hn]
      · simpa [List.filter_cons, lookupChain, hn, hc] using ih

theorem lookupChain_append_of_none (chains : List (String × List String)) (chain c : String)
    (h : lookupChain chains chain = none) :
    lookupChain (chains ++ [(chain, [])]) c = if c = chain then some [] else lookupChain chains c := by
  induction chains with
  | nil => simp [lookupChain, eq_comm]
  | cons e chains ih =>
    obtain ⟨name, rs'⟩ := e
    by_cases hn : name = chain
    · simp [lookupChain, hn] at h
    · simp only [lookupChain, hn, if_false] at h
      by_cases hc : name = c
      · subst hc; simp [lookupChain, hn]
      · simp [lookupChain, hc, ih h]

/-- The table with the rules of one chain replaced. -/
def setRules (t : NatTable) (chain : String) (rs : List String) : NatTable :=
  ⟨setChain t.chains chain rs, by rw [map_fst_setChain]; exact t.names_nodup⟩

/-- The table without a chain. -/
def withoutChain (t : NatTable) (chain : String) : NatTable :=
  ⟨t.chains.filter (·.1 ≠ chain), t.names_nodup.sublist ((List.filter_sublist _).map _)⟩

/-- The table with a new, empty chain last. -/
def addChain (t : NatTable) (chain : String) (h : t.rules chain = none) : NatTable :=
  ⟨t.chains ++ [(chain, [])], by
    rw [List.map_append, List.nodup_append]
    exact ⟨t.names_nodup, List.nodup_singleton _,
      List.disjoint_singleton.2 (lookupChain_eq_none.1 h)⟩⟩

section Lookup

variable (t : NatTable) (chain c : String)

theorem rules_setRules (rs : List String) :
    (t.setRules chain rs).rules c =
      if c = chain then (t.rules chain).map fun _ => rs else t.rules c :=
  lookupChain_set _ _ _ _

theorem rules_withoutChain :
    (t.withoutChain chain).rules c = if c = chain then none else t.rules c :=
  lookupChain_filter _ _ _

theorem rules_addChain (h : t.rules chain = none) :
    (t.addChain chain h).rules c = if c = chain then some [] else t.rules c :=
  lookupChain_append_of_none _ _ _ h

end Lookup

/-! ## The commands -/

/-- An iptables command on the rules of an existing chain: the binary takes it
when {lit}`ok`, and the edit may still refuse the chain's rules as they are. -/
def edit (t : NatTable) (chain : String) (ok : Bool)
    (f : List String → Option (List String)) : Except IPTablesError NatTable :=
  match t.rules chain with
  | some rs =>
      match ok, f rs with
      | true, some rs' => .ok (t.setRules chain rs')
      | _, _ => .error .iptables
  | none => .error .iptables

/-- What a command on one chain can do: the chain exists, the binary and the
edit accept, and the chain's rules are replaced. -/
theorem edit_eq_ok {t t' : NatTable} {chain : String} {ok : Bool}
    {f : List String → Option (List String)} :
    t.edit chain ok f = .ok t' ↔
      ∃ rs rs', t.rules chain = some rs ∧ ok = true ∧ f rs = some rs' ∧
        t' = t.setRules chain rs' := by
  unfold edit
  cases t.rules chain with
  | none => simp
  | some rs => cases ok <;> cases hf : f rs <;> simp [hf, eq_comm]

/-- {lit}`new_chain` ({lit}`-N`): an empty chain, unless the name is taken. -/
def newChain (t : NatTable) (chain : String) (ok : Bool) : Except IPTablesError NatTable :=
  if h : t.rules chain = none then
    if ok then .ok (t.addChain chain h) else .error .iptables
  else .error .iptables

/-- {lit}`IPTablesWrapper::add_rule`, the crate's {lit}`append` ({lit}`-A`): the
rule last. -/
def addRule (t : NatTable) (chain rule : String) (ok : Bool) : Except IPTablesError NatTable :=
  t.edit chain ok fun rs => some (rs ++ [rule])

/-- The rules after an {lit}`-I` at a 1-based index: the rule is placed at the
index, which ranges over the positions from the first to one past the last. -/
def insertAt (rs : List String) (rule : String) (index : Int) : Option (List String) :=
  if 1 ≤ index ∧ index ≤ rs.length + 1 then
    some (rs.take (index - 1).toNat ++ rule :: rs.drop (index - 1).toNat)
  else none

/-- {lit}`IPTablesWrapper::insert_rule`, the crate's {lit}`insert`
({lit}`-I`). -/
def insertRule (t : NatTable) (chain rule : String) (index : Int) (ok : Bool) :
    Except IPTablesError NatTable :=
  t.edit chain ok fun rs => insertAt rs rule index

/-- {lit}`IPTablesWrapper::remove_rule`, the crate's {lit}`delete` ({lit}`-D`):
the first rule equal to the rule goes, and there must be one. -/
def removeRule (t : NatTable) (chain rule : String) (ok : Bool) : Except IPTablesError NatTable :=
  t.edit chain ok fun rs => if rule ∈ rs then some (rs.erase rule) else none

/-- {lit}`flush_chain` ({lit}`-F`): no rules left. -/
def flushChain (t : NatTable) (chain : String) (ok : Bool) : Except IPTablesError NatTable :=
  t.edit chain ok fun _ => some []

/-- {lit}`delete_chain` ({lit}`-X`): the chain goes, and it must be empty. -/
def deleteChain (t : NatTable) (chain : String) (ok : Bool) : Except IPTablesError NatTable :=
  match t.rules chain, ok with
  | some [], true => .ok (t.withoutChain chain)
  | _, _ => .error .iptables

/-- {lit}`IPTablesWrapper::list_rules`, the crate's {lit}`list` ({lit}`-S`): the
chain's declaration, then one line per rule.  The crate splits the command's
output into lines without looking at its exit status, so a missing chain or a
refused command lists the empty output, a single empty line. -/
def listRules (t : NatTable) (chain : String) (ok : Bool) : Except IPTablesError (List String) :=
  match t.rules chain, ok with
  | some rs, true => .ok (("-N " ++ chain) :: rs.map fun rule => "-A " ++ chain ++ " " ++ rule)
  | _, _ => .ok [""]

/-- {lit}`IPTablesWrapper::create_chain`: a new chain, then its RETURN rule.  The
first failure is returned, with the table as far as the commands got. -/
def createChain (t : NatTable) (name : String) (okNew okAppend : Bool) :
    NatTable × Except IPTablesError Unit :=
  match t.newChain name okNew with
  | .error e => (t, .error e)
  | .ok t =>
      match t.addRule name returnRule okAppend with
      | .error e => (t, .error e)
      | .ok t => (t, .ok ())

/-- {lit}`IPTablesWrapper::remove_chain`: the chain is flushed, then deleted. -/
def removeChain (t : NatTable) (name : String) (okFlush okDelete : Bool) :
    NatTable × Except IPTablesError Unit :=
  match t.flushChain name okFlush with
  | .error e => (t, .error e)
  | .ok t =>
      match t.deleteChain name okDelete with
      | .error e => (t, .error e)
      | .ok t => (t, .ok ())

/-! ## What the commands do -/

/-- An insert that succeeds adds the rule and keeps every rule already there. -/
theorem insertAt_eq_some {rs rs' : List String} {rule : String} {index : Int}
    (h : insertAt rs rule index = some rs') :
    rs'.length = rs.length + 1 ∧ rule ∈ rs' ∧ ∀ x ∈ rs, x ∈ rs' := by
  unfold insertAt at h
  split at h
  · cases h
    refine ⟨?_, by simp, fun x hx => ?_⟩
    · simp only [List.length_append, List.length_take, List.length_cons, List.length_drop]
      omega
    · rw [← List.take_append_drop (index - 1).toNat rs, List.mem_append] at hx
      exact List.mem_append.2 (hx.imp id (List.mem_cons_of_mem _))
  · cases h

/-- An insert at the position of the last rule puts the rule just before it. -/
theorem insertAt_before_last (rs : List String) (rule last : String) :
    insertAt (rs ++ [last]) rule ((rs.length : Int) + 1) = some (rs ++ [rule] ++ [last]) := by
  have hidx : (1 : Int) ≤ (rs.length : Int) + 1 ∧
      (rs.length : Int) + 1 ≤ ((rs ++ [last]).length : Int) + 1 := by
    rw [List.length_append, List.length_singleton]; omega
  have hnat : ((rs.length : Int) + 1 - 1).toNat = rs.length := by omega
  rw [insertAt, if_pos hidx, hnat, List.take_left' rfl, List.drop_left' rfl]
  simp

theorem newChain_eq_ok {t t' : NatTable} {chain : String} {ok : Bool} :
    t.newChain chain ok = .ok t' ↔ ∃ h : t.rules chain = none, ok = true ∧ t' = t.addChain chain h := by
  unfold newChain
  split
  · split <;> simp_all [eq_comm]
  · simp_all

theorem deleteChain_eq_ok {t t' : NatTable} {chain : String} {ok : Bool} :
    t.deleteChain chain ok = .ok t' ↔ t.rules chain = some [] ∧ ok = true ∧ t' = t.withoutChain chain := by
  unfold deleteChain
  split <;> simp_all [eq_comm]

/-- A chain that does not exist, once created, holds exactly the RETURN rule;
the table is unchanged when the first command fails, and holds the chain
empty when the RETURN append fails. -/
theorem createChain_cases (t : NatTable) (name : String) (okNew okAppend : Bool)
    (h : t.rules name = none) :
    t.createChain name okNew okAppend =
      if okNew then
        if okAppend then ((t.addChain name h).setRules name [returnRule], .ok ())
        else (t.addChain name h, .error .iptables)
      else (t, .error .iptables) := by
  unfold createChain newChain
  rw [dif_pos h]
  cases okNew
  · rfl
  · cases okAppend <;>
      simp [addRule, edit, rules_addChain]

/-- {lit}`remove_chain` removes the chain when both its commands go through,
and else leaves it, emptied when only the delete failed. -/
theorem removeChain_cases (t : NatTable) (name : String) (okFlush okDelete : Bool)
    (rs : List String) (h : t.rules name = some rs) :
    t.removeChain name okFlush okDelete =
      if okFlush then
        if okDelete then ((t.setRules name []).withoutChain name, .ok ())
        else (t.setRules name [], .error .iptables)
      else (t, .error .iptables) := by
  unfold removeChain flushChain deleteChain
  cases okFlush
  · simp [edit, h]
  · cases okDelete <;> simp [edit, h, rules_setRules]

end NatTable
end Iptables
end Mirrord
