import MirrordLean.Agent.Sniffer.Sniffer
import Mathlib.Data.List.Pairwise

/-!
# mirrord agent - What the sniffer delivers

A client that is handed the {lit}`SniffedConnection` of a session reads the
session's channel.  This module follows one channel through a run: while the
session is open its entry in the session map holds the channel, and every
packet of the flow, in either direction, appends its payload; the first FIN or
RST removes the entry and drops the sender.  Packets of other flows, new
sessions and the other commands leave the channel alone.

Main results:

- Structure {lit}`SessionsWellFormed`: no two keys of the session map are
  equal, every entry has its own channel, and channels are never reused; every
  event keeps it ({lit}`run_wellFormed`).
- Theorem {lit}`session_identifier_is_flow_key`: the identifier's equality and
  hash make the session map a map on flows, found from either direction.
- Theorem {lit}`SessionOpen.run`: over a run in which a client keeps its
  receiver, the channel ends with the flow's payloads up to the first FIN or
  RST, and closed exactly when one came.
- Theorem {lit}`sniffed_session_delivery`: who is handed a session, that it is
  handed once while the session lives, and what its channel carries.

Current gaps:

- A channel's log is unbounded: a receiver that lags past the capacity of the
  {lit}`broadcast` channel is not modelled.
-/

namespace Mirrord
namespace Sniffer
namespace TcpConnectionSniffer

open TcpSessionIdentifier

variable (isHttp : List UInt8 → Bool)

/-! ## The session map -/

/-- The session map is a map on flows: no two keys are equal, every entry has
its own channel, and no channel at or past {lit}`nextChannel` exists yet. -/
structure SessionsWellFormed (st : TcpConnectionSniffer) : Prop where
  keys_distinct : st.sessions.Pairwise fun e f => e.1.eq f.1 = false
  channels_nodup : (st.sessions.map (·.2)).Nodup
  channel_lt : ∀ e ∈ st.sessions, e.2 < st.nextChannel
  fresh : ∀ c, st.nextChannel ≤ c → st.channels c = none

theorem new_wellFormed : SessionsWellFormed new where
  keys_distinct := .nil
  channels_nodup := .nil
  channel_lt := by simp [new]
  fresh := by simp [new]

/-- Unequal keys are unequal either way round. -/
theorem eq_false_symm {a b : TcpSessionIdentifier} (h : a.eq b = false) : b.eq a = false := by
  cases hba : b.eq a
  · rfl
  · simp [eq_symm hba] at h

/-- The entry {lit}`lookup` finds has a key equal to the identifier. -/
theorem lookup_eq_some {st : TcpConnectionSniffer} {identifier : TcpSessionIdentifier}
    {ch : Nat} (h : st.lookup identifier = some ch) :
    ∃ k, (k, ch) ∈ st.sessions ∧ k.eq identifier = true := by
  simp only [lookup, Option.map_eq_some'] at h
  obtain ⟨⟨k, c⟩, hf, rfl⟩ := h
  have hk := List.find?_some hf
  exact ⟨k, List.mem_of_find?_eq_some hf, hk⟩

/-- {lit}`lookup` finds nothing only when no key equals the identifier. -/
theorem lookup_eq_none {st : TcpConnectionSniffer} {identifier : TcpSessionIdentifier}
    (h : st.lookup identifier = none) : ∀ e ∈ st.sessions, e.1.eq identifier = false := by
  simp only [lookup, Option.map_eq_none', List.find?_eq_none] at h
  exact fun e he => by simpa using h e he

/-- In a well-formed map, an entry whose key equals the identifier is the one
{lit}`lookup` finds. -/
theorem lookup_of_mem {st : TcpConnectionSniffer} (hw : SessionsWellFormed st)
    {k identifier : TcpSessionIdentifier} {ch : Nat} (hmem : (k, ch) ∈ st.sessions)
    (hk : k.eq identifier = true) : st.lookup identifier = some ch := by
  cases hl : st.lookup identifier with
  | none => simp [lookup_eq_none hl _ hmem] at hk
  | some ch' =>
    obtain ⟨k', hmem', hk'⟩ := lookup_eq_some hl
    by_contra hne
    have hentries : (k', ch') ≠ (k, ch) := fun h => hne (by simp_all)
    have := hw.keys_distinct.forall (fun e f h => eq_false_symm h) hmem' hmem hentries
    simp [eq_trans hk' (eq_symm hk)] at this

/-! ## Every event keeps the map well formed -/

/-- A state with fewer entries, the same {lit}`nextChannel` and no channel
created past it stays well formed. -/
theorem SessionsWellFormed.of_sublist {st st' : TcpConnectionSniffer} (hw : SessionsWellFormed st)
    (hs : st'.sessions.Sublist st.sessions) (hn : st'.nextChannel = st.nextChannel)
    (hc : ∀ c, st.nextChannel ≤ c → st'.channels c = none) : SessionsWellFormed st' where
  keys_distinct := hw.keys_distinct.sublist hs
  channels_nodup := hw.channels_nodup.sublist (hs.map _)
  channel_lt e he := hn ▸ hw.channel_lt e (hs.subset he)
  fresh c h := hc c (hn ▸ h)

/-- Sending on a channel that does not exist yet leaves it absent. -/
theorem sendData_channels_of_none {st : TcpConnectionSniffer} {ch : Nat}
    (tcpPacket : TcpPacketData) (h : st.channels ch = none) :
    (st.sendData ch tcpPacket).channels ch = none := by
  unfold sendData
  split
  · simp [removeSession_channels, h]
  · split <;> simp [removeSession_channels, sendPayload_channels, h]

theorem SessionsWellFormed.sendData {st : TcpConnectionSniffer} (hw : SessionsWellFormed st)
    (ch : Nat) (tcpPacket : TcpPacketData) : SessionsWellFormed (st.sendData ch tcpPacket) := by
  refine hw.of_sublist ?_ (sendData_nextChannel _ _ _) fun c hc => ?_
  · rcases sendData_sessions st ch tcpPacket with h | h <;> rw [h]
    exact List.filter_sublist _
  · by_cases hce : c = ch
    · subst hce; exact sendData_channels_of_none _ (hw.fresh c hc)
    · rw [sendData_channels_ne _ _ _ hce]; exact hw.fresh c hc

theorem SessionsWellFormed.updateChannel {st : TcpConnectionSniffer} (hw : SessionsWellFormed st)
    (ch : Nat) (f : Broadcast → Broadcast) : SessionsWellFormed (st.updateChannel ch f) :=
  hw.of_sublist (List.Sublist.refl _) rfl fun c hc => by
    by_cases hce : c = ch
    · subst hce; simp [updateChannel_channels, hw.fresh c hc]
    · simp [updateChannel_channels, hce, hw.fresh c hc]

/-- A new session of an identifier no key equals keeps the map well formed. -/
theorem SessionsWellFormed.openSession {st : TcpConnectionSniffer} (hw : SessionsWellFormed st)
    {identifier : TcpSessionIdentifier} (hl : st.lookup identifier = none)
    (trySend : ClientId → TrySendResult) (clientIds : List ClientId) :
    SessionsWellFormed (st.openSession identifier trySend clientIds) where
  keys_distinct := List.pairwise_append.2 ⟨hw.keys_distinct, by simp,
    fun e he f hf => by simp only [List.mem_singleton] at hf; subst hf; exact lookup_eq_none hl e he⟩
  channels_nodup := by
    rw [openSession_sessions, List.map_append]
    exact hw.channels_nodup.append (List.nodup_singleton _) (by
      simp only [List.map_cons, List.map_nil, List.disjoint_singleton, List.mem_map, not_exists,
        not_and]
      exact fun e he h => absurd (hw.channel_lt e he) (by omega))
  channel_lt e he := by
    rw [openSession_sessions, List.mem_append, List.mem_singleton] at he
    rw [openSession_nextChannel]
    rcases he with he | rfl
    · exact Nat.lt_succ_of_lt (hw.channel_lt e he)
    · exact Nat.lt_succ_self _
  fresh c hc := by
    rw [openSession_nextChannel] at hc
    rw [openSession_channels, if_neg (by omega)]
    exact hw.fresh c (by omega)

/-- {lit}`handle_packet` keeps the map well formed. -/
theorem SessionsWellFormed.handlePacket {st : TcpConnectionSniffer} (hw : SessionsWellFormed st)
    (identifier : TcpSessionIdentifier) (tcpPacket : TcpPacketData)
    (trySend : ClientId → TrySendResult) :
    SessionsWellFormed (st.handlePacket isHttp identifier tcpPacket trySend) := by
  unfold TcpConnectionSniffer.handlePacket
  split
  · exact hw.sendData _ _
  · rename_i hl
    split
    · exact hw
    · split
      · exact hw
      · exact (hw.openSession hl trySend _).sendData _ _

/-- A subscription change that went through changed the subscriptions only. -/
theorem withSubscriptions_eq {t st' : TcpConnectionSniffer} {change : Bool × Subscriptions}
    {filterOk : Bool} (h : t.withSubscriptions change filterOk = .ok st') :
    st' = { t with portSubscriptions := change.2 } := by
  unfold withSubscriptions updatePacketFilter at h
  split at h
  · split at h
    · exact (Except.ok.inj h).symm
    · cases h
  · exact (Except.ok.inj h).symm

/-- Every event keeps the map well formed. -/
theorem SessionsWellFormed.step {st st' : TcpConnectionSniffer} (hw : SessionsWellFormed st)
    {e : SnifferEvent} (h : st.step isHttp e = .ok st') : SessionsWellFormed st' := by
  cases e with
  | newClient => cases h; exact hw.of_sublist (List.Sublist.refl _) rfl hw.fresh
  | subscribe c p f =>
    obtain rfl := withSubscriptions_eq h; exact hw.of_sublist (List.Sublist.refl _) rfl hw.fresh
  | unsubscribePort c p f =>
    obtain rfl := withSubscriptions_eq h; exact hw.of_sublist (List.Sublist.refl _) rfl hw.fresh
  | clientClosed c f =>
    obtain rfl := withSubscriptions_eq h; exact hw.of_sublist (List.Sublist.refl _) rfl hw.fresh
  | packet identifier tcpPacket trySend => cases h; exact hw.handlePacket isHttp _ _ _
  | dropReceiver c ch => cases h; exact hw.updateChannel _ _

/-- Every state a run reaches from a new sniffer is well formed. -/
theorem run_wellFormed {st st' : TcpConnectionSniffer} (hw : SessionsWellFormed st)
    {events : List SnifferEvent} (hr : st.run isHttp events = .ok st') : SessionsWellFormed st' := by
  induction events generalizing st with
  | nil => cases hr; exact hw
  | cons e events ih =>
    obtain ⟨st₁, h₁, hr⟩ := run_cons_eq_ok.1 hr
    exact ih (hw.step isHttp h₁) hr

/-- Equal identifiers find the same entry. -/
theorem lookup_congr (st : TcpConnectionSniffer) {a b : TcpSessionIdentifier} (h : a.eq b = true) :
    st.lookup a = st.lookup b := by
  have : (fun e : TcpSessionIdentifier × Nat => e.1.eq a) = fun e => e.1.eq b := by
    funext e
    cases hea : e.1.eq a
    · cases heb : e.1.eq b
      · rfl
      · simp [eq_trans heb (eq_symm h)] at hea
    · exact (eq_trans hea h).symm
  simp only [lookup, this]

/-- The custom equality of session identifiers is an equivalence that holds
exactly between a four-tuple and itself or its reverse, equal identifiers feed
every hasher the same values, and so the session map of every run is a map on
flows: no two of its keys are equal, and both directions of a flow find the
same entry. -/
theorem session_identifier_is_flow_key (a b c : TcpSessionIdentifier) :
    a.eq a = true ∧ (a.eq b = true → b.eq a = true) ∧
      (a.eq b = true → b.eq c = true → a.eq c = true) ∧
      (a.eq b = true ↔ b = a ∨ b = a.reverse) ∧
      (a.eq b = true → a.hashFeed = b.hashFeed ∧
        ∀ (σ : Type) (write : σ → HashInput → σ) (state : σ), a.hash write state = b.hash write state) ∧
      ∀ (events : List SnifferEvent) (st : TcpConnectionSniffer), new.run isHttp events = .ok st →
        st.sessions.Pairwise (fun e f => e.1.eq f.1 = false) ∧ st.lookup a.reverse = st.lookup a := by
  refine ⟨eq_refl a, eq_symm, eq_trans, eq_iff a b, fun h => ⟨hashFeed_eq_of_eq h, ?_⟩,
    fun events st hr => ⟨(run_wellFormed isHttp new_wellFormed hr).keys_distinct, ?_⟩⟩
  · intro σ write state
    simp only [TcpSessionIdentifier.hash, hashFeed_eq_of_eq h]
  · exact lookup_congr st (eq_symm (eq_reverse a))

/-- In a well-formed map a channel belongs to one entry at most. -/
theorem SessionsWellFormed.key_unique {st : TcpConnectionSniffer} (hw : SessionsWellFormed st)
    {k k' : TcpSessionIdentifier} {ch : Nat} (h : (k, ch) ∈ st.sessions)
    (h' : (k', ch) ∈ st.sessions) : k = k' := by
  have := List.inj_on_of_nodup_map hw.channels_nodup h h' rfl
  simp_all

/-! ## Following one channel -/

/-- The payload a packet of the flow appends to the flow's channel. -/
def eventPayload (s : TcpSessionIdentifier) : SnifferEvent → List (List UInt8)
  | .packet identifier tcpPacket _ =>
      if identifier.eq s then (if tcpPacket.bytes = [] then [] else [tcpPacket.bytes]) else []
  | _ => []

/-- Whether an event is a packet of the flow with FIN or RST. -/
def eventCloses (s : TcpSessionIdentifier) : SnifferEvent → Bool
  | .packet identifier tcpPacket _ => identifier.eq s && isClosedConnection tcpPacket.flags
  | _ => false

/-- The payloads of the flow's packets among the events, in order, up to and
including the first packet of the flow with FIN or RST. -/
def sessionPayloads (s : TcpSessionIdentifier) : List SnifferEvent → List (List UInt8)
  | [] => []
  | e :: events => eventPayload s e ++ if eventCloses s e then [] else sessionPayloads s events

/-- Whether a packet of the flow with FIN or RST is among the events. -/
def sessionCloses (s : TcpSessionIdentifier) : List SnifferEvent → Bool
  | [] => false
  | e :: events => eventCloses s e || sessionCloses s events

/-- A live session of the flow holds the channel: its key equals the flow,
the sender is alive, the log is what was sent so far, and the client holds a
receiver. -/
def SessionOpen (st : TcpConnectionSniffer) (s : TcpSessionIdentifier) (ch : Nat)
    (c : ClientId) (acc : List (List UInt8)) : Prop :=
  (∃ k, (k, ch) ∈ st.sessions ∧ k.eq s = true) ∧
    ∃ rs, c ∈ rs ∧ st.channels ch = some ⟨acc, rs, true⟩

/-- The session of the channel is gone: no entry holds the channel, whose
sender is dropped and whose log is final, and the client still holds a
receiver. -/
def SessionClosed (st : TcpConnectionSniffer) (ch : Nat) (c : ClientId)
    (acc : List (List UInt8)) : Prop :=
  (∀ e ∈ st.sessions, e.2 ≠ ch) ∧ ∃ rs, c ∈ rs ∧ st.channels ch = some ⟨acc, rs, false⟩

/-- A step leaves a channel alone: the same channel, and the same entries
holding it. -/
def LeavesChannel (st st' : TcpConnectionSniffer) (ch : Nat) : Prop :=
  st'.channels ch = st.channels ch ∧ ∀ k, (k, ch) ∈ st'.sessions ↔ (k, ch) ∈ st.sessions

theorem SessionOpen.of_leaves {st st' : TcpConnectionSniffer} {s : TcpSessionIdentifier}
    {ch : Nat} {c : ClientId} {acc : List (List UInt8)} (h : SessionOpen st s ch c acc)
    (hl : LeavesChannel st st' ch) : SessionOpen st' s ch c acc := by
  obtain ⟨⟨k, hk, hks⟩, rs, hc, hch⟩ := h
  exact ⟨⟨k, (hl.2 k).2 hk, hks⟩, rs, hc, hl.1 ▸ hch⟩

theorem SessionClosed.of_leaves {st st' : TcpConnectionSniffer} {ch : Nat} {c : ClientId}
    {acc : List (List UInt8)} (h : SessionClosed st ch c acc) (hl : LeavesChannel st st' ch) :
    SessionClosed st' ch c acc := by
  obtain ⟨hno, rs, hc, hch⟩ := h
  refine ⟨fun e he hech => ?_, rs, hc, hl.1 ▸ hch⟩
  obtain ⟨k, c'⟩ := e
  simp only at hech
  subst hech
  exact hno _ ((hl.2 k).1 he) rfl

/-- A packet whose flow holds another channel, or that opens a session on a
fresh channel, leaves the channel alone. -/
theorem handlePacket_leaves {st : TcpConnectionSniffer} {ch : Nat} (hch : ch < st.nextChannel)
    {identifier : TcpSessionIdentifier} (hl : st.lookup identifier ≠ some ch)
    (tcpPacket : TcpPacketData) (trySend : ClientId → TrySendResult) :
    LeavesChannel st (st.handlePacket isHttp identifier tcpPacket trySend) ch := by
  have hsend : ∀ (t : TcpConnectionSniffer) (ch' : Nat), ch ≠ ch' →
      LeavesChannel t (t.sendData ch' tcpPacket) ch := fun t ch' hne => by
    refine ⟨sendData_channels_ne _ _ _ hne, fun k => ?_⟩
    rcases sendData_sessions t ch' tcpPacket with h | h <;> simp [h, hne]
  unfold TcpConnectionSniffer.handlePacket
  split
  · rename_i ch' hch'
    exact hsend _ _ fun h => hl (h ▸ hch')
  · split
    · exact ⟨rfl, fun _ => Iff.rfl⟩
    · split
      · exact ⟨rfl, fun _ => Iff.rfl⟩
      · have hne : ch ≠ st.nextChannel := Nat.ne_of_lt hch
        obtain ⟨h1, h2⟩ := hsend (st.openSession identifier trySend _) _ hne
        refine ⟨h1.trans ?_, fun k => (h2 k).trans ?_⟩
        · rw [openSession_channels, if_neg hne]
        · simp [hne]

/-- A packet of the flow on its live session appends its payload; with FIN or
RST it also closes the session. -/
theorem SessionOpen.sendData {st : TcpConnectionSniffer} {s : TcpSessionIdentifier} {ch : Nat}
    {c : ClientId} {acc : List (List UInt8)} (h : SessionOpen st s ch c acc)
    (tcpPacket : TcpPacketData) :
    if isClosedConnection tcpPacket.flags then
      SessionClosed (st.sendData ch tcpPacket) ch c
        (acc ++ if tcpPacket.bytes = [] then [] else [tcpPacket.bytes])
    else
      SessionOpen (st.sendData ch tcpPacket) s ch c
        (acc ++ if tcpPacket.bytes = [] then [] else [tcpPacket.bytes]) := by
  obtain ⟨⟨k, hk, hks⟩, rs, hc, hch⟩ := h
  have hrecv : st.hasReceivers ch = true := by
    cases rs with
    | nil => simp at hc
    | cons r rs => simp [hasReceivers, hch]
  have hsent : (st.sendPayload ch tcpPacket.bytes).channels ch =
      some ⟨acc ++ if tcpPacket.bytes = [] then [] else [tcpPacket.bytes], rs, true⟩ := by
    by_cases hb : tcpPacket.bytes = [] <;> simp [sendPayload_channels, hb, hch]
  rw [sendData_of_hasReceivers _ _ _ hrecv]
  by_cases hf : isClosedConnection tcpPacket.flags = true
  · rw [if_pos hf, if_pos hf]
    refine ⟨fun e he hech => ?_, rs, hc, ?_⟩
    · simp only [removeSession_sessions, List.mem_filter, bne_iff_ne] at he
      exact he.2 hech
    · rw [removeSession_channels, if_pos rfl, hsent]
      rfl
  · rw [if_neg hf, if_neg hf]
    exact ⟨⟨k, by simpa using hk, hks⟩, rs, hc, hsent⟩

/-- An event other than a packet or a client dropping a receiver of the channel
leaves the channel alone. -/
theorem step_leaves {st st' : TcpConnectionSniffer} {ch : Nat} {e : SnifferEvent}
    (h : st.step isHttp e = .ok st')
    (hp : ∀ identifier tcpPacket trySend, e ≠ .packet identifier tcpPacket trySend)
    (hd : ∀ c, e ≠ .dropReceiver c ch) :
    LeavesChannel st st' ch := by
  cases e with
  | newClient => cases h; exact ⟨rfl, fun _ => Iff.rfl⟩
  | subscribe => obtain rfl := withSubscriptions_eq h; exact ⟨rfl, fun _ => Iff.rfl⟩
  | unsubscribePort => obtain rfl := withSubscriptions_eq h; exact ⟨rfl, fun _ => Iff.rfl⟩
  | clientClosed => obtain rfl := withSubscriptions_eq h; exact ⟨rfl, fun _ => Iff.rfl⟩
  | packet identifier tcpPacket trySend => exact absurd rfl (hp identifier tcpPacket trySend)
  | dropReceiver c ch' =>
    cases h
    have hne : ch ≠ ch' := fun hc => hd c (hc ▸ rfl)
    exact ⟨by simp [updateChannel_channels, hne], fun _ => Iff.rfl⟩

/-- Another client dropping its receiver leaves the client's receiver in
place. -/
theorem channels_dropReceiver {st : TcpConnectionSniffer} {ch : Nat} {c c' : ClientId}
    (hne : c' ≠ c) {acc : List (List UInt8)} {rs : List ClientId} {alive : Bool} (hc : c ∈ rs)
    (hch : st.channels ch = some ⟨acc, rs, alive⟩) :
    ∃ rs', c ∈ rs' ∧ (st.updateChannel ch fun b => { b with receivers := b.receivers.erase c' }).channels ch =
      some ⟨acc, rs', alive⟩ :=
  ⟨rs.erase c', (List.mem_erase_of_ne (Ne.symm hne)).2 hc, by simp [updateChannel_channels, hch]⟩

/-- One event on a live session of the flow, the client keeping its receiver:
a packet of the flow appends its payload and, with FIN or RST, closes the
session; any other event leaves the channel as it was. -/
theorem SessionOpen.step {st st' : TcpConnectionSniffer} (hw : SessionsWellFormed st)
    {s : TcpSessionIdentifier} {ch : Nat} {c : ClientId} {acc : List (List UInt8)}
    (h : SessionOpen st s ch c acc) {e : SnifferEvent} (he : st.step isHttp e = .ok st')
    (hdrop : e ≠ .dropReceiver c ch) :
    if eventCloses s e then SessionClosed st' ch c (acc ++ eventPayload s e)
    else SessionOpen st' s ch c (acc ++ eventPayload s e) := by
  have ⟨⟨k, hk, hks⟩, rs, hc, hch⟩ := h
  cases e with
  | packet identifier tcpPacket trySend =>
    cases he
    by_cases hid : identifier.eq s = true
    · have hl : st.lookup identifier = some ch := lookup_of_mem hw hk (eq_trans hks (eq_symm hid))
      simp only [TcpConnectionSniffer.handlePacket, hl, eventCloses, eventPayload, hid, if_true,
        Bool.true_and]
      exact h.sendData tcpPacket
    · have hl : st.lookup identifier ≠ some ch := fun hl => by
        obtain ⟨k', hk', hk'id⟩ := lookup_eq_some hl
        obtain rfl := hw.key_unique hk hk'
        exact hid (eq_symm (eq_trans (eq_symm hks) hk'id))
      have hid' : identifier.eq s = false := by simpa using hid
      simp only [eventCloses, eventPayload, hid', Bool.false_and, Bool.false_eq_true, if_false,
        List.append_nil]
      exact h.of_leaves (handlePacket_leaves isHttp (hw.channel_lt _ hk) hl tcpPacket trySend)
  | dropReceiver c' ch' =>
    simp only [eventCloses, eventPayload, if_false, List.append_nil]
    by_cases hch' : ch' = ch
    · subst hch'
      cases he
      have hne : c' ≠ c := fun h => hdrop (h ▸ rfl)
      exact ⟨⟨k, hk, hks⟩, channels_dropReceiver hne hc hch⟩
    · exact h.of_leaves
        (step_leaves isHttp he (fun _ _ _ => nofun) (fun _ h => by cases h; exact hch' rfl))
  | newClient | subscribe | unsubscribePort | clientClosed =>
    simp only [eventCloses, eventPayload, if_false, List.append_nil]
    exact h.of_leaves (step_leaves isHttp he (fun _ _ _ => nofun) (fun _ => nofun))

/-- Once the session is gone, no event touches the channel but a client
dropping a receiver, and the client keeps its own. -/
theorem SessionClosed.step {st st' : TcpConnectionSniffer} (hw : SessionsWellFormed st)
    {ch : Nat} {c : ClientId} {acc : List (List UInt8)} (h : SessionClosed st ch c acc)
    {e : SnifferEvent} (he : st.step isHttp e = .ok st') (hdrop : e ≠ .dropReceiver c ch) :
    SessionClosed st' ch c acc := by
  have ⟨hno, rs, hc, hch⟩ := h
  have hlt : ch < st.nextChannel := by
    by_contra hge
    simp [hw.fresh ch (Nat.le_of_not_lt hge)] at hch
  cases e with
  | packet identifier tcpPacket trySend =>
    cases he
    have hl : st.lookup identifier ≠ some ch := fun hl => by
      obtain ⟨k', hk', -⟩ := lookup_eq_some hl
      exact hno _ hk' rfl
    exact h.of_leaves (handlePacket_leaves isHttp hlt hl _ _)
  | dropReceiver c' ch' =>
    by_cases hch' : ch' = ch
    · subst hch'
      cases he
      have hne : c' ≠ c := fun h => hdrop (h ▸ rfl)
      exact ⟨hno, channels_dropReceiver hne hc hch⟩
    · exact h.of_leaves
        (step_leaves isHttp he (fun _ _ _ => nofun) (fun _ h => by cases h; exact hch' rfl))
  | newClient | subscribe | unsubscribePort | clientClosed =>
    exact h.of_leaves (step_leaves isHttp he (fun _ _ _ => nofun) (fun _ => nofun))

/-- Over a run in which the client keeps its receiver, a closed session's
channel stays as it is. -/
theorem SessionClosed.run {st st' : TcpConnectionSniffer} (hw : SessionsWellFormed st)
    {ch : Nat} {c : ClientId} {acc : List (List UInt8)} (h : SessionClosed st ch c acc)
    {events : List SnifferEvent} (hr : st.run isHttp events = .ok st')
    (hdrop : ∀ e ∈ events, e ≠ .dropReceiver c ch) : SessionClosed st' ch c acc := by
  induction events generalizing st with
  | nil => cases hr; exact h
  | cons e events ih =>
    obtain ⟨st₁, h₁, hr⟩ := run_cons_eq_ok.1 hr
    exact ih (hw.step isHttp h₁) (h.step isHttp hw h₁ (hdrop e (.head _))) hr
      fun e' he' => hdrop e' (.tail _ he')

/-- Over a run in which the client keeps its receiver, a live session's
channel collects the flow's payloads up to the first FIN or RST, and is closed
exactly when such a packet came. -/
theorem SessionOpen.run {st st' : TcpConnectionSniffer} (hw : SessionsWellFormed st)
    {s : TcpSessionIdentifier} {ch : Nat} {c : ClientId} {acc : List (List UInt8)}
    (h : SessionOpen st s ch c acc) {events : List SnifferEvent}
    (hr : st.run isHttp events = .ok st') (hdrop : ∀ e ∈ events, e ≠ .dropReceiver c ch) :
    if sessionCloses s events then SessionClosed st' ch c (acc ++ sessionPayloads s events)
    else SessionOpen st' s ch c (acc ++ sessionPayloads s events) := by
  induction events generalizing st acc with
  | nil => cases hr; simpa [sessionCloses, sessionPayloads] using h
  | cons e events ih =>
    obtain ⟨st₁, h₁, hr⟩ := run_cons_eq_ok.1 hr
    have h1 := h.step isHttp hw h₁ (hdrop e (.head _))
    have hdrop' : ∀ e' ∈ events, e' ≠ .dropReceiver c ch := fun e' he' => hdrop e' (.tail _ he')
    simp only [sessionCloses, sessionPayloads]
    by_cases hc : eventCloses s e = true
    · rw [if_pos hc] at h1
      simpa [hc] using h1.run isHttp (hw.step isHttp h₁) hr hdrop'
    · rw [if_neg hc] at h1
      simpa [hc] using ih (hw.step isHttp h₁) h1 hr hdrop'

/-! ## Delivery -/

/-- The connections {lit}`handle_packet` hands to clients: none for a known
flow or a packet that starts no session, else one for each subscriber with a
sender that the {lit}`try_send` reaches. -/
def handedOver (st : TcpConnectionSniffer) (identifier : TcpSessionIdentifier)
    (tcpPacket : TcpPacketData) (trySend : ClientId → TrySendResult) :
    List (ClientId × SniffedConnection) :=
  match st.lookup identifier with
  | some _ => []
  | none =>
      if treatAsNewSession isHttp tcpPacket.flags tcpPacket.bytes then
        (notifyClients st.clientTxs trySend ⟨identifier, st.nextChannel⟩
          (st.portSubscriptions.subscribers identifier.destPort)).2
      else []

theorem handlePacket_delivered (st : TcpConnectionSniffer) (identifier : TcpSessionIdentifier)
    (tcpPacket : TcpPacketData) (trySend : ClientId → TrySendResult) :
    (st.handlePacket isHttp identifier tcpPacket trySend).delivered =
      st.delivered ++ handedOver isHttp st identifier tcpPacket trySend := by
  unfold TcpConnectionSniffer.handlePacket handedOver
  cases st.lookup identifier with
  | some ch => simp
  | none =>
    by_cases ht : treatAsNewSession isHttp tcpPacket.flags tcpPacket.bytes
    · simp only [ht, Bool.not_true, Bool.false_eq_true, if_false, if_true]
      split
      · rename_i hs; simp [hs, notifyClients]
      · simp
    · simp [ht]

/-- The connections a step hands to clients. -/
def handedOnStep (st : TcpConnectionSniffer) : SnifferEvent → List (ClientId × SniffedConnection)
  | .packet identifier tcpPacket trySend => handedOver isHttp st identifier tcpPacket trySend
  | _ => []

theorem step_delivered {st st' : TcpConnectionSniffer} {e : SnifferEvent}
    (h : st.step isHttp e = .ok st') : st'.delivered = st.delivered ++ handedOnStep isHttp st e := by
  cases e with
  | packet => cases h; exact handlePacket_delivered isHttp _ _ _ _
  | newClient => cases h; simp [handedOnStep]
  | subscribe => obtain rfl := withSubscriptions_eq h; simp [handedOnStep]
  | unsubscribePort => obtain rfl := withSubscriptions_eq h; simp [handedOnStep]
  | clientClosed => obtain rfl := withSubscriptions_eq h; simp [handedOnStep]
  | dropReceiver => cases h; simp [handedOnStep]

/-- A client is handed a connection only for a packet that opens a session:
the flow had no entry, the client has a sender and subscribes to the
destination port, and the connection carries the packet's identifier and the
new channel. -/
theorem mem_handedOver {st : TcpConnectionSniffer} {identifier : TcpSessionIdentifier}
    {tcpPacket : TcpPacketData} {trySend : ClientId → TrySendResult} {c : ClientId}
    {conn : SniffedConnection} (h : (c, conn) ∈ handedOver isHttp st identifier tcpPacket trySend) :
    st.lookup identifier = none ∧ treatAsNewSession isHttp tcpPacket.flags tcpPacket.bytes = true ∧
      st.clientTxs c = true ∧ c ∈ st.portSubscriptions.subscribers identifier.destPort ∧
      trySend c = .ok ∧ conn = ⟨identifier, st.nextChannel⟩ := by
  unfold handedOver at h
  split at h
  · simp at h
  · rename_i hl
    split at h
    · rename_i ht
      rw [notifyClients_snd, List.mem_map] at h
      obtain ⟨c', hc', hcc⟩ := h
      simp only [Prod.mk.injEq] at hcc
      obtain ⟨rfl, rfl⟩ := hcc
      obtain ⟨hsub, htx, hsend⟩ := (mem_notifyClients_fst _ _ _).1 hc'
      exact ⟨hl, ht, htx, hsub, hsend, rfl⟩
    · simp at h

/-- A packet hands each client at most one connection. -/
theorem handedOver_nodup (st : TcpConnectionSniffer) (identifier : TcpSessionIdentifier)
    (tcpPacket : TcpPacketData) (trySend : ClientId → TrySendResult) :
    ((handedOver isHttp st identifier tcpPacket trySend).map (·.1)).Nodup := by
  unfold handedOver
  split
  · simp
  · split
    · rw [notifyClients_snd, List.map_map]
      exact ((st.portSubscriptions.nodup_subscribers _).sublist
        (notifyClients_fst_sublist _ _ _ _)).map_on fun _ _ _ _ h => h
    · simp

/-- A connection is handed over only by a packet. -/
theorem mem_handedOnStep {st : TcpConnectionSniffer} {e : SnifferEvent}
    {d : ClientId × SniffedConnection} (h : d ∈ handedOnStep isHttp st e) :
    ∃ identifier tcpPacket trySend, e = .packet identifier tcpPacket trySend ∧
      d ∈ handedOver isHttp st identifier tcpPacket trySend := by
  cases e <;> simp only [handedOnStep, List.not_mem_nil] at h
  exact ⟨_, _, _, rfl, h⟩

/-- No connection is handed over for a flow that has a live entry. -/
theorem handedOver_fresh {st : TcpConnectionSniffer} {s : TcpSessionIdentifier}
    (hs : st.lookup s ≠ none) {identifier : TcpSessionIdentifier} {tcpPacket : TcpPacketData}
    {trySend : ClientId → TrySendResult} {d : ClientId × SniffedConnection}
    (h : d ∈ handedOver isHttp st identifier tcpPacket trySend) : d.2.sessionId.eq s = false := by
  obtain ⟨hl, -, -, -, -, hconn⟩ := mem_handedOver isHttp h
  rw [hconn]
  cases hq : identifier.eq s
  · rfl
  · exact absurd (lookup_congr st hq ▸ hl) hs

/-- A client handed a connection by a packet holds a receiver of the new
channel, on which the packet's own payload comes first and which the packet
closes at once when it carries FIN or RST. -/
theorem handedOver_tracked {st : TcpConnectionSniffer} {identifier : TcpSessionIdentifier}
    {tcpPacket : TcpPacketData} {trySend : ClientId → TrySendResult} {c : ClientId}
    {conn : SniffedConnection} (h : (c, conn) ∈ handedOver isHttp st identifier tcpPacket trySend) :
    if eventCloses identifier (.packet identifier tcpPacket trySend) then
      SessionClosed (st.handlePacket isHttp identifier tcpPacket trySend) conn.data c
        (eventPayload identifier (.packet identifier tcpPacket trySend))
    else
      SessionOpen (st.handlePacket isHttp identifier tcpPacket trySend) identifier conn.data c
        (eventPayload identifier (.packet identifier tcpPacket trySend)) := by
  obtain ⟨hl, ht, htx, hsub, hsend, rfl⟩ := mem_handedOver isHttp h
  have hopen : SessionOpen (st.openSession identifier trySend
      (st.portSubscriptions.subscribers identifier.destPort)) identifier st.nextChannel c [] :=
    ⟨⟨identifier, by simp, eq_refl _⟩, _, (mem_notifyClients_fst _ _ _).2 ⟨hsub, htx, hsend⟩,
      by rw [openSession_channels, if_pos rfl]⟩
  have hpacket : st.handlePacket isHttp identifier tcpPacket trySend =
      (st.openSession identifier trySend (st.portSubscriptions.subscribers identifier.destPort)).sendData
        st.nextChannel tcpPacket := by
    simp only [TcpConnectionSniffer.handlePacket, hl, ht, Bool.not_true, Bool.false_eq_true, if_false]
    split
    · rename_i hnil; simp [hnil] at hsub
    · rfl
  rw [hpacket]
  simpa [eventCloses, eventPayload, eq_refl] using hopen.sendData tcpPacket

/-- Either way the client holds a receiver of the channel, whose log is the
one followed and whose sender is alive exactly while the session is. -/
theorem channel_of_tracked {st : TcpConnectionSniffer} {s : TcpSessionIdentifier} {ch : Nat}
    {c : ClientId} {acc : List (List UInt8)} {closes : Bool}
    (h : if closes then SessionClosed st ch c acc else SessionOpen st s ch c acc) :
    ∃ rs, c ∈ rs ∧ st.channels ch = some ⟨acc, rs, !closes⟩ := by
  cases closes
  · simp only [Bool.false_eq_true, if_false] at h; exact h.2
  · simp only [if_true] at h; exact h.2

/-- Over a run in which the client keeps its receiver, a followed channel
gains the flow's payloads up to the first FIN or RST unless it is closed
already, and is closed when it was or such a packet came. -/
theorem tracked_run {st st' : TcpConnectionSniffer} (hw : SessionsWellFormed st)
    {s : TcpSessionIdentifier} {ch : Nat} {c : ClientId} {acc : List (List UInt8)} {closes : Bool}
    (h : if closes then SessionClosed st ch c acc else SessionOpen st s ch c acc)
    {events : List SnifferEvent} (hr : st.run isHttp events = .ok st')
    (hdrop : ∀ e ∈ events, e ≠ .dropReceiver c ch) :
    ∃ rs, c ∈ rs ∧ st'.channels ch =
      some ⟨acc ++ (if closes then [] else sessionPayloads s events), rs,
        !(closes || sessionCloses s events)⟩ := by
  cases closes
  · simp only [Bool.false_eq_true, if_false] at h
    simpa using channel_of_tracked (h.run isHttp hw hr hdrop)
  · simp only [if_true] at h
    obtain ⟨-, rs, hc, hch⟩ := h.run isHttp hw hr hdrop
    exact ⟨rs, hc, by simpa using hch⟩

/-- Sniffed-session delivery over every run from a new sniffer.  A step hands
connections over only for a packet of a flow with no entry that starts a
session, to subscribers of the destination port that have a sender and that
the send reached, each client at most once, and never for a flow with a live
entry.  A client handed the connection of a session that keeps its receiver
reads on the session's channel exactly the flow's non-empty payloads, in either
direction, from the creating packet to the first FIN or RST, and the channel is
closed exactly when such a packet came. -/
theorem sniffed_session_delivery :
    (∀ (st st' : TcpConnectionSniffer) (e : SnifferEvent), st.step isHttp e = .ok st' →
      st'.delivered = st.delivered ++ handedOnStep isHttp st e) ∧
    (∀ (st : TcpConnectionSniffer) (e : SnifferEvent) (c : ClientId) (conn : SniffedConnection),
      (c, conn) ∈ handedOnStep isHttp st e → ∃ identifier tcpPacket trySend,
        e = .packet identifier tcpPacket trySend ∧ st.lookup identifier = none ∧
        treatAsNewSession isHttp tcpPacket.flags tcpPacket.bytes = true ∧
        st.clientTxs c = true ∧ c ∈ st.portSubscriptions.subscribers identifier.destPort ∧
        trySend c = .ok ∧ conn = ⟨identifier, st.nextChannel⟩) ∧
    (∀ (st : TcpConnectionSniffer) (e : SnifferEvent),
      ((handedOnStep isHttp st e).map (·.1)).Nodup ∧
      ∀ s, st.lookup s ≠ none → ∀ d ∈ handedOnStep isHttp st e, d.2.sessionId.eq s = false) ∧
    ∀ (before after : List SnifferEvent) (st final : TcpConnectionSniffer)
      (identifier : TcpSessionIdentifier) (tcpPacket : TcpPacketData)
      (trySend : ClientId → TrySendResult) (c : ClientId) (conn : SniffedConnection),
      new.run isHttp before = .ok st →
      st.run isHttp (.packet identifier tcpPacket trySend :: after) = .ok final →
      (c, conn) ∈ handedOnStep isHttp st (.packet identifier tcpPacket trySend) →
      (∀ e ∈ after, e ≠ .dropReceiver c conn.data) →
      ∃ rs, c ∈ rs ∧ final.channels conn.data = some
        ⟨sessionPayloads identifier (.packet identifier tcpPacket trySend :: after), rs,
          !sessionCloses identifier (.packet identifier tcpPacket trySend :: after)⟩ := by
  refine ⟨fun _ _ _ h => step_delivered isHttp h, fun st e c conn h => ?_, fun st e => ⟨?_, ?_⟩,
    fun before after st final identifier tcpPacket trySend c conn hbefore hrun h hdrop => ?_⟩
  · obtain ⟨identifier, tcpPacket, trySend, rfl, h⟩ := mem_handedOnStep isHttp h
    exact ⟨identifier, tcpPacket, trySend, rfl, mem_handedOver isHttp h⟩
  · cases e
    case packet => exact handedOver_nodup isHttp _ _ _ _
    all_goals exact List.nodup_nil
  · intro s hs d hd
    obtain ⟨_, _, _, -, hd'⟩ := mem_handedOnStep isHttp hd
    exact handedOver_fresh isHttp hs hd'
  · obtain ⟨st₁, h₁, hr⟩ := run_cons_eq_ok.1 hrun
    cases h₁
    have hw := run_wellFormed isHttp new_wellFormed hbefore
    exact tracked_run isHttp (hw.handlePacket isHttp _ _ _) (handedOver_tracked isHttp h) hr hdrop

end TcpConnectionSniffer
end Sniffer
end Mirrord
