import MirrordLean.Agent.Sniffer.Session
import MirrordLean.Agent.Sniffer.Subscriptions

/-!
# mirrord agent - The TCP connection sniffer

{lit}`TcpConnectionSniffer` mirrors the TCP traffic of subscribed ports to its
clients.  A packet of an unknown flow that looks like the start of a session
creates a {lit}`broadcast` channel, hands each subscriber with a sender a
receiver through a non-blocking {lit}`try_send`, and files the channel's
sender under the packet's identifier.  Every packet of a known flow sends its
payload on the flow's channel; FIN or RST, or a send that finds no receiver
left, removes the session and so drops the sender.

The sniffer's loop handles commands, client closures and captured packets one
at a time; the model is a step function on the sniffer's state, with the
outcome of every {lit}`try_send` and every filter update chosen by the
environment.  A broadcast channel is the list of payloads sent on it and the
clients holding a receiver; a receiver that keeps up reads that list in order.

Main results:

- Definition {lit}`TcpConnectionSniffer.handlePacket`: {lit}`handle_packet`,
  with the connections handed to clients recorded.
- Definition {lit}`TcpConnectionSniffer.step`: one iteration of the loop of
  {lit}`start`, or a client dropping a receiver.

Current gaps:

- {lit}`HttpVersion::new` is not among the sources: whether a payload starts
  an HTTP/1 or HTTP/2 exchange is a parameter.
- The capture and its BPF filter are the environment: any packet may arrive,
  and any filter update may fail.
- Receivers are not read: lagging, and the lag error, are left out.
-/

namespace Mirrord
namespace Sniffer

/-- A {lit}`broadcast` channel of payloads: what was sent on it, in order, the
clients holding a receiver, and whether its sender is alive. -/
structure Broadcast where
  log : List (List UInt8)
  receivers : List ClientId
  senderAlive : Bool
deriving DecidableEq, Repr

/-- {lit}`SniffedConnection`: a session and a receiver of its channel. -/
structure SniffedConnection where
  sessionId : TcpSessionIdentifier
  data : Nat
deriving DecidableEq, Repr

/-- The outcome of {lit}`try_send` on a client's queue of new connections. -/
inductive TrySendResult
  | ok
  | full
  | closed
deriving DecidableEq, Repr

/-- The error {lit}`update_packet_filter` passes on when the capture refuses
the new filter. -/
inductive AgentError
  | setFilter
deriving DecidableEq, Repr

/-- {lit}`TcpConnectionSniffer`, without the capture and the command channel:
the subscriptions, the session map, the clients' senders, the channels the
sessions created (numbered in order of creation), and the connections handed
to clients so far. -/
structure TcpConnectionSniffer where
  portSubscriptions : Subscriptions
  sessions : List (TcpSessionIdentifier × Nat)
  clientTxs : ClientId → Bool
  channels : Nat → Option Broadcast
  nextChannel : Nat
  delivered : List (ClientId × SniffedConnection)

/-- An event of the sniffer's run: a command, a client closure or a captured
packet, each with the outcomes the environment chooses, or a client dropping a
receiver. -/
inductive SnifferEvent
  | newClient (clientId : ClientId)
  | subscribe (clientId : ClientId) (port : Port) (filterOk : Bool)
  | unsubscribePort (clientId : ClientId) (port : Port) (filterOk : Bool)
  | clientClosed (clientId : ClientId) (filterOk : Bool)
  | packet (identifier : TcpSessionIdentifier) (tcpPacket : TcpPacketData)
      (trySend : ClientId → TrySendResult)
  | dropReceiver (clientId : ClientId) (channel : Nat)

/-- {lit}`treat_as_new_session`: a SYN alone, or a payload that
{lit}`HttpVersion::new` recognises as HTTP/1 or HTTP/2. -/
def treatAsNewSession (isHttp : List UInt8 → Bool) (tcpFlags : UInt8) (bytes : List UInt8) :
    Bool :=
  isNewConnection tcpFlags || isHttp bytes

/-- The loop of {lit}`handle_packet` over the subscribers of a new session:
each subscriber with a sender gets a receiver through {lit}`try_send`, and a
failed send drops the receiver with the connection.  The clients left holding
a receiver, and the connections handed over in order. -/
def notifyClients (clientTxs : ClientId → Bool) (trySend : ClientId → TrySendResult)
    (connection : SniffedConnection) :
    List ClientId → List ClientId × List (ClientId × SniffedConnection)
  | [] => ([], [])
  | clientId :: rest =>
      let (receivers, handed) := notifyClients clientTxs trySend connection rest
      if clientTxs clientId && trySend clientId == .ok then
        (clientId :: receivers, (clientId, connection) :: handed)
      else (receivers, handed)

section NotifyClients

variable (clientTxs : ClientId → Bool) (trySend : ClientId → TrySendResult)
  (connection : SniffedConnection)

/-- A client holds a receiver when it is a subscriber with a sender that the
send reached. -/
theorem mem_notifyClients_fst {clientIds : List ClientId} {c : ClientId} :
    c ∈ (notifyClients clientTxs trySend connection clientIds).1 ↔
      c ∈ clientIds ∧ clientTxs c = true ∧ trySend c = .ok := by
  induction clientIds with
  | nil => simp [notifyClients]
  | cons d ds ih =>
    simp only [notifyClients]
    split <;> simp_all [or_and_right]
    by_cases h : c = d <;> simp_all

/-- The connections handed over are the connection, once to each client left
holding a receiver. -/
theorem notifyClients_snd (clientIds : List ClientId) :
    (notifyClients clientTxs trySend connection clientIds).2 =
      (notifyClients clientTxs trySend connection clientIds).1.map fun c => (c, connection) := by
  induction clientIds with
  | nil => rfl
  | cons d ds ih => simp only [notifyClients]; split <;> simp [ih]

/-- The clients left holding a receiver are among the subscribers, in order. -/
theorem notifyClients_fst_sublist (clientIds : List ClientId) :
    (notifyClients clientTxs trySend connection clientIds).1.Sublist clientIds := by
  induction clientIds with
  | nil => exact .slnil
  | cons d ds ih => simp only [notifyClients]; split <;> simp [ih, List.Sublist.cons]

end NotifyClients

namespace TcpConnectionSniffer

/-- A sniffer with no client, subscription or session. -/
def new : TcpConnectionSniffer :=
  ⟨.empty, [], fun _ => false, fun _ => none, 0, []⟩

/-- {lit}`sessions.entry(identifier)`: the channel filed under a key equal to
the identifier. -/
def lookup (st : TcpConnectionSniffer) (identifier : TcpSessionIdentifier) : Option Nat :=
  (st.sessions.find? fun e => e.1.eq identifier).map (·.2)

/-- Apply a change to one channel. -/
def updateChannel (st : TcpConnectionSniffer) (ch : Nat) (f : Broadcast → Broadcast) :
    TcpConnectionSniffer :=
  { st with channels := fun c => if c = ch then (st.channels ch).map f else st.channels c }

section UpdateChannel

variable (st : TcpConnectionSniffer) (ch : Nat) (f : Broadcast → Broadcast)

@[simp] theorem updateChannel_sessions : (st.updateChannel ch f).sessions = st.sessions := rfl
@[simp] theorem updateChannel_nextChannel : (st.updateChannel ch f).nextChannel = st.nextChannel := rfl
@[simp] theorem updateChannel_delivered : (st.updateChannel ch f).delivered = st.delivered := rfl

theorem updateChannel_channels (c : Nat) :
    (st.updateChannel ch f).channels c = if c = ch then (st.channels ch).map f else st.channels c :=
  rfl

end UpdateChannel

/-- Whether a channel has a receiver, so that a send on it succeeds. -/
def hasReceivers (st : TcpConnectionSniffer) (ch : Nat) : Bool :=
  match st.channels ch with
  | some b => !b.receivers.isEmpty
  | none => false

/-- {lit}`OccupiedEntry::remove`: the session of the channel leaves the map,
and its dropped sender closes the channel. -/
def removeSession (st : TcpConnectionSniffer) (ch : Nat) : TcpConnectionSniffer :=
  { st.updateChannel ch fun b => { b with senderAlive := false } with
    sessions := st.sessions.filter fun e => e.2 != ch }

section RemoveSession

variable (st : TcpConnectionSniffer) (ch : Nat)

@[simp] theorem removeSession_sessions :
    (st.removeSession ch).sessions = st.sessions.filter fun e => e.2 != ch := rfl
@[simp] theorem removeSession_nextChannel : (st.removeSession ch).nextChannel = st.nextChannel := rfl
@[simp] theorem removeSession_delivered : (st.removeSession ch).delivered = st.delivered := rfl

theorem removeSession_channels (c : Nat) :
    (st.removeSession ch).channels c =
      if c = ch then (st.channels ch).map (fun b => { b with senderAlive := false })
      else st.channels c := rfl

end RemoveSession

/-- {lit}`send` on a channel with a receiver: a non-empty payload joins the log. -/
def sendPayload (st : TcpConnectionSniffer) (ch : Nat) (bytes : List UInt8) : TcpConnectionSniffer :=
  if bytes = [] then st else st.updateChannel ch fun b => { b with log := b.log ++ [bytes] }

/-- The end of {lit}`handle_packet` once the channel is known: send a
non-empty payload, removing the session when no receiver is left, then remove
the session on FIN or RST. -/
def sendData (st : TcpConnectionSniffer) (ch : Nat) (tcpPacket : TcpPacketData) :
    TcpConnectionSniffer :=
  if tcpPacket.bytes ≠ [] ∧ st.hasReceivers ch = false then st.removeSession ch
  else
    let st := st.sendPayload ch tcpPacket.bytes
    if isClosedConnection tcpPacket.flags then st.removeSession ch else st

section SendData

variable (st : TcpConnectionSniffer) (ch : Nat) (tcpPacket : TcpPacketData)

@[simp] theorem sendPayload_sessions (bytes : List UInt8) :
    (st.sendPayload ch bytes).sessions = st.sessions := by
  unfold sendPayload; split <;> rfl

theorem sendPayload_channels (bytes : List UInt8) (c : Nat) :
    (st.sendPayload ch bytes).channels c =
      if c = ch ∧ bytes ≠ [] then (st.channels ch).map fun b => { b with log := b.log ++ [bytes] }
      else st.channels c := by
  unfold sendPayload
  by_cases hb : bytes = [] <;> by_cases hc : c = ch <;> simp [hb, hc, updateChannel_channels]

/-- With a receiver on the channel the send goes through. -/
theorem sendData_of_hasReceivers (h : st.hasReceivers ch = true) :
    st.sendData ch tcpPacket =
      if isClosedConnection tcpPacket.flags then (st.sendPayload ch tcpPacket.bytes).removeSession ch
      else st.sendPayload ch tcpPacket.bytes := by
  simp [sendData, h]

@[simp]
theorem sendData_nextChannel : (st.sendData ch tcpPacket).nextChannel = st.nextChannel := by
  unfold sendData sendPayload; split <;> (try split) <;> (try split) <;> rfl

@[simp]
theorem sendData_delivered : (st.sendData ch tcpPacket).delivered = st.delivered := by
  unfold sendData sendPayload; split <;> (try split) <;> (try split) <;> rfl

/-- Sending on a channel leaves the other channels alone. -/
theorem sendData_channels_ne {c : Nat} (h : c ≠ ch) :
    (st.sendData ch tcpPacket).channels c = st.channels c := by
  unfold sendData
  split
  · simp [removeSession_channels, h]
  · split <;> simp [removeSession_channels, sendPayload_channels, h]

/-- Sending on a channel keeps the map, or removes the channel's session. -/
theorem sendData_sessions :
    (st.sendData ch tcpPacket).sessions = st.sessions ∨
      (st.sendData ch tcpPacket).sessions = st.sessions.filter fun e => e.2 != ch := by
  unfold sendData
  split
  · exact .inr rfl
  · split <;> simp

end SendData

/-- A new session: a channel, a receiver for each subscriber the
{lit}`try_send` reaches, and the channel's sender filed under the
identifier. -/
def openSession (st : TcpConnectionSniffer) (identifier : TcpSessionIdentifier)
    (trySend : ClientId → TrySendResult) (clientIds : List ClientId) : TcpConnectionSniffer :=
  let ch := st.nextChannel
  let notified := notifyClients st.clientTxs trySend ⟨identifier, ch⟩ clientIds
  { st with
    sessions := st.sessions ++ [(identifier, ch)]
    channels := fun c => if c = ch then some ⟨[], notified.1, true⟩ else st.channels c
    nextChannel := ch + 1
    delivered := st.delivered ++ notified.2 }

section OpenSession

variable (st : TcpConnectionSniffer) (identifier : TcpSessionIdentifier)
  (trySend : ClientId → TrySendResult) (clientIds : List ClientId)

@[simp] theorem openSession_sessions :
    (st.openSession identifier trySend clientIds).sessions =
      st.sessions ++ [(identifier, st.nextChannel)] := rfl
@[simp] theorem openSession_nextChannel :
    (st.openSession identifier trySend clientIds).nextChannel = st.nextChannel + 1 := rfl
@[simp] theorem openSession_delivered :
    (st.openSession identifier trySend clientIds).delivered =
      st.delivered ++ (notifyClients st.clientTxs trySend ⟨identifier, st.nextChannel⟩ clientIds).2 :=
  rfl

theorem openSession_channels (c : Nat) :
    (st.openSession identifier trySend clientIds).channels c =
      if c = st.nextChannel then
        some ⟨[], (notifyClients st.clientTxs trySend ⟨identifier, st.nextChannel⟩ clientIds).1, true⟩
      else st.channels c := rfl

end OpenSession

/-- {lit}`handle_packet`: the flow's channel, or a new session when the packet
starts one and its port has subscribers; then the payload is sent. -/
def handlePacket (isHttp : List UInt8 → Bool) (st : TcpConnectionSniffer)
    (identifier : TcpSessionIdentifier) (tcpPacket : TcpPacketData)
    (trySend : ClientId → TrySendResult) : TcpConnectionSniffer :=
  match st.lookup identifier with
  | some ch => st.sendData ch tcpPacket
  | none =>
      if !treatAsNewSession isHttp tcpPacket.flags tcpPacket.bytes then st
      else
        match st.portSubscriptions.subscribers identifier.destPort with
        | [] => st
        | clientIds => (st.openSession identifier trySend clientIds).sendData st.nextChannel tcpPacket

/-- {lit}`update_packet_filter`: the capture takes the new filter, or refuses it. -/
def updatePacketFilter (filterOk : Bool) : Except AgentError Unit :=
  if filterOk then .ok () else .error .setFilter

/-- A subscription change, followed by a filter update when the topics changed. -/
def withSubscriptions (st : TcpConnectionSniffer) (change : Bool × Subscriptions)
    (filterOk : Bool) : Except AgentError TcpConnectionSniffer :=
  let st := { st with portSubscriptions := change.2 }
  if change.1 then (updatePacketFilter filterOk).map fun _ => st else .ok st

/-- One event of the sniffer's run: {lit}`handle_command`,
{lit}`handle_client_closed` or {lit}`handle_packet`, or a client dropping the
receiver of a channel. -/
def step (isHttp : List UInt8 → Bool) (st : TcpConnectionSniffer) :
    SnifferEvent → Except AgentError TcpConnectionSniffer
  | .newClient clientId => .ok { st with clientTxs := fun c => c = clientId || st.clientTxs c }
  | .subscribe clientId port filterOk =>
      st.withSubscriptions (st.portSubscriptions.subscribe clientId port) filterOk
  | .unsubscribePort clientId port filterOk =>
      st.withSubscriptions (st.portSubscriptions.unsubscribe clientId port) filterOk
  | .clientClosed clientId filterOk =>
      { st with clientTxs := fun c => c != clientId && st.clientTxs c }.withSubscriptions
        (st.portSubscriptions.removeClient clientId) filterOk
  | .packet identifier tcpPacket trySend => .ok (st.handlePacket isHttp identifier tcpPacket trySend)
  | .dropReceiver clientId ch =>
      .ok (st.updateChannel ch fun b => { b with receivers := b.receivers.erase clientId })

/-- A run of the sniffer: the events in order, until one fails. -/
def run (isHttp : List UInt8 → Bool) (st : TcpConnectionSniffer) (events : List SnifferEvent) :
    Except AgentError TcpConnectionSniffer :=
  events.foldlM (step isHttp) st

@[simp]
theorem run_nil (isHttp : List UInt8 → Bool) (st : TcpConnectionSniffer) :
    st.run isHttp [] = .ok st := rfl

/-- A run goes through when its first event does and the rest of the run does. -/
theorem run_cons_eq_ok {isHttp : List UInt8 → Bool} {st st' : TcpConnectionSniffer}
    {e : SnifferEvent} {events : List SnifferEvent} :
    st.run isHttp (e :: events) = .ok st' ↔
      ∃ st₁, st.step isHttp e = .ok st₁ ∧ st₁.run isHttp events = .ok st' := by
  simp only [run, List.foldlM_cons]
  cases st.step isHttp e with
  | error => simp [bind, Except.bind]
  | ok st₁ => simp [bind, Except.bind]

end TcpConnectionSniffer

end Sniffer
end Mirrord
