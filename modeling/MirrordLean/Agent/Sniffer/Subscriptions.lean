import Mathlib.Data.List.Dedup

/-!
# mirrord agent - Port subscriptions

The sniffer keeps which client wants the packets of which port in a
{lit}`util::Subscriptions<Port, ClientId>`.  That type is not among the
sources; it is modelled here from the spec: a many-to-many relation between
clients and ports, whose operations report whether the set of subscribed ports
(the topics, which drive the BPF filter) changed.

Main results:

- Definition {lit}`Subscriptions.subscribers`: the subscribers of a port, each
  listed once, as the {lit}`HashSet` the sniffer iterates.
- Theorem {lit}`Subscriptions.mem_subscribers_subscribe`: a client that
  subscribes to a port is among its subscribers.

Current gaps:

- The order in which a {lit}`HashSet` yields the subscribers is left open: it
  is the order of first subscription here.
-/

namespace Mirrord
namespace Sniffer

/-- {lit}`ClientId`: the number the agent gives a client. -/
abbrev ClientId := Nat

/-- {lit}`mirrord_protocol::Port`. -/
abbrev Port := UInt16

/-- Modelled from the spec: {lit}`util::Subscriptions<Port, ClientId>`, absent
from the sources, as the many-to-many relation between clients and ports the
spec describes, by its pairs. -/
structure Subscriptions where
  pairs : List (Port × ClientId)
deriving DecidableEq, Repr

namespace Subscriptions

/-- Modelled from the spec: the empty relation of {lit}`Default`. -/
def empty : Subscriptions := ⟨[]⟩

/-- Modelled from the spec: {lit}`get_topic_subscribers`, the clients
subscribed to a port, each once. -/
def subscribers (s : Subscriptions) (port : Port) : List ClientId :=
  ((s.pairs.filter (·.1 = port)).map (·.2)).dedup

/-- Modelled from the spec: {lit}`get_subscribed_topics`, the ports with a
subscriber. -/
def topics (s : Subscriptions) : List Port :=
  (s.pairs.map (·.1)).dedup

/-- Modelled from the spec: {lit}`subscribe`, reporting whether the port is a
new topic. -/
def subscribe (s : Subscriptions) (client : ClientId) (port : Port) : Bool × Subscriptions :=
  (decide (port ∉ s.topics),
    if (port, client) ∈ s.pairs then s else ⟨s.pairs ++ [(port, client)]⟩)

/-- Modelled from the spec: {lit}`unsubscribe`, reporting whether the port lost
its last subscriber. -/
def unsubscribe (s : Subscriptions) (client : ClientId) (port : Port) : Bool × Subscriptions :=
  let s' : Subscriptions := ⟨s.pairs.filter (· ≠ (port, client))⟩
  (decide ((port, client) ∈ s.pairs ∧ port ∉ s'.topics), s')

/-- Modelled from the spec: {lit}`remove_client`, reporting whether a port lost
its last subscriber. -/
def removeClient (s : Subscriptions) (client : ClientId) : Bool × Subscriptions :=
  let s' : Subscriptions := ⟨s.pairs.filter (·.2 ≠ client)⟩
  (decide (s'.topics.length ≠ s.topics.length), s')

theorem nodup_subscribers (s : Subscriptions) (port : Port) : (s.subscribers port).Nodup :=
  List.nodup_dedup _

theorem mem_subscribers {s : Subscriptions} {port : Port} {client : ClientId} :
    client ∈ s.subscribers port ↔ (port, client) ∈ s.pairs := by
  simp [subscribers, List.mem_dedup]

/-- A client that subscribes to a port is among its subscribers. -/
theorem mem_subscribers_subscribe (s : Subscriptions) (client : ClientId) (port : Port) :
    client ∈ (s.subscribe client port).2.subscribers port := by
  rw [mem_subscribers]
  unfold subscribe
  split <;> simp_all

end Subscriptions

end Sniffer
end Mirrord
