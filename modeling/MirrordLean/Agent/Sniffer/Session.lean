import Mathlib.Data.List.Basic

/-!
# mirrord agent - TCP session identifiers

The sniffer keys its sessions by the four-tuple of a captured packet, and both
directions of a flow must find the same session.  {lit}`TcpSessionIdentifier`
therefore implements {lit}`PartialEq` as "the same four-tuple or the reversed
one", and {lit}`Hash` so that it writes the two addresses and the two ports
each greater first.  A {lit}`HashMap` is only a map on such keys when the
equality is an equivalence and equal keys feed every hasher the same values.

Main results:

- Theorem {lit}`TcpSessionIdentifier.eq_iff`: two identifiers are equal
  exactly when one is the other or its reverse.
- Theorems {lit}`TcpSessionIdentifier.eq_refl`, {lit}`eq_symm` and
  {lit}`eq_trans`: the equality is an equivalence.
- Theorem {lit}`TcpSessionIdentifier.hashFeed_eq_of_eq`: equal identifiers feed
  a hasher the same values, so every hasher ends in the same state.

Current gaps:

- An address or a port is fed as one value; the bytes its own {lit}`Hash`
  writes are a function of it and are not spelled out.
-/

namespace Mirrord
namespace Sniffer

/-- {lit}`Ipv4Addr`, by its 32 bits; its order compares the octets from the
first, which is the order of the bits read as a number. -/
abbrev Ipv4Addr := UInt32

/-- {lit}`TcpSessionIdentifier`: the four-tuple of a captured packet. -/
structure TcpSessionIdentifier where
  sourceAddr : Ipv4Addr
  destAddr : Ipv4Addr
  sourcePort : UInt16
  destPort : UInt16
deriving DecidableEq, Repr

namespace TcpSessionIdentifier

/-- {lit}`PartialEq::eq`: the same four-tuple, or the opposite one. -/
def eq (a b : TcpSessionIdentifier) : Bool :=
  a.sourceAddr == b.sourceAddr && a.destAddr == b.destAddr &&
      a.sourcePort == b.sourcePort && a.destPort == b.destPort ||
    a.sourceAddr == b.destAddr && a.destAddr == b.sourceAddr &&
      a.sourcePort == b.destPort && a.destPort == b.sourcePort

/-- The identifier of the other direction of the flow. -/
def reverse (a : TcpSessionIdentifier) : TcpSessionIdentifier :=
  ⟨a.destAddr, a.sourceAddr, a.destPort, a.sourcePort⟩

@[simp]
theorem reverse_reverse (a : TcpSessionIdentifier) : a.reverse.reverse = a := rfl

/-- Two identifiers are equal exactly when one is the other or its reverse. -/
theorem eq_iff (a b : TcpSessionIdentifier) : a.eq b = true ↔ b = a ∨ b = a.reverse := by
  obtain ⟨s, d, sp, dp⟩ := a
  obtain ⟨s', d', sp', dp'⟩ := b
  simp only [eq, reverse, Bool.or_eq_true, Bool.and_eq_true, beq_iff_eq, mk.injEq]
  constructor <;> rintro (⟨⟨⟨h1, h2⟩, h3⟩, h4⟩ | ⟨⟨⟨h1, h2⟩, h3⟩, h4⟩) <;> simp_all

theorem eq_refl (a : TcpSessionIdentifier) : a.eq a = true :=
  (eq_iff a a).2 (.inl rfl)

theorem eq_symm {a b : TcpSessionIdentifier} (h : a.eq b = true) : b.eq a = true := by
  rcases (eq_iff a b).1 h with rfl | rfl
  · exact eq_refl b
  · exact (eq_iff _ _).2 (.inr rfl)

theorem eq_trans {a b c : TcpSessionIdentifier} (hab : a.eq b = true) (hbc : b.eq c = true) :
    a.eq c = true := by
  rw [eq_iff] at hab hbc ⊢
  rcases hab with rfl | rfl <;> rcases hbc with rfl | rfl <;> simp

/-- Packets of the other direction carry an equal identifier. -/
theorem eq_reverse (a : TcpSessionIdentifier) : a.eq a.reverse = true :=
  (eq_iff _ _).2 (.inr rfl)

/-! ## Hashing -/

/-- A value {lit}`Hash::hash` writes to the hasher: an address or a port. -/
inductive HashInput
  | addr (a : Ipv4Addr)
  | port (p : UInt16)
deriving DecidableEq, Repr

/-- The first {lit}`if` of {lit}`Hash::hash`: the two addresses, the greater
first. -/
def addrPair (source dest : Ipv4Addr) : List HashInput :=
  if source > dest then [.addr source, .addr dest] else [.addr dest, .addr source]

/-- The second {lit}`if` of {lit}`Hash::hash`: the two ports, the greater
first. -/
def portPair (source dest : UInt16) : List HashInput :=
  if source > dest then [.port source, .port dest] else [.port dest, .port source]

/-- The values {lit}`Hash::hash` writes, in order. -/
def hashFeed (a : TcpSessionIdentifier) : List HashInput :=
  addrPair a.sourceAddr a.destAddr ++ portPair a.sourcePort a.destPort

/-- {lit}`Hash::hash` into a hasher given by its state and its write. -/
def hash {σ : Type} (write : σ → HashInput → σ) (state : σ) (a : TcpSessionIdentifier) : σ :=
  a.hashFeed.foldl write state

theorem addrPair_comm (x y : Ipv4Addr) : addrPair y x = addrPair x y := by
  unfold addrPair
  by_cases h : x < y <;> by_cases h' : y < x
  · exact absurd h (UInt32.lt_asymm h')
  · simp [h, h']
  · simp [h, h']
  · obtain rfl : x = y := UInt32.toNat.inj (by
      have a : ¬ x.toNat < y.toNat := h
      have b : ¬ y.toNat < x.toNat := h'
      omega)
    rfl

theorem portPair_comm (x y : UInt16) : portPair y x = portPair x y := by
  unfold portPair
  by_cases h : x < y <;> by_cases h' : y < x
  · exact absurd h (UInt16.lt_asymm h')
  · simp [h, h']
  · simp [h, h']
  · obtain rfl : x = y := UInt16.toNat.inj (by
      have a : ¬ x.toNat < y.toNat := h
      have b : ¬ y.toNat < x.toNat := h'
      omega)
    rfl

/-- The reverse of an identifier feeds the hasher the same values. -/
theorem hashFeed_reverse (a : TcpSessionIdentifier) : a.reverse.hashFeed = a.hashFeed := by
  simp only [hashFeed, reverse, addrPair_comm, portPair_comm]

/-- Equal identifiers feed every hasher the same values. -/
theorem hashFeed_eq_of_eq {a b : TcpSessionIdentifier} (h : a.eq b = true) :
    a.hashFeed = b.hashFeed := by
  rcases (eq_iff a b).1 h with rfl | rfl
  · rfl
  · exact (hashFeed_reverse a).symm

end TcpSessionIdentifier

/-! ## Packets -/

/-- {lit}`TcpFlags::FIN` of {lit}`pnet`. -/
def TcpFlags.fin : UInt8 := 1

/-- {lit}`TcpFlags::SYN`. -/
def TcpFlags.syn : UInt8 := 2

/-- {lit}`TcpFlags::RST`. -/
def TcpFlags.rst : UInt8 := 4

/-- {lit}`TcpFlags::ACK`. -/
def TcpFlags.ack : UInt8 := 16

/-- {lit}`is_new_connection`: SYN without ACK, RST or FIN. -/
def isNewConnection (flags : UInt8) : Bool :=
  0 != (flags &&& TcpFlags.syn) && 0 == (flags &&& (TcpFlags.ack ||| TcpFlags.rst ||| TcpFlags.fin))

/-- {lit}`is_closed_connection`: FIN or RST. -/
def isClosedConnection (flags : UInt8) : Bool :=
  0 != (flags &&& (TcpFlags.fin ||| TcpFlags.rst))

/-- {lit}`TcpPacketData`: a captured packet's payload and flags. -/
structure TcpPacketData where
  bytes : List UInt8
  flags : UInt8
deriving DecidableEq, Repr

end Sniffer
end Mirrord
