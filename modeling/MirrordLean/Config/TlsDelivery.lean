import Mathlib

/-!
# mirrord config - Verifying the local TLS delivery

{lit}`LocalTlsDelivery` says how stolen TLS traffic reaches the local
application: over plain TCP, or over TLS with either trust roots or the
server's certificate chain, and an optional server name.
{lit}`LocalTlsDelivery::verify` checks the configuration: under TLS it refuses
trust roots together with a certificate and an empty list of trust roots; under
every protocol it refuses a server name that is neither a DNS name nor an IP
address.  Its match on TCP is commented "other settings are ignored", but the
server name is checked after the match, for TCP too.

Main results:

- Theorem {lit}`verify_default`: the default configuration passes.
- Theorem {lit}`verify_error_names_field`: every error names the field it
  checked and, for a bad value, that value.
- Theorem {lit}`verify_eq_ok_iff`: the configurations {lit}`verify` accepts.

Current gaps:

- {lit}`ServerName::try_from` of {lit}`rustls` is not among the sources: which
  strings are server names is the parameter {lit}`isServerName`.
- Paths are strings.
-/

namespace Mirrord
namespace Config

/-- {lit}`TlsDeliveryProtocol`, {lit}`Tls` by default. -/
inductive TlsDeliveryProtocol
  | tcp
  | tls
deriving DecidableEq, Repr

/-- {lit}`LocalTlsDelivery`. -/
structure LocalTlsDelivery where
  protocol : TlsDeliveryProtocol
  trustRoots : Option (List String)
  serverName : Option String
  serverCert : Option String
deriving DecidableEq, Repr

/-- The derived {lit}`Default`: TLS and nothing else set. -/
def LocalTlsDelivery.default : LocalTlsDelivery := ⟨.tls, none, none, none⟩

/-- The two {lit}`ConfigError` variants {lit}`verify` returns. -/
inductive ConfigError
  | conflict (message : String)
  | invalidValue (name provided error : String)
deriving DecidableEq, Repr

/-- The error of trust roots given together with a certificate. -/
def trustRootsConflict : ConfigError :=
  .conflict (".feature.network.incoming.tls_delivery.trust_roots and " ++
    ".feature.network.incoming.tls_delivery.server_cert cannot be specified together")

/-- The error of an empty list of trust roots. -/
def emptyTrustRoots : ConfigError :=
  .invalidValue ".feature.network.incoming.tls_delivery.trust_roots" "[]" "cannot be an empty list"

/-- The error of a server name that is not one. -/
def invalidServerName (serverName : String) : ConfigError :=
  .invalidValue ".feature.network.incoming.tls_delivery.server_name" serverName
    "must be a valid DNS name or an IP address"

/-- The match of {lit}`verify`, in its order: TCP passes, then trust roots
with a certificate, then empty trust roots. -/
def verifyProtocol : LocalTlsDelivery → Except ConfigError Unit
  | { protocol := .tcp, .. } => .ok ()
  | { trustRoots := some _, serverCert := some _, .. } => .error trustRootsConflict
  | { trustRoots := some roots, .. } => if roots.isEmpty then .error emptyTrustRoots else .ok ()
  | _ => .ok ()

/-- {lit}`LocalTlsDelivery::verify`: the match, then the server name. -/
def verify (isServerName : String → Bool) (c : LocalTlsDelivery) : Except ConfigError Unit := do
  verifyProtocol c
  match c.serverName with
  | some serverName => if isServerName serverName then .ok () else .error (invalidServerName serverName)
  | none => .ok ()

variable (isServerName : String → Bool)

/-- The default configuration passes. -/
theorem verify_default : verify isServerName LocalTlsDelivery.default = .ok () := rfl

/-- What the match refuses: under TLS, trust roots with a certificate, or an
empty list of trust roots. -/
theorem verifyProtocol_eq_ok_iff (c : LocalTlsDelivery) :
    verifyProtocol c = .ok () ↔
      c.protocol = .tcp ∨ (c.trustRoots = none ∨ c.serverCert = none) ∧ c.trustRoots ≠ some [] := by
  obtain ⟨_ | _, _ | ⟨_ | ⟨r, rs⟩⟩, n, _ | cert⟩ := c <;>
    simp [verifyProtocol, trustRootsConflict, emptyTrustRoots]

/-- The errors of the match: the conflict, for trust roots with a certificate,
and the empty list, for empty trust roots. -/
theorem verifyProtocol_error {c : LocalTlsDelivery} {e : ConfigError} (h : verifyProtocol c = .error e) :
    (e = trustRootsConflict ∧ c.trustRoots.isSome ∧ c.serverCert.isSome) ∨
      (e = emptyTrustRoots ∧ c.trustRoots = some []) := by
  obtain ⟨_ | _, _ | ⟨_ | ⟨r, rs⟩⟩, n, _ | cert⟩ := c <;> simp_all [verifyProtocol]

/-- Every error names the field it checked: the conflict both fields, and an
invalid value its field with the value given. -/
theorem verify_error_names_field {c : LocalTlsDelivery} {e : ConfigError}
    (h : verify isServerName c = .error e) :
    (e = trustRootsConflict ∧ c.trustRoots.isSome ∧ c.serverCert.isSome) ∨
      (e = emptyTrustRoots ∧ c.trustRoots = some []) ∨
      ∃ n, e = invalidServerName n ∧ c.serverName = some n ∧ isServerName n = false := by
  unfold verify at h
  cases hp : verifyProtocol c with
  | error e' =>
    simp only [hp, bind, Except.bind, Except.error.injEq] at h
    subst h
    exact (verifyProtocol_error hp).elim .inl (.inr ∘ .inl)
  | ok u =>
    simp only [hp, bind, Except.bind] at h
    cases hn : c.serverName with
    | none => simp [hn] at h
    | some n =>
      cases hs : isServerName n <;> simp only [hn, hs, if_true, if_false, Bool.false_eq_true,
        reduceCtorEq, Except.error.injEq] at h
      exact .inr (.inr ⟨n, h.symm, rfl, hs⟩)

/-- {lit}`verify` accepts a configuration exactly when, under TLS, trust roots
do not come with a certificate and are not an empty list, and, under either
protocol, a given server name is a DNS name or an IP address. -/
theorem verify_eq_ok_iff (c : LocalTlsDelivery) :
    verify isServerName c = .ok () ↔
      (c.protocol = .tcp ∨ (c.trustRoots = none ∨ c.serverCert = none) ∧ c.trustRoots ≠ some []) ∧
        ∀ n, c.serverName = some n → isServerName n = true := by
  rw [← verifyProtocol_eq_ok_iff]
  unfold verify
  cases verifyProtocol c with
  | error e => simp [bind, Except.bind]
  | ok u =>
    cases hn : c.serverName with
    | none => simp [bind, Except.bind]
    | some n => cases isServerName n <;> simp [bind, Except.bind, invalidServerName]

end Config
end Mirrord
