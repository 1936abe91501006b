import BridgeSigner.Server.Status
import BridgeSigner.Consensus.Primary

/-
  The unary interceptors in front of the RPC handlers
  (server/auth.go, server/server.go).

  An interceptor lets a call through (`none`) or answers it
  itself. The enabled gate turns away methods that are
  switched off; the primary gate turns away the vote
  extension methods unless they come from the host of the
  elected consensus primary.

  Key definitions include:
    * `newEnabledRPCInterceptor`
    * `newPrimaryGateInterceptor`
    * `DialTarget`

  Main results:
    * `hostOf_dialTarget`
    * `hostOf_tcpAddr`
    * `primary_passes_iff_canonical_host`
-/

------------------------------------------------------------
-- Methods
------------------------------------------------------------

namespace BridgeSigner

namespace Server

/- The methods of the service. -/
inductive Method where
| sign
| getPublicKey
| signRaw
| getAddress
| signTx
| getChainID
| signBridgeCheckpoint
| signOracleAttestation
| signInitial
  deriving DecidableEq, Repr

/- The name of a method within the service. -/
def Method.name : Method → String
| .sign => "Sign"
| .getPublicKey => "GetPublicKey"
| .signRaw => "SignRaw"
| .getAddress => "GetAddress"
| .signTx => "SignTx"
| .getChainID => "GetChainID"
| .signBridgeCheckpoint => "SignBridgeCheckpoint"
| .signOracleAttestation => "SignOracleAttestation"
| .signInitial => "SignInitial"

/- The fully qualified name of a method. -/
def Method.full
    (m : Method) : Bytes :=
  ascii "/signer.v1.BridgeSigner/" ++ ascii m.name

end Server

end BridgeSigner

------------------------------------------------------------
-- Interceptors
------------------------------------------------------------

namespace BridgeSigner

namespace Server

/- Turn away a method that is switched off. -/
def newEnabledRPCInterceptor
    (enabled : List (Bytes × Bool))
    (fullMethod : Bytes) : Option Status :=
  if enabled.lookup fullMethod = some false then
    some ⟨.unimplemented, "method %s is disabled",
      [.text fullMethod]⟩
  else
    none

/- The per-block vote extension methods. -/
def primaryGatedRPCs : List Bytes :=
  [Method.signBridgeCheckpoint.full,
    Method.signOracleAttestation.full]

/-
  Turn away the gated methods unless the peer is on the host
  of the primary. There may be no election (`none`), no
  primary yet (the empty host) or no known peer: the call
  passes then.
-/
def newPrimaryGateInterceptor
    (primaryHost : Option Bytes)
    (fullMethod : Bytes)
    (peer : Option Bytes) : Option Status :=
  match primaryHost with
  | none => none
  | some want =>
      if fullMethod ∉ primaryGatedRPCs then
        none
      else if want = [] then
        none
      else
        match peer with
        | none => none
        | some addr =>
            if Consensus.hostOf addr = want then
              none
            else
              some ⟨.failedPrecondition,
                "not the primary signer", []⟩

end Server

end BridgeSigner

------------------------------------------------------------
-- Dial Targets And Peers
------------------------------------------------------------

namespace BridgeSigner

namespace Server

/-
  A dial target: an optional scheme, and an address that
  splits into a host and a port however it is written.
-/
structure DialTarget where
  scheme : Option Bytes
  addr : Bytes
  host : Bytes
  port : Bytes
  scheme_plain : ∀ s ∈ scheme, 58 ∉ s
  addr_plain :
    scheme = none → afterFirst (ascii "://") addr = none
  splits : splitHostPort addr = .ok (host, port)
  host_nonempty : host ≠ []

/- The target as it is written in the configuration. -/
def DialTarget.text
    (t : DialTarget) : Bytes :=
  match t.scheme with
  | none => t.addr
  | some s => s ++ (ascii "://" ++ t.addr)

theorem joinHostPort_ne_nil
    (host port : Bytes) :
    joinHostPort host port ≠ [] := by
  unfold joinHostPort
  split
  · simp
  · simp

theorem DialTarget.addr_ne_nil
    (t : DialTarget) :
    t.addr ≠ [] := by
  intro hNil
  have hSplits := t.splits
  rw [hNil] at hSplits
  cases hSplits

/- The host of a target, without its scheme and its port. -/
theorem hostOf_dialTarget
    (t : DialTarget) :
    Consensus.hostOf t.text = t.host := by
  unfold DialTarget.text
  split
  · rename_i hScheme
    exact Consensus.hostOf_of_splits t.addr_ne_nil
      (t.addr_plain hScheme) t.splits
  · rename_i s hScheme
    exact Consensus.hostOf_of_scheme
      (afterFirst_of_not_mem (c := 58) (by decide)
        (t.scheme_plain s hScheme))
      t.splits

/- The host of a peer, without its port. -/
theorem hostOf_tcpAddr
    (a : TCPAddr) :
    Consensus.hostOf a.text = a.host := by
  have hAfter : afterFirst (ascii "://") a.text = none :=
    afterFirst_of_not_mem (c := 47) (by decide)
      a.slash_not_mem_text
  have hNe : a.text ≠ [] := joinHostPort_ne_nil _ _
  exact Consensus.hostOf_of_splits hNe hAfter
    a.splitHostPort_text

end Server

end BridgeSigner

------------------------------------------------------------
-- The Primary's Own Requests
------------------------------------------------------------

namespace BridgeSigner

namespace Server

/- The gate compares the text of the target's host. -/
theorem primaryGate_passes_iff
    {t : DialTarget}
    {a : Consensus.PrimaryArbiter}
    (hPrimary : a.primary = t.text)
    {fullMethod : Bytes}
    (hGated : fullMethod ∈ primaryGatedRPCs)
    (peer : TCPAddr) :
    newPrimaryGateInterceptor (some a.primaryHost)
          fullMethod (some peer.text) =
        none ↔
      t.host = peer.host := by
  have hWant : a.primaryHost = t.host := by
    rw [Consensus.PrimaryArbiter.primaryHost, hPrimary,
      hostOf_dialTarget]
  rw [newPrimaryGateInterceptor, hWant, hostOf_tcpAddr]
  simp only [hGated, not_true_eq_false, if_false,
    t.host_nonempty]
  by_cases hHost : peer.host = t.host
  · simp [hHost]
  · simp [hHost, Ne.symm hHost]

/-
  A peer on the very address that dialling the elected target
  connects to gets through exactly when the target's host is
  written as the canonical text of that address, with the
  zone of the peer.
-/
theorem primary_passes_iff_canonical_host
    (dial : DialTarget → Option TCPAddr)
    (t : DialTarget)
    (conn peer : TCPAddr)
    (a : Consensus.PrimaryArbiter)
    (fullMethod : Bytes)
    (hGated : fullMethod ∈ primaryGatedRPCs)
    (hPrimary : a.primary = t.text)
    (hDial : dial t = some conn)
    (hAddress : peer.ip = conn.ip) :
    newPrimaryGateInterceptor (some a.primaryHost)
          fullMethod (some peer.text) =
        none ↔
      (dial t).map (fun c => c.ip.zoned peer.zone) =
        some t.host := by
  have hHost : peer.host = conn.ip.zoned peer.zone := by
    rw [TCPAddr.host, hAddress]
  rw [primaryGate_passes_iff hPrimary hGated, hHost, hDial]
  simp [eq_comm]

/- The first target of the default configuration. -/
def defaultTarget : DialTarget where
  scheme := some (ascii "tcp")
  addr := ascii "layer:26659"
  host := ascii "layer"
  port := ascii "26659"
  scheme_plain := by
    rintro s ⟨⟩
    decide
  addr_plain := nofun
  splits := by decide
  host_nonempty := by decide

/- A target written with an IPv4 address. -/
def literalTarget : DialTarget :=
  { defaultTarget with
    addr := ascii "172.18.0.2:26659"
    host := ascii "172.18.0.2"
    addr_plain := nofun
    splits := by decide
    host_nonempty := by decide }

/- The container that both targets lead to. -/
def layerAddr
    (port : UInt16) : TCPAddr where
  ip := IP.v4 172 18 0 2
  zone := []
  port := port
  zone_plain := by decide

/- Dialling, where the name `layer` is the container's. -/
def layerDial
    (t : DialTarget) : Option TCPAddr :=
  if t.host = ascii "layer" ∨
      t.host = ascii "172.18.0.2" then
    some (layerAddr 26659)
  else
    none

/- An arbiter that has elected a target. -/
def electing
    (t : DialTarget) : Consensus.PrimaryArbiter :=
  { Consensus.newPreferringPrimaryArbiter 10 [] with
    primary := t.text }

/- A target written as its address gets through. -/
theorem literal_primary_passes :
    newPrimaryGateInterceptor
        (some (electing literalTarget).primaryHost)
        Method.signBridgeCheckpoint.full
        (some (layerAddr 40000).text) =
      none :=
  (primary_passes_iff_canonical_host
    layerDial literalTarget (layerAddr 26659) (layerAddr 40000)
    (electing literalTarget)
    Method.signBridgeCheckpoint.full (by decide) rfl rfl
    rfl).mpr (by decide)

/-
  The default target `tcp://layer:26659` is the primary, and
  the peer connects from the address that dialling the target
  connects to; it is refused.
-/
theorem default_primary_refused :
    (electing defaultTarget).primary =
        ascii "tcp://layer:26659" ∧
      layerDial defaultTarget = some (layerAddr 26659) ∧
      (layerAddr 26659).text = ascii "172.18.0.2:26659" ∧
      (layerAddr 40000).text = ascii "172.18.0.2:40000" ∧
        newPrimaryGateInterceptor
            (some (electing defaultTarget).primaryHost)
            Method.signBridgeCheckpoint.full
            (some (layerAddr 40000).text) =
          some ⟨.failedPrecondition,
            "not the primary signer", []⟩ := by
  refine ⟨by decide, rfl, by decide, by decide, by decide⟩

end Server

end BridgeSigner
