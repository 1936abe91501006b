import BridgeSigner.Server.CheckpointRun

/-
  The requests of the service, and the gates in front of the
  other three signing operations (server/server.go,
  server/attestation.go, server/initial.go).

  The decoders of transactions and of addresses belong to
  libraries: they are parameters, and so are the hash and
  address functions. Each list of gates has an inversion
  lemma that says which requests pass.

  Key definitions include:
    * `Request`
    * `Libraries`
    * `signTxGates`
    * `attestationGates`
    * `initialGates`

  Main results:
    * `signTxGates_ok_iff`
    * `attestationGates_ok_iff`
    * `initialGates_ok_iff`
-/

------------------------------------------------------------
-- Requests
------------------------------------------------------------

namespace BridgeSigner

namespace Server

structure SignOracleAttestationRequest where
  queryId : Bytes
  value : Bytes
  timestamp : UInt64
  aggregatePower : UInt64
  previousTimestamp : UInt64
  nextTimestamp : UInt64
  valsetCheckpoint : Bytes
  attestationTimestamp : UInt64
  lastConsensusTimestamp : UInt64
  expectedSnapshot : Bytes
  requestId : Bytes
  deriving DecidableEq, Repr

/- A request of any method of the service. -/
inductive Request where
| sign (msg requestId : Bytes)
| getPublicKey
| signRaw (msg requestId : Bytes)
| getAddress (hrp : Bytes)
| signTx (signDoc requestId : Bytes)
| getChainID
| signBridgeCheckpoint (req : SignBridgeCheckpointRequest)
| signOracleAttestation (req : SignOracleAttestationRequest)
| signInitial (operatorAddress requestId : Bytes)
  deriving DecidableEq, Repr

/- A decoded `SignDoc`, as far as it is read. -/
structure SignDoc where
  bodyBytes : Bytes

/- A decoded `TxBody`: the type of every message. -/
structure TxBody where
  typeUrls : List Bytes

/- The library functions the server calls. -/
structure Libraries where
  keccak256 : Bytes → Bytes
  sha256 : Bytes → Bytes
  decompressPubkey : Bytes → Fallible Bytes
  pubkeyToAddress : Bytes → Bytes
  cosmosAddress : Bytes → Bytes
  decodeSignDoc : Bytes → Fallible SignDoc
  decodeTxBody : Bytes → Fallible TxBody
  decodeBech32 : Bytes → Fallible (Bytes × Bytes)
  encodeBech32 : Bytes → Bytes → Fallible Bytes

/- A library's result; its error is quoted in a status. -/
def orInvalid
    {α : Type}
    (format : String) :
    Fallible α → Except Status α
| .ok a => .ok a
| .error e => .error (invalidArgument format [.external e])

theorem orInvalid_ok_iff
    {α : Type}
    {format : String}
    {r : Fallible α}
    {a : α} :
    orInvalid format r = .ok a ↔ r = .ok a := by
  cases r with
  | ok b => simp [orInvalid]
  | error e => simp [orInvalid]

end Server

end BridgeSigner

------------------------------------------------------------
-- Transactions
------------------------------------------------------------

namespace BridgeSigner

namespace Server

/- The allowlist loop over the message types. -/
def checkTypes
    (allowed : List Bytes) :
    List Bytes → Except Status Unit
| [] => .ok ()
| typeURL :: rest => do
    ensure (allowed.contains typeURL)
      ⟨.permissionDenied, "message type %q is not allowed",
        [.text typeURL]⟩
    checkTypes allowed rest

/- The gates of `SignTx`. -/
def signTxGates
    (lib : Libraries)
    (allowed : List Bytes)
    (signDoc : Bytes) : Except Status Unit := do
  ensure (signDoc ≠ [])
    (invalidArgument "sign_doc must not be empty" [])
  let doc ← orInvalid "failed to decode sign_doc: %v"
    (lib.decodeSignDoc signDoc)
  let body ← orInvalid "failed to decode tx body: %v"
    (lib.decodeTxBody doc.bodyBytes)
  ensure (body.typeUrls ≠ [])
    ⟨.permissionDenied, "sign_doc carries no messages", []⟩
  checkTypes allowed body.typeUrls

theorem checkTypes_ok_iff
    {allowed types : List Bytes}
    {u : Unit} :
    checkTypes allowed types = .ok u ↔
      ∀ t ∈ types, t ∈ allowed := by
  induction types with
  | nil => simp [checkTypes]
  | cons t types ih =>
      simp [checkTypes, except_bind_ok_iff, ensure_ok_iff,
        ih]

/- The transactions that pass the gates. -/
theorem signTxGates_ok_iff
    {lib : Libraries}
    {allowed : List Bytes}
    {signDoc : Bytes}
    {u : Unit} :
    signTxGates lib allowed signDoc = .ok u ↔
      signDoc ≠ [] ∧
        ∃ doc body,
          lib.decodeSignDoc signDoc = .ok doc ∧
            lib.decodeTxBody doc.bodyBytes = .ok body ∧
            body.typeUrls ≠ [] ∧
            ∀ t ∈ body.typeUrls, t ∈ allowed := by
  simp only [signTxGates, except_bind_ok_iff,
    ensure_ok_iff, exists_const, orInvalid_ok_iff,
    checkTypes_ok_iff]
  constructor
  · rintro ⟨hDoc, doc, hDecode, body, hRest⟩
    exact ⟨hDoc, doc, body, hDecode, hRest⟩
  · rintro ⟨hDoc, doc, body, hDecode, hRest⟩
    exact ⟨hDoc, doc, hDecode, body, hRest⟩

end Server

end BridgeSigner

------------------------------------------------------------
-- Oracle Attestations
------------------------------------------------------------

namespace BridgeSigner

namespace Server

/- The attestation domain separator; it is not hashed. -/
def oracleAttestationDomainSeparator : Bytes :=
  ascii "tellorCurrentAttestation"

/- The arguments of an attestation, packed. -/
def encodeAttestationArgs
    (req : SignOracleAttestationRequest) : Bytes :=
  Abi.pack
    [.word (padRight 32 oracleAttestationDomainSeparator),
      .word (padRight 32 req.queryId),
      .bytes req.value,
      .word (Abi.uint256 req.timestamp.toNat),
      .word (Abi.uint256 req.aggregatePower.toNat),
      .word (Abi.uint256 req.previousTimestamp.toNat),
      .word (Abi.uint256 req.nextTimestamp.toNat),
      .word (padRight 32 req.valsetCheckpoint),
      .word (Abi.uint256 req.attestationTimestamp.toNat),
      .word (Abi.uint256 req.lastConsensusTimestamp.toNat)]

/- The snapshot of an attestation. -/
def encodeOracleAttestation
    (keccak256 : Bytes → Bytes)
    (req : SignOracleAttestationRequest) : Bytes :=
  keccak256 (encodeAttestationArgs req)

/- The gates of `SignOracleAttestation`. -/
def attestationGates
    (keccak256 : Bytes → Bytes)
    (req : SignOracleAttestationRequest) :
    Except Status Bytes := do
  ensure (¬(req.queryId.length = 0 ∨ 32 < req.queryId.length))
    (invalidArgument "query_id must be 1..32 bytes, got %d"
      [.num req.queryId.length])
  ensure32 "valset_checkpoint" req.valsetCheckpoint
  ensure32 "expected_snapshot" req.expectedSnapshot
  let snapshot := encodeOracleAttestation keccak256 req
  ensure (snapshot = req.expectedSnapshot)
    (invalidArgument "snapshot mismatch" [])
  .ok snapshot

/- The attestations that pass the gates. -/
theorem attestationGates_ok_iff
    {keccak256 : Bytes → Bytes}
    {req : SignOracleAttestationRequest}
    {snapshot : Bytes} :
    attestationGates keccak256 req = .ok snapshot ↔
      (0 < req.queryId.length ∧ req.queryId.length ≤ 32) ∧
        req.valsetCheckpoint.length = 32 ∧
        req.expectedSnapshot.length = 32 ∧
        encodeOracleAttestation keccak256 req =
          req.expectedSnapshot ∧
        snapshot = req.expectedSnapshot := by
  have hRange :
      ¬(req.queryId.length = 0 ∨
          32 < req.queryId.length) ↔
        0 < req.queryId.length ∧
          req.queryId.length ≤ 32 := by
    omega
  simp only [attestationGates, ensure32,
    except_bind_ok_iff, ensure_ok_iff, exists_const,
    Except.ok.injEq, hRange]
  constructor
  · rintro ⟨hQuery, hValset, hExpected, hEq, rfl⟩
    exact ⟨hQuery, hValset, hExpected, hEq, hEq⟩
  · rintro ⟨hQuery, hValset, hExpected, hEq, rfl⟩
    exact ⟨hQuery, hValset, hExpected, hEq, hEq⟩

end Server

end BridgeSigner

------------------------------------------------------------
-- Initial Registration
------------------------------------------------------------

namespace BridgeSigner

namespace Server

/- The two registration messages of an operator. -/
def initialRegistrationMessages
    (operatorAddress : Bytes) : Bytes × Bytes :=
  (ascii
      "TellorLayer: Initial bridge signature A for operator " ++
      operatorAddress,
    ascii
      "TellorLayer: Initial bridge signature B for operator " ++
      operatorAddress)

/- The digest signed for a registration message. -/
def initialSigningDigest
    (sha256 : Bytes → Bytes)
    (message : Bytes) : Bytes :=
  sha256 (sha256 message)

/- The digests signed for an operator. -/
def registrationDigests
    (sha256 : Bytes → Bytes)
    (operatorAddress : Bytes) : Bytes × Bytes :=
  let messages := initialRegistrationMessages operatorAddress
  (initialSigningDigest sha256 messages.1,
    initialSigningDigest sha256 messages.2)

/- The gates of `SignInitial`. -/
def initialGates
    (lib : Libraries)
    (selfCosmosAddr operatorAddress : Bytes) :
    Except Status Unit := do
  ensure (operatorAddress ≠ [])
    (invalidArgument "operator_address must not be empty" [])
  let decoded ← orInvalid "invalid operator_address: %v"
    (lib.decodeBech32 operatorAddress)
  ensure (decoded.2 = selfCosmosAddr)
    ⟨.permissionDenied,
      "operator_address does not derive from the signer key",
      []⟩

/- The operators that pass the gates. -/
theorem initialGates_ok_iff
    {lib : Libraries}
    {selfCosmosAddr operatorAddress : Bytes}
    {u : Unit} :
    initialGates lib selfCosmosAddr operatorAddress =
        .ok u ↔
      operatorAddress ≠ [] ∧
        ∃ hrp,
          lib.decodeBech32 operatorAddress =
            .ok (hrp, selfCosmosAddr) := by
  simp only [initialGates, except_bind_ok_iff,
    ensure_ok_iff, exists_const, orInvalid_ok_iff]
  constructor
  · rintro ⟨hNonempty, ⟨hrp, addr⟩, hDecode, rfl⟩
    exact ⟨hNonempty, hrp, hDecode⟩
  · rintro ⟨hNonempty, hrp, hDecode⟩
    exact ⟨hNonempty, _, hDecode, rfl⟩

end Server

end BridgeSigner
