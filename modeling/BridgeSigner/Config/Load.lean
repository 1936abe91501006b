import BridgeSigner.Foundation.Path
import BridgeSigner.Foundation.Gates
import BridgeSigner.Consensus.Messages

/-
  The configuration of the daemon (config/config.go), from
  the decoded YAML on.

  `Load` fills in the defaults and then validates. What the
  file system says about a path, and what a duration text
  means, is given.

  Key definitions include:
    * `Config.applyDefaults`
    * `Config.validate`
    * `Config.checkpointGuardStatePath`
    * `Config.GuardApart`, `Config.KeyApart`

  Main results:
    * `Config.load_stateFile`
    * `Config.guard_apart_iff`
-/

------------------------------------------------------------
-- Settings
------------------------------------------------------------

namespace BridgeSigner

open Consensus (Err)

/- The CometBFT privval signer. -/
structure ConsensusConfig where
  keyFile : Bytes
  stateFile : Bytes
  connKeyFile : Bytes
  targets : Bytes
  primaryFailoverTimeout : Bytes
  deriving DecidableEq

/- Which backend holds the private key. -/
structure SignerConfig where
  backend : Bytes
  keyringDir : Bytes
  keyName : Bytes
  dsmAPIEndpoint : Bytes
  dsmAPIKey : Bytes
  dsmKeyID : Bytes
  dsmKeyName : Bytes
  deriving DecidableEq

/-
  The gRPC server. The switches of the RPCs stand in the
  order in which a loop over the map visits them.
-/
structure ServerConfig where
  listenAddr : Bytes
  healthAddr : Bytes
  requestTimeout : Int
  maxRecvMsgSize : Int
  checkpointGuardStateFile : Bytes
  enabledRPCs : List (Bytes × Bool)
  deriving DecidableEq

structure TLSConfig where
  insecure : Bool
  caCert : Bytes
  serverCert : Bytes
  serverKey : Bytes
  deriving DecidableEq

structure LogConfig where
  level : Bytes
  format : Bytes
  deriving DecidableEq

structure Config where
  chainID : Bytes
  consensus : ConsensusConfig
  signer : SignerConfig
  server : ServerConfig
  tls : TLSConfig
  log : LogConfig
  deriving DecidableEq

/- What is asked of the system: `os.Stat` and durations. -/
structure Config.Host where
  stat : Bytes → Fallible Unit
  parseDuration : Bytes → Fallible Int

def ConsensusConfig.enabled
    (c : ConsensusConfig) : Bool :=
  c.keyFile != []

/- The failover timeout; without one it is zero. -/
def ConsensusConfig.failoverTimeout
    (host : Config.Host)
    (c : ConsensusConfig) : Except Err Int :=
  if c.primaryFailoverTimeout = [] then
    .ok 0
  else
    match host.parseDuration c.primaryFailoverTimeout with
    | .error e =>
        .error
          ⟨"consensus.primary_failover_timeout %q: %w",
            [.text c.primaryFailoverTimeout, .library e]⟩
    | .ok d =>
        if d ≤ 0 then
          .error
            ⟨"consensus.primary_failover_timeout must be " ++
              "positive, got %q",
              [.text c.primaryFailoverTimeout]⟩
        else
          .ok d

/- The name of the guard's file next to the state file. -/
def Config.guardFileName : Bytes :=
  ascii "bridge_checkpoint_state.json"

/-
  The file behind the replay guard: the one configured, or
  else one next to the consensus state, or none.
-/
def Config.checkpointGuardStatePath
    (c : Config) : Bytes :=
  if c.server.checkpointGuardStateFile ≠ [] then
    c.server.checkpointGuardStateFile
  else if c.consensus.stateFile ≠ [] then
    Path.join
      [Path.dir c.consensus.stateFile, guardFileName]
  else
    []

end BridgeSigner

------------------------------------------------------------
-- Defaults
------------------------------------------------------------

namespace BridgeSigner

/- A text, or its default where there is none. -/
def Config.orDefault
    (text fallback : Bytes) : Bytes :=
  if text = [] then fallback else text

def Config.orDefaultInt
    (n fallback : Int) : Int :=
  if n = 0 then fallback else n

open Config (orDefault orDefaultInt)

def ServerConfig.applyDefaults
    (c : ServerConfig) : ServerConfig :=
  { c with
    listenAddr := orDefault c.listenAddr
      (ascii "0.0.0.0:9191")
    healthAddr := orDefault c.healthAddr
      (ascii "0.0.0.0:9192")
    requestTimeout :=
      orDefaultInt c.requestTimeout 2000000000
    maxRecvMsgSize :=
      orDefaultInt c.maxRecvMsgSize (1024 * 1024) }

def LogConfig.applyDefaults
    (c : LogConfig) : LogConfig where
  level := orDefault c.level (ascii "info")
  format := orDefault c.format (ascii "json")

def ConsensusConfig.applyDefaults
    (c : ConsensusConfig) : ConsensusConfig :=
  if c.enabled then
    { c with
      stateFile := orDefault c.stateFile
        (ascii "/data/priv_validator_state.json")
      connKeyFile := orDefault c.connKeyFile
        (ascii "/data/connection.key")
      targets := orDefault c.targets
        (ascii "tcp://layer:26659,tcp://layer-backup:26659") }
  else
    c

def Config.applyDefaults
    (c : Config) : Config :=
  { c with
    server := c.server.applyDefaults
    log := c.log.applyDefaults
    consensus := c.consensus.applyDefaults }

end BridgeSigner

------------------------------------------------------------
-- Validation
------------------------------------------------------------

namespace BridgeSigner

open Consensus (Err)

/- A setting that must not be empty. -/
def Config.required
    (text : Bytes)
    (message : String) : Except Err Unit :=
  ensure (text ≠ []) ⟨message, []⟩

/- A path that must exist. -/
def Config.mustStat
    (host : Config.Host)
    (format : String)
    (path : Bytes) : Except Err Unit :=
  (host.stat path).mapError
    (fun e => ⟨format, [.text path, .library e]⟩)

open Config (required mustStat)

def SignerConfig.validate
    (host : Config.Host)
    (c : SignerConfig) : Except Err Unit :=
  if c.backend = ascii "file" then do
    required c.keyringDir
      "signer.keyring_dir is required when backend is \"file\""
    mustStat host "signer.keyring_dir %q: %w" c.keyringDir
    required c.keyName
      "signer.key_name is required when backend is \"file\""
  else if c.backend = ascii "fortanixdsm" then do
    required c.dsmAPIEndpoint
      ("signer.dsm_api_endpoint is required when backend " ++
        "is \"fortanixdsm\"")
    required c.dsmAPIKey
      ("signer.dsm_api_key is required when backend is " ++
        "\"fortanixdsm\"")
    ensure (c.dsmKeyID ≠ [] ∨ c.dsmKeyName ≠ [])
      ⟨"signer.dsm_key_id or signer.dsm_key_name is " ++
        "required when backend is \"fortanixdsm\"", []⟩
  else if c.backend = [] then
    .error
      ⟨"signer.backend is required " ++
        "(\"file\", \"fortanixdsm\")", []⟩
  else
    .error
      ⟨"signer.backend %q is not valid " ++
        "(must be \"file\", \"fortanixdsm\")",
        [.text c.backend]⟩

def TLSConfig.validate
    (host : Config.Host)
    (c : TLSConfig) : Except Err Unit :=
  if c.insecure then
    .ok ()
  else do
    required c.caCert
      "tls.ca_cert is required (or set tls.insecure: true)"
    required c.serverCert
      ("tls.server_cert is required " ++
        "(or set tls.insecure: true)")
    required c.serverKey
      "tls.server_key is required (or set tls.insecure: true)"
    mustStat host "tls file %q: %w" c.caCert
    mustStat host "tls file %q: %w" c.serverCert
    mustStat host "tls file %q: %w" c.serverKey

def Config.knownRPCShortNames : List Bytes :=
  [ascii "sign", ascii "sign_raw", ascii "sign_tx",
    ascii "sign_bridge_checkpoint",
    ascii "sign_oracle_attestation", ascii "sign_initial",
    ascii "get_public_key", ascii "get_address",
    ascii "get_chain_id"]

/- Every switch must be the switch of an RPC. -/
def Config.validateEnabledRPCs :
    List (Bytes × Bool) → Except Err Unit
| [] => .ok ()
| (name, _) :: rest => do
    ensure (knownRPCShortNames.contains name)
      ⟨"server.enabled_rpcs has unknown RPC name %q " ++
        "(valid: sign, sign_raw, sign_tx, " ++
        "sign_bridge_checkpoint, sign_oracle_attestation, " ++
        "get_public_key, get_address, get_chain_id)",
        [.text name]⟩
    validateEnabledRPCs rest

/- The guard must survive restarts, unless it is not used. -/
def Config.validateGuard
    (c : Config) : Except Err Unit :=
  ensure
    (c.server.enabledRPCs.lookup
        (ascii "sign_bridge_checkpoint") = some false ∨
      c.checkpointGuardStatePath ≠ [])
    ⟨"server.checkpoint_guard_state_file is required when " ++
      "SignBridgeCheckpoint is enabled and " ++
      "consensus.state_file is not set (the checkpoint " ++
      "replay guard must survive restarts); set it, or " ++
      "disable the RPC with server.enabled_rpcs: " ++
      "\x7bsign_bridge_checkpoint: false\x7d", []⟩

def LogConfig.validate
    (c : LogConfig) : Except Err Unit := do
  ensure
    ([ascii "debug", ascii "info", ascii "warn",
      ascii "error"].contains c.level)
    ⟨"logging.level %q is not valid " ++
      "(debug|info|warn|error)", [.text c.level]⟩
  ensure ([ascii "json", ascii "text"].contains c.format)
    ⟨"logging.format %q is not valid (json|text)",
      [.text c.format]⟩

def Config.validateConsensus
    (host : Config.Host)
    (c : Config) : Except Err Unit :=
  if c.consensus.enabled then do
    required c.chainID
      "chain_id is required when consensus.key_file is set"
    required c.consensus.stateFile
      "consensus.state_file is required"
    required c.consensus.targets
      "consensus.targets is required"
    let _ ← c.consensus.failoverTimeout host
    .ok ()
  else
    .ok ()

def Config.validate
    (host : Config.Host)
    (c : Config) : Except Err Unit := do
  c.signer.validate host
  required c.server.listenAddr
    "server.listen_addr is required"
  ensure (0 < c.server.requestTimeout)
    ⟨"server.request_timeout must be positive", []⟩
  c.tls.validate host
  validateEnabledRPCs c.server.enabledRPCs
  c.validateGuard
  c.log.validate
  c.validateConsensus host

/- `Load` from the decoded YAML on. -/
def Config.load
    (host : Config.Host)
    (raw : Config) : Except Err Config := do
  (raw.applyDefaults.validate host).mapError
    (fun e => ⟨"invalid config: " ++ e.format, e.args⟩)
  .ok raw.applyDefaults

/- With consensus signing there is a state file. -/
theorem Config.load_stateFile
    {host : Config.Host}
    {raw cfg : Config}
    (hLoad : load host raw = .ok cfg)
    (hEnabled : cfg.consensus.enabled = true) :
    cfg.consensus.stateFile ≠ [] := by
  rcases except_bind_ok_iff.mp hLoad with
    ⟨_, hValid, hDone⟩
  rw [mapError_ok_iff] at hValid
  cases hDone
  simp only [Config.validate, except_bind_ok_iff] at hValid
  rcases hValid with
    ⟨_, -, _, -, _, -, _, -, _, -, _, -, _, -, hConsensus⟩
  rw [Config.validateConsensus, if_pos hEnabled,
    except_bind_ok_iff] at hConsensus
  rcases hConsensus with ⟨_, -, hConsensus⟩
  rcases except_bind_ok_iff.mp hConsensus with
    ⟨_, hState, -⟩
  exact ensure_ok_iff.mp hState

end BridgeSigner

------------------------------------------------------------
-- The Two State Files
------------------------------------------------------------

namespace BridgeSigner

/-
  The guard is configured to a file other than the state
  file; or it takes the file next to the state file, and the
  state file has another name.
-/
def Config.GuardApart
    (c : Config)
    (cwd : List Bytes) : Prop :=
  if c.server.checkpointGuardStateFile = [] then
    Path.afterSlash c.consensus.stateFile ≠ guardFileName
  else
    Path.resolve cwd c.server.checkpointGuardStateFile ≠
      Path.resolve cwd c.consensus.stateFile

instance
    (c : Config)
    (cwd : List Bytes) :
    Decidable (c.GuardApart cwd) := by
  unfold Config.GuardApart
  infer_instance

theorem Config.guardFileName_proper :
    Path.Proper guardFileName ∧
      guardFileName ≠ Path.dotdot := by
  refine ⟨⟨?_, ?_, ?_⟩, ?_⟩ <;> decide +kernel

/- The guard's path denotes another file exactly then. -/
theorem Config.guard_apart_iff
    (c : Config)
    (hState : c.consensus.stateFile ≠ [])
    (cwd : List Bytes) :
    Path.resolve cwd c.checkpointGuardStatePath ≠
        Path.resolve cwd c.consensus.stateFile ↔
      c.GuardApart cwd := by
  unfold Config.GuardApart Config.checkpointGuardStatePath
  by_cases hOwn : c.server.checkpointGuardStateFile = []
  · rw [if_neg (not_not.mpr hOwn), if_pos hState,
      if_pos hOwn]
    exact not_congr (Path.resolve_sibling cwd _
      guardFileName_proper.1 guardFileName_proper.2)
  · rw [if_pos hOwn, if_neg hOwn]

/-
  The consensus key is in another file than the last-sign
  state and than the guard's mark.
-/
def Config.KeyApart
    (c : Config)
    (cwd : List Bytes) : Prop :=
  Path.resolve cwd c.consensus.keyFile ≠
      Path.resolve cwd c.consensus.stateFile ∧
    if c.server.checkpointGuardStateFile = [] then
      guardFileName ::
          Path.resolve cwd
            (Path.upToSlash c.consensus.stateFile) ≠
        Path.resolve cwd c.consensus.keyFile
    else
      Path.resolve cwd c.server.checkpointGuardStateFile ≠
        Path.resolve cwd c.consensus.keyFile

instance
    (c : Config)
    (cwd : List Bytes) :
    Decidable (c.KeyApart cwd) := by
  unfold Config.KeyApart
  infer_instance

theorem Config.KeyApart.guard
    {c : Config}
    {cwd : List Bytes}
    (hApart : c.KeyApart cwd)
    (hState : c.consensus.stateFile ≠ []) :
    Path.resolve cwd c.checkpointGuardStatePath ≠
      Path.resolve cwd c.consensus.keyFile := by
  have hGuard := hApart.2
  unfold Config.checkpointGuardStatePath
  by_cases hOwn : c.server.checkpointGuardStateFile = []
  · rw [if_neg (not_not.mpr hOwn), if_pos hState,
      Path.resolve_beside cwd _ guardFileName_proper.1
        guardFileName_proper.2]
    rwa [if_pos hOwn] at hGuard
  · rw [if_pos hOwn]
    rwa [if_neg hOwn] at hGuard

end BridgeSigner
