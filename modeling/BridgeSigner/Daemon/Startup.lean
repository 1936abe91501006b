import BridgeSigner.Daemon.Shutdown
import BridgeSigner.Daemon.Targets
import BridgeSigner.Server.Handlers
import BridgeSigner.Signer.DsmKey
import BridgeSigner.Signer.Keyring

/-
  How the daemon starts (cmd/bridge-signer/cmd_start.go,
  signer/signer.go, signer/file_signer.go,
  signer/fortanix_dsm.go, server/auth.go, server/server.go,
  health/health.go, logging/logging.go).

  `runDaemon` goes from an accepted configuration to running
  servers: the logger, the backend that the registry has for
  the configured name, consensus signing if it is configured,
  the transport, the gRPC server with its switches, and the
  addresses that it and the health server listen on. What is
  asked of files, the keyring, the DSM and the network is a
  parameter.

  Key definitions include:
    * `Server.enabledRPCsFromConfig`
    * `Startup.newSigner`
    * `Startup.startDaemon`
    * `Startup.serveDaemon`

  Main results:
    * `Server.enabledRPCsFromConfig_lookup`
    * `Startup.accepted_config_serves_iff`
    * `Startup.started_as_configured`
-/

------------------------------------------------------------
-- The Switches Of The Methods
------------------------------------------------------------

namespace BridgeSigner

namespace Server

/- The short names of the methods in the configuration. -/
def shortRPCNameToFullMethod : List (Bytes × Bytes) :=
  [(ascii "sign_raw", Method.signRaw.full),
    (ascii "sign_tx", Method.signTx.full),
    (ascii "sign_bridge_checkpoint",
      Method.signBridgeCheckpoint.full),
    (ascii "sign_oracle_attestation",
      Method.signOracleAttestation.full),
    (ascii "sign_initial", Method.signInitial.full),
    (ascii "sign", Method.sign.full),
    (ascii "get_public_key", Method.getPublicKey.full),
    (ascii "get_address", Method.getAddress.full),
    (ascii "get_chain_id", Method.getChainID.full)]

/- A switch under the full name of its method. -/
def fullSwitch
    (e : Bytes × Bool) : Option (Bytes × Bool) :=
  (shortRPCNameToFullMethod.lookup e.1).map (·, e.2)

/- Unknown names are left out. -/
def enabledRPCsFromConfig
    (cfg : List (Bytes × Bool)) : List (Bytes × Bool) :=
  cfg.filterMap fullSwitch

/- The short name of a method. -/
def Method.shortName : Method → Bytes
| .sign => ascii "sign"
| .getPublicKey => ascii "get_public_key"
| .signRaw => ascii "sign_raw"
| .getAddress => ascii "get_address"
| .signTx => ascii "sign_tx"
| .getChainID => ascii "get_chain_id"
| .signBridgeCheckpoint => ascii "sign_bridge_checkpoint"
| .signOracleAttestation => ascii "sign_oracle_attestation"
| .signInitial => ascii "sign_initial"

def Method.all : List Method :=
  [.sign, .getPublicKey, .signRaw, .getAddress, .signTx,
    .getChainID, .signBridgeCheckpoint,
    .signOracleAttestation, .signInitial]

theorem Method.mem_all
    (m : Method) :
    m ∈ Method.all := by
  cases m <;> decide

theorem Method.shortName_injective
    {m m' : Method}
    (hName : m.shortName = m'.shortName) :
    m = m' := by
  have hAll :
      ∀ m ∈ Method.all, ∀ m' ∈ Method.all,
        m.shortName = m'.shortName → m = m' := by
    decide +kernel
  exact hAll m m.mem_all m' m'.mem_all hName

/- A name stands for a method when it is its short name. -/
theorem lookup_shortRPCName_iff
    (m : Method)
    (name : Bytes) :
    shortRPCNameToFullMethod.lookup name = some m.full ↔
      name = m.shortName := by
  have hEntries :
      ∀ m ∈ Method.all, ∀ e ∈ shortRPCNameToFullMethod,
        e.2 = m.full → e.1 = m.shortName := by
    decide +kernel
  have hFound :
      ∀ m ∈ Method.all,
        shortRPCNameToFullMethod.lookup m.shortName =
          some m.full := by
    decide +kernel
  constructor
  · intro hLookup
    rcases List.lookup_eq_some_iff.mp hLookup with
      ⟨before, after, hSplit, -⟩
    refine hEntries m m.mem_all (name, m.full) ?_ rfl
    rw [hSplit]
    exact List.mem_append_cons_self
  · rintro rfl
    exact hFound m m.mem_all

/- The gate sees exactly the switch of the method. -/
theorem enabledRPCsFromConfig_lookup
    (cfg : List (Bytes × Bool))
    (m : Method) :
    (enabledRPCsFromConfig cfg).lookup m.full =
      cfg.lookup m.shortName := by
  induction cfg with
  | nil => rfl
  | cons e cfg ih =>
      rcases e with ⟨name, enabled⟩
      have hName := lookup_shortRPCName_iff m name
      unfold enabledRPCsFromConfig at ih ⊢
      cases hFull : shortRPCNameToFullMethod.lookup name with
      | none =>
          have hOther : (m.shortName == name) = false := by
            rw [beq_eq_false_iff_ne]
            intro hSame
            rw [hName.mpr hSame.symm] at hFull
            cases hFull
          have hEntry : fullSwitch (name, enabled) = none := by
            rw [fullSwitch, hFull]
            rfl
          rw [List.filterMap_cons_none hEntry, ih,
            List.lookup_cons, hOther]
      | some full =>
          have hEntry :
              fullSwitch (name, enabled) =
                some (full, enabled) := by
            rw [fullSwitch, hFull]
            rfl
          rw [hFull, Option.some.injEq] at hName
          rw [List.filterMap_cons_some hEntry,
            List.lookup_cons, List.lookup_cons, ih]
          by_cases hSame : name = m.shortName
          · rw [hName.mpr hSame, hSame, beq_self_eq_true,
              beq_self_eq_true]
          · have hMethod : m.full ≠ full := by
              intro hEq
              exact hSame (hName.mp hEq.symm)
            rw [beq_eq_false_iff_ne.mpr hMethod,
              beq_eq_false_iff_ne.mpr (Ne.symm hSame)]

end Server

end BridgeSigner

------------------------------------------------------------
-- Logging
------------------------------------------------------------

namespace BridgeSigner

namespace Logging

open Consensus (Err)

inductive Level where
| debug
| info
| warn
| error
  deriving DecidableEq, Repr

def parseLevel
    (level : Bytes) : Except Err Level :=
  if level = ascii "debug" then .ok .debug
  else if level = ascii "info" then .ok .info
  else if level = ascii "warn" then .ok .warn
  else if level = ascii "error" then .ok .error
  else
    .error
      ⟨"unknown log level %q (debug|info|warn|error)",
        [.text level]⟩

/- The level and whether lines are JSON. -/
def new
    (level format : Bytes) : Except Err (Level × Bool) := do
  let slogLevel ← parseLevel level
  if format = ascii "json" then .ok (slogLevel, true)
  else if format = ascii "text" then .ok (slogLevel, false)
  else
    .error
      ⟨"unknown log format %q (json|text)", [.text format]⟩

/- Every level and format that is accepted is known. -/
theorem new_of_validate
    {c : LogConfig}
    (hValid : c.validate = .ok ()) :
    ∃ logger, new c.level c.format = .ok logger := by
  rcases except_bind_ok_iff.mp hValid with ⟨_, hLevel, hForm⟩
  rw [ensure_ok_iff, List.contains_iff_mem] at hLevel hForm
  have hKnown :
      ∀ level ∈ [ascii "debug", ascii "info", ascii "warn",
          ascii "error"],
        ∀ format ∈ [ascii "json", ascii "text"],
          (new level format).toBool = true := by
    decide +kernel
  have hNew := hKnown _ hLevel _ hForm
  cases hResult : new c.level c.format with
  | error e =>
      rw [hResult] at hNew
      cases hNew
  | ok logger => exact ⟨logger, rfl⟩

end Logging

end BridgeSigner

------------------------------------------------------------
-- The Backend By Its Name
------------------------------------------------------------

namespace BridgeSigner

namespace Startup

open Consensus (Err)
open Signer

/- The settings that the start reads besides `Config`. -/
structure Settings where
  config : Config
  passwordFile : Bytes
  preferTargetOrder : Bool
  allowedMsgTypes : List Bytes

/-
  What is asked of the keyring, the DSM, files and the
  network. `bind` is told what the daemon is bound to.
-/
structure Outside where
  host : Config.Host
  curve : Secp256k1
  passwords : PasswordHost
  openKeyring : Bytes → PasswordReader → Fallible Unit
  keyringKey : Bytes → Bytes → Fallible (Option Record)
  toECDSA : Bytes → Fallible FileSigner
  getSobject :
    FortanixDSMConfig → SobjectDescriptor → Fallible Sobject
  canceled : Bytes → Bool
  lib : Server.Libraries
  genOrLoadConnKey : Bytes → Fallible Unit
  requireStateFile : Bytes → Fallible Unit
  loadCometFilePV : Bytes → Bytes → Fallible Unit
  validatorAddress : Fallible Unit
  newServerCredentials : Bytes → Bytes → Bytes → Fallible Unit
  guardFile : Bytes → Server.ReadResult
  bind : List Bytes → Bytes → Fallible Unit

def Settings.toMap
    (s : Settings) : List (Bytes × Bytes) :=
  let c := s.config.signer
  [(ascii "keyring_dir", c.keyringDir),
    (ascii "key_name", c.keyName),
    (ascii "password_file", s.passwordFile),
    (ascii "dsm_api_endpoint", c.dsmAPIEndpoint),
    (ascii "dsm_api_key", c.dsmAPIKey),
    (ascii "dsm_key_id", c.dsmKeyID),
    (ascii "dsm_key_name", c.dsmKeyName)]

/- Why there is no backend. -/
inductive SignerError where
| unknownBackend (name : Bytes)
| factory (e : Err)
| file (e : Err)
| dsm (e : NewDSMError)

/- A member that must be there and not be empty. -/
def requiredMember
    (raw : List (Bytes × Bytes))
    (name message : String) :
    Except (Stop SignerError) Bytes :=
  let value := (raw.lookup (ascii name)).getD []
  if value = [] then
    .error (.error (.factory ⟨message, []⟩))
  else
    .ok value

/- A library's error with the text around it. -/
def wrapped
    {α : Type}
    (format : String)
    (args : List Consensus.ErrArg)
    (r : Fallible α) : Except Err α :=
  r.mapError (fun e => ⟨format, args ++ [.library e]⟩)

/- The keyring and its key, once the passphrase is there. -/
def openFileSigner
    (out : Outside)
    (keyringDir keyName pwFile : Bytes) :
    Except Err FileSigner := do
  let passReader ← buildPasswordReader out.passwords pwFile
  wrapped "open keyring: %w" []
    (out.openKeyring keyringDir passReader)
  let record ←
    wrapped "get key %q from keyring at %q: %w"
      [.text keyName, .text keyringDir]
      (out.keyringKey keyringDir keyName)
  let keyBytes ←
    (extractSecpPrivKeyBytes record).mapError
      (fun e =>
        ⟨"extract %q from keyring: " ++ e.format,
          .text keyName :: e.args⟩)
  wrapped "convert to ECDSA: %w" [] (out.toECDSA keyBytes)

def newFileSigner
    (out : Outside)
    (keyringDir keyName pwFile : Bytes) :
    Except Err FileSigner := do
  ensure (keyringDir ≠ [])
    ⟨"keyring_dir is required for file signer backend", []⟩
  ensure (keyName ≠ [])
    ⟨"key_name is required for file signer backend", []⟩
  openFileSigner out keyringDir keyName pwFile

def newFileSignerFromConfig
    (out : Outside)
    (raw : List (Bytes × Bytes)) :
    Except (Stop SignerError) Backend := do
  let keyringDir ←
    requiredMember raw "keyring_dir"
      "signer.keyring_dir is required when backend is \"file\""
  let keyName ←
    requiredMember raw "key_name"
      "signer.key_name is required when backend is \"file\""
  let pwFile := (raw.lookup (ascii "password_file")).getD []
  ((newFileSigner out keyringDir keyName pwFile).map
    Backend.file).mapError (fun e => .error (.file e))

def newFortanixDSMSignerFromConfig
    (out : Outside)
    (raw : List (Bytes × Bytes)) :
    Except (Stop SignerError) Backend := do
  let apiEndpoint ←
    requiredMember raw "dsm_api_endpoint"
      ("signer.dsm_api_endpoint is required when backend " ++
        "is \"fortanixdsm\"")
  let apiKey ←
    requiredMember raw "dsm_api_key"
      ("signer.dsm_api_key is required when backend is " ++
        "\"fortanixdsm\"")
  let keyID := (raw.lookup (ascii "dsm_key_id")).getD []
  let keyName := (raw.lookup (ascii "dsm_key_name")).getD []
  ensure (keyID ≠ [] ∨ keyName ≠ [])
    (.error (.factory
      ⟨"signer.dsm_key_id or signer.dsm_key_name is " ++
        "required when backend is \"fortanixdsm\"", []⟩))
  ((newFortanixDSMSigner out.curve out.getSobject
    ⟨apiEndpoint, apiKey, keyID, keyName⟩).map
      Backend.fortanixdsm).mapError (Stop.wrap .dsm)

/- What the backends registered themselves under. -/
def registry
    (out : Outside) :
    List (Bytes ×
      (List (Bytes × Bytes) →
        Except (Stop SignerError) Backend)) :=
  [(ascii "file", newFileSignerFromConfig out),
    (ascii "fortanixdsm",
      newFortanixDSMSignerFromConfig out)]

def newSigner
    (out : Outside)
    (backend : Bytes)
    (raw : List (Bytes × Bytes)) :
    Except (Stop SignerError) Backend :=
  match (registry out).lookup backend with
  | none => .error (.error (.unknownBackend backend))
  | some factory => factory raw

end Startup

end BridgeSigner

------------------------------------------------------------
-- The Start
------------------------------------------------------------

namespace BridgeSigner

namespace Startup

open Consensus (Err)
open Daemon.Shutdown (ServerName)
open Signer

/- Which step of the start failed. -/
inductive StartError where
| logger (e : Err)
| signer (e : SignerError)
| decompress (e : Bytes)
| connKey (e : Bytes)
| stateFile (e : Bytes)
| filePV (e : Bytes)
| validatorAddress (e : Bytes)
| failover (e : Err)
| tls (e : Bytes)
| server (e : Server.NewError)

/- Why a server does not listen. -/
inductive ListenError where
| address (e : AddrError)
| bind (e : Bytes)

/- How a start ends before both servers run. -/
inductive Ending where
| canceled
| panicked
| failed (e : StartError)
| exited (name : ServerName) (e : ListenError)

/- The election, with the targets by preference if any. -/
structure Election where
  timeout : Int
  preferOrder : List Bytes
  deriving DecidableEq

/- What runs once the start is over. -/
structure Running where
  backend : Backend
  election : Option Election
  dialTargets : List Bytes
  srv : Server.BridgeSignerServer
  guard : Server.CheckpointReplayGuard

/- A signal during the call of the DSM is no error. -/
def signerEnding
    (out : Outside) :
    Stop SignerError → Ending
| .panic => .panicked
| .error (.dsm (.fetch (.getSobject e))) =>
    if out.canceled e then .canceled
    else .failed (.signer (.dsm (.fetch (.getSobject e))))
| .error e => .failed (.signer e)

/- A step outside, and what its failure is called. -/
def attempt
    {α : Type}
    (r : Fallible α)
    (f : Bytes → StartError) : Except Ending α :=
  r.mapError (fun e => .failed (f e))

/- The election and the targets that are dialed. -/
def startConsensus
    (out : Outside)
    (s : Settings) :
    Except Ending (Option Election × List Bytes) :=
  let c := s.config.consensus
  if c.enabled then do
    attempt (out.genOrLoadConnKey c.connKeyFile) .connKey
    attempt (out.requireStateFile c.stateFile) .stateFile
    attempt (out.loadCometFilePV c.keyFile c.stateFile)
      .filePV
    attempt out.validatorAddress .validatorAddress
    let timeout ←
      (c.failoverTimeout out.host).mapError
        (fun e => .failed (.failover e))
    let preferOrder :=
      if s.preferTargetOrder then c.targetList else []
    .ok
      (if 0 < timeout then some ⟨timeout, preferOrder⟩
        else none,
        c.targetList)
  else
    .ok (none, [])

def startTransport
    (out : Outside)
    (c : TLSConfig) : Except Ending Unit :=
  if c.insecure then
    .ok ()
  else
    attempt
      (out.newServerCredentials c.caCert c.serverCert
        c.serverKey)
      .tls

/- The settings that the gRPC server is given. -/
def Settings.server
    (s : Settings) : Server.Config where
  allowedMsgTypes := s.allowedMsgTypes
  chainID := s.config.chainID
  checkpointGuardStatePath :=
    s.config.checkpointGuardStatePath
  enabledRPCs :=
    Server.enabledRPCsFromConfig
      s.config.server.enabledRPCs

/- `runDaemon`, up to the goroutines of the two servers. -/
def startDaemon
    (out : Outside)
    (s : Settings) : Except Ending Running := do
  let _ ←
    (Logging.new s.config.log.level
      s.config.log.format).mapError
        (fun e => .failed (.logger e))
  let backend ←
    (newSigner out s.config.signer.backend
      s.toMap).mapError (signerEnding out)
  let _ ←
    attempt (out.lib.decompressPubkey backend.getPublicKey)
      .decompress
  let (election, dialTargets) ← startConsensus out s
  startTransport out s.config.tls
  let (srv, guard) ←
    (Server.newServer out.lib (.ok backend.getPublicKey)
      s.server
      (out.guardFile
        s.config.checkpointGuardStatePath)).mapError
        (fun e => .failed (.server e))
  .ok ⟨backend, election, dialTargets, srv, guard⟩

/- Where a server listens; without an address it is HTTP. -/
def serverAddr
    (c : ServerConfig) :
    ServerName → Bytes
| .grpc => c.listenAddr
| .health =>
    if c.healthAddr = [] then
      ascii ":http"
    else
      c.healthAddr

/- `net.Listen` for TCP, and the exit that its error is. -/
def listen
    (out : Outside)
    (bound : List Bytes)
    (c : ServerConfig)
    (name : ServerName) : Except Ending Unit :=
  match splitHostPort (serverAddr c name) with
  | .error e => .error (.exited name (.address e))
  | .ok _ =>
      (out.bind bound (serverAddr c name)).mapError
        (fun e => .exited name (.bind e))

def otherServer : ServerName → ServerName
| .grpc => .health
| .health => .grpc

/- `runDaemon`, until both servers serve; `first` binds first. -/
def serveDaemon
    (out : Outside)
    (s : Settings)
    (first : ServerName) : Except Ending Running := do
  let running ← startDaemon out s
  listen out [] s.config.server first
  listen out [serverAddr s.config.server first]
    s.config.server (otherServer first)
  .ok running

end Startup

end BridgeSigner

------------------------------------------------------------
-- What An Accepted Configuration Leaves To Fail
------------------------------------------------------------

namespace BridgeSigner

namespace Startup

open Consensus (Err)
open Daemon.Shutdown (ServerName)
open Signer

variable {out : Outside}
variable {s : Settings}

/- The backend without the checks of the settings. -/
def openBackend
    (out : Outside)
    (s : Settings) : Except (Stop SignerError) Backend :=
  let c := s.config.signer
  if c.backend = ascii "file" then
    ((openFileSigner out c.keyringDir c.keyName
      s.passwordFile).map Backend.file).mapError
        (fun e => .error (.file e))
  else
    let cfg : FortanixDSMConfig :=
      ⟨c.dsmAPIEndpoint, c.dsmAPIKey, c.dsmKeyID,
        c.dsmKeyName⟩
    ((fetchDSMPublicKey out.curve
      (out.getSobject cfg cfg.descriptor)).map
        (fun key => Backend.fortanixdsm ⟨out.curve, key⟩)
      ).mapError
        (fun stop => stop.wrap (fun e => .dsm (.fetch e)))

/- What consensus signing needs from outside. -/
def ConsensusWorks
    (out : Outside)
    (c : ConsensusConfig) : Prop :=
  out.genOrLoadConnKey c.connKeyFile = .ok () ∧
    out.requireStateFile c.stateFile = .ok () ∧
    out.loadCometFilePV c.keyFile c.stateFile = .ok () ∧
    out.validatorAddress = .ok ()

/- Everything outside does what the start asks of it. -/
structure Works
    (out : Outside)
    (s : Settings) : Prop where
  backend :
    ∃ backend point,
      openBackend out s = .ok backend ∧
        out.lib.decompressPubkey backend.getPublicKey =
          .ok point
  consensus :
    s.config.consensus.enabled = true →
      ConsensusWorks out s.config.consensus
  transport :
    s.config.tls.insecure = false →
      out.newServerCredentials s.config.tls.caCert
          s.config.tls.serverCert s.config.tls.serverKey =
        .ok ()
  guard :
    ∃ g,
      Server.newCheckpointReplayGuard
          s.config.checkpointGuardStatePath
          (out.guardFile
            s.config.checkpointGuardStatePath) =
        .ok g

/- The checks that an accepted configuration has passed. -/
structure Accepted
    (host : Config.Host)
    (c : Config) : Prop where
  signer : c.signer.validate host = .ok ()
  switches :
    Config.validateEnabledRPCs c.server.enabledRPCs = .ok ()
  guard : c.validateGuard = .ok ()
  log : c.log.validate = .ok ()
  consensus : c.validateConsensus host = .ok ()

theorem accepted_of_load
    {host : Config.Host}
    {raw c : Config}
    (hLoad : Config.load host raw = .ok c) :
    Accepted host c := by
  rcases except_bind_ok_iff.mp hLoad with
    ⟨_, hValid, hDone⟩
  rw [mapError_ok_iff] at hValid
  cases hDone
  simp only [Config.validate, except_bind_ok_iff] at hValid
  rcases hValid with
    ⟨_, hSigner, _, -, _, -, _, -, _, hSwitches, _, hGuard,
      _, hLog, hConsensus⟩
  exact ⟨hSigner, hSwitches, hGuard, hLog, hConsensus⟩

theorem requiredMember_ok
    {raw : List (Bytes × Bytes)}
    {name message : String}
    {value : Bytes}
    (hValue : raw.lookup (ascii name) = some value)
    (hSome : value ≠ []) :
    requiredMember raw name message = .ok value := by
  rw [requiredMember, hValue]
  exact if_neg hSome

theorem toMap_lookup
    (s : Settings) :
    s.toMap.lookup (ascii "keyring_dir") =
        some s.config.signer.keyringDir ∧
      s.toMap.lookup (ascii "key_name") =
        some s.config.signer.keyName ∧
      s.toMap.lookup (ascii "password_file") =
        some s.passwordFile ∧
      s.toMap.lookup (ascii "dsm_api_endpoint") =
        some s.config.signer.dsmAPIEndpoint ∧
      s.toMap.lookup (ascii "dsm_api_key") =
        some s.config.signer.dsmAPIKey ∧
      s.toMap.lookup (ascii "dsm_key_id") =
        some s.config.signer.dsmKeyID ∧
      s.toMap.lookup (ascii "dsm_key_name") =
        some s.config.signer.dsmKeyName :=
  ⟨rfl, rfl, rfl, rfl, rfl, rfl, rfl⟩

/- The checks of the file backend repeat those of `Load`. -/
theorem newFileSignerFromConfig_eq
    (hDir : s.config.signer.keyringDir ≠ [])
    (hName : s.config.signer.keyName ≠ []) :
    newFileSignerFromConfig out s.toMap =
      ((openFileSigner out s.config.signer.keyringDir
        s.config.signer.keyName s.passwordFile).map
          Backend.file).mapError
            (fun e => .error (.file e)) := by
  rcases toMap_lookup s with
    ⟨hDirMember, hNameMember, hPassword, -⟩
  rw [newFileSignerFromConfig,
    requiredMember_ok hDirMember hDir, ok_bind,
    requiredMember_ok hNameMember hName, ok_bind]
  simp only [hPassword, Option.getD_some]
  rw [newFileSigner, ensure_pos hDir, ensure_pos hName]

theorem newFortanixDSMSignerFromConfig_eq
    (hEndpoint : s.config.signer.dsmAPIEndpoint ≠ [])
    (hAPIKey : s.config.signer.dsmAPIKey ≠ [])
    (hKey :
      s.config.signer.dsmKeyID ≠ [] ∨
        s.config.signer.dsmKeyName ≠ []) :
    let cfg : FortanixDSMConfig :=
      ⟨s.config.signer.dsmAPIEndpoint,
        s.config.signer.dsmAPIKey, s.config.signer.dsmKeyID,
        s.config.signer.dsmKeyName⟩
    newFortanixDSMSignerFromConfig out s.toMap =
      ((fetchDSMPublicKey out.curve
        (out.getSobject cfg cfg.descriptor)).map
          (fun key => Backend.fortanixdsm ⟨out.curve, key⟩)
        ).mapError
          (fun stop =>
            stop.wrap (fun e => .dsm (.fetch e))) := by
  intro cfg
  rcases toMap_lookup s with
    ⟨-, -, -, hEndpointMember, hAPIKeyMember, hIdMember,
      hNameMember⟩
  rw [newFortanixDSMSignerFromConfig,
    requiredMember_ok hEndpointMember hEndpoint, ok_bind,
    requiredMember_ok hAPIKeyMember hAPIKey, ok_bind]
  simp only [hIdMember, hNameMember, Option.getD_some]
  rw [ensure_pos hKey, newFortanixDSMSigner,
    ensure_pos hEndpoint, ensure_pos hAPIKey,
    ensure_pos hKey]
  change
    (((fetchDSMPublicKey out.curve
      (out.getSobject cfg cfg.descriptor)).mapError
        (Stop.wrap NewDSMError.fetch) >>= _).map
          Backend.fortanixdsm).mapError _ = _
  rcases fetchDSMPublicKey out.curve
      (out.getSobject cfg cfg.descriptor) with
    (e | _) | key
  · rfl
  · rfl
  · rfl

/- The registry has what was accepted, and it is opened. -/
theorem newSigner_accepted
    {host : Config.Host}
    (hSigner : s.config.signer.validate host = .ok ()) :
    newSigner out s.config.signer.backend s.toMap =
      openBackend out s := by
  unfold SignerConfig.validate at hSigner
  split at hSigner
  · rename_i hFile
    rcases except_bind_ok_iff.mp hSigner with
      ⟨_, hDir, hRest⟩
    rcases except_bind_ok_iff.mp hRest with ⟨_, -, hName⟩
    rw [newSigner, openBackend, if_pos hFile, hFile]
    exact newFileSignerFromConfig_eq
      (ensure_ok_iff.mp hDir) (ensure_ok_iff.mp hName)
  · rename_i hNotFile
    split at hSigner
    · rename_i hDSM
      rcases except_bind_ok_iff.mp hSigner with
        ⟨_, hEndpoint, hRest⟩
      rcases except_bind_ok_iff.mp hRest with
        ⟨_, hAPIKey, hKey⟩
      rw [newSigner, openBackend, if_neg hNotFile, hDSM]
      exact newFortanixDSMSignerFromConfig_eq
        (ensure_ok_iff.mp hEndpoint)
        (ensure_ok_iff.mp hAPIKey) (ensure_ok_iff.mp hKey)
    · split at hSigner
      · cases hSigner
      · cases hSigner

theorem startTransport_ok_iff
    {c : TLSConfig}
    {u : Unit} :
    startTransport out c = .ok u ↔
      (c.insecure = false →
        out.newServerCredentials c.caCert c.serverCert
          c.serverKey = .ok ()) := by
  unfold startTransport attempt
  cases c.insecure with
  | true => simp
  | false => simp [mapError_ok_iff]

/- The failover timeout has been parsed before. -/
theorem failoverTimeout_accepted
    {host : Config.Host}
    {c : Config}
    (hConsensus : c.validateConsensus host = .ok ())
    (hEnabled : c.consensus.enabled = true) :
    ∃ timeout,
      c.consensus.failoverTimeout host = .ok timeout := by
  rw [Config.validateConsensus, if_pos hEnabled]
    at hConsensus
  simp only [except_bind_ok_iff] at hConsensus
  rcases hConsensus with
    ⟨_, -, _, -, _, -, timeout, hTimeout, -⟩
  exact ⟨timeout, hTimeout⟩

/- Accepted or not, there is an election for a timeout. -/
theorem failoverTimeout_pos_iff
    {host : Config.Host}
    {c : ConsensusConfig}
    {timeout : Int}
    (hTimeout : c.failoverTimeout host = .ok timeout) :
    0 < timeout ↔ c.primaryFailoverTimeout ≠ [] := by
  unfold ConsensusConfig.failoverTimeout at hTimeout
  split at hTimeout
  · rename_i hNone
    cases hTimeout
    simp [hNone]
  · rename_i hSome
    split at hTimeout
    · cases hTimeout
    · split at hTimeout
      · cases hTimeout
      · rename_i hPos
        cases hTimeout
        exact ⟨fun _ => hSome, fun _ => by omega⟩

theorem startConsensus_ok_iff
    {started : Option Election × List Bytes} :
    startConsensus out s = .ok started ↔
      if s.config.consensus.enabled = true then
        ConsensusWorks out s.config.consensus ∧
          ∃ timeout,
            s.config.consensus.failoverTimeout out.host =
                .ok timeout ∧
              started =
                (if 0 < timeout then
                    some ⟨timeout,
                      if s.preferTargetOrder then
                        s.config.consensus.targetList
                      else []⟩
                  else none,
                  s.config.consensus.targetList)
      else started = (none, []) := by
  by_cases hEnabled : s.config.consensus.enabled = true
  · rw [if_pos hEnabled]
    simp only [startConsensus, hEnabled, if_true,
      except_bind_ok_iff, attempt, mapError_ok_iff,
      Except.ok.injEq]
    constructor
    · rintro ⟨_, hConn, _, hState, _, hPV, _, hAddress,
        timeout, hTimeout, rfl⟩
      exact ⟨⟨hConn, hState, hPV, hAddress⟩, timeout,
        hTimeout, rfl⟩
    · rintro ⟨⟨hConn, hState, hPV, hAddress⟩, timeout,
        hTimeout, rfl⟩
      exact ⟨(), hConn, (), hState, (), hPV, (), hAddress,
        timeout, hTimeout, rfl⟩
  · rw [if_neg hEnabled]
    simp only [startConsensus, hEnabled, if_false,
      Bool.false_eq_true, Except.ok.injEq]
    exact eq_comm

/- The steps of a start that went through. -/
theorem startDaemon_ok_iff
    {running : Running} :
    startDaemon out s = .ok running ↔
      (∃ logger,
        Logging.new s.config.log.level s.config.log.format =
          .ok logger) ∧
        ∃ backend started built,
          newSigner out s.config.signer.backend s.toMap =
              .ok backend ∧
            (∃ point,
              out.lib.decompressPubkey
                backend.getPublicKey = .ok point) ∧
            startConsensus out s = .ok started ∧
            startTransport out s.config.tls = .ok () ∧
            Server.newServer out.lib
                (.ok backend.getPublicKey) s.server
                (out.guardFile
                  s.config.checkpointGuardStatePath) =
              .ok built ∧
            running =
              ⟨backend, started.1, started.2, built.1,
                built.2⟩ := by
  simp only [startDaemon, except_bind_ok_iff, attempt,
    mapError_ok_iff, Except.ok.injEq]
  constructor
  · rintro ⟨logger, hLogger, backend, hBackend, point, hPoint,
      started, hStarted, _, hTransport, built, hBuilt, rfl⟩
    exact ⟨⟨logger, hLogger⟩, backend, started, built,
      hBackend, ⟨point, hPoint⟩, hStarted, hTransport,
      hBuilt, rfl⟩
  · rintro ⟨⟨logger, hLogger⟩, backend, started, built,
      hBackend, ⟨point, hPoint⟩, hStarted, hTransport,
      hBuilt, rfl⟩
    exact ⟨logger, hLogger, backend, hBackend, point, hPoint,
      started, hStarted, (), hTransport, built, hBuilt, rfl⟩

theorem newServer_ok_iff
    {lib : Server.Libraries}
    {key : Bytes}
    {cfg : Server.Config}
    {file : Server.ReadResult} :
    (∃ built,
      Server.newServer lib (.ok key) cfg file =
        .ok built) ↔
      (∃ point, lib.decompressPubkey key = .ok point) ∧
        ∃ g,
          Server.newCheckpointReplayGuard
            cfg.checkpointGuardStatePath file = .ok g := by
  simp only [Server.newServer, except_bind_ok_iff,
    mapError_ok_iff, Except.ok.injEq]
  constructor
  · rintro ⟨built, _, rfl, point, hPoint, g, hGuard, rfl⟩
    exact ⟨⟨point, hPoint⟩, g, hGuard⟩
  · rintro ⟨⟨point, hPoint⟩, g, hGuard⟩
    exact ⟨_, key, rfl, point, hPoint, g, hGuard, rfl⟩

/-
  An accepted configuration leaves nothing of its own to fail
  up to the two servers.
-/
theorem accepted_config_starts_iff
    (out : Outside)
    (s : Settings)
    (raw : Config)
    (hLoad : Config.load out.host raw = .ok s.config) :
    (∃ running, startDaemon out s = .ok running) ↔
      Works out s := by
  have hAccepted := accepted_of_load hLoad
  have hSigner :
      newSigner out s.config.signer.backend s.toMap =
        openBackend out s :=
    newSigner_accepted hAccepted.signer
  constructor
  · rintro ⟨running, hRunning⟩
    rcases startDaemon_ok_iff.mp hRunning with
      ⟨-, backend, started, built, hBackend, ⟨point, hPoint⟩,
        hStarted, hTransport, hBuilt, -⟩
    refine ⟨⟨backend, point, hSigner ▸ hBackend, hPoint⟩,
      ?_, startTransport_ok_iff.mp hTransport,
      (newServer_ok_iff.mp ⟨built, hBuilt⟩).2⟩
    intro hEnabled
    have hSteps := startConsensus_ok_iff.mp hStarted
    rw [if_pos hEnabled] at hSteps
    exact hSteps.1
  · intro hWorks
    rcases hWorks.backend with
      ⟨backend, point, hBackend, hPoint⟩
    have hBuilt :
        ∃ built,
          Server.newServer out.lib
              (.ok backend.getPublicKey) s.server
              (out.guardFile
                s.config.checkpointGuardStatePath) =
            .ok built :=
      newServer_ok_iff.mpr ⟨⟨point, hPoint⟩, hWorks.guard⟩
    rcases hBuilt with ⟨built, hBuilt⟩
    have hStarted :
        ∃ started, startConsensus out s = .ok started := by
      simp only [startConsensus_ok_iff]
      by_cases hEnabled : s.config.consensus.enabled = true
      · rcases failoverTimeout_accepted hAccepted.consensus
            hEnabled with
          ⟨timeout, hTimeout⟩
        simp only [hEnabled, if_true]
        exact ⟨_, hWorks.consensus hEnabled, timeout,
          hTimeout, rfl⟩
      · simp only [hEnabled]
        exact ⟨_, rfl⟩
    rcases hStarted with ⟨started, hStarted⟩
    exact ⟨_, startDaemon_ok_iff.mpr
      ⟨Logging.new_of_validate hAccepted.log, backend,
        started, built, hSigner ▸ hBackend, ⟨point, hPoint⟩,
        hStarted,
        startTransport_ok_iff.mpr hWorks.transport, hBuilt,
        rfl⟩⟩

/- The address has a host and a port, and can be bound. -/
structure Binds
    (out : Outside)
    (bound : List Bytes)
    (addr : Bytes) : Prop where
  splits : ∃ hostPort, splitHostPort addr = .ok hostPort
  bound : out.bind bound addr = .ok ()

theorem listen_ok_iff
    {bound : List Bytes}
    {c : ServerConfig}
    {name : ServerName}
    {u : Unit} :
    listen out bound c name = .ok u ↔
      Binds out bound (serverAddr c name) := by
  unfold listen
  constructor
  · intro hListen
    split at hListen
    · cases hListen
    · rename_i hSplit
      exact ⟨⟨_, hSplit⟩, mapError_ok_iff.mp hListen⟩
  · rintro ⟨⟨hostPort, hSplit⟩, hBound⟩
    rw [hSplit]
    exact mapError_ok_iff.mpr hBound

/-
  What an accepted configuration leaves to fail: the daemon
  serves exactly when everything outside works and the two
  addresses, which are not checked before, can be bound one
  beside the other.
-/
theorem accepted_config_serves_iff
    (out : Outside)
    (s : Settings)
    (raw : Config)
    (hLoad : Config.load out.host raw = .ok s.config)
    (first : ServerName) :
    (∃ running, serveDaemon out s first = .ok running) ↔
      Works out s ∧
        Binds out [] (serverAddr s.config.server first) ∧
        Binds out [serverAddr s.config.server first]
          (serverAddr s.config.server
            (otherServer first)) := by
  rw [← accepted_config_starts_iff out s raw hLoad]
  simp only [serveDaemon, except_bind_ok_iff, listen_ok_iff,
    Except.ok.injEq]
  constructor
  · rintro ⟨running, _, hStart, _, hFirst, _, hSecond, -⟩
    exact ⟨⟨_, hStart⟩, hFirst, hSecond⟩
  · rintro ⟨⟨running, hStart⟩, hFirst, hSecond⟩
    exact ⟨running, running, hStart, (), hFirst, (), hSecond,
      rfl⟩

/- A DSM key, one switch, and consensus signing. -/
def sampleSettings : Settings where
  config :=
    { chainID := ascii "layertest-4"
      consensus :=
        ⟨ascii "/state/priv_validator_key.json",
          ascii "/state/priv_validator_state.json",
          ascii "/data/connection.key",
          ascii "tcp://node-a:26659,tcp://node-b:26659",
          ascii "60s"⟩
      signer :=
        ⟨ascii "fortanixdsm", [], [], ascii "https://dsm",
          ascii "key", [], ascii "bridge"⟩
      server :=
        ⟨ascii "0.0.0.0:9191", ascii "0.0.0.0:9192",
          2000000000, 1024 * 1024, [],
          [(ascii "sign_tx", false)]⟩
      tls := ⟨true, [], [], []⟩
      log := ⟨ascii "info", ascii "json"⟩ }
  passwordFile := []
  preferTargetOrder := true
  allowedMsgTypes := []

def sampleOutside : Outside where
  host := ⟨fun _ => .error [], fun _ => .ok 60000000000⟩
  curve := sampleCurve
  passwords := ⟨fun _ => .error [], fun _ => .error [], false⟩
  openKeyring := fun _ _ => .error []
  keyringKey := fun _ _ => .error []
  toECDSA := fun _ => .error []
  getSobject := fun _ descriptor =>
    if descriptor = .name (ascii "bridge") then
      .ok ⟨ascii "EC", some (ascii "SecP256K1"),
        some sampleSpki⟩
    else
      .error []
  canceled := fun _ => false
  lib :=
    { Server.BridgeSignerServer.fixedLibraries with
      decompressPubkey := fun b =>
        if b = sampleKey then .ok [] else .error [] }
  genOrLoadConnKey := fun _ => .ok ()
  requireStateFile := fun _ => .ok ()
  loadCometFilePV := fun _ _ => .ok ()
  validatorAddress := .ok ()
  newServerCredentials := fun _ _ _ => .error []
  guardFile := fun _ => .notExist
  bind := fun bound addr =>
    -- in use
    if bound.contains addr then .error [] else .ok ()

theorem sample_accepted :
    Config.load sampleOutside.host sampleSettings.config =
      .ok sampleSettings.config := by
  rfl

theorem sample_works : Works sampleOutside sampleSettings where
  backend :=
    ⟨.fortanixdsm sampleSigner, [], by rfl, by rfl⟩
  consensus := fun _ => ⟨rfl, rfl, rfl, rfl⟩
  transport := by
    intro hSecure
    cases hSecure
  guard := ⟨_, rfl⟩

/- The sample serves, whichever server is the first. -/
theorem sample_config_serves :
    (∃ running,
      serveDaemon sampleOutside sampleSettings .grpc =
        .ok running) ∧
      ∃ running,
        serveDaemon sampleOutside sampleSettings .health =
          .ok running := by
  constructor
  · apply (accepted_config_serves_iff sampleOutside
      sampleSettings sampleSettings.config sample_accepted
      .grpc).mpr
    exact ⟨sample_works, ⟨⟨_, rfl⟩, rfl⟩,
      ⟨⟨_, rfl⟩, rfl⟩⟩
  · apply (accepted_config_serves_iff sampleOutside
      sampleSettings sampleSettings.config sample_accepted
      .health).mpr
    exact ⟨sample_works, ⟨⟨_, rfl⟩, rfl⟩,
      ⟨⟨_, rfl⟩, rfl⟩⟩

end Startup

end BridgeSigner

------------------------------------------------------------
-- What Runs Is What Was Configured
------------------------------------------------------------

namespace BridgeSigner

namespace Server

theorem newCheckpointReplayGuard_statePath
    {statePath : Bytes}
    {file : ReadResult}
    {g : CheckpointReplayGuard}
    (hGuard : newCheckpointReplayGuard statePath file = .ok g) :
    g.statePath = statePath := by
  unfold newCheckpointReplayGuard at hGuard
  split at hGuard
  · cases hGuard
    rfl
  · split at hGuard
    · cases hGuard
      rfl
    · cases hGuard
    · simp only at hGuard
      split at hGuard
      · split at hGuard
        · cases hGuard
        · unfold guardOfState at hGuard
          split at hGuard
          · cases hGuard
          · split at hGuard
            · cases hGuard
            · split at hGuard
              · cases hGuard
                rfl
              · cases hGuard
                rfl
      · split at hGuard
        · cases hGuard
        · cases hGuard
          rfl

/- The gate turns a method away when its switch is off. -/
theorem switch_off_iff
    (cfg : List (Bytes × Bool))
    (m : Method) :
    (newEnabledRPCInterceptor (enabledRPCsFromConfig cfg)
        m.full).isSome = true ↔
      cfg.lookup m.shortName = some false := by
  unfold newEnabledRPCInterceptor
  rw [enabledRPCsFromConfig_lookup]
  split
  · rename_i hOff
    simp [hOff]
  · rename_i hOn
    simp [hOn]

end Server

namespace Startup

open Server (Method)

variable {out : Outside}
variable {s : Settings}
variable {running : Running}

theorem validateEnabledRPCs_mem
    {switches : List (Bytes × Bool)}
    (hValid :
      Config.validateEnabledRPCs switches = .ok ()) :
    ∀ e ∈ switches, ∃! m : Method, e.1 = m.shortName := by
  have hKnown :
      ∀ name ∈ Config.knownRPCShortNames,
        ∃ m ∈ Method.all, name = m.shortName := by
    decide +kernel
  induction switches with
  | nil =>
      intro e he
      cases he
  | cons switch switches ih =>
      rcases except_bind_ok_iff.mp hValid with
        ⟨_, hName, hRest⟩
      rw [ensure_ok_iff, List.contains_iff_mem] at hName
      intro e he
      rcases List.mem_cons.mp he with rfl | he
      · rcases hKnown _ hName with ⟨m, -, hm⟩
        refine ⟨m, hm, ?_⟩
        intro m' hm'
        exact Server.Method.shortName_injective
          (hm'.symm.trans hm)
      · exact ih hRest e he

/- The file and the libraries of the server that runs. -/
theorem started_server
    (hStart : startDaemon out s = .ok running) :
    running.srv.statePath =
        s.config.checkpointGuardStatePath ∧
      running.srv.lib = out.lib := by
  rcases startDaemon_ok_iff.mp hStart with
    ⟨-, backend, started, ⟨srv, g⟩, -, -, -, -, hBuilt, rfl⟩
  simp only [Server.newServer, except_bind_ok_iff,
    mapError_ok_iff, Except.ok.injEq, Prod.mk.injEq]
    at hBuilt
  rcases hBuilt with ⟨_, -, _, -, _, -, rfl, -⟩
  exact ⟨rfl, rfl⟩

/- The guard has a file where the checkpoints are signed. -/
theorem guard_path_of_accepted
    {host : Config.Host}
    {c : Config}
    (hAccepted : Accepted host c)
    (hOn :
      c.server.enabledRPCs.lookup
          Method.signBridgeCheckpoint.shortName ≠
        some false) :
    c.checkpointGuardStatePath ≠ [] := by
  rcases ensure_ok_iff.mp hAccepted.guard with hOff | hFile
  · exact absurd hOff hOn
  · exact hFile

/-
  What a start from an accepted configuration leads to: every
  switch is the switch of one method, and the gRPC server turns
  away exactly the methods that are switched off; with
  `SignBridgeCheckpoint` on, the replay guard has a file; the
  primary is elected exactly when consensus signing has a
  failover timeout; every configured target is dialed; and
  both addresses are those of the backend's key.
-/
theorem started_as_configured
    (out : Outside)
    (s : Settings)
    (raw : Config)
    (hLoad : Config.load out.host raw = .ok s.config)
    (running : Running)
    (hStart : startDaemon out s = .ok running) :
    (∀ e ∈ s.config.server.enabledRPCs,
        ∃! m : Method, e.1 = m.shortName) ∧
      (∀ m : Method,
        (Server.newEnabledRPCInterceptor
            running.srv.enabledRPCs m.full).isSome = true ↔
          s.config.server.enabledRPCs.lookup m.shortName =
            some false) ∧
      (s.config.server.enabledRPCs.lookup
          Method.signBridgeCheckpoint.shortName ≠
            some false →
        running.guard.statePath ≠ []) ∧
      (running.election.isSome = true ↔
        s.config.consensus.enabled = true ∧
          s.config.consensus.primaryFailoverTimeout ≠ []) ∧
      running.dialTargets = s.config.dialClients ∧
      running.srv.ActsFor out.lib
        running.backend.getPublicKey s.server := by
  have hAccepted := accepted_of_load hLoad
  rcases startDaemon_ok_iff.mp hStart with
    ⟨-, backend, started, ⟨srv, g⟩, -, -, hStarted, -,
      hBuilt, rfl⟩
  rcases (Server.newServer_ok hBuilt).1 with
    ⟨key, hKey, hActs⟩
  cases hKey
  refine ⟨validateEnabledRPCs_mem hAccepted.switches,
    ?_, ?_, ?_, ?_, hActs⟩
  · intro m
    simp only [hActs.enabled]
    exact Server.switch_off_iff _ m
  · intro hOn
    have hPath : g.statePath =
        s.config.checkpointGuardStatePath := by
      simp only [Server.newServer, except_bind_ok_iff,
        mapError_ok_iff, Except.ok.injEq,
        Prod.mk.injEq] at hBuilt
      rcases hBuilt with
        ⟨_, -, _, -, guard, hGuard, -, rfl⟩
      exact Server.newCheckpointReplayGuard_statePath hGuard
    rw [hPath]
    exact guard_path_of_accepted hAccepted hOn
  · have hSteps := startConsensus_ok_iff.mp hStarted
    by_cases hEnabled : s.config.consensus.enabled = true
    · rw [if_pos hEnabled] at hSteps
      rcases hSteps with ⟨-, timeout, hTimeout, rfl⟩
      rw [← failoverTimeout_pos_iff hTimeout]
      by_cases hPos : 0 < timeout
      · simp [hPos, hEnabled]
      · simp [hPos]
    · rw [if_neg hEnabled] at hSteps
      simp [hSteps, hEnabled]
  · have hSteps := startConsensus_ok_iff.mp hStarted
    unfold Config.dialClients
    by_cases hEnabled : s.config.consensus.enabled = true
    · rw [if_pos hEnabled] at hSteps ⊢
      rcases hSteps with ⟨-, timeout, -, rfl⟩
      rfl
    · rw [if_neg hEnabled] at hSteps ⊢
      rw [hSteps]

/- The sample has `SignTx` off and elects a primary. -/
theorem sample_started_as_configured :
    ∃ running,
      startDaemon sampleOutside sampleSettings =
          .ok running ∧
        (Server.newEnabledRPCInterceptor
            running.srv.enabledRPCs
            Method.signTx.full).isSome = true ∧
        running.election.isSome = true ∧
        running.guard.statePath ≠ [] := by
  have hStarts :
      (startDaemon sampleOutside sampleSettings).toBool =
        true := by
    decide +kernel
  cases hStart :
      startDaemon sampleOutside sampleSettings with
  | error ending =>
      rw [hStart] at hStarts
      cases hStarts
  | ok running =>
      rcases started_as_configured sampleOutside
          sampleSettings sampleSettings.config
          sample_accepted running hStart with
        ⟨-, hSwitches, hGuard, hElection, -⟩
      exact ⟨running, rfl,
        (hSwitches .signTx).mpr (by decide +kernel),
        hElection.mpr ⟨rfl, by decide +kernel⟩,
        hGuard (by decide +kernel)⟩

end Startup

end BridgeSigner
