import BridgeSigner.Server.Interceptors
import BridgeSigner.Server.Operations

/-
  The RPC handlers behind their interceptors, and sequences
  of RPCs (server/server.go).

  Every handler that signs is a list of gates followed by
  calls of the backend. The calls are logged with the request
  they are made for and with the guard's mark before it. The
  checkpoint handler, run alone, is a run of the machine of
  concurrent checkpoint requests.

  Key definitions include:
    * `newServer`
    * `BridgeSignerServer.handle`
    * `BridgeSignerServer.rpcs`
    * `Scoped`

  Main results:
    * `BridgeSignerServer.signBridgeCheckpoint_is_run`
    * `BridgeSignerServer.handle_sound`
    * `BridgeSignerServer.backend_calls_scoped`
-/

------------------------------------------------------------
-- The Server
------------------------------------------------------------

namespace BridgeSigner

namespace Server

/- The settings that the handlers read. -/
structure Config where
  allowedMsgTypes : List Bytes
  chainID : Bytes
  checkpointGuardStatePath : Bytes
  enabledRPCs : List (Bytes × Bool)

/- A server; the replay guard is part of the world below. -/
structure BridgeSignerServer where
  lib : Libraries
  statePath : Bytes
  allowedMsgTypes : List Bytes
  chainID : Bytes
  selfEVMAddr : Bytes
  selfCosmosAddr : Bytes
  enabledRPCs : List (Bytes × Bool)

/- Why a server could not be built. -/
inductive NewError where
| publicKey (e : Bytes)
| decompress (e : Bytes)
| guard (e : LoadError)

/- The server's `New`: both addresses are of its own key. -/
def newServer
    (lib : Libraries)
    (publicKey : Fallible Bytes)
    (cfg : Config)
    (file : ReadResult) :
    Except NewError
      (BridgeSignerServer × CheckpointReplayGuard) := do
  let pubKey ← publicKey.mapError NewError.publicKey
  let point ←
    (lib.decompressPubkey pubKey).mapError
      NewError.decompress
  let guard ←
    (newCheckpointReplayGuard cfg.checkpointGuardStatePath
      file).mapError NewError.guard
  .ok
    ({ lib := lib
       statePath := cfg.checkpointGuardStatePath
       allowedMsgTypes := cfg.allowedMsgTypes
       chainID := cfg.chainID
       selfEVMAddr := lib.pubkeyToAddress point
       selfCosmosAddr := lib.cosmosAddress pubKey
       enabledRPCs := cfg.enabledRPCs },
      guard)

/- The server acts for this key as configured. -/
structure BridgeSignerServer.ActsFor
    (srv : BridgeSignerServer)
    (lib : Libraries)
    (pubKey : Bytes)
    (cfg : Config) : Prop where
  libraries : srv.lib = lib
  evmAddress :
    ∃ point,
      lib.decompressPubkey pubKey = .ok point ∧
        srv.selfEVMAddr = lib.pubkeyToAddress point
  cosmosAddress :
    srv.selfCosmosAddr = lib.cosmosAddress pubKey
  allowed : srv.allowedMsgTypes = cfg.allowedMsgTypes
  enabled : srv.enabledRPCs = cfg.enabledRPCs

/- A server that was built acts for the backend's key. -/
theorem newServer_ok
    {lib : Libraries}
    {publicKey : Fallible Bytes}
    {cfg : Config}
    {file : ReadResult}
    {srv : BridgeSignerServer}
    {g : CheckpointReplayGuard}
    (hNew : newServer lib publicKey cfg file = .ok (srv, g)) :
    (∃ pubKey,
        publicKey = .ok pubKey ∧
          srv.ActsFor lib pubKey cfg) ∧
      g.loaded = true := by
  simp only [newServer, except_bind_ok_iff,
    mapError_ok_iff, Except.ok.injEq, Prod.mk.injEq] at hNew
  rcases hNew with
    ⟨pubKey, hKey, point, hPoint, guard, hGuard, rfl, rfl⟩
  exact ⟨⟨pubKey, hKey, rfl, ⟨point, hPoint, rfl⟩, rfl,
      rfl, rfl⟩,
    newCheckpointReplayGuard_loaded hGuard⟩

/- What the checkpoint handler sees of the server. -/
def BridgeSignerServer.env
    (srv : BridgeSignerServer) : CheckpointEnv :=
  ⟨srv.statePath, srv.lib.keccak256, srv.lib.sha256,
    srv.selfEVMAddr⟩

def Request.method : Request → Method
| .sign _ _ => .sign
| .getPublicKey => .getPublicKey
| .signRaw _ _ => .signRaw
| .getAddress _ => .getAddress
| .signTx _ _ => .signTx
| .getChainID => .getChainID
| .signBridgeCheckpoint _ => .signBridgeCheckpoint
| .signOracleAttestation _ => .signOracleAttestation
| .signInitial _ _ => .signInitial

/- What a handler returns; `Sign` and `SignRaw` never do. -/
inductive Response where
| getPublicKey (publicKey : Bytes)
| getAddress (address : Bytes)
| signTx (signature : Bytes)
| getChainID (chainId : Bytes)
| signBridgeCheckpoint (r : SignBridgeCheckpointResponse)
| signOracleAttestation (signature snapshot : Bytes)
| signInitial (signatureA signatureB : Bytes)
  deriving DecidableEq, Repr

end Server

end BridgeSigner

------------------------------------------------------------
-- Handlers
------------------------------------------------------------

namespace BridgeSigner

namespace Server

/-
  A call of the backend: the request it is made for, the
  guard's mark when that request came in, and the digest.
-/
structure BackendCall where
  request : Request
  mark : UInt64
  digest : Bytes
  deriving DecidableEq, Repr

/- The guard, its disk and the backend calls made so far. -/
structure World where
  guard : CheckpointReplayGuard
  disk : Disk
  calls : List BackendCall
  deriving DecidableEq

/-
  What the surroundings decide during one RPC: the peer, the
  elected primary, file faults, and the results of the
  backend in the order of its calls.
-/
structure Surroundings where
  peer : Option Bytes
  primaryHost : Option Bytes
  advanceFault : Option FileOp
  recordFault : Option FileOp
  signRaw : Nat → SignRawResult
  publicKey : Fallible Bytes

/- What an RPC returns and the world it leaves. -/
abbrev Outcome (α : Type) :=
  Except Status α × World

/- Call the backend. -/
def World.signRaw
    (w : World)
    (request : Request)
    (mark : UInt64)
    (digest : Bytes) : World :=
  { w with calls := ⟨request, mark, digest⟩ :: w.calls }

/- The status of the hard-disabled blind primitives. -/
def blindSigningDisabled : Status :=
  ⟨.unimplemented,
    "blind signing is disabled; use SignTx / " ++
      "SignBridgeCheckpoint / SignOracleAttestation", []⟩

/- `Bech32Address`; its errors are wrapped by the caller. -/
def bech32Address
    (lib : Libraries)
    (publicKey : Fallible Bytes)
    (hrp : Bytes) : Except (String × List Arg) Bytes :=
  if hrp = [] then
    .error ("prefix must not be empty", [])
  else
    match publicKey with
    | .error e =>
        .error ("get public key: %w", [.external e])
    | .ok key =>
        if key.length ≠ 33 then
          .error
            ("invalid public key length %d, expected 33",
              [.num key.length])
        else
          match
            lib.encodeBech32 hrp (lib.cosmosAddress key)
          with
          | .error e =>
              .error ("bech32 encode: %w", [.external e])
          | .ok address => .ok address

namespace BridgeSignerServer

variable (srv : BridgeSignerServer)
variable (env : Surroundings)
variable (w : World)

def getPublicKey : Except Status Response :=
  match env.publicKey with
  | .error e =>
      .error ⟨.internal, "failed to get public key: %v",
        [.external e]⟩
  | .ok key => do
      ensure (key.length = 33)
        ⟨.internal,
          "invalid public key length %d, expected 33",
          [.num key.length]⟩
      .ok (.getPublicKey key)

def getAddress
    (hrp : Bytes) : Except Status Response :=
  match bech32Address srv.lib env.publicKey hrp with
  | .error (format, args) =>
      .error
        (invalidArgument ("derive address: " ++ format) args)
  | .ok address => .ok (.getAddress address)

def getChainID : Except Status Response := do
  ensure (srv.chainID ≠ [])
    ⟨.failedPrecondition,
      "chain ID is not configured on the signer", []⟩
  .ok (.getChainID srv.chainID)

/- The signature of a transaction has no length check. -/
def signTx
    (signDoc requestId : Bytes) : Outcome Response :=
  match signTxGates srv.lib srv.allowedMsgTypes signDoc with
  | .error e => (.error e, w)
  | .ok () =>
      ((rawSignature "signing failed: %v"
          (env.signRaw 0)).map Response.signTx,
        w.signRaw (.signTx signDoc requestId)
          w.guard.highWater (srv.lib.sha256 signDoc))

def signOracleAttestation
    (req : SignOracleAttestationRequest) :
    Outcome Response :=
  match attestationGates srv.lib.keccak256 req with
  | .error e => (.error e, w)
  | .ok snapshot =>
      ((checkedSignature (env.signRaw 0)).map
          (Response.signOracleAttestation · snapshot),
        w.signRaw (.signOracleAttestation req)
          w.guard.highWater (srv.lib.sha256 snapshot))

/- The second signature is asked for only after the first. -/
def signInitial
    (operatorAddress requestId : Bytes) :
    Outcome Response :=
  match
    initialGates srv.lib srv.selfCosmosAddr operatorAddress
  with
  | .error e => (.error e, w)
  | .ok () =>
      let digests :=
        registrationDigests srv.lib.sha256 operatorAddress
      let wA :=
        w.signRaw (.signInitial operatorAddress requestId)
          w.guard.highWater digests.1
      match
        signature64 "signing A failed: %v"
          "invalid signature A length %d, expected 64"
          (env.signRaw 0)
      with
      | .error e => (.error e, wA)
      | .ok sigA =>
          ((signature64 "signing B failed: %v"
              "invalid signature B length %d, expected 64"
              (env.signRaw 1)).map
              (Response.signInitial sigA),
            wA.signRaw
              (.signInitial operatorAddress requestId)
              w.guard.highWater digests.2)

/- Step (8), once the guard has advanced. -/
def signCheckpoint
    (req : SignBridgeCheckpointRequest)
    (c : Bytes) :
    Outcome SignBridgeCheckpointResponse :=
  match checkedSignature (env.signRaw 0) with
  | .error e => (.error e, w)
  | .ok sig =>
      let r := w.guard.recordSignature
        req.validatorTimestamp c sig w.disk env.recordFault
      (.ok ⟨sig, c⟩,
        { w with guard := r.2.1, disk := r.2.2 })

/- Gates (1) to (6), the guard of step (7), then step (8). -/
def signBridgeCheckpoint
    (req : SignBridgeCheckpointRequest) :
    Outcome SignBridgeCheckpointResponse :=
  match srv.env.validate req with
  | .error e => (.error e, w)
  | .ok c =>
      match
        w.guard.checkAndAdvance req.validatorTimestamp w.disk
          env.advanceFault
      with
      | (some (.rejected ts hw), g, d) =>
          (CheckpointRun.lookupReply g req c
              (.rejected ts hw),
            { w with guard := g, disk := d })
      | (some (.persist op), g, d) =>
          (.error (replayGuardStatus (.persist op)),
            { w with guard := g, disk := d })
      | (none, g, d) =>
          signCheckpoint env
            (World.signRaw { w with guard := g, disk := d }
              (.signBridgeCheckpoint req)
              w.guard.highWater (srv.lib.sha256 c))
            req c

/- The handler of a request. -/
def dispatch : Request → Outcome Response
| .sign _ _ => (.error blindSigningDisabled, w)
| .getPublicKey => (getPublicKey env, w)
| .signRaw _ _ => (.error blindSigningDisabled, w)
| .getAddress hrp => (srv.getAddress env hrp, w)
| .signTx signDoc requestId =>
    srv.signTx env w signDoc requestId
| .getChainID => (srv.getChainID, w)
| .signBridgeCheckpoint req =>
    let r := srv.signBridgeCheckpoint env w req
    (r.1.map Response.signBridgeCheckpoint, r.2)
| .signOracleAttestation req =>
    srv.signOracleAttestation env w req
| .signInitial operatorAddress requestId =>
    srv.signInitial env w operatorAddress requestId

/- A request through the chain of interceptors. -/
def handle
    (request : Request) : Outcome Response :=
  match
    newEnabledRPCInterceptor srv.enabledRPCs
      request.method.full
  with
  | some e => (.error e, w)
  | none =>
      match
        newPrimaryGateInterceptor env.primaryHost
          request.method.full env.peer
      with
      | some e => (.error e, w)
      | none => srv.dispatch env w request

/- The server taking one RPC after another. -/
def rpcs : Machine World (Surroundings × Request) where
  step := fun w rpc => some (srv.handle rpc.1 w rpc.2).2

end BridgeSignerServer

end Server

end BridgeSigner

------------------------------------------------------------
-- One RPC Is A Run Of The Checkpoint Machine
------------------------------------------------------------

namespace BridgeSigner

namespace Server

namespace BridgeSignerServer

open CheckpointRun

variable {srv : BridgeSignerServer}
variable {env : Surroundings}
variable {w : World}

/- A process that runs on the guard and disk of a world. -/
structure RunsOn
    (w : World)
    (fs : List Flight)
    (s : State) : Prop where
  disk : s.disk = w.disk
  process : s.process = some ⟨w.guard, fs⟩

theorem take_cons
    {s : State}
    {f : Flight}
    {g : CheckpointReplayGuard}
    {fs : List Flight}
    (hProcess : s.process = some ⟨g, f :: fs⟩) :
    s.take f = some (g, fs) := by
  simp [State.take, hProcess]

/-
  The machine reaches from `s` the world that a handler left,
  with the handler's result as the next reply.
-/
def Answers
    (srv : BridgeSignerServer)
    (fs : List Flight)
    (s : State)
    (req : SignBridgeCheckpointRequest)
    (out : Outcome SignBridgeCheckpointResponse) : Prop :=
  ∃ s',
    (machine srv.env).Reaches s s' ∧
      RunsOn out.2 fs s' ∧
      s'.replies = (req, out.1) :: s.replies

theorem Answers.after
    {s t : State}
    {fs : List Flight}
    {req : SignBridgeCheckpointRequest}
    {out : Outcome SignBridgeCheckpointResponse}
    (hReach : (machine srv.env).Reaches s t)
    (hReplies : t.replies = s.replies)
    (hAnswers : Answers srv fs t req out) :
    Answers srv fs s req out := by
  rcases hAnswers with ⟨s', hReach', hRuns, hReplies'⟩
  exact ⟨s', hReach.trans hReach', hRuns,
    hReplies ▸ hReplies'⟩

/- The memo lookup, after the guard has rejected. -/
theorem lookup_is_run
    {s : State}
    {fs : List Flight}
    {req : SignBridgeCheckpointRequest}
    {c : Bytes}
    {e : GuardError}
    (hRuns : RunsOn w (.refused req c e :: fs) s) :
    Answers srv fs s req (lookupReply w.guard req c e, w) := by
  have hLookup :
      (machine srv.env).step s (.lookup req c e) =
        some ((s.resume s.disk w.guard fs).reply req
          (lookupReply w.guard req c e)) := by
    simp [machine, step, take_cons hRuns.process]
  exact ⟨_, Machine.Reaches.single hLookup,
    ⟨hRuns.disk, rfl⟩, rfl⟩

/- Step (8) of the handler, after the guard has advanced. -/
theorem signCheckpoint_is_run
    {s : State}
    {fs : List Flight}
    {req : SignBridgeCheckpointRequest}
    {c : Bytes}
    (hRuns : RunsOn w (.advanced req c :: fs) s) :
    Answers srv fs s req (signCheckpoint env w req c) := by
  have hCall :
      (machine srv.env).step s
          (.signRaw req c (env.signRaw 0)) =
        some ((s.called srv.env req c
          (env.signRaw 0)).afterSignRaw req c w.guard fs
            (checkedSignature (env.signRaw 0))) := by
    simp [machine, step, take_cons hRuns.process]
  cases hSig : checkedSignature (env.signRaw 0) with
  | error e =>
      rw [hSig] at hCall
      refine ⟨_, Machine.Reaches.single hCall, ?_, ?_⟩
      · rw [signCheckpoint, hSig]
        exact ⟨hRuns.disk, rfl⟩
      · rw [signCheckpoint, hSig]
        rfl
  | ok sig =>
      rw [hSig] at hCall
      let t :=
        (s.called srv.env req c (env.signRaw 0)).resume
          s.disk w.guard (.signed req c sig :: fs)
      have hTake :
          t.take (.signed req c sig) = some (w.guard, fs) :=
        take_cons rfl
      have hRecord :
          (machine srv.env).step t
              (.record req c sig env.recordFault) =
            some (t.afterRecord req c sig fs
                (w.guard.recordSignature
                  req.validatorTimestamp c sig w.disk
                  env.recordFault)) := by
        simp only [machine, step, hTake]
        rw [← hRuns.disk]
        rfl
      rw [signCheckpoint, hSig]
      exact ⟨_,
        (Machine.Reaches.single hCall).trans
          (Machine.Reaches.single hRecord),
        ⟨rfl, rfl⟩, rfl⟩

/-
  The checkpoint handler, run alone beside any open requests,
  takes the concurrent machine to the state it leaves behind,
  with its result as the reply.
-/
theorem signBridgeCheckpoint_is_run
    {s : State}
    {fs : List Flight}
    (hRuns : RunsOn w fs s)
    (req : SignBridgeCheckpointRequest) :
    Answers srv fs s req
      (srv.signBridgeCheckpoint env w req) := by
  cases hGates : srv.env.validate req with
  | error e =>
      have hArrive :
          (machine srv.env).step s (.arrive req) =
            some (s.reply req (.error e)) := by
        simp [machine, step, hRuns.process, hGates]
      rw [signBridgeCheckpoint, hGates]
      exact ⟨_, Machine.Reaches.single hArrive,
        ⟨hRuns.disk, hRuns.process⟩, rfl⟩
  | ok c =>
      have hArrive :
          (machine srv.env).step s (.arrive req) =
            some (s.resume s.disk w.guard
              (.checked req c :: fs)) := by
        simp [machine, step, hRuns.process, hGates]
      let t := s.resume s.disk w.guard (.checked req c :: fs)
      have hTake :
          t.take (.checked req c) = some (w.guard, fs) :=
        take_cons rfl
      have hAdvance :
          (machine srv.env).step t
              (.advance req c env.advanceFault) =
            some (t.afterAdvance req c fs
              (w.guard.checkAndAdvance req.validatorTimestamp
                w.disk env.advanceFault)) := by
        simp only [machine, step, hTake]
        rw [← hRuns.disk]
        rfl
      have hReach :=
        (Machine.Reaches.single hArrive).trans
          (Machine.Reaches.single hAdvance)
      rw [signBridgeCheckpoint, hGates]
      rcases hGuard :
          w.guard.checkAndAdvance req.validatorTimestamp
            w.disk env.advanceFault with
        ⟨_ | ⟨ts, hw⟩ | op, g, d⟩
      · rw [hGuard] at hReach
        exact Answers.after hReach rfl
          (signCheckpoint_is_run ⟨rfl, rfl⟩)
      · rw [hGuard] at hReach
        exact Answers.after hReach rfl
          (lookup_is_run
            (w := { w with guard := g, disk := d })
            ⟨rfl, rfl⟩)
      · rw [hGuard] at hReach
        exact ⟨_, hReach, ⟨rfl, rfl⟩, rfl⟩

end BridgeSignerServer

end Server

end BridgeSigner

------------------------------------------------------------
-- Scoped Signing
------------------------------------------------------------

namespace BridgeSigner

namespace Server

/-
  The digest of a backend call is that of one of the four
  operations, and the operation's checks hold.
-/
def Scoped
    (srv : BridgeSignerServer)
    (call : BackendCall) : Prop :=
  match call.request with
  | .signTx signDoc _ =>
      call.digest = srv.lib.sha256 signDoc ∧
        ∃ doc body,
          srv.lib.decodeSignDoc signDoc = .ok doc ∧
            srv.lib.decodeTxBody doc.bodyBytes =
              .ok body ∧
            body.typeUrls ≠ [] ∧
            ∀ t ∈ body.typeUrls, t ∈ srv.allowedMsgTypes
  | .signBridgeCheckpoint req =>
      ∃ c,
        call.digest = srv.lib.sha256 c ∧
          CheckpointRecomputed srv.lib.keccak256
            srv.selfEVMAddr req c ∧
          call.mark < req.validatorTimestamp
  | .signOracleAttestation req =>
      call.digest = srv.lib.sha256 req.expectedSnapshot ∧
        encodeOracleAttestation srv.lib.keccak256 req =
          req.expectedSnapshot
  | .signInitial operatorAddress _ =>
      (call.digest =
            (registrationDigests srv.lib.sha256
              operatorAddress).1 ∨
          call.digest =
            (registrationDigests srv.lib.sha256
              operatorAddress).2) ∧
        ∃ hrp,
          srv.lib.decodeBech32 operatorAddress =
            .ok (hrp, srv.selfCosmosAddr)
  | _ => False

/- The guard is loaded and every call so far was scoped. -/
structure World.Sound
    (srv : BridgeSignerServer)
    (w : World) : Prop where
  loaded : w.guard.loaded = true
  allScoped : ∀ call ∈ w.calls, Scoped srv call

namespace World.Sound

variable {srv : BridgeSignerServer}
variable {env : Surroundings}
variable {w : World}

theorem signRaw
    (hw : w.Sound srv)
    {request : Request}
    {mark : UInt64}
    {digest : Bytes}
    (hScoped : Scoped srv ⟨request, mark, digest⟩) :
    (w.signRaw request mark digest).Sound srv where
  loaded := hw.loaded
  allScoped := by
    intro call hCall
    rcases List.mem_cons.mp hCall with rfl | hCall
    · exact hScoped
    · exact hw.allScoped call hCall

/- The guard and the disk change, the log does not. -/
theorem store
    (hw : w.Sound srv)
    {g : CheckpointReplayGuard}
    (hg : g.loaded = true)
    (d : Disk) :
    World.Sound srv { w with guard := g, disk := d } where
  loaded := hg
  allScoped := hw.allScoped

end World.Sound

end Server

end BridgeSigner

------------------------------------------------------------
-- One RPC Keeps The World Sound
------------------------------------------------------------

namespace BridgeSigner

namespace Server

/- The guard, with or without a state path. -/
theorem CheckpointReplayGuard.checkAndAdvance_loaded
    {g g' : CheckpointReplayGuard}
    {ts : UInt64}
    {d d' : Disk}
    {fault : Option FileOp}
    {r : Option GuardError}
    (hLoaded : g.loaded = true)
    (h : g.checkAndAdvance ts d fault = (r, g', d')) :
    g'.loaded = true ∧ (r = none → g.highWater < ts) := by
  by_cases hTs : ts ≤ g.highWater
  · simp only [checkAndAdvance, checkAndAdvanceBy, hLoaded,
      hTs, decide_true, Bool.and_self, if_true,
      Prod.mk.injEq] at h
    rcases h with ⟨rfl, rfl, -⟩
    refine ⟨hLoaded, ?_⟩
    intro hNone
    cases hNone
  · have hLt : g.highWater < ts := UInt64.not_le.mp hTs
    refine ⟨?_, fun _ => hLt⟩
    have hLoaded' : (g.advanceTo ts).loaded = true := hLoaded
    simp only [checkAndAdvance, checkAndAdvanceBy, hTs,
      decide_false, Bool.and_false, Bool.false_eq_true,
      if_false] at h
    split at h
    · rw [← (Prod.mk.inj (Prod.mk.inj h).2).1]
      exact hLoaded'
    · split at h
      · rw [← (Prod.mk.inj (Prod.mk.inj h).2).1]
        exact hLoaded
      · rw [← (Prod.mk.inj (Prod.mk.inj h).2).1]
        exact hLoaded'

theorem CheckpointReplayGuard.recordSignature_loaded
    (g : CheckpointReplayGuard)
    (ts : UInt64)
    (c sig : Bytes)
    (d : Disk)
    (fault : Option FileOp) :
    (g.recordSignature ts c sig d fault).2.1.loaded =
      g.loaded := by
  unfold recordSignature recordSignatureBy
  split
  · rfl
  · split
    · rfl
    · rfl

namespace BridgeSignerServer

variable {srv : BridgeSignerServer}
variable {env : Surroundings}
variable {w : World}

theorem signTx_sound
    (hw : w.Sound srv)
    (signDoc requestId : Bytes) :
    (srv.signTx env w signDoc requestId).2.Sound srv := by
  unfold signTx
  split
  · exact hw
  · rename_i hGates
    rcases signTxGates_ok_iff.mp hGates with ⟨-, hAllowed⟩
    exact hw.signRaw ⟨rfl, hAllowed⟩

theorem signOracleAttestation_sound
    (hw : w.Sound srv)
    (req : SignOracleAttestationRequest) :
    (srv.signOracleAttestation env w req).2.Sound srv := by
  unfold signOracleAttestation
  split
  · exact hw
  · rename_i hGates
    rcases attestationGates_ok_iff.mp hGates with
      ⟨-, -, -, hSnapshot, rfl⟩
    exact hw.signRaw ⟨rfl, hSnapshot⟩

theorem signInitial_sound
    (hw : w.Sound srv)
    (operatorAddress requestId : Bytes) :
    (srv.signInitial env w operatorAddress
      requestId).2.Sound srv := by
  unfold signInitial
  split
  · exact hw
  · rename_i hGates
    rcases initialGates_ok_iff.mp hGates with ⟨-, hSelf⟩
    have hA :
        (w.signRaw (.signInitial operatorAddress requestId)
          w.guard.highWater
          (registrationDigests srv.lib.sha256
            operatorAddress).1).Sound srv :=
      hw.signRaw ⟨Or.inl rfl, hSelf⟩
    simp only
    split
    · exact hA
    · exact hA.signRaw ⟨Or.inr rfl, hSelf⟩

theorem signCheckpoint_sound
    (hw : w.Sound srv)
    (req : SignBridgeCheckpointRequest)
    (c : Bytes) :
    (signCheckpoint env w req c).2.Sound srv := by
  unfold signCheckpoint
  split
  · exact hw
  · refine hw.store ?_ _
    rw [CheckpointReplayGuard.recordSignature_loaded]
    exact hw.loaded

theorem signBridgeCheckpoint_sound
    (hw : w.Sound srv)
    (req : SignBridgeCheckpointRequest) :
    (srv.signBridgeCheckpoint env w req).2.Sound srv := by
  unfold signBridgeCheckpoint
  split
  · exact hw
  · rename_i c hGates
    have hRecomputed := validateCheckpoint_ok_iff.mp hGates
    split
    · rename_i hGuard
      exact hw.store
        (CheckpointReplayGuard.checkAndAdvance_loaded
          hw.loaded hGuard).1 _
    · rename_i hGuard
      exact hw.store
        (CheckpointReplayGuard.checkAndAdvance_loaded
          hw.loaded hGuard).1 _
    · rename_i hGuard
      have hAdvanced :=
        CheckpointReplayGuard.checkAndAdvance_loaded
          hw.loaded hGuard
      apply signCheckpoint_sound
      exact (hw.store hAdvanced.1 _).signRaw
        ⟨c, rfl, hRecomputed, hAdvanced.2 rfl⟩

theorem dispatch_sound
    (hw : w.Sound srv)
    (request : Request) :
    (srv.dispatch env w request).2.Sound srv := by
  cases request with
  | signTx signDoc requestId =>
      exact signTx_sound hw signDoc requestId
  | signBridgeCheckpoint req =>
      exact signBridgeCheckpoint_sound hw req
  | signOracleAttestation req =>
      exact signOracleAttestation_sound hw req
  | signInitial operatorAddress requestId =>
      exact signInitial_sound hw operatorAddress requestId
  | _ => exact hw

theorem handle_sound
    (hw : w.Sound srv)
    (request : Request) :
    (srv.handle env w request).2.Sound srv := by
  unfold handle
  split
  · exact hw
  · split
    · exact hw
    · exact dispatch_sound hw request

/- A switched-off method is turned away at once. -/
theorem handle_disabled
    {request : Request}
    (hDisabled :
      srv.enabledRPCs.lookup request.method.full =
        some false) :
    srv.handle env w request =
      (.error ⟨.unimplemented, "method %s is disabled",
        [.text request.method.full]⟩, w) := by
  simp [handle, newEnabledRPCInterceptor, hDisabled]

/- The blind primitives are not behind the primary gate. -/
theorem handle_blind
    {request : Request}
    (hBlind :
      request.method = .sign ∨ request.method = .signRaw) :
    ∃ e,
      srv.handle env w request = (.error e, w) ∧
        e.code = .unimplemented := by
  by_cases hDisabled :
      srv.enabledRPCs.lookup request.method.full = some false
  · exact ⟨_, handle_disabled hDisabled, rfl⟩
  · refine ⟨blindSigningDisabled, ?_, rfl⟩
    have hOpen :
        newPrimaryGateInterceptor env.primaryHost
          request.method.full env.peer = none := by
      have hFree :
          request.method.full ∉ primaryGatedRPCs := by
        rcases hBlind with h | h <;> rw [h] <;> decide
      cases env.primaryHost with
      | none => rfl
      | some want =>
          simp [newPrimaryGateInterceptor, hFree]
    have hDispatch :
        srv.dispatch env w request =
          (.error blindSigningDisabled, w) := by
      cases request <;> simp [Request.method] at hBlind <;>
        rfl
    simp only [handle, newEnabledRPCInterceptor, hDisabled,
      if_false, hOpen, hDispatch]

theorem handle_refused
    {request : Request}
    (hRefused :
      request.method = .sign ∨
        request.method = .signRaw ∨
        srv.enabledRPCs.lookup request.method.full =
          some false) :
    ∃ e,
      srv.handle env w request = (.error e, w) ∧
        e.code = .unimplemented := by
  rcases hRefused with hSign | hSignRaw | hDisabled
  · exact handle_blind (Or.inl hSign)
  · exact handle_blind (Or.inr hSignRaw)
  · exact ⟨_, handle_disabled hDisabled, rfl⟩

/- Any RPCs keep what a new server starts with. -/
theorem rpcs_sound
    {lib : Libraries}
    {publicKey : Fallible Bytes}
    {cfg : Config}
    {file : ReadResult}
    {g : CheckpointReplayGuard}
    (hNew : newServer lib publicKey cfg file = .ok (srv, g))
    {disk : Disk}
    {calls : List (Surroundings × Request)}
    (hRun : srv.rpcs.run ⟨g, disk, []⟩ calls = some w) :
    w.Sound srv := by
  refine Machine.run_invariant ?_ hRun
    ⟨(newServer_ok hNew).2, nofun⟩
  intro v rpc v' hStep hv
  cases hStep
  exact handle_sound hv rpc.2

/-
  The bridge key signs only the four scoped operations. In
  every sequence of RPCs, on a server built from any
  configuration, every backend call is scoped; blind signing
  and switched-off methods are refused, call no backend and
  change nothing.
-/
theorem backend_calls_scoped
    {lib : Libraries}
    {publicKey : Fallible Bytes}
    {cfg : Config}
    {file : ReadResult}
    {g : CheckpointReplayGuard}
    (hNew : newServer lib publicKey cfg file = .ok (srv, g))
    {disk : Disk}
    {calls : List (Surroundings × Request)}
    (hRun : srv.rpcs.run ⟨g, disk, []⟩ calls = some w) :
    (∃ pubKey,
        publicKey = .ok pubKey ∧
          srv.ActsFor lib pubKey cfg) ∧
      (∀ call ∈ w.calls, Scoped srv call) ∧
      ∀ (env : Surroundings) (request : Request),
        request.method = .sign ∨
            request.method = .signRaw ∨
            srv.enabledRPCs.lookup request.method.full =
              some false →
          ∃ e,
            srv.handle env w request = (.error e, w) ∧
              e.code = .unimplemented := by
  exact ⟨(newServer_ok hNew).1,
    (rpcs_sound hNew hRun).allScoped,
    fun env request hRefused => handle_refused hRefused⟩

/- A function given by its values at some arguments. -/
def table
    (entries : List (Bytes × Bytes))
    (b : Bytes) : Bytes :=
  (entries.lookup b).getD []

/- The tests' fixed public key and what derives from it. -/
def fixedKey : Bytes :=
  0x03 :: beBytes 32
    0x4f355bdcb7cc0af728ef3cceb9615d90684bb5b2ca5f859ab0f0b704075871aa

def fixedPoint : Bytes :=
  fixedKey.drop 1 ++ beBytes 32
    0x385b6b1b8ead809ca67454d9683fcf2ba03456d6fe2c4abe2b07f0fbdbb2f1c1

def fixedEVMAddr : Bytes :=
  beBytes 20 0x19e7e376e7c213b7e7e7e46cc70a5dd086daff2a

def fixedCosmosAddr : Bytes :=
  beBytes 20 0xfc7250a211deddc70ee5a2738de5f07817351cef

def fixedOperator : Bytes :=
  ascii
    "tellorvaloper1l3e9pgs3mmwuwrh95fecme0s0qtn2880un8j2u"

/- A checkpoint of a set made of the fixed key alone. -/
def fixedCheckpoint : SignBridgeCheckpointRequest :=
  { goldenRequest with
    powerThreshold := 66
    validatorSet := [⟨fixedEVMAddr, 100⟩]
    validatorSetHash := beBytes 32
      0x60b97d16e5f64687e8fec8c6c23b1756ecbfbdd14a68d9e9ab6ae45f903a8960
    expectedCheckpoint := beBytes 32
      0x4a01a0c286d64dc2f38021230b91e0acc60ba93d000ade663bb405435da3a03b }

/- The node's golden attestation. -/
def goldenAttestation : SignOracleAttestationRequest where
  queryId := beBytes 32
    0x83245f6a6a2f6458558a706270fbcc35ac3a81917602c1313d3bfa998dcc2d4b
  value := beBytes 32 0x0de0b6b3a7640000
  timestamp := 1700000000000
  aggregatePower := 175
  previousTimestamp := 1699999000000
  nextTimestamp := 1700001000000
  valsetCheckpoint := beBytes 32
    0x5c3d8e1f0a9b7c6d4e2f1a0b9c8d7e6f5a4b3c2d1e0f9a8b7c6d5e4f3a2b1c0d
  attestationTimestamp := 1700000500000
  lastConsensusTimestamp := 1699998000000
  expectedSnapshot := beBytes 32
    0x800969391dde8f3dfb8b76d4d5637b51f5b23ebb26721fc933a7b5cb6fd82124
  requestId := ascii "parity-attestation"

/- A transaction body with one message. -/
def submitValue : Bytes :=
  ascii "/layer.oracle.MsgSubmitValue"

def fixedBody : Bytes :=
  [0x0a, 30, 0x0a, 28] ++ submitValue

def fixedSignDoc : Bytes :=
  [0x0a, 32] ++ fixedBody ++ [0x1a, 11] ++
    ascii "layertest-4"

/- The hashes of the two registration messages. -/
def fixedHashA : Bytes :=
  beBytes 32
    0xde902240ed46e908ec56d0ffed40e8a379f397ba5ea7216ffd13672dd4373a1c

def fixedHashB : Bytes :=
  beBytes 32
    0xef05b92baedc3df601a9fd1b7cebe70bd7bd7bb6c9297ad5244f20ad607cc3c7

/- The digests of the five backend calls, newest first. -/
def fixedDigests : List Bytes :=
  [beBytes 32
      0x6b1d01cf3589cee93a458d8c5821e2cc7ea872c17e4dd839d8cee55f59ca0861,
    beBytes 32
      0xb2a693dd8e68c81e69bd6965707a3d157a6b9c81f4ea4d10da6d5e48e0f518f7,
    beBytes 32
      0x227f6fb0c5d2967ddf409b0257020d834d48dbe3b60d29bea7b7a39c03eed6d6,
    beBytes 32
      0xdfd704ed81bc48581e50f40a132cc30d2f3153aab40da6f7e6345fc9e1e9e3c6,
    beBytes 32
      0x435aa98210d4aedafd74df2ccba13bd8069bf249f59e19ad00f1a790f7b0509f]

/- The libraries on what the fixed requests ask of them. -/
def fixedLibraries : Libraries where
  keccak256 := table
    [(encodeValidatorSet fixedCheckpoint.validatorSet,
        fixedCheckpoint.validatorSetHash),
      (encodeDomain fixedCheckpoint.chainId,
        fixedCheckpoint.domainSeparator),
      (encodeCheckpointWords fixedCheckpoint.domainSeparator
          66 1700000000000 fixedCheckpoint.validatorSetHash,
        fixedCheckpoint.expectedCheckpoint),
      (encodeAttestationArgs goldenAttestation,
        goldenAttestation.expectedSnapshot)]
  sha256 := table
    (((initialRegistrationMessages fixedOperator).1,
        fixedHashA) ::
      ((initialRegistrationMessages fixedOperator).2,
        fixedHashB) ::
      [fixedHashB, fixedHashA,
        goldenAttestation.expectedSnapshot,
        fixedCheckpoint.expectedCheckpoint,
        fixedSignDoc].zip fixedDigests)
  decompressPubkey := fun b =>
    if b = fixedKey then .ok fixedPoint else .error []
  pubkeyToAddress := table [(fixedPoint, fixedEVMAddr)]
  cosmosAddress := table [(fixedKey, fixedCosmosAddr)]
  decodeSignDoc := fun b =>
    if b = fixedSignDoc then .ok ⟨fixedBody⟩ else .error []
  decodeTxBody := fun b =>
    if b = fixedBody then .ok ⟨[submitValue]⟩ else .error []
  decodeBech32 := fun b =>
    if b = fixedOperator then
      .ok (ascii "tellorvaloper", fixedCosmosAddr)
    else
      .error []
  encodeBech32 := fun _ _ => .error []

def fixedConfig : Config where
  allowedMsgTypes := [submitValue]
  chainID := ascii "layertest-4"
  checkpointGuardStatePath := ascii "/state/checkpoint_hw"
  enabledRPCs := [(Method.getChainID.full, false)]

def fixedServer : BridgeSignerServer where
  lib := fixedLibraries
  statePath := fixedConfig.checkpointGuardStatePath
  allowedMsgTypes := fixedConfig.allowedMsgTypes
  chainID := fixedConfig.chainID
  selfEVMAddr := fixedEVMAddr
  selfCosmosAddr := fixedCosmosAddr
  enabledRPCs := fixedConfig.enabledRPCs

/- No election, no faults, and a backend that signs. -/
def signing
    (sigs : List (Nat × Nat)) : Surroundings where
  peer := none
  primaryHost := none
  advanceFault := none
  recordFault := none
  signRaw := fun n =>
    let sig := sigs.getD n (0, 0)
    .ok (beBytes 32 sig.1 ++ beBytes 32 sig.2)
  publicKey := .ok fixedKey

/- RPCs of every signing method, and a repeat. -/
def fixedRPCs : List (Surroundings × Request) :=
  [(signing [], .signRaw fixedHashA []),
    (signing
      [(0x9a72b1cd4bec2d1b870e1f719185a405e92e8ab327de07108e6d35041d2437f5,
        0x592084ce7351ca00637eb956c0df64fde2ff19ea87bc8212c26c9101e466b4e1)],
      .signTx fixedSignDoc []),
    (signing
      [(0x3ce64dfa1a35b7f385de4d594b4f5cb12ced2aa545313ae732dd0f03b60e5d79,
        0x44a0023542a72e45c41f951cc7da523b8a833ea8d4f7f0770c0e850bd79fa222)],
      .signBridgeCheckpoint fixedCheckpoint),
    (signing [], .signBridgeCheckpoint fixedCheckpoint),
    (signing
      [(0x65b243409f43168a75a5c3184dcd09f5a8f7becbefbe9f5d4f24dc32d3e6feb4,
        0x1f49088031676890cc6badae9d0f00275955049fc13136db00b639eec7a1da9c)],
      .signOracleAttestation goldenAttestation),
    (signing
      [(0xf5db3de57226caaaae416b124472758e551ebbd5d47fb267ba314be0a11a5f55,
        0x23d5f4a038c9b0aad4a786f334579674c49ab84b7faa7842a1c94952c99492cf),
        (0xd572c7887a122230a78883c8cc5f800f17c75248c7530b6b088c762c4f853798,
        0x2583f08d4b508124bfce7e727a37abe040262a49aabc1eef8c50ed823010d04f)],
      .signInitial fixedOperator []),
    (signing [], .sign fixedHashA [])]

theorem fixed_calls_scoped :
    ∃ w,
      fixedServer.rpcs.run
          ⟨bareGuard fixedServer.statePath 0, ⟨none, none⟩,
            []⟩
          fixedRPCs =
        some w ∧
      w.calls.map (·.digest) = fixedDigests ∧
      ∀ call ∈ w.calls, Scoped fixedServer call := by
  have hDigests :
      (fixedServer.rpcs.run
          ⟨bareGuard fixedServer.statePath 0, ⟨none, none⟩,
            []⟩
          fixedRPCs).map
        (fun w => w.calls.map (·.digest)) =
      some fixedDigests := by
    decide +kernel
  rcases Option.map_eq_some_iff.mp hDigests with
    ⟨w, hRun, hCalls⟩
  have hNew :
      newServer fixedLibraries (.ok fixedKey) fixedConfig
          .notExist =
        .ok (fixedServer, bareGuard fixedServer.statePath 0) :=
    rfl
  exact ⟨w, hRun, hCalls,
    (backend_calls_scoped hNew hRun).2.1⟩

end BridgeSignerServer

end Server

end BridgeSigner
