import BridgeSigner.Server.Handlers
import BridgeSigner.Signer.Backends

/-
  The gRPC server as it is put together in `New`
  (server/auth.go, server/server.go): the handlers with their
  calls of a backend that may panic, inside a chain of
  interceptors of which the outermost recovers panics.

  A handler runs on the world and returns, fails with a
  status or panics; a panic leaves the world as it is at that
  point. `Handlers` has the same server with the panics
  recovered on the spot and the gates in line.

  Key definitions include:
    * `Chain.Action`
    * `Chain.chainUnaryInterceptors`
    * `Chain.newUnaryInterceptor`
    * `Chain.dispatch`
    * `Chain.serve`

  Main results:
    * `Chain.dispatch_recovered`
    * `Chain.serve_eq_handle`
-/

------------------------------------------------------------
-- Actions On The World
------------------------------------------------------------

namespace BridgeSigner

namespace Server

namespace Chain

open Signer (Stop)

variable {α β : Type}

/- Code that returns, fails with a status or panics. -/
abbrev Action (α : Type) :=
  ExceptT (Stop Status) (StateM World) α

/- What it comes to, and the world it leaves. -/
def Action.on
    (action : Action α)
    (w : World) : Except (Stop Status) α × World :=
  action.run.run w

/- An error ends the handler. -/
def check
    (result : Except Status α) : Action α :=
  match result with
  | .ok a => pure a
  | .error e => throw (.error e)

namespace Action

@[simp] theorem on_pure
    (a : α)
    (w : World) :
    (pure a : Action α).on w = (.ok a, w) :=
  rfl

@[simp] theorem on_throw
    (stop : Stop Status)
    (w : World) :
    (throw stop : Action α).on w = (.error stop, w) :=
  rfl

@[simp] theorem on_get
    (w : World) :
    (get : Action World).on w = (.ok w, w) :=
  rfl

@[simp] theorem on_modify
    (f : World → World)
    (w : World) :
    (modify f : Action PUnit).on w = (.ok ⟨⟩, f w) :=
  rfl

theorem on_bind
    (x : Action α)
    (f : α → Action β)
    (w : World) :
    (x >>= f).on w =
      match x.on w with
      | (.ok a, w') => (f a).on w'
      | (.error stop, w') => (.error stop, w') := by
  unfold on
  rw [ExceptT.run_bind, StateT.run_bind]
  rcases hx : x.run.run w with ⟨a | stop, w'⟩
  · rfl
  · rfl

theorem on_tryCatch
    (x : Action α)
    (recovery : Stop Status → Action α)
    (w : World) :
    (tryCatch x recovery).on w =
      match x.on w with
      | (.ok a, w') => (.ok a, w')
      | (.error stop, w') => (recovery stop).on w' := by
  unfold on
  rw [ExceptT.run_tryCatch, StateT.run_bind]
  rcases hx : x.run.run w with ⟨a | stop, w'⟩
  · rfl
  · rfl

end Action

@[simp] theorem on_check_ok
    (a : α)
    (w : World) :
    (check (.ok a)).on w = (.ok a, w) :=
  rfl

@[simp] theorem on_check_error
    (e : Status)
    (w : World) :
    (check (.error e) : Action α).on w =
      (.error (.error e), w) :=
  rfl

end Chain

end Server

end BridgeSigner

------------------------------------------------------------
-- Interceptors
------------------------------------------------------------

namespace BridgeSigner

namespace Server

namespace Chain

open Signer (Stop)

/- A handler, given its request. -/
abbrev UnaryHandler :=
  Action Response

/- It is given the method and the handler to go on with. -/
abbrev UnaryInterceptor :=
  Bytes → UnaryHandler → UnaryHandler

/- `build`, over the interceptors that are left. -/
def build
    (fullMethod : Bytes)
    (handler : UnaryHandler) :
    List UnaryInterceptor → UnaryHandler
| [] => handler
| ic :: rest => ic fullMethod (build fullMethod handler rest)

/- The first is the outermost; `none` is a nil entry. -/
def chainUnaryInterceptors
    (interceptors : List (Option UnaryInterceptor)) :
    UnaryInterceptor :=
  fun fullMethod handler =>
    build fullMethod handler interceptors.reduceOption

/- A panic of anything inside becomes an error. -/
def newUnaryInterceptor : UnaryInterceptor :=
  fun _ handler =>
    tryCatch handler fun
      | .panic => throw (.error panicStatus)
      | .error e => throw (.error e)

/- Let a call through, or answer it with a status. -/
def gate
    (decision : Bytes → Option Status) : UnaryInterceptor :=
  fun fullMethod handler =>
    match decision fullMethod with
    | some e => throw (.error e)
    | none => handler

end Chain

end Server

end BridgeSigner

------------------------------------------------------------
-- Handlers That May Panic
------------------------------------------------------------

namespace BridgeSigner

namespace Server

namespace Chain

open Signer (Stop)

/- The backend during one RPC: call `i`, on a digest. -/
abbrev Calls :=
  Nat → Bytes → SignRawResult

/- `SignRaw` of the backend. -/
def signRaw
    (calls : Calls)
    (i : Nat)
    (request : Request)
    (mark : UInt64)
    (digest : Bytes) : Action (Fallible Bytes) := do
  modify (World.signRaw · request mark digest)
  match calls i digest with
  | .ok sig => pure (.ok sig)
  | .error e => pure (.error e)
  | .panic => throw .panic

/- The signature, unless the call failed. -/
def signature
    (failed : String)
    (result : Fallible Bytes) : Action Bytes :=
  match result with
  | .ok sig => pure sig
  | .error e =>
      throw (.error ⟨.internal, failed, [.external e]⟩)

/- The signature, when it has 64 bytes. -/
def fullSignature
    (failed invalid : String)
    (result : Fallible Bytes) : Action Bytes := do
  let sig ← signature failed result
  check (ensure (sig.length = 64)
    ⟨.internal, invalid, [.num sig.length]⟩)
  pure sig

variable (srv : BridgeSignerServer)
variable (env : Surroundings)
variable (calls : Calls)

def signTx
    (signDoc requestId : Bytes) : UnaryHandler := do
  check (signTxGates srv.lib srv.allowedMsgTypes signDoc)
  let w ← get
  let result ←
    signRaw calls 0 (.signTx signDoc requestId)
      w.guard.highWater (srv.lib.sha256 signDoc)
  let sig ← signature "signing failed: %v" result
  pure (.signTx sig)

def signOracleAttestation
    (req : SignOracleAttestationRequest) :
    UnaryHandler := do
  let snapshot ←
    check (attestationGates srv.lib.keccak256 req)
  let w ← get
  let result ←
    signRaw calls 0 (.signOracleAttestation req)
      w.guard.highWater (srv.lib.sha256 snapshot)
  let sig ←
    fullSignature "signing failed: %v"
      "invalid signature length %d, expected 64" result
  pure (.signOracleAttestation sig snapshot)

def signInitial
    (operatorAddress requestId : Bytes) :
    UnaryHandler := do
  check (initialGates srv.lib srv.selfCosmosAddr
    operatorAddress)
  let w ← get
  let digests :=
    registrationDigests srv.lib.sha256 operatorAddress
  let resultA ←
    signRaw calls 0 (.signInitial operatorAddress requestId)
      w.guard.highWater digests.1
  let sigA ←
    fullSignature "signing A failed: %v"
      "invalid signature A length %d, expected 64" resultA
  let resultB ←
    signRaw calls 1 (.signInitial operatorAddress requestId)
      w.guard.highWater digests.2
  let sigB ←
    fullSignature "signing B failed: %v"
      "invalid signature B length %d, expected 64" resultB
  pure (.signInitial sigA sigB)

/- `RecordSignature`; its error is only logged. -/
def recordSignature
    (req : SignBridgeCheckpointRequest)
    (c sig : Bytes) : Action PUnit :=
  modify fun w =>
    let r := w.guard.recordSignature
      req.validatorTimestamp c sig w.disk env.recordFault
    { w with guard := r.2.1, disk := r.2.2 }

/- `CheckAndAdvance` of the replay guard. -/
def checkAndAdvance
    (ts : UInt64) : Action (Option GuardError) := do
  let w ← get
  let r :=
    w.guard.checkAndAdvance ts w.disk env.advanceFault
  modify fun w => { w with guard := r.2.1, disk := r.2.2 }
  pure r.1

def signBridgeCheckpoint
    (req : SignBridgeCheckpointRequest) :
    UnaryHandler := do
  let c ← check (srv.env.validate req)
  let before ← get
  match ← checkAndAdvance env req.validatorTimestamp with
  | some (.rejected ts highWater) =>
      let w ← get
      match
        w.guard.cachedSignature req.validatorTimestamp c
      with
      | some sig => pure (.signBridgeCheckpoint ⟨sig, c⟩)
      | none =>
          throw (.error
            (replayGuardStatus (.rejected ts highWater)))
  | some (.persist op) =>
      throw (.error (replayGuardStatus (.persist op)))
  | none =>
      let result ←
        signRaw calls 0 (.signBridgeCheckpoint req)
          before.guard.highWater (srv.lib.sha256 c)
      let sig ←
        fullSignature "signing failed: %v"
          "invalid signature length %d, expected 64" result
      recordSignature env req c sig
      pure (.signBridgeCheckpoint ⟨sig, c⟩)

/- The handler of a request. -/
def dispatch : Request → UnaryHandler
| .sign _ _ => throw (.error blindSigningDisabled)
| .getPublicKey =>
    check (BridgeSignerServer.getPublicKey env)
| .signRaw _ _ => throw (.error blindSigningDisabled)
| .getAddress hrp => check (srv.getAddress env hrp)
| .signTx signDoc requestId =>
    signTx srv calls signDoc requestId
| .getChainID => check srv.getChainID
| .signBridgeCheckpoint req =>
    signBridgeCheckpoint srv env calls req
| .signOracleAttestation req =>
    signOracleAttestation srv calls req
| .signInitial operatorAddress requestId =>
    signInitial srv calls operatorAddress requestId

/- The interceptors that `New` registers. -/
def interceptor : UnaryInterceptor :=
  chainUnaryInterceptors
    [some newUnaryInterceptor,
      some (gate (newEnabledRPCInterceptor srv.enabledRPCs)),
      some (gate (newPrimaryGateInterceptor env.primaryHost ·
        env.peer))]

/- A request, through the interceptors to its handler. -/
def serve
    (request : Request) : UnaryHandler :=
  interceptor srv env request.method.full
    (dispatch srv env calls request)

end Chain

end Server

end BridgeSigner

------------------------------------------------------------
-- Recovered Handlers Are Those Of The Flat Server
------------------------------------------------------------

namespace BridgeSigner

namespace Server

namespace Chain

open Signer (Stop)

variable {α β : Type}
variable {srv : BridgeSignerServer}
variable {env : Surroundings}
variable {calls : Calls}

/- The digest of call `i` of a request. -/
def digestOf
    (srv : BridgeSignerServer)
    (i : Nat) :
    Request → Bytes
| .signTx signDoc _ => srv.lib.sha256 signDoc
| .signBridgeCheckpoint req =>
    srv.lib.sha256 req.expectedCheckpoint
| .signOracleAttestation req =>
    srv.lib.sha256 req.expectedSnapshot
| .signInitial operatorAddress _ =>
    let digests :=
      registrationDigests srv.lib.sha256 operatorAddress
    if i = 0 then digests.1 else digests.2
| _ => []

/- The surroundings in which the backend answers so. -/
def answering
    (srv : BridgeSignerServer)
    (env : Surroundings)
    (calls : Calls)
    (request : Request) : Surroundings :=
  { env with
    signRaw := fun i => calls i (digestOf srv i request) }

/- What the outermost interceptor makes of a result. -/
def recovered :
    Except (Stop Status) α × World → Outcome α
| (.ok a, w) => (.ok a, w)
| (.error (.error e), w) => (.error e, w)
| (.error .panic, w) => (.error panicStatus, w)

theorem recovered_check
    (result : Except Status α)
    (f : α → Action β)
    (w : World) :
    recovered ((check result >>= f).on w) =
      match result with
      | .error e => (.error e, w)
      | .ok a => recovered ((f a).on w) := by
  cases result with
  | error e => rfl
  | ok a => rfl

theorem recovered_get
    (f : World → Action β)
    (w : World) :
    recovered ((get >>= f).on w) = recovered ((f w).on w) :=
  rfl

/- A call of the backend, and its signature. -/
theorem recovered_signature
    (i : Nat)
    (request : Request)
    (mark : UInt64)
    (digest : Bytes)
    (failed : String)
    (f : Bytes → Action β)
    (w : World) :
    recovered
        ((signRaw calls i request mark digest >>=
          fun result => signature failed result >>= f).on
            w) =
      match rawSignature failed (calls i digest) with
      | .error e => (.error e, w.signRaw request mark digest)
      | .ok sig =>
          recovered
            ((f sig).on (w.signRaw request mark digest)) := by
  unfold signRaw
  cases hCall : calls i digest with
  | ok sig => rfl
  | error e => rfl
  | panic => rfl

theorem recovered_fullSignature
    (i : Nat)
    (request : Request)
    (mark : UInt64)
    (digest : Bytes)
    (failed invalid : String)
    (f : Bytes → Action β)
    (w : World) :
    recovered
        ((signRaw calls i request mark digest >>=
          fun result =>
            fullSignature failed invalid result >>= f).on
              w) =
      match signature64 failed invalid (calls i digest) with
      | .error e => (.error e, w.signRaw request mark digest)
      | .ok sig =>
          recovered
            ((f sig).on (w.signRaw request mark digest)) := by
  unfold fullSignature signature64
  simp only [bind_assoc, pure_bind]
  rw [recovered_signature]
  cases rawSignature failed (calls i digest) with
  | error e => rfl
  | ok sig =>
      simp only [ok_bind]
      rw [recovered_check]
      by_cases hLength : sig.length = 64
      · simp [ensure, hLength, bind, Except.bind]
      · simp [ensure, hLength, bind, Except.bind]

theorem signTx_recovered
    (w : World)
    (signDoc requestId : Bytes) :
    recovered ((signTx srv calls signDoc requestId).on w) =
      srv.signTx
        (answering srv env calls (.signTx signDoc requestId))
        w signDoc requestId := by
  unfold signTx BridgeSignerServer.signTx
  rw [recovered_check]
  cases signTxGates srv.lib srv.allowedMsgTypes signDoc with
  | error e => rfl
  | ok u =>
      simp only
      rw [recovered_get, recovered_signature]
      simp only [answering, digestOf]
      cases rawSignature "signing failed: %v"
          (calls 0 (srv.lib.sha256 signDoc)) with
      | error e => rfl
      | ok sig => rfl

theorem signOracleAttestation_recovered
    (w : World)
    (req : SignOracleAttestationRequest) :
    recovered ((signOracleAttestation srv calls req).on w) =
      srv.signOracleAttestation
        (answering srv env calls
          (.signOracleAttestation req))
        w req := by
  unfold signOracleAttestation
    BridgeSignerServer.signOracleAttestation
  rw [recovered_check]
  cases hGates : attestationGates srv.lib.keccak256 req with
  | error e => rfl
  | ok snapshot =>
      have hSnapshot : snapshot = req.expectedSnapshot :=
        (attestationGates_ok_iff.mp hGates).2.2.2.2
      simp only
      rw [recovered_get, recovered_fullSignature]
      simp only [answering, digestOf, ← hSnapshot,
        checkedSignature]
      cases signature64 "signing failed: %v"
          "invalid signature length %d, expected 64"
          (calls 0 (srv.lib.sha256 snapshot)) with
      | error e => rfl
      | ok sig => rfl

theorem signInitial_recovered
    (w : World)
    (operatorAddress requestId : Bytes) :
    recovered
        ((signInitial srv calls operatorAddress
          requestId).on w) =
      srv.signInitial
        (answering srv env calls
          (.signInitial operatorAddress requestId))
        w operatorAddress requestId := by
  unfold signInitial BridgeSignerServer.signInitial
  rw [recovered_check]
  cases initialGates srv.lib srv.selfCosmosAddr
      operatorAddress with
  | error e => rfl
  | ok u =>
      simp only
      rw [recovered_get, recovered_fullSignature]
      simp only [answering, digestOf, if_true,
        one_ne_zero, if_false]
      cases signature64 "signing A failed: %v"
          "invalid signature A length %d, expected 64"
          (calls 0
            (registrationDigests srv.lib.sha256
              operatorAddress).1) with
      | error e => rfl
      | ok sigA =>
          simp only
          rw [recovered_fullSignature]
          cases signature64 "signing B failed: %v"
              "invalid signature B length %d, expected 64"
              (calls 1
                (registrationDigests srv.lib.sha256
                  operatorAddress).2) with
          | error e => rfl
          | ok sigB => rfl

theorem on_checkAndAdvance
    (ts : UInt64)
    (f : Option GuardError → Action β)
    {w : World}
    {e : Option GuardError}
    {g : CheckpointReplayGuard}
    {d : Disk}
    (hAdvance :
      w.guard.checkAndAdvance ts w.disk env.advanceFault =
        (e, g, d)) :
    (checkAndAdvance env ts >>= f).on w =
      (f e).on { w with guard := g, disk := d } := by
  have hRun :
      (checkAndAdvance env ts).on w =
        (.ok e, { w with guard := g, disk := d }) := by
    have hOn :
        (checkAndAdvance env ts).on w =
          (let r := w.guard.checkAndAdvance ts w.disk
            env.advanceFault
          (.ok r.1,
            { w with guard := r.2.1, disk := r.2.2 })) :=
      rfl
    rw [hOn, hAdvance]
  rw [Action.on_bind, hRun]

theorem signBridgeCheckpoint_recovered
    (w : World)
    (req : SignBridgeCheckpointRequest) :
    let r :=
      srv.signBridgeCheckpoint
        (answering srv env calls (.signBridgeCheckpoint req))
        w req
    recovered
        ((signBridgeCheckpoint srv env calls req).on w) =
      (r.1.map Response.signBridgeCheckpoint, r.2) := by
  intro r
  subst r
  unfold signBridgeCheckpoint
    BridgeSignerServer.signBridgeCheckpoint
  rw [recovered_check]
  cases hGates : srv.env.validate req with
  | error e => rfl
  | ok c =>
      have hExpected : c = req.expectedCheckpoint :=
        (validateCheckpoint_ok_iff.mp hGates).expected
      simp only
      rw [recovered_get]
      rcases hAdvance :
          w.guard.checkAndAdvance req.validatorTimestamp
            w.disk env.advanceFault with
        ⟨_ | ⟨ts, highWater⟩ | op, g, d⟩
      · rw [on_checkAndAdvance _ _ hAdvance]
        simp only [answering, hAdvance, digestOf,
          ← hExpected]
        rw [recovered_fullSignature]
        unfold BridgeSignerServer.signCheckpoint
          checkedSignature
        cases signature64 "signing failed: %v"
            "invalid signature length %d, expected 64"
            (calls 0 (srv.lib.sha256 c)) with
        | error e => rfl
        | ok sig => rfl
      · rw [on_checkAndAdvance _ _ hAdvance]
        simp only [answering, hAdvance]
        rw [recovered_get]
        unfold CheckpointRun.lookupReply
        cases g.cachedSignature req.validatorTimestamp c with
        | none => rfl
        | some sig => rfl
      · rw [on_checkAndAdvance _ _ hAdvance]
        simp only [answering, hAdvance]
        rfl

/- The panics recovered, this is the flat dispatch. -/
theorem dispatch_recovered
    (w : World)
    (request : Request) :
    recovered ((dispatch srv env calls request).on w) =
      srv.dispatch (answering srv env calls request) w
        request := by
  have hCheck :
      ∀ result : Except Status Response,
        recovered ((check result).on w) = (result, w) := by
    intro result
    cases result with
    | error e => rfl
    | ok r => rfl
  cases request with
  | sign digest requestId => rfl
  | getPublicKey => exact hCheck _
  | signRaw digest requestId => rfl
  | getAddress hrp => exact hCheck _
  | signTx signDoc requestId =>
      exact signTx_recovered w signDoc requestId
  | getChainID => exact hCheck _
  | signBridgeCheckpoint req =>
      exact signBridgeCheckpoint_recovered w req
  | signOracleAttestation req =>
      exact signOracleAttestation_recovered w req
  | signInitial operatorAddress requestId =>
      exact signInitial_recovered w operatorAddress requestId

end Chain

end Server

end BridgeSigner

------------------------------------------------------------
-- The Chain
------------------------------------------------------------

namespace BridgeSigner

namespace Server

namespace Chain

open Signer (Stop)

variable {α : Type}
variable {srv : BridgeSignerServer}
variable {env : Surroundings}
variable {calls : Calls}

/- A result of the outermost interceptor. -/
def returned :
    Outcome α → Except (Stop Status) α × World
| (r, w) => (r.mapError Stop.error, w)

theorem returned_ne_panic
    (out : Outcome α) :
    (returned out).1 ≠ .error .panic := by
  rcases out with ⟨e | a, w⟩
  · intro h
    cases h
  · intro h
    cases h

theorem newUnaryInterceptor_on
    (fullMethod : Bytes)
    (handler : UnaryHandler)
    (w : World) :
    (newUnaryInterceptor fullMethod handler).on w =
      returned (recovered (handler.on w)) := by
  unfold newUnaryInterceptor
  rw [Action.on_tryCatch]
  rcases handler.on w with ⟨(e | _) | r, w'⟩
  · rfl
  · rfl
  · rfl

theorem recovered_gate
    (decision : Bytes → Option Status)
    (fullMethod : Bytes)
    (handler : UnaryHandler)
    (w : World) :
    recovered ((gate decision fullMethod handler).on w) =
      match decision fullMethod with
      | some e => (.error e, w)
      | none => recovered (handler.on w) := by
  unfold gate
  cases decision fullMethod with
  | none => rfl
  | some e => rfl

/-
  The chain answers as the flat server does, and what it
  leaves of the world is the same; no panic gets out of it.
-/
theorem serve_eq_handle
    (w : World)
    (request : Request) :
    (serve srv env calls request).on w =
      returned
        (srv.handle (answering srv env calls request) w
          request) := by
  have hChain :
      serve srv env calls request =
        newUnaryInterceptor request.method.full
          (gate (newEnabledRPCInterceptor srv.enabledRPCs)
            request.method.full
            (gate (newPrimaryGateInterceptor env.primaryHost ·
                env.peer)
              request.method.full
              (dispatch srv env calls request))) :=
    rfl
  rw [hChain, newUnaryInterceptor_on, recovered_gate]
  unfold BridgeSignerServer.handle
  cases newEnabledRPCInterceptor srv.enabledRPCs
      request.method.full with
  | some e => rfl
  | none =>
      simp only
      rw [recovered_gate, dispatch_recovered]
      rfl

end Chain

end Server

end BridgeSigner
