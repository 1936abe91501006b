import BridgeSigner.Server.Chain

/-
  The signatures that leave the server (server/server.go,
  server/replay_guard.go, signer/file_signer.go,
  signer/fortanix_dsm.go).

  The server of `Chain` takes one RPC after another with one
  of the signing backends, and may be stopped and started
  again in between; the replay guard is then loaded from its
  file. What the DSM answers is up to it.

  Key definitions include:
    * `Released.step`
    * `Released.Vouched`
    * `Released.Kept`

  Main results:
    * `Released.handle_good`
    * `Released.released_signatures_recover_key`
-/

------------------------------------------------------------
-- Runs Of The Server
------------------------------------------------------------

namespace BridgeSigner

namespace Server

namespace Released

open Signer (Stop Backend BackendError)

/- An RPC with the DSM's answers to its calls, or a restart. -/
inductive Event where
| rpc
    (env : Surroundings)
    (answers : Nat → Fallible Bytes)
    (request : Request)
| restart

/- The world and all replies so far, newest first. -/
structure State where
  world : World
  replies : List (Request × Except (Stop Status) Response)

/- `describe` is the text of an error. -/
def resultOf
    (describe : BackendError → Bytes) :
    Except (Stop BackendError) Bytes → SignRawResult
| .ok sig => .ok sig
| .error (.error e) => .error (describe e)
| .error .panic => .panic

/- The calls of a backend, given the DSM's answers. -/
def callsOf
    (describe : BackendError → Bytes)
    (backend : Backend)
    (answers : Nat → Fallible Bytes) : Chain.Calls :=
  fun i digest =>
    resultOf describe (backend.signRaw (answers i) digest)

/- A restart fails when the state file cannot be loaded. -/
def step
    (srv : BridgeSignerServer)
    (describe : BackendError → Bytes)
    (backend : Backend)
    (s : State) :
    Event → Option State
| .rpc env answers request =>
    let r :=
      (Chain.serve srv env
        (callsOf describe backend answers) request).on
          s.world
    some ⟨r.2, (request, r.1) :: s.replies⟩
| .restart =>
    match
      newCheckpointReplayGuard srv.statePath
        s.world.disk.read
    with
    | .error _ => none
    | .ok g =>
        some { s with world := { s.world with guard := g } }

def machine
    (srv : BridgeSignerServer)
    (describe : BackendError → Bytes)
    (backend : Backend) : Machine State Event where
  step := step srv describe backend

/- A server without a state file yet. -/
def State.initial
    (srv : BridgeSignerServer) : State :=
  ⟨⟨bareGuard srv.statePath 0, ⟨none, none⟩, []⟩, []⟩

end Released

end Server

end BridgeSigner

------------------------------------------------------------
-- Vouched Responses
------------------------------------------------------------

namespace BridgeSigner

namespace Server

namespace Released

/-
  A response is of the kind of its request, and its
  signatures are for the digests of that request.
-/
def Vouched
    (srv : BridgeSignerServer)
    (signs : Bytes → Bytes → Prop) :
    Request → Response → Prop
| .signTx signDoc _, .signTx sig =>
    signs (srv.lib.sha256 signDoc) sig
| .signBridgeCheckpoint req, .signBridgeCheckpoint r =>
    r.checkpoint = req.expectedCheckpoint ∧
      signs (srv.lib.sha256 r.checkpoint) r.signature
| .signOracleAttestation req,
    .signOracleAttestation sig snapshot =>
    snapshot = req.expectedSnapshot ∧
      signs (srv.lib.sha256 snapshot) sig
| .signInitial operatorAddress _, .signInitial sigA sigB =>
    let digests :=
      registrationDigests srv.lib.sha256 operatorAddress
    signs digests.1 sigA ∧ signs digests.2 sigB
| .getPublicKey, .getPublicKey _ => True
| .getAddress _, .getAddress _ => True
| .getChainID, .getChainID _ => True
| _, _ => False

/- The memo of a guard is a signature of its checkpoint. -/
def MemoSigned
    (srv : BridgeSignerServer)
    (signs : Bytes → Bytes → Prop)
    (g : CheckpointReplayGuard) : Prop :=
  ∀ c sig, g.memo = some (c, sig) →
    signs (srv.lib.sha256 c) sig

/- The guard and its file hold no other memos. -/
structure Kept
    (srv : BridgeSignerServer)
    (signs : Bytes → Bytes → Prop)
    (w : World) : Prop where
  owned : srv.env.Owns w.guard
  memo : MemoSigned srv signs w.guard
  stored :
    ∃ g, srv.env.Stores w.disk g ∧ MemoSigned srv signs g

variable {srv : BridgeSignerServer}
variable {signs : Bytes → Bytes → Prop}
variable {env : Surroundings}
variable {w : World}

theorem memoSigned_advanceTo
    (g : CheckpointReplayGuard)
    (ts : UInt64) :
    MemoSigned srv signs (g.advanceTo ts) := by
  intro c sig hMemo
  cases hMemo

theorem memoSigned_withMemo
    (g : CheckpointReplayGuard)
    {c sig : Bytes}
    (hSig : signs (srv.lib.sha256 c) sig) :
    MemoSigned srv signs (g.withMemo c sig) := by
  intro c' sig' hMemo
  cases hMemo
  exact hSig

namespace Kept

/- Only the log of the calls changes. -/
theorem signRaw
    (h : Kept srv signs w)
    (request : Request)
    (mark : UInt64)
    (digest : Bytes) :
    Kept srv signs (w.signRaw request mark digest) :=
  ⟨h.owned, h.memo, h.stored⟩

/- A guard without a bad memo is taken up and persisted. -/
theorem persisted
    (h : Kept srv signs w)
    {g next : CheckpointReplayGuard}
    (hg : srv.env.Owns g)
    (hMemo : MemoSigned srv signs g)
    (hNext : srv.env.Owns next)
    (hNextMemo : MemoSigned srv signs next)
    (fault : Option FileOp) :
    Kept srv signs
      { w with
        guard := g
        disk := ⟨next.persistedFile w.disk fault, none⟩ } := by
  rcases h.stored with ⟨old, hStores, hOld⟩
  refine ⟨hg, hMemo, _,
    hStores.persisted hNext fault rfl, ?_⟩
  split
  · exact hNextMemo
  · exact hOld

end Kept

end Released

end Server

end BridgeSigner

------------------------------------------------------------
-- One RPC
------------------------------------------------------------

namespace BridgeSigner

namespace Server

namespace Released

variable {srv : BridgeSignerServer}
variable {signs : Bytes → Bytes → Prop}
variable {env : Surroundings}
variable {w : World}

/- The outcome of a request is vouched for and keeps faith. -/
structure Good
    (srv : BridgeSignerServer)
    (signs : Bytes → Bytes → Prop)
    (request : Request)
    (out : Outcome Response) : Prop where
  kept : Kept srv signs out.2
  vouched :
    ∀ r, out.1 = .ok r → Vouched srv signs request r

/- The backend signs what it is asked to sign. -/
def Faithful
    (srv : BridgeSignerServer)
    (signs : Bytes → Bytes → Prop)
    (env : Surroundings)
    (request : Request) : Prop :=
  ∀ i sig, env.signRaw i = .ok sig →
    signs (Chain.digestOf srv i request) sig

/- An error changes nothing that matters. -/
theorem good_error
    (h : Kept srv signs w)
    (request : Request)
    (e : Status) :
    Good srv signs request (.error e, w) := by
  refine ⟨h, ?_⟩
  intro r hr
  cases hr

theorem signTx_good
    (h : Kept srv signs w)
    {signDoc requestId : Bytes}
    (hSigns :
      Faithful srv signs env (.signTx signDoc requestId)) :
    Good srv signs (.signTx signDoc requestId)
      (srv.signTx env w signDoc requestId) := by
  unfold BridgeSignerServer.signTx
  split
  · exact good_error h _ _
  · refine ⟨h.signRaw _ _ _, ?_⟩
    intro r hr
    rcases except_map_ok_iff.mp hr with ⟨sig, hSig, rfl⟩
    exact hSigns 0 sig (rawSignature_ok_iff.mp hSig)

theorem signOracleAttestation_good
    (h : Kept srv signs w)
    {req : SignOracleAttestationRequest}
    (hSigns :
      Faithful srv signs env (.signOracleAttestation req)) :
    Good srv signs (.signOracleAttestation req)
      (srv.signOracleAttestation env w req) := by
  unfold BridgeSignerServer.signOracleAttestation
  split
  · exact good_error h _ _
  · rename_i snapshot hGates
    have hSnapshot : snapshot = req.expectedSnapshot :=
      (attestationGates_ok_iff.mp hGates).2.2.2.2
    refine ⟨h.signRaw _ _ _, ?_⟩
    intro r hr
    rcases except_map_ok_iff.mp hr with ⟨sig, hSig, rfl⟩
    refine ⟨hSnapshot, ?_⟩
    rw [hSnapshot]
    exact hSigns 0 sig (checkedSignature_ok_iff.mp hSig).1

theorem signInitial_good
    (h : Kept srv signs w)
    {operatorAddress requestId : Bytes}
    (hSigns :
      Faithful srv signs env
        (.signInitial operatorAddress requestId)) :
    Good srv signs (.signInitial operatorAddress requestId)
      (srv.signInitial env w operatorAddress requestId) := by
  unfold BridgeSignerServer.signInitial
  split
  · exact good_error h _ _
  · simp only
    split
    · exact good_error (h.signRaw _ _ _) _ _
    · rename_i sigA hA
      refine ⟨(h.signRaw _ _ _).signRaw _ _ _, ?_⟩
      intro r hr
      rcases except_map_ok_iff.mp hr with ⟨sigB, hB, rfl⟩
      exact ⟨hSigns 0 sigA (signature64_ok_iff.mp hA).1,
        hSigns 1 sigB (signature64_ok_iff.mp hB).1⟩

/- A step (8) of the checkpoint handler. -/
theorem signCheckpoint_good
    (h : Kept srv signs w)
    {req : SignBridgeCheckpointRequest}
    (hSigns :
      Faithful srv signs env (.signBridgeCheckpoint req))
    {c : Bytes}
    (hExpected : c = req.expectedCheckpoint)
    (hLength : c.length = 32) :
    let out :=
      BridgeSignerServer.signCheckpoint env w req c
    Good srv signs (.signBridgeCheckpoint req)
      (out.1.map Response.signBridgeCheckpoint, out.2) := by
  unfold BridgeSignerServer.signCheckpoint
  split
  · exact good_error h _ _
  · rename_i sig hSig
    rcases checkedSignature_ok_iff.mp hSig with
      ⟨hCall, hSigLength⟩
    have hSigned : signs (srv.lib.sha256 c) sig := by
      rw [hExpected]
      exact hSigns 0 sig hCall
    constructor
    · rcases w.guard.recordSignature_cases
          h.owned.wellFormed req.validatorTimestamp hLength
          hSigLength w.disk env.recordFault with
        ⟨-, hRecord⟩ | ⟨-, hRecord⟩
      · simp only [hRecord]
        exact h
      · simp only [hRecord]
        have hOwned := h.owned.withMemo hLength hSigLength
        have hMemo :
            MemoSigned srv signs (w.guard.withMemo c sig) :=
          memoSigned_withMemo w.guard hSigned
        exact h.persisted hOwned hMemo hOwned hMemo _
    · intro r hr
      cases hr
      exact ⟨hExpected, hSigned⟩

/- A repeat is answered from a memo that is signed. -/
theorem lookupReply_good
    (h : Kept srv signs w)
    {req : SignBridgeCheckpointRequest}
    {c : Bytes}
    (hExpected : c = req.expectedCheckpoint)
    (e : GuardError) :
    Good srv signs (.signBridgeCheckpoint req)
      ((CheckpointRun.lookupReply w.guard req c e).map
        Response.signBridgeCheckpoint, w) := by
  refine ⟨h, ?_⟩
  intro r hr
  rcases except_map_ok_iff.mp hr with ⟨a, ha, rfl⟩
  unfold CheckpointRun.lookupReply at ha
  split at ha
  · rename_i sig hCached
    cases ha
    have hMemo :=
      (w.guard.cachedSignature_eq_some h.owned.wellFormed
        _ _ _).mp hCached
    exact ⟨hExpected, h.memo c sig hMemo.2⟩
  · cases ha

theorem signBridgeCheckpoint_good
    (h : Kept srv signs w)
    {req : SignBridgeCheckpointRequest}
    (hSigns :
      Faithful srv signs env (.signBridgeCheckpoint req)) :
    let out := srv.signBridgeCheckpoint env w req
    Good srv signs (.signBridgeCheckpoint req)
      (out.1.map Response.signBridgeCheckpoint, out.2) := by
  unfold BridgeSignerServer.signBridgeCheckpoint
  cases hGates : srv.env.validate req with
  | error e => exact good_error h _ _
  | ok c =>
      have hRecomputed :=
        validateCheckpoint_ok_iff.mp hGates
      have hExpected := hRecomputed.expected
      have hLength : c.length = 32 := by
        rw [hExpected]
        exact hRecomputed.expected_length
      rcases w.guard.checkAndAdvance_cases
          h.owned.wellFormed req.validatorTimestamp w.disk
          env.advanceFault with
        ⟨-, hAdvance⟩ | ⟨-, hFault, hAdvance⟩ |
          ⟨op, -, -, hAdvance⟩
      · simp only [hAdvance]
        exact lookupReply_good h hExpected _
      · simp only [hAdvance]
        refine signCheckpoint_good ?_ hSigns hExpected hLength
        apply Kept.signRaw
        have hOwned :=
          h.owned.advanceTo req.validatorTimestamp
        exact h.persisted hOwned
          (memoSigned_advanceTo _ _) hOwned
          (memoSigned_advanceTo _ _) none
      · simp only [hAdvance]
        apply good_error
        exact h.persisted h.owned h.memo
          (h.owned.advanceTo req.validatorTimestamp)
          (memoSigned_advanceTo _ _) (some op)

/- The read-only methods answer in their own kind. -/
theorem good_readOnly
    (h : Kept srv signs w)
    {request : Request}
    {out : Except Status Response}
    {f : Bytes → Response}
    (hKind : ∀ r, out = .ok r → ∃ b, r = f b)
    (hTrivial : ∀ b, Vouched srv signs request (f b)) :
    Good srv signs request (out, w) := by
  refine ⟨h, ?_⟩
  intro r hr
  rcases hKind r hr with ⟨b, rfl⟩
  exact hTrivial b

theorem getPublicKey_kind
    {r : Response}
    (hr : BridgeSignerServer.getPublicKey env = .ok r) :
    ∃ key, r = .getPublicKey key := by
  unfold BridgeSignerServer.getPublicKey at hr
  split at hr
  · cases hr
  · rename_i key hKey
    rcases except_bind_ok_iff.mp hr with ⟨-, -, hOk⟩
    exact ⟨key, (Except.ok.inj hOk).symm⟩

theorem getAddress_kind
    {hrp : Bytes}
    {r : Response}
    (hr : srv.getAddress env hrp = .ok r) :
    ∃ address, r = .getAddress address := by
  unfold BridgeSignerServer.getAddress at hr
  split at hr
  · cases hr
  · rename_i address hAddress
    exact ⟨address, (Except.ok.inj hr).symm⟩

theorem getChainID_kind
    {r : Response}
    (hr : srv.getChainID = .ok r) :
    ∃ chainId, r = .getChainID chainId := by
  rcases except_bind_ok_iff.mp hr with ⟨-, -, hOk⟩
  exact ⟨srv.chainID, (Except.ok.inj hOk).symm⟩

theorem dispatch_good
    (h : Kept srv signs w)
    {request : Request}
    (hSigns : Faithful srv signs env request) :
    Good srv signs request
      (srv.dispatch env w request) := by
  cases request with
  | sign digest requestId => exact good_error h _ _
  | getPublicKey =>
      exact good_readOnly h (fun _ => getPublicKey_kind)
        (fun _ => trivial)
  | signRaw digest requestId => exact good_error h _ _
  | getAddress hrp =>
      exact good_readOnly h (fun _ => getAddress_kind)
        (fun _ => trivial)
  | signTx signDoc requestId => exact signTx_good h hSigns
  | getChainID =>
      exact good_readOnly h (fun _ => getChainID_kind)
        (fun _ => trivial)
  | signBridgeCheckpoint req =>
      exact signBridgeCheckpoint_good h hSigns
  | signOracleAttestation req =>
      exact signOracleAttestation_good h hSigns
  | signInitial operatorAddress requestId =>
      exact signInitial_good h hSigns

theorem handle_good
    (h : Kept srv signs w)
    {request : Request}
    (hSigns : Faithful srv signs env request) :
    Good srv signs request (srv.handle env w request) := by
  unfold BridgeSignerServer.handle
  split
  · exact good_error h _ _
  · split
    · exact good_error h _ _
    · exact dispatch_good h hSigns

end Released

end Server

end BridgeSigner

------------------------------------------------------------
-- Every Run
------------------------------------------------------------

namespace BridgeSigner

namespace Server

namespace Released

open Signer (Stop Backend BackendError Secp256k1 Signs)

variable {srv : BridgeSignerServer}
variable {describe : BackendError → Bytes}
variable {backend : Backend}
variable {curve : Secp256k1}
variable {s t : State}

/- What was sent back, and what is kept for a repeat. -/
structure Sound
    (srv : BridgeSignerServer)
    (signs : Bytes → Bytes → Prop)
    (s : State) : Prop where
  kept : Kept srv signs s.world
  gated : s.world.Sound srv
  returned : ∀ x ∈ s.replies, x.2 ≠ .error .panic
  vouched :
    ∀ x ∈ s.replies, ∀ r, x.2 = .ok r →
      Vouched srv signs x.1 r

theorem signs_of_resultOf
    (hTrusted : backend.Trusted curve)
    {answer : Fallible Bytes}
    {digest sig : Bytes}
    (hResult :
      resultOf describe (backend.signRaw answer digest) =
        .ok sig) :
    Signs curve backend.getPublicKey digest sig := by
  rcases hRaw : backend.signRaw answer digest with
    (e | _) | rs
  · rw [hRaw] at hResult
    cases hResult
  · rw [hRaw] at hResult
    cases hResult
  · rw [hRaw] at hResult
    cases hResult
    exact Backend.signRaw_signs hTrusted hRaw

theorem callsOf_faithful
    (describe : BackendError → Bytes)
    (hTrusted : backend.Trusted curve)
    (env : Surroundings)
    (answers : Nat → Fallible Bytes)
    (request : Request) :
    Faithful srv (Signs curve backend.getPublicKey)
      (Chain.answering srv env
        (callsOf describe backend answers) request)
      request := by
  intro i sig hSig
  exact signs_of_resultOf hTrusted hSig

theorem sound_initial
    (signs : Bytes → Bytes → Prop)
    (hPath : srv.statePath ≠ []) :
    Sound srv signs (State.initial srv) := by
  have hBare :
      srv.env.Stores ⟨none, none⟩
        (bareGuard srv.statePath 0) :=
    CheckpointEnv.stores_bare hPath rfl
  have hMemo :
      MemoSigned srv signs (bareGuard srv.statePath 0) := by
    intro c sig hMemo
    cases hMemo
  refine ⟨⟨hBare.owned, hMemo, _, hBare, hMemo⟩,
    ⟨rfl, ?_⟩, ?_, ?_⟩
  · intro call hCall
    cases hCall
  · intro x hx
    cases hx
  · intro x hx
    cases hx

theorem step_sound
    (hTrusted : backend.Trusted curve)
    {e : Event}
    (hStep : step srv describe backend s e = some t)
    (h : Sound srv (Signs curve backend.getPublicKey) s) :
    Sound srv (Signs curve backend.getPublicKey) t := by
  cases e with
  | rpc env answers request =>
      cases hStep
      rw [Chain.serve_eq_handle]
      have hGood :=
        handle_good h.kept
          (callsOf_faithful describe hTrusted
            env answers request)
      refine ⟨hGood.kept,
        BridgeSignerServer.handle_sound h.gated request,
        ?_, ?_⟩
      · intro x hx
        rcases List.mem_cons.mp hx with rfl | hx
        · exact Chain.returned_ne_panic _
        · exact h.returned x hx
      · intro x hx r hr
        rcases List.mem_cons.mp hx with rfl | hx
        · exact hGood.vouched r (mapError_ok_iff.mp hr)
        · exact h.vouched x hx r hr
  | restart =>
      rcases h.kept.stored with ⟨g, hStores, hMemo⟩
      have hLoads :
          newCheckpointReplayGuard srv.statePath
              s.world.disk.read = .ok g :=
        hStores.loads
      simp only [step, hLoads] at hStep
      cases hStep
      exact ⟨⟨hStores.owned, hMemo, g, hStores, hMemo⟩,
        ⟨newCheckpointReplayGuard_loaded hLoads,
          h.gated.allScoped⟩,
        h.returned, h.vouched⟩

/-
  Over every run of the server from an empty state file, with
  either backend, any answers of the DSM, failing writes and
  restarts: no panic gets out, every signature in a response
  is one of the request's own digest by the cached key, also
  when it comes from the memo, every call of the backend was
  scoped, and the state file can be loaded.
-/
theorem released_signatures_recover_key
    (srv : BridgeSignerServer)
    (hPath : srv.statePath ≠ [])
    (describe : BackendError → Bytes)
    (backend : Backend)
    (curve : Secp256k1)
    (hTrusted : backend.Trusted curve)
    (es : List Event)
    (t : State)
    (hRun :
      (machine srv describe backend).run
          (State.initial srv) es = some t) :
    (∀ x ∈ t.replies,
        x.2 ≠ .error .panic ∧
          ∀ r, x.2 = .ok r →
            Vouched srv
              (Signs curve backend.getPublicKey) x.1 r) ∧
      (∀ call ∈ t.world.calls, Scoped srv call) ∧
      ∃ g,
        newCheckpointReplayGuard srv.statePath
          t.world.disk.read = .ok g := by
  have h :
      Sound srv (Signs curve backend.getPublicKey) t := by
    refine Machine.run_invariant
      (P := Sound srv (Signs curve backend.getPublicKey))
      ?_ hRun (sound_initial _ hPath)
    intro s e t hStep h
    exact step_sound hTrusted hStep h
  refine ⟨?_, h.gated.allScoped, ?_⟩
  · intro x hx
    exact ⟨h.returned x hx, h.vouched x hx⟩
  · rcases h.kept.stored with ⟨g, hStores, -⟩
    exact ⟨g, hStores.loads⟩

/- The DSM panics, signs for a checkpoint, and a restart. -/
def sampleEvents : List Event :=
  let env := BridgeSignerServer.signing []
  let signs : Nat → Fallible Bytes :=
    fun _ => .ok Signer.hashedDER
  let panics : Nat → Fallible Bytes :=
    fun _ => .ok (Signer.derPair (beBytes 33 (2 ^ 256)) [1])
  [.rpc env panics
      (.signOracleAttestation
        BridgeSignerServer.goldenAttestation),
    .rpc env signs
      (.signBridgeCheckpoint
        BridgeSignerServer.fixedCheckpoint),
    .restart,
    .rpc env panics
      (.signBridgeCheckpoint
        BridgeSignerServer.fixedCheckpoint)]

theorem sample_released_recover :
    ∃ t,
      (machine BridgeSignerServer.fixedServer (fun _ => [])
            (.fortanixdsm Signer.sampleSigner)).run
          (State.initial BridgeSignerServer.fixedServer)
              sampleEvents =
        some t ∧
      t.replies.map (fun x => x.2.toOption.isSome) =
        [true, true, false] ∧
      ∀ x ∈ t.replies, ∀ r, x.2 = .ok r →
        Vouched BridgeSignerServer.fixedServer
          (Signs Signer.sampleCurve Signer.sampleKey)
          x.1 r := by
  have hReplies :
      ((machine BridgeSignerServer.fixedServer (fun _ => [])
              (.fortanixdsm Signer.sampleSigner)).run
            (State.initial BridgeSignerServer.fixedServer)
              sampleEvents).map
          (fun t =>
            t.replies.map (fun x => x.2.toOption.isSome)) =
        some [true, true, false] := by
    decide +kernel
  rcases Option.map_eq_some_iff.mp hReplies with
    ⟨t, hRun, hAnswered⟩
  have h :=
    (released_signatures_recover_key
      BridgeSignerServer.fixedServer (by decide)
      (fun _ => []) (.fortanixdsm Signer.sampleSigner)
      Signer.sampleCurve
      ⟨rfl, Signer.sampleCurve_recoversPoints⟩ sampleEvents
      t hRun).1
  exact ⟨t, hRun, hAnswered, fun x hx => (h x hx).2⟩

end Released

end Server

end BridgeSigner
