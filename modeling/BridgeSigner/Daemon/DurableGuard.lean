import BridgeSigner.Daemon.Startup
import BridgeSigner.Server.PowerLossSafety
import BridgeSigner.Server.Released

/-
  From the configuration to the signatures
  (config/config.go, cmd/bridge-signer/cmd_start.go,
  server/replay_guard.go).

  The replay guard of a daemon that was started is kept in the
  file that the configuration names, or in one next to the
  consensus state. Where the last element of that path is a
  name that no temporary file of the guard can have, the guard
  outlives kills and power losses.

  Key definitions include:
    * `Config.GuardNamed`

  Main results:
    * `Config.guard_suits`
    * `Startup.daemon_signs_once_through_power_loss`
-/

------------------------------------------------------------
-- The Place Of The Guard
------------------------------------------------------------

namespace BridgeSigner

/-
  A guard file that is configured ends in a name, which is
  not that of a temporary file.
-/
def Config.GuardNamed
    (c : Config) : Prop :=
  c.server.checkpointGuardStateFile ≠ [] →
    Path.Proper
        (Path.afterSlash
          c.server.checkpointGuardStateFile) ∧
      Path.afterSlash c.server.checkpointGuardStateFile ≠
        Path.dotdot ∧
      ∀ n < 2 ^ 32,
        Path.afterSlash c.server.checkpointGuardStateFile ≠
          Server.guardTempName n

theorem Config.guard_suits
    {c : Config}
    (hNamed : c.GuardNamed)
    (hPath : c.checkpointGuardStatePath ≠ [])
    (cwd : List Bytes) :
    (Server.Place.resolving cwd).Suits
      c.checkpointGuardStatePath := by
  unfold checkpointGuardStatePath at hPath ⊢
  by_cases hOwn : c.server.checkpointGuardStateFile ≠ []
  · rw [if_pos hOwn]
    rcases hNamed hOwn with ⟨hProper, hDots, hDrawn⟩
    exact Server.Place.resolving_suits cwd hProper hDots
      hDrawn
  · rw [if_neg hOwn] at hPath ⊢
    by_cases hState : c.consensus.stateFile ≠ []
    · rw [if_pos hState]
      rcases guardFileName_proper with ⟨hProper, hDots⟩
      have hLast :=
        Path.afterSlash_join
          (Path.clean_ne_nil
            (Path.upToSlash c.consensus.stateFile))
          hProper hDots
      apply Server.Place.resolving_suits
      · rw [Path.dir, hLast]
        exact hProper
      · rw [Path.dir, hLast]
        exact hDots
      · intro n _
        rw [Path.dir, hLast]
        exact Server.ne_guardTempName (by decide) n
    · rw [if_neg hState] at hPath
      exact absurd rfl hPath

end BridgeSigner

------------------------------------------------------------
-- The Daemon
------------------------------------------------------------

namespace BridgeSigner

namespace Startup

open Signer
open Server (Method)

/-
  A daemon started from an accepted configuration, with
  `SignBridgeCheckpoint` on and its guard's file named well,
  in whatever order requests are handled, killed and repeated
  and the power goes: each timestamp is signed at most once,
  and every signature that is sent back is one of the
  request's checkpoint by the key of the configured backend.
-/
theorem daemon_signs_once_through_power_loss
    (out : Outside)
    (s : Settings)
    (raw : Config)
    (hLoad : Config.load out.host raw = .ok s.config)
    (hNamed : s.config.GuardNamed)
    (hOn :
      s.config.server.enabledRPCs.lookup
          Method.signBridgeCheckpoint.shortName ≠
        some false)
    (running : Running)
    (hStart : startDaemon out s = .ok running)
    (hTrusted : running.backend.Trusted out.curve)
    (describe : BackendError → Bytes)
    (cwd : List Bytes)
    (fs : FileSystem (List Bytes))
    (hFresh :
      fs.Vacant (Path.resolve cwd running.srv.statePath))
    (es : List (Server.PowerLoss.Event (List Bytes)))
    (t : Server.PowerLoss.State (List Bytes))
    (hRun :
      (Server.PowerLoss.machine
            (Server.Place.resolving cwd)
            running.srv.env).run
          (Server.PowerLoss.State.initial fs) es =
        some t)
    (hCalls :
      ∀ call ∈ t.calls,
        ∃ answer,
          call.result =
            Server.Released.resultOf describe
              (running.backend.signRaw answer
                call.digest)) :
    (t.calls.map
        Server.CheckpointRun.SignRawCall.timestamp).Nodup ∧
      ∀ x ∈ t.replies, ∀ a, x.2 = .ok a →
        running.srv.env.validate x.1 = .ok a.checkpoint ∧
          Signs out.curve running.backend.getPublicKey
            (out.lib.sha256 a.checkpoint) a.signature := by
  rcases started_server hStart with ⟨hPath, hLib⟩
  have hFile :=
    guard_path_of_accepted (accepted_of_load hLoad) hOn
  have hSuits :
      (Server.Place.resolving cwd).Suits
        running.srv.env.statePath := by
    change (Server.Place.resolving cwd).Suits
      running.srv.statePath
    rw [hPath]
    exact Config.guard_suits hNamed hFile cwd
  have hSome : running.srv.env.statePath ≠ [] := by
    change running.srv.statePath ≠ []
    rw [hPath]
    exact hFile
  rcases Server.PowerLoss.run_stands hSome hSuits hFresh
      hRun with
    ⟨r, hr, h⟩
  refine ⟨h.calls_once hr, ?_⟩
  intro x hx a ha
  refine ⟨h.requests.replies x hx a ha, ?_⟩
  rcases h.call_of_reply hr hx ha with
    ⟨call, hCall, hDigest, hResult⟩
  rcases hCalls call hCall with ⟨answer, hAnswer⟩
  have hSigns :=
    Server.Released.signs_of_resultOf hTrusted
      (hAnswer.symm.trans hResult)
  rw [hDigest] at hSigns
  change Signs out.curve running.backend.getPublicKey
    (running.srv.lib.sha256 a.checkpoint) a.signature
    at hSigns
  rw [hLib] at hSigns
  exact hSigns

/- The sample, with the point of its key. -/
def guardedOutside : Outside :=
  { sampleOutside with
    lib :=
      { Server.BridgeSignerServer.fixedLibraries with
        decompressPubkey := fun b =>
          if b = sampleKey then
            .ok Server.BridgeSignerServer.fixedPoint
          else
            .error [] } }

/-
  It is signed, and the power goes when its record has been
  renamed but not synced; the repeat after the next start is
  answered from the file.
-/
def guardedEvents :
    List (Server.PowerLoss.Event (List Bytes)) :=
  let req := Server.BridgeSignerServer.fixedCheckpoint
  let c := req.expectedCheckpoint
  let whole := Server.PowerLoss.wholeWrite (List Bytes)
  [.handle .restart, .handle (.arrive req),
      .advance req c] ++
    whole ++
    [.handle (.signRaw req c (.ok hashedRS)),
      .record req c hashedRS] ++
    whole.take 8 ++
    [.powerLoss (fun _ => 0) (fun _ => ⟨[], 0⟩),
      .handle .restart, .handle (.arrive req),
      .advance req c,
      .handle (.lookup req c
        (.rejected req.validatorTimestamp
          req.validatorTimestamp))]

/- Its calls, and how many replies it gives. -/
def guardedRun
    (srv : Server.BridgeSignerServer) :
    Option (Server.PowerLoss.State (List Bytes)) :=
  (Server.PowerLoss.machine (Server.Place.resolving [])
      srv.env).run
    (Server.PowerLoss.State.initial FileSystem.empty)
    guardedEvents

theorem sample_daemon_signs_once :
    ∃ running t,
      startDaemon guardedOutside sampleSettings =
          .ok running ∧
        guardedRun running.srv = some t ∧
        t.replies.length = 1 ∧
        (t.calls.map
          Server.CheckpointRun.SignRawCall.timestamp).Nodup ∧
        ∀ x ∈ t.replies, ∀ a, x.2 = .ok a →
          Signs sampleCurve running.backend.getPublicKey
            (guardedOutside.lib.sha256 a.checkpoint)
            a.signature := by
  have hRuns :
      ((startDaemon guardedOutside
            sampleSettings).toOption.bind fun running =>
          (guardedRun running.srv).map fun t =>
            (t.replies.length,
              t.calls.map fun c => (c.digest, c.result))) =
        some (1, [(hashedMsg, .ok hashedRS)]) := by
    decide +kernel
  rcases Option.bind_eq_some_iff.mp hRuns with
    ⟨running, hStart, hRun⟩
  have hStart :
      startDaemon guardedOutside sampleSettings =
        .ok running := by
    cases h : startDaemon guardedOutside sampleSettings with
    | error ending =>
        rw [h] at hStart
        cases hStart
    | ok r =>
        rw [h] at hStart
        cases hStart
        rfl
  rcases Option.map_eq_some_iff.mp hRun with
    ⟨t, hRun, hSeen⟩
  rcases Prod.mk.inj hSeen with ⟨hReplies, hCalls⟩
  have hBackend :
      running.backend = .fortanixdsm sampleSigner := by
    rcases startDaemon_ok_iff.mp hStart with
      ⟨-, backend, started, built, hSigner, -, -, -, -, rfl⟩
    cases hSigner
    rfl
  have hDaemon :=
    daemon_signs_once_through_power_loss guardedOutside
      sampleSettings sampleSettings.config sample_accepted
      (by
        intro hOwn
        exact absurd rfl hOwn)
      (by decide +kernel) running hStart
      (by
        rw [hBackend]
        exact ⟨rfl, sampleCurve_recoversPoints⟩)
      (fun _ => []) [] FileSystem.empty ⟨rfl, rfl⟩ guardedEvents t
      hRun
      (by
        intro call hCall
        have hPair :
            (call.digest, call.result) ∈
              [(hashedMsg,
                Server.SignRawResult.ok
                  hashedRS)] := by
          rw [← hCalls]
          exact List.mem_map_of_mem hCall
        rcases Prod.mk.inj (List.mem_singleton.mp hPair) with
          ⟨hDigest, hResult⟩
        refine ⟨.ok hashedDER, ?_⟩
        rw [hResult, hDigest, hBackend]
        decide +kernel)
  exact ⟨running, t, hStart, hRun, hReplies, hDaemon.1,
    fun x hx a ha => (hDaemon.2 x hx a ha).2⟩

end Startup

end BridgeSigner
