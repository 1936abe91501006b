import BridgeSigner.Consensus.Drain

/-
  The life of the daemon (cmd/bridge-signer/cmd_start.go):
  `runDaemon`, from its first signal handler to its return.

  The dial clients run from the launch on, and the gRPC and
  health servers after it. A signal, or a server that exits,
  cancels the context of the clients; the daemon waits for
  all of them, and only then stops the servers. A signal is
  also caught while the backend is still being set up.

  Key definitions include:
    * `Shutdown.Stage`, `Shutdown.Outcome`
    * `Shutdown.GrpcLibrary.WaitsForCalls`
    * `Shutdown.step`
    * `Shutdown.Orderly`

  Main results:
    * `Shutdown.run_orderly`
    * `Shutdown.clients_stop_before_servers`
    * `Shutdown.waiting_ends`
    * `Shutdown.signal_is_not_lost`
-/

------------------------------------------------------------
-- States And Events
------------------------------------------------------------

namespace BridgeSigner

namespace Daemon

open Consensus (System DialLoop.Event DialLoop.Client)

namespace Shutdown

inductive ServerName where
| health
| grpc
  deriving DecidableEq, Repr

/- A server has exited, with an error or cleanly. -/
structure ServerExit where
  name : ServerName
  err : Option Bytes
  deriving DecidableEq, Repr

/- The error "%s server: %w" that `runDaemon` will return. -/
def ServerExit.reason
    (exit : ServerExit) : Option ServerExit :=
  exit.err.map (fun _ => exit)

/-
  How `runDaemon` returns: the backend was not set up, a part
  of the daemon was not, or there was a shutdown.
-/
inductive Outcome where
| canceled
| failed
| complete (reason : Option ServerExit)
| timedOut (reason : Option ServerExit)
| forced
  deriving DecidableEq, Repr

/- Where `runDaemon` is. -/
inductive Stage where
| starting
| launching
| selecting
| waiting (reason : Option ServerExit)
| stopping (reason : Option ServerExit)
| returned (outcome : Outcome)
  deriving DecidableEq, Repr

/- Where a server is. -/
inductive ServerState where
| off
| serving
| exited
| draining
| stopped
  deriving DecidableEq, Repr

/-
  `signals` is the number in `sigCh`, `exits` what is in
  `errCh`, and `rpcs` the number of calls in flight.
-/
structure State (σ : Type) where
  stage : Stage
  drain : Consensus.Drain.State σ
  signals : Nat
  initCanceled : Bool
  notified : Bool
  exits : List ServerExit
  grpc : ServerState
  health : ServerState
  rpcs : Nat

/-
  What can happen. `notify` is the goroutine behind
  `signal.NotifyContext`; the last events are the cases of
  the two selects.
-/
inductive Event where
| signal
| signerReady
| signerFailed (canceled : Bool)
| setupFailed
| setupDone
| notify
| client (e : Consensus.Drain.Event)
| exit (exit : ServerExit)
| rpcBegin
| rpcEnd
| takeSignal
| takeExit
| waited
| drained (name : ServerName)
| complete
| timeout
| second

variable {σ : Type}

/- The daemon begins; the loops are as they will be run. -/
def State.initial
    (loop : Consensus.DialLoop.State σ) : State σ where
  stage := .starting
  drain := ⟨loop, fun _ => false⟩
  signals := 0
  initCanceled := false
  notified := false
  exits := []
  grpc := .off
  health := .off
  rpcs := 0

namespace State

variable (s : State σ)

/- It has not returned, and no goroutine has panicked. -/
def alive : Bool :=
  match s.stage with
  | .returned _ => false
  | _ => s.drain.loop.core.process.isSome

/- The dial clients have been started. -/
def launched : Bool :=
  match s.stage with
  | .starting => false
  | .returned _ => false
  | _ => true

def goTo
    (stage : Stage) : State σ :=
  { s with stage := stage }

/- `ctxCancel()`. -/
def cancel : State σ :=
  { s with
    drain :=
      { s.drain with
        loop := { s.drain.loop with cancelled := true } } }

def server : ServerName → ServerState
| .grpc => s.grpc
| .health => s.health

def setServer
    (name : ServerName)
    (state : ServerState) : State σ :=
  match name with
  | .grpc => { s with grpc := state }
  | .health => { s with health := state }

/- `sigCh` takes two; a signal more is dropped. -/
def signalled : State σ :=
  { s with
    signals := min 2 (s.signals + 1)
    initCanceled :=
      s.initCanceled || s.stage == .starting
    notified := s.notified || s.stage != .starting }

def allStopped : Bool :=
  s.drain.loop.clients.all (fun c => c.phase == .stopped)

end State

/-
  A call can begin on a connection that is open, also after
  `Serve` has exited and until `GracefulStop` returns.
-/
def ServerState.accepts : ServerState → Bool
| .serving => true
| .exited => true
| .draining => true
| _ => false

/-
  The gRPC library, whose code is not here: whether its
  `GracefulStop` may return with so many calls in flight.
-/
structure GrpcLibrary where
  mayStop : Nat → Bool

/- As documented: it waits for the calls to finish. -/
def GrpcLibrary.WaitsForCalls
    (lib : GrpcLibrary) : Prop :=
  ∀ calls, lib.mayStop calls = true → calls = 0

/- The clients do not cancel their own context. -/
def ownStep : Consensus.Drain.Event → Bool
| .client .cancel => false
| _ => true

/- What happens while the daemon lives. -/
def act
    (sys : System σ)
    (lib : GrpcLibrary)
    (s : State σ) :
    Event → Option (State σ)
| .signal => some s.signalled
| .signerReady =>
    if s.stage = .starting then
      some (s.goTo .launching)
    else
      none
| .signerFailed canceled =>
    if s.stage = .starting then
      if canceled then
        if s.initCanceled then
          some (s.goTo (.returned .canceled))
        else
          none
      else
        some (s.goTo (.returned .failed))
    else
      none
| .setupFailed =>
    if s.stage = .launching then
      some (s.goTo (.returned .failed))
    else
      none
| .setupDone =>
    if s.stage = .launching then
      some
        { s with
          stage := .selecting
          grpc := .serving
          health := .serving }
    else
      none
| .notify =>
    if s.notified && s.launched then
      some s.cancel
    else
      none
| .client e =>
    if s.launched && ownStep e then
      (Consensus.Drain.step sys s.drain e).map
        (fun drain => { s with drain := drain })
    else
      none
| .exit exit =>
    if s.server exit.name = .serving then
      some
        { s.setServer exit.name .exited with
          exits := s.exits ++ [exit] }
    else
      none
| .rpcBegin =>
    if s.grpc.accepts then
      some { s with rpcs := s.rpcs + 1 }
    else
      none
| .rpcEnd =>
    if 0 < s.rpcs then
      some { s with rpcs := s.rpcs - 1 }
    else
      none
| .takeSignal =>
    if s.stage = .selecting ∧ 0 < s.signals then
      some
        ({ s with signals := s.signals - 1 }.cancel.goTo
          (.waiting none))
    else
      none
| .takeExit =>
    match s.stage, s.exits with
    | .selecting, exit :: rest =>
        some
          ({ s with exits := rest }.cancel.goTo
            (.waiting exit.reason))
    | _, _ => none
| .waited =>
    match s.stage with
    | .waiting reason =>
        if s.allStopped then
          some
            { s with
              stage := .stopping reason
              grpc := .draining
              health := .draining }
        else
          none
    | _ => none
| .drained name =>
    if
        s.server name = .draining ∧
          (name = .grpc → lib.mayStop s.rpcs = true) then
      some (s.setServer name .stopped)
    else
      none
| .complete =>
    match s.stage with
    | .stopping reason =>
        if s.grpc = .stopped ∧ s.health = .stopped then
          some (s.goTo (.returned (.complete reason)))
        else
          none
    | _ => none
| .timeout =>
    match s.stage with
    | .stopping reason =>
        some (s.goTo (.returned (.timedOut reason)))
    | _ => none
| .second =>
    match s.stage with
    | .stopping _ =>
        if 0 < s.signals then
          some (s.goTo (.returned .forced))
        else
          none
    | _ => none

/- One event; `none` when it is not enabled. -/
def step
    (sys : System σ)
    (lib : GrpcLibrary)
    (s : State σ)
    (e : Event) : Option (State σ) :=
  if s.alive then act sys lib s e else none

def machine
    (sys : System σ)
    (lib : GrpcLibrary) : Machine (State σ) Event where
  step := step sys lib

end Shutdown

end Daemon

end BridgeSigner

------------------------------------------------------------
-- What A Step Can Do
------------------------------------------------------------

namespace BridgeSigner

namespace Daemon

open Consensus (System)

namespace Shutdown

variable {σ : Type}

/- The enabled events, with the states they lead to. -/
inductive Transition
    (sys : System σ)
    (lib : GrpcLibrary)
    (s : State σ) :
    Event → State σ → Prop where
| signal :
    Transition sys lib s .signal s.signalled
| signerReady
    (hStage : s.stage = .starting) :
    Transition sys lib s .signerReady (s.goTo .launching)
| signerFailed
    {canceled : Bool}
    {outcome : Outcome}
    (hStage : s.stage = .starting)
    (hOutcome : outcome = .canceled ∨ outcome = .failed) :
    Transition sys lib s (.signerFailed canceled)
      (s.goTo (.returned outcome))
| setupFailed
    (hStage : s.stage = .launching) :
    Transition sys lib s .setupFailed
      (s.goTo (.returned .failed))
| setupDone
    (hStage : s.stage = .launching) :
    Transition sys lib s .setupDone
      { s with
        stage := .selecting
        grpc := .serving
        health := .serving }
| notify
    (hLaunched : s.launched = true) :
    Transition sys lib s .notify s.cancel
| client
    {e : Consensus.Drain.Event}
    {drain : Consensus.Drain.State σ}
    (hLaunched : s.launched = true)
    (hOwn : ownStep e = true)
    (hDrain :
      Consensus.Drain.Transition sys s.drain e drain) :
    Transition sys lib s (.client e) { s with drain := drain }
| exit
    {exit : ServerExit}
    (hServing : s.server exit.name = .serving) :
    Transition sys lib s (.exit exit)
      { s.setServer exit.name .exited with
        exits := s.exits ++ [exit] }
| rpcBegin
    (hAccepts : s.grpc.accepts = true) :
    Transition sys lib s .rpcBegin { s with rpcs := s.rpcs + 1 }
| rpcEnd :
    Transition sys lib s .rpcEnd { s with rpcs := s.rpcs - 1 }
| takeSignal
    (hStage : s.stage = .selecting)
    (hSignal : 0 < s.signals) :
    Transition sys lib s .takeSignal
      ({ s with signals := s.signals - 1 }.cancel.goTo
        (.waiting none))
| takeExit
    {exit : ServerExit}
    {rest : List ServerExit}
    (hStage : s.stage = .selecting)
    (hExit : s.exits = exit :: rest) :
    Transition sys lib s .takeExit
      ({ s with exits := rest }.cancel.goTo
        (.waiting exit.reason))
| waited
    {reason : Option ServerExit}
    (hStage : s.stage = .waiting reason)
    (hStopped : s.allStopped = true) :
    Transition sys lib s .waited
      { s with
        stage := .stopping reason
        grpc := .draining
        health := .draining }
| drained
    {name : ServerName}
    (hDraining : s.server name = .draining)
    (hCalls : name = .grpc → lib.mayStop s.rpcs = true) :
    Transition sys lib s (.drained name)
      (s.setServer name .stopped)
| complete
    {reason : Option ServerExit}
    (hStage : s.stage = .stopping reason)
    (hGrpc : s.grpc = .stopped) :
    Transition sys lib s .complete
      (s.goTo (.returned (.complete reason)))
| timeout
    {reason : Option ServerExit}
    (hStage : s.stage = .stopping reason) :
    Transition sys lib s .timeout
      (s.goTo (.returned (.timedOut reason)))
| second
    {reason : Option ServerExit}
    (hStage : s.stage = .stopping reason) :
    Transition sys lib s .second (s.goTo (.returned .forced))

theorem act_transition
    {sys : System σ}
    {lib : GrpcLibrary}
    {s t : State σ}
    {e : Event}
    (hAct : act sys lib s e = some t) :
    Transition sys lib s e t := by
  cases e with
  | signal =>
      cases hAct
      exact .signal
  | signerReady =>
      simp only [act] at hAct
      split at hAct
      · cases hAct
        exact .signerReady ‹_›
      · cases hAct
  | signerFailed canceled =>
      simp only [act] at hAct
      split at hAct
      · split at hAct
        · split at hAct
          · cases hAct
            exact .signerFailed ‹_› (Or.inl rfl)
          · cases hAct
        · cases hAct
          exact .signerFailed ‹_› (Or.inr rfl)
      · cases hAct
  | setupFailed =>
      simp only [act] at hAct
      split at hAct
      · cases hAct
        exact .setupFailed ‹_›
      · cases hAct
  | setupDone =>
      simp only [act] at hAct
      split at hAct
      · cases hAct
        exact .setupDone ‹_›
      · cases hAct
  | notify =>
      simp only [act, Bool.and_eq_true] at hAct
      split at hAct
      · rename_i hReady
        cases hAct
        exact .notify hReady.2
      · cases hAct
  | client e =>
      simp only [act, Bool.and_eq_true] at hAct
      split at hAct
      · rename_i hReady
        rcases Option.map_eq_some_iff.mp hAct with
          ⟨drain, hDrain, rfl⟩
        exact .client hReady.1 hReady.2
          (Consensus.Drain.step_transition hDrain)
      · cases hAct
  | exit exit =>
      simp only [act] at hAct
      split at hAct
      · cases hAct
        exact .exit ‹_›
      · cases hAct
  | rpcBegin =>
      simp only [act] at hAct
      split at hAct
      · cases hAct
        exact .rpcBegin ‹_›
      · cases hAct
  | rpcEnd =>
      simp only [act] at hAct
      split at hAct
      · cases hAct
        exact .rpcEnd
      · cases hAct
  | takeSignal =>
      simp only [act] at hAct
      split at hAct
      · rename_i hReady
        cases hAct
        exact .takeSignal hReady.1 hReady.2
      · cases hAct
  | takeExit =>
      simp only [act] at hAct
      split at hAct
      · cases hAct
        exact .takeExit ‹_› ‹_›
      · cases hAct
  | waited =>
      simp only [act] at hAct
      split at hAct
      · split at hAct
        · cases hAct
          exact .waited ‹_› ‹_›
        · cases hAct
      · cases hAct
  | drained name =>
      simp only [act] at hAct
      split at hAct
      · rename_i hReady
        cases hAct
        exact .drained hReady.1 hReady.2
      · cases hAct
  | complete =>
      simp only [act] at hAct
      split at hAct
      · split at hAct
        · rename_i hReady
          cases hAct
          exact .complete ‹_› hReady.1
        · cases hAct
      · cases hAct
  | timeout =>
      simp only [act] at hAct
      split at hAct
      · cases hAct
        exact .timeout ‹_›
      · cases hAct
  | second =>
      simp only [act] at hAct
      split at hAct
      · split at hAct
        · cases hAct
          exact .second ‹_›
        · cases hAct
      · cases hAct

theorem step_transition
    {sys : System σ}
    {lib : GrpcLibrary}
    {s t : State σ}
    {e : Event}
    (hStep : step sys lib s e = some t) :
    s.alive = true ∧ Transition sys lib s e t := by
  unfold step at hStep
  split at hStep
  · exact ⟨‹_›, act_transition hStep⟩
  · cases hStep

end Shutdown

end Daemon

end BridgeSigner

------------------------------------------------------------
-- The Order Of A Shutdown
------------------------------------------------------------

namespace BridgeSigner

namespace Daemon

open Consensus (System DialLoop.LinkedState)

namespace Shutdown

/- The clients have been waited for. -/
def Stage.stops : Stage → Bool
| .stopping _ => true
| .returned (.complete _) => true
| .returned (.timedOut _) => true
| .returned .forced => true
| _ => false

variable {σ : Type}
variable {sys : System σ}
variable {lib : GrpcLibrary}
variable {s t : State σ}

/- What holds in every state of the daemon. -/
structure Orderly
    (s : State σ) : Prop where
  linked : DialLoop.LinkedState s.drain.loop
  canceled :
    ∀ reason, s.stage = .waiting reason →
      s.drain.loop.cancelled = true
  stopped : s.stage.stops = true → s.allStopped = true

/- No call is left when the gRPC server has been stopped. -/
structure Finished
    (s : State σ) : Prop where
  idle : s.grpc = .stopped → s.rpcs = 0
  complete :
    ∀ reason, s.stage = .returned (.complete reason) →
      s.grpc = .stopped

/- A client that has stopped takes no more steps. -/
theorem not_client_of_stopped
    {e : Consensus.Drain.Event}
    {drain : Consensus.Drain.State σ}
    (hStopped : s.allStopped = true)
    (hOwn : ownStep e = true) :
    ¬ Consensus.Drain.Transition sys s.drain e drain := by
  have hPhase :
      ∀ {i p c},
        s.drain.loop.atClient i = some (p, c) →
          c.phase = .stopped := by
    intro i p c hAt
    have hi := (Consensus.DialLoop.atClient_eq_some hAt).2
    have hAll := List.all_eq_true.mp hStopped c
      (List.mem_of_getElem? hi)
    exact eq_of_beq hAll
  intro hTrans
  cases hTrans with
  | client hPermits hLoop =>
      cases hLoop with
      | move hAt hNext =>
          rw [hPhase hAt] at hNext
          cases hNext
      | disconnect hAt hDisconnected hCore =>
          rw [hPhase hAt] at hDisconnected
          cases hDisconnected
      | gate now hAt hHandling hCore =>
          rw [hPhase hAt] at hHandling
          cases hHandling
      | enter hAt hWaiting hCore =>
          rw [hPhase hAt] at hWaiting
          cases hWaiting
      | save hAt hSaving hCore =>
          rw [hPhase hAt] at hSaving
          cases hSaving
      | cancel => cases hOwn
      | crash landed hCore => cases hPermits
      | restart hCore => cases hPermits
  | close hAt hCanceled hServed hOpen =>
      rw [hPhase hAt] at hServed
      cases hServed

theorem drain_linked
    {e : Consensus.Drain.Event}
    {before after : Consensus.Drain.State σ}
    (hTrans : Consensus.Drain.Transition sys before e after)
    (hLinked : DialLoop.LinkedState before.loop) :
    DialLoop.LinkedState after.loop := by
  cases hTrans with
  | client hPermits hLoop =>
      exact Consensus.DialLoop.transition_linked hLoop hLinked
  | close hAt hCanceled hServed hOpen => exact hLinked

/- Servers come and go without the clients. -/
theorem setServer_fields
    (s : State σ)
    (name : ServerName)
    (state : ServerState) :
    (s.setServer name state).stage = s.stage ∧
      (s.setServer name state).drain = s.drain ∧
      (s.setServer name state).rpcs = s.rpcs ∧
      (s.setServer name state).signals = s.signals := by
  cases name <;> exact ⟨rfl, rfl, rfl, rfl⟩

theorem setServer_orderly
    (h : Orderly s)
    (name : ServerName)
    (state : ServerState) :
    Orderly (s.setServer name state) := by
  rcases setServer_fields s name state with
    ⟨hStage, hDrain, -, -⟩
  constructor
  · rw [hDrain]
    exact h.linked
  · rw [hStage, hDrain]
    exact h.canceled
  · rw [hStage, State.allStopped, hDrain]
    exact h.stopped

theorem transition_orderly
    {e : Event}
    (hTrans : Transition sys lib s e t)
    (h : Orderly s) :
    Orderly t := by
  cases hTrans with
  | signal => exact ⟨h.linked, h.canceled, h.stopped⟩
  | signerReady hStage =>
      exact ⟨h.linked, by simp [State.goTo],
        by simp [State.goTo, Stage.stops]⟩
  | signerFailed hStage hOutcome =>
      rcases hOutcome with rfl | rfl <;>
        exact ⟨h.linked, by simp [State.goTo],
          by simp [State.goTo, Stage.stops]⟩
  | setupFailed hStage =>
      exact ⟨h.linked, by simp [State.goTo],
        by simp [State.goTo, Stage.stops]⟩
  | setupDone hStage =>
      exact ⟨h.linked, by simp, by simp [Stage.stops]⟩
  | notify hLaunched =>
      exact ⟨h.linked, fun _ _ => rfl, h.stopped⟩
  | client hLaunched hOwn hDrain =>
      refine ⟨drain_linked hDrain h.linked, ?_, ?_⟩
      · intro reason hStage
        exact Consensus.Drain.transition_cancelled hDrain
          (h.canceled reason hStage)
      · intro hStops
        exact absurd hDrain
          (not_client_of_stopped (h.stopped hStops) hOwn)
  | @exit exit hServing =>
      have hKept := setServer_orderly h exit.name .exited
      exact ⟨hKept.linked, hKept.canceled, hKept.stopped⟩
  | rpcBegin hAccepts =>
      exact ⟨h.linked, h.canceled, h.stopped⟩
  | rpcEnd => exact ⟨h.linked, h.canceled, h.stopped⟩
  | takeSignal hStage hSignal =>
      exact ⟨h.linked, fun _ _ => rfl,
        by simp [State.goTo, Stage.stops]⟩
  | takeExit hStage hExit =>
      exact ⟨h.linked, fun _ _ => rfl,
        by simp [State.goTo, Stage.stops]⟩
  | waited hStage hStopped =>
      exact ⟨h.linked, by simp, fun _ => hStopped⟩
  | @drained name hDraining hCalls =>
      exact setServer_orderly h name .stopped
  | complete hStage hGrpc =>
      refine ⟨h.linked, by simp [State.goTo], ?_⟩
      intro _
      exact h.stopped (by rw [hStage]; rfl)
  | timeout hStage =>
      refine ⟨h.linked, by simp [State.goTo], ?_⟩
      intro _
      exact h.stopped (by rw [hStage]; rfl)
  | second hStage =>
      refine ⟨h.linked, by simp [State.goTo], ?_⟩
      intro _
      exact h.stopped (by rw [hStage]; rfl)

theorem setServer_finished
    {name : ServerName}
    {state : ServerState}
    (h : Finished s)
    (hActive : s.server name ≠ .stopped)
    (hIdle :
      name = .grpc → state = .stopped → s.rpcs = 0) :
    Finished (s.setServer name state) := by
  rcases setServer_fields s name state with
    ⟨hStage, -, hRpcs, -⟩
  constructor
  · intro hStopped
    rw [hRpcs]
    cases name with
    | grpc => exact hIdle rfl hStopped
    | health => exact h.idle hStopped
  · intro reason hComplete
    rw [hStage] at hComplete
    have hStopped := h.complete reason hComplete
    cases name with
    | grpc => exact absurd hStopped hActive
    | health => exact hStopped

theorem transition_finished
    (hWaits : lib.WaitsForCalls)
    {e : Event}
    (hTrans : Transition sys lib s e t)
    (h : Finished s) :
    Finished t := by
  cases hTrans with
  | signerReady hStage =>
      exact ⟨h.idle, by simp [State.goTo]⟩
  | signerFailed hStage hOutcome =>
      rcases hOutcome with rfl | rfl <;>
        exact ⟨h.idle, by simp [State.goTo]⟩
  | setupFailed hStage =>
      exact ⟨h.idle, by simp [State.goTo]⟩
  | setupDone hStage => exact ⟨by simp, by simp⟩
  | @exit exit hServing =>
      have hKept :
          Finished (s.setServer exit.name .exited) :=
        setServer_finished h (by rw [hServing]; decide)
          (fun _ hEq => by cases hEq)
      exact ⟨hKept.idle, hKept.complete⟩
  | rpcBegin hAccepts =>
      refine ⟨?_, h.complete⟩
      intro hStopped
      rw [show s.grpc = .stopped from hStopped] at hAccepts
      cases hAccepts
  | rpcEnd =>
      refine ⟨?_, h.complete⟩
      intro hStopped
      simp [h.idle hStopped]
  | takeSignal hStage hSignal =>
      exact ⟨h.idle, by simp [State.goTo]⟩
  | takeExit hStage hExit =>
      exact ⟨h.idle, by simp [State.goTo]⟩
  | waited hStage hStopped => exact ⟨by simp, by simp⟩
  | drained hDraining hCalls =>
      exact setServer_finished h (by rw [hDraining]; decide)
        (fun hName _ => hWaits _ (hCalls hName))
  | complete hStage hGrpc => exact ⟨h.idle, fun _ _ => hGrpc⟩
  | timeout hStage => exact ⟨h.idle, by simp [State.goTo]⟩
  | second hStage => exact ⟨h.idle, by simp [State.goTo]⟩
  | _ => exact ⟨h.idle, h.complete⟩

/- The clients of a process that has just loaded its state. -/
theorem orderly_initial
    {file : Consensus.PathEntry}
    {targets : List Bytes}
    {loop : Consensus.DialLoop.State σ}
    (hStart :
      Consensus.DialLoop.step sys
          (Consensus.DialLoop.State.initial file targets)
          .restart =
        some loop) :
    Orderly (State.initial loop) := by
  refine ⟨?_, by simp [State.initial],
    by simp [State.initial, Stage.stops]⟩
  exact Consensus.DialLoop.transition_linked
    (Consensus.DialLoop.step_transition hStart)
    (Consensus.DialLoop.linkedState_of_none rfl)

theorem run_orderly
    {file : Consensus.PathEntry}
    {targets : List Bytes}
    {loop : Consensus.DialLoop.State σ}
    (hStart :
      Consensus.DialLoop.step sys
          (Consensus.DialLoop.State.initial file targets)
          .restart =
        some loop)
    {es : List Event}
    (hRun :
      (machine sys lib).run (State.initial loop) es = some t) :
    Orderly t :=
  Machine.run_invariant (P := Orderly)
    (fun _ _ _ hStep h =>
      transition_orderly (step_transition hStep).2 h)
    hRun (orderly_initial hStart)

theorem run_finished
    (hWaits : lib.WaitsForCalls)
    {loop : Consensus.DialLoop.State σ}
    {es : List Event}
    (hRun :
      (machine sys lib).run (State.initial loop) es =
        some t) :
    Finished t :=
  Machine.run_invariant (P := Finished)
    (fun _ _ _ hStep h =>
      transition_finished hWaits (step_transition hStep).2 h)
    hRun ⟨by simp [State.initial], by simp [State.initial]⟩

/-
  Once the clients have been waited for, the private
  validator is at rest.
-/
theorem transition_at_rest
    {e : Event}
    (hTrans : Transition sys lib s e t)
    (h : Orderly s)
    (hStops : s.stage.stops = true) :
    t.stage.stops = true ∧
      t.drain.loop.core = s.drain.loop.core ∧
      t.drain.loop.log = s.drain.loop.log := by
  cases hTrans with
  | signal => exact ⟨hStops, rfl, rfl⟩
  | signerReady hStage =>
      rw [hStage] at hStops
      cases hStops
  | signerFailed hStage hOutcome =>
      rw [hStage] at hStops
      cases hStops
  | setupFailed hStage =>
      rw [hStage] at hStops
      cases hStops
  | setupDone hStage =>
      rw [hStage] at hStops
      cases hStops
  | notify hLaunched => exact ⟨hStops, rfl, rfl⟩
  | client hLaunched hOwn hDrain =>
      exact absurd hDrain
        (not_client_of_stopped (h.stopped hStops) hOwn)
  | @exit exit hServing =>
      rcases setServer_fields s exit.name .exited with
        ⟨hStage, hDrain, -⟩
      simp only [hStage, hDrain]
      exact ⟨hStops, trivial, trivial⟩
  | rpcBegin hAccepts => exact ⟨hStops, rfl, rfl⟩
  | rpcEnd => exact ⟨hStops, rfl, rfl⟩
  | takeSignal hStage hSignal =>
      rw [hStage] at hStops
      cases hStops
  | takeExit hStage hExit =>
      rw [hStage] at hStops
      cases hStops
  | waited hStage hStopped => exact ⟨rfl, rfl, rfl⟩
  | @drained name hDraining hCalls =>
      rcases setServer_fields s name .stopped with
        ⟨hStage, hDrain, -⟩
      rw [hStage, hDrain]
      exact ⟨hStops, rfl, rfl⟩
  | complete hStage hGrpc => exact ⟨rfl, rfl, rfl⟩
  | timeout hStage => exact ⟨rfl, rfl, rfl⟩
  | second hStage => exact ⟨rfl, rfl, rfl⟩

/- The library as it is documented. -/
def sampleGrpc : GrpcLibrary :=
  ⟨fun calls => calls == 0⟩

/- The daemon starts, a client serves, and a signal comes. -/
def servedRun : List Event :=
  [.signerReady, .client (.client (.move 0 .dial)),
    .client (.client (.move 0 .dialed)), .setupDone,
    .rpcBegin, .signal, .takeSignal]

/- The clients stop, and then the servers. -/
def drainedRun : List Event :=
  [.client (.close 0),
    .client (.client (.move 0 .readFailed)),
    .client (.client (.disconnect 0)),
    .client (.client (.move 0 .stop)),
    .client (.client (.move 1 .stop)), .waited, .rpcEnd,
    .drained .grpc, .drained .health, .complete]

/- The clients of the sample system, just started. -/
def sampleLoop :
    Option (Consensus.DialLoop.State
      Consensus.PrimaryArbiter) :=
  Consensus.DialLoop.step Consensus.DialRun.sampleSystem
    (Consensus.DialLoop.State.initial
      (.file Consensus.freshStateJSON)
      Consensus.DialLoop.sampleTargets)
    .restart

/-
  When the servers are stopped, every client has stopped and
  the private validator signs nothing more, however the
  daemon goes on; after a complete shutdown no RPC was cut
  off, as the gRPC library waits for the calls.
-/
theorem clients_stop_before_servers
    (sys : System σ)
    (lib : GrpcLibrary)
    (file : Consensus.PathEntry)
    (targets : List Bytes)
    (loop : Consensus.DialLoop.State σ)
    (hStart :
      Consensus.DialLoop.step sys
          (Consensus.DialLoop.State.initial file targets)
          .restart =
        some loop)
    (es : List Event)
    (t : State σ)
    (hRun :
      (machine sys lib).run (State.initial loop) es = some t)
    (hStops : t.stage.stops = true) :
    (∀ c ∈ t.drain.loop.clients, c.phase = .stopped) ∧
      (lib.WaitsForCalls →
        ∀ reason, t.stage = .returned (.complete reason) →
          t.rpcs = 0) ∧
      ∀ es' u, (machine sys lib).run t es' = some u →
        u.drain.loop.core = t.drain.loop.core ∧
          u.drain.loop.log = t.drain.loop.log := by
  have h := run_orderly hStart hRun
  refine ⟨?_, ?_, ?_⟩
  · intro c hc
    exact eq_of_beq
      (List.all_eq_true.mp (h.stopped hStops) c hc)
  · intro hWaits reason hComplete
    have hFinished := run_finished hWaits hRun
    exact hFinished.idle
      (hFinished.complete reason hComplete)
  · intro es' u hRest
    have hKept :=
      Machine.run_invariant
        (P := fun u => Orderly u ∧ u.stage.stops = true ∧
          u.drain.loop.core = t.drain.loop.core ∧
          u.drain.loop.log = t.drain.loop.log)
        ?_ hRest ⟨h, hStops, rfl, rfl⟩
    · exact hKept.2.2
    · rintro a e b hStep ⟨ha, hAStops, hCore, hLog⟩
      have hTrans := (step_transition hStep).2
      rcases transition_at_rest hTrans ha hAStops with
        ⟨hBStops, hSameCore, hSameLog⟩
      exact ⟨transition_orderly hTrans ha, hBStops,
        hSameCore.trans hCore, hSameLog.trans hLog⟩

theorem sample_clients_stop_before_servers :
    ∃ loop t,
      sampleLoop = some loop ∧
        (machine Consensus.DialRun.sampleSystem sampleGrpc).run
            (State.initial loop) (servedRun ++ drainedRun) =
          some t ∧
        t.stage = .returned (.complete none) ∧
        t.rpcs = 0 ∧
        ∀ c ∈ t.drain.loop.clients, c.phase = .stopped := by
  have hResult :
      (sampleLoop.bind fun loop =>
          ((machine Consensus.DialRun.sampleSystem sampleGrpc).run
            (State.initial loop)
            (servedRun ++ drainedRun)).map State.stage) =
        some (.returned (.complete none)) := by
    decide +kernel
  rcases Option.bind_eq_some_iff.mp hResult with
    ⟨loop, hStart, hStage⟩
  rcases Option.map_eq_some_iff.mp hStage with
    ⟨t, hRun, hReturned⟩
  have hStopped :=
    clients_stop_before_servers
      Consensus.DialRun.sampleSystem sampleGrpc _ _ loop
      hStart _ t hRun (by rw [hReturned]; rfl)
  exact ⟨loop, t, hStart, hRun, hReturned,
    hStopped.2.1 (fun _ hZero => eq_of_beq hZero) none
      hReturned,
    hStopped.1⟩

end Shutdown

end Daemon

end BridgeSigner

------------------------------------------------------------
-- The Wait For The Clients
------------------------------------------------------------

namespace BridgeSigner

namespace Daemon

open Consensus (System)

namespace Shutdown

variable {σ : Type}
variable {sys : System σ}
variable {lib : GrpcLibrary}
variable {s t : State σ}

/- The steps of the clients are what is counted. -/
def Event.cost : Event → Nat
| .client e => e.cost
| _ => 0

/- Each response written lets a client go five steps more. -/
def Event.credit : Event → Nat
| .client e => e.credit
| _ => 0

def State.canceled
    (s : State σ) : Prop :=
  s.drain.loop.cancelled = true

theorem transition_canceled
    {e : Event}
    (hTrans : Transition sys lib s e t)
    (hCanceled : s.canceled) :
    t.canceled := by
  cases hTrans with
  | client hLaunched hOwn hDrain =>
      exact Consensus.Drain.transition_cancelled hDrain
        hCanceled
  | @exit exit hServing =>
      rcases setServer_fields s exit.name .exited with
        ⟨-, hDrain, -⟩
      simp only [State.canceled, hDrain]
      exact hCanceled
  | @drained name hDraining hCalls =>
      rcases setServer_fields s name .stopped with
        ⟨-, hDrain, -⟩
      rw [State.canceled, hDrain]
      exact hCanceled
  | notify hLaunched => rfl
  | takeSignal hStage hSignal => rfl
  | takeExit hStage hExit => rfl
  | _ => exact hCanceled

theorem transition_pays
    {e : Event}
    (hTrans : Transition sys lib s e t)
    (hCanceled : s.canceled) :
    t.drain.toGo + e.cost ≤ s.drain.toGo + e.credit := by
  cases hTrans with
  | client hLaunched hOwn hDrain =>
      exact Consensus.Drain.transition_pays hDrain hCanceled
  | @exit exit hServing =>
      rcases setServer_fields s exit.name .exited with
        ⟨-, hDrain, -⟩
      simp only [hDrain]
      exact Nat.le_refl _
  | @drained name hDraining hCalls =>
      rcases setServer_fields s name .stopped with
        ⟨-, hDrain, -⟩
      rw [hDrain]
      exact Nat.le_refl _
  | _ => exact Nat.le_refl _

theorem pays
    (sys : System σ)
    (lib : GrpcLibrary) :
    (machine sys lib).Pays State.canceled
      (fun s => s.drain.toGo) Event.cost Event.credit where
  keeps := fun _ _ _ hStep hCanceled =>
    transition_canceled (step_transition hStep).2 hCanceled
  pays := fun _ _ _ hStep hCanceled =>
    transition_pays (step_transition hStep).2 hCanceled

/-
  While the daemon waits for the clients, they have a bounded
  number of steps left for every response they still write,
  and one of them can take its next step without writing any,
  or all have stopped and the wait is over.
-/
theorem waiting_ends
    (sys : System σ)
    (lib : GrpcLibrary)
    (file : Consensus.PathEntry)
    (targets : List Bytes)
    (loop : Consensus.DialLoop.State σ)
    (hStart :
      Consensus.DialLoop.step sys
          (Consensus.DialLoop.State.initial file targets)
          .restart =
        some loop)
    (es : List Event)
    (t : State σ)
    (hRun :
      (machine sys lib).run (State.initial loop) es = some t)
    (reason : Option ServerExit)
    (hStage : t.stage = .waiting reason)
    (hAlive : t.drain.loop.core.process.isSome = true)
    (now : Consensus.Instant) :
    (∀ es' u, (machine sys lib).run t es' = some u →
      (es'.map Event.cost).sum ≤
        10 * t.drain.loop.clients.length +
          (es'.map Event.credit).sum) ∧
      ((∃ u, step sys lib t .waited = some u) ∨
        ∃ e u, step sys lib t (.client e) = some u ∧
          e.cost = 1 ∧ e.credit = 0) := by
  have h := run_orderly hStart hRun
  have hCanceled := h.canceled reason hStage
  have hLives : t.alive = true := by
    simp only [State.alive, hStage, hAlive]
  constructor
  · intro es' u hRest
    have hPaid := (pays sys lib).run hRest hCanceled
    have hMost := t.drain.toGo_le
    omega
  · by_cases hStopped : t.allStopped = true
    · left
      simp only [step, hLives, act, hStage, hStopped,
        if_true]
      exact ⟨_, rfl⟩
    · right
      have hSome :
          ∃ c ∈ t.drain.loop.clients,
            c.phase ≠ .stopped := by
        simpa [State.allStopped] using hStopped
      rcases hSome with ⟨c, hMem, hGoes⟩
      rcases Option.isSome_iff_exists.mp hAlive with
        ⟨p, hProcess⟩
      rcases Consensus.Drain.enabled sys h.linked
          hProcess hCanceled hMem hGoes now with
        ⟨e, drain, hDrain, hCost, hCredit⟩
      have hOwn : ownStep e = true := by
        unfold ownStep
        split
        · cases hCost
        · rfl
      refine ⟨e, { t with drain := drain }, ?_, hCost,
        hCredit⟩
      simp only [step, hLives, act, State.launched, hStage,
        hOwn, Bool.and_self, if_true, hDrain,
        Option.map_some]

theorem sample_waiting_ends :
    ∃ loop t,
      sampleLoop = some loop ∧
        (machine Consensus.DialRun.sampleSystem sampleGrpc).run
            (State.initial loop) servedRun =
          some t ∧
        t.stage = .waiting none ∧
        ((∃ u, step Consensus.DialRun.sampleSystem sampleGrpc t
            .waited = some u) ∨
          ∃ e u,
            step Consensus.DialRun.sampleSystem sampleGrpc t
                (.client e) = some u ∧
              e.cost = 1 ∧ e.credit = 0) := by
  have hResult :
      (sampleLoop.bind fun loop =>
          ((machine Consensus.DialRun.sampleSystem sampleGrpc).run
            (State.initial loop) servedRun).map
            (fun t => (t.stage,
              t.drain.loop.core.process.isSome))) =
        some (.waiting none, true) := by
    decide +kernel
  rcases Option.bind_eq_some_iff.mp hResult with
    ⟨loop, hStart, hRest⟩
  rcases Option.map_eq_some_iff.mp hRest with
    ⟨t, hRun, hPair⟩
  rcases Prod.mk.inj hPair with ⟨hStage, hAlive⟩
  exact ⟨loop, t, hStart, hRun, hStage,
    (waiting_ends Consensus.DialRun.sampleSystem sampleGrpc
      _ _ loop
      hStart _ t hRun none hStage hAlive
      (Consensus.DialRun.sampleTime 1)).2⟩

end Shutdown

end Daemon

end BridgeSigner

------------------------------------------------------------
-- Signals
------------------------------------------------------------

namespace BridgeSigner

namespace Daemon

open Consensus (System)

namespace Shutdown

variable {σ : Type}
variable {sys : System σ}
variable {lib : GrpcLibrary}
variable {s t : State σ}

/- The daemon has not yet come to its first select's end. -/
def Stage.early : Stage → Bool
| .starting => true
| .launching => true
| .selecting => true
| _ => false

/- A signal waits in `sigCh`, or the select was left. -/
def State.Heeds
    (s : State σ) : Prop :=
  s.stage.early = true → 0 < s.signals

/- Only the select takes a signal out of the channel. -/
theorem transition_heeds
    {e : Event}
    (hTrans : Transition sys lib s e t)
    (h : s.Heeds) :
    t.Heeds := by
  have hBefore :
      ∀ stage : Stage, s.stage = stage →
        stage.early = true → 0 < s.signals := by
    intro stage hStage hEarly
    rw [← hStage] at hEarly
    exact h hEarly
  cases hTrans with
  | signal =>
      intro _
      exact lt_min (by decide) (Nat.succ_pos _)
  | signerReady hStage =>
      exact fun _ => hBefore .starting hStage rfl
  | signerFailed hStage hOutcome =>
      intro hEarly
      cases hEarly
  | setupFailed hStage =>
      intro hEarly
      cases hEarly
  | setupDone hStage =>
      exact fun _ => hBefore .launching hStage rfl
  | notify hLaunched => exact h
  | client hLaunched hOwn hDrain => exact h
  | @exit exit hServing =>
      rcases setServer_fields s exit.name .exited with
        ⟨hStage, -, -, hSignals⟩
      simp only [State.Heeds, hStage, hSignals]
      exact h
  | rpcBegin hAccepts => exact h
  | rpcEnd => exact h
  | takeSignal hStage hSignal =>
      intro hEarly
      cases hEarly
  | takeExit hStage hExit =>
      intro hEarly
      cases hEarly
  | waited hStage hStopped =>
      intro hEarly
      cases hEarly
  | @drained name hDraining hCalls =>
      rcases setServer_fields s name .stopped with
        ⟨hStage, -, -, hSignals⟩
      rw [State.Heeds, hStage, hSignals]
      exact h
  | complete hStage hGrpc =>
      intro hEarly
      cases hEarly
  | timeout hStage =>
      intro hEarly
      cases hEarly
  | second hStage =>
      intro hEarly
      cases hEarly

/-
  A signal at any time, also while the backend is being set
  up, is there for the select that shuts the daemon down.
-/
theorem signal_is_not_lost
    (sys : System σ)
    (lib : GrpcLibrary)
    (s : State σ)
    (es : List Event)
    (t : State σ)
    (hRun : (machine sys lib).run s es = some t)
    (hSignal : Event.signal ∈ es)
    (hStage : t.stage = .selecting)
    (hAlive : t.drain.loop.core.process.isSome = true) :
    ∃ u, step sys lib t .takeSignal = some u ∧
      u.stage = .waiting none ∧
        u.drain.loop.cancelled = true := by
  rcases List.append_of_mem hSignal with
    ⟨before, after, rfl⟩
  rcases ((machine sys lib).run_append_iff s t before
      (.signal :: after)).mp hRun with
    ⟨a, -, hRest⟩
  rcases ((machine sys lib).run_cons_iff a t .signal
      after).mp hRest with
    ⟨b, hHead, hTail⟩
  have hHeard : b.Heeds := by
    cases (step_transition hHead).2
    intro _
    exact lt_min (by decide) (Nat.succ_pos _)
  have hHeeds :=
    Machine.run_invariant (P := State.Heeds)
      (fun _ _ _ hStep h =>
        transition_heeds (step_transition hStep).2 h)
      hTail hHeard
  have hWaits : 0 < t.signals :=
    hHeeds (by rw [hStage]; rfl)
  have hLives : t.alive = true := by
    simp only [State.alive, hStage, hAlive]
  refine ⟨({ t with signals := t.signals - 1 }.cancel.goTo
      (.waiting none)), ?_, rfl, rfl⟩
  simp only [step, hLives, act, hStage, hWaits, and_self,
    if_true]

/- The signal comes before the backend is ready. -/
theorem sample_early_signal :
    ∃ loop t u,
      sampleLoop = some loop ∧
        (machine Consensus.DialRun.sampleSystem sampleGrpc).run
            (State.initial loop)
            [.signal, .signerReady, .setupDone] =
          some t ∧
        step Consensus.DialRun.sampleSystem sampleGrpc t .takeSignal =
          some u ∧
        u.stage = .waiting none := by
  have hResult :
      (sampleLoop.bind fun loop =>
          ((machine Consensus.DialRun.sampleSystem sampleGrpc).run
            (State.initial loop)
            [.signal, .signerReady, .setupDone]).map
            (fun t => (t.stage,
              t.drain.loop.core.process.isSome))) =
        some (.selecting, true) := by
    decide +kernel
  rcases Option.bind_eq_some_iff.mp hResult with
    ⟨loop, hStart, hRest⟩
  rcases Option.map_eq_some_iff.mp hRest with
    ⟨t, hRun, hPair⟩
  rcases Prod.mk.inj hPair with ⟨hStage, hAlive⟩
  rcases signal_is_not_lost Consensus.DialRun.sampleSystem
      sampleGrpc _
      _ t hRun List.mem_cons_self hStage hAlive with
    ⟨u, hTake, hWaiting, -⟩
  exact ⟨loop, t, u, hStart, hRun, hTake, hWaiting⟩

end Shutdown

end Daemon

end BridgeSigner
