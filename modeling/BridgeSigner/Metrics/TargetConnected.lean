import BridgeSigner.Consensus.HandOver
import BridgeSigner.Metrics.ActiveNode

/-
  The metric of the connected targets (metrics/metrics.go,
  consensus/server.go).

  Every dial client sets the series of its target to 0 when
  it begins, to 1 when it has dialled and to 0 when its dial
  has failed or its connection is closed. A client counts as
  connected from `onState(true)`, which is taken with the
  dial, to the end of `onState(false)`. The series belongs to
  the target and not to the client: clients of one target
  overwrite each other.

  Key definitions include:
    * `TargetConnected.step`
    * `TargetConnected.State.Shows`

  Main results:
    * `TargetConnected.run_accounted`
    * `TargetConnected.shows_connections_iff`
-/

------------------------------------------------------------
-- The Machine
------------------------------------------------------------

namespace BridgeSigner

namespace Metrics

open Consensus (System DialLoop.Client PathEntry)

/- The value of the gauge for a target. -/
def connectedValue
    (connected : Bool) : Nat :=
  if connected then 1 else 0

def setTargetConnected
    (g : GaugeVec)
    (target : Bytes)
    (connected : Bool) : GaugeVec :=
  Function.update g target (some (connectedValue connected))

namespace TargetConnected

/- The loops, which of them have begun, and the metric. -/
structure State (σ : Type) where
  loop : Consensus.DialLoop.State σ
  begun : Nat → Bool
  gauge : GaugeVec

/- `begin` is the start of `RunDialClient` for a target. -/
inductive Event where
| begin (i : Nat)
| loop (e : Consensus.DialLoop.Event)

variable {σ : Type}

def State.initial
    (loop : Consensus.DialLoop.State σ) : State σ :=
  ⟨loop, fun _ => false, fun _ => none⟩

/- The client that takes a step has begun. -/
def State.permits
    (s : State σ) :
    Consensus.DialLoop.Event → Bool
| .move i _ => s.begun i
| .disconnect i => s.begun i
| .gate i _ => s.begun i
| .enter i => s.begun i
| .save i => s.begun i
| .cancel => true
| .crash _ => false
| .restart => false

/- The target of a client. -/
def targetOf
    (loop : Consensus.DialLoop.State σ)
    (i : Nat) : Bytes :=
  match loop.clients[i]? with
  | none => []
  | some c => c.target

/- What `onState` sets, before a release. -/
def gaugeAfter
    (s : State σ) :
    Consensus.DialLoop.Event → GaugeVec
| .move i .dialed =>
    setTargetConnected s.gauge (targetOf s.loop i) true
| .disconnect i =>
    setTargetConnected s.gauge (targetOf s.loop i) false
| _ => s.gauge

/- One event; `none` when it is not enabled. -/
def step
    (sys : System σ)
    (s : State σ) :
    Event → Option (State σ)
| .begin i =>
    match s.loop.atClient i with
    | none => none
    | some (_, c) =>
        if s.begun i then
          none
        else
          some
            { s with
              begun := Function.update s.begun i true
              gauge :=
                setTargetConnected s.gauge c.target false }
| .loop e =>
    if s.permits e then
      (Consensus.DialLoop.step sys s.loop e).map
        (fun loop => ⟨loop, s.begun, gaugeAfter s e⟩)
    else
      none

def machine
    (sys : System σ) : Machine (State σ) Event where
  step := step sys

/- The enabled events, with the states they lead to. -/
inductive Transition
    (sys : System σ)
    (s : State σ) :
    Event → State σ → Prop where
| begin
    {i : Nat}
    {p : Consensus.DialRun.Process σ}
    {c : DialLoop.Client}
    (hAt : s.loop.atClient i = some (p, c))
    (hNew : s.begun i = false) :
    Transition sys s (.begin i)
      { s with
        begun := Function.update s.begun i true
        gauge := setTargetConnected s.gauge c.target false }
| loop
    {e : Consensus.DialLoop.Event}
    {loop : Consensus.DialLoop.State σ}
    (hPermits : s.permits e = true)
    (hLoop :
      Consensus.DialLoop.Transition sys s.loop e loop) :
    Transition sys s (.loop e)
      ⟨loop, s.begun, gaugeAfter s e⟩

theorem step_transition
    {sys : System σ}
    {s t : State σ}
    {e : Event}
    (hStep : step sys s e = some t) :
    Transition sys s e t := by
  cases e with
  | begin i =>
      simp only [step] at hStep
      split at hStep
      · cases hStep
      · rename_i p c hAt
        split at hStep
        · cases hStep
        · rename_i hNew
          cases hStep
          exact .begin hAt (Bool.eq_false_iff.mpr hNew)
  | loop e =>
      simp only [step] at hStep
      split at hStep
      · rcases Option.map_eq_some_iff.mp hStep with
          ⟨loop, hLoop, rfl⟩
        exact .loop ‹_›
          (Consensus.DialLoop.step_transition hLoop)
      · cases hStep

end TargetConnected

end Metrics

end BridgeSigner

------------------------------------------------------------
-- Clients With Targets Of Their Own
------------------------------------------------------------

namespace BridgeSigner

namespace Metrics

open Consensus (System Phase Move PathEntry DialLoop.Client)

/- Only a successful dial connects. -/
theorem next_connected_iff
    {cancelled : Bool}
    {phase phase' : Phase}
    {m : Move}
    (hNext : phase.next cancelled m = some phase') :
    phase'.Connected ↔ m = .dialed ∨ phase.Connected := by
  cases phase <;> cases m <;>
    simp [Phase.next] at hNext <;>
    first
    | (subst hNext; simp [Phase.Connected])
    | (rcases hNext with ⟨-, rfl⟩; simp [Phase.Connected])

theorem disconnected_not_connected
    {phase phase' : Phase}
    (hPhase : phase.disconnected = some phase') :
    ¬ phase'.Connected := by
  cases phase <;> simp [Phase.disconnected] at hPhase <;>
    subst hPhase <;> exact id

namespace TargetConnected

variable {σ : Type}
variable {sys : System σ}
variable {s t : State σ}

/- The series of a client's target says how it stands. -/
def State.Says
    (s : State σ)
    (c : DialLoop.Client) : Prop :=
  s.gauge c.target =
    some (connectedValue (decide c.phase.Connected))

/-
  Targets are as they were; the series of a client that has
  begun is right, and one that has not is not connected.
-/
structure Accounted
    (targets : List Bytes)
    (s : State σ) : Prop where
  targets :
    s.loop.clients.map (fun c => c.target) = targets
  begun :
    ∀ i c, s.loop.clients[i]? = some c →
      s.begun i = true → s.Says c
  unbegun :
    ∀ i c, s.loop.clients[i]? = some c →
      s.begun i = false → ¬ c.phase.Connected

/- A property of the daemon as long as it lives. -/
def AccountedState
    (targets : List Bytes)
    (s : State σ) : Prop :=
  s.loop.core.process.isSome = true → Accounted targets s

theorem targets_moved
    {loop : Consensus.DialLoop.State σ}
    {i : Nat}
    {c : DialLoop.Client}
    (hi : loop.clients[i]? = some c)
    (phase : Phase) :
    (loop.moved i c phase).clients.map
        (fun c => c.target) =
      loop.clients.map (fun c => c.target) := by
  rcases List.getElem?_eq_some_iff.mp hi with ⟨hLt, rfl⟩
  have hMapped :
      i < (loop.clients.map (fun c => c.target)).length := by
    simpa using hLt
  have hSame := List.set_getElem_self hMapped
  rw [List.getElem_map] at hSame
  rw [Consensus.DialLoop.State.moved, List.map_set]
  exact hSame

/- Two clients of one target are one client. -/
theorem Accounted.client_eq
    {targets : List Bytes}
    (h : Accounted targets s)
    (hDistinct : targets.Nodup)
    {i j : Nat}
    {c d : DialLoop.Client}
    (hi : s.loop.clients[i]? = some c)
    (hj : s.loop.clients[j]? = some d)
    (hSame : c.target = d.target) :
    i = j := by
  rcases List.getElem?_eq_some_iff.mp hi with ⟨hiLt, rfl⟩
  rcases List.getElem?_eq_some_iff.mp hj with ⟨hjLt, rfl⟩
  have hNodup :
      (s.loop.clients.map (fun c => c.target)).Nodup :=
    h.targets ▸ hDistinct
  have hiMap :
      i < (s.loop.clients.map (fun c => c.target)).length := by
    simpa using hiLt
  have hjMap :
      j < (s.loop.clients.map (fun c => c.target)).length := by
    simpa using hjLt
  have hEq :
      (s.loop.clients.map (fun c => c.target))[i] =
        (s.loop.clients.map (fun c => c.target))[j] := by
    rw [List.getElem_map, List.getElem_map]
    exact hSame
  exact (List.Nodup.getElem_inj_iff hNodup).mp hEq

/-
  The client `i` goes on to `phase`, and the metric with it;
  the series of the other targets stay.
-/
theorem Accounted.moved
    {targets : List Bytes}
    (h : Accounted targets s)
    (hDistinct : targets.Nodup)
    {i : Nat}
    {c : DialLoop.Client}
    {phase : Phase}
    (hi : s.loop.clients[i]? = some c)
    (hBegun : s.begun i = true)
    (hClients :
      t.loop.clients = (s.loop.moved i c phase).clients)
    (hSameBegun : t.begun = s.begun)
    (hOthers :
      ∀ target, target ≠ c.target →
        t.gauge target = s.gauge target)
    (hSays : t.Says ⟨c.target, phase⟩) :
    Accounted targets t where
  targets := by
    rw [hClients, targets_moved hi]
    exact h.targets
  begun := by
    intro j d hj hd
    rw [hClients, Consensus.DialLoop.moved_getElem? hi] at hj
    split at hj
    · cases hj
      exact hSays
    · rename_i hNe
      have hOther : d.target ≠ c.target := by
        intro hSame
        exact hNe (h.client_eq hDistinct hi hj hSame.symm)
      rw [State.Says, hOthers d.target hOther]
      exact h.begun j d hj (hSameBegun ▸ hd)
  unbegun := by
    intro j d hj hd
    rw [hClients, Consensus.DialLoop.moved_getElem? hi] at hj
    rw [hSameBegun] at hd
    split at hj
    · rename_i hEq
      rw [← hEq, hBegun] at hd
      cases hd
    · exact h.unbegun j d hj hd

/- A client begins, and its series with it. -/
theorem begin_accounted
    {targets : List Bytes}
    (h : Accounted targets s)
    (hDistinct : targets.Nodup)
    {i : Nat}
    {c : DialLoop.Client}
    (hi : s.loop.clients[i]? = some c)
    (hNew : s.begun i = false) :
    Accounted targets
      { s with
        begun := Function.update s.begun i true
        gauge :=
          setTargetConnected s.gauge c.target false } := by
  refine ⟨h.targets, ?_, ?_⟩
  · intro j d hj hd
    by_cases hji : j = i
    · subst hji
      cases hi.symm.trans hj
      have hIdle := h.unbegun j c hi hNew
      simp [State.Says, setTargetConnected, hIdle,
        connectedValue]
    · have hOther : d.target ≠ c.target := by
        intro hSame
        exact hji (h.client_eq hDistinct hj hi hSame)
      simp only [Function.update_of_ne hji] at hd
      have hSays := h.begun j d hj hd
      simpa [State.Says, setTargetConnected, hOther]
        using hSays
  · intro j d hj hd
    by_cases hji : j = i
    · subst hji
      simp at hd
    · simp only [Function.update_of_ne hji] at hd
      exact h.unbegun j d hj hd

/- The client of a step that leaves the metric alone. -/
theorem kept_accounted
    {targets : List Bytes}
    (h : Accounted targets s)
    (hDistinct : targets.Nodup)
    {i : Nat}
    {c : DialLoop.Client}
    {phase : Phase}
    (hi : s.loop.clients[i]? = some c)
    (hBegun : s.begun i = true)
    (hClients :
      t.loop.clients = (s.loop.moved i c phase).clients)
    (hSameBegun : t.begun = s.begun)
    (hGauge : t.gauge = s.gauge)
    (hConnected : phase.Connected ↔ c.phase.Connected) :
    Accounted targets t := by
  refine h.moved hDistinct hi hBegun hClients hSameBegun
    (fun _ _ => by rw [hGauge]) ?_
  have hSays := h.begun i c hi hBegun
  simpa [State.Says, hGauge, hConnected] using hSays

end TargetConnected

end Metrics

end BridgeSigner

------------------------------------------------------------
-- The Metric Over Whole Runs
------------------------------------------------------------

namespace BridgeSigner

namespace Metrics

open Consensus (System Phase Move PathEntry DialLoop.Client)

namespace TargetConnected

variable {σ : Type}
variable {sys : System σ}
variable {s t : State σ}
variable {targets : List Bytes}

/- A dial that succeeded, and what `onState` then sets. -/
theorem move_accounted
    (h : Accounted targets s)
    (hDistinct : targets.Nodup)
    {i : Nat}
    {c : DialLoop.Client}
    {m : Move}
    {phase : Phase}
    (hi : s.loop.clients[i]? = some c)
    (hBegun : s.begun i = true)
    (hNext :
      c.phase.next s.loop.cancelled m = some phase) :
    Accounted targets
      ⟨s.loop.moved i c phase, s.begun,
        gaugeAfter s (.move i m)⟩ := by
  have hConnected := next_connected_iff hNext
  by_cases hDialed : m = .dialed
  · subst hDialed
    have hNow : phase.Connected :=
      hConnected.mpr (Or.inl rfl)
    refine h.moved hDistinct hi hBegun rfl rfl ?_ ?_
    · intro target hOther
      simp [gaugeAfter, setTargetConnected, targetOf, hi,
        hOther]
    · simp [State.Says, gaugeAfter, setTargetConnected,
        targetOf, hi, hNow, connectedValue]
  · have hGauge : gaugeAfter s (.move i m) = s.gauge := by
      cases m <;> first | rfl | exact absurd rfl hDialed
    refine kept_accounted h hDistinct hi hBegun rfl rfl
      hGauge ?_
    rw [hConnected]
    simp [hDialed]

theorem disconnect_accounted
    (h : Accounted targets s)
    (hDistinct : targets.Nodup)
    {i : Nat}
    {c : DialLoop.Client}
    {phase : Phase}
    (hi : s.loop.clients[i]? = some c)
    (hBegun : s.begun i = true)
    (hPhase : c.phase.disconnected = some phase)
    (core : Consensus.DialRun.State σ) :
    Accounted targets
      ⟨(s.loop.moved i c phase).shared core, s.begun,
        gaugeAfter s (.disconnect i)⟩ := by
  have hNot := disconnected_not_connected hPhase
  refine h.moved hDistinct hi hBegun rfl rfl ?_ ?_
  · intro target hOther
    simp [gaugeAfter, setTargetConnected, targetOf, hi,
      hOther]
  · simp [State.Says, gaugeAfter, setTargetConnected,
      targetOf, hi, hNot, connectedValue]

/- A process that is there after a step was there before. -/
theorem alive_before
    {e : Consensus.DialLoop.Event}
    {loop : Consensus.DialLoop.State σ}
    (hPermits : s.permits e = true)
    (hTrans :
      Consensus.DialLoop.Transition sys s.loop e loop)
    (hAlive : loop.core.process.isSome = true) :
    s.loop.core.process.isSome = true := by
  have hAt :
      ∀ {i p c},
        s.loop.atClient i = some (p, c) →
          s.loop.core.process.isSome = true := by
    intro i p c hAt
    rw [(Consensus.DialLoop.atClient_eq_some hAt).1]
    rfl
  cases hTrans with
  | move hIs hNext => exact hAt hIs
  | disconnect hIs hPhase hCore => exact hAt hIs
  | gate now hIs hPhase hCore => exact hAt hIs
  | enter hIs hPhase hCore => exact hAt hIs
  | save hIs hPhase hCore => exact hAt hIs
  | cancel => exact hAlive
  | crash landed hCore => cases hPermits
  | restart hCore => cases hPermits

/- A step of the loops that does not end the process. -/
theorem loop_accounted
    {e : Consensus.DialLoop.Event}
    {loop : Consensus.DialLoop.State σ}
    (hDistinct : targets.Nodup)
    (hPermits : s.permits e = true)
    (hTrans :
      Consensus.DialLoop.Transition sys s.loop e loop)
    (hAlive : loop.core.process.isSome = true)
    (h : Accounted targets s) :
    Accounted targets ⟨loop, s.begun, gaugeAfter s e⟩ := by
  cases hTrans with
  | move hAt hNext =>
      have hi := (Consensus.DialLoop.atClient_eq_some hAt).2
      exact move_accounted h hDistinct hi hPermits hNext
  | disconnect hAt hPhase hCore =>
      have hi := (Consensus.DialLoop.atClient_eq_some hAt).2
      exact disconnect_accounted h hDistinct hi hPermits
        hPhase _
  | @gate i p c req core now hAt hPhase hCore =>
      rcases Consensus.DialLoop.atClient_eq_some hAt with
        ⟨hProcess, hi⟩
      refine kept_accounted h hDistinct hi hPermits rfl rfl
        rfl ?_
      simp only [Consensus.DialRun.step, hProcess] at hCore
      rw [hPhase]
      cases hPlan :
          (sys.handle p.arbiter c.target now req).1 with
      | none =>
          -- A panic in the gate ends the process.
          have hPair :
              sys.handle p.arbiter c.target now req =
                (none,
                  (sys.handle p.arbiter c.target now
                    req).2) :=
            Prod.ext hPlan rfl
          rw [hPair] at hCore
          cases hCore
          cases hAlive
      | some plan =>
          exact iff_of_true
            (Phase.afterGate_connected req plan) trivial
  | @enter i p c req core hAt hPhase hCore =>
      rcases Consensus.DialLoop.atClient_eq_some hAt with
        ⟨hProcess, hi⟩
      refine kept_accounted h hDistinct hi hPermits rfl rfl
        rfl ?_
      simp only [Consensus.DialRun.step, hProcess] at hCore
      rw [hPhase]
      split at hCore
      · cases hEntered :
            (sys.handler req).enter sys.lib sys.chainID
              p.memory with
        | panic =>
            rw [hEntered] at hCore
            cases hCore
            cases hAlive
        | done reply => exact iff_of_true trivial trivial
        | saving st reply =>
            exact iff_of_true trivial trivial
      · cases hCore
  | save hAt hPhase hCore =>
      have hi := (Consensus.DialLoop.atClient_eq_some hAt).2
      refine kept_accounted h hDistinct hi hPermits rfl rfl
        rfl ?_
      rw [hPhase]
      exact iff_of_true trivial trivial
  | cancel => exact ⟨h.targets, h.begun, h.unbegun⟩
  | crash landed hCore => cases hPermits
  | restart hCore => cases hPermits

theorem transition_accounted
    {e : Event}
    (hDistinct : targets.Nodup)
    (hTrans : Transition sys s e t)
    (h : AccountedState targets s) :
    AccountedState targets t := by
  intro hAlive
  cases hTrans with
  | begin hAt hNew =>
      have hi := (Consensus.DialLoop.atClient_eq_some hAt).2
      exact begin_accounted (h hAlive) hDistinct hi hNew
  | loop hPermits hLoop =>
      exact loop_accounted hDistinct hPermits hLoop hAlive
        (h (alive_before hPermits hLoop hAlive))

/- The clients of a process that has just started. -/
theorem restarted_clients
    {file : PathEntry}
    {loop : Consensus.DialLoop.State σ}
    (hStart :
      Consensus.DialLoop.step sys
          (Consensus.DialLoop.State.initial file targets)
          .restart =
        some loop) :
    loop.clients =
        targets.map (fun target => ⟨target, .idle⟩) ∧
      loop.cancelled = false ∧
      loop.core.process.isSome = true := by
  cases Consensus.DialLoop.step_transition hStart with
  | restart hCore =>
      refine ⟨?_, rfl, ?_⟩
      · simp [Consensus.DialLoop.State.initial,
          Function.comp_def]
      · simp only [Consensus.DialRun.step,
          Consensus.DialLoop.State.initial,
          Consensus.DialRun.State.initial] at hCore
        split at hCore
        · cases hCore
        · cases hCore
          rfl

theorem accounted_initial
    {file : PathEntry}
    {loop : Consensus.DialLoop.State σ}
    (hStart :
      Consensus.DialLoop.step sys
          (Consensus.DialLoop.State.initial file targets)
          .restart =
        some loop) :
    AccountedState targets (State.initial loop) := by
  intro _
  rcases restarted_clients hStart with ⟨hClients, -, -⟩
  refine ⟨?_, ?_, ?_⟩
  · simp [State.initial, hClients, Function.comp_def]
  · intro i c _ hBegun
    cases hBegun
  · intro i c hi _
    have hMem := List.mem_of_getElem? hi
    rw [State.initial, hClients] at hMem
    rcases List.mem_map.mp hMem with ⟨target, -, rfl⟩
    exact id

theorem run_accounted
    (hDistinct : targets.Nodup)
    {file : PathEntry}
    {loop : Consensus.DialLoop.State σ}
    (hStart :
      Consensus.DialLoop.step sys
          (Consensus.DialLoop.State.initial file targets)
          .restart =
        some loop)
    {es : List Event}
    (hRun :
      (machine sys).run (State.initial loop) es = some t) :
    AccountedState targets t :=
  Machine.run_invariant (P := AccountedState targets)
    (fun _ _ _ hStep h =>
      transition_accounted hDistinct (step_transition hStep)
        h)
    hRun (accounted_initial hStart)

/-
  The series of a target with a client that has begun is 1 if
  a client of the target is connected, and 0 if none is.
-/
def State.Shows
    (s : State σ) : Prop :=
  ∀ i c, s.loop.clients[i]? = some c → s.begun i = true →
    (s.gauge c.target = some 1 ∧ s.loop.Serving c.target) ∨
      (s.gauge c.target = some 0 ∧
        ¬ s.loop.Serving c.target)

theorem Accounted.shows
    (h : Accounted targets s)
    (hDistinct : targets.Nodup) :
    s.Shows := by
  intro i c hi hBegun
  have hSays := h.begun i c hi hBegun
  by_cases hConnected : c.phase.Connected
  · left
    refine ⟨?_, i, c, hi, rfl, hConnected⟩
    simpa [State.Says, hConnected, connectedValue] using
      hSays
  · right
    refine ⟨?_, ?_⟩
    · simpa [State.Says, hConnected, connectedValue] using
        hSays
    · rintro ⟨j, d, hj, hTarget, hServed⟩
      have hSame := h.client_eq hDistinct hj hi hTarget
      subst hSame
      cases hi.symm.trans hj
      exact hConnected hServed

/- One client connects; then the other begins. -/
def overwrittenRun
    (i j : Nat) : List Event :=
  [.begin i, .loop (.move i .dial), .loop (.move i .dialed),
    .begin j]

theorem step_begin
    (sys : System σ)
    {i : Nat}
    {p : Consensus.DialRun.Process σ}
    {c : DialLoop.Client}
    (hAt : s.loop.atClient i = some (p, c))
    (hNew : s.begun i = false) :
    step sys s (.begin i) =
      some
        { s with
          begun := Function.update s.begun i true
          gauge :=
            setTargetConnected s.gauge c.target false } := by
  simp only [step, hAt, hNew, Bool.false_eq_true, if_false]

theorem step_move
    (sys : System σ)
    {i : Nat}
    {m : Move}
    {p : Consensus.DialRun.Process σ}
    {c : DialLoop.Client}
    {phase : Phase}
    (hAt : s.loop.atClient i = some (p, c))
    (hBegun : s.begun i = true)
    (hNext :
      c.phase.next s.loop.cancelled m = some phase) :
    step sys s (.loop (.move i m)) =
      some ⟨s.loop.moved i c phase, s.begun,
        gaugeAfter s (.move i m)⟩ := by
  simp only [step, State.permits, hBegun, if_true,
    Consensus.DialLoop.step, hAt, hNext,
    Option.bind_eq_bind, Option.bind_some, Option.map_some]

theorem atClient_of
    {loop : Consensus.DialLoop.State σ}
    {p : Consensus.DialRun.Process σ}
    {i : Nat}
    {c : DialLoop.Client}
    (hi : loop.clients[i]? = some c)
    (hProcess : loop.core.process = some p) :
    loop.atClient i = some (p, c) := by
  simp only [Consensus.DialLoop.State.atClient, hProcess, hi]

theorem overwrittenRun_result
    {loop : Consensus.DialLoop.State σ}
    {i j : Nat}
    {target : Bytes}
    (hProcess : loop.core.process.isSome = true)
    (hContext : loop.cancelled = false)
    (hNe : i ≠ j)
    (hi : loop.clients[i]? = some ⟨target, .idle⟩)
    (hj : loop.clients[j]? = some ⟨target, .idle⟩) :
    ∃ t,
      (machine sys).run (State.initial loop)
          (overwrittenRun i j) = some t ∧
        t.loop.core.process.isSome = true ∧
        t.loop.clients[i]? = some ⟨target, .reading⟩ ∧
        t.begun i = true ∧ t.gauge target = some 0 := by
  rcases Option.isSome_iff_exists.mp hProcess with
    ⟨p, hAlive⟩
  -- The client `i` after its dial, and the others.
  have hDialing :
      ∀ k,
        (loop.moved i ⟨target, .idle⟩ .dialing).clients[k]? =
          if i = k then some ⟨target, .dialing⟩
          else loop.clients[k]? :=
    Consensus.DialLoop.moved_getElem? hi .dialing
  have hFirst :
      (loop.moved i ⟨target, .idle⟩ .dialing).clients[i]? =
        some ⟨target, .dialing⟩ := by
    rw [hDialing, if_pos rfl]
  have hReading :
      ∀ k,
        ((loop.moved i ⟨target, .idle⟩ .dialing).moved i
            ⟨target, .dialing⟩ .reading).clients[k]? =
          if i = k then some ⟨target, .reading⟩
          else
            (loop.moved i ⟨target, .idle⟩
              .dialing).clients[k]? :=
    Consensus.DialLoop.moved_getElem? hFirst .reading
  have hSecond :
      ((loop.moved i ⟨target, .idle⟩ .dialing).moved i
          ⟨target, .dialing⟩ .reading).clients[j]? =
        some ⟨target, .idle⟩ := by
    rw [hReading, if_neg hNe, hDialing, if_neg hNe, hj]
  have hAtDialing :
      (loop.moved i ⟨target, .idle⟩ .dialing).atClient i =
        some (p, ⟨target, .dialing⟩) :=
    atClient_of hFirst hAlive
  have hAtSecond :
      ((loop.moved i ⟨target, .idle⟩ .dialing).moved i
          ⟨target, .dialing⟩ .reading).atClient j =
        some (p, ⟨target, .idle⟩) :=
    atClient_of hSecond hAlive
  have hBegun :
      Function.update (fun _ => false) i true i = true :=
    Function.update_self _ _ _
  have hNew :
      Function.update (fun _ => false) i true j = false :=
    Function.update_of_ne hNe.symm _ _
  refine ⟨_, ((machine sys).run_cons_iff _ _ _ _).mpr
    ⟨_, step_begin sys (s := State.initial loop)
      (atClient_of hi hAlive) rfl,
    ((machine sys).run_cons_iff _ _ _ _).mpr
    ⟨_, step_move sys (atClient_of hi hAlive) hBegun
      (if_neg (by simp [State.initial, hContext])),
    ((machine sys).run_cons_iff _ _ _ _).mpr
    ⟨_, step_move sys hAtDialing hBegun rfl,
    ((machine sys).run_cons_iff _ _ _ _).mpr
    ⟨_, step_begin sys hAtSecond hNew,
      rfl⟩⟩⟩⟩, hProcess, ?_, ?_, ?_⟩
  · exact (hReading i).trans (if_pos rfl)
  · exact (Function.update_of_ne hNe _ _).trans hBegun
  · exact Function.update_self _ _ _

/-
  The metric shows the connections in every state of every
  run exactly if no target is listed twice.
-/
theorem shows_connections_iff
    (sys : System σ)
    (file : PathEntry)
    (targets : List Bytes)
    (loop : Consensus.DialLoop.State σ)
    (hStart :
      Consensus.DialLoop.step sys
          (Consensus.DialLoop.State.initial file targets)
          .restart =
        some loop) :
    (∀ es t,
        (machine sys).run (State.initial loop) es = some t →
          t.loop.core.process.isSome = true → t.Shows) ↔
      targets.Nodup := by
  constructor
  · intro hShows
    by_contra hTwice
    rcases restarted_clients hStart with
      ⟨hClients, hContext, hProcess⟩
    have hPair :
        ∃ i j, ∃ hi : i < targets.length,
          ∃ hj : j < targets.length,
            i < j ∧ targets[i] = targets[j] := by
      by_contra hNone
      apply hTwice
      rw [List.nodup_iff_pairwise_ne,
        List.pairwise_iff_getElem]
      intro i j hi hj hLt hSame
      exact hNone ⟨i, j, hi, hj, hLt, hSame⟩
    rcases hPair with ⟨i, j, hi, hj, hLt, hSame⟩
    have hFirst :
        loop.clients[i]? = some ⟨targets[i], .idle⟩ := by
      rw [hClients, List.getElem?_map,
        List.getElem?_eq_getElem hi]
      rfl
    have hSecond :
        loop.clients[j]? = some ⟨targets[i], .idle⟩ := by
      rw [hClients, List.getElem?_map,
        List.getElem?_eq_getElem hj, hSame]
      rfl
    rcases overwrittenRun_result hProcess hContext
        (Nat.ne_of_lt hLt) hFirst hSecond with
      ⟨t, hRun, hAlive, hReading, hBegun, hGauge⟩
    rcases hShows _ t hRun hAlive i _ hReading hBegun with
      ⟨hOne, -⟩ | ⟨-, hNobody⟩
    · rw [hGauge] at hOne
      cases hOne
    · exact hNobody ⟨i, _, hReading, rfl, trivial⟩
  · intro hDistinct es t hRun hAlive
    exact (run_accounted hDistinct hStart hRun
      hAlive).shows hDistinct

theorem sample_shows_connections :
    ∃ loop,
      Consensus.DialLoop.step
            Consensus.DialRun.sampleSystem
            (Consensus.DialLoop.State.initial
              (.file Consensus.freshStateJSON)
              Consensus.DialLoop.sampleTargets)
            .restart =
          some loop ∧
        ∀ es t,
          (machine Consensus.DialRun.sampleSystem).run
              (State.initial loop) es = some t →
            t.loop.core.process.isSome = true → t.Shows := by
  have hStarts :
      (Consensus.DialLoop.step
          Consensus.DialRun.sampleSystem
          (Consensus.DialLoop.State.initial
            (.file Consensus.freshStateJSON)
            Consensus.DialLoop.sampleTargets)
          .restart).isSome = true := by
    decide +kernel
  rcases Option.isSome_iff_exists.mp hStarts with
    ⟨loop, hStart⟩
  exact ⟨loop, hStart,
    (shows_connections_iff Consensus.DialRun.sampleSystem _ _
      loop hStart).mpr (by decide +kernel)⟩

end TargetConnected

end Metrics

end BridgeSigner
