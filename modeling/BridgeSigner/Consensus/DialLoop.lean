import BridgeSigner.Consensus.DialRun

/-
  The loops of the dial clients (consensus/server.go):
  `RunDialClient`, `runDialClient` and `serveConn`.

  Every client dials its target, serves the connection and
  starts over, until the context is cancelled. Any number of
  clients run side by side, also for one target, and share
  the arbiter and the locked private validator of `DialRun`.
  A dial, a read or a write may fail at any time. `onState`
  releases the role when a dial has failed and when a
  connection has been served.

  Key definitions include:
    * `Phase`, `Move`
    * `DialLoop.step`
    * `Phase.Connected`

  Main results:
    * `DialLoop.step_transition`
    * `DialLoop.simulates_dialRun`
-/

------------------------------------------------------------
-- Phases
------------------------------------------------------------

namespace BridgeSigner

namespace Consensus

/-
  Where the loop of a client stands. A request is read, then
  handled: it waits for the mutex behind the gate, and its
  state is saved under it; then the response is written.
-/
inductive Phase where
| idle
| dialing
| failed
| backoff
| reading
| handling (req : Message)
| waiting (req : Message)
| saving
| writing
| closing
| pausing
| stopped
  deriving DecidableEq

/- What a client does without touching anything shared. -/
inductive Move where
| dial
| dialed
| dialFailed
| retry
| read (req : Message)
| readFailed
| written
| writeFailed
| resume
| stop
  deriving DecidableEq

/-
  The phase after a move. The loop looks at the context
  before it dials and while it waits; elsewhere it goes on,
  and a closed connection fails its next read or write.
-/
def Phase.next
    (cancelled : Bool) :
    Phase → Move → Option Phase
| .idle, .dial => if cancelled then none else some .dialing
| .idle, .stop => if cancelled then some .stopped else none
| .dialing, .dialed => some .reading
| .dialing, .dialFailed => some .failed
| .backoff, .retry => some .idle
| .backoff, .stop =>
    if cancelled then some .stopped else none
| .reading, .read req => some (.handling req)
| .reading, .readFailed => some .closing
| .writing, .written => some .reading
| .writing, .writeFailed => some .closing
| .pausing, .resume => some .idle
| .pausing, .stop =>
    if cancelled then some .stopped else none
| _, _ => none

/- The phase after `onState(false)`, where it is called. -/
def Phase.disconnected : Phase → Option Phase
| .failed => some .backoff
| .closing => some .pausing
| _ => none

/- The phase after the gate has let a plan through or not. -/
def Phase.afterGate
    (req : Message) :
    Option Plan → Phase
| none => .stopped
| some (.answer _) => .writing
| some _ => .waiting req

/- The phase after a call of the private validator. -/
def Phase.afterEnter : Entered → Phase
| .panic => .stopped
| .done _ => .writing
| .saving _ _ => .saving

/-
  From the successful dial to the end of the `onState(false)`
  that follows `serveConn`.
-/
def Phase.Connected : Phase → Prop
| .reading => True
| .handling _ => True
| .waiting _ => True
| .saving => True
| .writing => True
| .closing => True
| _ => False

instance : DecidablePred Phase.Connected := fun phase => by
  cases phase <;> unfold Phase.Connected <;> infer_instance

/- A plan that calls `SignVote` or `SignProposal`. -/
def Plan.signs : Plan → Bool
| .signVote _ _ => true
| .signProposal _ _ => true
| _ => false

end Consensus

end BridgeSigner

------------------------------------------------------------
-- The Machine
------------------------------------------------------------

namespace BridgeSigner

namespace Consensus

namespace DialLoop

/- A client and where it stands. -/
structure Client where
  target : Bytes
  phase : Phase
  deriving DecidableEq

/-
  What is worth remembering: a sign request that the arbiter
  granted, and a call of `SignVote` or `SignProposal`, by the
  number of the client and its target.
-/
inductive Entry where
| granted (client : Nat) (target : Bytes)
| signed (client : Nat) (target : Bytes)
  deriving DecidableEq, Repr

/- The shared signer, the clients and what has happened. -/
structure State (σ : Type) where
  core : DialRun.State σ
  clients : List Client
  cancelled : Bool
  log : List Entry

inductive Event where
| move (i : Nat) (m : Move)
| disconnect (i : Nat)
| gate (i : Nat) (now : Instant)
| enter (i : Nat)
| save (i : Nat)
| cancel
| crash (landed : Bool)
| restart

variable {σ : Type}

/- Nothing runs yet; there is a client for every target. -/
def State.initial
    (file : PathEntry)
    (targets : List Bytes) : State σ where
  core := DialRun.State.initial file
  clients := targets.map (fun target => ⟨target, .idle⟩)
  cancelled := false
  log := []

namespace State

variable (s : State σ)

/- The process, with the client of this number. -/
def atClient
    (i : Nat) : Option (DialRun.Process σ × Client) :=
  match s.core.process, s.clients[i]? with
  | some p, some c => some (p, c)
  | _, _ => none

/- The client moves on. -/
def moved
    (i : Nat)
    (c : Client)
    (phase : Phase) : State σ :=
  { s with clients := s.clients.set i ⟨c.target, phase⟩ }

/- The shared signer changes. -/
def shared
    (core : DialRun.State σ) : State σ :=
  { s with core := core }

/- Something is remembered. -/
def noted
    (entries : List Entry) : State σ :=
  { s with log := entries ++ s.log }

end State

variable (sys : System σ)

/- The grant of a request, if it was one. -/
def grantEntry
    (a : σ)
    (i : Nat)
    (target : Bytes)
    (now : Instant)
    (req : Message) : List Entry :=
  match sys.arbiter, notPrimaryResponse req with
  | some arbiter, .sign _ height =>
      if (arbiter.acquire a target height now).1 then
        [.granted i target]
      else
        []
  | _, _ => []

/- The call of a sign method, if it is one. -/
def signEntry
    (i : Nat)
    (target : Bytes)
    (req : Message) : List Entry :=
  if (sys.handler req).signs then [.signed i target] else []

/- `onState(false)`: the role is released, if there is one. -/
def released
    (core : DialRun.State σ)
    (target : Bytes) : Option (DialRun.State σ) :=
  match sys.arbiter with
  | none => some core
  | some _ => DialRun.step sys core (.release target)

/- One event; `none` when it is not enabled. -/
def step
    (s : State σ) :
    Event → Option (State σ)
| .move i m => do
    let (_, c) ← s.atClient i
    let phase ← c.phase.next s.cancelled m
    some (s.moved i c phase)
| .disconnect i => do
    let (_, c) ← s.atClient i
    let phase ← c.phase.disconnected
    let core ← released sys s.core c.target
    some ((s.moved i c phase).shared core)
| .gate i now => do
    let (p, c) ← s.atClient i
    match c.phase with
    | .handling req =>
        let core ← DialRun.step sys s.core
          (.arrive c.target req now)
        let handled := sys.handle p.arbiter c.target now req
        some (((s.moved i c
            (.afterGate req handled.1)).shared core).noted
              (grantEntry sys p.arbiter i c.target now req))
    | _ => none
| .enter i => do
    let (p, c) ← s.atClient i
    match c.phase with
    | .waiting req =>
        let core ← DialRun.step sys s.core
          (.enter c.target req)
        let entered := (sys.handler req).enter sys.lib
          sys.chainID p.memory
        some (((s.moved i c
            (.afterEnter entered)).shared core).noted
              (signEntry sys i c.target req))
    | _ => none
| .save i => do
    let (_, c) ← s.atClient i
    match c.phase with
    | .saving =>
        let core ← DialRun.step sys s.core .save
        some ((s.moved i c .writing).shared core)
    | _ => none
| .cancel => some { s with cancelled := true }
| .crash landed => do
    let core ← DialRun.step sys s.core (.crash landed)
    some (s.shared core)
| .restart => do
    let core ← DialRun.step sys s.core .restart
    some
      { s with
        core := core
        clients :=
          s.clients.map (fun c => ⟨c.target, .idle⟩)
        cancelled := false }

def machine : Machine (State σ) Event where
  step := step sys

end DialLoop

end Consensus

end BridgeSigner

------------------------------------------------------------
-- What A Step Can Do
------------------------------------------------------------

namespace BridgeSigner

namespace Consensus

namespace DialLoop

variable {σ : Type}
variable {sys : System σ}
variable {s t : State σ}

/- The enabled events, with the states they lead to. -/
inductive Transition
    (sys : System σ)
    (s : State σ) :
    Event → State σ → Prop where
| move
    {i : Nat}
    {m : Move}
    {p : DialRun.Process σ}
    {c : Client}
    {phase : Phase}
    (hAt : s.atClient i = some (p, c))
    (hNext : c.phase.next s.cancelled m = some phase) :
    Transition sys s (.move i m) (s.moved i c phase)
| disconnect
    {i : Nat}
    {p : DialRun.Process σ}
    {c : Client}
    {phase : Phase}
    {core : DialRun.State σ}
    (hAt : s.atClient i = some (p, c))
    (hPhase : c.phase.disconnected = some phase)
    (hCore : released sys s.core c.target = some core) :
    Transition sys s (.disconnect i)
      ((s.moved i c phase).shared core)
| gate
    {i : Nat}
    {p : DialRun.Process σ}
    {c : Client}
    {req : Message}
    {core : DialRun.State σ}
    (now : Instant)
    (hAt : s.atClient i = some (p, c))
    (hPhase : c.phase = .handling req)
    (hCore :
      DialRun.step sys s.core (.arrive c.target req now) =
        some core) :
    Transition sys s (.gate i now)
      (((s.moved i c
          (.afterGate req
            (sys.handle p.arbiter c.target now
              req).1)).shared core).noted
        (grantEntry sys p.arbiter i c.target now req))
| enter
    {i : Nat}
    {p : DialRun.Process σ}
    {c : Client}
    {req : Message}
    {core : DialRun.State σ}
    (hAt : s.atClient i = some (p, c))
    (hPhase : c.phase = .waiting req)
    (hCore :
      DialRun.step sys s.core (.enter c.target req) =
        some core) :
    Transition sys s (.enter i)
      (((s.moved i c
          (.afterEnter ((sys.handler req).enter sys.lib
            sys.chainID p.memory))).shared core).noted
        (signEntry sys i c.target req))
| save
    {i : Nat}
    {p : DialRun.Process σ}
    {c : Client}
    {core : DialRun.State σ}
    (hAt : s.atClient i = some (p, c))
    (hPhase : c.phase = .saving)
    (hCore : DialRun.step sys s.core .save = some core) :
    Transition sys s (.save i)
      ((s.moved i c .writing).shared core)
| cancel :
    Transition sys s .cancel { s with cancelled := true }
| crash
    {core : DialRun.State σ}
    (landed : Bool)
    (hCore :
      DialRun.step sys s.core (.crash landed) = some core) :
    Transition sys s (.crash landed) (s.shared core)
| restart
    {core : DialRun.State σ}
    (hCore : DialRun.step sys s.core .restart = some core) :
    Transition sys s .restart
      { s with
        core := core
        clients :=
          s.clients.map (fun c => ⟨c.target, .idle⟩)
        cancelled := false }

theorem step_transition
    {e : Event}
    (hStep : step sys s e = some t) :
    Transition sys s e t := by
  cases e with
  | move i m =>
      rcases Option.bind_eq_some_iff.mp hStep with
        ⟨⟨p, c⟩, hAt, hStep⟩
      rcases Option.bind_eq_some_iff.mp hStep with
        ⟨phase, hNext, hSome⟩
      cases hSome
      exact .move hAt hNext
  | disconnect i =>
      rcases Option.bind_eq_some_iff.mp hStep with
        ⟨⟨p, c⟩, hAt, hStep⟩
      rcases Option.bind_eq_some_iff.mp hStep with
        ⟨phase, hPhase, hStep⟩
      rcases Option.bind_eq_some_iff.mp hStep with
        ⟨core, hCore, hSome⟩
      cases hSome
      exact .disconnect hAt hPhase hCore
  | gate i now =>
      rcases Option.bind_eq_some_iff.mp hStep with
        ⟨⟨p, c⟩, hAt, hStep⟩
      simp only at hStep
      split at hStep
      · rcases Option.bind_eq_some_iff.mp hStep with
          ⟨core, hCore, hSome⟩
        cases hSome
        exact .gate now hAt ‹_› hCore
      · cases hStep
  | enter i =>
      rcases Option.bind_eq_some_iff.mp hStep with
        ⟨⟨p, c⟩, hAt, hStep⟩
      simp only at hStep
      split at hStep
      · rcases Option.bind_eq_some_iff.mp hStep with
          ⟨core, hCore, hSome⟩
        cases hSome
        exact .enter hAt ‹_› hCore
      · cases hStep
  | save i =>
      rcases Option.bind_eq_some_iff.mp hStep with
        ⟨⟨p, c⟩, hAt, hStep⟩
      simp only at hStep
      split at hStep
      · rcases Option.bind_eq_some_iff.mp hStep with
          ⟨core, hCore, hSome⟩
        cases hSome
        exact .save hAt ‹_› hCore
      · cases hStep
  | cancel =>
      cases hStep
      exact .cancel
  | crash landed =>
      rcases Option.bind_eq_some_iff.mp hStep with
        ⟨core, hCore, hSome⟩
      cases hSome
      exact .crash landed hCore
  | restart =>
      rcases Option.bind_eq_some_iff.mp hStep with
        ⟨core, hCore, hSome⟩
      cases hSome
      exact .restart hCore

/- A step of the loops is at most one step of the signer. -/
theorem transition_core
    {e : Event}
    (hTrans : Transition sys s e t) :
    t.core = s.core ∨
      ∃ e', DialRun.step sys s.core e' = some t.core := by
  cases hTrans with
  | move hAt hNext => exact Or.inl rfl
  | disconnect hAt hPhase hCore =>
      unfold released at hCore
      split at hCore
      · cases hCore
        exact Or.inl rfl
      · exact Or.inr ⟨_, hCore⟩
  | gate now hAt hPhase hCore => exact Or.inr ⟨_, hCore⟩
  | enter hAt hPhase hCore => exact Or.inr ⟨_, hCore⟩
  | save hAt hPhase hCore => exact Or.inr ⟨_, hCore⟩
  | cancel => exact Or.inl rfl
  | crash landed hCore => exact Or.inr ⟨_, hCore⟩
  | restart hCore => exact Or.inr ⟨_, hCore⟩

/- The loops are runs of the shared signer. -/
theorem simulates_dialRun
    (sys : System σ) :
    Machine.Simulates (machine sys) (DialRun.machine sys)
      (fun _ => True) (fun s core => s.core = core) where
  keeps := fun _ _ _ _ _ => trivial
  matched := by
    intro s e t hStep _ core hCore
    subst hCore
    rcases transition_core (step_transition hStep) with
      hSame | ⟨e', hCoreStep⟩
    · exact ⟨s.core, Machine.Reaches.refl _ _, hSame⟩
    · exact ⟨t.core,
        Machine.Reaches.single (M := DialRun.machine sys)
          hCoreStep,
        rfl⟩

end DialLoop

end Consensus

end BridgeSigner
