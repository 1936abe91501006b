import BridgeSigner.Foundation.Potential
import BridgeSigner.Consensus.HandOver

/-
  How the dial clients come to an end (consensus/server.go).

  When the context is cancelled, `context.AfterFunc` closes
  the connection that `serveConn` is on, in a goroutine of
  its own. A read may still find a request that came before,
  and that request is handled; its response can no longer be
  written. Until the connection is closed the client serves
  on. A client that has not stopped can always go on, also
  when it waits for the mutex.

  Key definitions include:
    * `DialLoop.Linked`
    * `Drain.step`
    * `Phase.toGo`

  Main results:
    * `DialLoop.transition_linked`
    * `Drain.pays`
    * `Drain.enabled`
-/

------------------------------------------------------------
-- Clients And The Shared Signer
------------------------------------------------------------

namespace BridgeSigner

namespace Consensus

namespace DialLoop

/- What a client waits for the mutex with. -/
def Client.awaits
    (c : Client) : Option (Bytes × Message) :=
  match c.phase with
  | .waiting req => some (c.target, req)
  | _ => none

/- The client holds the mutex while its state is saved. -/
def Client.saves
    (c : Client) : Option Unit :=
  match c.phase with
  | .saving => some ()
  | _ => none

variable {σ : Type}

/-
  The clients that wait and save are those that the shared
  signer knows of.
-/
structure Linked
    (clients : List Client)
    (p : DialRun.Process σ) : Prop where
  waiting :
    (clients.filterMap Client.awaits :
      Multiset (Bytes × Message)) = p.waiting
  saving :
    (clients.filterMap Client.saves : Multiset Unit) =
      (p.critical.toList.map (fun _ => ()) : List Unit)

def LinkedState
    (s : State σ) : Prop :=
  ∀ p, s.core.process = some p → Linked s.clients p

variable {sys : System σ}
variable {s t : State σ}

/- What changes when one client moves. -/
theorem filterMap_moved
    {β : Type}
    (f : Client → Option β)
    {i : Nat}
    {c : Client}
    (hi : s.clients[i]? = some c)
    (phase : Phase) :
    ((s.moved i c phase).clients.filterMap f :
          Multiset β) + ((f c).toList : Multiset β) =
      (s.clients.filterMap f : Multiset β) +
        ((f ⟨c.target, phase⟩).toList : Multiset β) :=
  filterMap_set f hi _

/- Neither before nor after the move is there anything. -/
theorem filterMap_moved_none
    {β : Type}
    {f : Client → Option β}
    {i : Nat}
    {c : Client}
    {phase : Phase}
    (hi : s.clients[i]? = some c)
    (hBefore : f c = none)
    (hAfter : f ⟨c.target, phase⟩ = none) :
    ((s.moved i c phase).clients.filterMap f :
        Multiset β) =
      (s.clients.filterMap f : Multiset β) := by
  have hMoved := filterMap_moved f hi phase
  rw [hBefore, hAfter] at hMoved
  simpa using hMoved

theorem linkedState_of_none
    (hProcess : t.core.process = none) :
    LinkedState t := by
  intro p hp
  rw [hProcess] at hp
  cases hp

/- A move of one client that the signer does not see. -/
theorem Linked.moved
    {p p' : DialRun.Process σ}
    (h : Linked s.clients p)
    {i : Nat}
    {c : Client}
    {phase : Phase}
    (hi : s.clients[i]? = some c)
    (hBefore : c.awaits = none ∧ c.saves = none)
    (hAfter :
      Client.awaits ⟨c.target, phase⟩ = none ∧
        Client.saves ⟨c.target, phase⟩ = none)
    (hWaiting : p'.waiting = p.waiting)
    (hCritical : p'.critical = p.critical) :
    Linked (s.moved i c phase).clients p' where
  waiting := by
    rw [filterMap_moved_none hi hBefore.1 hAfter.1,
      hWaiting]
    exact h.waiting
  saving := by
    rw [filterMap_moved_none hi hBefore.2 hAfter.2,
      hCritical]
    exact h.saving

theorem next_awaits
    {cancelled : Bool}
    {c : Client}
    {m : Move}
    {phase : Phase}
    (hNext : c.phase.next cancelled m = some phase) :
    (c.awaits = none ∧ c.saves = none) ∧
      Client.awaits ⟨c.target, phase⟩ = none ∧
        Client.saves ⟨c.target, phase⟩ = none := by
  rcases c with ⟨target, old⟩
  cases old <;> cases m <;>
    simp [Phase.next] at hNext <;>
    first
    | (subst hNext; exact ⟨⟨rfl, rfl⟩, rfl, rfl⟩)
    | (rcases hNext with ⟨-, rfl⟩
       exact ⟨⟨rfl, rfl⟩, rfl, rfl⟩)

theorem disconnected_awaits
    {c : Client}
    {phase : Phase}
    (hPhase : c.phase.disconnected = some phase) :
    (c.awaits = none ∧ c.saves = none) ∧
      Client.awaits ⟨c.target, phase⟩ = none ∧
        Client.saves ⟨c.target, phase⟩ = none := by
  rcases c with ⟨target, old⟩
  cases old <;> simp [Phase.disconnected] at hPhase <;>
    subst hPhase <;> exact ⟨⟨rfl, rfl⟩, rfl, rfl⟩

/- A release only tells the arbiter. -/
theorem released_process
    {core core' : DialRun.State σ}
    {target : Bytes}
    {p : DialRun.Process σ}
    (hProcess : core.process = some p)
    (hReleased : released sys core target = some core') :
    ∃ p', core'.process = some p' ∧
      p'.waiting = p.waiting ∧ p'.critical = p.critical := by
  unfold released at hReleased
  split at hReleased
  · cases hReleased
    exact ⟨p, hProcess, rfl, rfl⟩
  · simp only [DialRun.step, hProcess] at hReleased
    split at hReleased
    · rename_i hp _
      cases hp
      cases hReleased
      exact ⟨_, rfl, rfl, rfl⟩
    · cases hReleased

/- A request has passed the gate, or was turned away. -/
theorem gate_linked
    {i : Nat}
    {p : DialRun.Process σ}
    {c : Client}
    {req : Message}
    (h : Linked s.clients p)
    (hi : s.clients[i]? = some c)
    (hPhase : c.phase = .handling req)
    (handled : Option Plan × σ)
    (log : List Entry) :
    LinkedState
      (((s.moved i c (.afterGate req handled.1)).shared
        (DialRun.afterGate s.core p c.target req
          handled)).noted log) := by
  rcases c with ⟨target, old⟩
  cases hPhase
  rcases handled with ⟨plan, a⟩
  intro q hq
  cases plan with
  | none => cases hq
  | some plan =>
      have hStays :
          ∀ phase,
            Client.awaits ⟨target, phase⟩ = none ∧
                Client.saves ⟨target, phase⟩ = none →
              Linked
                (s.moved i ⟨target, .handling req⟩
                  phase).clients
                { p with arbiter := a } :=
        fun phase hAfter =>
          h.moved hi ⟨rfl, rfl⟩ hAfter rfl rfl
      have hWaits :
          Linked
            (s.moved i ⟨target, .handling req⟩
              (.waiting req)).clients
            { p with
              arbiter := a
              waiting := (target, req) :: p.waiting } := by
        have hMoved :=
          filterMap_moved Client.awaits hi (.waiting req)
        have hOne :
            ((s.moved i ⟨target, .handling req⟩
                (.waiting req)).clients.filterMap
                Client.awaits :
              Multiset (Bytes × Message)) =
              (s.clients.filterMap Client.awaits :
                  Multiset (Bytes × Message)) +
                {(target, req)} := by
          simpa [Client.awaits] using hMoved
        refine ⟨?_, ?_⟩
        · rw [hOne, h.waiting, add_comm]
          rfl
        · rw [filterMap_moved_none hi rfl rfl]
          exact h.saving
      cases plan with
      | answer reply =>
          cases hq
          exact hStays .writing ⟨rfl, rfl⟩
      | _ =>
          cases hq
          exact hWaits

/- A waiting request takes the mutex. -/
theorem enter_linked
    {i : Nat}
    {p : DialRun.Process σ}
    {c : Client}
    {req : Message}
    (h : Linked s.clients p)
    (hi : s.clients[i]? = some c)
    (hPhase : c.phase = .waiting req)
    (hFree : p.critical = none)
    (entered : Entered)
    (log : List Entry) :
    LinkedState
      (((s.moved i c (.afterEnter entered)).shared
        (DialRun.afterEnter s.core
          { p with
            waiting := p.waiting.erase (c.target, req) }
          entered)).noted log) := by
  rcases c with ⟨target, old⟩
  cases hPhase
  intro q hq
  -- The client's own request is no longer waiting.
  have hWaiting :
      ∀ phase, Client.awaits ⟨target, phase⟩ = none →
        ((s.moved i ⟨target, .waiting req⟩
            phase).clients.filterMap Client.awaits :
          Multiset (Bytes × Message)) =
          (p.waiting.erase (target, req) :
            List (Bytes × Message)) := by
    intro phase hNone
    have hMoved :=
      filterMap_moved Client.awaits hi phase
    rw [hNone] at hMoved
    have hCons :
        (target, req) ::ₘ
            ((s.moved i ⟨target, .waiting req⟩
              phase).clients.filterMap Client.awaits :
                Multiset (Bytes × Message)) =
          (p.waiting : Multiset (Bytes × Message)) := by
      rw [← h.waiting, ← Multiset.singleton_add, add_comm]
      simpa [Client.awaits] using hMoved
    have hMem : (target, req) ∈ p.waiting := by
      rw [← Multiset.mem_coe, ← hCons]
      exact Multiset.mem_cons_self _ _
    have hErase :
        (p.waiting : Multiset (Bytes × Message)) =
          (target, req) ::ₘ
            (p.waiting.erase (target, req) :
              List (Bytes × Message)) :=
      Multiset.coe_eq_coe.mpr (List.perm_cons_erase hMem)
    exact (Multiset.cons_inj_right _).mp
      (hCons.trans hErase)
  have hNobody :
      (s.clients.filterMap Client.saves : Multiset Unit) =
        0 := by
    rw [h.saving, hFree]
    rfl
  cases entered with
  | panic => cases hq
  | done reply =>
      cases hq
      have hSaves :
          ((s.moved i ⟨target, .waiting req⟩
              .writing).clients.filterMap Client.saves :
            Multiset Unit) = _ :=
        (filterMap_moved_none hi rfl rfl).trans h.saving
      exact ⟨hWaiting .writing rfl, hSaves⟩
  | saving st reply =>
      cases hq
      have hMoved :=
        filterMap_moved Client.saves hi .saving
      rw [hNobody] at hMoved
      have hSaves :
          ((s.moved i ⟨target, .waiting req⟩
              .saving).clients.filterMap Client.saves :
            Multiset Unit) = ([()] : List Unit) := by
        simpa [Client.saves] using hMoved
      exact ⟨hWaiting .saving rfl, hSaves⟩

/- The state has been saved, and the mutex is free. -/
theorem save_linked
    {i : Nat}
    {p : DialRun.Process σ}
    {c : Client}
    {reply : Reply}
    (h : Linked s.clients p)
    (hi : s.clients[i]? = some c)
    (hPhase : c.phase = .saving)
    (hCritical : p.critical = some reply) :
    Linked (s.moved i c .writing).clients
      { p with critical := none } := by
  rcases c with ⟨target, old⟩
  cases hPhase
  refine ⟨?_, ?_⟩
  · rw [filterMap_moved_none hi rfl rfl]
    exact h.waiting
  · have hMoved :=
      filterMap_moved Client.saves hi .writing
    rw [h.saving, hCritical] at hMoved
    simpa [Client.saves] using hMoved

/- Every step keeps the clients and the signer in line. -/
theorem transition_linked
    {e : Event}
    (hTrans : Transition sys s e t)
    (hs : LinkedState s) :
    LinkedState t := by
  cases hTrans with
  | move hAt hNext =>
      rcases atClient_eq_some hAt with ⟨hProcess, hi⟩
      rcases next_awaits hNext with ⟨hBefore, hAfter⟩
      intro q hq
      exact (hs q hq).moved hi hBefore hAfter rfl rfl
  | disconnect hAt hPhase hCore =>
      rcases atClient_eq_some hAt with ⟨hProcess, hi⟩
      rcases disconnected_awaits hPhase with
        ⟨hBefore, hAfter⟩
      rcases released_process hProcess hCore with
        ⟨p', hp', hWaiting, hCritical⟩
      intro q hq
      cases hp'.symm.trans hq
      exact (hs _ hProcess).moved hi hBefore hAfter hWaiting
        hCritical
  | gate now hAt hPhase hCore =>
      rcases atClient_eq_some hAt with ⟨hProcess, hi⟩
      simp only [DialRun.step, hProcess] at hCore
      cases hCore
      exact gate_linked (hs _ hProcess) hi hPhase _ _
  | enter hAt hPhase hCore =>
      rcases atClient_eq_some hAt with ⟨hProcess, hi⟩
      simp only [DialRun.step, hProcess] at hCore
      split at hCore
      · rename_i hReady
        cases hCore
        exact enter_linked (hs _ hProcess) hi hPhase
          (Option.isNone_iff_eq_none.mp hReady.2) _ _
      · cases hCore
  | save hAt hPhase hCore =>
      rcases atClient_eq_some hAt with ⟨hProcess, hi⟩
      simp only [DialRun.step, hProcess] at hCore
      split at hCore
      · cases hCore
      · cases hCore
        intro q hq
        cases hq
        exact save_linked (hs _ hProcess) hi hPhase ‹_›
  | cancel => exact hs
  | crash landed hCore =>
      apply linkedState_of_none
      simp only [DialRun.step] at hCore
      split at hCore
      · cases hCore
      · split at hCore <;> cases hCore <;> rfl
  | restart hCore =>
      simp only [DialRun.step] at hCore
      split at hCore
      · cases hCore
      · split at hCore
        · cases hCore
        · cases hCore
          intro q hq
          cases hq
          constructor <;>
            simp [List.filterMap_map, Function.comp_def,
              Client.awaits, Client.saves]

end DialLoop

end Consensus

end BridgeSigner

------------------------------------------------------------
-- Connections That Are Closed
------------------------------------------------------------

namespace BridgeSigner

namespace Consensus

/- `serveConn` runs, with its connection open or closed. -/
def Phase.served : Phase → Bool
| .reading => true
| .handling _ => true
| .waiting _ => true
| .saving => true
| .writing => true
| _ => false

namespace Drain

/- The clients of a process, and the closed connections. -/
structure State (σ : Type) where
  loop : DialLoop.State σ
  closed : Nat → Bool

/- `close` is the goroutine that `AfterFunc` has started. -/
inductive Event where
| client (e : DialLoop.Event)
| close (i : Nat)

variable {σ : Type}

/-
  The process goes on without a crash, and nothing is written
  to a closed connection.
-/
def State.permits
    (s : State σ) :
    DialLoop.Event → Bool
| .move i .written => !s.closed i
| .crash _ => false
| .restart => false
| _ => true

/- A new connection is open. -/
def State.reopened
    (s : State σ) :
    DialLoop.Event → Nat → Bool
| .move i .dialed => Function.update s.closed i false
| _ => s.closed

/- One event; `none` when it is not enabled. -/
def step
    (sys : System σ)
    (s : State σ) :
    Event → Option (State σ)
| .client e =>
    if s.permits e then
      (DialLoop.step sys s.loop e).map
        (fun loop => ⟨loop, s.reopened e⟩)
    else
      none
| .close i =>
    match s.loop.atClient i with
    | none => none
    | some (_, c) =>
        if
            s.loop.cancelled && c.phase.served &&
              !s.closed i then
          some ⟨s.loop, Function.update s.closed i true⟩
        else
          none

def machine
    (sys : System σ) : Machine (State σ) Event where
  step := step sys

/- The enabled events, with the states they lead to. -/
inductive Transition
    (sys : System σ)
    (s : State σ) :
    Event → State σ → Prop where
| client
    {e : DialLoop.Event}
    {loop : DialLoop.State σ}
    (hPermits : s.permits e = true)
    (hLoop : DialLoop.Transition sys s.loop e loop) :
    Transition sys s (.client e) ⟨loop, s.reopened e⟩
| close
    {i : Nat}
    {p : DialRun.Process σ}
    {c : DialLoop.Client}
    (hAt : s.loop.atClient i = some (p, c))
    (hCancelled : s.loop.cancelled = true)
    (hServed : c.phase.served = true)
    (hOpen : s.closed i = false) :
    Transition sys s (.close i)
      ⟨s.loop, Function.update s.closed i true⟩

theorem step_transition
    {sys : System σ}
    {s t : State σ}
    {e : Event}
    (hStep : step sys s e = some t) :
    Transition sys s e t := by
  cases e with
  | client e =>
      simp only [step] at hStep
      split at hStep
      · rename_i hPermits
        rcases Option.map_eq_some_iff.mp hStep with
          ⟨loop, hLoop, rfl⟩
        exact .client hPermits
          (DialLoop.step_transition hLoop)
      · cases hStep
  | close i =>
      simp only [step] at hStep
      split at hStep
      · cases hStep
      · rename_i p c hAt
        split at hStep
        · rename_i hReady
          cases hStep
          simp only [Bool.and_eq_true, Bool.not_eq_true']
            at hReady
          exact .close hAt hReady.1.1 hReady.1.2 hReady.2
        · cases hStep

end Drain

end Consensus

end BridgeSigner

------------------------------------------------------------
-- How Far A Client Has To Go
------------------------------------------------------------

namespace BridgeSigner

namespace Consensus

/-
  The most steps to the end once the context is cancelled,
  if no more responses are written. To close an open
  connection is a step of its own.
-/
def Phase.toGo
    (closed : Bool) :
    Phase → Nat
| .stopped => 0
| .idle => 1
| .pausing => 2
| .backoff => 2
| .closing => 3
| .failed => 3
| .writing => cond closed 4 5
| .saving => cond closed 5 6
| .waiting _ => cond closed 6 7
| .handling _ => cond closed 7 8
| .reading => cond closed 8 9
| .dialing => 10

/- A response that was written lets the client read again. -/
def Move.credit : Move → Nat
| .written => 5
| _ => 0

/- Whether the connection is closed after a move. -/
def Move.closed
    (closed : Bool) :
    Move → Bool
| .dialed => false
| _ => closed

theorem Phase.toGo_le
    (phase : Phase)
    (closed : Bool) :
    phase.toGo closed ≤ 10 := by
  cases phase <;> cases closed <;> simp [Phase.toGo]

theorem Phase.next_toGo
    {phase phase' : Phase}
    {m : Move}
    {closed : Bool}
    (hNext : phase.next true m = some phase')
    (hOpen : m = .written → closed = false) :
    phase'.toGo (m.closed closed) + 1 ≤
      phase.toGo closed + m.credit := by
  cases phase <;> cases m <;>
    simp [Phase.next] at hNext <;> subst hNext <;>
    cases closed <;>
    simp [Phase.toGo, Move.closed, Move.credit] at hOpen ⊢

theorem Phase.disconnected_toGo
    {phase phase' : Phase}
    {closed : Bool}
    (hPhase : phase.disconnected = some phase') :
    phase'.toGo closed + 1 ≤ phase.toGo closed := by
  cases phase <;> simp [Phase.disconnected] at hPhase <;>
    subst hPhase <;> exact Nat.le_refl _

theorem Phase.afterGate_toGo
    (req : Message)
    (plan : Option Plan)
    (closed : Bool) :
    (Phase.afterGate req plan).toGo closed + 1 ≤
      (Phase.handling req).toGo closed := by
  unfold Phase.afterGate
  split <;> cases closed <;> simp [Phase.toGo]

theorem Phase.afterEnter_toGo
    (req : Message)
    (entered : Entered)
    (closed : Bool) :
    (Phase.afterEnter entered).toGo closed + 1 ≤
      (Phase.waiting req).toGo closed := by
  cases entered <;> cases closed <;>
    simp [Phase.afterEnter, Phase.toGo]

theorem Phase.save_toGo
    (closed : Bool) :
    Phase.writing.toGo closed + 1 ≤
      Phase.saving.toGo closed := by
  cases closed <;> exact Nat.le_refl _

theorem Phase.served_toGo
    {phase : Phase}
    (hServed : phase.served = true) :
    phase.toGo true + 1 = phase.toGo false := by
  cases phase <;> simp [Phase.served] at hServed <;> rfl

namespace Drain

variable {σ : Type}

/- The summand of a client. -/
def State.part
    (s : State σ)
    (j : Nat) : Nat :=
  match s.loop.clients[j]? with
  | none => 0
  | some c => c.phase.toGo (s.closed j)

def State.toGo
    (s : State σ) : Nat :=
  ∑ j ∈ Finset.range s.loop.clients.length, s.part j

/- Every event but the cancel is a step of some client. -/
def Event.cost : Event → Nat
| .client .cancel => 0
| _ => 1

def Event.credit : Event → Nat
| .client (.move _ m) => m.credit
| _ => 0

theorem State.toGo_le
    (s : State σ) :
    s.toGo ≤ 10 * s.loop.clients.length := by
  have hPart :
      ∀ j ∈ Finset.range s.loop.clients.length,
        s.part j ≤ 10 := by
    intro j _
    unfold State.part
    split
    · exact Nat.zero_le _
    · exact Phase.toGo_le _ _
  calc
    s.toGo ≤ ∑ _j ∈ Finset.range s.loop.clients.length, 10 :=
      Finset.sum_le_sum hPart
    _ = 10 * s.loop.clients.length := by
      rw [Finset.sum_const, Finset.card_range, nsmul_eq_mul,
        mul_comm]
      rfl

variable {sys : System σ}
variable {s t : State σ}

/- One client moves, and pays for it. -/
theorem pays_of_moved
    {i : Nat}
    {c : DialLoop.Client}
    {phase : Phase}
    {cost credit : Nat}
    (hi : s.loop.clients[i]? = some c)
    (hClients :
      t.loop.clients =
        (s.loop.moved i c phase).clients)
    (hClosed : ∀ j, j ≠ i → t.closed j = s.closed j)
    (hPart :
      phase.toGo (t.closed i) + cost ≤
        c.phase.toGo (s.closed i) + credit) :
    t.toGo + cost ≤ s.toGo + credit := by
  have hLt : i < s.loop.clients.length :=
    (List.getElem?_eq_some_iff.mp hi).1
  have hLength :
      t.loop.clients.length = s.loop.clients.length := by
    rw [hClients]
    exact List.length_set
  unfold State.toGo
  rw [hLength]
  apply sum_range_of_part hLt
  · unfold State.part
    rw [hClients, DialLoop.moved_getElem? hi, if_pos rfl, hi]
    exact hPart
  · intro j hj
    unfold State.part
    rw [hClients, DialLoop.moved_getElem? hi,
      if_neg (Ne.symm hj), hClosed j hj]

theorem transition_pays
    {e : Event}
    (hTrans : Transition sys s e t)
    (hCancelled : s.loop.cancelled = true) :
    t.toGo + e.cost ≤ s.toGo + e.credit := by
  cases hTrans with
  | client hPermits hLoop =>
      cases hLoop with
      | @move i m p c phase hAt hNext =>
          have hi := (DialLoop.atClient_eq_some hAt).2
          rw [hCancelled] at hNext
          have hOpen :
              m = .written → s.closed i = false := by
            rintro rfl
            simpa [State.permits] using hPermits
          have hGo := Phase.next_toGo hNext hOpen
          refine pays_of_moved hi rfl ?_ ?_
          · intro j hj
            cases m <;> simp [State.reopened, hj]
          · cases m <;>
              simpa [State.reopened, Move.closed, Event.cost,
                Event.credit] using hGo
      | disconnect hAt hPhase hCore =>
          have hi := (DialLoop.atClient_eq_some hAt).2
          exact pays_of_moved hi rfl (fun _ _ => rfl)
            (Phase.disconnected_toGo hPhase)
      | gate now hAt hPhase hCore =>
          have hi := (DialLoop.atClient_eq_some hAt).2
          refine pays_of_moved hi rfl (fun _ _ => rfl) ?_
          rw [hPhase]
          exact Phase.afterGate_toGo _ _ _
      | @enter i p c req core hAt hPhase hCore =>
          have hi := (DialLoop.atClient_eq_some hAt).2
          refine pays_of_moved hi rfl (fun _ _ => rfl) ?_
          rw [hPhase]
          exact Phase.afterEnter_toGo req _ _
      | save hAt hPhase hCore =>
          have hi := (DialLoop.atClient_eq_some hAt).2
          refine pays_of_moved hi rfl (fun _ _ => rfl) ?_
          rw [hPhase]
          exact Phase.save_toGo _
      | cancel => exact Nat.le_refl _
      | crash landed hCore => cases hPermits
      | restart hCore => cases hPermits
  | @close i p c hAt hOn hServed hOpen =>
      have hi := (DialLoop.atClient_eq_some hAt).2
      have hSame :
          s.loop.clients =
            (s.loop.moved i c c.phase).clients := by
        rcases List.getElem?_eq_some_iff.mp hi with
          ⟨hLt, rfl⟩
        exact (List.set_getElem_self hLt).symm
      refine pays_of_moved hi hSame ?_ ?_
      · intro j hj
        exact Function.update_of_ne hj _ _
      · simp only [Function.update_self, hOpen]
        rw [← Phase.served_toGo hServed]
        exact Nat.le_refl _

theorem transition_cancelled
    {e : Event}
    (hTrans : Transition sys s e t)
    (hCancelled : s.loop.cancelled = true) :
    t.loop.cancelled = true := by
  cases hTrans with
  | client hPermits hLoop =>
      cases hLoop with
      | cancel => rfl
      | restart hCore => cases hPermits
      | _ => exact hCancelled
  | close hAt _ hServed hOpen => exact hCancelled

/- Once cancelled, the clients pay for every step. -/
theorem pays
    (sys : System σ) :
    (machine sys).Pays (fun s => s.loop.cancelled = true)
      State.toGo Event.cost Event.credit where
  keeps := fun _ _ _ hStep hCancelled =>
    transition_cancelled (step_transition hStep) hCancelled
  pays := fun _ _ _ hStep hCancelled =>
    transition_pays (step_transition hStep) hCancelled

end Drain

end Consensus

end BridgeSigner

------------------------------------------------------------
-- A Client Can Always Go On
------------------------------------------------------------

namespace BridgeSigner

namespace Consensus

namespace Drain

variable {σ : Type}
variable {sys : System σ}
variable {s t : State σ}
variable {p : DialRun.Process σ}

/- A step is enabled that some client pays for. -/
def Goes
    (sys : System σ)
    (s : State σ) : Prop :=
  ∃ e t, step sys s e = some t ∧ e.cost = 1 ∧ e.credit = 0

theorem goes_of_loop
    {e : DialLoop.Event}
    {loop : DialLoop.State σ}
    (hPermits : s.permits e = true)
    (hLoop : DialLoop.step sys s.loop e = some loop)
    (hCost : (Event.client e).cost = 1)
    (hCredit : (Event.client e).credit = 0) :
    Goes sys s := by
  refine ⟨.client e, ⟨loop, s.reopened e⟩, ?_, hCost,
    hCredit⟩
  simp only [step, hPermits, if_true, hLoop,
    Option.map_some]

theorem goes_of_move
    {i : Nat}
    {c : DialLoop.Client}
    {m : Move}
    {phase : Phase}
    (hAt : s.loop.atClient i = some (p, c))
    (hNext : c.phase.next s.loop.cancelled m = some phase)
    (hQuiet : m ≠ .written) :
    Goes sys s := by
  have hLoop :
      DialLoop.step sys s.loop (.move i m) =
        some (s.loop.moved i c phase) := by
    simp only [DialLoop.step, hAt, hNext,
      Option.bind_eq_bind, Option.bind_some]
  refine goes_of_loop ?_ hLoop rfl ?_
  · cases m <;> first | rfl | exact absurd rfl hQuiet
  · cases m <;> first | rfl | exact absurd rfl hQuiet

theorem goes_of_disconnect
    {i : Nat}
    {c : DialLoop.Client}
    {phase : Phase}
    (hAt : s.loop.atClient i = some (p, c))
    (hPhase : c.phase.disconnected = some phase) :
    Goes sys s := by
  have hProcess := (DialLoop.atClient_eq_some hAt).1
  have hReleased :
      ∃ core,
        DialLoop.released sys s.loop.core c.target =
          some core := by
    unfold DialLoop.released
    cases hArbiter : sys.arbiter with
    | none => exact ⟨_, rfl⟩
    | some arbiter =>
        simp only [DialRun.step, hProcess, hArbiter]
        exact ⟨_, rfl⟩
  rcases hReleased with ⟨core, hCore⟩
  have hLoop :
      DialLoop.step sys s.loop (.disconnect i) =
        some ((s.loop.moved i c phase).shared core) := by
    simp only [DialLoop.step, hAt, hPhase, hCore,
      Option.bind_eq_bind, Option.bind_some]
  exact goes_of_loop rfl hLoop rfl rfl

theorem goes_of_handling
    {i : Nat}
    {c : DialLoop.Client}
    {req : Message}
    (hAt : s.loop.atClient i = some (p, c))
    (hPhase : c.phase = .handling req)
    (now : Instant) :
    Goes sys s := by
  have hProcess := (DialLoop.atClient_eq_some hAt).1
  have hLoop :
      ∃ loop,
        DialLoop.step sys s.loop (.gate i now) =
          some loop := by
    simp only [DialLoop.step, hAt, hPhase, DialRun.step,
      hProcess, Option.bind_eq_bind, Option.bind_some]
    exact ⟨_, rfl⟩
  rcases hLoop with ⟨loop, hLoop⟩
  exact goes_of_loop rfl hLoop rfl rfl

/- The mutex is held, so its holder can save. -/
theorem goes_of_critical
    {reply : Reply}
    (hLinked : DialLoop.Linked s.loop.clients p)
    (hProcess : s.loop.core.process = some p)
    (hCritical : p.critical = some reply) :
    Goes sys s := by
  have hSome :
      () ∈ s.loop.clients.filterMap
        DialLoop.Client.saves := by
    rw [← Multiset.mem_coe, hLinked.saving, hCritical]
    exact List.mem_cons_self
  rcases List.mem_filterMap.mp hSome with
    ⟨c, hMem, hSaves⟩
  have hPhase : c.phase = .saving := by
    unfold DialLoop.Client.saves at hSaves
    split at hSaves
    · assumption
    · cases hSaves
  rcases List.getElem?_of_mem hMem with ⟨i, hi⟩
  have hLoop :
      ∃ loop,
        DialLoop.step sys s.loop (.save i) = some loop := by
    simp only [DialLoop.step, DialLoop.State.atClient,
      hProcess, hi, hPhase, DialRun.step, hCritical,
      Option.bind_eq_bind, Option.bind_some]
    exact ⟨_, rfl⟩
  rcases hLoop with ⟨loop, hLoop⟩
  exact goes_of_loop rfl hLoop rfl rfl

/- The mutex is free, or its holder can go on. -/
theorem goes_of_waiting
    {i : Nat}
    {c : DialLoop.Client}
    {req : Message}
    (hLinked : DialLoop.Linked s.loop.clients p)
    (hAt : s.loop.atClient i = some (p, c))
    (hPhase : c.phase = .waiting req) :
    Goes sys s := by
  rcases DialLoop.atClient_eq_some hAt with ⟨hProcess, hi⟩
  cases hCritical : p.critical with
  | some reply =>
      exact goes_of_critical hLinked hProcess hCritical
  | none =>
      have hAwaits : c.awaits = some (c.target, req) := by
        simp only [DialLoop.Client.awaits, hPhase]
      have hMem : (c.target, req) ∈ p.waiting := by
        rw [← Multiset.mem_coe, ← hLinked.waiting]
        exact List.mem_filterMap.mpr
          ⟨c, List.mem_of_getElem? hi, hAwaits⟩
      have hLoop :
          ∃ loop,
            DialLoop.step sys s.loop (.enter i) =
              some loop := by
        simp only [DialLoop.step, hAt, hPhase, DialRun.step,
          hProcess, hMem, hCritical, Option.isNone_none,
          and_self, if_true, Option.bind_eq_bind,
          Option.bind_some]
        exact ⟨_, rfl⟩
      rcases hLoop with ⟨loop, hLoop⟩
      exact goes_of_loop rfl hLoop rfl rfl

/-
  Once the context is cancelled, a client that has not yet
  stopped keeps the clients going.
-/
theorem enabled
    (sys : System σ)
    (hLinked : DialLoop.LinkedState s.loop)
    (hProcess : s.loop.core.process = some p)
    (hCancelled : s.loop.cancelled = true)
    {c : DialLoop.Client}
    (hMem : c ∈ s.loop.clients)
    (hGoes : c.phase ≠ .stopped)
    (now : Instant) :
    Goes sys s := by
  rcases List.getElem?_of_mem hMem with ⟨i, hi⟩
  have hAt : s.loop.atClient i = some (p, c) := by
    simp only [DialLoop.State.atClient, hProcess, hi]
  have hMove :
      ∀ m phase, m ≠ .written →
        c.phase.next true m = some phase → Goes sys s := by
    intro m phase hQuiet hNext
    exact goes_of_move hAt (hCancelled ▸ hNext) hQuiet
  cases hPhase : c.phase with
  | idle =>
      exact hMove .stop .stopped (by decide)
        (by rw [hPhase]; rfl)
  | dialing =>
      exact hMove .dialFailed .failed (by decide)
        (by rw [hPhase]; rfl)
  | failed =>
      have hNext : c.phase.disconnected = some .backoff := by
        rw [hPhase]
        rfl
      exact goes_of_disconnect hAt hNext
  | backoff =>
      exact hMove .stop .stopped (by decide)
        (by rw [hPhase]; rfl)
  | reading =>
      exact hMove .readFailed .closing (by decide)
        (by rw [hPhase]; rfl)
  | handling req => exact goes_of_handling hAt hPhase now
  | waiting req =>
      exact goes_of_waiting (hLinked p hProcess) hAt hPhase
  | saving =>
      have hSaves : c.saves = some () := by
        simp only [DialLoop.Client.saves, hPhase]
      have hLinked' := hLinked p hProcess
      cases hCritical : p.critical with
      | some reply =>
          exact goes_of_critical hLinked' hProcess hCritical
      | none =>
          have hSome :
              () ∈ (s.loop.clients.filterMap
                DialLoop.Client.saves : Multiset Unit) :=
            List.mem_filterMap.mpr
              ⟨c, List.mem_of_getElem? hi, hSaves⟩
          rw [hLinked'.saving, hCritical] at hSome
          cases hSome
  | writing =>
      exact hMove .writeFailed .closing (by decide)
        (by rw [hPhase]; rfl)
  | closing =>
      have hNext : c.phase.disconnected = some .pausing := by
        rw [hPhase]
        rfl
      exact goes_of_disconnect hAt hNext
  | pausing =>
      exact hMove .stop .stopped (by decide)
        (by rw [hPhase]; rfl)
  | stopped => exact absurd hPhase hGoes

end Drain

end Consensus

end BridgeSigner
