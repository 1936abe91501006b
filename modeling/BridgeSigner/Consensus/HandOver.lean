import BridgeSigner.Consensus.DialLoop

/-
  Handing over the primary role between dial clients
  (consensus/server.go, consensus/primary.go).

  The arbiter is asked from inside `serveConn` and told after
  it, by every client on its own. Whatever the order of their
  steps, the role is held for a connected client only, and a
  client that lost the role has at most one sign request
  behind the gate.

  Key definitions include:
    * `DialLoop.State.primary`
    * `DialLoop.State.Serving`
    * `DialLoop.newestGrant`
    * `DialLoop.Turn`
    * `DialLoop.credit`
    * `DialLoop.GrantedOn`

  Main results:
    * `DialLoop.disconnected_never_primary`
    * `DialLoop.run_credit`
    * `DialLoop.run_pending`
    * `DialLoop.one_stale_signing`
-/

------------------------------------------------------------
-- The Primary
------------------------------------------------------------

namespace BridgeSigner

namespace Consensus

namespace DialLoop

/- The primary of the running process, or none. -/
def corePrimary
    (core : DialRun.State PrimaryArbiter) : Bytes :=
  match core.process with
  | some p => p.arbiter.primary
  | none => []

def State.primary
    (s : State PrimaryArbiter) : Bytes :=
  corePrimary s.core

/- Some client of the target is connected. -/
def State.Serving
    {σ : Type}
    (s : State σ)
    (target : Bytes) : Prop :=
  ∃ (j : Nat) (c : Client),
    s.clients[j]? = some c ∧ c.target = target ∧
      c.phase.Connected

/- The target that was granted the role last. -/
def newestGrant : List Entry → Option Bytes
| [] => none
| .granted _ target :: _ => some target
| .signed _ _ :: log => newestGrant log

variable {sys : System PrimaryArbiter}
variable {core core' : DialRun.State PrimaryArbiter}

theorem corePrimary_of_process
    {p : DialRun.Process PrimaryArbiter}
    (hProcess : core.process = some p) :
    corePrimary core = p.arbiter.primary := by
  rw [corePrimary, hProcess]

theorem release_primary
    (a : PrimaryArbiter)
    (id : Bytes) :
    (a.release id).2.primary =
      if a.primary = id then [] else a.primary := by
  unfold PrimaryArbiter.release
  by_cases hId : a.primary = id
  · simp [hId]
  · simp [hId]

/- A release vacates the role of its target only. -/
theorem released_primary
    (hArbiter : sys.arbiter = some primaryArbiter)
    {target : Bytes}
    (hCore : released sys core target = some core') :
    corePrimary core' =
      if corePrimary core = target then []
      else corePrimary core := by
  simp only [released, hArbiter] at hCore
  cases DialRun.step_transition hCore with
  | release hProcess hSome id =>
      cases hArbiter.symm.trans hSome
      rw [corePrimary_of_process hProcess]
      exact release_primary _ target

/-
  A call of the private validator leaves the role and the
  connection alone, or kills the process.
-/
theorem enter_primary
    {p : DialRun.Process PrimaryArbiter}
    (hProcess : core.process = some p)
    {id : Bytes}
    {req : Message}
    (hCore :
      DialRun.step sys core (.enter id req) = some core') :
    corePrimary core' = [] ∨
      corePrimary core' = corePrimary core ∧
        (Phase.afterEnter ((sys.handler req).enter sys.lib
          sys.chainID p.memory)).Connected := by
  cases DialRun.step_transition hCore with
  | enter hSome hWaiting hFree =>
      cases hProcess.symm.trans hSome
      rw [corePrimary_of_process hProcess]
      unfold DialRun.afterEnter
      split
      · exact Or.inl rfl
      · rename_i hDone
        rw [hDone]
        exact Or.inr ⟨rfl, trivial⟩
      · rename_i hSaving
        rw [hSaving]
        exact Or.inr ⟨rfl, trivial⟩

theorem save_primary
    (hCore : DialRun.step sys core .save = some core') :
    corePrimary core' = corePrimary core := by
  cases DialRun.step_transition hCore with
  | save hProcess hCritical =>
      rw [corePrimary_of_process hProcess]
      rfl

theorem crash_primary
    {landed : Bool}
    (hCore :
      DialRun.step sys core (.crash landed) = some core') :
    corePrimary core' = [] := by
  cases DialRun.step_transition hCore with
  | crash landed => rfl
  | crashLanded hProcess hCritical landed => rfl

theorem restart_primary
    (hCore : DialRun.step sys core .restart = some core') :
    corePrimary core' = sys.start.primary := by
  cases DialRun.step_transition hCore with
  | restart hLoad => rfl

theorem afterGate_primary
    (s : DialRun.State PrimaryArbiter)
    (p : DialRun.Process PrimaryArbiter)
    (id : Bytes)
    (req : Message)
    (plan : Plan)
    (a : PrimaryArbiter) :
    corePrimary (DialRun.afterGate s p id req (some plan, a)) =
      a.primary := by
  cases plan with
  | answer reply => rfl
  | getPubKey reply => rfl
  | signVote v reply => rfl
  | signProposal v reply => rfl

/-
  The gate: a granted request makes its target the primary
  and goes on to the handler; anything else leaves the role
  alone, or kills the process.
-/
theorem gate_primary
    (hArbiter : sys.arbiter = some primaryArbiter)
    {p : DialRun.Process PrimaryArbiter}
    (hProcess : core.process = some p)
    (i : Nat)
    {id : Bytes}
    {req : Message}
    {now : Instant}
    (hCore :
      DialRun.step sys core (.arrive id req now) =
        some core') :
    (grantEntry sys p.arbiter i id now req = [] ∧
        (corePrimary core' = [] ∨
          corePrimary core' = corePrimary core ∧
            ∃ plan,
              (sys.handle p.arbiter id now req).1 =
                some plan)) ∨
      (grantEntry sys p.arbiter i id now req =
          [.granted i id] ∧
        corePrimary core' = id ∧
        (sys.handle p.arbiter id now req).1 =
          some (sys.handler req)) := by
  cases DialRun.step_transition hCore with
  | arrive hSome id req now =>
      cases hProcess.symm.trans hSome
      rw [corePrimary_of_process hProcess]
      simp only [grantEntry, System.handle, hArbiter,
        gatedHandler]
      cases hScreen : notPrimaryResponse req with
      | panic => exact Or.inl ⟨rfl, Or.inl rfl⟩
      | other =>
          exact Or.inl ⟨rfl,
            Or.inr ⟨afterGate_primary _ _ _ _ _ _, _, rfl⟩⟩
      | sign refusal height =>
          simp only [primaryArbiter]
          rcases p.arbiter.acquire_cases id height now with
            hEq | hEq
          · simp only [hEq]
            refine Or.inr ⟨rfl, ?_, rfl⟩
            rw [afterGate_primary]
            simp [PrimaryArbiter.elect,
              PrimaryArbiter.grant_eq]
          · simp only [hEq]
            exact Or.inl ⟨rfl,
              Or.inr ⟨afterGate_primary _ _ _ _ _ _, _,
                rfl⟩⟩

end DialLoop

end Consensus

end BridgeSigner

------------------------------------------------------------
-- The Role Is Held For A Connected Client
------------------------------------------------------------

namespace BridgeSigner

namespace Consensus

/- A move never leaves the connection. -/
theorem Phase.Connected.next
    {cancelled : Bool}
    {phase phase' : Phase}
    {m : Move}
    (h : phase.Connected)
    (hNext : phase.next cancelled m = some phase') :
    phase'.Connected := by
  cases phase with
  | reading =>
      cases m <;> simp [Phase.next] at hNext <;>
        subst hNext <;> trivial
  | writing =>
      cases m <;> simp [Phase.next] at hNext <;>
        subst hNext <;> trivial
  | handling req => cases m <;> cases hNext
  | waiting req => cases m <;> cases hNext
  | saving => cases m <;> cases hNext
  | closing => cases m <;> cases hNext
  | _ => exact h.elim

/- A request that goes on keeps its client connected. -/
theorem Phase.afterGate_connected
    (req : Message)
    (plan : Plan) :
    (Phase.afterGate req (some plan)).Connected := by
  cases plan <;> trivial

namespace DialLoop

variable {σ : Type}
variable {s : State σ}

theorem atClient_eq_some
    {i : Nat}
    {p : DialRun.Process σ}
    {c : Client}
    (hAt : s.atClient i = some (p, c)) :
    s.core.process = some p ∧ s.clients[i]? = some c := by
  unfold State.atClient at hAt
  split at hAt
  · cases hAt
    exact ⟨‹_›, ‹_›⟩
  · cases hAt

/- The client that moved, and the others. -/
theorem moved_getElem?
    {i : Nat}
    {c : Client}
    (hi : s.clients[i]? = some c)
    (phase : Phase)
    (j : Nat) :
    (s.moved i c phase).clients[j]? =
      if i = j then some ⟨c.target, phase⟩
      else s.clients[j]? := by
  have hLt : i < s.clients.length :=
    (List.getElem?_eq_some_iff.mp hi).1
  simp only [State.moved, List.getElem?_set, hLt, if_true]

/- A target is still served after a client has moved. -/
theorem Serving_moved
    {i : Nat}
    {c : Client}
    {target : Bytes}
    {phase : Phase}
    (hi : s.clients[i]? = some c)
    (hKeep :
      c.target = target → c.phase.Connected →
        phase.Connected)
    (hServing : s.Serving target) :
    (s.moved i c phase).Serving target := by
  rcases hServing with ⟨j, d, hj, hTarget, hConnected⟩
  by_cases hij : i = j
  · subst hij
    cases hi.symm.trans hj
    refine ⟨i, ⟨c.target, phase⟩, ?_, hTarget,
      hKeep hTarget hConnected⟩
    rw [moved_getElem? hi, if_pos rfl]
  · refine ⟨j, d, ?_, hTarget, hConnected⟩
    rw [moved_getElem? hi, if_neg hij, hj]

theorem Serving_self
    {i : Nat}
    {c : Client}
    {phase : Phase}
    (hi : s.clients[i]? = some c)
    (hConnected : phase.Connected) :
    (s.moved i c phase).Serving c.target :=
  ⟨i, ⟨c.target, phase⟩,
    by rw [moved_getElem? hi, if_pos rfl], rfl, hConnected⟩

/-
  The primary is served, and it is the target that was
  granted the role last.
-/
structure RoleHeld
    (s : State PrimaryArbiter) : Prop where
  served : s.primary ≠ [] → s.Serving s.primary
  newest :
    s.primary = [] ∨ newestGrant s.log = some s.primary

theorem RoleHeld.vacant
    {s : State PrimaryArbiter}
    (hVacant : s.primary = []) :
    RoleHeld s where
  served := fun hNe => absurd hVacant hNe
  newest := Or.inl hVacant

/- Nothing changes but clients that stay connected. -/
theorem RoleHeld.kept
    {s t : State PrimaryArbiter}
    (h : RoleHeld s)
    (hPrimary : t.primary = s.primary)
    (hLog : newestGrant t.log = newestGrant s.log)
    (hServing : s.Serving s.primary → t.Serving s.primary) :
    RoleHeld t where
  served := by
    intro hNe
    rw [hPrimary] at hNe ⊢
    exact hServing (h.served hNe)
  newest := by
    rw [hPrimary, hLog]
    exact h.newest

theorem newestGrant_signEntry
    {sys : System PrimaryArbiter}
    (i : Nat)
    (target : Bytes)
    (req : Message)
    (log : List Entry) :
    newestGrant (signEntry sys i target req ++ log) =
      newestGrant log := by
  unfold signEntry
  split
  · rfl
  · rfl

variable {sys : System PrimaryArbiter}
variable {t : State PrimaryArbiter}

/- A client that disconnects gives up its own role only. -/
theorem RoleHeld.disconnect
    {s : State PrimaryArbiter}
    (h : RoleHeld s)
    (hArbiter : sys.arbiter = some primaryArbiter)
    {i : Nat}
    {c : Client}
    {core : DialRun.State PrimaryArbiter}
    (hi : s.clients[i]? = some c)
    (hCore : released sys s.core c.target = some core)
    (phase : Phase) :
    RoleHeld ((s.moved i c phase).shared core) := by
  have hPrimary := released_primary hArbiter hCore
  by_cases hOwn : corePrimary s.core = c.target
  · apply RoleHeld.vacant
    rw [if_pos hOwn] at hPrimary
    exact hPrimary
  · rw [if_neg hOwn] at hPrimary
    refine h.kept ?_ ?_ ?_
    · exact hPrimary
    · rfl
    · exact Serving_moved hi
        (fun hTarget _ => absurd hTarget.symm hOwn)

/- A client that takes the role at the gate is connected. -/
theorem RoleHeld.gate
    {s : State PrimaryArbiter}
    (h : RoleHeld s)
    (hArbiter : sys.arbiter = some primaryArbiter)
    {i : Nat}
    {p : DialRun.Process PrimaryArbiter}
    {c : Client}
    {req : Message}
    {now : Instant}
    {core : DialRun.State PrimaryArbiter}
    (hAt : s.atClient i = some (p, c))
    (hCore :
      DialRun.step sys s.core (.arrive c.target req now) =
        some core) :
    RoleHeld
      (((s.moved i c
          (.afterGate req
            (sys.handle p.arbiter c.target now
              req).1)).shared core).noted
        (grantEntry sys p.arbiter i c.target now req)) := by
  rcases atClient_eq_some hAt with ⟨hProcess, hi⟩
  rcases gate_primary hArbiter hProcess i hCore with
    ⟨hEntry, hDead | ⟨hPrimary, plan, hPlan⟩⟩ |
      ⟨hEntry, hPrimary, hPlan⟩
  · exact RoleHeld.vacant hDead
  · rw [hEntry, hPlan]
    refine h.kept ?_ ?_ ?_
    · exact hPrimary
    · rfl
    · exact Serving_moved hi
        (fun _ _ => Phase.afterGate_connected req plan)
  · rw [hEntry, hPlan]
    have hServing :=
      Serving_self hi
        (Phase.afterGate_connected req (sys.handler req))
    exact ⟨fun _ => hPrimary.symm ▸ hServing,
      Or.inr (congrArg some hPrimary.symm)⟩

/- Every step keeps the role with a connected client. -/
theorem transition_roleHeld
    (hArbiter : sys.arbiter = some primaryArbiter)
    (hStart : sys.start.primary = [])
    {s : State PrimaryArbiter}
    {e : Event}
    (hTrans : Transition sys s e t)
    (h : RoleHeld s) :
    RoleHeld t := by
  cases hTrans with
  | move hAt hNext =>
      rcases atClient_eq_some hAt with ⟨-, hi⟩
      exact h.kept rfl rfl
        (Serving_moved hi (fun _ hOn => hOn.next hNext))
  | disconnect hAt hPhase hCore =>
      rcases atClient_eq_some hAt with ⟨-, hi⟩
      exact h.disconnect hArbiter hi hCore _
  | gate now hAt hPhase hCore =>
      exact h.gate hArbiter hAt hCore
  | @enter i p c req core hAt hPhase hCore =>
      rcases atClient_eq_some hAt with ⟨hProcess, hi⟩
      rcases enter_primary hProcess hCore with
        hDead | ⟨hPrimary, hOn⟩
      · exact RoleHeld.vacant hDead
      · refine h.kept ?_ ?_ ?_
        · exact hPrimary
        · exact newestGrant_signEntry i c.target req s.log
        · exact Serving_moved hi (fun _ _ => hOn)
  | save hAt hPhase hCore =>
      rcases atClient_eq_some hAt with ⟨-, hi⟩
      refine h.kept ?_ ?_ ?_
      · exact save_primary hCore
      · rfl
      · exact Serving_moved hi (fun _ _ => trivial)
  | cancel => exact h.kept rfl rfl id
  | crash landed hCore =>
      exact RoleHeld.vacant (crash_primary hCore)
  | restart hCore =>
      exact RoleHeld.vacant
        ((restart_primary hCore).trans hStart)

/- A vacant role is granted to whoever asks. -/
theorem acquire_vacant
    {a : PrimaryArbiter}
    (hVacant : a.primary = [])
    (id : Bytes)
    (height : Int)
    (now : Instant) :
    (a.acquire id height now).1 = true :=
  (a.acquire_granted_iff id height now).mpr
    (Or.inl hVacant)

/-
  A disconnected target never holds the role. When it is no
  longer served and no other target has been granted the role
  since, the next sign request of any target is granted.
-/
theorem disconnected_never_primary
    (sys : System PrimaryArbiter)
    (hArbiter : sys.arbiter = some primaryArbiter)
    (timeout : Int)
    (order : List Bytes)
    (hNew :
      sys.start = newPreferringPrimaryArbiter timeout order)
    (file : PathEntry)
    (targets : List Bytes)
    (es : List Event)
    (s : State PrimaryArbiter)
    (hRun :
      (machine sys).run (State.initial file targets) es =
        some s)
    (target : Bytes)
    (hTarget : target ≠ []) :
    (s.primary = target → s.Serving target) ∧
      (¬s.Serving target →
        s.primary ≠ target ∧
          ((∀ t, newestGrant s.log = some t → t = target) →
            ∀ p, s.core.process = some p →
              ∀ id height now,
                (p.arbiter.acquire id height now).1 =
                  true)) := by
  have hHeld : RoleHeld s := by
    refine Machine.run_invariant ?_ hRun
      (RoleHeld.vacant rfl)
    intro s e t hStep h
    exact transition_roleHeld hArbiter (by rw [hNew]; rfl)
      (step_transition hStep) h
  have hServed :
      s.primary = target → s.Serving target := by
    intro hPrimary
    rw [← hPrimary] at hTarget ⊢
    exact hHeld.served hTarget
  refine ⟨hServed, ?_⟩
  intro hGone
  have hNot : s.primary ≠ target :=
    fun hPrimary => hGone (hServed hPrimary)
  refine ⟨hNot, ?_⟩
  intro hNewest p hProcess
  apply acquire_vacant
  rw [← corePrimary_of_process hProcess]
  rcases hHeld.newest with hVacant | hSame
  · exact hVacant
  · exact absurd (hNewest s.primary hSame) hNot

/- The first target signs and loses its connection. -/
def droppedRun : List Event :=
  [.restart, .move 0 .dial, .move 0 .dialed,
    .move 0 (.read DialRun.sampleRequest),
    .gate 0 (DialRun.sampleTime 1), .enter 0, .save 0,
    .move 0 .written, .move 0 .readFailed, .disconnect 0]

def sampleTargets : List Bytes :=
  [ascii "tcp://node-a:26659", ascii "tcp://node-b:26659"]

def droppedClients : List Client :=
  [⟨ascii "tcp://node-a:26659", .pausing⟩,
    ⟨ascii "tcp://node-b:26659", .idle⟩]

theorem droppedRun_result :
    ((machine DialRun.sampleSystem).run
        (State.initial (.file freshStateJSON) sampleTargets)
        droppedRun).map (fun s => (s.clients, s.log)) =
      some (droppedClients,
        [.signed 0 (ascii "tcp://node-a:26659"),
          .granted 0 (ascii "tcp://node-a:26659")]) := by
  decide +kernel

theorem not_Serving
    {σ : Type}
    {s : State σ}
    {target : Bytes}
    (hGone :
      ∀ c ∈ s.clients, c.target = target →
        ¬c.phase.Connected) :
    ¬s.Serving target := by
  rintro ⟨j, c, hj, hTarget, hConnected⟩
  exact hGone c (List.mem_of_getElem? hj) hTarget hConnected

/- The second target takes over at once, at any height. -/
theorem dropped_target_replaced :
    ∃ s,
      (machine DialRun.sampleSystem).run
          (State.initial (.file freshStateJSON)
            sampleTargets)
          droppedRun = some s ∧
      ¬s.Serving (ascii "tcp://node-a:26659") ∧
      s.primary ≠ ascii "tcp://node-a:26659" ∧
      ∀ p, s.core.process = some p →
        ∀ height now,
          (p.arbiter.acquire (ascii "tcp://node-b:26659")
            height now).1 = true := by
  rcases Option.map_eq_some_iff.mp droppedRun_result with
    ⟨s, hRun, hResult⟩
  rcases Prod.mk.inj hResult with ⟨hClients, hLog⟩
  have hGone :
      ¬s.Serving (ascii "tcp://node-a:26659") := by
    apply not_Serving
    rw [hClients]
    decide +kernel
  rcases (disconnected_never_primary DialRun.sampleSystem
      rfl _ _ rfl _ _ _ s hRun
      (ascii "tcp://node-a:26659") (by decide +kernel)).2
      hGone with
    ⟨hNot, hGranted⟩
  refine ⟨s, hRun, hGone, hNot, ?_⟩
  intro p hProcess height now
  refine hGranted ?_ p hProcess _ height now
  intro t hNewest
  rw [hLog] at hNewest
  exact (Option.some.inj hNewest).symm

end DialLoop

end Consensus

end BridgeSigner

------------------------------------------------------------
-- What A Client Does At The Gate
------------------------------------------------------------

namespace BridgeSigner

namespace Consensus

/- Only the gate lets a request wait. -/
theorem Phase.next_ne_waiting
    {cancelled : Bool}
    {phase phase' : Phase}
    {m : Move}
    (hNext : phase.next cancelled m = some phase')
    (req : Message) :
    phase' ≠ .waiting req := by
  rintro rfl
  revert hNext
  unfold Phase.next
  split <;> (try split) <;> simp

theorem Phase.disconnected_ne_waiting
    {phase phase' : Phase}
    (hPhase : phase.disconnected = some phase')
    (req : Message) :
    phase' ≠ .waiting req := by
  rintro rfl
  revert hPhase
  unfold Phase.disconnected
  split <;> simp

theorem Phase.afterEnter_ne_waiting
    (entered : Entered)
    (req : Message) :
    Phase.afterEnter entered ≠ .waiting req := by
  cases entered <;> simp [Phase.afterEnter]

namespace DialLoop

/- The number of the client that an entry is about. -/
def Entry.client : Entry → Nat
| .granted i _ => i
| .signed i _ => i

/- The client has a request to sign behind the gate. -/
def Client.pending
    {σ : Type}
    (sys : System σ)
    (target : Bytes)
    (c : Client) : Bool :=
  match c.phase with
  | .waiting req =>
      c.target == target && (sys.handler req).signs
  | _ => false

def State.pending
    {σ : Type}
    (sys : System σ)
    (s : State σ)
    (i : Nat)
    (target : Bytes) : Bool :=
  (s.clients[i]?).any (Client.pending sys target)

/-
  One event, as one client of the target sees it: nothing of
  its own happens, it is granted, or it signs.
-/
inductive Turn
    (sys : System PrimaryArbiter)
    (i : Nat)
    (target : Bytes)
    (s : State PrimaryArbiter)
    (e : Event)
    (t : State PrimaryArbiter) : Prop where
| passed
    (new : List Entry)
    (hLog : t.log = new ++ s.log)
    (hGranted : .granted i target ∉ new)
    (hSigned : .signed i target ∉ new)
    (hKept :
      t.pending sys i target = true →
        t.clients[i]? = s.clients[i]?)
| granted
    (now : Instant)
    (hEvent : e = .gate i now)
    (hLog : t.log = .granted i target :: s.log)
    (hPrimary : t.primary = target)
| signed
    (hPending : s.pending sys i target = true)
    (hLog : t.log = .signed i target :: s.log)
    (hDone : t.pending sys i target = false)

variable {sys : System PrimaryArbiter}
variable {s t : State PrimaryArbiter}

/- A request that is not to be signed is not signed. -/
theorem handler_other
    {σ : Type}
    {sys : System σ}
    (hDefault : sys.lib.DefaultPublished)
    {req : Message}
    (hOther : notPrimaryResponse req = .other) :
    (sys.handler req).signs = false := by
  have hServed := sys.handler_served hDefault req
  generalize sys.handler req = plan at hServed
  cases hServed with
  | answer hUnsigned hKind => rfl
  | getPubKey hReq => rfl
  | vote hReq hChain hValid =>
      rw [hReq] at hOther
      cases hOther
  | proposal hReq hChain hValid =>
      rw [hReq] at hOther
      cases hOther

/- A client that does not wait has nothing to sign. -/
theorem Client.pending_of_ne
    {σ : Type}
    {sys : System σ}
    {c : Client}
    (hPhase : ∀ req, c.phase ≠ .waiting req)
    (target : Bytes) :
    c.pending sys target = false := by
  unfold Client.pending
  split
  · rename_i req hWaiting
    exact absurd hWaiting (hPhase req)
  · rfl

/- What is pending is pending for the client's target. -/
theorem Client.target_of_pending
    {σ : Type}
    {sys : System σ}
    {c : Client}
    {target : Bytes}
    (hPending : c.pending sys target = true) :
    c.target = target := by
  unfold Client.pending at hPending
  split at hPending
  · exact eq_of_beq (Bool.and_eq_true_iff.mp hPending).1
  · cases hPending

theorem pending_moved
    {i : Nat}
    {c : Client}
    {phase : Phase}
    (hi : s.clients[i]? = some c)
    (hClients : t.clients = (s.moved i c phase).clients)
    (target : Bytes) :
    t.pending sys i target =
      Client.pending sys target ⟨c.target, phase⟩ := by
  rw [State.pending, hClients, moved_getElem? hi,
    if_pos rfl]
  rfl

variable {i j : Nat}
variable {target : Bytes}
variable {e : Event}

/- What a client does concerns no other client. -/
theorem Turn.of_client
    {c : Client}
    {phase : Phase}
    {new : List Entry}
    (hj : s.clients[j]? = some c)
    (hClients : t.clients = (s.moved j c phase).clients)
    (hLog : t.log = new ++ s.log)
    (hNew : ∀ x ∈ new, x.client = j)
    (hOwn : j = i → Turn sys i target s e t) :
    Turn sys i target s e t := by
  by_cases hij : j = i
  · exact hOwn hij
  · refine .passed new hLog ?_ ?_ ?_
    · intro hGranted
      exact hij (hNew _ hGranted).symm
    · intro hSigned
      exact hij (hNew _ hSigned).symm
    · intro _
      rw [hClients, moved_getElem? hj, if_neg hij]

/- The same for a client that one entry is noted of. -/
theorem Turn.of_entry
    {c : Client}
    {phase : Phase}
    {x : Entry}
    (hj : s.clients[j]? = some c)
    (hClients : t.clients = (s.moved j c phase).clients)
    (hLog : t.log = [x] ++ s.log)
    (hClient : x.client = j)
    (hOwn : j = i → Turn sys i target s e t) :
    Turn sys i target s e t := by
  apply Turn.of_client hj hClients hLog _ hOwn
  intro y hy
  rw [List.mem_singleton.mp hy, hClient]

/- Nothing of the target's is noted, and nothing waits after. -/
theorem Turn.idle
    {new : List Entry}
    (hLog : t.log = new ++ s.log)
    (hGranted : .granted i target ∉ new)
    (hSigned : .signed i target ∉ new)
    (hIdle : t.pending sys i target = false) :
    Turn sys i target s e t := by
  refine .passed new hLog hGranted hSigned ?_
  intro hPending
  rw [hIdle] at hPending
  cases hPending

/- Nothing is granted or signed, and nothing waits after. -/
theorem Turn.quiet
    {c : Client}
    {phase : Phase}
    (hj : s.clients[j]? = some c)
    (hClients : t.clients = (s.moved j c phase).clients)
    (hLog : t.log = s.log)
    (hIdle :
      Client.pending sys target ⟨c.target, phase⟩ = false) :
    Turn sys i target s e t := by
  have hNone : t.log = [] ++ s.log := hLog
  apply Turn.of_client hj hClients hNone
  · intro x hx
    cases hx
  · rintro rfl
    apply Turn.idle hNone List.not_mem_nil List.not_mem_nil
    rw [pending_moved hj hClients]
    exact hIdle

/- A plan that does not sign leaves nothing to sign. -/
theorem Client.pending_afterGate
    {σ : Type}
    {sys : System σ}
    {req : Message}
    (hUnsigned : (sys.handler req).signs = false)
    (id : Bytes)
    (plan : Plan)
    (target : Bytes) :
    Client.pending sys target
      ⟨id, .afterGate req (some plan)⟩ = false := by
  cases plan with
  | answer reply => rfl
  | getPubKey reply =>
      simp [Client.pending, Phase.afterGate, hUnsigned]
  | signVote v reply =>
      simp [Client.pending, Phase.afterGate, hUnsigned]
  | signProposal v reply =>
      simp [Client.pending, Phase.afterGate, hUnsigned]

/- A request that was not granted is not signed. -/
theorem pending_of_not_granted
    (hDefault : sys.lib.DefaultPublished)
    (hArbiter : sys.arbiter = some primaryArbiter)
    {a : PrimaryArbiter}
    {id : Bytes}
    {now : Instant}
    {req : Message}
    (hEntry : grantEntry sys a i id now req = [])
    (target : Bytes) :
    Client.pending sys target
      ⟨id, .afterGate req (sys.handle a id now req).1⟩ =
        false := by
  simp only [grantEntry, hArbiter] at hEntry
  simp only [System.handle, hArbiter, gatedHandler]
  cases hScreen : notPrimaryResponse req with
  | panic => rfl
  | other =>
      exact Client.pending_afterGate
        (handler_other hDefault hScreen) id _ target
  | sign refusal height =>
      simp only [hScreen, primaryArbiter] at hEntry
      rcases a.acquire_cases id height now with hEq | hEq
      · simp [hEq] at hEntry
      · simp only [primaryArbiter, hEq]
        rfl

/-
  The gate lets a request to sign wait only with the grant of
  the role.
-/
theorem gate_turn
    (hDefault : sys.lib.DefaultPublished)
    (hArbiter : sys.arbiter = some primaryArbiter)
    {p : DialRun.Process PrimaryArbiter}
    {c : Client}
    {req : Message}
    {now : Instant}
    (hProcess : s.core.process = some p)
    (hj : s.clients[j]? = some c)
    (hClients :
      t.clients =
        (s.moved j c (.afterGate req
          (sys.handle p.arbiter c.target now
            req).1)).clients)
    (hLog :
      t.log =
        grantEntry sys p.arbiter j c.target now req ++ s.log)
    (hCore :
      DialRun.step sys s.core (.arrive c.target req now) =
        some t.core) :
    Turn sys i target s (.gate j now) t := by
  rcases gate_primary hArbiter hProcess j hCore with
    ⟨hEntry, -⟩ | ⟨hEntry, hPrimary, -⟩
  · rw [hEntry] at hLog
    apply Turn.quiet hj hClients hLog
    exact pending_of_not_granted hDefault hArbiter hEntry target
  · rw [hEntry] at hLog
    apply Turn.of_entry hj hClients hLog rfl
    rintro rfl
    by_cases hTarget : c.target = target
    · subst hTarget
      exact .granted now rfl hLog hPrimary
    · refine .passed _ hLog ?_ ?_ ?_
      · simpa using Ne.symm hTarget
      · simp
      · intro hPending
        rw [pending_moved hj hClients] at hPending
        exact absurd (Client.target_of_pending hPending)
          hTarget

/- A call of the private validator uses up what was pending. -/
theorem enter_turn
    {p : DialRun.Process PrimaryArbiter}
    {c : Client}
    {req : Message}
    (hj : s.clients[j]? = some c)
    (hPhase : c.phase = .waiting req)
    (hClients :
      t.clients =
        (s.moved j c (.afterEnter ((sys.handler req).enter
          sys.lib sys.chainID p.memory))).clients)
    (hLog :
      t.log = signEntry sys j c.target req ++ s.log) :
    Turn sys i target s e t := by
  by_cases hSigns : (sys.handler req).signs = true
  · rw [signEntry, if_pos hSigns] at hLog
    have hDone : t.pending sys j target = false := by
      rw [pending_moved hj hClients]
      exact Client.pending_of_ne
        (Phase.afterEnter_ne_waiting _) target
    apply Turn.of_entry hj hClients hLog rfl
    rintro rfl
    by_cases hTarget : c.target = target
    · subst hTarget
      refine .signed ?_ hLog hDone
      simp [State.pending, hj, Client.pending, hPhase,
        hSigns]
    · apply Turn.idle hLog _ _ hDone
      · simp
      · simpa using Ne.symm hTarget
  · rw [signEntry, if_neg hSigns] at hLog
    apply Turn.quiet hj hClients hLog
    exact Client.pending_of_ne
      (Phase.afterEnter_ne_waiting _) target

/- Every event is a turn of every client. -/
theorem transition_turn
    (hDefault : sys.lib.DefaultPublished)
    (hArbiter : sys.arbiter = some primaryArbiter)
    (hTrans : Transition sys s e t)
    (i : Nat)
    (target : Bytes) :
    Turn sys i target s e t := by
  cases hTrans with
  | move hAt hNext =>
      rcases atClient_eq_some hAt with ⟨-, hj⟩
      exact Turn.quiet hj rfl rfl
        (Client.pending_of_ne (Phase.next_ne_waiting hNext)
          target)
  | disconnect hAt hPhase hCore =>
      rcases atClient_eq_some hAt with ⟨-, hj⟩
      exact Turn.quiet hj rfl rfl
        (Client.pending_of_ne
          (Phase.disconnected_ne_waiting hPhase) target)
  | gate now hAt hPhase hCore =>
      rcases atClient_eq_some hAt with ⟨hProcess, hj⟩
      exact gate_turn hDefault hArbiter hProcess hj rfl rfl hCore
  | enter hAt hPhase hCore =>
      rcases atClient_eq_some hAt with ⟨-, hj⟩
      exact enter_turn hj hPhase rfl rfl
  | save hAt hPhase hCore =>
      rcases atClient_eq_some hAt with ⟨-, hj⟩
      exact Turn.quiet hj rfl rfl rfl
  | cancel =>
      exact .passed [] rfl List.not_mem_nil
        List.not_mem_nil (fun _ => rfl)
  | crash landed hCore =>
      exact .passed [] rfl List.not_mem_nil
        List.not_mem_nil (fun _ => rfl)
  | restart hCore =>
      refine .passed [] rfl List.not_mem_nil
        List.not_mem_nil ?_
      intro hPending
      rw [State.pending, List.getElem?_map] at hPending
      cases hi : s.clients[i]? with
      | none => simp [hi] at hPending
      | some c => simp [hi, Client.pending] at hPending

end DialLoop

end Consensus

end BridgeSigner

------------------------------------------------------------
-- At Most One Stale Signing
------------------------------------------------------------

namespace BridgeSigner

namespace Consensus

namespace DialLoop

variable {sys : System PrimaryArbiter}
variable {s t : State PrimaryArbiter}
variable {i : Nat}
variable {target : Bytes}

/- One when the client has something to sign, or zero. -/
def credit
    (sys : System PrimaryArbiter)
    (s : State PrimaryArbiter)
    (i : Nat)
    (target : Bytes) : Nat :=
  (s.pending sys i target).toNat

/-
  On the way the client was granted the role for its target,
  which was the primary then, and it has not moved since.
-/
def GrantedOn
    (sys : System PrimaryArbiter)
    (s : State PrimaryArbiter)
    (es : List Event)
    (t : State PrimaryArbiter)
    (i : Nat)
    (target : Bytes) : Prop :=
  ∃ (es₁ es₂ : List Event) (now : Instant)
      (u v : State PrimaryArbiter),
    es = es₁ ++ .gate i now :: es₂ ∧
    (machine sys).run s es₁ = some u ∧
    step sys u (.gate i now) = some v ∧
    (machine sys).run v es₂ = some t ∧
    v.log = .granted i target :: u.log ∧
    v.primary = target ∧
    v.clients[i]? = t.clients[i]?

theorem Turn.log
    {e : Event}
    (h : Turn sys i target s e t) :
    ∃ new, t.log = new ++ s.log := by
  cases h with
  | passed new hLog hGranted hSigned hKept =>
      exact ⟨new, hLog⟩
  | granted now hEvent hLog hPrimary => exact ⟨[_], hLog⟩
  | signed hPending hLog hDone => exact ⟨[_], hLog⟩

/- What is pending and was not granted was pending before. -/
theorem pending_of_kept
    (hKept :
      t.pending sys i target = true →
        t.clients[i]? = s.clients[i]?)
    (hPending : t.pending sys i target = true) :
    s.pending sys i target = true := by
  rw [State.pending, ← hKept hPending]
  exact hPending

/- Signing takes a grant, made since or still to be used. -/
theorem Turn.credit
    {e : Event}
    (h : Turn sys i target s e t)
    {new : List Entry}
    (hNew : t.log = new ++ s.log) :
    new.count (.signed i target) + credit sys t i target ≤
      credit sys s i target +
        new.count (.granted i target) := by
  cases h with
  | passed new' hLog hGranted hSigned hKept =>
      have hSame : new = new' :=
        List.append_cancel_right (hNew.symm.trans hLog)
      subst hSame
      rw [List.count_eq_zero.mpr hSigned,
        List.count_eq_zero.mpr hGranted, Nat.zero_add,
        Nat.add_zero]
      apply Bool.toNat_le_toNat
      exact pending_of_kept hKept
  | granted now hEvent hLog hPrimary =>
      have hSame : new = [.granted i target] :=
        List.append_cancel_right (hNew.symm.trans hLog)
      have hLe := (t.pending sys i target).toNat_le
      simp only [hSame, DialLoop.credit, List.count_singleton]
      simp
      omega
  | signed hPending hLog hDone =>
      have hSame : new = [.signed i target] :=
        List.append_cancel_right (hNew.symm.trans hLog)
      simp [hSame, DialLoop.credit, hPending, hDone]

/-
  Along a run, every client signs at most as often as it was
  granted, and once more if it had something to sign.
-/
theorem run_credit
    (hDefault : sys.lib.DefaultPublished)
    (hArbiter : sys.arbiter = some primaryArbiter)
    {es : List Event}
    (hRun : (machine sys).run s es = some t) :
    ∃ new,
      t.log = new ++ s.log ∧
      ∀ i target,
        new.count (.signed i target) +
            credit sys t i target ≤
          credit sys s i target +
            new.count (.granted i target) := by
  induction es generalizing s with
  | nil =>
      cases hRun
      refine ⟨[], rfl, ?_⟩
      intro i target
      simp
  | cons e es ih =>
      rcases ((machine sys).run_cons_iff s t e es).mp hRun with
        ⟨m, hHead, hTail⟩
      rcases ih hTail with ⟨later, hLater, hRest⟩
      have hTurn :=
        transition_turn hDefault hArbiter (step_transition hHead)
      rcases (hTurn 0 []).log with ⟨new, hNew⟩
      refine ⟨later ++ new, ?_, ?_⟩
      · rw [hLater, hNew, List.append_assoc]
      · intro i target
        have hFirst := (hTurn i target).credit hNew
        have hSecond := hRest i target
        rw [List.count_append, List.count_append]
        omega

/-
  A client with something to sign at the end of a run had it
  at the start, or was granted the role on the way; since
  then it has not moved.
-/
theorem run_pending
    (hDefault : sys.lib.DefaultPublished)
    (hArbiter : sys.arbiter = some primaryArbiter)
    {es : List Event}
    (hRun : (machine sys).run s es = some t)
    (hPending : t.pending sys i target = true) :
    t.clients[i]? = s.clients[i]? ∨
      GrantedOn sys s es t i target := by
  induction es generalizing s with
  | nil =>
      cases hRun
      exact Or.inl rfl
  | cons e es ih =>
      rcases ((machine sys).run_cons_iff s t e es).mp hRun with
        ⟨m, hHead, hTail⟩
      rcases ih hTail with hSame |
        ⟨es₁, es₂, now, u, v, hEvents, hBefore, hGranted⟩
      · have hBetween : m.pending sys i target = true := by
          rw [State.pending, ← hSame]
          exact hPending
        cases transition_turn hDefault hArbiter
            (step_transition hHead) i target with
        | passed new hLog hGranted hSigned hKept =>
            exact Or.inl (hSame.trans (hKept hBetween))
        | granted now hEvent hLog hPrimary =>
            subst hEvent
            exact Or.inr ⟨[], es, now, s, m, rfl, rfl, hHead,
              hTail, hLog, hPrimary, hSame.symm⟩
        | signed hOld hLog hDone =>
            rw [hDone] at hBetween
            cases hBetween
      · refine Or.inr
          ⟨e :: es₁, es₂, now, u, v, ?_, ?_, hGranted⟩
        · rw [hEvents, List.cons_append]
        · exact ((machine sys).run_cons_iff s u e es₁).mpr
            ⟨m, hHead, hBefore⟩

theorem pending_initial
    (file : PathEntry)
    (targets : List Bytes) :
    (State.initial file targets).pending sys i target =
      false := by
  rw [State.pending, State.initial, List.getElem?_map]
  cases targets[i]? with
  | none => rfl
  | some id => rfl

/-
  As long as a target is not granted the role again, every
  client of it signs at most once, and what it signs was
  granted before, when the target was the primary.
-/
theorem one_stale_signing
    (sys : System PrimaryArbiter)
    (hDefault : sys.lib.DefaultPublished)
    (hArbiter : sys.arbiter = some primaryArbiter)
    (file : PathEntry)
    (targets : List Bytes)
    (es es' : List Event)
    (s t : State PrimaryArbiter)
    (hRun :
      (machine sys).run (State.initial file targets) es =
        some s)
    (hRest : (machine sys).run s es' = some t)
    (target : Bytes) :
    ∃ new,
      t.log = new ++ s.log ∧
      ((∀ j, .granted j target ∉ new) →
        ∀ i,
          new.count (.signed i target) ≤ 1 ∧
          (.signed i target ∈ new →
            GrantedOn sys (State.initial file targets) es s
              i target)) := by
  rcases run_credit hDefault hArbiter hRest with
    ⟨new, hNew, hCredit⟩
  refine ⟨new, hNew, ?_⟩
  intro hNone i
  have hBound := hCredit i target
  rw [List.count_eq_zero.mpr (hNone i), Nat.add_zero]
    at hBound
  have hLe : credit sys s i target ≤ 1 :=
    (s.pending sys i target).toNat_le
  refine ⟨by omega, ?_⟩
  intro hSigned
  have hPos := List.count_pos_iff.mpr hSigned
  have hPending : s.pending sys i target = true := by
    apply Bool.toNat_eq_one.mp
    have hOne : credit sys s i target = 1 := by omega
    exact hOne
  rcases run_pending hDefault hArbiter hRun hPending with
    hSame | hGranted
  · rw [State.pending, hSame] at hPending
    exact absurd
      (hPending.symm.trans (pending_initial file targets))
      Bool.noConfusion
  · exact hGranted

/-
  The second target is granted the role; before it signs, the
  preferred target takes the role back.
-/
def overtakenRun : List Event :=
  [.restart, .move 0 .dial, .move 0 .dialed,
    .move 0 (.read DialRun.sampleRequest), .move 1 .dial,
    .move 1 .dialed, .move 1 (.read DialRun.sampleRequest),
    .gate 1 (DialRun.sampleTime 1),
    .gate 0 (DialRun.sampleTime 2)]

theorem overtakenRun_result :
    ((machine DialRun.sampleSystem).run
        (State.initial (.file freshStateJSON) sampleTargets)
        overtakenRun).bind (fun s =>
          ((machine DialRun.sampleSystem).run s
            [.enter 1]).map (fun t =>
              (s.primary, s.log, t.log))) =
      some (ascii "tcp://node-a:26659",
        [.granted 0 (ascii "tcp://node-a:26659"),
          .granted 1 (ascii "tcp://node-b:26659")],
        [.signed 1 (ascii "tcp://node-b:26659"),
          .granted 0 (ascii "tcp://node-a:26659"),
          .granted 1 (ascii "tcp://node-b:26659")]) := by
  decide +kernel

/- Its one stale signing was granted while it was primary. -/
theorem overtaken_target_signs_once :
    ∃ s t,
      (machine DialRun.sampleSystem).run
          (State.initial (.file freshStateJSON)
            sampleTargets)
          overtakenRun = some s ∧
      s.primary = ascii "tcp://node-a:26659" ∧
      (machine DialRun.sampleSystem).run s [.enter 1] =
        some t ∧
      t.log =
        .signed 1 (ascii "tcp://node-b:26659") :: s.log ∧
      GrantedOn DialRun.sampleSystem
        (State.initial (.file freshStateJSON) sampleTargets)
        overtakenRun s 1 (ascii "tcp://node-b:26659") := by
  rcases Option.bind_eq_some_iff.mp overtakenRun_result with
    ⟨s, hRun, hRest⟩
  rcases Option.map_eq_some_iff.mp hRest with
    ⟨t, hEnter, hResult⟩
  rcases Prod.mk.inj hResult with ⟨hPrimary, hLogs⟩
  rcases Prod.mk.inj hLogs with ⟨hBefore, hAfter⟩
  rcases one_stale_signing DialRun.sampleSystem
      DialRun.sampleComet_default rfl _ _ _ _ s t hRun
      hEnter (ascii "tcp://node-b:26659") with
    ⟨new, hNew, hOnce⟩
  have hLog :
      t.log =
        .signed 1 (ascii "tcp://node-b:26659") :: s.log := by
    rw [hAfter, hBefore]
  have hEntry :
      new = [.signed 1 (ascii "tcp://node-b:26659")] :=
    List.append_cancel_right (hNew.symm.trans hLog)
  refine ⟨s, t, hRun, hPrimary, hEnter, hLog, ?_⟩
  apply (hOnce ?_ 1).2
  · rw [hEntry]
    exact List.mem_singleton_self _
  · intro j
    rw [hEntry]
    simp

end DialLoop

end Consensus

end BridgeSigner
