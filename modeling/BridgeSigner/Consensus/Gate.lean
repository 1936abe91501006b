import BridgeSigner.Consensus.DialRun

/-
  The gated handler as a whole: a request through the gate,
  the validating handler and the private validator
  (consensus/server.go, consensus/handler.go).

  The gate reads the height of a vote or proposal before any
  check, so it panics on a sign request that has none; on
  every other request it returns, and it changes no response
  that it lets through.

  Key definitions include:
    * `System.ungated`
    * `System.served`

  Main results:
    * `DialRun.run_holds`
    * `System.gated_transparent_iff_present`
-/

------------------------------------------------------------
-- Whole Requests
------------------------------------------------------------

namespace BridgeSigner

namespace Consensus

/- What a handler comes to. -/
inductive Handled where
| panic
| replied (reply : Reply)
  deriving DecidableEq

/- The outcome of a call, and the last-sign state after it. -/
def Entered.handled
    (st : LastSignState) :
    Entered → Handled × LastSignState
| .panic => (.panic, st)
| .done reply => (.replied reply, st)
| .saving st' reply => (.replied reply, st')

namespace System

variable {σ : Type}
variable (sys : System σ)

/- The validating handler on a last-sign state. -/
def ungated
    (st : LastSignState)
    (req : Message) : Handled × LastSignState :=
  ((sys.handler req).enter sys.lib sys.chainID st).handled st

/- The handler installed for a target, on the same state. -/
def served
    (a : σ)
    (st : LastSignState)
    (id : Bytes)
    (now : Instant)
    (req : Message) : Handled × σ × LastSignState :=
  match sys.handle a id now req with
  | (none, a') => (.panic, a', st)
  | (some plan, a') =>
      let r :=
        (plan.enter sys.lib sys.chainID st).handled st
      (r.1, a', r.2)

end System

/- The height of a sign request that has one. -/
def Message.signHeight : Message → Option Int
| .signVoteRequest vote _ => vote.map Vote.height
| .signProposalRequest proposal _ =>
    proposal.map Proposal.height
| _ => none

/- A sign request whose vote or proposal is absent. -/
def Message.PartAbsent : Message → Prop
| .signVoteRequest none _ => True
| .signProposalRequest none _ => True
| _ => False

/- The arbiter grants the request, if it is asked at all. -/
def Passes
    (a : PrimaryArbiter)
    (id : Bytes)
    (now : Instant)
    (req : Message) : Prop :=
  ∀ height, req.signHeight = some height →
    (a.acquire id height now).1 = true

end Consensus

end BridgeSigner

------------------------------------------------------------
-- Reachable Last-Sign States
------------------------------------------------------------

namespace BridgeSigner

namespace Consensus

/- A property of last-sign states that signing keeps. -/
def Comet.Keeps
    (lib : Comet)
    (P : LastSignState → Prop) : Prop :=
  ∀ st (x : Signed), P st → st.hrs < x.hrs →
    x.state.Genuine lib → P x.state

theorem Comet.keeps_sane
    (lib : Comet) :
    lib.Keeps (LastSignState.Sane lib) :=
  fun _ _ _ _ hGenuine => ⟨fun _ => rfl, hGenuine⟩

namespace DialRun

variable {σ : Type}
variable {sys : System σ}
variable {P : LastSignState → Prop}
variable {s t : State σ}

/- A process whose last-sign state has the property. -/
structure Process.Holds
    (P : LastSignState → Prop)
    (p : Process σ) : Prop where
  memory : P p.memory
  critical :
    p.critical.isSome = true →
      ∃ x : Signed, p.memory = x.state ∧
        x.signBytes ≠ [] ∧ x.signature ≠ []

/- The memory has the property, and so has the file. -/
structure HoldsIn
    (P : LastSignState → Prop)
    (sys : System σ)
    (s : State σ) : Prop where
  file : ∀ st, sys.load s.file = .ok st → P st
  process : ∀ p, s.process = some p → p.Holds P

namespace HoldsIn

theorem die
    (hs : HoldsIn P sys s) :
    HoldsIn P sys s.die :=
  { hs with
    process := by
      intro p hp
      cases hp }

theorem resume
    (hs : HoldsIn P sys s)
    {p : Process σ}
    (hp : p.Holds P) :
    HoldsIn P sys (s.resume p) :=
  { hs with
    process := by
      intro q hq
      cases hq
      exact hp }

theorem respond
    (hs : HoldsIn P sys s)
    (reply : Reply) :
    HoldsIn P sys (s.respond reply) :=
  { hs with }

/- A save puts the memory into the file. -/
theorem saved
    (hRestored : sys.lib.StateRestored)
    (hs : HoldsIn P sys s)
    {p : Process σ}
    (hp : p.Holds P)
    (hCritical : p.critical.isSome = true) :
    HoldsIn P sys (s.saved sys.lib p.memory) :=
  { hs with
    file := by
      intro st hLoad
      rcases hp.critical hCritical with
        ⟨x, hState, hBytes, hSignature⟩
      have hMemory := hp.memory
      rw [hState] at hLoad hMemory
      rw [startPV_saved hRestored hBytes hSignature hLoad]
      exact hMemory }

end HoldsIn

/- Carrying a request out keeps the property. -/
theorem enter_holds
    (hDefault : sys.lib.DefaultPublished)
    (hOnce : sys.lib.SignsOnce)
    (hKeeps : sys.lib.Keeps P)
    (hs : HoldsIn P sys s)
    {p : Process σ}
    (hp : p.Holds P)
    (req : Message) :
    HoldsIn P sys
      (afterEnter s p
        ((sys.handler req).enter sys.lib sys.chainID
          p.memory)) := by
  have hServed := sys.handler_served hDefault req
  cases hEnter :
      (sys.handler req).enter sys.lib sys.chainID
        p.memory with
  | panic => exact hs.die
  | done reply => exact (hs.resume hp).respond reply
  | saving st reply =>
      rcases hServed.saving hOnce hEnter with
        ⟨x, -, rfl, hGenuine, -, hLt, hBytes, hSignature⟩
      exact hs.resume
        ⟨hKeeps p.memory x hp.memory hLt hGenuine,
          fun _ => ⟨x, rfl, hBytes, hSignature⟩⟩

theorem transition_holds
    (hDefault : sys.lib.DefaultPublished)
    (hOnce : sys.lib.SignsOnce)
    (hRestored : sys.lib.StateRestored)
    (hKeeps : sys.lib.Keeps P)
    {e : Event}
    (hTransition : Transition sys s e t)
    (hs : HoldsIn P sys s) :
    HoldsIn P sys t := by
  cases hTransition with
  | @arrive p hProcess id req now =>
      have hp := hs.process p hProcess
      rcases sys.handle p.arbiter id now req with
        ⟨_ | plan, a⟩
      · exact hs.die
      · cases plan with
        | answer reply =>
            have hp' :
                Process.Holds P { p with arbiter := a } :=
              ⟨hp.memory, hp.critical⟩
            exact (hs.resume hp').respond reply
        | _ => exact hs.resume ⟨hp.memory, hp.critical⟩
  | @enter p hProcess id req hWaiting hFree =>
      have hp := hs.process p hProcess
      exact enter_holds hDefault hOnce hKeeps hs
        (p := { p with
          waiting := p.waiting.erase (id, req) })
        ⟨hp.memory, hp.critical⟩ req
  | @save p reply hProcess hCritical =>
      have hp := hs.process p hProcess
      have hSaved :=
        hs.saved hRestored hp (by rw [hCritical]; rfl)
      have hIdle :
          Process.Holds P { p with critical := none } :=
        ⟨hp.memory, nofun⟩
      exact (hSaved.resume hIdle).respond reply
  | @release p arbiter hProcess hArbiter id =>
      have hp := hs.process p hProcess
      exact hs.resume ⟨hp.memory, hp.critical⟩
  | crash landed => exact hs.die
  | @crashLanded p reply hProcess hCritical landed =>
      have hp := hs.process p hProcess
      exact (hs.saved hRestored hp
        (by rw [hCritical]; rfl)).die
  | @restart st hLoad =>
      exact hs.resume ⟨hs.file st hLoad, nofun⟩

theorem initial_holds
    {file : PathEntry}
    (hFile : ∀ st, sys.load file = .ok st → P st) :
    HoldsIn P sys (State.initial file) where
  file := hFile
  process := by
    intro p hp
    cases hp

/- Every reachable last-sign state has the property. -/
theorem run_holds
    (hDefault : sys.lib.DefaultPublished)
    (hOnce : sys.lib.SignsOnce)
    (hRestored : sys.lib.StateRestored)
    (hKeeps : sys.lib.Keeps P)
    {file : PathEntry}
    (hFile : ∀ st, sys.load file = .ok st → P st)
    {es : List Event}
    (hRun :
      (machine sys).run (State.initial file) es = some s) :
    HoldsIn P sys s := by
  refine Machine.run_invariant ?_ hRun (initial_holds hFile)
  intro s e t hStep hs
  exact transition_holds hDefault hOnce hRestored hKeeps
    (step_transition hStep) hs

end DialRun

end Consensus

end BridgeSigner

------------------------------------------------------------
-- Transparency
------------------------------------------------------------

namespace BridgeSigner

namespace Consensus

theorem notPrimaryResponse_of_absent
    {req : Message}
    (hAbsent : req.PartAbsent) :
    notPrimaryResponse req = .panic := by
  unfold Message.PartAbsent at hAbsent
  split at hAbsent
  · rfl
  · rfl
  · cases hAbsent

/- With the part present, the height is that of the request. -/
theorem notPrimaryResponse_of_present
    {req : Message}
    (hPresent : ¬req.PartAbsent) :
    notPrimaryResponse req = .other ∧
        req.signHeight = none ∨
      ∃ refusal height,
        notPrimaryResponse req = .sign refusal height ∧
          req.signHeight = some height := by
  cases req with
  | signVoteRequest vote cid =>
      cases vote with
      | none => exact absurd trivial hPresent
      | some v => exact Or.inr ⟨_, _, rfl, rfl⟩
  | signProposalRequest proposal cid =>
      cases proposal with
      | none => exact absurd trivial hPresent
      | some p => exact Or.inr ⟨_, _, rfl, rfl⟩
  | _ => exact Or.inl ⟨rfl, rfl⟩

namespace System

variable {sys : System PrimaryArbiter}
variable {st : LastSignState}
variable {req : Message}

theorem handle_absent
    (hArbiter : sys.arbiter = some primaryArbiter)
    (hAbsent : req.PartAbsent)
    (a : PrimaryArbiter)
    (id : Bytes)
    (now : Instant) :
    sys.handle a id now req = (none, a) := by
  simp only [handle, hArbiter, gatedHandler,
    notPrimaryResponse_of_absent hAbsent]

/-
  With the part present, a sign request goes by the arbiter:
  granted, it goes on to the validating handler, and refused,
  it is answered. Other requests go on.
-/
theorem handle_present
    (hArbiter : sys.arbiter = some primaryArbiter)
    (hPresent : ¬req.PartAbsent)
    (a : PrimaryArbiter)
    (id : Bytes)
    (now : Instant) :
    (req.signHeight = none ∧
        sys.handle a id now req =
          (some (sys.handler req), a)) ∨
      ∃ height, req.signHeight = some height ∧
        (a.acquire id height now =
              (true, a.elect id height now) ∧
            sys.handle a id now req =
              (some (sys.handler req),
                a.elect id height now) ∨
          a.acquire id height now = (false, a) ∧
            ∃ refusal, sys.handle a id now req =
              (some (.answer (refusal, none)), a)) := by
  rcases notPrimaryResponse_of_present hPresent with
    ⟨hOther, hHeight⟩ | ⟨refusal, height, hSign, hHeight⟩
  · left
    refine ⟨hHeight, ?_⟩
    simp only [handle, hArbiter, gatedHandler, hOther]
    rfl
  · right
    refine ⟨height, hHeight, ?_⟩
    rcases a.acquire_cases id height now with
      hAcquire | hAcquire
    · left
      refine ⟨hAcquire, ?_⟩
      simp only [handle, hArbiter, gatedHandler, hSign,
        primaryArbiter, hAcquire]
      rfl
    · right
      refine ⟨hAcquire, refusal, ?_⟩
      simp only [handle, hArbiter, gatedHandler, hSign,
        primaryArbiter, hAcquire]

/- What goes on is handled as without a gate. -/
theorem served_handler
    {a a' : PrimaryArbiter}
    {id : Bytes}
    {now : Instant}
    (hHandle :
      sys.handle a id now req = (some (sys.handler req), a')) :
    sys.served a st id now req =
      ((sys.ungated st req).1, a',
        (sys.ungated st req).2) := by
  rw [served, hHandle]
  rfl

theorem ungated_returns
    (hDefault : sys.lib.DefaultPublished)
    (hSteps : sys.lib.VoteSteps)
    (hNever : sys.lib.NeverPanics)
    (hSane : st.Sane sys.lib) :
    ∃ reply, (sys.ungated st req).1 = .replied reply := by
  have hServed := sys.handler_served hDefault req
  unfold ungated
  cases hEnter :
      (sys.handler req).enter sys.lib sys.chainID st with
  | panic =>
      exact absurd hEnter
        (hServed.no_panic hSteps hNever hSane)
  | done reply => exact ⟨reply, rfl⟩
  | saving st' reply => exact ⟨reply, rfl⟩

/-
  The gated handler returns, and gives the response of the
  ungated one whenever the arbiter grants the request or is
  not asked, for exactly the messages that are not a sign
  request with its vote or proposal absent.
-/
theorem gated_transparent_iff_present
    (sys : System PrimaryArbiter)
    (hDefault : sys.lib.DefaultPublished)
    (hSteps : sys.lib.VoteSteps)
    (hOnce : sys.lib.SignsOnce)
    (hNever : sys.lib.NeverPanics)
    (hRestored : sys.lib.StateRestored)
    (hArbiter : sys.arbiter = some primaryArbiter)
    {file : PathEntry}
    (hFile :
      ∀ st, sys.load file = .ok st → st.Sane sys.lib)
    {es : List DialRun.Event}
    {s : DialRun.State PrimaryArbiter}
    (hRun :
      (DialRun.machine sys).run (DialRun.State.initial file)
        es = some s)
    {p : DialRun.Process PrimaryArbiter}
    (hProcess : s.process = some p)
    (a : PrimaryArbiter)
    (id : Bytes)
    (now : Instant)
    (req : Message) :
    ((∃ reply,
          (sys.served a p.memory id now req).1 =
            .replied reply) ∧
        (Passes a id now req →
          (sys.served a p.memory id now req).1 =
              (sys.ungated p.memory req).1 ∧
            (sys.served a p.memory id now req).2.2 =
              (sys.ungated p.memory req).2)) ↔
      ¬req.PartAbsent := by
  have hSane : p.memory.Sane sys.lib :=
    ((DialRun.run_holds hDefault hOnce hRestored
      sys.lib.keeps_sane hFile hRun).process p
      hProcess).memory
  constructor
  · rintro ⟨⟨reply, hReturns⟩, -⟩ hAbsent
    rw [served, handle_absent hArbiter hAbsent] at hReturns
    cases hReturns
  · intro hPresent
    have hReturns : ∃ reply,
        (sys.ungated p.memory req).1 = .replied reply :=
      ungated_returns hDefault hSteps hNever hSane
    rcases handle_present hArbiter hPresent a id now with
      ⟨-, hHandle⟩ | ⟨height, hHeight,
        ⟨-, hHandle⟩ | ⟨hRefused, refusal, hHandle⟩⟩
    · rw [served_handler hHandle]
      exact ⟨hReturns, fun _ => ⟨rfl, rfl⟩⟩
    · rw [served_handler hHandle]
      exact ⟨hReturns, fun _ => ⟨rfl, rfl⟩⟩
    · refine ⟨⟨(refusal, none), ?_⟩, fun hPasses => ?_⟩
      · rw [served, hHandle]
        rfl
      · have hGranted := hPasses height hHeight
        rw [hRefused] at hGranted
        cases hGranted

open DialRun

theorem sample_file_sane :
    ∀ st, sampleSystem.load (.file freshStateJSON) =
        .ok st →
      st.Sane sampleComet := by
  intro st hst
  rw [sample_load] at hst
  cases hst
  exact ⟨nofun, nofun⟩

/- A prevote is handled; the theorem applies to it. -/
theorem gated_prevote_returns :
    ∃ reply,
      (sampleSystem.served sampleProcess.arbiter
          sampleProcess.memory (ascii "tcp://node-a:26659")
          (sampleTime 1) sampleRequest).1 =
        .replied reply :=
  ((gated_transparent_iff_present sampleSystem
    sampleComet_default sampleComet_voteSteps
    sampleComet_signsOnce
    (FilePV.library_neverPanics samplePubKey sampleFiles
      samplePV_encodes)
    sampleComet_stateRestored rfl sample_file_sane
    sampleStart_reached rfl sampleProcess.arbiter
    (ascii "tcp://node-a:26659") (sampleTime 1)
    sampleRequest).mpr (fun h => h)).1

/- A request without a vote kills the process. -/
theorem gated_nil_vote_panics :
    (machine sampleSystem).run
        (State.initial (.file freshStateJSON)) [.restart] =
      some sampleStart ∧
    (sampleSystem.served sampleProcess.arbiter
        sampleProcess.memory (ascii "tcp://node-a:26659")
        (sampleTime 1)
        (.signVoteRequest none sampleChain)).1 =
      .panic ∧
    (sampleSystem.ungated sampleProcess.memory
        (.signVoteRequest none sampleChain)).1 =
      .replied
        (.signedVoteResponse .zero
          (remoteErr ⟨"nil vote in request", []⟩),
          some ⟨"nil vote", []⟩) := by
  refine ⟨sampleStart_reached, ?_, ?_⟩
  · decide +kernel
  · decide +kernel

end System

end Consensus

end BridgeSigner
