import Mathlib.Logic.Equiv.List
import BridgeSigner.Foundation.SignOnce
import BridgeSigner.Consensus.FilePV
import BridgeSigner.Consensus.StateFile

/-
  Runs of the consensus signer: any number of dial clients
  that share one locked private validator, with crashes and
  restarts (consensus/locked_pv.go, consensus/server.go,
  consensus/loadpv.go).

  A request passes the gate, waits for the mutex and is
  carried out under it. A new signature is in memory first,
  then its state is saved, and only then is it returned; the
  process may die in between, with the save in place or not.
  An arbiter of any kind may be in front, or none.

  The runs refine the durable register `SignOnce`, at the
  heights, rounds and steps.

  Key definitions include:
    * `System`
    * `DialRun.step`
    * `DialRun.Abstracts`

  Main results:
    * `DialRun.simulates_signOnce`
    * `DialRun.no_double_sign`
-/

------------------------------------------------------------
-- States And Events
------------------------------------------------------------

namespace BridgeSigner

namespace Consensus

/- A configured signer; there may be no arbiter. -/
structure System (σ : Type) where
  lib : Comet
  chainID : Bytes
  valAddr : Bytes
  arbiter : Option (Arbiter σ)
  start : σ
  keyFilePath : Bytes
  stateFilePath : Bytes
  keyFile : PathEntry

namespace System

variable {σ : Type}
variable (sys : System σ)

/- The handler that takes the requests of every target. -/
def handler
    (req : Message) : Plan :=
  validationRequestHandler sys.lib sys.valAddr req
    sys.chainID

/- The handler installed for the target `id`. -/
def handle
    (a : σ)
    (id : Bytes)
    (now : Instant)
    (req : Message) : Option Plan × σ :=
  match sys.arbiter with
  | none => (some (sys.handler req), a)
  | some arbiter =>
      gatedHandler arbiter a id now
        (validationRequestHandler sys.lib sys.valAddr) req
        sys.chainID

/- Start the private validator on a state file. -/
def load
    (stateFile : PathEntry) : Except Err LastSignState :=
  startPV sys.lib sys.keyFilePath sys.stateFilePath
    sys.keyFile stateFile

/- The signature in a response. -/
def signed
    (res : Message) : Option Signed :=
  res.signed sys.lib sys.chainID

end System

namespace DialRun

/-
  A running process. `critical` is the call that holds the
  mutex while its state is saved, with the reply it will give.
-/
structure Process (σ : Type) where
  memory : LastSignState
  arbiter : σ
  waiting : List (Bytes × Message)
  critical : Option Reply
  deriving DecidableEq

/-
  The state file, the process if one runs, the signatures
  saved and the responses returned, the newest first.
-/
structure State (σ : Type) where
  file : PathEntry
  process : Option (Process σ)
  fresh : List Signed
  responses : List Message
  deriving DecidableEq

/-
  What can happen. A crash during a save leaves the new file
  in place or not.
-/
inductive Event where
| arrive (id : Bytes) (req : Message) (now : Instant)
| enter (id : Bytes) (req : Message)
| save
| release (id : Bytes)
| crash (landed : Bool)
| restart

variable {σ : Type}

/- Nothing runs yet on the given state file. -/
def State.initial
    (file : PathEntry) : State σ :=
  ⟨file, none, [], []⟩

namespace State

variable (s : State σ)

def resume
    (p : Process σ) : State σ :=
  { s with process := some p }

def die : State σ :=
  { s with process := none }

/- Return a response. -/
def respond
    (reply : Reply) : State σ :=
  { s with responses := reply.1 :: s.responses }

/- The save of a new signature is in place. -/
def saved
    (lib : Comet)
    (st : LastSignState) : State σ :=
  { s with
    file := .file (lib.marshalState st)
    fresh := st.signed.toList ++ s.fresh }

end State

end DialRun

end Consensus

end BridgeSigner

------------------------------------------------------------
-- The Machine
------------------------------------------------------------

namespace BridgeSigner

namespace Consensus

namespace DialRun

variable {σ : Type}
variable (sys : System σ)

/-
  A request has passed the gate. A panic kills the process;
  with a save under way it is the crash event that says
  whether that save was in place.
-/
def afterGate
    (s : State σ)
    (p : Process σ)
    (id : Bytes)
    (req : Message) :
    Option Plan × σ → State σ
| (none, _) => s.die
| (some (.answer reply), a) =>
    (s.resume { p with arbiter := a }).respond reply
| (some _, a) =>
    s.resume { p with
      arbiter := a
      waiting := (id, req) :: p.waiting }

/- A request has been carried out under the mutex. -/
def afterEnter
    (s : State σ)
    (p : Process σ) :
    Entered → State σ
| .panic => s.die
| .done reply => (s.resume p).respond reply
| .saving st reply =>
    s.resume { p with memory := st, critical := some reply }

/- One event; `none` when it is not enabled. -/
def step
    (s : State σ) :
    Event → Option (State σ)
| .arrive id req now =>
    match s.process with
    | none => none
    | some p =>
        some (afterGate s p id req
          (sys.handle p.arbiter id now req))
| .enter id req =>
    match s.process with
    | none => none
    | some p =>
        -- The mutex is free.
        if (id, req) ∈ p.waiting ∧ p.critical.isNone then
          some (afterEnter s
            { p with waiting := p.waiting.erase (id, req) }
            ((sys.handler req).enter sys.lib sys.chainID
              p.memory))
        else
          none
| .save =>
    match s.process with
    | none => none
    | some p =>
        match p.critical with
        | none => none
        | some reply =>
            some ((((s.saved sys.lib p.memory).resume
              { p with critical := none })).respond reply)
| .release id =>
    match s.process, sys.arbiter with
    | some p, some arbiter =>
        some (s.resume { p with
          arbiter := arbiter.release p.arbiter id })
    | _, _ => none
| .crash landed =>
    match s.process with
    | none => none
    | some p =>
        if p.critical.isSome && landed then
          some (s.saved sys.lib p.memory).die
        else
          some s.die
| .restart =>
    match s.process with
    | some _ => none
    | none =>
        match sys.load s.file with
        | .error _ => none
        | .ok st => some (s.resume ⟨st, sys.start, [], none⟩)

def machine : Machine (State σ) Event where
  step := step sys

end DialRun

end Consensus

end BridgeSigner

------------------------------------------------------------
-- What A Step Can Do
------------------------------------------------------------

namespace BridgeSigner

namespace Consensus

namespace DialRun

variable {σ : Type}
variable {sys : System σ}
variable {s t : State σ}

/- The enabled events, with the states they lead to. -/
inductive Transition
    (sys : System σ)
    (s : State σ) :
    Event → State σ → Prop where
| arrive
    {p : Process σ}
    (hProcess : s.process = some p)
    (id : Bytes)
    (req : Message)
    (now : Instant) :
    Transition sys s (.arrive id req now)
      (afterGate s p id req
        (sys.handle p.arbiter id now req))
| enter
    {p : Process σ}
    (hProcess : s.process = some p)
    {id : Bytes}
    {req : Message}
    (hWaiting : (id, req) ∈ p.waiting)
    (hFree : p.critical = none) :
    Transition sys s (.enter id req)
      (afterEnter s
        { p with waiting := p.waiting.erase (id, req) }
        ((sys.handler req).enter sys.lib sys.chainID
          p.memory))
| save
    {p : Process σ}
    {reply : Reply}
    (hProcess : s.process = some p)
    (hCritical : p.critical = some reply) :
    Transition sys s .save
      (((s.saved sys.lib p.memory).resume
        { p with critical := none }).respond reply)
| release
    {p : Process σ}
    {arbiter : Arbiter σ}
    (hProcess : s.process = some p)
    (hArbiter : sys.arbiter = some arbiter)
    (id : Bytes) :
    Transition sys s (.release id)
      (s.resume { p with
        arbiter := arbiter.release p.arbiter id })
| crash
    (landed : Bool) :
    Transition sys s (.crash landed) s.die
| crashLanded
    {p : Process σ}
    {reply : Reply}
    (hProcess : s.process = some p)
    (hCritical : p.critical = some reply)
    (landed : Bool) :
    Transition sys s (.crash landed)
      (s.saved sys.lib p.memory).die
| restart
    {st : LastSignState}
    (hLoad : sys.load s.file = .ok st) :
    Transition sys s .restart
      (s.resume ⟨st, sys.start, [], none⟩)

theorem step_transition
    {e : Event}
    (hStep : step sys s e = some t) :
    Transition sys s e t := by
  cases e with
  | arrive id req now =>
      simp only [step] at hStep
      split at hStep
      · cases hStep
      · cases hStep
        exact .arrive ‹_› id req now
  | enter id req =>
      simp only [step] at hStep
      split at hStep
      · cases hStep
      · split at hStep
        · rename_i hEnabled
          cases hStep
          exact .enter ‹_› hEnabled.1
            (Option.isNone_iff_eq_none.mp hEnabled.2)
        · cases hStep
  | save =>
      simp only [step] at hStep
      split at hStep
      · cases hStep
      · split at hStep
        · cases hStep
        · cases hStep
          exact .save ‹_› ‹_›
  | release id =>
      simp only [step] at hStep
      split at hStep
      · cases hStep
        exact .release ‹_› ‹_› id
      · cases hStep
  | crash landed =>
      simp only [step] at hStep
      split at hStep
      · cases hStep
      · split at hStep
        · rename_i hLanded
          cases hStep
          rcases Option.isSome_iff_exists.mp
              (Bool.and_eq_true_iff.mp hLanded).1 with
            ⟨reply, hCritical⟩
          exact .crashLanded ‹_› hCritical landed
        · cases hStep
          exact .crash landed
  | restart =>
      simp only [step] at hStep
      split at hStep
      · cases hStep
      · split at hStep
        · cases hStep
        · cases hStep
          exact .restart ‹_›

end DialRun

end Consensus

end BridgeSigner

------------------------------------------------------------
-- The Register Behind A Run
------------------------------------------------------------

namespace BridgeSigner

namespace Consensus

/- The sign-bytes and the signature at one place. -/
abbrev PVRegister :=
  SignOnce.Register HRS (Bytes × Bytes)

/- What a signature is, without its place. -/
def Signed.content
    (x : Signed) : Bytes × Bytes :=
  (x.signBytes, x.signature)

namespace DialRun

variable {σ : Type}
variable (sys : System σ)

/-
  A cell of the register stands for a last-sign state: it is
  at the same place, and holds the signature that is given
  out again there. The state need not be of our own making.
-/
structure CellOf
    (c : SignOnce.Cell HRS (Bytes × Bytes))
    (st : LastSignState) : Prop where
  mark : c.mark = st.hrs
  memo :
    ∀ x, sys.lib.Reuses sys.chainID st x →
      c.memo = some x.content

/- The signature being saved, and its reply. -/
structure Pending
    (c : SignOnce.Cell HRS (Bytes × Bytes))
    (st : LastSignState)
    (reply : Reply)
    (x : Signed) : Prop where
  signed : sys.signed reply.1 = some x
  state : st = x.state
  genuine : x.state.Genuine sys.lib
  above : c.mark < x.hrs
  bytes_nonempty : x.signBytes ≠ []
  signature_nonempty : x.signature ≠ []

/- The memory of a process, by what it is doing. -/
def MemoryOf
    (c : SignOnce.Cell HRS (Bytes × Bytes))
    (p : Process σ) : Prop :=
  match p.critical with
  | none => CellOf sys c p.memory
  | some reply => ∃ x, Pending sys c p.memory reply x

/-
  The register has what the state file holds, has called for
  every signature saved and has answered every response.
-/
structure Abstracts
    (s : State σ)
    (r : PVRegister) : Prop where
  synced : r.memory = r.disk
  file :
    ∀ st, sys.load s.file = .ok st → CellOf sys r.disk st
  process :
    ∀ p, s.process = some p → MemoryOf sys r.memory p
  fresh :
    ∃ base, r.granted = s.fresh.map Signed.hrs ++ base
  responses :
    ∀ res ∈ s.responses, ∀ x, sys.signed res = some x →
      (x.hrs, x.content) ∈ r.answers

variable {sys : System σ}

/- There is a cell for every state. -/
theorem exists_cellOf
    (hSteps : sys.lib.VoteSteps)
    (hOnce : sys.lib.SignsOnce)
    (st : LastSignState) :
    ∃ c, CellOf sys c st := by
  by_cases hReused :
      ∃ x, sys.lib.Reuses sys.chainID st x
  · rcases hReused with ⟨x, hx⟩
    refine ⟨⟨st.hrs, some x.content⟩, rfl, ?_⟩
    intro y hy
    rw [hx.unique hSteps hOnce hy]
  · refine ⟨⟨st.hrs, none⟩, rfl, ?_⟩
    intro x hx
    exact absurd ⟨x, hx⟩ hReused

theorem cellOf_genuine
    (hOnce : sys.lib.SignsOnce)
    {x : Signed}
    (hGenuine : x.state.Genuine sys.lib) :
    CellOf sys ⟨x.hrs, some x.content⟩ x.state where
  mark := rfl
  memo := by
    intro y hy
    have hSame := hy.saved hOnce hGenuine
    rw [Signed.state_signed] at hSame
    cases hSame
    rfl

end DialRun

end Consensus

end BridgeSigner

------------------------------------------------------------
-- Matching Steps
------------------------------------------------------------

namespace BridgeSigner

namespace Consensus

/- What is answered without the private validator. -/
theorem Plan.Served.answer_unsigned
    {lib : Comet}
    {valAddr chainID : Bytes}
    {req : Message}
    {reply : Reply}
    (hServed :
      Plan.Served lib valAddr chainID req (.answer reply)) :
    reply.1.signed lib chainID = none := by
  cases hServed with
  | answer hUnsigned hKind =>
      exact hUnsigned.signed lib chainID

theorem notPrimaryResponse_unsigned
    (lib : Comet)
    (chainID : Bytes)
    {req refusal : Message}
    {height : Int}
    (hSign : notPrimaryResponse req = .sign refusal height) :
    refusal.signed lib chainID = none := by
  unfold notPrimaryResponse at hSign
  split at hSign
  · cases hSign
    rfl
  · cases hSign
  · cases hSign
    rfl
  · cases hSign
  · cases hSign

/- The handler signs only what it has checked. -/
theorem System.handler_served
    {σ : Type}
    (sys : System σ)
    (hDefault : sys.lib.DefaultPublished)
    (req : Message) :
    Plan.Served sys.lib sys.valAddr sys.chainID req
      (sys.handler req) :=
  validationRequestHandler_served hDefault

theorem System.handle_answer_unsigned
    {σ : Type}
    {sys : System σ}
    (hDefault : sys.lib.DefaultPublished)
    {a a' : σ}
    {id : Bytes}
    {now : Instant}
    {req : Message}
    {reply : Reply}
    (hHandle :
      sys.handle a id now req = (some (.answer reply), a')) :
    sys.signed reply.1 = none := by
  have hServed := sys.handler_served hDefault req
  have hPassed :
      sys.handler req = .answer reply →
        sys.signed reply.1 = none := by
    intro hPlan
    rw [hPlan] at hServed
    exact hServed.answer_unsigned
  unfold System.handle at hHandle
  split at hHandle
  · exact hPassed
      (Option.some.inj (congrArg Prod.fst hHandle))
  · unfold gatedHandler at hHandle
    split at hHandle
    · cases hHandle
    · exact hPassed
        (Option.some.inj (congrArg Prod.fst hHandle))
    · rename_i hSign
      split at hHandle
      · cases hHandle
        exact notPrimaryResponse_unsigned _ _ hSign
      · exact hPassed
          (Option.some.inj (congrArg Prod.fst hHandle))

namespace DialRun

variable {σ : Type}
variable {sys : System σ}
variable {s t : State σ}
variable {r : PVRegister}

namespace Abstracts

theorem die
    (hAbs : Abstracts sys s r) :
    Abstracts sys s.die r :=
  { hAbs with
    process := by
      intro p hp
      cases hp }

theorem resume
    (hAbs : Abstracts sys s r)
    {p : Process σ}
    (hMemory : MemoryOf sys r.memory p) :
    Abstracts sys (s.resume p) r :=
  { hAbs with
    process := by
      intro q hq
      cases hq
      exact hMemory }

theorem respond_unsigned
    (hAbs : Abstracts sys s r)
    {reply : Reply}
    (hUnsigned : sys.signed reply.1 = none) :
    Abstracts sys (s.respond reply) r :=
  { hAbs with
    responses := by
      intro res hRes x hx
      rcases List.mem_cons.mp hRes with rfl | hRes
      · rw [hUnsigned] at hx
        cases hx
      · exact hAbs.responses res hRes x hx }

theorem respond_signed
    (hAbs : Abstracts sys s r)
    {reply : Reply}
    {x : Signed}
    (hSigned : sys.signed reply.1 = some x) :
    Abstracts sys (s.respond reply)
      (r.answer x.hrs x.content) :=
  { hAbs with
    responses := by
      intro res hRes y hy
      rcases List.mem_cons.mp hRes with rfl | hRes
      · rw [hSigned] at hy
        cases hy
        exact List.mem_cons_self
      · exact List.mem_cons_of_mem _
          (hAbs.responses res hRes y hy) }

end Abstracts

/- The register after a save: granted, called and written. -/
def granted
    (r : PVRegister)
    (x : Signed) : PVRegister :=
  (((r.grant x.hrs).call x.hrs
    (some x.content)).remember x.content).flush

theorem reaches_granted
    {x : Signed}
    (hAbove : r.memory.mark < x.hrs) :
    SignOnce.machine.Reaches r (granted r x) := by
  have hGrant := SignOnce.reaches_grant r hAbove
  have hCall :=
    SignOnce.reaches_call (r.grant x.hrs)
      (Multiset.mem_cons_self x.hrs r.tokens)
      (some x.content)
  have hRemember :=
    SignOnce.reaches_remember
      ((r.grant x.hrs).call x.hrs (some x.content))
      (p := x.content) List.mem_cons_self
  exact hGrant.trans (hCall.trans
    (hRemember.trans (SignOnce.reaches_flush _)))

/- A save in place is a call of the register. -/
theorem Abstracts.saved
    (hOnce : sys.lib.SignsOnce)
    (hRestored : sys.lib.StateRestored)
    (hAbs : Abstracts sys s r)
    {st : LastSignState}
    {reply : Reply}
    {x : Signed}
    (hPending : Pending sys r.memory st reply x) :
    Abstracts sys (s.saved sys.lib st).die
      (granted r x) := by
  rcases hAbs.fresh with ⟨base, hBase⟩
  have hState := hPending.state
  subst hState
  constructor
  · rfl
  · intro st hLoad
    have hState :=
      startPV_saved hRestored hPending.bytes_nonempty
        hPending.signature_nonempty hLoad
    rw [hState]
    exact cellOf_genuine hOnce hPending.genuine
  · intro p hp
    cases hp
  · refine ⟨base, ?_⟩
    exact congrArg (x.hrs :: ·) hBase
  · exact hAbs.responses

end DialRun

end Consensus

end BridgeSigner

------------------------------------------------------------
-- Refinement
------------------------------------------------------------

namespace BridgeSigner

namespace Consensus

namespace DialRun

variable {σ : Type}
variable {sys : System σ}
variable {s t : State σ}
variable {r : PVRegister}

/- The register can follow to the state `t`. -/
def Followed
    (sys : System σ)
    (r : PVRegister)
    (t : State σ) : Prop :=
  ∃ r', SignOnce.machine.Reaches r r' ∧ Abstracts sys t r'

theorem Abstracts.followed
    (hAbs : Abstracts sys t r) :
    Followed sys r t :=
  ⟨r, Machine.Reaches.refl _ r, hAbs⟩

theorem arrive_followed
    (hDefault : sys.lib.DefaultPublished)
    (hAbs : Abstracts sys s r)
    {p : Process σ}
    (hProcess : s.process = some p)
    (id : Bytes)
    (req : Message)
    (now : Instant) :
    Followed sys r
      (afterGate s p id req
        (sys.handle p.arbiter id now req)) := by
  have hMemory := hAbs.process p hProcess
  apply Abstracts.followed
  rcases hHandle : sys.handle p.arbiter id now req with
    ⟨_ | plan, a⟩
  · exact hAbs.die
  · cases plan with
    | answer reply =>
        have hResumed :
            Abstracts sys
              (s.resume { p with arbiter := a }) r :=
          hAbs.resume hMemory
        exact hResumed.respond_unsigned
          (sys.handle_answer_unsigned hDefault hHandle)
    | _ => exact hAbs.resume hMemory

/- Carrying a request out under the mutex. -/
theorem enter_followed
    (hDefault : sys.lib.DefaultPublished)
    (hOnce : sys.lib.SignsOnce)
    (hAbs : Abstracts sys s r)
    {p : Process σ}
    (hFree : p.critical = none)
    (hMemory : CellOf sys r.memory p.memory)
    (req : Message) :
    Followed sys r
      (afterEnter s p
        ((sys.handler req).enter sys.lib sys.chainID
          p.memory)) := by
  have hServed := sys.handler_served hDefault req
  have hIdle : MemoryOf sys r.memory p := by
    simp only [MemoryOf, hFree]
    exact hMemory
  cases hEnter :
      (sys.handler req).enter sys.lib sys.chainID
        p.memory with
  | panic => exact hAbs.die.followed
  | done reply =>
      have hResumed := hAbs.resume hIdle
      cases hSigned : sys.signed reply.1 with
      | none =>
          exact (hResumed.respond_unsigned hSigned).followed
      | some x =>
          rcases hServed.done hOnce hEnter with
            hNone | ⟨y, hSaved, hReuses, -⟩
          · rw [System.signed, hNone] at hSigned
            cases hSigned
          · cases hSaved.symm.trans hSigned
            have hMark : r.memory.mark = x.hrs :=
              hMemory.mark.trans (hReuses.hrs_eq hOnce).symm
            have hCell :
                r.memory = ⟨x.hrs, some x.content⟩ :=
              SignOnce.Cell.ext hMark
                (hMemory.memo x hReuses)
            exact ⟨_,
              SignOnce.reaches_answer r (Or.inr hCell),
              hResumed.respond_signed hSigned⟩
  | saving st reply =>
      rcases hServed.saving hOnce hEnter with
        ⟨x, hSigned, hState, hGenuine, -, hLt, hBytes,
          hSignature⟩
      have hAbove : r.memory.mark < x.hrs := by
        rw [hMemory.mark]
        exact hLt
      apply Abstracts.followed
      exact hAbs.resume
        ⟨x, hSigned, hState, hGenuine, hAbove, hBytes,
          hSignature⟩

/- A save in place, and the reply after it. -/
theorem save_followed
    (hOnce : sys.lib.SignsOnce)
    (hRestored : sys.lib.StateRestored)
    (hAbs : Abstracts sys s r)
    {p : Process σ}
    {reply : Reply}
    {x : Signed}
    (hPending : Pending sys r.memory p.memory reply x) :
    Followed sys r
      (((s.saved sys.lib p.memory).resume
        { p with critical := none }).respond reply) := by
  have hSaved :=
    Abstracts.saved hOnce hRestored hAbs hPending
  have hCell :
      CellOf sys (granted r x).memory p.memory := by
    rw [hPending.state]
    exact cellOf_genuine hOnce hPending.genuine
  have hResumed :
      Abstracts sys
        ((s.saved sys.lib p.memory).resume
          { p with critical := none })
        (granted r x) :=
    hSaved.resume hCell
  refine ⟨_, (reaches_granted hPending.above).trans
    (SignOnce.reaches_answer _ ?_),
    hResumed.respond_signed hPending.signed⟩
  exact Or.inr rfl

/- Every step is a run of the register. -/
theorem transition_followed
    (hDefault : sys.lib.DefaultPublished)
    (hOnce : sys.lib.SignsOnce)
    (hRestored : sys.lib.StateRestored)
    {e : Event}
    (hTransition : Transition sys s e t)
    (hAbs : Abstracts sys s r) :
    Followed sys r t := by
  cases hTransition with
  | arrive hProcess id req now =>
      exact arrive_followed hDefault hAbs hProcess id req now
  | @enter p hProcess id req hWaiting hFree =>
      have hMemory := hAbs.process p hProcess
      simp only [MemoryOf, hFree] at hMemory
      exact enter_followed hDefault hOnce hAbs
        (p := { p with
          waiting := p.waiting.erase (id, req) })
        hFree hMemory req
  | @save p reply hProcess hCritical =>
      have hMemory := hAbs.process p hProcess
      simp only [MemoryOf, hCritical] at hMemory
      rcases hMemory with ⟨x, hPending⟩
      exact save_followed hOnce hRestored hAbs hPending
  | @release p arbiter hProcess hArbiter id =>
      have hMemory := hAbs.process p hProcess
      exact (hAbs.resume
        (p := { p with
          arbiter := arbiter.release p.arbiter id })
        hMemory).followed
  | crash landed => exact hAbs.die.followed
  | @crashLanded p reply hProcess hCritical landed =>
      have hMemory := hAbs.process p hProcess
      simp only [MemoryOf, hCritical] at hMemory
      rcases hMemory with ⟨x, hPending⟩
      exact ⟨_, reaches_granted hPending.above,
        Abstracts.saved hOnce hRestored hAbs hPending⟩
  | @restart st hLoad =>
      have hMemory : CellOf sys r.memory st := by
        rw [hAbs.synced]
        exact hAbs.file st hLoad
      exact (hAbs.resume
        (p := ⟨st, sys.start, [], none⟩)
        hMemory).followed

/- The runs refine the durable register. -/
theorem simulates_signOnce
    (hDefault : sys.lib.DefaultPublished)
    (hOnce : sys.lib.SignsOnce)
    (hRestored : sys.lib.StateRestored) :
    Machine.Simulates (machine sys)
      (SignOnce.machine (τ := HRS) (π := Bytes × Bytes))
      (fun _ => True) (Abstracts sys) where
  keeps := fun _ _ _ _ _ => trivial
  matched := fun _ _ _ hStep _ _ hAbs =>
    transition_followed hDefault hOnce hRestored
      (step_transition hStep) hAbs

/- The register at the start: whatever the file holds. -/
theorem abstracts_initial
    (hSteps : sys.lib.VoteSteps)
    (hOnce : sys.lib.SignsOnce)
    (file : PathEntry) :
    ∃ c, Abstracts sys (State.initial file)
      (SignOnce.Register.start c) := by
  have hCell :
      ∃ c : SignOnce.Cell HRS (Bytes × Bytes),
        ∀ st, sys.load file = .ok st → CellOf sys c st := by
    cases hLoad : sys.load file with
    | error e => exact ⟨⟨⟨0, 0, 0⟩, none⟩, nofun⟩
    | ok st =>
        rcases exists_cellOf hSteps hOnce st with ⟨c, hc⟩
        refine ⟨c, ?_⟩
        rintro st' ⟨⟩
        exact hc
  rcases hCell with ⟨c, hFile⟩
  refine ⟨c, rfl, hFile, ?_, ⟨_, rfl⟩, ?_⟩
  · intro p hp
    cases hp
  · intro res hRes
    cases hRes

/- A reached state has a consistent register behind it. -/
theorem run_consistent
    (hDefault : sys.lib.DefaultPublished)
    (hSteps : sys.lib.VoteSteps)
    (hOnce : sys.lib.SignsOnce)
    (hRestored : sys.lib.StateRestored)
    {file : PathEntry}
    {es : List Event}
    (hRun :
      (machine sys).run (State.initial file) es = some s) :
    ∃ r, SignOnce.Consistent r ∧ Abstracts sys s r := by
  rcases abstracts_initial hSteps hOnce file with
    ⟨c, hStart⟩
  rcases (simulates_signOnce hDefault hOnce hRestored).run
      hRun trivial hStart with
    ⟨-, r, hReach, hAbs⟩
  exact ⟨r,
    SignOnce.reaches_consistent hReach
      (SignOnce.consistent_start c), hAbs⟩

/-
  No double sign, over any interleaving of the requests of
  any targets, whatever an arbiter grants, and over crashes
  at any point with restarts on the same state file, which
  may hold anything at first: new
  signatures are made at strictly increasing heights, rounds
  and steps, and two signed responses for the same one carry
  the same sign-bytes and the same signature.
-/
theorem no_double_sign
    (sys : System σ)
    (hDefault : sys.lib.DefaultPublished)
    (hSteps : sys.lib.VoteSteps)
    (hOnce : sys.lib.SignsOnce)
    (hRestored : sys.lib.StateRestored)
    (file : PathEntry)
    (es : List Event)
    (hRun :
      (machine sys).run (State.initial file) es = some s) :
    (s.fresh.map Signed.hrs).Pairwise (· > ·) ∧
      ∀ res ∈ s.responses, ∀ res' ∈ s.responses,
        ∀ x x', sys.signed res = some x →
          sys.signed res' = some x' → x.hrs = x'.hrs →
            x.signBytes = x'.signBytes ∧
              x.signature = x'.signature := by
  rcases run_consistent hDefault hSteps hOnce hRestored
      hRun with
    ⟨r, hCons, hAbs⟩
  refine ⟨?_, ?_⟩
  · rcases hAbs.fresh with ⟨base, hGranted⟩
    have hStrict := hCons.granted_strict
    rw [hGranted] at hStrict
    exact (List.pairwise_append.mp hStrict).1
  · intro res hRes res' hRes' x x' hx hx' hPlace
    have hAnswer := hAbs.responses res hRes x hx
    have hAnswer' := hAbs.responses res' hRes' x' hx'
    rw [← hPlace] at hAnswer'
    have hContent :=
      hCons.answers_agree hAnswer hAnswer'
    exact Prod.mk.inj hContent

end DialRun

end Consensus

end BridgeSigner

------------------------------------------------------------
-- A Run With A Restart
------------------------------------------------------------

namespace BridgeSigner

namespace Consensus

namespace DialRun

def sampleChain : Bytes :=
  ascii "layertest-4"

def samplePubKey : Bytes :=
  beBytes 32
    0xd04ab232742bb4ab3a1368bd4615e4e6d0224ab71a016baf8520a332c9778737

def sampleAddress : Bytes :=
  beBytes 20 0x10ba682c8ad13513971e8b56881aab8bd702bb80

/- A prevote for no block at the first height. -/
def sampleVote : Vote :=
  { Vote.zero with
    type := .prevote
    height := 1
    validatorAddress := sampleAddress }

/- Its sign-bytes on the chain, and their signature. -/
def sampleSigned : Signed where
  hrs := ⟨1, 0, 2⟩
  signBytes := beBytes 38
    0x2508011101000000000000002a0b088092b8c398feffffff01320b6c61796572746573742d34
  signature := beBytes 64
    0xc0b4a6f677cd2db3ad22570bb0f9f5b9f274bbdc34f63169955904fced075b606c580787e19c7e6be80e21e11f9ad82162a2a8e60d9473fdb69bf1e93e94db0c

/- The state file after the prevote was signed. -/
def sampleStateJSON : Bytes :=
  ascii "\x7b\n  \"height\": \"1\",\n  \"round\": 0,\n" ++
    ascii "  \"step\": 2,\n  \"signature\": \"" ++
    ascii "wLSm9nfNLbOtIlcLsPn1ufJ0u9w09jFplVkE/O0HW2BsWAeH" ++
    ascii "4Zx+a+gOIeEfmtghYqKo5g2Uc/22m/HpPpTbDA==\",\n" ++
    ascii "  \"signbytes\": \"25080111010000000000000" ++
    ascii "02A0B088092B8C398FEFFFFFF01320B6C6179657274657374" ++
    ascii "2D34\"\n\x7d"

def sampleKeyJSON : Bytes :=
  ascii "\x7b\"priv_key\":\x7b\"type\":" ++
    ascii "\"tendermint/PrivKeyEd25519\",\"value\":\"" ++
    ascii "ERERERERERERERERERERERERERERERERERERERERERHQ" ++
    ascii "SrIydCu0qzoTaL1GFeTm0CJKtxoBa6+FIKMyyXeHNw==" ++
    ascii "\"\x7d\x7d"

/- The key, on the one message that is signed with it. -/
def sampleKey
    (message : Bytes) : Bytes :=
  if message = sampleSigned.signBytes then
    sampleSigned.signature
  else
    [0]

/- The sign-bytes of the prevote, signed or not. -/
def sampleVoteSignBytes
    (chainID : Bytes)
    (v : Vote) : Bytes :=
  if
    chainID = sampleChain ∧
      { v with
        signature := []
        extensionSignature := [] } = sampleVote
  then
    sampleSigned.signBytes
  else
    [0]

/- The validator, as far as the runs below use it. -/
def samplePV : FilePV where
  sign := fun message => .ok (sampleKey message)
  voteSignBytes := sampleVoteSignBytes
  voteExtensionSignBytes := fun _ _ => [0]
  proposalSignBytes := fun _ _ => [0]
  checkVotesOnlyDifferByTimestamp := fun _ _ => .different
  checkProposalsOnlyDifferByTimestamp := fun _ _ => .different
  errorText := fun _ =>
    ascii "error signing vote: conflicting data"

/- A code for the states that are not in the run. -/
abbrev SampleCode :=
  Int × Int × Int × List Nat × List Nat

def sampleFields
    (x : Signed) : SampleCode :=
  (x.hrs.height, x.hrs.round, x.hrs.step,
    x.signature.map UInt8.toNat,
    x.signBytes.map UInt8.toNat)

def sampleEncode
    (x : Signed) : Bytes :=
  List.replicate (Encodable.encode (sampleFields x)) 0

def sampleDecode
    (data : Bytes) : Fallible StateJSON :=
  (Encodable.decode (α := SampleCode) data.length).elim
    (.error (ascii "unexpected end of JSON input"))
    (fun f =>
      .ok ⟨f.1, f.2.1, f.2.2.1,
        some (f.2.2.2.1.map UInt8.ofNat),
        some (f.2.2.2.2.map UInt8.ofNat)⟩)

def sampleUnmarshal
    (data : Bytes) : Fallible StateJSON :=
  if data = freshStateJSON then
    .ok ⟨0, 0, 0, none, none⟩
  else if data = sampleStateJSON then
    .ok ⟨1, 0, 2, some sampleSigned.signature,
      some sampleSigned.signBytes⟩
  else
    sampleDecode data

def sampleMarshal
    (st : LastSignState) : Bytes :=
  if st = sampleSigned.state then
    sampleStateJSON
  else
    match st.signed with
    | none => []
    | some x => sampleEncode x

/- How the files of the runs below are read. -/
def sampleFiles : FilePV.Files where
  unmarshalKey := fun data =>
    if data = sampleKeyJSON then
      .ok (some (List.replicate 32 0x11 ++ samplePubKey))
    else
      .error (ascii "unexpected end of JSON input")
  newState := ⟨0, 0, 0, none, none⟩
  unmarshalState := sampleUnmarshal
  marshalState := sampleMarshal

def sampleComet : Comet :=
  samplePV.library samplePubKey sampleFiles

theorem sampleKey_nonempty
    (message : Bytes) :
    sampleKey message ≠ [] := by
  unfold sampleKey
  split
  · decide
  · decide

theorem samplePV_encodes :
    samplePV.Encodes where
  signs := fun message => ⟨_, rfl, sampleKey_nonempty message⟩
  vote_nonempty := by
    intro chainID v
    simp only [samplePV, sampleVoteSignBytes]
    split
    · decide
    · decide
  vote_signed := fun _ _ _ _ => rfl
  vote_agree := by
    intro signBytes chainID v w t u hCheck
    cases hCheck
  vote_saved := by
    intro chainID chainID' v w t hCheck
    cases hCheck
  vote_decodes := by
    intro chainID chainID' v w hCheck
    cases hCheck
  proposal_nonempty := fun _ _ => List.cons_ne_nil 0 []
  proposal_signed := fun _ _ _ => rfl
  proposal_agree := by
    intro signBytes chainID p q t u hCheck
    cases hCheck
  proposal_saved := by
    intro chainID chainID' p q t hCheck
    cases hCheck
  proposal_decodes := by
    intro chainID chainID' p q hCheck
    cases hCheck

theorem sampleEncode_ne
    (x : Signed)
    {data : Bytes}
    (hBrace : data.head? = some 123) :
    sampleEncode x ≠ data := by
  rintro rfl
  rw [sampleEncode, List.head?_replicate] at hBrace
  split at hBrace
  · cases hBrace
  · cases hBrace

theorem sampleDecode_sampleEncode
    (x : Signed) :
    sampleDecode (sampleEncode x) =
      .ok ⟨x.hrs.height, x.hrs.round, x.hrs.step,
        some x.signature, some x.signBytes⟩ := by
  have hByte : UInt8.ofNat ∘ UInt8.toNat = id := by
    funext b
    exact UInt8.ofNat_toNat
  rw [sampleDecode, sampleEncode, List.length_replicate,
    Encodable.encodek, Option.elim_some]
  simp [sampleFields, hByte]

theorem sampleUnmarshal_sampleMarshal
    (x : Signed) :
    sampleUnmarshal (sampleMarshal x.state) =
      .ok ⟨x.hrs.height, x.hrs.round, x.hrs.step,
        some x.signature, some x.signBytes⟩ := by
  by_cases hx : x.state = sampleSigned.state
  · have hSame : x = sampleSigned := by
      have hBoth := congrArg LastSignState.signed hx
      exact Option.some.inj hBoth
    have hNe : sampleStateJSON ≠ freshStateJSON := by
      decide +kernel
    rw [sampleMarshal, if_pos hx, sampleUnmarshal,
      if_neg hNe, if_pos rfl, hSame]
    rfl
  · have hMarshal :
        sampleMarshal x.state = sampleEncode x := by
      rw [sampleMarshal, if_neg hx]
      rfl
    have hFresh : sampleEncode x ≠ freshStateJSON :=
      sampleEncode_ne x (by decide +kernel)
    have hSample : sampleEncode x ≠ sampleStateJSON :=
      sampleEncode_ne x (by decide +kernel)
    rw [hMarshal, sampleUnmarshal, if_neg hFresh,
      if_neg hSample, sampleDecode_sampleEncode]

theorem sampleComet_default :
    sampleComet.DefaultPublished :=
  samplePV.library_default samplePubKey sampleFiles

theorem sampleComet_voteSteps :
    sampleComet.VoteSteps :=
  samplePV.library_voteSteps samplePubKey sampleFiles

theorem sampleComet_signsOnce :
    sampleComet.SignsOnce :=
  FilePV.library_signsOnce samplePubKey sampleFiles
    samplePV_encodes

theorem sampleComet_stateRestored :
    sampleComet.StateRestored :=
  fun x _ _ => sampleUnmarshal_sampleMarshal x

/- A reading of the clock soon after its start. -/
def sampleTime
    (ns : UInt32) : Instant where
  ns := ns.toNat
  bound := ns.toNat_lt.trans (by decide)

/- Two targets behind the arbiter of the source. -/
def sampleSystem : System PrimaryArbiter where
  lib := sampleComet
  chainID := sampleChain
  valAddr := sampleAddress
  arbiter := some primaryArbiter
  start :=
    newPreferringPrimaryArbiter 30000000000
      [ascii "tcp://node-a:26659", ascii "tcp://node-b:26659"]
  keyFilePath := ascii "/state/priv_validator_key.json"
  stateFilePath := ascii "/state/priv_validator_state.json"
  keyFile := .file sampleKeyJSON

def sampleRequest : Message :=
  .signVoteRequest (some sampleVote) sampleChain

/- The reply to it, once it is signed. -/
def sampleResponse : Message :=
  .signedVoteResponse
    { sampleVote with signature := sampleSigned.signature }
    none

/- The process that starts on a fresh state file. -/
def sampleProcess : Process PrimaryArbiter :=
  ⟨⟨0, 0, 0, none, none⟩, sampleSystem.start, [], none⟩

def sampleStart : State PrimaryArbiter :=
  (State.initial (.file freshStateJSON)).resume
    sampleProcess

theorem sample_load :
    sampleSystem.load (.file freshStateJSON) =
      .ok sampleProcess.memory := by
  decide +kernel

theorem sampleStart_reached :
    (machine sampleSystem).run
        (State.initial (.file freshStateJSON)) [.restart] =
      some sampleStart := by
  decide +kernel

/-
  One target's prevote is signed; the process dies and
  restarts, and the other target asks for the same prevote.
-/
def sampleRun : List Event :=
  [.restart,
    .arrive (ascii "tcp://node-b:26659") sampleRequest
      (sampleTime 1),
    .enter (ascii "tcp://node-b:26659") sampleRequest,
    .save, .crash false, .restart,
    .arrive (ascii "tcp://node-a:26659") sampleRequest
      (sampleTime 2),
    .enter (ascii "tcp://node-a:26659") sampleRequest]

theorem no_double_sign_after_restart :
    ∃ s,
      (machine sampleSystem).run
          (State.initial (.file freshStateJSON)) sampleRun =
        some s ∧
      s.responses = [sampleResponse, sampleResponse] ∧
      (s.fresh.map Signed.hrs).Pairwise (· > ·) := by
  have hResponses :
      ((machine sampleSystem).run
          (State.initial (.file freshStateJSON))
          sampleRun).map State.responses =
        some [sampleResponse, sampleResponse] := by
    decide +kernel
  rcases Option.map_eq_some_iff.mp hResponses with
    ⟨s, hRun, hEq⟩
  exact ⟨s, hRun, hEq,
    (no_double_sign sampleSystem sampleComet_default
      sampleComet_voteSteps sampleComet_signsOnce
      sampleComet_stateRestored (.file freshStateJSON)
      sampleRun hRun).1⟩

end DialRun

end Consensus

end BridgeSigner
