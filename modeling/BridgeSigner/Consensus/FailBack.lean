import BridgeSigner.Consensus.Gate

/-
  Fail-back to a preferred target, with the arbiter, the
  handlers and the private validator together
  (consensus/primary.go, consensus/server.go).

  The arbiter compares with the greatest height it has
  granted, the private validator with the last height it has
  signed. The two agree as long as what is granted gets
  signed; a granted request that is rejected, or a restart,
  sets them apart.

  Key definitions include:
    * `System.Valid`
    * `DialRun.FailBackExact`
    * `DialRun.Orderly`

  Main results:
    * `DialRun.transition_aligned`
    * `DialRun.fail_back_exact_of_orderly`
-/

------------------------------------------------------------
-- Valid Requests
------------------------------------------------------------

namespace BridgeSigner

namespace Consensus

/- A sign request that passes every check of the handlers. -/
def System.Valid
    {σ : Type}
    (sys : System σ) :
    Message → Prop
| .signVoteRequest vote cid =>
    cid = sys.chainID ∧
      validateRequestChainID cid = .ok () ∧
      validateSignVoteRequest sys.lib vote sys.valAddr =
        .ok ()
| .signProposalRequest proposal cid =>
    cid = sys.chainID ∧
      validateRequestChainID cid = .ok () ∧
      validateSignProposalRequest sys.lib proposal = .ok ()
| _ => False

theorem ValidVote.ready
    {lib : Comet}
    {expectAddr : Bytes}
    {v : Vote}
    (hValid : ValidVote lib expectAddr v) :
    v.Ready lib := by
  rcases hValid.block with ⟨bid, hBid, -, -, hBare⟩
  by_cases hType : v.type = .precommit
  · cases hZero : lib.isZero bid with
    | true => exact Or.inl (hBare (Or.inr hZero)).1
    | false => exact Or.inr ⟨hType, bid, hBid, hZero⟩
  · exact Or.inl (hBare (Or.inl hType)).1

namespace System.Valid

variable {σ : Type}
variable {sys : System σ}
variable {req : Message}

/- A valid request is for a vote or proposal to be signed. -/
theorem plan
    (hDefault : sys.lib.DefaultPublished)
    (hValid : sys.Valid req) :
    (∃ v, req = .signVoteRequest (some v) sys.chainID ∧
        ValidVote sys.lib sys.valAddr v ∧
        sys.handler req = .signVote v voteReply) ∨
      ∃ p, req = .signProposalRequest (some p) sys.chainID ∧
        p.WellFormed sys.lib ∧
        sys.handler req = .signProposal p proposalReply := by
  cases req with
  | signVoteRequest vote cid =>
      cases vote with
      | none => cases hValid.2.2
      | some v =>
          rcases hValid with ⟨rfl, hChain, hVote⟩
          refine Or.inl ⟨v, rfl,
            validateSignVoteRequest_ok_iff.mp hVote, ?_⟩
          simp only [handler, validationRequestHandler,
            hChain, hVote]
          exact hDefault
            (.signVoteRequest (some v) sys.chainID)
            sys.chainID _ (if_pos rfl)
  | signProposalRequest proposal cid =>
      cases proposal with
      | none => cases hValid.2.2
      | some p =>
          rcases hValid with ⟨rfl, hChain, hProposal⟩
          refine Or.inr ⟨p, rfl,
            Proposal.wellFormed_of_ok hProposal, ?_⟩
          simp only [handler, validationRequestHandler,
            hChain, hProposal]
          exact hDefault
            (.signProposalRequest (some p) sys.chainID)
            sys.chainID _ (if_pos rfl)
  | _ => cases hValid

theorem place
    (hDefault : sys.lib.DefaultPublished)
    (hSteps : sys.lib.VoteSteps)
    (hValid : sys.Valid req) :
    ∃ k, req.hrs sys.lib = some k := by
  rcases hValid.plan hDefault with
    ⟨v, rfl, hVote, -⟩ | ⟨p, rfl, -⟩
  · rcases hSteps.valid v.type hVote.type_valid with
      ⟨step, hStep⟩
    exact ⟨_, Option.map_eq_some_iff.mpr
      ⟨step, hStep, rfl⟩⟩
  · exact ⟨_, rfl⟩

/- A valid request is not rejected. -/
theorem not_answer
    (hDefault : sys.lib.DefaultPublished)
    (hValid : sys.Valid req)
    (reply : Reply) :
    sys.handler req ≠ .answer reply := by
  rcases hValid.plan hDefault with
    ⟨v, -, -, hPlan⟩ | ⟨p, -, -, hPlan⟩
  · rw [hPlan]
    nofun
  · rw [hPlan]
    nofun

/- Above the last-sign state it makes a new signature. -/
theorem saving
    (hDefault : sys.lib.DefaultPublished)
    (hAbove : sys.lib.SignsAbove)
    (hValid : sys.Valid req)
    {st : LastSignState}
    {k : HRS}
    (hPlace : req.hrs sys.lib = some k)
    (hLt : st.hrs < k) :
    ∃ st' reply,
      (sys.handler req).enter sys.lib sys.chainID st =
        .saving st' reply := by
  rcases hValid.plan hDefault with
    ⟨v, rfl, hVote, hPlan⟩ | ⟨p, rfl, hForm, hPlan⟩
  · rcases hAbove.votes sys.chainID st v k hVote.wellFormed
        hVote.ready hPlace hLt with
      ⟨v', st', hSign⟩
    rw [hPlan, Plan.enter, hSign]
    exact ⟨_, _, rfl⟩
  · rcases hAbove.proposals sys.chainID st p k hForm hPlace
        hLt with
      ⟨p', st', hSign⟩
    rw [hPlan, Plan.enter, hSign]
    exact ⟨_, _, rfl⟩

end System.Valid

/- The place of a request is at its height. -/
theorem Message.height_of_hrs
    {lib : Comet}
    {req : Message}
    {k : HRS}
    (hPlace : req.hrs lib = some k) :
    req.signHeight = some k.height := by
  cases req with
  | signVoteRequest vote cid =>
      cases vote with
      | none => cases hPlace
      | some v =>
          rcases Option.map_eq_some_iff.mp hPlace with
            ⟨step, -, rfl⟩
          rfl
  | signProposalRequest proposal cid =>
      cases proposal with
      | none => cases hPlace
      | some p =>
          cases hPlace
          rfl
  | _ => cases hPlace

theorem Comet.keeps_height_nonneg
    (lib : Comet) :
    lib.Keeps (0 ≤ ·.height) :=
  fun _ _ hNonneg hLt _ =>
    hNonneg.trans (HRS.height_le_of_le hLt.le)

namespace System

variable {σ : Type}
variable {sys : System σ}
variable {st st' : LastSignState}
variable {req : Message}
variable {reply : Reply}

/- A new signature is at the height of its request. -/
theorem saving_height
    (hDefault : sys.lib.DefaultPublished)
    (hOnce : sys.lib.SignsOnce)
    (hEnter :
      (sys.handler req).enter sys.lib sys.chainID st =
        .saving st' reply) :
    req.signHeight = some st'.height ∧
      st.height ≤ st'.height := by
  have hServed := sys.handler_served hDefault req
  rcases hServed.saving hOnce hEnter with
    ⟨x, -, rfl, -, hPlace, hLt, -, -⟩
  exact ⟨Message.height_of_hrs hPlace,
    HRS.height_le_of_le hLt.le⟩

/- A valid request without a save is not a new height. -/
theorem done_height
    (hDefault : sys.lib.DefaultPublished)
    (hSteps : sys.lib.VoteSteps)
    (hAbove : sys.lib.SignsAbove)
    (hValid : sys.Valid req)
    (hEnter :
      (sys.handler req).enter sys.lib sys.chainID st =
        .done reply)
    {height : Int}
    (hHeight : req.signHeight = some height) :
    height ≤ st.height := by
  rcases hValid.place hDefault hSteps with ⟨k, hPlace⟩
  rw [Message.height_of_hrs hPlace] at hHeight
  cases hHeight
  by_cases hLt : st.hrs < k
  · rcases hValid.saving hDefault hAbove hPlace hLt with
      ⟨_, _, hSaving⟩
    rw [hEnter] at hSaving
    cases hSaving
  · exact HRS.height_le_of_le (not_lt.mp hLt)

end System

end Consensus

end BridgeSigner

------------------------------------------------------------
-- Granted And Signed Heights
------------------------------------------------------------

namespace BridgeSigner

namespace Consensus

namespace DialRun

/-
  The heights granted and signed. A height that was granted
  and not signed yet is that of a valid request that waits.
-/
structure Aligned
    (sys : System PrimaryArbiter)
    (p : Process PrimaryArbiter) : Prop where
  granted :
    ∀ w ∈ p.waiting, ∀ height,
      w.2.signHeight = some height →
        height ≤ p.arbiter.maxHeight
  signed :
    p.arbiter.primary ≠ [] →
      p.memory.height ≤ p.arbiter.maxHeight
  pending :
    p.arbiter.maxHeight ≤ p.memory.height ∨
      ∃ w ∈ p.waiting, sys.Valid w.2 ∧
        w.2.signHeight = some p.arbiter.maxHeight

/-
  What keeps them together. A request that the arbiter grants
  is valid, or raises no height, and the last signed height
  has been granted before a lower one is.
-/
structure OrderlyRequest
    (sys : System PrimaryArbiter)
    (p : Process PrimaryArbiter)
    (req : Message)
    (height : Int) : Prop where
  valid :
    sys.Valid req ∨ height ≤ p.memory.height ∨
      height ≤ p.arbiter.maxHeight
  caughtUp :
    p.memory.height ≤ height ∨
      p.memory.height ≤ p.arbiter.maxHeight

/- The events with such requests only. -/
def Orderly
    (sys : System PrimaryArbiter)
    (s : State PrimaryArbiter) :
    Event → Prop
| .arrive id req now =>
    ∀ p, s.process = some p →
      ∀ height, req.signHeight = some height →
        p.arbiter.Grants id height now →
          OrderlyRequest sys p req height
| _ => True

/- No granted request above the last signed height waits. -/
def Settled
    (p : Process PrimaryArbiter) : Prop :=
  ∀ w ∈ p.waiting, ∀ height,
    w.2.signHeight = some height → height ≤ p.memory.height

/-
  A target preferred to a primary that is not idle takes the
  role with a valid request exactly when it has caught up
  with the last signed height.
-/
def FailBackExact
    (sys : System PrimaryArbiter)
    (p : Process PrimaryArbiter) : Prop :=
  ∀ id req now height,
    sys.Valid req → req.signHeight = some height →
      p.arbiter.primary ≠ [] →
      p.arbiter.outranks id = true →
      ¬p.arbiter.timeout < now.sub p.arbiter.lastReq →
        ((p.arbiter.acquire id height now).1 = true ↔
          p.memory.height ≤ height)

end DialRun

namespace PrimaryArbiter

theorem outranks_primary
    (a : PrimaryArbiter) :
    a.outranks a.primary = false := by
  unfold outranks
  split
  · rfl
  · split
    · rfl
    · simp [*]

/- A preferred target takes over from a busy primary. -/
theorem acquire_fail_back
    {a : PrimaryArbiter}
    {id : Bytes}
    {now : Instant}
    (hPrimary : a.primary ≠ [])
    (hRank : a.outranks id = true)
    (hBusy : ¬a.timeout < now.sub a.lastReq)
    (height : Int) :
    (a.acquire id height now).1 = true ↔
      a.maxHeight ≤ height := by
  have hNe : a.primary ≠ id := by
    rintro rfl
    rw [outranks_primary] at hRank
    cases hRank
  rw [acquire_granted_iff, Grants]
  simp [hPrimary, hNe, hBusy, hRank]

end PrimaryArbiter

namespace DialRun.Aligned

variable {sys : System PrimaryArbiter}
variable {p : Process PrimaryArbiter}

/- With nothing pending, fail-back is exact. -/
theorem failBackExact
    (hp : Aligned sys p)
    (hSettled : Settled p) :
    FailBackExact sys p := by
  intro id req now height _ _ hPrimary hRank hBusy
  have hBelow :
      p.arbiter.maxHeight ≤ p.memory.height := by
    rcases hp.pending with hLe | ⟨w, hw, -, hHeight⟩
    · exact hLe
    · exact hSettled w hw _ hHeight
  have hAbove := hp.signed hPrimary
  rw [PrimaryArbiter.acquire_fail_back hPrimary hRank hBusy]
  omega

/- The memory of a new process and the new arbiter. -/
theorem start
    {st : LastSignState}
    (hNonneg : 0 ≤ st.height)
    (timeout : Int)
    (order : List Bytes) :
    Aligned sys
      ⟨st, newPreferringPrimaryArbiter timeout order, [],
        none⟩ where
  granted := by
    intro w hw
    cases hw
  signed := fun hPrimary => absurd rfl hPrimary
  pending := Or.inl hNonneg

theorem release
    (hp : Aligned sys p)
    (id : Bytes) :
    Aligned sys
      { p with arbiter := (p.arbiter.release id).2 } := by
  unfold PrimaryArbiter.release
  split
  · exact ⟨hp.granted, hp.signed, hp.pending⟩
  · exact ⟨hp.granted, fun hPrimary => absurd rfl hPrimary,
      hp.pending⟩

/- One more request waits that has no height. -/
theorem wait
    (hp : Aligned sys p)
    {req : Message}
    (hHeight : req.signHeight = none)
    (id : Bytes) :
    Aligned sys
      { p with waiting := (id, req) :: p.waiting } where
  granted := by
    intro w hw height hw'
    rcases List.mem_cons.mp hw with rfl | hOld
    · rw [hHeight] at hw'
      cases hw'
    · exact hp.granted w hOld height hw'
  signed := hp.signed
  pending := by
    rcases hp.pending with hLe | ⟨w, hw, hValid⟩
    · exact Or.inl hLe
    · exact Or.inr ⟨w, List.mem_cons_of_mem _ hw, hValid⟩

/-
  An orderly request has been granted: it waits, or it was
  rejected and so is not valid.
-/
theorem elect
    (hp : Aligned sys p)
    {req : Message}
    {height : Int}
    (hHeight : req.signHeight = some height)
    (hOrderly : OrderlyRequest sys p req height)
    {waiting : List (Bytes × Message)}
    (hOld : p.waiting ⊆ waiting)
    (hNew : ∀ w ∈ waiting, w ∈ p.waiting ∨ w.2 = req)
    (hWaits : sys.Valid req → ∃ w ∈ waiting, w.2 = req)
    (id : Bytes)
    (now : Instant) :
    Aligned sys
      { p with
        arbiter := p.arbiter.elect id height now
        waiting := waiting } := by
  have hMax :
      (p.arbiter.elect id height now).maxHeight =
        max height p.arbiter.maxHeight := by
    simp [PrimaryArbiter.elect, PrimaryArbiter.grant_eq]
  refine ⟨?_, ?_, ?_⟩
  · intro w hw h hwh
    rw [hMax]
    rcases hNew w hw with hIn | hReq
    · exact (hp.granted w hIn h hwh).trans
        (le_max_right _ _)
    · rw [hReq, hHeight] at hwh
      cases hwh
      exact le_max_left _ _
  · intro _
    rw [hMax]
    exact le_max_iff.mpr hOrderly.caughtUp
  · rw [hMax]
    -- The greater of the two heights decides who accounts
    -- for it: this request, or what did so before.
    rcases le_or_gt height p.arbiter.maxHeight with hLe | hGt
    · rw [max_eq_right hLe]
      rcases hp.pending with hBelow | ⟨w, hw, hValid⟩
      · exact Or.inl hBelow
      · exact Or.inr ⟨w, hOld hw, hValid⟩
    · rw [max_eq_left hGt.le]
      rcases hOrderly.valid with hValid | hBelow | hLe
      · rcases hWaits hValid with ⟨w, hw, rfl⟩
        exact Or.inr ⟨w, hw, hValid, hHeight⟩
      · exact Or.inl hBelow
      · exact absurd hLe (not_le.mpr hGt)

/- A request that waited has been carried out. -/
theorem entered
    (hp : Aligned sys p)
    {id : Bytes}
    {req : Message}
    (hWaiting : (id, req) ∈ p.waiting)
    {st : LastSignState}
    (hLe : p.memory.height ≤ st.height)
    (hSigned :
      st.height = p.memory.height ∨
        req.signHeight = some st.height)
    (hValid :
      sys.Valid req → ∀ height,
        req.signHeight = some height → height ≤ st.height)
    (critical : Option Reply) :
    Aligned sys
      { p with
        memory := st
        waiting := p.waiting.erase (id, req)
        critical := critical } where
  granted := fun w hw =>
    hp.granted w (List.mem_of_mem_erase hw)
  signed := by
    intro hPrimary
    rcases hSigned with hSame | hHeight
    · exact hSame.le.trans (hp.signed hPrimary)
    · exact hp.granted _ hWaiting _ hHeight
  pending := by
    rcases hp.pending with hBelow | ⟨w, hw, hw', hHeight⟩
    · exact Or.inl (hBelow.trans hLe)
    · by_cases hReq : w = (id, req)
      · subst hReq
        exact Or.inl (hValid hw' _ hHeight)
      · exact Or.inr ⟨w,
          (List.mem_erase_of_ne hReq).mpr hw, hw',
          hHeight⟩

end DialRun.Aligned

end Consensus

end BridgeSigner

------------------------------------------------------------
-- Runs
------------------------------------------------------------

namespace BridgeSigner

namespace Consensus

namespace DialRun

variable {sys : System PrimaryArbiter}
variable {s t : State PrimaryArbiter}
variable {p : Process PrimaryArbiter}

/- The process of the state, if one runs, is aligned. -/
def AlignedState
    (sys : System PrimaryArbiter)
    (s : State PrimaryArbiter) : Prop :=
  ∀ p, s.process = some p → Aligned sys p

theorem alignedState_die
    (s : State PrimaryArbiter) :
    AlignedState sys s.die := by
  intro p hp
  cases hp

theorem alignedState_resume
    (s : State PrimaryArbiter)
    (hp : Aligned sys p) :
    AlignedState sys (s.resume p) := by
  intro q hq
  cases hq
  exact hp

/- A request that passed the gate waits or is answered. -/
theorem afterGate_aligned
    {plan : Plan}
    {a : PrimaryArbiter}
    {id : Bytes}
    {req : Message}
    (hAnswered :
      ∀ reply, plan = .answer reply →
        Aligned sys { p with arbiter := a })
    (hWaits :
      Aligned sys { p with
        arbiter := a
        waiting := (id, req) :: p.waiting }) :
    AlignedState sys
      (afterGate s p id req (some plan, a)) := by
  cases plan with
  | answer reply =>
      exact alignedState_resume s (hAnswered reply rfl)
  | _ => exact alignedState_resume s hWaits

theorem arrive_aligned
    (hDefault : sys.lib.DefaultPublished)
    (hArbiter : sys.arbiter = some primaryArbiter)
    (hp : Aligned sys p)
    {id : Bytes}
    {req : Message}
    {now : Instant}
    (hOrderly :
      ∀ height, req.signHeight = some height →
        p.arbiter.Grants id height now →
          OrderlyRequest sys p req height) :
    AlignedState sys
      (afterGate s p id req
        (sys.handle p.arbiter id now req)) := by
  by_cases hAbsent : req.PartAbsent
  · rw [sys.handle_absent hArbiter hAbsent]
    exact alignedState_die s
  · rcases sys.handle_present hArbiter hAbsent p.arbiter id
        now with
      ⟨hNone, hHandle⟩ | ⟨height, hHeight,
        ⟨hGranted, hHandle⟩ | ⟨-, refusal, hHandle⟩⟩
    · rw [hHandle]
      exact afterGate_aligned (fun _ _ => hp)
        (hp.wait hNone id)
    · have hOrder : OrderlyRequest sys p req height := by
        refine hOrderly height hHeight ?_
        rw [← PrimaryArbiter.acquire_granted_iff, hGranted]
      rw [hHandle]
      refine afterGate_aligned ?_ ?_
      · intro reply hAnswer
        refine hp.elect hHeight hOrder (fun _ hw => hw)
          (fun _ hw => Or.inl hw) ?_ id now
        intro hValid
        exact absurd hAnswer
          (hValid.not_answer hDefault reply)
      · refine hp.elect hHeight hOrder
          (List.subset_cons_self _ _) ?_ ?_ id now
        · intro w hw
          rcases List.mem_cons.mp hw with rfl | hOld
          · exact Or.inr rfl
          · exact Or.inl hOld
        · intro _
          exact ⟨_, List.mem_cons_self, rfl⟩
    · rw [hHandle]
      exact alignedState_resume s hp

theorem enter_aligned
    (hDefault : sys.lib.DefaultPublished)
    (hSteps : sys.lib.VoteSteps)
    (hOnce : sys.lib.SignsOnce)
    (hAbove : sys.lib.SignsAbove)
    (hp : Aligned sys p)
    {id : Bytes}
    {req : Message}
    (hWaiting : (id, req) ∈ p.waiting) :
    AlignedState sys
      (afterEnter s
        { p with waiting := p.waiting.erase (id, req) }
        ((sys.handler req).enter sys.lib sys.chainID
          p.memory)) := by
  cases hEnter :
      (sys.handler req).enter sys.lib sys.chainID
        p.memory with
  | panic => exact alignedState_die s
  | done reply =>
      have hDone := hp.entered hWaiting (le_refl _)
        (Or.inl rfl)
        (fun hValid _ =>
          sys.done_height hDefault hSteps hAbove hValid
            hEnter) p.critical
      exact alignedState_resume s hDone
  | saving st reply =>
      rcases sys.saving_height hDefault hOnce hEnter with
        ⟨hHeight, hLe⟩
      refine alignedState_resume s
        (hp.entered hWaiting hLe (Or.inr hHeight) ?_ _)
      intro _ height hSame
      rw [hHeight] at hSame
      cases hSame
      exact le_refl _

/- Every orderly event keeps the heights together. -/
theorem transition_aligned
    (hDefault : sys.lib.DefaultPublished)
    (hSteps : sys.lib.VoteSteps)
    (hOnce : sys.lib.SignsOnce)
    (hAbove : sys.lib.SignsAbove)
    (hArbiter : sys.arbiter = some primaryArbiter)
    {timeout : Int}
    {order : List Bytes}
    (hNew :
      sys.start = newPreferringPrimaryArbiter timeout order)
    {e : Event}
    (hTransition : Transition sys s e t)
    (hOrderly : Orderly sys s e)
    (hHeights : HoldsIn (0 ≤ ·.height) sys s)
    (hs : AlignedState sys s) :
    AlignedState sys t := by
  cases hTransition with
  | @arrive p hProcess id req now =>
      exact arrive_aligned hDefault hArbiter (hs p hProcess)
        (hOrderly p hProcess)
  | @enter p hProcess id req hWaiting hFree =>
      exact enter_aligned hDefault hSteps hOnce hAbove
        (hs p hProcess) hWaiting
  | @save p reply hProcess hCritical =>
      have hp := hs p hProcess
      exact alignedState_resume s
        (p := { p with critical := none })
        ⟨hp.granted, hp.signed, hp.pending⟩
  | @release p arbiter hProcess hSome id =>
      rw [hArbiter] at hSome
      cases hSome
      exact alignedState_resume s ((hs p hProcess).release id)
  | crash landed => exact alignedState_die s
  | crashLanded hProcess hCritical landed =>
      exact alignedState_die _
  | @restart st hLoad =>
      rw [hNew]
      exact alignedState_resume s
        (.start (hHeights.file st hLoad) timeout order)

/-
  After any orderly run, with whatever releases, crashes and
  restarts in it, fail-back is exact in a state where nothing
  granted still waits to be signed at a new height.
-/
theorem fail_back_exact_of_orderly
    (sys : System PrimaryArbiter)
    (hDefault : sys.lib.DefaultPublished)
    (hSteps : sys.lib.VoteSteps)
    (hOnce : sys.lib.SignsOnce)
    (hAbove : sys.lib.SignsAbove)
    (hRestored : sys.lib.StateRestored)
    (hArbiter : sys.arbiter = some primaryArbiter)
    (timeout : Int)
    (order : List Bytes)
    (hNew :
      sys.start = newPreferringPrimaryArbiter timeout order)
    (file : PathEntry)
    (hFile : ∀ st, sys.load file = .ok st → 0 ≤ st.height)
    (es : List Event)
    (hRun :
      (machine sys).run (State.initial file) es = some s)
    (hOrderly :
      (machine sys).Within (Orderly sys)
        (State.initial file) es)
    (hProcess : s.process = some p)
    (hSettled : Settled p) :
    FailBackExact sys p := by
  have hKept :
      HoldsIn (0 ≤ ·.height) sys s ∧ AlignedState sys s := by
    refine Machine.run_invariant_within
      (P := fun s =>
        HoldsIn (0 ≤ ·.height) sys s ∧ AlignedState sys s)
      ?_ hRun hOrderly ⟨initial_holds hFile, ?_⟩
    · rintro s e t hStep hEvent ⟨hHeights, hs⟩
      have hTransition := step_transition hStep
      exact ⟨transition_holds hDefault hOnce hRestored
          sys.lib.keeps_height_nonneg hTransition hHeights,
        transition_aligned hDefault hSteps hOnce hAbove
          hArbiter hNew hTransition hEvent hHeights hs⟩
    · intro p hp
      cases hp
  exact (hKept.2 p hProcess).failBackExact hSettled

theorem sampleRequest_valid :
    sampleSystem.Valid sampleRequest := by
  refine ⟨rfl, ?_, ?_⟩
  · decide +kernel
  · decide +kernel

theorem sample_file_height :
    ∀ st, sampleSystem.load (.file freshStateJSON) =
        .ok st →
      0 ≤ st.height := by
  intro st hst
  rw [sample_load] at hst
  cases hst
  exact le_refl 0

/- The backup target's prevote is signed. -/
def backupRun : List Event :=
  [.restart,
    .arrive (ascii "tcp://node-b:26659") sampleRequest
      (sampleTime 1),
    .enter (ascii "tcp://node-b:26659") sampleRequest, .save]

/- The process with the backup target as its primary. -/
def backupProcess
    (height : Int)
    (st : LastSignState) : Process PrimaryArbiter :=
  ⟨st,
    sampleSystem.start.elect (ascii "tcp://node-b:26659")
      height (sampleTime 1),
    [], none⟩

theorem backupRun_process :
    ((machine sampleSystem).run
        (State.initial (.file freshStateJSON))
        backupRun).bind State.process =
      some (backupProcess 1 sampleSigned.state) := by
  decide +kernel

theorem backupRun_orderly :
    (machine sampleSystem).Within (Orderly sampleSystem)
      (State.initial (.file freshStateJSON)) backupRun := by
  simp only [backupRun, Machine.Within, Orderly, true_and,
    implies_true, and_true]
  intro t ht
  have hStart : t = sampleStart := by
    have hReached := sampleStart_reached
    rw [Machine.run_singleton, ht] at hReached
    exact Option.some.inj hReached
  rw [hStart]
  rintro p ⟨⟩ height ⟨⟩ -
  exact ⟨Or.inl sampleRequest_valid, Or.inl Int.one_nonneg⟩

/- The preferred target is asked about while it is busy. -/
theorem backup_outranked
    (height : Int)
    (st : LastSignState) :
    (backupProcess height st).arbiter.primary ≠ [] ∧
      (backupProcess height st).arbiter.outranks
          (ascii "tcp://node-a:26659") = true ∧
      ¬(backupProcess height st).arbiter.timeout <
        (sampleTime 2).sub
          (backupProcess height st).arbiter.lastReq := by
  simp only [backupProcess, PrimaryArbiter.elect,
    PrimaryArbiter.grant_eq, PrimaryArbiter.outranks]
  decide +kernel

/- The preferred target has caught up and takes the role. -/
theorem preferred_target_fails_back :
    ∃ s,
      (machine sampleSystem).run
          (State.initial (.file freshStateJSON))
          backupRun = some s ∧
      s.process =
        some (backupProcess 1 sampleSigned.state) ∧
      ((backupProcess 1 sampleSigned.state).arbiter.acquire
        (ascii "tcp://node-a:26659") 1 (sampleTime 2)).1 =
          true := by
  rcases Option.bind_eq_some_iff.mp backupRun_process with
    ⟨s, hRun, hProcess⟩
  rcases backup_outranked 1 sampleSigned.state with
    ⟨hPrimary, hRank, hBusy⟩
  have hSettled :
      Settled (backupProcess 1 sampleSigned.state) := by
    intro w hw
    cases hw
  have hExact :=
    fail_back_exact_of_orderly sampleSystem
      sampleComet_default sampleComet_voteSteps
      sampleComet_signsOnce
      (FilePV.library_signsAbove samplePubKey sampleFiles
        samplePV_encodes)
      sampleComet_stateRestored rfl _ _ rfl _
      sample_file_height backupRun hRun backupRun_orderly
      hProcess hSettled
  refine ⟨s, hRun, hProcess, ?_⟩
  exact (hExact _ sampleRequest _ 1 sampleRequest_valid rfl
    hPrimary hRank hBusy).mpr (le_refl 1)

/- A vote at height 1000 that names no chain. -/
def rejectedRequest : Message :=
  .signVoteRequest (some { sampleVote with height := 1000 })
    []

def rejectedRun : List Event :=
  [.restart,
    .arrive (ascii "tcp://node-b:26659") rejectedRequest
      (sampleTime 1)]

theorem rejectedRun_process :
    ((machine sampleSystem).run
        (State.initial (.file freshStateJSON))
        rejectedRun).bind State.process =
      some (backupProcess 1000 sampleProcess.memory) := by
  decide +kernel

/-
  The backup target's request is granted and then rejected.
  Nothing has been signed, and still the preferred target is
  deferred at height 1.
-/
theorem rejected_request_defers_fail_back :
    ∃ s,
      (machine sampleSystem).run
          (State.initial (.file freshStateJSON))
          rejectedRun = some s ∧
      s.process =
        some (backupProcess 1000 sampleProcess.memory) ∧
      Settled (backupProcess 1000 sampleProcess.memory) ∧
      ¬FailBackExact sampleSystem
        (backupProcess 1000 sampleProcess.memory) := by
  rcases Option.bind_eq_some_iff.mp rejectedRun_process with
    ⟨s, hRun, hProcess⟩
  rcases backup_outranked 1000 sampleProcess.memory with
    ⟨hPrimary, hRank, hBusy⟩
  refine ⟨s, hRun, hProcess, ?_, ?_⟩
  · intro w hw
    cases hw
  · intro hExact
    have hGranted :=
      (hExact _ sampleRequest _ 1 sampleRequest_valid rfl
        hPrimary hRank hBusy).mpr (Int.zero_le_ofNat 1)
    rw [PrimaryArbiter.acquire_fail_back hPrimary hRank
      hBusy] at hGranted
    revert hGranted
    decide +kernel

end DialRun

end Consensus

end BridgeSigner
