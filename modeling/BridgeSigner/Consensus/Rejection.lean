import BridgeSigner.Consensus.DialRun

/-
  The validating handler on the private validator
  (consensus/handler.go, consensus/validate.go).

  Only what passes the checks reaches the key, and a request
  that fails, before or in the private validator, leaves the
  last-sign state as it was and gets no signature.

  Key definitions include:
    * `Plan.serve`
    * `SignableVote`, `SignableProposal`

  Main results:
    * `Plan.Served.serve_enter`
    * `rejected_requests_leave_no_trace`
-/

------------------------------------------------------------
-- A Request On The Validator
------------------------------------------------------------

namespace BridgeSigner

namespace Consensus

/- What a call returned, for the handler that made it. -/
def SignCall.result
    {α : Type}
    (text : PVError → Bytes)
    (a : α) :
    Option PVError → Fallible α
| none => .ok a
| some e => .error (text e)

/- The signatures that a message carries. -/
def Message.signedBytes : Message → Bytes
| .signedVoteResponse v _ =>
    v.signature ++ v.extensionSignature
| .signedProposalResponse p _ => p.signature
| _ => []

/- The error field of a response. -/
def Message.error : Message → Option RemoteSignerError
| .pubKeyResponse _ e => e
| .signedVoteResponse _ e => e
| .signedProposalResponse _ e => e
| _ => none

/- The reply to a call, and the state after it. -/
def SignCall.served
    {α : Type}
    (text : PVError → Bytes)
    (st : LastSignState)
    (reply : Fallible α → Reply) :
    SignCall α → Option (Reply × LastSignState)
| .panic => none
| .returned a err saved =>
    some (reply (SignCall.result text a err), saved.getD st)

/- Carry out a plan on the validator; `none` is a panic. -/
def Plan.serve
    (pv : FilePV)
    (pubKey : Fallible Bytes)
    (chainID : Bytes)
    (st : LastSignState) :
    Plan → Option (Reply × LastSignState)
| .answer reply => some (reply, st)
| .getPubKey reply => some (reply pubKey, st)
| .signVote v reply =>
    (pv.signVote chainID st v).served pv.errorText st reply
| .signProposal p reply =>
    (pv.signProposal chainID st p).served pv.errorText st
      reply

/- The reply and the state that an entered plan leads to. -/
def Entered.after
    (st : LastSignState) :
    Entered → Option (Reply × LastSignState)
| .panic => none
| .done reply => some (reply, st)
| .saving st' reply => some (reply, st')

theorem SignCall.served_eq
    {α : Type}
    {text : PVError → Bytes}
    {call : SignCall α}
    (hClean : call.Clean)
    (st : LastSignState)
    (reply : Fallible α → Reply) :
    call.served text st reply =
      ((call.outcome text).entered reply).after st := by
  cases call with
  | panic => rfl
  | returned a err saved =>
      cases err with
      | none =>
          cases saved with
          | none => rfl
          | some st' => rfl
      | some e =>
          have hSaved : saved = none := hClean (by simp)
          rw [hSaved]
          rfl

/-
  On the published library the plans of the handler do the
  same: it signs well-formed messages only.
-/
theorem Plan.Served.serve_enter
    {pv : FilePV}
    {lib : Comet}
    (hLib : pv.Implements lib)
    {valAddr chainID : Bytes}
    {req : Message}
    {plan : Plan}
    (hServed : Plan.Served lib valAddr chainID req plan)
    (st : LastSignState) :
    plan.serve pv lib.pubKey chainID st =
      (plan.enter lib chainID st).after st := by
  cases hServed with
  | answer hUnsigned hKind => rfl
  | getPubKey hReq => rfl
  | vote hReq hChain hValid =>
      rw [Plan.serve, Plan.enter,
        hLib.signVote _ _ _ hValid.wellFormed]
      exact SignCall.served_eq
        (pv.signVote_clean chainID st _) st voteReply
  | proposal hReq hChain hValid =>
      rw [Plan.serve, Plan.enter,
        hLib.signProposal _ _ _
          (Proposal.wellFormed_of_ok hValid)]
      exact SignCall.served_eq
        (pv.signProposal_clean chainID st _) st proposalReply

end Consensus

end BridgeSigner

------------------------------------------------------------
-- What Reaches The Key
------------------------------------------------------------

namespace BridgeSigner

namespace Consensus

/- A chain id that a request may have. -/
structure RequestChainID
    (id : Bytes) : Prop where
  nonempty : 1 ≤ id.length
  short : id.length ≤ 64
  no_nul : 0 ∉ id

/- A vote that may be signed with the key at `valAddr`. -/
structure SignableVote
    (valAddr : Bytes)
    (v : Vote) : Prop where
  type : v.type = .prevote ∨ v.type = .precommit
  height : 0 < v.height
  round : 0 ≤ v.round
  index : 0 ≤ v.validatorIndex
  address : v.validatorAddress = valAddr
  block : v.blockID.Nil ∨ v.blockID.Complete
  extension :
    v.extension ≠ [] ∨ v.extensionSignature ≠ [] →
      v.type = .precommit ∧ ¬ v.blockID.Nil

structure SignableProposal
    (p : Proposal) : Prop where
  type : p.type = .proposal
  height : 0 ≤ p.height
  round : 0 ≤ p.round
  polRound : -1 ≤ p.polRound
  block : p.blockID.Complete

theorem validateRequestChainID_ok_iff
    {id : Bytes}
    {u : Unit} :
    validateRequestChainID id = .ok u ↔
      RequestChainID id := by
  simp only [validateRequestChainID, except_bind_ok_iff,
    ensure_ok_iff, exists_const]
  constructor
  · rintro ⟨hNonempty, hShort, hNul⟩
    exact ⟨Nat.one_le_iff_ne_zero.mpr hNonempty, hShort,
      hNul⟩
  · rintro ⟨hNonempty, hShort, hNul⟩
    exact ⟨Nat.one_le_iff_ne_zero.mp hNonempty, hShort,
      hNul⟩

variable {pv : FilePV}
variable {lib : Comet}

theorem ValidVote.signable
    (hLib : pv.Implements lib)
    {valAddr : Bytes}
    (hAddr : valAddr.length = 20)
    {v : Vote}
    (hValid : ValidVote lib valAddr v) :
    SignableVote valAddr v := by
  rcases hValid.block with
    ⟨bid, hBid, hShape, -, hExtension⟩
  have hSame := hLib.blockIDs _ _ hBid
  rw [hSame, hLib.isZero, hLib.isComplete] at hShape
  rw [hSame, hLib.isZero] at hExtension
  constructor
  · exact (hLib.voteTypes v.type).mp hValid.type_valid
  · exact hValid.height_pos
  · exact hValid.round_nonneg
  · exact hValid.index_nonneg
  · rcases hValid.address with hEmpty | hEq
    · rw [hEmpty] at hAddr
      cases hAddr
    · exact hEq
  · exact hShape
  · intro hGiven
    by_contra hBare
    rw [not_and_or, not_not] at hBare
    rcases hExtension hBare with ⟨hNone, hUnsigned⟩
    rcases hGiven with hSome | hSigned
    · exact hSome hNone
    · exact hSigned hUnsigned

theorem signableProposal_of_ok
    (hLib : pv.Implements lib)
    {p : Proposal}
    {u : Unit}
    (hOk :
      validateSignProposalRequest lib (some p) = .ok u) :
    SignableProposal p := by
  simp only [validateSignProposalRequest,
    except_bind_ok_iff, ensure_ok_iff, exists_const,
    checkedBlockID, mapError_ok_iff] at hOk
  rcases hOk with
    ⟨hType, hHeight, hRound, hPol, bid, hBid, hComplete⟩
  rw [hLib.blockIDs _ _ hBid, hLib.isComplete] at hComplete
  exact ⟨hType, hHeight, hRound, hPol, hComplete⟩

end Consensus

end BridgeSigner

------------------------------------------------------------
-- Rejected Requests Leave No Trace
------------------------------------------------------------

namespace BridgeSigner

namespace Consensus

/- A reply that reports an error, to the log or the node. -/
def Failed
    (r : Reply) : Prop :=
  r.2 ≠ none ∨ r.1.error ≠ none

/- A failed call is answered without what it filled in. -/
theorem SignCall.served_failed
    {α : Type}
    {text : PVError → Bytes}
    {call : SignCall α}
    (hClean : call.Clean)
    {reply : Fallible α → Reply}
    (hOk : ∀ a, ¬ Failed (reply (.ok a)))
    (hError : ∀ e, (reply (.error e)).1.signedBytes = [])
    {st st' : LastSignState}
    {r : Reply}
    (hServed : call.served text st reply = some (r, st'))
    (hFailed : Failed r) :
    st' = st ∧ r.1.signedBytes = [] := by
  cases call with
  | panic => cases hServed
  | returned a err saved =>
      cases hServed
      cases err with
      | none => exact absurd hFailed (hOk a)
      | some e =>
          have hSaved : saved = none := hClean (by simp)
          rw [hSaved]
          exact ⟨rfl, hError (text e)⟩

theorem voteReply_ok
    (v : Vote) :
    ¬ Failed (voteReply (.ok v)) := by
  rintro (hLogged | hSent)
  · exact hLogged rfl
  · exact hSent rfl

theorem proposalReply_ok
    (p : Proposal) :
    ¬ Failed (proposalReply (.ok p)) := by
  rintro (hLogged | hSent)
  · exact hLogged rfl
  · exact hSent rfl

theorem Message.Unsigned.signedBytes
    {res : Message}
    (hUnsigned : res.Unsigned) :
    res.signedBytes = [] := by
  cases res with
  | signedVoteResponse v e =>
      rw [hUnsigned.1]
      rfl
  | signedProposalResponse p e =>
      rw [hUnsigned.1]
      rfl
  | _ => rfl

theorem Plan.Served.failed
    {pv : FilePV}
    {lib : Comet}
    {valAddr chainID : Bytes}
    {req : Message}
    {plan : Plan}
    (hServed : Plan.Served lib valAddr chainID req plan)
    {pubKey : Fallible Bytes}
    {st st' : LastSignState}
    {r : Reply}
    (hServe :
      plan.serve pv pubKey chainID st = some (r, st'))
    (hFailed : Failed r) :
    st' = st ∧ r.1.signedBytes = [] := by
  cases hServed with
  | answer hUnsigned hKind =>
      cases hServe
      exact ⟨rfl, hUnsigned.signedBytes⟩
  | getPubKey hReq =>
      cases hServe
      refine ⟨rfl, ?_⟩
      cases pubKey with
      | ok key => rfl
      | error e => rfl
  | vote hReq hChain hValid =>
      exact SignCall.served_failed
        (pv.signVote_clean chainID st _) voteReply_ok
        (fun _ => rfl) hServe hFailed
  | proposal hReq hChain hValid =>
      exact SignCall.served_failed
        (pv.signProposal_clean chainID st _) proposalReply_ok
        (fun _ => rfl) hServe hFailed

/-
  Only checked votes and proposals, for the configured chain,
  reach the key. A reply with an error leaves the last-sign
  state as it was, and carries no signature.
-/
theorem rejected_requests_leave_no_trace
    (pv : FilePV)
    (lib : Comet)
    (hLib : pv.Implements lib)
    (valAddr : Bytes)
    (hAddr : valAddr.length = 20)
    (chainID : Bytes)
    (st : LastSignState)
    (req : Message) :
    (∀ v reply,
        validationRequestHandler lib valAddr req chainID =
            .signVote v reply →
          req = .signVoteRequest (some v) chainID ∧
            RequestChainID chainID ∧
            SignableVote valAddr v) ∧
      (∀ p reply,
        validationRequestHandler lib valAddr req chainID =
            .signProposal p reply →
          req = .signProposalRequest (some p) chainID ∧
            RequestChainID chainID ∧ SignableProposal p) ∧
      ∀ r st',
        ((validationRequestHandler lib valAddr req
              chainID).enter lib chainID st).after st =
            some (r, st') →
          Failed r → st' = st ∧ r.1.signedBytes = [] := by
  have hServed :
      Plan.Served lib valAddr chainID req
        (validationRequestHandler lib valAddr req chainID) :=
    validationRequestHandler_served hLib.defaultHandler
  refine ⟨?_, ?_, ?_⟩
  · intro v reply hPlan
    rw [hPlan] at hServed
    cases hServed with
    | vote hReq hChain hValid =>
        exact ⟨hReq, validateRequestChainID_ok_iff.mp hChain,
          hValid.signable hLib hAddr⟩
  · intro p reply hPlan
    rw [hPlan] at hServed
    cases hServed with
    | proposal hReq hChain hValid =>
        exact ⟨hReq, validateRequestChainID_ok_iff.mp hChain,
          signableProposal_of_ok hLib hValid⟩
  · intro r st' hServe hFailed
    rw [← hServed.serve_enter hLib st] at hServe
    exact hServed.failed hServe hFailed

end Consensus

end BridgeSigner

------------------------------------------------------------
-- A Conflicting Precommit
------------------------------------------------------------

namespace BridgeSigner

namespace Consensus

namespace FilePV

open DialRun

/- A precommit for a block at the first height. -/
def precommitFor
    (hash parts : UInt8) : Vote :=
  { Vote.zero with
    type := .precommit
    height := 1
    blockID :=
      ⟨List.replicate 32 hash, ⟨1, List.replicate 32 parts⟩⟩
    validatorAddress := sampleAddress }

/- The sign-bytes of a precommit for a block on the chain. -/
def precommitSignBytes
    (hash parts : UInt8) : Bytes :=
  beBytes 16 0x6f080211010000000000000022480a20 ++
    List.replicate 32 hash ++ beBytes 6 0x122408011220 ++
    List.replicate 32 parts ++
    beBytes 26
      0x2a0b088092b8c398feffffff01320b6c61796572746573742d34

/- The state after the first of two precommits was signed. -/
def signedPrecommit : LastSignState where
  height := 1
  round := 0
  step := 3
  signature := some (beBytes 64
    0xba9d75686456111a8d5e722f9d3d7d459fce264d8a504ff0d049abff513c5442fe4af2e517b997aecd023ece445cd26405ea26c6eace620ae36a1a625d26a80e)
  signBytes := some (precommitSignBytes 0xaa 0xbb)

/- The sign-bytes of the extension of either, signed. -/
def extensionBytes : Bytes :=
  beBytes 23 0x16110100000000000000220b6c61796572746573742d34

def extensionSigned : Bytes :=
  beBytes 64
    0x4766cd9517c538977c518c3f40a9519802df4add88bb784a7cd4dfc9cff101534f192e988e682d9c481eb4870575f78d680cf91d00618ff85e809a3c11dba00d

/- The validator, on the second of the precommits. -/
def conflictPV : FilePV where
  sign := fun message =>
    .ok (if message = extensionBytes then
      extensionSigned
    else
      [0])
  voteSignBytes := fun chainID v =>
    if
      chainID = sampleChain ∧ v = precommitFor 0xcc 0xdd
    then
      precommitSignBytes 0xcc 0xdd
    else
      [0]
  voteExtensionSignBytes := fun chainID v =>
    if
      chainID = sampleChain ∧ v = precommitFor 0xcc 0xdd
    then
      extensionBytes
    else
      [0]
  proposalSignBytes := fun _ _ => [0]
  checkVotesOnlyDifferByTimestamp := fun _ _ => .different
  checkProposalsOnlyDifferByTimestamp := fun _ _ => .different
  errorText := fun _ =>
    ascii "error signing vote: conflicting data"

def conflictComet : Comet :=
  conflictPV.library samplePubKey sampleFiles

/-
  The conflict is found after the extension was signed: the
  call leaves the signature in the vote, the reply does not
  carry it.
-/
theorem conflicting_precommit_leaves_no_trace :
    conflictPV.signVote sampleChain signedPrecommit
          (precommitFor 0xcc 0xdd) =
        .returned
          { precommitFor 0xcc 0xdd with
            extensionSignature := extensionSigned }
          (some .conflictingData) none ∧
      ∃ r,
        ((validationRequestHandler conflictComet
              sampleAddress
              (.signVoteRequest
                (some (precommitFor 0xcc 0xdd)) sampleChain)
              sampleChain).enter conflictComet sampleChain
              signedPrecommit).after signedPrecommit =
            some (r, signedPrecommit) ∧
          Failed r ∧ r.1.signedBytes = [] := by
  have hCall :
      conflictPV.signVote sampleChain signedPrecommit
          (precommitFor 0xcc 0xdd) =
        .returned
          { precommitFor 0xcc 0xdd with
            extensionSignature := extensionSigned }
          (some .conflictingData) none := by
    rfl
  have hServe :
      ((validationRequestHandler conflictComet
            sampleAddress
            (.signVoteRequest
              (some (precommitFor 0xcc 0xdd)) sampleChain)
            sampleChain).enter conflictComet sampleChain
            signedPrecommit).after signedPrecommit =
          some (voteReply (.error
            (ascii "error signing vote: conflicting data")),
            signedPrecommit) := by
    rfl
  have hFailed :
      Failed (voteReply (.error
        (ascii "error signing vote: conflicting data"))) := by
    right
    intro hNone
    cases hNone
  rcases rejected_requests_leave_no_trace conflictPV
      conflictComet
      (conflictPV.library_implements samplePubKey sampleFiles)
      sampleAddress (by decide) sampleChain signedPrecommit
      (.signVoteRequest (some (precommitFor 0xcc 0xdd))
        sampleChain) with
    ⟨-, -, hTrace⟩
  rcases hTrace _ _ hServe hFailed with ⟨-, hUnsigned⟩
  exact ⟨hCall, _, hServe, hFailed, hUnsigned⟩

end FilePV

end Consensus

end BridgeSigner
