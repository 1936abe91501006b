import BridgeSigner.Consensus.Messages
import BridgeSigner.Consensus.Primary

/-
  The privval request handlers (consensus/handler.go,
  consensus/server.go).

  `validationRequestHandler` checks a request and hands it to
  the node library's default handler; `gatedHandler` asks the
  arbiter first. What is relied on of the node library is
  stated one behaviour at a time, for messages whose block id
  decodes: the validating handler lets no others through.

  Key definitions include:
    * `validationRequestHandler`
    * `gatedHandler`
    * `Plan.enter`
    * `defaultValidationRequestHandler`
    * `Comet.DefaultPublished`, `Comet.SignsOnce`,
      `Comet.NeverPanics`, `Comet.SignsAbove`,
      `Comet.StateRestored`

  Main results:
    * `validationRequestHandler_served`
    * `Plan.Served.done`
    * `Plan.Served.saving`
    * `Plan.Served.no_panic`
-/

------------------------------------------------------------
-- The Validating Handler
------------------------------------------------------------

namespace BridgeSigner

namespace Consensus

def remoteErr
    (e : Err) : Option RemoteSignerError :=
  some ⟨0, e⟩

/- Refuse a request with one error, and log another. -/
def rejectPubKey
    (e : Err) : Plan :=
  .answer (.pubKeyResponse [] (remoteErr e), some e)

def rejectVote
    (e logged : Err) : Plan :=
  .answer
    (.signedVoteResponse .zero (remoteErr e), some logged)

def rejectProposal
    (e logged : Err) : Plan :=
  .answer
    (.signedProposalResponse .zero (remoteErr e),
      some logged)

/- The checks in front of the default handler. -/
def validationRequestHandler
    (lib : Comet)
    (valAddr : Bytes)
    (req : Message)
    (chainID : Bytes) : Plan :=
  match req with
  | .pubKeyRequest cid =>
      match validateRequestChainID cid with
      | .error e => rejectPubKey e
      | .ok _ =>
          lib.defaultValidationRequestHandler req chainID
  | .signVoteRequest vote cid =>
      match validateRequestChainID cid with
      | .error e => rejectVote e e
      | .ok _ =>
          match vote with
          | none =>
              rejectVote ⟨"nil vote in request", []⟩
                ⟨"nil vote", []⟩
          | some _ =>
              match
                validateSignVoteRequest lib vote valAddr
              with
              | .error e => rejectVote e e
              | .ok _ =>
                  lib.defaultValidationRequestHandler req
                    chainID
  | .signProposalRequest proposal cid =>
      match validateRequestChainID cid with
      | .error e => rejectProposal e e
      | .ok _ =>
          match proposal with
          | none =>
              rejectProposal ⟨"nil proposal in request", []⟩
                ⟨"nil proposal", []⟩
          | some _ =>
              match
                validateSignProposalRequest lib proposal
              with
              | .error e => rejectProposal e e
              | .ok _ =>
                  lib.defaultValidationRequestHandler req
                    chainID
  | _ => lib.defaultValidationRequestHandler req chainID

end Consensus

end BridgeSigner

------------------------------------------------------------
-- The Gate
------------------------------------------------------------

namespace BridgeSigner

namespace Consensus

/- What the gate makes of a request. -/
inductive Screened where
| other
| sign (refusal : Message) (height : Int)
| panic
  deriving DecidableEq, Repr

/-
  The refusal for a sign request, and its height. The height
  is read from the vote or proposal, which may be absent: a
  nil pointer is dereferenced then.
-/
def notPrimaryResponse : Message → Screened
| .signVoteRequest (some v) _ =>
    .sign
      (.signedVoteResponse .zero
        (remoteErr ⟨"not the primary signer", []⟩))
      v.height
| .signVoteRequest none _ => .panic
| .signProposalRequest (some p) _ =>
    .sign
      (.signedProposalResponse .zero
        (remoteErr ⟨"not the primary signer", []⟩))
      p.height
| .signProposalRequest none _ => .panic
| _ => .other

/- An arbiter, whatever it grants. -/
structure Arbiter (σ : Type) where
  acquire : σ → Bytes → Int → Instant → Bool × σ
  release : σ → Bytes → σ

/- The arbiter of the source. -/
def primaryArbiter : Arbiter PrimaryArbiter where
  acquire := PrimaryArbiter.acquire
  release := fun a id => (a.release id).2

/-
  Ask the arbiter before a sign request goes on to the next
  handler; `none` is a panic.
-/
def gatedHandler
    {σ : Type}
    (arbiter : Arbiter σ)
    (a : σ)
    (id : Bytes)
    (now : Instant)
    (next : Message → Bytes → Plan)
    (req : Message)
    (chainID : Bytes) : Option Plan × σ :=
  match notPrimaryResponse req with
  | .panic => (none, a)
  | .other => (some (next req chainID), a)
  | .sign refusal height =>
      match arbiter.acquire a id height now with
      | (false, a') => (some (.answer (refusal, none)), a')
      | (true, a') => (some (next req chainID), a')

end Consensus

end BridgeSigner

------------------------------------------------------------
-- Calls Of The Private Validator
------------------------------------------------------------

namespace BridgeSigner

namespace Consensus

/- What a plan comes to inside the private validator. -/
inductive Entered where
| panic
| done (reply : Reply)
| saving (st : LastSignState) (reply : Reply)

def SignOutcome.entered
    {α : Type}
    (reply : Fallible α → Reply) :
    SignOutcome α → Entered
| .fresh a st => .saving st (reply (.ok a))
| .reused a => .done (reply (.ok a))
| .refused e => .done (reply (.error e))
| .panic => .panic

/- Carry out a plan on a last-sign state. -/
def Plan.enter
    (lib : Comet)
    (chainID : Bytes)
    (st : LastSignState) :
    Plan → Entered
| .answer reply => .done reply
| .getPubKey reply => .done (reply lib.pubKey)
| .signVote v reply =>
    (lib.signVote chainID st v).entered reply
| .signProposal p reply =>
    (lib.signProposal chainID st p).entered reply

/- A signature: where, over what, and what it is. -/
structure Signed where
  hrs : HRS
  signBytes : Bytes
  signature : Bytes
  deriving DecidableEq, Repr

/- The last-sign state with this signature. -/
def Signed.state
    (x : Signed) : LastSignState :=
  ⟨x.hrs.height, x.hrs.round, x.hrs.step, some x.signature,
    some x.signBytes⟩

/- The signature that a last-sign state holds. -/
def LastSignState.signed
    (st : LastSignState) : Option Signed :=
  match st.signBytes, st.signature with
  | some b, some s => some ⟨st.hrs, b, s⟩
  | _, _ => none

@[simp] theorem Signed.state_hrs
    (x : Signed) :
    x.state.hrs = x.hrs :=
  rfl

@[simp] theorem Signed.state_signed
    (x : Signed) :
    x.state.signed = some x :=
  rfl

/- The signature of a state is all of the state. -/
theorem LastSignState.eq_state
    {st : LastSignState}
    {x : Signed}
    (hSigned : st.signed = some x) :
    st = x.state := by
  unfold signed at hSigned
  split at hSigned
  · rename_i hBytes hSignature
    cases hSigned
    rw [Signed.state, ← hBytes, ← hSignature]
    rfl
  · cases hSigned

/- A vote's place; some types have no step. -/
def Vote.hrs
    (lib : Comet)
    (v : Vote) : Option HRS :=
  (lib.voteStep v.type).map
    (fun step => ⟨v.height, v.round, step⟩)

def Proposal.hrs
    (lib : Comet)
    (p : Proposal) : Option HRS :=
  some ⟨p.height, p.round, lib.proposalStep⟩

def Vote.signed
    (lib : Comet)
    (chainID : Bytes)
    (v : Vote) : Option Signed :=
  (v.hrs lib).map
    (fun k => ⟨k, lib.voteSignBytes chainID v, v.signature⟩)

def Proposal.signed
    (lib : Comet)
    (chainID : Bytes)
    (p : Proposal) : Option Signed :=
  (p.hrs lib).map
    (fun k =>
      ⟨k, lib.proposalSignBytes chainID p, p.signature⟩)

/- The place that a sign request is for. -/
def Message.hrs
    (lib : Comet) :
    Message → Option HRS
| .signVoteRequest vote _ => vote.bind (Vote.hrs lib)
| .signProposalRequest proposal _ =>
    proposal.bind (Proposal.hrs lib)
| _ => none

/- The signature in a response; errors carry none. -/
def Message.signed
    (lib : Comet)
    (chainID : Bytes) :
    Message → Option Signed
| .signedVoteResponse v none => v.signed lib chainID
| .signedProposalResponse p none => p.signed lib chainID
| _ => none

end Consensus

end BridgeSigner

------------------------------------------------------------
-- The Default Handler
------------------------------------------------------------

namespace BridgeSigner

namespace Consensus

/- The default handler's replies to the calls it makes. -/
def pubKeyReply : Fallible Bytes → Reply
| .ok key => (.pubKeyResponse key none, none)
| .error e => (.empty, some ⟨"%v", [.library e]⟩)

def voteReply : Fallible Vote → Reply
| .ok v => (.signedVoteResponse v none, none)
| .error e =>
    let err : Err := ⟨"%v", [.library e]⟩
    (.signedVoteResponse .zero (remoteErr err), some err)

def proposalReply : Fallible Proposal → Reply
| .ok p => (.signedProposalResponse p none, none)
| .error e =>
    let err : Err := ⟨"%v", [.library e]⟩
    (.signedProposalResponse .zero (remoteErr err), some err)

/-
  The default handler of the node library as published, on
  each message. It hands an absent vote or proposal to the
  private validator, which dereferences it: `none`.
-/
def defaultValidationRequestHandler
    (req : Message)
    (chainID : Bytes) : Option Plan :=
  let mismatch (cid : Bytes) : Option Err :=
    some ⟨"want chainID: %s, got chainID: %s",
      [.text cid, .text chainID]⟩
  match req with
  | .pubKeyRequest cid =>
      if cid = chainID then
        some (.getPubKey pubKeyReply)
      else
        some (.answer
          (.pubKeyResponse []
            (remoteErr ⟨"unable to provide pubkey", []⟩),
            mismatch cid))
  | .signVoteRequest vote cid =>
      if cid = chainID then
        vote.map (fun v => .signVote v voteReply)
      else
        some (.answer
          (.signedVoteResponse .zero
            (remoteErr ⟨"unable to sign vote", []⟩),
            mismatch cid))
  | .signProposalRequest proposal cid =>
      if cid = chainID then
        proposal.map (fun p => .signProposal p proposalReply)
      else
        some (.answer
          (.signedProposalResponse .zero
            (remoteErr ⟨"unable to sign proposal", []⟩),
            mismatch cid))
  | .pingRequest => some (.answer (.pingResponse, none))
  | _ => some (.answer (.empty, some ⟨"unknown msg: %v", []⟩))

/- A response without a signature. -/
def Message.Unsigned : Message → Prop
| .signedVoteResponse v e => v = .zero ∧ e ≠ none
| .signedProposalResponse p e => p = .zero ∧ e ≠ none
| _ => True

theorem Message.Unsigned.signed
    {res : Message}
    (hUnsigned : res.Unsigned)
    (lib : Comet)
    (chainID : Bytes) :
    res.signed lib chainID = none := by
  cases res with
  | signedVoteResponse v e =>
      cases e with
      | none => exact absurd rfl hUnsigned.2
      | some e => rfl
  | signedProposalResponse p e =>
      cases e with
      | none => exact absurd rfl hUnsigned.2
      | some e => rfl
  | _ => rfl

/-
  The kinds of response to a request. An empty message goes
  with a public key that could not be read, and with what is
  not a request.
-/
def Message.AnsweredBy : Message → Message → Prop
| .pubKeyRequest _, .pubKeyResponse _ _ => True
| .pubKeyRequest _, .empty => True
| .signVoteRequest _ _, .signedVoteResponse _ _ => True
| .signProposalRequest _ _, .signedProposalResponse _ _ =>
    True
| .pingRequest, .pingResponse => True
| .empty, .empty => True
| .pubKeyResponse _ _, .empty => True
| .signedVoteResponse _ _, .empty => True
| .signedProposalResponse _ _, .empty => True
| .pingResponse, .empty => True
| _, _ => False

end Consensus

end BridgeSigner

------------------------------------------------------------
-- What Is Relied On
------------------------------------------------------------

namespace BridgeSigner

namespace Consensus

/- Sign-bytes are made of messages whose block id decodes. -/
def Vote.WellFormed
    (lib : Comet)
    (v : Vote) : Prop :=
  ∃ bid, lib.blockIDFromProto v.blockID = .ok bid

def Proposal.WellFormed
    (lib : Comet)
    (p : Proposal) : Prop :=
  ∃ bid, lib.blockIDFromProto p.blockID = .ok bid

/- Saved sign-bytes are those of a message at that place. -/
def LastSignState.Genuine
    (lib : Comet)
    (st : LastSignState) : Prop :=
  ∀ signBytes, st.signBytes = some signBytes →
    (∃ chainID v, Vote.WellFormed lib v ∧
        v.hrs lib = some st.hrs ∧
        lib.voteSignBytes chainID v = signBytes) ∨
      ∃ chainID p, Proposal.WellFormed lib p ∧
        p.hrs lib = some st.hrs ∧
        lib.proposalSignBytes chainID p = signBytes

/- No sign-bytes without a signature, or of other making. -/
structure LastSignState.Sane
    (lib : Comet)
    (st : LastSignState) : Prop where
  whole : st.signBytes.isSome = true →
    st.signature.isSome = true
  genuine : st.Genuine lib

/-
  How `FilePV` signs a vote or a proposal. A new signature
  is made only above the last height, round and step, and
  becomes the state to save. At the same place the saved
  signature is returned, on the message with the saved
  timestamp: all such answers are over the same sign-bytes,
  and these are the saved ones if the library made them.
-/
structure SignsOnce
    {α : Type}
    (sign : LastSignState → α → SignOutcome α)
    (hrs : α → Option HRS)
    (signed : α → Option Signed)
    (wellFormed : α → Prop)
    (genuine : LastSignState → Prop) : Prop where
  fresh :
    ∀ st a a' st', wellFormed a →
      sign st a = .fresh a' st' →
        wellFormed a' ∧
          ∃ x, signed a' = some x ∧ st' = x.state ∧
            hrs a = some x.hrs ∧ st.hrs < x.hrs ∧
            x.signBytes ≠ [] ∧ x.signature ≠ []
  reused :
    ∀ st a a', wellFormed a → sign st a = .reused a' →
      hrs a = some st.hrs ∧
        ∃ x, signed a' = some x ∧ x.hrs = st.hrs
  agree :
    ∀ st a a' b b', wellFormed a → wellFormed b →
      sign st a = .reused a' → sign st b = .reused b' →
        signed a' = signed b'
  saved :
    ∀ st a a', wellFormed a → genuine st →
      sign st a = .reused a' → signed a' = st.signed

/- Extensions are accepted on precommits for a block only. -/
def Vote.Ready
    (lib : Comet)
    (v : Vote) : Prop :=
  v.extension = [] ∨
    v.type = .precommit ∧
      ∃ bid,
        lib.blockIDFromProto v.blockID = .ok bid ∧
          lib.isZero bid = false

namespace Comet

variable (lib : Comet)

/- The default handler is the published one. -/
def DefaultPublished : Prop :=
  ∀ req chainID plan,
    Consensus.defaultValidationRequestHandler req chainID =
        some plan →
      lib.defaultValidationRequestHandler req chainID = plan

/- Votes have steps of their own. -/
structure VoteSteps : Prop where
  valid :
    ∀ t, lib.isVoteTypeValid t = true →
      ∃ step, lib.voteStep t = some step
  not_proposal :
    ∀ t, lib.voteStep t ≠ some lib.proposalStep

/- `FilePV` signs once at each place. -/
structure SignsOnce : Prop where
  votes :
    ∀ chainID,
      Consensus.SignsOnce (lib.signVote chainID)
        (Vote.hrs lib) (Vote.signed lib chainID)
        (Vote.WellFormed lib) (LastSignState.Genuine lib)
  proposals :
    ∀ chainID,
      Consensus.SignsOnce (lib.signProposal chainID)
        (Proposal.hrs lib) (Proposal.signed lib chainID)
        (Proposal.WellFormed lib) (LastSignState.Genuine lib)

/- `FilePV` panics on none of its own states. -/
structure NeverPanics : Prop where
  votes :
    ∀ chainID st v k, Vote.WellFormed lib v →
      v.hrs lib = some k → st.Sane lib →
        lib.signVote chainID st v ≠ .panic
  proposals :
    ∀ chainID st p, Proposal.WellFormed lib p →
      st.Sane lib → lib.signProposal chainID st p ≠ .panic

/- Above the last place a signature is made. -/
structure SignsAbove : Prop where
  votes :
    ∀ chainID st v k, Vote.WellFormed lib v →
      v.Ready lib → v.hrs lib = some k → st.hrs < k →
        ∃ v' st', lib.signVote chainID st v = .fresh v' st'
  proposals :
    ∀ chainID st p k, Proposal.WellFormed lib p →
      p.hrs lib = some k → st.hrs < k →
        ∃ p' st',
          lib.signProposal chainID st p = .fresh p' st'

/- A saved state reads back. -/
def StateRestored : Prop :=
  ∀ x : Signed, x.signBytes ≠ [] → x.signature ≠ [] →
    lib.unmarshalState (lib.marshalState x.state) =
      .ok ⟨x.hrs.height, x.hrs.round, x.hrs.step,
        some x.signature, some x.signBytes⟩

end Comet

end Consensus

end BridgeSigner

------------------------------------------------------------
-- What The Validating Handler Can Do
------------------------------------------------------------

namespace BridgeSigner

namespace Consensus

/-
  The plans of the validating handler: it signs only what it
  has checked, for the configured chain.
-/
inductive Plan.Served
    (lib : Comet)
    (valAddr : Bytes)
    (chainID : Bytes)
    (req : Message) :
    Plan → Prop where
| answer
    {reply : Reply}
    (hUnsigned : reply.1.Unsigned)
    (hKind : req.AnsweredBy reply.1) :
    Served lib valAddr chainID req (.answer reply)
| getPubKey
    (hReq : req = .pubKeyRequest chainID) :
    Served lib valAddr chainID req (.getPubKey pubKeyReply)
| vote
    {v : Vote}
    (hReq : req = .signVoteRequest (some v) chainID)
    (hChain : validateRequestChainID chainID = .ok ())
    (hValid : ValidVote lib valAddr v) :
    Served lib valAddr chainID req (.signVote v voteReply)
| proposal
    {p : Proposal}
    (hReq : req = .signProposalRequest (some p) chainID)
    (hChain : validateRequestChainID chainID = .ok ())
    (hValid :
      validateSignProposalRequest lib (some p) = .ok ()) :
    Served lib valAddr chainID req
      (.signProposal p proposalReply)

variable {lib : Comet}
variable {valAddr chainID : Bytes}
variable {req : Message}

theorem ValidVote.wellFormed
    {v : Vote}
    (hValid : ValidVote lib valAddr v) :
    v.WellFormed lib := by
  rcases hValid.block with ⟨bid, hBid, -⟩
  exact ⟨bid, hBid⟩

theorem Proposal.wellFormed_of_ok
    {p : Proposal}
    {u : Unit}
    (hOk :
      validateSignProposalRequest lib (some p) = .ok u) :
    p.WellFormed lib := by
  simp only [validateSignProposalRequest,
    except_bind_ok_iff, ensure_ok_iff, exists_const,
    checkedBlockID, mapError_ok_iff] at hOk
  rcases hOk with ⟨-, -, -, -, bid, hBid, -⟩
  exact ⟨bid, hBid⟩

theorem default_pubKey_served
    (hDefault : lib.DefaultPublished)
    (cid : Bytes) :
    Plan.Served lib valAddr chainID (.pubKeyRequest cid)
      (lib.defaultValidationRequestHandler
        (.pubKeyRequest cid) chainID) := by
  by_cases hSame : cid = chainID
  · rw [hDefault (.pubKeyRequest cid) chainID _
      (if_pos hSame)]
    exact .getPubKey (by rw [hSame])
  · rw [hDefault (.pubKeyRequest cid) chainID _
      (if_neg hSame)]
    exact .answer trivial trivial

theorem default_vote_served
    (hDefault : lib.DefaultPublished)
    {v : Vote}
    {cid : Bytes}
    (hChain : validateRequestChainID cid = .ok ())
    (hValid : ValidVote lib valAddr v) :
    Plan.Served lib valAddr chainID
      (.signVoteRequest (some v) cid)
      (lib.defaultValidationRequestHandler
        (.signVoteRequest (some v) cid) chainID) := by
  by_cases hSame : cid = chainID
  · subst hSame
    rw [hDefault (.signVoteRequest (some v) cid) cid _
      (if_pos rfl)]
    exact .vote rfl hChain hValid
  · rw [hDefault (.signVoteRequest (some v) cid) chainID _
      (if_neg hSame)]
    exact .answer ⟨rfl, nofun⟩ trivial

theorem default_proposal_served
    (hDefault : lib.DefaultPublished)
    {p : Proposal}
    {cid : Bytes}
    (hChain : validateRequestChainID cid = .ok ())
    (hValid :
      validateSignProposalRequest lib (some p) = .ok ()) :
    Plan.Served lib valAddr chainID
      (.signProposalRequest (some p) cid)
      (lib.defaultValidationRequestHandler
        (.signProposalRequest (some p) cid) chainID) := by
  by_cases hSame : cid = chainID
  · subst hSame
    rw [hDefault (.signProposalRequest (some p) cid) cid _
      (if_pos rfl)]
    exact .proposal rfl hChain hValid
  · rw [hDefault (.signProposalRequest (some p) cid) chainID
      _ (if_neg hSame)]
    exact .answer ⟨rfl, nofun⟩ trivial

theorem validationRequestHandler_served
    (hDefault : lib.DefaultPublished) :
    Plan.Served lib valAddr chainID req
      (validationRequestHandler lib valAddr req chainID) := by
  cases req with
  | pubKeyRequest cid =>
      simp only [validationRequestHandler]
      split
      · exact .answer trivial trivial
      · exact default_pubKey_served hDefault cid
  | signVoteRequest vote cid =>
      simp only [validationRequestHandler]
      split
      · exact .answer ⟨rfl, nofun⟩ trivial
      · cases vote with
        | none => exact .answer ⟨rfl, nofun⟩ trivial
        | some v =>
            simp only
            split
            · exact .answer ⟨rfl, nofun⟩ trivial
            · rename_i hChain _ _ hOk
              exact default_vote_served hDefault hChain
                (validateSignVoteRequest_ok_iff.mp hOk)
  | signProposalRequest proposal cid =>
      simp only [validationRequestHandler]
      split
      · exact .answer ⟨rfl, nofun⟩ trivial
      · cases proposal with
        | none => exact .answer ⟨rfl, nofun⟩ trivial
        | some p =>
            simp only
            split
            · exact .answer ⟨rfl, nofun⟩ trivial
            · rename_i hChain _ _ hOk
              exact default_proposal_served hDefault hChain
                hOk
  | _ =>
      -- What is not a sign or key request is passed on.
      simp only [validationRequestHandler]
      rw [hDefault _ _ _ rfl]
      exact .answer trivial trivial

end Consensus

end BridgeSigner

------------------------------------------------------------
-- What A Served Plan Comes To
------------------------------------------------------------

namespace BridgeSigner

namespace Consensus

/- What a call without a new state replies with. -/
theorem SignOutcome.entered_done
    {α : Type}
    {outcome : SignOutcome α}
    {reply : Fallible α → Reply}
    {r : Reply}
    (hEntered : outcome.entered reply = .done r) :
    (∃ a, outcome = .reused a ∧ r = reply (.ok a)) ∨
      ∃ e, r = reply (.error e) := by
  cases outcome with
  | fresh a st => cases hEntered
  | reused a =>
      cases hEntered
      exact Or.inl ⟨a, rfl, rfl⟩
  | refused e =>
      cases hEntered
      exact Or.inr ⟨e, rfl⟩
  | panic => cases hEntered

/- What a call with a new state replies with. -/
theorem SignOutcome.entered_saving
    {α : Type}
    {outcome : SignOutcome α}
    {reply : Fallible α → Reply}
    {st : LastSignState}
    {r : Reply}
    (hEntered : outcome.entered reply = .saving st r) :
    ∃ a, outcome = .fresh a st ∧ r = reply (.ok a) := by
  cases outcome with
  | fresh a st' =>
      cases hEntered
      exact ⟨a, rfl, rfl⟩
  | reused a => cases hEntered
  | refused e => cases hEntered
  | panic => cases hEntered

theorem SignOutcome.entered_ne_panic
    {α : Type}
    {outcome : SignOutcome α}
    (hNe : outcome ≠ .panic)
    (reply : Fallible α → Reply) :
    outcome.entered reply ≠ .panic := by
  cases outcome with
  | panic => exact absurd rfl hNe
  | _ => nofun

/- The library made the sign-bytes of a signed message. -/
theorem Vote.signed_genuine
    {lib : Comet}
    {chainID : Bytes}
    {v : Vote}
    (hForm : v.WellFormed lib)
    {x : Signed}
    (hx : v.signed lib chainID = some x) :
    x.state.Genuine lib := by
  rcases Option.map_eq_some_iff.mp hx with ⟨k, hk, rfl⟩
  rintro signBytes ⟨⟩
  exact Or.inl ⟨chainID, v, hForm, hk, rfl⟩

theorem Proposal.signed_genuine
    {lib : Comet}
    {chainID : Bytes}
    {p : Proposal}
    (hForm : p.WellFormed lib)
    {x : Signed}
    (hx : p.signed lib chainID = some x) :
    x.state.Genuine lib := by
  rcases Option.map_eq_some_iff.mp hx with ⟨k, hk, rfl⟩
  rintro signBytes ⟨⟩
  exact Or.inr ⟨chainID, p, hForm, hk, rfl⟩

/- Votes and proposals are never at the same place. -/
theorem Comet.VoteSteps.apart
    {lib : Comet}
    (hSteps : lib.VoteSteps)
    {v : Vote}
    {p : Proposal}
    {k : HRS}
    (hv : v.hrs lib = some k)
    (hp : p.hrs lib = some k) :
    False := by
  rcases Option.map_eq_some_iff.mp hv with
    ⟨step, hStep, hPlace⟩
  have hSame := Option.some.inj hp
  rw [← hPlace] at hSame
  rw [← (HRS.mk.inj hSame).2.2] at hStep
  exact hSteps.not_proposal v.type hStep

/-
  The signature `x` is one that a call answers with when it
  makes none.
-/
inductive Comet.Reuses
    (lib : Comet)
    (chainID : Bytes)
    (st : LastSignState)
    (x : Signed) : Prop where
| vote
    {v v' : Vote}
    (hForm : v.WellFormed lib)
    (hSign : lib.signVote chainID st v = .reused v')
    (hSigned : v'.signed lib chainID = some x)
| proposal
    {p p' : Proposal}
    (hForm : p.WellFormed lib)
    (hSign : lib.signProposal chainID st p = .reused p')
    (hSigned : p'.signed lib chainID = some x)

namespace Comet.Reuses

variable {lib : Comet}
variable {chainID : Bytes}
variable {st : LastSignState}
variable {x y : Signed}

theorem hrs_eq
    (hOnce : lib.SignsOnce)
    (hReuses : lib.Reuses chainID st x) :
    x.hrs = st.hrs := by
  cases hReuses with
  | vote hForm hSign hSigned =>
      rcases (hOnce.votes chainID).reused _ _ _ hForm
          hSign with
        ⟨-, y, hy, hPlace⟩
      cases hSigned.symm.trans hy
      exact hPlace
  | proposal hForm hSign hSigned =>
      rcases (hOnce.proposals chainID).reused _ _ _ hForm
          hSign with
        ⟨-, y, hy, hPlace⟩
      cases hSigned.symm.trans hy
      exact hPlace

theorem unique
    (hSteps : lib.VoteSteps)
    (hOnce : lib.SignsOnce)
    (hx : lib.Reuses chainID st x)
    (hy : lib.Reuses chainID st y) :
    x = y := by
  cases hx with
  | vote hForm hSign hSigned =>
      cases hy with
      | vote hForm' hSign' hSigned' =>
          rw [(hOnce.votes chainID).agree _ _ _ _ _ hForm
            hForm' hSign hSign'] at hSigned
          exact Option.some.inj (hSigned.symm.trans hSigned')
      | proposal hForm' hSign' hSigned' =>
          exact (hSteps.apart
            ((hOnce.votes chainID).reused _ _ _ hForm
              hSign).1
            ((hOnce.proposals chainID).reused _ _ _ hForm'
              hSign').1).elim
  | proposal hForm hSign hSigned =>
      cases hy with
      | vote hForm' hSign' hSigned' =>
          exact (hSteps.apart
            ((hOnce.votes chainID).reused _ _ _ hForm'
              hSign').1
            ((hOnce.proposals chainID).reused _ _ _ hForm
              hSign).1).elim
      | proposal hForm' hSign' hSigned' =>
          rw [(hOnce.proposals chainID).agree _ _ _ _ _ hForm
            hForm' hSign hSign'] at hSigned
          exact Option.some.inj (hSigned.symm.trans hSigned')

/- On a state of the library's making it is the saved one. -/
theorem saved
    (hOnce : lib.SignsOnce)
    (hGenuine : st.Genuine lib)
    (hReuses : lib.Reuses chainID st x) :
    st.signed = some x := by
  cases hReuses with
  | vote hForm hSign hSigned =>
      rw [← (hOnce.votes chainID).saved _ _ _ hForm hGenuine
        hSign]
      exact hSigned
  | proposal hForm hSign hSigned =>
      rw [← (hOnce.proposals chainID).saved _ _ _ hForm
        hGenuine hSign]
      exact hSigned

end Comet.Reuses

namespace Plan.Served

variable {lib : Comet}
variable {valAddr chainID : Bytes}
variable {req : Message}
variable {plan : Plan}
variable {st st' : LastSignState}
variable {r : Reply}

theorem answer_kind
    (hServed :
      Plan.Served lib valAddr chainID req (.answer r)) :
    req.AnsweredBy r.1 := by
  cases hServed with
  | answer hUnsigned hKind => exact hKind

/- A reply is of the request's kind. -/
theorem enter_kind
    (hServed : Plan.Served lib valAddr chainID req plan)
    (hEnter :
      plan.enter lib chainID st = .done r ∨
        ∃ st', plan.enter lib chainID st = .saving st' r) :
    req.AnsweredBy r.1 := by
  cases hServed with
  | answer hUnsigned hKind =>
      rcases hEnter with hDone | ⟨st', hSaving⟩
      · cases hDone
        exact hKind
      · cases hSaving
  | getPubKey hReq =>
      subst hReq
      rcases hEnter with hDone | ⟨st', hSaving⟩
      · cases hDone
        cases lib.pubKey with
        | ok key => trivial
        | error e => trivial
      · cases hSaving
  | vote hReq hChain hValid =>
      subst hReq
      rcases hEnter with hDone | ⟨st', hSaving⟩
      · rcases SignOutcome.entered_done hDone with
          ⟨v', -, rfl⟩ | ⟨e, rfl⟩
        · trivial
        · trivial
      · rcases SignOutcome.entered_saving hSaving with
          ⟨v', -, rfl⟩
        trivial
  | proposal hReq hChain hValid =>
      subst hReq
      rcases hEnter with hDone | ⟨st', hSaving⟩
      · rcases SignOutcome.entered_done hDone with
          ⟨p', -, rfl⟩ | ⟨e, rfl⟩
        · trivial
        · trivial
      · rcases SignOutcome.entered_saving hSaving with
          ⟨p', -, rfl⟩
        trivial

/- A reply without a save has no signature, or a saved one. -/
theorem done
    (hOnce : lib.SignsOnce)
    (hServed : Plan.Served lib valAddr chainID req plan)
    (hEnter : plan.enter lib chainID st = .done r) :
    r.1.signed lib chainID = none ∨
      ∃ x, r.1.signed lib chainID = some x ∧
        lib.Reuses chainID st x ∧ req.hrs lib = some x.hrs := by
  cases hServed with
  | answer hUnsigned hKind =>
      cases hEnter
      exact Or.inl (hUnsigned.signed lib chainID)
  | getPubKey hReq =>
      cases hEnter
      cases lib.pubKey with
      | ok key => exact Or.inl rfl
      | error e => exact Or.inl rfl
  | vote hReq hChain hValid =>
      rcases SignOutcome.entered_done hEnter with
        ⟨v', hSign, rfl⟩ | ⟨e, rfl⟩
      · rcases (hOnce.votes chainID).reused _ _ _
            hValid.wellFormed hSign with
          ⟨hPlace, x, hx, hSame⟩
        rw [← hSame] at hPlace
        rw [hReq]
        exact Or.inr ⟨x, hx,
          .vote hValid.wellFormed hSign hx, hPlace⟩
      · exact Or.inl rfl
  | proposal hReq hChain hValid =>
      have hForm := Proposal.wellFormed_of_ok hValid
      rcases SignOutcome.entered_done hEnter with
        ⟨p', hSign, rfl⟩ | ⟨e, rfl⟩
      · rcases (hOnce.proposals chainID).reused _ _ _
            hForm hSign with
          ⟨hPlace, x, hx, hSame⟩
        rw [← hSame] at hPlace
        rw [hReq]
        exact Or.inr ⟨x, hx,
          .proposal hForm hSign hx, hPlace⟩
      · exact Or.inl rfl

/- A state to save is that of the new signature replied. -/
theorem saving
    (hOnce : lib.SignsOnce)
    (hServed : Plan.Served lib valAddr chainID req plan)
    (hEnter : plan.enter lib chainID st = .saving st' r) :
    ∃ x, r.1.signed lib chainID = some x ∧ st' = x.state ∧
      x.state.Genuine lib ∧
      req.hrs lib = some x.hrs ∧ st.hrs < x.hrs ∧
      x.signBytes ≠ [] ∧ x.signature ≠ [] := by
  cases hServed with
  | answer hUnsigned hKind => cases hEnter
  | getPubKey hReq => cases hEnter
  | vote hReq hChain hValid =>
      rcases SignOutcome.entered_saving hEnter with
        ⟨v', hSign, rfl⟩
      rcases (hOnce.votes chainID).fresh _ _ _ _
          hValid.wellFormed hSign with
        ⟨hForm, x, hx, hState, hPlace, hFacts⟩
      rw [hReq]
      exact ⟨x, hx, hState, Vote.signed_genuine hForm hx,
        hPlace, hFacts⟩
  | proposal hReq hChain hValid =>
      rcases SignOutcome.entered_saving hEnter with
        ⟨p', hSign, rfl⟩
      rcases (hOnce.proposals chainID).fresh _ _ _ _
          (Proposal.wellFormed_of_ok hValid) hSign with
        ⟨hForm, x, hx, hState, hPlace, hFacts⟩
      rw [hReq]
      exact ⟨x, hx, hState, Proposal.signed_genuine hForm hx,
        hPlace, hFacts⟩

theorem no_panic
    (hSteps : lib.VoteSteps)
    (hNever : lib.NeverPanics)
    (hServed : Plan.Served lib valAddr chainID req plan)
    (hSane : st.Sane lib) :
    plan.enter lib chainID st ≠ .panic := by
  cases hServed with
  | answer hUnsigned hKind => nofun
  | getPubKey hReq => nofun
  | @vote v hReq hChain hValid =>
      rcases hSteps.valid v.type hValid.type_valid with
        ⟨step, hStep⟩
      refine SignOutcome.entered_ne_panic ?_ voteReply
      exact hNever.votes chainID st v
        ⟨v.height, v.round, step⟩ hValid.wellFormed
        (by rw [Vote.hrs, hStep]; rfl) hSane
  | proposal hReq hChain hValid =>
      refine SignOutcome.entered_ne_panic ?_ proposalReply
      exact hNever.proposals chainID st _
        (Proposal.wellFormed_of_ok hValid) hSane

end Plan.Served

end Consensus

end BridgeSigner
