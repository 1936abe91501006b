import BridgeSigner.Consensus.Handler

/-
  The private validator of the node library, written out as
  it is published.

  `FilePV` works on the vote it is handed, and may have
  filled a part of it when it fails. `Implements` says that
  the library is the published one, on messages whose block
  id decodes: on others it panics in its sign-bytes. The
  published text signs once at each place and panics on no
  state of its own making, given what `Encodes` says of the
  sign-bytes.

  Key definitions include:
    * `LastSignState.checkHRS`
    * `FilePV.signVote`, `FilePV.signProposal`
    * `FilePV.Implements`
    * `FilePV.library`

  Main results:
    * `FilePV.signVote_clean`
    * `FilePV.library_signsOnce`
    * `FilePV.library_neverPanics`
    * `FilePV.library_signsAbove`
-/

------------------------------------------------------------
-- The Private Validator
------------------------------------------------------------

namespace BridgeSigner

namespace Consensus

/- Why a vote or a proposal is not signed. -/
inductive PVError where
| heightRegression
| roundRegression
| stepRegression
| noSignBytes
| unexpectedExtension
| conflictingData
| key (e : Bytes)
  deriving DecidableEq, Repr

/- Where a message stands to the last one signed. -/
inductive Standing where
| above
| same (signBytes signature : Bytes)
| refused (e : PVError)
| panic

def LastSignState.checkHRS
    (st : LastSignState)
    (k : HRS) : Standing :=
  if k.height < st.height then
    .refused .heightRegression
  else if st.height = k.height then
    if k.round < st.round then
      .refused .roundRegression
    else if st.round = k.round then
      if k.step < st.step then
        .refused .stepRegression
      else if st.step = k.step then
        match st.signBytes, st.signature with
        | some signBytes, some signature =>
            .same signBytes signature
        | some _, none => .panic
        | none, _ => .refused .noSignBytes
      else
        .above
    else
      .above
  else
    .above

/- Saved sign-bytes beside new ones. -/
inductive Comparison where
| undecodable
| different
| upToTime (saved : Timestamp)

/-
  The key of the validator, and what it signs. Sign-bytes
  exist for well-formed messages; what stands for them on
  others is never used.
-/
structure FilePV where
  sign : Bytes → Fallible Bytes
  voteSignBytes : Bytes → Vote → Bytes
  voteExtensionSignBytes : Bytes → Vote → Bytes
  proposalSignBytes : Bytes → Proposal → Bytes
  checkVotesOnlyDifferByTimestamp :
    Bytes → Bytes → Comparison
  checkProposalsOnlyDifferByTimestamp :
    Bytes → Bytes → Comparison
  errorText : PVError → Bytes

/-
  A signing call: the message as the call left it, the error,
  and the last-sign state if one was saved.
-/
inductive SignCall (α : Type) where
| panic
| returned
    (a : α)
    (err : Option PVError)
    (saved : Option LastSignState)

def voteToStep : SignedMsgType → Option Int
| .prevote => some 2
| .precommit => some 3
| _ => none

def stepPropose : Int :=
  1

namespace FilePV

variable (pv : FilePV)

def trySign
    (message : Bytes) : Except PVError Bytes :=
  (pv.sign message).mapError PVError.key

/- Precommits for a block have their extension signed. -/
def extensionSignature
    (chainID : Bytes)
    (v : Vote) : Except PVError Bytes :=
  if v.type = .precommit ∧ v.blockID ≠ .zero then
    pv.trySign (pv.voteExtensionSignBytes chainID v)
  else if v.extension ≠ [] then
    .error .unexpectedExtension
  else
    .ok []

/-
  The last signature is returned for the same vote, also
  with another timestamp. The extension signature is filled
  in also where the data conflict. Saved sign-bytes that are
  no vote are a panic.
-/
def signVoteAgain
    (chainID : Bytes)
    (v : Vote)
    (signBytes signature extSig : Bytes) : SignCall Vote :=
  let filled := { v with extensionSignature := extSig }
  if pv.voteSignBytes chainID v = signBytes then
    .returned { filled with signature := signature } none
      none
  else
    match
      pv.checkVotesOnlyDifferByTimestamp signBytes
        (pv.voteSignBytes chainID v)
    with
    | .undecodable => .panic
    | .upToTime timestamp =>
        .returned
          { filled with
            timestamp := timestamp
            signature := signature }
          none none
    | .different =>
        .returned filled (some .conflictingData) none

/- A new signature is saved before the vote is filled in. -/
def signVoteAbove
    (chainID : Bytes)
    (v : Vote)
    (step : Int)
    (extSig : Bytes) : SignCall Vote :=
  let signBytes := pv.voteSignBytes chainID v
  match pv.trySign signBytes with
  | .error e => .returned v (some e) none
  | .ok sig =>
      .returned
        { v with
          signature := sig
          extensionSignature := extSig }
        none
        (some ⟨v.height, v.round, step, some sig,
          some signBytes⟩)

def signVote
    (chainID : Bytes)
    (st : LastSignState)
    (v : Vote) : SignCall Vote :=
  match voteToStep v.type with
  | none => .panic
  | some step =>
      match st.checkHRS ⟨v.height, v.round, step⟩ with
      | .panic => .panic
      | .refused e => .returned v (some e) none
      | .same signBytes signature =>
          match pv.extensionSignature chainID v with
          | .error e => .returned v (some e) none
          | .ok extSig =>
              pv.signVoteAgain chainID v signBytes signature
                extSig
      | .above =>
          match pv.extensionSignature chainID v with
          | .error e => .returned v (some e) none
          | .ok extSig =>
              pv.signVoteAbove chainID v step extSig

def signProposalAgain
    (chainID : Bytes)
    (p : Proposal)
    (signBytes signature : Bytes) : SignCall Proposal :=
  if pv.proposalSignBytes chainID p = signBytes then
    .returned { p with signature := signature } none none
  else
    match
      pv.checkProposalsOnlyDifferByTimestamp signBytes
        (pv.proposalSignBytes chainID p)
    with
    | .undecodable => .panic
    | .upToTime timestamp =>
        .returned
          { p with
            timestamp := timestamp
            signature := signature }
          none none
    | .different => .returned p (some .conflictingData) none

def signProposalAbove
    (chainID : Bytes)
    (p : Proposal) : SignCall Proposal :=
  let signBytes := pv.proposalSignBytes chainID p
  match pv.trySign signBytes with
  | .error e => .returned p (some e) none
  | .ok sig =>
      .returned { p with signature := sig } none
        (some ⟨p.height, p.round, stepPropose, some sig,
          some signBytes⟩)

def signProposal
    (chainID : Bytes)
    (st : LastSignState)
    (p : Proposal) : SignCall Proposal :=
  match st.checkHRS ⟨p.height, p.round, stepPropose⟩ with
  | .panic => .panic
  | .refused e => .returned p (some e) none
  | .same signBytes signature =>
      pv.signProposalAgain chainID p signBytes signature
  | .above => pv.signProposalAbove chainID p

end FilePV

end Consensus

end BridgeSigner

------------------------------------------------------------
-- A Failed Call Saves Nothing
------------------------------------------------------------

namespace BridgeSigner

namespace Consensus

/- A call that returned an error has saved no state. -/
def SignCall.Clean
    {α : Type} :
    SignCall α → Prop
| .panic => True
| .returned _ err saved => err ≠ none → saved = none

theorem SignCall.clean_unsaved
    {α : Type}
    (a : α)
    (err : Option PVError) :
    SignCall.Clean (.returned a err none) :=
  fun _ => rfl

theorem SignCall.clean_saved
    {α : Type}
    (a : α)
    (saved : Option LastSignState) :
    SignCall.Clean (.returned a none saved) :=
  fun hErr => absurd rfl hErr

namespace FilePV

variable (pv : FilePV)
variable (chainID : Bytes)
variable (st : LastSignState)

theorem signVoteAgain_clean
    (v : Vote)
    (signBytes signature extSig : Bytes) :
    (pv.signVoteAgain chainID v signBytes signature
      extSig).Clean := by
  unfold signVoteAgain
  simp only
  split
  · exact SignCall.clean_unsaved _ _
  · split
    · trivial
    · exact SignCall.clean_unsaved _ _
    · exact SignCall.clean_unsaved _ _

theorem signVoteAbove_clean
    (v : Vote)
    (step : Int)
    (extSig : Bytes) :
    (pv.signVoteAbove chainID v step extSig).Clean := by
  unfold signVoteAbove
  simp only
  split
  · exact SignCall.clean_unsaved _ _
  · exact SignCall.clean_saved _ _

theorem signVote_clean
    (v : Vote) :
    (pv.signVote chainID st v).Clean := by
  unfold signVote
  split
  · trivial
  · split
    · trivial
    · exact SignCall.clean_unsaved _ _
    · split
      · exact SignCall.clean_unsaved _ _
      · exact pv.signVoteAgain_clean chainID v _ _ _
    · split
      · exact SignCall.clean_unsaved _ _
      · exact pv.signVoteAbove_clean chainID v _ _

theorem signProposal_clean
    (p : Proposal) :
    (pv.signProposal chainID st p).Clean := by
  unfold signProposal
  split
  · trivial
  · exact SignCall.clean_unsaved _ _
  · unfold signProposalAgain
    split
    · exact SignCall.clean_unsaved _ _
    · split
      · trivial
      · exact SignCall.clean_unsaved _ _
      · exact SignCall.clean_unsaved _ _
  · unfold signProposalAbove
    simp only
    split
    · exact SignCall.clean_unsaved _ _
    · exact SignCall.clean_saved _ _

end FilePV

end Consensus

end BridgeSigner

------------------------------------------------------------
-- The Published Library
------------------------------------------------------------

namespace BridgeSigner

namespace Consensus

/- The outcome of a call, as the handlers see it. -/
def SignCall.outcome
    {α : Type}
    (text : PVError → Bytes) :
    SignCall α → SignOutcome α
| .panic => .panic
| .returned _ (some e) _ => .refused (text e)
| .returned a none (some st) => .fresh a st
| .returned a none none => .reused a

/- A block id without content, and one with all of it. -/
def BlockID.Nil
    (id : BlockID) : Prop :=
  id.hash.length = 0 ∧ id.partSetHeader.total = 0 ∧
    id.partSetHeader.hash.length = 0

def BlockID.Complete
    (id : BlockID) : Prop :=
  id.hash.length = 32 ∧ 0 < id.partSetHeader.total ∧
    id.partSetHeader.hash.length = 32

instance : DecidablePred BlockID.Nil :=
  fun _ => inferInstanceAs (Decidable (_ ∧ _ ∧ _))

instance : DecidablePred BlockID.Complete :=
  fun _ => inferInstanceAs (Decidable (_ ∧ _ ∧ _))

/- A hash is absent or has its full length. -/
def HashOk
    (hash : Bytes) : Prop :=
  hash.length = 0 ∨ hash.length = 32

instance : DecidablePred HashOk :=
  fun _ => inferInstanceAs (Decidable (_ ∨ _))

/-
  The library is the published one, on this validator. Its
  signing methods are compared on well-formed messages.
-/
structure FilePV.Implements
    (pv : FilePV)
    (lib : Comet) : Prop where
  voteTypes :
    ∀ t, lib.isVoteTypeValid t = true ↔
      t = .prevote ∨ t = .precommit
  blockIDs :
    ∀ id bid, lib.blockIDFromProto id = .ok bid → bid = id
  isZero : ∀ id, lib.isZero id = true ↔ id.Nil
  isComplete : ∀ id, lib.isComplete id = true ↔ id.Complete
  defaultHandler : lib.DefaultPublished
  signVote :
    ∀ chainID st v, Vote.WellFormed lib v →
      lib.signVote chainID st v =
        (pv.signVote chainID st v).outcome pv.errorText
  signProposal :
    ∀ chainID st p, Proposal.WellFormed lib p →
      lib.signProposal chainID st p =
        (pv.signProposal chainID st p).outcome pv.errorText

/- How the key and the state are read and written. -/
structure FilePV.Files where
  unmarshalKey : Bytes → Fallible (Option Bytes)
  newState : LastSignState
  unmarshalState : Bytes → Fallible StateJSON
  marshalState : LastSignState → Bytes

/- The published library on a validator and its files. -/
def FilePV.library
    (pv : FilePV)
    (pubKey : Bytes)
    (files : FilePV.Files) : Comet where
  isVoteTypeValid := fun t =>
    decide (t = .prevote ∨ t = .precommit)
  blockIDFromProto := fun id =>
    if HashOk id.hash ∧ HashOk id.partSetHeader.hash then
      .ok id
    else
      .error (ascii "wrong Hash")
  isZero := fun id => decide id.Nil
  isComplete := fun id => decide id.Complete
  maxVoteExtensionSize := 1024 * 1024
  voteStep := voteToStep
  proposalStep := stepPropose
  voteSignBytes := pv.voteSignBytes
  proposalSignBytes := pv.proposalSignBytes
  pubKey := .ok pubKey
  signVote := fun chainID st v =>
    (pv.signVote chainID st v).outcome pv.errorText
  signProposal := fun chainID st p =>
    (pv.signProposal chainID st p).outcome pv.errorText
  defaultValidationRequestHandler := fun req chainID =>
    (defaultValidationRequestHandler req chainID).getD
      (.answer (.empty, none))
  unmarshalKey := files.unmarshalKey
  newState := files.newState
  unmarshalState := files.unmarshalState
  marshalState := files.marshalState

namespace FilePV

variable (pv : FilePV)
variable (pubKey : Bytes)
variable (files : FilePV.Files)

theorem library_default :
    (pv.library pubKey files).DefaultPublished := by
  intro req chainID plan hPlan
  simp only [library, hPlan, Option.getD_some]

theorem library_voteSteps :
    (pv.library pubKey files).VoteSteps where
  valid := by
    intro t hValid
    cases t with
    | prevote => exact ⟨2, rfl⟩
    | precommit => exact ⟨3, rfl⟩
    | proposal => cases hValid
    | other n => cases hValid
  not_proposal := by
    intro t
    cases t with
    | prevote => exact nofun
    | precommit => exact nofun
    | proposal => exact nofun
    | other n => exact nofun

theorem library_implements :
    pv.Implements (pv.library pubKey files) where
  voteTypes := fun _ => decide_eq_true_iff
  blockIDs := by
    intro id bid hBid
    simp only [library] at hBid
    split at hBid
    · cases hBid
      rfl
    · cases hBid
  isZero := fun _ => decide_eq_true_iff
  isComplete := fun _ => decide_eq_true_iff
  defaultHandler := pv.library_default pubKey files
  signVote := fun _ _ _ _ => rfl
  signProposal := fun _ _ _ _ => rfl

end FilePV

end Consensus

end BridgeSigner

------------------------------------------------------------
-- What A Call Returned
------------------------------------------------------------

namespace BridgeSigner

namespace Consensus

theorem SignCall.outcome_fresh
    {α : Type}
    {text : PVError → Bytes}
    {call : SignCall α}
    {a : α}
    {st : LastSignState}
    (hOutcome : call.outcome text = .fresh a st) :
    call = .returned a none (some st) := by
  unfold outcome at hOutcome
  split at hOutcome
  · cases hOutcome
  · cases hOutcome
  · cases hOutcome
    rfl
  · cases hOutcome

theorem SignCall.outcome_reused
    {α : Type}
    {text : PVError → Bytes}
    {call : SignCall α}
    {a : α}
    (hOutcome : call.outcome text = .reused a) :
    call = .returned a none none := by
  unfold outcome at hOutcome
  split at hOutcome
  · cases hOutcome
  · cases hOutcome
  · cases hOutcome
  · cases hOutcome
    rfl

theorem SignCall.outcome_panic
    {α : Type}
    {text : PVError → Bytes}
    {call : SignCall α}
    (hOutcome : call.outcome text = .panic) :
    call = .panic := by
  unfold outcome at hOutcome
  split at hOutcome
  · rfl
  · cases hOutcome
  · cases hOutcome
  · cases hOutcome

/- Where `checkHRS` finds a message. -/
theorem LastSignState.checkHRS_above_iff
    {st : LastSignState}
    {k : HRS} :
    st.checkHRS k = .above ↔ st.hrs < k := by
  rw [HRS.lt_iff]
  simp only [hrs]
  unfold checkHRS
  split_ifs with h₁ h₂ h₃ h₄ h₅ h₆
  · simp only [false_iff]
    omega
  · simp only [false_iff]
    omega
  · simp only [false_iff]
    omega
  · constructor
    · intro hSame
      split at hSame <;> cases hSame
    · omega
  · simp only [true_iff]
    omega
  · simp only [true_iff]
    omega
  · simp only [true_iff]
    omega

theorem LastSignState.checkHRS_same
    {st : LastSignState}
    {k : HRS}
    {signBytes signature : Bytes}
    (hSame : st.checkHRS k = .same signBytes signature) :
    k = st.hrs ∧
      st.signed = some ⟨k, signBytes, signature⟩ := by
  unfold checkHRS at hSame
  split_ifs at hSame with h₁ h₂ h₃ h₄ h₅ h₆
  have hPlace : k = st.hrs :=
    HRS.ext h₂.symm h₄.symm h₆.symm
  refine ⟨hPlace, ?_⟩
  rw [hPlace]
  unfold signed
  split at hSame
  · rename_i hBytes hSignature
    cases hSame
    rw [hBytes, hSignature]
  · cases hSame
  · cases hSame

theorem LastSignState.checkHRS_ne_panic
    {lib : Comet}
    {st : LastSignState}
    (hSane : st.Sane lib)
    (k : HRS) :
    st.checkHRS k ≠ .panic := by
  intro hPanic
  unfold checkHRS at hPanic
  split_ifs at hPanic
  split at hPanic
  · cases hPanic
  · rename_i hBytes hSignature
    have hWhole := hSane.whole (by rw [hBytes]; rfl)
    rw [hSignature] at hWhole
    cases hWhole
  · cases hPanic

end Consensus

end BridgeSigner

------------------------------------------------------------
-- Signing Once
------------------------------------------------------------

namespace BridgeSigner

namespace Consensus

namespace FilePV

/-
  What is published of sign-bytes: the signatures are not
  part of them, they say all but the timestamp, and they
  decode. The key signs every text.
-/
structure Encodes
    (pv : FilePV) : Prop where
  signs :
    ∀ message, ∃ sig,
      pv.sign message = .ok sig ∧ sig ≠ []
  vote_nonempty : ∀ chainID v, pv.voteSignBytes chainID v ≠ []
  vote_signed :
    ∀ chainID v sig extSig,
      pv.voteSignBytes chainID
          { v with
            signature := sig
            extensionSignature := extSig } =
        pv.voteSignBytes chainID v
  vote_agree :
    ∀ signBytes chainID v w t u,
      pv.checkVotesOnlyDifferByTimestamp signBytes
          (pv.voteSignBytes chainID v) = .upToTime t →
        pv.checkVotesOnlyDifferByTimestamp signBytes
            (pv.voteSignBytes chainID w) = .upToTime u →
          pv.voteSignBytes chainID { v with timestamp := t } =
            pv.voteSignBytes chainID { w with timestamp := u }
  vote_saved :
    ∀ chainID chainID' v w t,
      pv.checkVotesOnlyDifferByTimestamp
          (pv.voteSignBytes chainID' w)
          (pv.voteSignBytes chainID v) = .upToTime t →
        pv.voteSignBytes chainID { v with timestamp := t } =
          pv.voteSignBytes chainID' w
  vote_decodes :
    ∀ chainID chainID' v w,
      pv.checkVotesOnlyDifferByTimestamp
          (pv.voteSignBytes chainID' w)
          (pv.voteSignBytes chainID v) ≠ .undecodable
  proposal_nonempty :
    ∀ chainID p, pv.proposalSignBytes chainID p ≠ []
  proposal_signed :
    ∀ chainID p sig,
      pv.proposalSignBytes chainID
          { p with signature := sig } =
        pv.proposalSignBytes chainID p
  proposal_agree :
    ∀ signBytes chainID p q t u,
      pv.checkProposalsOnlyDifferByTimestamp signBytes
          (pv.proposalSignBytes chainID p) = .upToTime t →
        pv.checkProposalsOnlyDifferByTimestamp signBytes
            (pv.proposalSignBytes chainID q) = .upToTime u →
          pv.proposalSignBytes chainID
              { p with timestamp := t } =
            pv.proposalSignBytes chainID
              { q with timestamp := u }
  proposal_saved :
    ∀ chainID chainID' p q t,
      pv.checkProposalsOnlyDifferByTimestamp
          (pv.proposalSignBytes chainID' q)
          (pv.proposalSignBytes chainID p) = .upToTime t →
        pv.proposalSignBytes chainID
            { p with timestamp := t } =
          pv.proposalSignBytes chainID' q
  proposal_decodes :
    ∀ chainID chainID' p q,
      pv.checkProposalsOnlyDifferByTimestamp
          (pv.proposalSignBytes chainID' q)
          (pv.proposalSignBytes chainID p) ≠ .undecodable

/-
  A saved signature is given for a message: over the same
  sign-bytes, or over those with the saved timestamp.
-/
inductive Again
    {α : Type}
    (bytes : α → Bytes)
    (withTime : α → Timestamp → α)
    (check : Bytes → Bytes → Comparison)
    (saved : Bytes)
    (a a' : α) : Prop where
| same
    (hSame : bytes a = saved)
    (hBytes : bytes a' = saved)
| upToTime
    {t : Timestamp}
    (hCheck : check saved (bytes a) = .upToTime t)
    (hBytes : bytes a' = bytes (withTime a t))

/- How the signing of votes and of proposals is alike. -/
structure Signing
    {α : Type}
    (sign : LastSignState → α → SignCall α)
    (hrs : α → Option HRS)
    (bytes signature : α → Bytes)
    (withTime : α → Timestamp → α)
    (check : Bytes → Bytes → Comparison)
    (wellFormed : α → Prop) : Prop where
  fresh :
    ∀ st a a' st',
      sign st a = .returned a' none (some st') →
        (wellFormed a → wellFormed a') ∧
          ∃ k, hrs a = some k ∧ hrs a' = some k ∧
            st.checkHRS k = .above ∧ signature a' ≠ [] ∧
            st' = Signed.state ⟨k, bytes a', signature a'⟩
  reused :
    ∀ st a a', sign st a = .returned a' none none →
      ∃ k saved, hrs a = some k ∧ hrs a' = some k ∧
        st.checkHRS k = .same saved (signature a') ∧
        Again bytes withTime check saved a a'
  nonempty : ∀ a, bytes a ≠ []
  agree :
    ∀ saved a b t u,
      check saved (bytes a) = .upToTime t →
        check saved (bytes b) = .upToTime u →
          bytes (withTime a t) = bytes (withTime b u)
  given :
    ∀ a b t, check (bytes b) (bytes a) = .upToTime t →
      bytes (withTime a t) = bytes b

namespace Signing

variable {α : Type}
variable {sign : LastSignState → α → SignCall α}
variable {hrs : α → Option HRS}
variable {bytes signature : α → Bytes}
variable {withTime : α → Timestamp → α}
variable {check : Bytes → Bytes → Comparison}
variable {wellFormed : α → Prop}

/- All that is signed again is over the same sign-bytes. -/
theorem again_agree
    (hSigning :
      Signing sign hrs bytes signature withTime check
        wellFormed)
    {saved : Bytes}
    {a a' b b' : α}
    (ha : Again bytes withTime check saved a a')
    (hb : Again bytes withTime check saved b b') :
    bytes a' = bytes b' := by
  cases ha with
  | same hSame hBytes =>
      cases hb with
      | same hSame' hBytes' => rw [hBytes, hBytes']
      | upToTime hCheck hBytes' =>
          rw [← hSame] at hCheck
          rw [hBytes', hSigning.given b a _ hCheck, hSame,
            hBytes]
  | upToTime hCheck hBytes =>
      cases hb with
      | same hSame hBytes' =>
          rw [← hSame] at hCheck
          rw [hBytes, hSigning.given a b _ hCheck, hSame,
            hBytes']
      | upToTime hCheck' hBytes' =>
          rw [hBytes, hBytes',
            hSigning.agree saved a b _ _ hCheck hCheck']

/- It signs once, and returns genuine sign-bytes. -/
theorem signsOnce
    (hSigning :
      Signing sign hrs bytes signature withTime check
        wellFormed)
    (text : PVError → Bytes)
    {genuine : LastSignState → Prop}
    (hSaved :
      ∀ st k saved sig a a', genuine st →
        st.signed = some ⟨k, saved, sig⟩ →
          hrs a = some k →
            Again bytes withTime check saved a a' →
              bytes a' = saved) :
    Consensus.SignsOnce
      (fun st a => (sign st a).outcome text) hrs
      (fun a =>
        (hrs a).map (fun k => ⟨k, bytes a, signature a⟩))
      wellFormed genuine where
  fresh := by
    intro st a a' st' hForm hSign
    rcases hSigning.fresh st a a' st'
        (SignCall.outcome_fresh hSign) with
      ⟨hKept, k, hk, hk', hAbove, hSignature, hState⟩
    refine ⟨hKept hForm, ⟨k, bytes a', signature a'⟩, ?_,
      hState, hk, LastSignState.checkHRS_above_iff.mp hAbove,
      hSigning.nonempty a', hSignature⟩
    rw [hk', Option.map_some]
  reused := by
    intro st a a' hForm hSign
    rcases hSigning.reused st a a'
        (SignCall.outcome_reused hSign) with
      ⟨k, saved, hk, hk', hSame, -⟩
    have hPlace := (LastSignState.checkHRS_same hSame).1
    rw [hk, hPlace]
    refine ⟨rfl, ⟨k, bytes a', signature a'⟩, ?_, hPlace⟩
    rw [hk', Option.map_some]
  agree := by
    intro st a a' b b' hForm hForm' hSign hSign'
    rcases hSigning.reused st a a'
        (SignCall.outcome_reused hSign) with
      ⟨k, saved, hk, hk', hSame, hAgain⟩
    rcases hSigning.reused st b b'
        (SignCall.outcome_reused hSign') with
      ⟨l, saved', hl, hl', hSame', hAgain'⟩
    have hBoth :=
      (LastSignState.checkHRS_same hSame).2.symm.trans
        (LastSignState.checkHRS_same hSame').2
    rcases Signed.mk.inj (Option.some.inj hBoth) with
      ⟨rfl, rfl, hSignature⟩
    rw [hk', hl', hSigning.again_agree hAgain hAgain',
      hSignature]
  saved := by
    intro st a a' hForm hGenuine hSign
    rcases hSigning.reused st a a'
        (SignCall.outcome_reused hSign) with
      ⟨k, saved, hk, hk', hSame, hAgain⟩
    have hSigned := (LastSignState.checkHRS_same hSame).2
    rw [hSigned, hk', Option.map_some,
      hSaved st k saved _ a a' hGenuine hSigned hk hAgain]

end Signing

section Published

variable {pv : FilePV}
variable (pubKey : Bytes)
variable (files : FilePV.Files)

theorem trySign_ok
    (hEncodes : pv.Encodes)
    {message sig : Bytes}
    (hSign : pv.trySign message = .ok sig) :
    sig ≠ [] := by
  rcases hEncodes.signs message with ⟨sig', hKey, hNonempty⟩
  rw [trySign, hKey] at hSign
  cases hSign
  exact hNonempty

theorem trySign_eq
    (hEncodes : pv.Encodes)
    (message : Bytes) :
    ∃ sig, pv.trySign message = .ok sig := by
  rcases hEncodes.signs message with ⟨sig, hKey, -⟩
  exact ⟨sig, by rw [trySign, hKey]; rfl⟩

/- The cases in which a vote is signed, anew or again. -/
theorem signVote_returned
    {chainID : Bytes}
    {st : LastSignState}
    {v v' : Vote}
    {saved : Option LastSignState}
    (hSign :
      pv.signVote chainID st v = .returned v' none saved) :
    ∃ step extSig,
      voteToStep v.type = some step ∧
        (st.checkHRS ⟨v.height, v.round, step⟩ = .above ∧
            pv.signVoteAbove chainID v step extSig =
              .returned v' none saved ∨
          ∃ signBytes signature,
            st.checkHRS ⟨v.height, v.round, step⟩ =
                .same signBytes signature ∧
              pv.signVoteAgain chainID v signBytes signature
                  extSig =
                .returned v' none saved) := by
  unfold signVote at hSign
  split at hSign
  · cases hSign
  · rename_i step hStep
    split at hSign
    · cases hSign
    · cases hSign
    · rename_i signBytes signature hSame
      split at hSign
      · cases hSign
      · rename_i extSig hExt
        exact ⟨step, extSig, hStep,
          Or.inr ⟨signBytes, signature, hSame, hSign⟩⟩
    · rename_i hAbove
      split at hSign
      · cases hSign
      · rename_i extSig hExt
        exact ⟨step, extSig, hStep, Or.inl ⟨hAbove, hSign⟩⟩

theorem signVoteAgain_reused
    (hEncodes : pv.Encodes)
    {chainID signBytes signature extSig : Bytes}
    {v v' : Vote}
    {saved : Option LastSignState}
    (hSign :
      pv.signVoteAgain chainID v signBytes signature
          extSig =
        .returned v' none saved) :
    saved = none ∧ v'.signature = signature ∧
      (∃ t, v' =
        { v with
          timestamp := t
          signature := signature
          extensionSignature := extSig }) ∧
      Again (pv.voteSignBytes chainID)
        (fun v t => { v with timestamp := t })
        pv.checkVotesOnlyDifferByTimestamp signBytes v v' := by
  unfold signVoteAgain at hSign
  simp only at hSign
  split at hSign
  · rename_i hSame
    cases hSign
    refine ⟨rfl, rfl, ⟨v.timestamp, rfl⟩, .same hSame ?_⟩
    rw [← hSame]
    exact hEncodes.vote_signed chainID v signature extSig
  · split at hSign
    · cases hSign
    · rename_i t hCheck
      cases hSign
      refine ⟨rfl, rfl, ⟨t, rfl⟩, .upToTime hCheck ?_⟩
      exact hEncodes.vote_signed chainID
        { v with timestamp := t } signature extSig
    · cases hSign

theorem signVoteAbove_fresh
    (hEncodes : pv.Encodes)
    {chainID extSig : Bytes}
    {v v' : Vote}
    {step : Int}
    {saved : Option LastSignState}
    (hSign :
      pv.signVoteAbove chainID v step extSig =
        .returned v' none saved) :
    ∃ sig, sig ≠ [] ∧
      v' =
        { v with
          signature := sig
          extensionSignature := extSig } ∧
      saved = some (Signed.state
        ⟨⟨v.height, v.round, step⟩,
          pv.voteSignBytes chainID v', sig⟩) := by
  unfold signVoteAbove at hSign
  simp only at hSign
  split at hSign
  · cases hSign
  · rename_i sig hKey
    cases hSign
    refine ⟨sig, trySign_ok hEncodes hKey, rfl, ?_⟩
    rw [hEncodes.vote_signed chainID v sig extSig]
    rfl

/- Votes are signed in that way. -/
theorem vote_signing
    (hEncodes : pv.Encodes)
    (chainID : Bytes) :
    Signing (pv.signVote chainID)
      (Vote.hrs (pv.library pubKey files))
      (pv.voteSignBytes chainID) Vote.signature
      (fun v t => { v with timestamp := t })
      pv.checkVotesOnlyDifferByTimestamp
      (Vote.WellFormed (pv.library pubKey files)) where
  fresh := by
    intro st v v' st' hSign
    rcases signVote_returned hSign with
      ⟨step, extSig, hStep, ⟨hAbove, hFresh⟩ |
        ⟨signBytes, signature, hSame, hAgain⟩⟩
    · rcases signVoteAbove_fresh hEncodes hFresh with
        ⟨sig, hNonempty, rfl, hSaved⟩
      cases hSaved
      have hPlace :
          Vote.hrs (pv.library pubKey files) v =
            some ⟨v.height, v.round, step⟩ :=
        congrArg (Option.map _) hStep
      exact ⟨id, _, hPlace, hPlace, hAbove, hNonempty, rfl⟩
    · cases (signVoteAgain_reused hEncodes hAgain).1
  reused := by
    intro st v v' hSign
    rcases signVote_returned hSign with
      ⟨step, extSig, hStep, ⟨hAbove, hFresh⟩ |
        ⟨signBytes, signature, hSame, hReused⟩⟩
    · rcases signVoteAbove_fresh hEncodes hFresh with
        ⟨sig, -, -, hSaved⟩
      cases hSaved
    · rcases signVoteAgain_reused hEncodes hReused with
        ⟨-, hSignature, ⟨t, hFilled⟩, hAgain⟩
      have hPlace :
          Vote.hrs (pv.library pubKey files) v =
            some ⟨v.height, v.round, step⟩ :=
        congrArg (Option.map _) hStep
      refine ⟨_, signBytes, hPlace, ?_, ?_, hAgain⟩
      · rw [hFilled]
        exact hPlace
      · rw [hSignature]
        exact hSame
  nonempty := hEncodes.vote_nonempty chainID
  agree := fun saved v w t u =>
    hEncodes.vote_agree saved chainID v w t u
  given := fun v w t =>
    hEncodes.vote_saved chainID chainID v w t

theorem signProposal_returned
    {chainID : Bytes}
    {st : LastSignState}
    {p p' : Proposal}
    {saved : Option LastSignState}
    (hSign :
      pv.signProposal chainID st p =
        .returned p' none saved) :
    st.checkHRS ⟨p.height, p.round, stepPropose⟩ = .above ∧
        pv.signProposalAbove chainID p =
          .returned p' none saved ∨
      ∃ signBytes signature,
        st.checkHRS ⟨p.height, p.round, stepPropose⟩ =
            .same signBytes signature ∧
          pv.signProposalAgain chainID p signBytes
              signature =
            .returned p' none saved := by
  unfold signProposal at hSign
  split at hSign
  · cases hSign
  · cases hSign
  · rename_i signBytes signature hSame
    exact Or.inr ⟨signBytes, signature, hSame, hSign⟩
  · rename_i hAbove
    exact Or.inl ⟨hAbove, hSign⟩

theorem signProposalAgain_reused
    (hEncodes : pv.Encodes)
    {chainID signBytes signature : Bytes}
    {p p' : Proposal}
    {saved : Option LastSignState}
    (hSign :
      pv.signProposalAgain chainID p signBytes signature =
        .returned p' none saved) :
    saved = none ∧ p'.signature = signature ∧
      (∃ t, p' =
        { p with timestamp := t, signature := signature }) ∧
      Again (pv.proposalSignBytes chainID)
        (fun p t => { p with timestamp := t })
        pv.checkProposalsOnlyDifferByTimestamp signBytes p
        p' := by
  unfold signProposalAgain at hSign
  split at hSign
  · rename_i hSame
    cases hSign
    refine ⟨rfl, rfl, ⟨p.timestamp, rfl⟩, .same hSame ?_⟩
    rw [← hSame]
    exact hEncodes.proposal_signed chainID p signature
  · split at hSign
    · cases hSign
    · rename_i t hCheck
      cases hSign
      refine ⟨rfl, rfl, ⟨t, rfl⟩, .upToTime hCheck ?_⟩
      exact hEncodes.proposal_signed chainID
        { p with timestamp := t } signature
    · cases hSign

theorem signProposalAbove_fresh
    (hEncodes : pv.Encodes)
    {chainID : Bytes}
    {p p' : Proposal}
    {saved : Option LastSignState}
    (hSign :
      pv.signProposalAbove chainID p =
        .returned p' none saved) :
    ∃ sig, sig ≠ [] ∧ p' = { p with signature := sig } ∧
      saved = some (Signed.state
        ⟨⟨p.height, p.round, stepPropose⟩,
          pv.proposalSignBytes chainID p', sig⟩) := by
  unfold signProposalAbove at hSign
  simp only at hSign
  split at hSign
  · cases hSign
  · rename_i sig hKey
    cases hSign
    refine ⟨sig, trySign_ok hEncodes hKey, rfl, ?_⟩
    rw [hEncodes.proposal_signed chainID p sig]
    rfl

theorem proposal_signing
    (hEncodes : pv.Encodes)
    (chainID : Bytes) :
    Signing (pv.signProposal chainID)
      (Proposal.hrs (pv.library pubKey files))
      (pv.proposalSignBytes chainID) Proposal.signature
      (fun p t => { p with timestamp := t })
      pv.checkProposalsOnlyDifferByTimestamp
      (Proposal.WellFormed (pv.library pubKey files)) where
  fresh := by
    intro st p p' st' hSign
    rcases signProposal_returned hSign with
      ⟨hAbove, hFresh⟩ | ⟨signBytes, signature, -, hAgain⟩
    · rcases signProposalAbove_fresh hEncodes hFresh with
        ⟨sig, hNonempty, rfl, hSaved⟩
      cases hSaved
      exact ⟨id, _, rfl, rfl, hAbove, hNonempty, rfl⟩
    · cases (signProposalAgain_reused hEncodes hAgain).1
  reused := by
    intro st p p' hSign
    rcases signProposal_returned hSign with
      ⟨-, hFresh⟩ | ⟨signBytes, signature, hSame, hReused⟩
    · rcases signProposalAbove_fresh hEncodes hFresh with
        ⟨sig, -, -, hSaved⟩
      cases hSaved
    · rcases signProposalAgain_reused hEncodes hReused with
        ⟨-, hSignature, ⟨t, hFilled⟩, hAgain⟩
      refine ⟨_, signBytes, rfl, ?_, ?_, hAgain⟩
      · rw [hFilled]
        rfl
      · rw [hSignature]
        exact hSame
  nonempty := hEncodes.proposal_nonempty chainID
  agree := fun saved p q t u =>
    hEncodes.proposal_agree saved chainID p q t u
  given := fun p q t =>
    hEncodes.proposal_saved chainID chainID p q t

/- Genuine sign-bytes at a vote's place are a vote's. -/
theorem genuine_vote
    {x : Signed}
    (hGenuine : x.state.Genuine (pv.library pubKey files))
    {v : Vote}
    (hk : v.hrs (pv.library pubKey files) = some x.hrs) :
    ∃ chainID w,
      pv.voteSignBytes chainID w = x.signBytes := by
  rcases hGenuine x.signBytes rfl with
    ⟨chainID, w, -, -, hBytes⟩ | ⟨chainID, p, -, hp, -⟩
  · exact ⟨chainID, w, hBytes⟩
  · exact ((pv.library_voteSteps pubKey files).apart hk
      hp).elim

theorem genuine_proposal
    {x : Signed}
    (hGenuine : x.state.Genuine (pv.library pubKey files))
    {p : Proposal}
    (hk : p.hrs (pv.library pubKey files) = some x.hrs) :
    ∃ chainID q,
      pv.proposalSignBytes chainID q = x.signBytes := by
  rcases hGenuine x.signBytes rfl with
    ⟨chainID, v, -, hv, -⟩ | ⟨chainID, q, -, -, hBytes⟩
  · exact ((pv.library_voteSteps pubKey files).apart hv
      hk).elim
  · exact ⟨chainID, q, hBytes⟩

theorem library_signsOnce
    (hEncodes : pv.Encodes) :
    (pv.library pubKey files).SignsOnce where
  votes := by
    intro chainID
    refine (vote_signing pubKey files hEncodes
      chainID).signsOnce pv.errorText ?_
    intro st k saved sig v v' hGenuine hSigned hk hAgain
    have hState := LastSignState.eq_state hSigned
    subst hState
    rcases genuine_vote pubKey files hGenuine hk with
      ⟨chainID', w, rfl⟩
    cases hAgain with
    | same hSame hBytes => exact hBytes
    | upToTime hCheck hBytes =>
        rw [hBytes]
        exact hEncodes.vote_saved chainID chainID' v w _
          hCheck
  proposals := by
    intro chainID
    refine (proposal_signing pubKey files hEncodes
      chainID).signsOnce pv.errorText ?_
    intro st k saved sig p p' hGenuine hSigned hk hAgain
    have hState := LastSignState.eq_state hSigned
    subst hState
    rcases genuine_proposal pubKey files hGenuine hk with
      ⟨chainID', q, rfl⟩
    cases hAgain with
    | same hSame hBytes => exact hBytes
    | upToTime hCheck hBytes =>
        rw [hBytes]
        exact hEncodes.proposal_saved chainID chainID' p q _
          hCheck

/- What it has signed can be decoded, so it never panics. -/
theorem signVoteAgain_ne_panic
    (hEncodes : pv.Encodes)
    (chainID chainID' : Bytes)
    (v w : Vote)
    (signature extSig : Bytes) :
    pv.signVoteAgain chainID v
        (pv.voteSignBytes chainID' w) signature extSig ≠
      .panic := by
  intro hCall
  unfold signVoteAgain at hCall
  simp only at hCall
  split at hCall
  · cases hCall
  · split at hCall
    · rename_i hDecode
      exact hEncodes.vote_decodes chainID chainID' v w
        hDecode
    · cases hCall
    · cases hCall

theorem signVoteAbove_ne_panic
    (chainID : Bytes)
    (v : Vote)
    (step : Int)
    (extSig : Bytes) :
    pv.signVoteAbove chainID v step extSig ≠ .panic := by
  intro hCall
  unfold signVoteAbove at hCall
  simp only at hCall
  split at hCall
  · cases hCall
  · cases hCall

theorem signProposalAgain_ne_panic
    (hEncodes : pv.Encodes)
    (chainID chainID' : Bytes)
    (p q : Proposal)
    (signature : Bytes) :
    pv.signProposalAgain chainID p
        (pv.proposalSignBytes chainID' q) signature ≠
      .panic := by
  intro hCall
  unfold signProposalAgain at hCall
  split at hCall
  · cases hCall
  · split at hCall
    · rename_i hDecode
      exact hEncodes.proposal_decodes chainID chainID' p q
        hDecode
    · cases hCall
    · cases hCall

theorem signProposalAbove_ne_panic
    (chainID : Bytes)
    (p : Proposal) :
    pv.signProposalAbove chainID p ≠ .panic := by
  intro hCall
  unfold signProposalAbove at hCall
  simp only at hCall
  split at hCall
  · cases hCall
  · cases hCall

theorem library_neverPanics
    (hEncodes : pv.Encodes) :
    (pv.library pubKey files).NeverPanics where
  votes := by
    intro chainID st v k hForm hk hSane hPanic
    rcases Option.map_eq_some_iff.mp hk with
      ⟨step, hStep, hPlace⟩
    subst hPlace
    have hCall := SignCall.outcome_panic hPanic
    unfold signVote at hCall
    change voteToStep v.type = some step at hStep
    rw [hStep] at hCall
    simp only at hCall
    split at hCall
    · rename_i hCheck
      exact LastSignState.checkHRS_ne_panic hSane _ hCheck
    · cases hCall
    · rename_i signBytes signature hSame
      split at hCall
      · cases hCall
      · have hState := LastSignState.eq_state
          (LastSignState.checkHRS_same hSame).2
        subst hState
        rcases genuine_vote pubKey files hSane.genuine
            hk with
          ⟨chainID', w, rfl⟩
        exact signVoteAgain_ne_panic hEncodes chainID
          chainID' v w _ _ hCall
    · split at hCall
      · cases hCall
      · exact signVoteAbove_ne_panic chainID v _ _ hCall
  proposals := by
    intro chainID st p hForm hSane hPanic
    have hCall := SignCall.outcome_panic hPanic
    unfold signProposal at hCall
    split at hCall
    · rename_i hCheck
      exact LastSignState.checkHRS_ne_panic hSane _ hCheck
    · cases hCall
    · rename_i signBytes signature hSame
      have hState := LastSignState.eq_state
        (LastSignState.checkHRS_same hSame).2
      subst hState
      rcases genuine_proposal pubKey files hSane.genuine
          (p := p) rfl with
        ⟨chainID', q, rfl⟩
      exact signProposalAgain_ne_panic hEncodes chainID
        chainID' p q _ hCall
    · exact signProposalAbove_ne_panic chainID p hCall

/- An acceptable extension is signed, or there is none. -/
theorem extensionSignature_ok
    (hEncodes : pv.Encodes)
    (chainID : Bytes)
    {v : Vote}
    (hReady : v.Ready (pv.library pubKey files)) :
    ∃ extSig,
      pv.extensionSignature chainID v = .ok extSig := by
  unfold extensionSignature
  split
  · exact trySign_eq hEncodes _
  · rename_i hBare
    rcases hReady with hNone | ⟨hType, bid, hBid, hBlock⟩
    · rw [if_neg (not_not_intro hNone)]
      exact ⟨[], rfl⟩
    · have hSame :=
        (pv.library_implements pubKey files).blockIDs _ _
          hBid
      subst hSame
      refine absurd ⟨hType, ?_⟩ hBare
      intro hZero
      rw [hZero] at hBlock
      cases hBlock

theorem library_signsAbove
    (hEncodes : pv.Encodes) :
    (pv.library pubKey files).SignsAbove where
  votes := by
    intro chainID st v k hForm hReady hk hLt
    rcases Option.map_eq_some_iff.mp hk with
      ⟨step, hStep, hPlace⟩
    subst hPlace
    have hAbove := LastSignState.checkHRS_above_iff.mpr hLt
    rcases extensionSignature_ok pubKey files hEncodes
        chainID hReady with
      ⟨extSig, hExt⟩
    rcases trySign_eq hEncodes
        (pv.voteSignBytes chainID v) with
      ⟨sig, hSig⟩
    change voteToStep v.type = some step at hStep
    simp only [library, signVote, hStep, hAbove, hExt,
      signVoteAbove, hSig]
    exact ⟨_, _, rfl⟩
  proposals := by
    intro chainID st p k hForm hk hLt
    cases hk
    have hAbove := LastSignState.checkHRS_above_iff.mpr hLt
    rcases trySign_eq hEncodes
        (pv.proposalSignBytes chainID p) with
      ⟨sig, hSig⟩
    change st.checkHRS ⟨p.height, p.round, stepPropose⟩ =
      .above at hAbove
    simp only [library, signProposal, hAbove,
      signProposalAbove, hSig]
    exact ⟨_, _, rfl⟩

end Published

end FilePV

end Consensus

end BridgeSigner
