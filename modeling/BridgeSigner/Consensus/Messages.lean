import Mathlib.Data.Prod.Lex
import Mathlib.Order.Lattice
import BridgeSigner.Foundation.Gates

/-
  Privval messages and their validation
  (consensus/validate.go).

  The message types are those of the node's protocol. The
  node library's own functions on them are collected in
  `Comet` and stay parameters.

  Key definitions include:
    * `HRS`
    * `Message`
    * `LastSignState`
    * `Comet`
    * `validateRequestChainID`
    * `validateSignVoteRequest`
    * `validateSignProposalRequest`

  Main results:
    * `validateSignVoteRequest_ok_iff`
-/

------------------------------------------------------------
-- Heights, Rounds And Steps
------------------------------------------------------------

namespace BridgeSigner

namespace Consensus

/- A height, a round in it and a step of that round. -/
@[ext] structure HRS where
  height : Int
  round : Int
  step : Int
  deriving Repr

namespace HRS

def key
    (k : HRS) : Int ×ₗ Int ×ₗ Int :=
  toLex (k.height, toLex (k.round, k.step))

theorem key_injective :
    Function.Injective key := by
  rintro ⟨h, r, s⟩ ⟨h', r', s'⟩ hKey
  simpa [key] using hKey

/- Heights count first, then rounds, then steps. -/
instance : LinearOrder HRS :=
  LinearOrder.lift' key key_injective

theorem lt_iff
    {k l : HRS} :
    k < l ↔
      k.height < l.height ∨
        k.height = l.height ∧
          (k.round < l.round ∨
            k.round = l.round ∧ k.step < l.step) := by
  change key k < key l ↔ _
  simp [key, Prod.Lex.toLex_lt_toLex]

theorem height_le_of_le
    {k l : HRS}
    (hLe : k ≤ l) :
    k.height ≤ l.height := by
  rcases hLe.eq_or_lt with rfl | hLt
  · exact le_refl _
  · rcases lt_iff.mp hLt with hHeight | ⟨hHeight, -⟩
    · exact hHeight.le
    · exact hHeight.le

end HRS

end Consensus

end BridgeSigner

------------------------------------------------------------
-- Messages
------------------------------------------------------------

namespace BridgeSigner

namespace Consensus

/- What a signed message is; the wire allows any number. -/
inductive SignedMsgType where
| prevote
| precommit
| proposal
| other (n : Int)
  deriving DecidableEq, Repr

/- A time that decoding admits: the years 1 to 9999. -/
structure Timestamp where
  seconds : Int
  nanos : Int
  seconds_ge : -62135596800 ≤ seconds
  seconds_lt : seconds < 253402300800
  nanos_ge : 0 ≤ nanos
  nanos_lt : nanos < 1000000000
  deriving DecidableEq, Repr

structure PartSetHeader where
  total : Nat
  hash : Bytes
  deriving DecidableEq, Repr

structure BlockID where
  hash : Bytes
  partSetHeader : PartSetHeader
  deriving DecidableEq, Repr

structure Vote where
  type : SignedMsgType
  height : Int
  round : Int
  blockID : BlockID
  timestamp : Timestamp
  validatorAddress : Bytes
  validatorIndex : Int
  signature : Bytes
  extension : Bytes
  extensionSignature : Bytes
  deriving DecidableEq, Repr

structure Proposal where
  type : SignedMsgType
  height : Int
  round : Int
  polRound : Int
  blockID : BlockID
  timestamp : Timestamp
  signature : Bytes
  deriving DecidableEq, Repr

/- The zero values, which go with an error. -/
def Timestamp.zero : Timestamp :=
  ⟨-62135596800, 0, le_refl _, of_decide_eq_true rfl,
    le_refl _, of_decide_eq_true rfl⟩

def BlockID.zero : BlockID :=
  ⟨[], ⟨0, []⟩⟩

def Vote.zero : Vote :=
  ⟨.other 0, 0, 0, .zero, .zero, [], 0, [], [], []⟩

def Proposal.zero : Proposal :=
  ⟨.other 0, 0, 0, 0, .zero, .zero, []⟩

/- A value put into an error text. -/
inductive ErrArg where
| num (n : Int)
| text (b : Bytes)
| type (t : SignedMsgType)
| library (e : Bytes)
  deriving DecidableEq, Repr

/- An error: the format of the source and its values. -/
structure Err where
  format : String
  args : List ErrArg
  deriving DecidableEq, Repr

structure RemoteSignerError where
  code : Int
  description : Err
  deriving DecidableEq, Repr

/- A privval message; `empty` is one without content. -/
inductive Message where
| empty
| pubKeyRequest (chainId : Bytes)
| pubKeyResponse
    (pubKey : Bytes)
    (error : Option RemoteSignerError)
| signVoteRequest (vote : Option Vote) (chainId : Bytes)
| signedVoteResponse
    (vote : Vote)
    (error : Option RemoteSignerError)
| signProposalRequest
    (proposal : Option Proposal)
    (chainId : Bytes)
| signedProposalResponse
    (proposal : Proposal)
    (error : Option RemoteSignerError)
| pingRequest
| pingResponse
  deriving DecidableEq, Repr

end Consensus

end BridgeSigner

------------------------------------------------------------
-- The Node Library
------------------------------------------------------------

namespace BridgeSigner

namespace Consensus

/- `FilePV`'s last-sign state; `none` is a nil slice. -/
@[ext] structure LastSignState where
  height : Int
  round : Int
  step : Int
  signature : Option Bytes
  signBytes : Option Bytes
  deriving DecidableEq, Repr

/- What the state file's JSON is decoded into. -/
structure StateJSON where
  height : Int
  round : Int
  step : Int
  signature : Option Bytes
  signBytes : Option Bytes
  deriving DecidableEq, Repr

def LastSignState.hrs
    (st : LastSignState) : HRS :=
  ⟨st.height, st.round, st.step⟩

/-
  What a signing method of `FilePV` does: it makes a new
  signature and has a new state to save, returns the saved
  signature, refuses, or panics.
-/
inductive SignOutcome (α : Type) where
| fresh (signed : α) (st : LastSignState)
| reused (signed : α)
| refused (e : Bytes)
| panic

/- What a handler returns: a message, and an error to log. -/
abbrev Reply :=
  Message × Option Err

/-
  What a handler does once it is past its own checks: it
  answers, or calls the private validator and answers with
  what came of the call.
-/
inductive Plan where
| answer (reply : Reply)
| getPubKey (reply : Fallible Bytes → Reply)
| signVote (vote : Vote) (reply : Fallible Vote → Reply)
| signProposal
    (proposal : Proposal)
    (reply : Fallible Proposal → Reply)

/- The functions of the node library that are called. -/
structure Comet where
  isVoteTypeValid : SignedMsgType → Bool
  blockIDFromProto : BlockID → Fallible BlockID
  isZero : BlockID → Bool
  isComplete : BlockID → Bool
  maxVoteExtensionSize : Nat
  voteStep : SignedMsgType → Option Int
  proposalStep : Int
  voteSignBytes : Bytes → Vote → Bytes
  proposalSignBytes : Bytes → Proposal → Bytes
  pubKey : Fallible Bytes
  signVote :
    Bytes → LastSignState → Vote → SignOutcome Vote
  signProposal :
    Bytes → LastSignState → Proposal → SignOutcome Proposal
  defaultValidationRequestHandler : Message → Bytes → Plan
  unmarshalKey : Bytes → Fallible (Option Bytes)
  newState : LastSignState
  unmarshalState : Bytes → Fallible StateJSON
  marshalState : LastSignState → Bytes

end Consensus

end BridgeSigner

------------------------------------------------------------
-- Validation
------------------------------------------------------------

namespace BridgeSigner

namespace Consensus

def maxChainIDLen : Nat :=
  64

def validateRequestChainID
    (id : Bytes) : Except Err Unit := do
  ensure (id.length ≠ 0) ⟨"chain_id is empty", []⟩
  ensure (id.length ≤ maxChainIDLen)
    ⟨"chain_id exceeds maximum length", []⟩
  ensure (0 ∉ id) (⟨"chain_id contains NUL", []⟩ : Err)

/- The block id of a request, or the library's complaint. -/
def checkedBlockID
    (lib : Comet)
    (id : BlockID) : Except Err BlockID :=
  (lib.blockIDFromProto id).mapError
    (fun e => ⟨"block_id: %w", [.library e]⟩)

/- An empty expected address is not checked. -/
def validateAddress
    (address expectAddr : Bytes) : Except Err Unit := do
  ensure
    (expectAddr.length = 0 ∨
      address.length = expectAddr.length)
    ⟨"validator address length %d, expected %d",
      [.num address.length, .num expectAddr.length]⟩
  ensure (expectAddr.length = 0 ∨ address = expectAddr)
    (⟨"validator address does not match signer key", []⟩ :
      Err)

/- Extensions go with precommits for a block only. -/
def validateExtension
    (lib : Comet)
    (vote : Vote)
    (bid : BlockID) : Except Err Unit := do
  ensure (vote.extension.length ≤ lib.maxVoteExtensionSize)
    ⟨"vote extension exceeds max size %d",
      [.num lib.maxVoteExtensionSize]⟩
  let bare := vote.type ≠ .precommit ∨ lib.isZero bid = true
  ensure (bare → vote.extension = [])
    ⟨"vote extension only allowed on non-nil precommit", []⟩
  ensure (bare → vote.extensionSignature = [])
    (⟨"extension signature only allowed on non-nil precommit",
      []⟩ : Err)

def validateSignVoteRequest
    (lib : Comet)
    (vote : Option Vote)
    (expectAddr : Bytes) : Except Err Unit := do
  let some vote := vote | .error ⟨"nil vote", []⟩
  ensure (lib.isVoteTypeValid vote.type = true)
    ⟨"invalid vote type %d", [.type vote.type]⟩
  ensure (0 < vote.height)
    ⟨"vote height must be positive", []⟩
  ensure (0 ≤ vote.round) ⟨"negative vote round", []⟩
  ensure (0 ≤ vote.validatorIndex)
    ⟨"negative validator index", []⟩
  validateAddress vote.validatorAddress expectAddr
  let bid ← checkedBlockID lib vote.blockID
  ensure (lib.isZero bid = true ∨ lib.isComplete bid = true)
    ⟨"block_id must be nil or complete, got partial id", []⟩
  validateExtension lib vote bid

def validateSignProposalRequest
    (lib : Comet)
    (prop : Option Proposal) : Except Err Unit := do
  let some prop := prop | .error ⟨"nil proposal", []⟩
  ensure (prop.type = .proposal)
    ⟨"invalid proposal type %d", [.type prop.type]⟩
  ensure (0 ≤ prop.height) ⟨"negative proposal height", []⟩
  ensure (0 ≤ prop.round) ⟨"negative proposal round", []⟩
  ensure (-1 ≤ prop.polRound) ⟨"invalid POL round", []⟩
  let bid ← checkedBlockID lib prop.blockID
  ensure (lib.isComplete bid = true)
    (⟨"proposal requires complete block_id", []⟩ : Err)

/- A vote that may be signed for this address. -/
structure ValidVote
    (lib : Comet)
    (expectAddr : Bytes)
    (vote : Vote) : Prop where
  type_valid : lib.isVoteTypeValid vote.type = true
  height_pos : 0 < vote.height
  round_nonneg : 0 ≤ vote.round
  index_nonneg : 0 ≤ vote.validatorIndex
  address :
    expectAddr = [] ∨ vote.validatorAddress = expectAddr
  block :
    ∃ bid,
      lib.blockIDFromProto vote.blockID = .ok bid ∧
        (lib.isZero bid = true ∨
          lib.isComplete bid = true) ∧
        vote.extension.length ≤ lib.maxVoteExtensionSize ∧
        (vote.type ≠ .precommit ∨ lib.isZero bid = true →
          vote.extension = [] ∧
            vote.extensionSignature = [])

theorem validateAddress_ok_iff
    {address expectAddr : Bytes}
    {u : Unit} :
    validateAddress address expectAddr = .ok u ↔
      expectAddr = [] ∨ address = expectAddr := by
  simp only [validateAddress, except_bind_ok_iff,
    ensure_ok_iff, exists_const, List.length_eq_zero_iff]
  constructor
  · rintro ⟨-, hEq⟩
    exact hEq
  · intro hEq
    exact ⟨hEq.imp_right (congrArg List.length), hEq⟩

theorem validateExtension_ok_iff
    {lib : Comet}
    {vote : Vote}
    {bid : BlockID}
    {u : Unit} :
    validateExtension lib vote bid = .ok u ↔
      vote.extension.length ≤ lib.maxVoteExtensionSize ∧
        (vote.type ≠ .precommit ∨ lib.isZero bid = true →
          vote.extension = [] ∧
            vote.extensionSignature = []) := by
  simp only [validateExtension, except_bind_ok_iff,
    ensure_ok_iff, exists_const]
  constructor
  · rintro ⟨hSize, hExtension, hSignature⟩
    exact ⟨hSize, fun hBare =>
      ⟨hExtension hBare, hSignature hBare⟩⟩
  · rintro ⟨hSize, hBoth⟩
    exact ⟨hSize, fun hBare => (hBoth hBare).1,
      fun hBare => (hBoth hBare).2⟩

/- The votes that pass validation. -/
theorem validateSignVoteRequest_ok_iff
    {lib : Comet}
    {vote : Vote}
    {expectAddr : Bytes}
    {u : Unit} :
    validateSignVoteRequest lib (some vote) expectAddr =
        .ok u ↔
      ValidVote lib expectAddr vote := by
  simp only [validateSignVoteRequest, except_bind_ok_iff,
    ensure_ok_iff, exists_const, validateAddress_ok_iff,
    checkedBlockID, mapError_ok_iff,
    validateExtension_ok_iff]
  constructor
  · rintro ⟨hType, hHeight, hRound, hIndex, hAddress, bid,
      hBid, hShape, hExtension⟩
    exact ⟨hType, hHeight, hRound, hIndex, hAddress, bid,
      hBid, hShape, hExtension⟩
  · rintro ⟨hType, hHeight, hRound, hIndex, hAddress, bid,
      hBid, hShape, hExtension⟩
    exact ⟨hType, hHeight, hRound, hIndex, hAddress, bid,
      hBid, hShape, hExtension⟩

end Consensus

end BridgeSigner
