import BridgeSigner.Foundation.Gates
import BridgeSigner.Server.ReplayGuard

/-
  The status errors of the RPC handlers.

  A status carries its code, the format text of the source
  and the values put into it. The handlers are sequences of
  gates that return a status when they fail.

  Key definitions include:
    * `Status`
    * `SignRawResult`
    * `checkedSignature`
-/

------------------------------------------------------------
-- Statuses
------------------------------------------------------------

namespace BridgeSigner

namespace Server

/- The gRPC codes the server returns. -/
inductive Code where
| invalidArgument
| permissionDenied
| failedPrecondition
| unimplemented
| internal
  deriving DecidableEq, Repr

/-
  A value put into an error text. `external` is the error
  of a library or of the signing backend.
-/
inductive Arg where
| num (n : Nat)
| text (b : Bytes)
| guard (e : GuardError)
| external (e : Bytes)
  deriving DecidableEq, Repr

/- An error returned to the caller. -/
structure Status where
  code : Code
  format : String
  args : List Arg
  deriving DecidableEq, Repr

/- `status.Errorf` with the code `InvalidArgument`. -/
def invalidArgument
    (format : String)
    (args : List Arg) : Status :=
  ⟨.invalidArgument, format, args⟩

end Server

end BridgeSigner

------------------------------------------------------------
-- Results Of The Signing Backend
------------------------------------------------------------

namespace BridgeSigner

namespace Server

/- What a call of the backend's `SignRaw` comes to. -/
inductive SignRawResult where
| ok (sig : Bytes)
| error (e : Bytes)
| panic
  deriving DecidableEq, Repr

/- The status of a panic recovered by the interceptor. -/
def panicStatus : Status :=
  ⟨.internal, "internal server error", []⟩

/- The signature of a backend call. -/
def rawSignature
    (failed : String) :
    SignRawResult → Except Status Bytes
| .ok sig => .ok sig
| .error e => .error ⟨.internal, failed, [.external e]⟩
| .panic => .error panicStatus

/- The signature of a backend call, when it has 64 bytes. -/
def signature64
    (failed invalid : String)
    (result : SignRawResult) : Except Status Bytes := do
  let sig ← rawSignature failed result
  ensure (sig.length = 64)
    ⟨.internal, invalid, [.num sig.length]⟩
  .ok sig

/- The signature of a checkpoint or of an attestation. -/
def checkedSignature
    (result : SignRawResult) : Except Status Bytes :=
  signature64 "signing failed: %v"
    "invalid signature length %d, expected 64" result

theorem rawSignature_ok_iff
    {failed : String}
    {result : SignRawResult}
    {sig : Bytes} :
    rawSignature failed result = .ok sig ↔
      result = .ok sig := by
  cases result with
  | ok s => simp [rawSignature]
  | error e => simp [rawSignature]
  | panic => simp [rawSignature]

theorem signature64_ok_iff
    {failed invalid : String}
    {result : SignRawResult}
    {sig : Bytes} :
    signature64 failed invalid result = .ok sig ↔
      result = .ok sig ∧ sig.length = 64 := by
  simp only [signature64, except_bind_ok_iff,
    rawSignature_ok_iff, ensure_ok_iff, exists_const,
    Except.ok.injEq]
  constructor
  · rintro ⟨s, hResult, hLength, rfl⟩
    exact ⟨hResult, hLength⟩
  · rintro ⟨hResult, hLength⟩
    exact ⟨sig, hResult, hLength, rfl⟩

theorem checkedSignature_ok_iff
    {result : SignRawResult}
    {sig : Bytes} :
    checkedSignature result = .ok sig ↔
      result = .ok sig ∧ sig.length = 64 :=
  signature64_ok_iff

end Server

end BridgeSigner
