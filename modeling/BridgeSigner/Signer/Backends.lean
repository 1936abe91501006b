import BridgeSigner.Signer.SigUtils

/-
  The signing backends (signer/signer.go,
  signer/file_signer.go, signer/fortanix_dsm.go).

  `SignRaw` signs a digest and returns R and S; `Sign` hashes
  its message first and returns R, S and the recovery id that
  Ethereum expects. The file backend signs with a key in
  memory, through a library call that is a parameter; the DSM
  backend converts what the DSM answers.

  Key definitions include:
    * `FileSigner.sign`
    * `FileSigner.signRaw`
    * `FortanixDSMSigner.sign`
    * `Backend`
    * `Backend.Trusted`
    * `Signs`

  Main results:
    * `Backend.signRaw_signs`
    * `Backend.sign_adds_recovery_id`
-/

------------------------------------------------------------
-- The File Backend
------------------------------------------------------------

namespace BridgeSigner

namespace Signer

/- `cryptoSign` is `crypto.Sign` with the private key. -/
structure FileSigner where
  cryptoSign : Bytes → Fallible Bytes
  compressedPubKey : Bytes

namespace FileSigner

variable (signer : FileSigner)

/- The library's signature of a digest. -/
def librarySign
    (digest : Bytes) : Except (Stop BackendError) Bytes :=
  (signer.cryptoSign digest).mapError
    (fun e => .error (.signing e))

/- The last byte is moved from 0 or 1 to 27 or 28. -/
def sign
    (sha256 : Bytes → Bytes)
    (msg : Bytes) : Except (Stop BackendError) Bytes := do
  ensure (msg.length = 32)
    (.error (.msgLength msg.length))
  let sig ← signer.librarySign (sha256 msg)
  match sig[64]? with
  | none => .error .panic
  | some v => .ok (sig.set 64 (v + 27))

def signRaw
    (msg : Bytes) : Except (Stop BackendError) Bytes := do
  ensure (msg.length = 32)
    (.error (.msgLength msg.length))
  let sig ← signer.librarySign msg
  if 64 ≤ sig.length then .ok (sig.take 64)
  else .error .panic

end FileSigner

end Signer

end BridgeSigner

------------------------------------------------------------
-- The DSM Backend
------------------------------------------------------------

namespace BridgeSigner

namespace Signer

/- `Sign`, given what the DSM answers for the hash. -/
def FortanixDSMSigner.sign
    (signer : FortanixDSMSigner)
    (sha256 : Bytes → Bytes)
    (resp : Fallible Bytes)
    (msg : Bytes) : Except (Stop BackendError) Bytes := do
  ensure (msg.length = 32)
    (.error (.msgLength msg.length))
  let der ←
    resp.mapError (fun e => .error (BackendError.call e))
  (derToEthSig signer.curve der (sha256 msg)
    signer.compressedPubKey).mapError
      (Stop.wrap BackendError.convert)

end Signer

end BridgeSigner

------------------------------------------------------------
-- Any Backend
------------------------------------------------------------

namespace BridgeSigner

namespace Signer

/- The implementations of the `Signer` interface. -/
inductive Backend where
| file (signer : FileSigner)
| fortanixdsm (signer : FortanixDSMSigner)

namespace Backend

/-
  The answer is what the DSM sends for this call; the file
  backend asks nobody.
-/
def sign
    (sha256 : Bytes → Bytes)
    (answer : Fallible Bytes)
    (msg : Bytes) :
    Backend → Except (Stop BackendError) Bytes
| .file signer => signer.sign sha256 msg
| .fortanixdsm signer => signer.sign sha256 answer msg

def signRaw
    (answer : Fallible Bytes)
    (msg : Bytes) :
    Backend → Except (Stop BackendError) Bytes
| .file signer => signer.signRaw msg
| .fortanixdsm signer => signer.signRaw answer msg

/- A copy of the key that was cached at the start. -/
def getPublicKey : Backend → Bytes
| .file signer => signer.compressedPubKey
| .fortanixdsm signer => signer.compressedPubKey

/-
  What is taken for granted: the library in memory signs with
  the cached key, and recovery gives points of the curve. It
  says nothing about the DSM.
-/
def Trusted
    (curve : Secp256k1) :
    Backend → Prop
| .file signer =>
    ∀ digest sig, signer.cryptoSign digest = .ok sig →
      ∃ rs v,
        sig = rs ++ [v] ∧ rs.length = 64 ∧
          (v = 0 ∨ v = 1) ∧
          curve.Recovers digest rs v signer.compressedPubKey
| .fortanixdsm signer =>
    signer.curve = curve ∧ curve.RecoversPoints

end Backend

/-
  R and S in 64 bytes, from which one of the two recovery ids
  gives the key for this digest.
-/
def Signs
    (curve : Secp256k1)
    (key digest rs : Bytes) : Prop :=
  rs.length = 64 ∧
    ∃ v : UInt8,
      (v = 0 ∨ v = 1) ∧ curve.Recovers digest rs v key

end Signer

end BridgeSigner

------------------------------------------------------------
-- What The Backends Return
------------------------------------------------------------

namespace BridgeSigner

namespace Signer

variable {curve : Secp256k1}
variable {sha256 : Bytes → Bytes}
variable {answer : Fallible Bytes}
variable {msg out : Bytes}

namespace FileSigner

variable {signer : FileSigner}

theorem sign_ok_iff :
    signer.sign sha256 msg = .ok out ↔
      msg.length = 32 ∧
        ∃ sig v,
          signer.cryptoSign (sha256 msg) = .ok sig ∧
            sig[64]? = some v ∧
            sig.set 64 (v + 27) = out := by
  unfold sign librarySign
  simp only [except_bind_ok_iff, ensure_ok_iff,
    mapError_ok_iff, exists_and_left, exists_const]
  refine and_congr_right (fun _ => exists_congr ?_)
  intro sig
  cases hLast : sig[64]? with
  | none => simp
  | some v => simp

theorem signRaw_ok_iff :
    signer.signRaw msg = .ok out ↔
      msg.length = 32 ∧
        ∃ sig,
          signer.cryptoSign msg = .ok sig ∧
            64 ≤ sig.length ∧ sig.take 64 = out := by
  unfold signRaw librarySign
  simp only [except_bind_ok_iff, ensure_ok_iff,
    mapError_ok_iff, exists_const]
  refine and_congr_right (fun _ => exists_congr ?_)
  intro sig
  by_cases hLength : 64 ≤ sig.length
  · simp [hLength]
  · simp [hLength]

end FileSigner

namespace FortanixDSMSigner

variable {signer : FortanixDSMSigner}

theorem sign_ok_iff :
    signer.sign sha256 answer msg = .ok out ↔
      msg.length = 32 ∧
        ∃ der,
          answer = .ok der ∧
            derToEthSig signer.curve der (sha256 msg)
              signer.compressedPubKey = .ok out := by
  unfold sign
  simp only [except_bind_ok_iff, ensure_ok_iff,
    mapError_ok_iff, exists_const]

theorem signRaw_ok_iff :
    signer.signRaw answer msg = .ok out ↔
      msg.length = 32 ∧
        ∃ der,
          answer = .ok der ∧
            ∃ sig,
              derToEthSig signer.curve der msg
                  signer.compressedPubKey = .ok sig ∧
                sig.take 64 = out := by
  unfold signRaw
  simp only [except_bind_ok_iff, ensure_ok_iff,
    mapError_ok_iff, exists_const, Except.ok.injEq]

end FortanixDSMSigner

/-
  A signature with its recovery id, of which both functions
  return their part.
-/
theorem Backend.signed_cases
    {backend : Backend}
    (sha256 : Bytes → Bytes)
    (hTrusted : backend.Trusted curve)
    (hRaw : backend.signRaw answer msg = .ok out) :
    msg.length = 32 ∧
      ∃ v : UInt8,
        out.length = 64 ∧ (v = 0 ∨ v = 1) ∧
          curve.Recovers msg out v backend.getPublicKey ∧
          ∀ text, text.length = 32 → sha256 text = msg →
            backend.sign sha256 answer text =
              .ok (out ++ [27 + v]) := by
  cases backend with
  | file signer =>
      rcases FileSigner.signRaw_ok_iff.mp hRaw with
        ⟨hMsg, sig, hSig, -, rfl⟩
      rcases hTrusted _ _ hSig with
        ⟨rs, v, rfl, hLength, hv, hKey⟩
      rw [List.take_left' hLength]
      refine ⟨hMsg, v, hLength, hv, hKey, ?_⟩
      rintro text hText rfl
      refine FileSigner.sign_ok_iff.mpr
        ⟨hText, _, v, hSig, ?_, ?_⟩
      · rw [← hLength, List.getElem?_concat_length]
      · rw [← hLength, List.set_append_right _ _ le_rfl]
        simp [UInt8.add_comm]
  | fortanixdsm signer =>
      rcases hTrusted with ⟨rfl, hPoints⟩
      rcases FortanixDSMSigner.signRaw_ok_iff.mp hRaw with
        ⟨hMsg, der, rfl, sig, hSig, rfl⟩
      rcases derToEthSig_ok hPoints hSig with
        ⟨rs, v, rfl, hLength, hv, hKey⟩
      rw [List.take_left' hLength]
      refine ⟨hMsg, v, hLength, hv, hKey, ?_⟩
      rintro text hText rfl
      exact FortanixDSMSigner.sign_ok_iff.mpr
        ⟨hText, der, rfl, hSig⟩

theorem Backend.signRaw_signs
    {backend : Backend}
    (hTrusted : backend.Trusted curve)
    (hRaw : backend.signRaw answer msg = .ok out) :
    Signs curve backend.getPublicKey msg out := by
  rcases signed_cases id hTrusted hRaw with
    ⟨-, v, hLength, hv, hKey, -⟩
  exact ⟨hLength, v, hv, hKey⟩

/- What `Sign` returns was also returned by `SignRaw`. -/
theorem Backend.signRaw_of_sign
    {backend : Backend}
    (hHash : (sha256 msg).length = 32)
    (hSign : backend.sign sha256 answer msg = .ok out) :
    msg.length = 32 ∧
      ∃ rs,
        backend.signRaw answer (sha256 msg) = .ok rs := by
  cases backend with
  | file signer =>
      rcases FileSigner.sign_ok_iff.mp hSign with
        ⟨hMsg, sig, v, hSig, hLast, -⟩
      have hLength : 64 ≤ sig.length :=
        (List.getElem?_eq_some_iff.mp hLast).1.le
      exact ⟨hMsg, _, FileSigner.signRaw_ok_iff.mpr
        ⟨hHash, sig, hSig, hLength, rfl⟩⟩
  | fortanixdsm signer =>
      rcases FortanixDSMSigner.sign_ok_iff.mp hSign with
        ⟨hMsg, der, hDer, hSig⟩
      exact ⟨hMsg, _,
        FortanixDSMSigner.signRaw_ok_iff.mpr
          ⟨hHash, der, hDer, _, hSig, rfl⟩⟩

/-
  With either backend, and whatever the DSM answers: `Sign`
  signs exactly the messages of 32 bytes whose hash `SignRaw`
  signs, and its signature is that of `SignRaw` with an id of
  27 or 28 that recovers the cached key.
-/
theorem Backend.sign_adds_recovery_id
    (backend : Backend)
    (curve : Secp256k1)
    (hTrusted : backend.Trusted curve)
    (sha256 : Bytes → Bytes)
    (hHash : ∀ b, (sha256 b).length = 32)
    (answer : Fallible Bytes)
    (msg : Bytes) :
    ((∃ sig, backend.sign sha256 answer msg = .ok sig) ↔
        msg.length = 32 ∧
          ∃ rs,
            backend.signRaw answer (sha256 msg) = .ok rs) ∧
      ∀ sig, backend.sign sha256 answer msg = .ok sig →
        ∃ rs v,
          backend.signRaw answer (sha256 msg) = .ok rs ∧
            sig = rs ++ [27 + v] ∧
            rs.length = 64 ∧ (v = 0 ∨ v = 1) ∧
            curve.Recovers (sha256 msg) rs v
              backend.getPublicKey := by
  have hBoth :
      ∀ sig, backend.sign sha256 answer msg = .ok sig →
        msg.length = 32 ∧
          ∃ rs,
            backend.signRaw answer (sha256 msg) =
              .ok rs := by
    intro sig hSign
    exact signRaw_of_sign (hHash msg) hSign
  refine ⟨⟨?_, ?_⟩, ?_⟩
  · rintro ⟨sig, hSign⟩
    exact hBoth sig hSign
  · rintro ⟨hMsg, rs, hRaw⟩
    rcases signed_cases sha256 hTrusted hRaw with
      ⟨-, v, -, -, -, hSign⟩
    exact ⟨_, hSign msg hMsg rfl⟩
  · intro sig hSign
    rcases hBoth sig hSign with ⟨hMsg, rs, hRaw⟩
    rcases signed_cases sha256 hTrusted hRaw with
      ⟨-, v, hLength, hv, hKey, hOther⟩
    have hSame := (hOther msg hMsg rfl).symm.trans hSign
    exact ⟨rs, v, hRaw, (Except.ok.inj hSame).symm, hLength,
      hv, hKey⟩

/- SHA-256, as far as the text asks it. -/
def sampleSha256
    (b : Bytes) : Bytes :=
  if b = hashedText then hashedMsg else List.replicate 32 0

theorem sampleSha256_length
    (b : Bytes) :
    (sampleSha256 b).length = 32 := by
  unfold sampleSha256
  split
  · rfl
  · simp

theorem sample_adds_recovery_id :
    (Backend.fortanixdsm sampleSigner).sign
        sampleSha256 (.ok hashedDER) hashedText =
      .ok (hashedRS ++ [27]) ∧
    ∃ rs v,
      (Backend.fortanixdsm sampleSigner).signRaw
          (.ok hashedDER) (sampleSha256 hashedText) =
          .ok rs ∧
        hashedRS ++ [27] = rs ++ [27 + v] ∧
        rs.length = 64 ∧ (v = 0 ∨ v = 1) ∧
        sampleCurve.Recovers (sampleSha256 hashedText) rs v
          sampleKey := by
  have hSign :
      (Backend.fortanixdsm sampleSigner).sign
          sampleSha256 (.ok hashedDER) hashedText =
        .ok (hashedRS ++ [27]) := by
    decide +kernel
  refine ⟨hSign, ?_⟩
  exact (Backend.sign_adds_recovery_id
    (.fortanixdsm sampleSigner) sampleCurve
    ⟨rfl, sampleCurve_recoversPoints⟩ sampleSha256
    sampleSha256_length (.ok hashedDER) hashedText).2
      _ hSign

end Signer

end BridgeSigner
