import BridgeSigner.Foundation.Der

/-
  Signatures of an HSM in the form that Ethereum expects
  (signer/sig_utils.go) and the raw signatures of the DSM
  backend (signer/fortanix_dsm.go).

  R and S are integers of any size and sign. S is moved into
  the lower half of the curve order, both are packed into 64
  bytes by right-aligned copies, and the recovery id is found
  by trying both. A copy that does not fit its slice panics.
  The recovery of public keys and the curve equation are
  parameters.

  Key definitions include:
    * `parseDERSignature`
    * `rsToEthSig`
    * `recoverV`
    * `derToEthSig`
    * `FortanixDSMSigner.signRaw`

  Main results:
    * `recoverV_eq`
    * `rsToEthSig_of_fits`
    * `conversion_canonical`
    * `der_fails_closed_iff`
-/

------------------------------------------------------------
-- The Curve
------------------------------------------------------------

namespace BridgeSigner

namespace Signer

/- The order of the curve. -/
def curveN : Nat :=
  0xfffffffffffffffffffffffffffffffebaaedce6af48a03bbfd25e8cd0364141

/- Half of the order, rounded down. -/
def secp256k1HalfN : Nat :=
  curveN / 2

/-
  The curve's library: the recovery of a public key from a
  message and 65 bytes, and the curve equation.
-/
structure Secp256k1 where
  ecrecover : Bytes → Bytes → Option Bytes
  isOnCurve : Nat → Nat → Bool

/- The coordinates of an uncompressed public key. -/
def pointX
    (recovered : Bytes) : Nat :=
  beNat ((recovered.drop 1).take 32)

def pointY
    (recovered : Bytes) : Nat :=
  beNat ((recovered.drop 33).take 32)

/- The compressed form of a point. -/
def compressedBytes
    (x y : Nat) : Bytes :=
  UInt8.ofNat (2 + y % 2) :: beBytes 32 x

end Signer

end BridgeSigner

------------------------------------------------------------
-- Conversion
------------------------------------------------------------

namespace BridgeSigner

namespace Signer

/- How a function stops short: by an error or by a panic. -/
inductive Stop (ε : Type) where
| error (e : ε)
| panic
  deriving DecidableEq, Repr

/- Why a signature was not converted. -/
inductive SigError where
| unmarshal (e : Der.Error)
| nilValue
| recovery
  deriving DecidableEq, Repr

/- R and S as decoded; `none` is a nil pointer. -/
structure EcdsaDERSig where
  R : Option Int
  S : Option Int
  deriving DecidableEq, Repr

/- A SEQUENCE that begins with two INTEGERs. -/
def unmarshal
    (der : Bytes) : Except Der.Error EcdsaDERSig := do
  let (fields, _) ← Der.readElement 0x30 der
  let (r, fields) ← Der.readInteger fields
  let (s, _) ← Der.readInteger fields
  .ok ⟨some r, some s⟩

def parseDERSignature
    (der : Bytes) : Except (Stop SigError) (Int × Int) :=
  match unmarshal der with
  | .error e => .error (.error (.unmarshal e))
  | .ok ⟨some r, some s⟩ => .ok (r, s)
  | .ok _ => .error (.error .nilValue)

/- `big.Int.Bytes`: the sign is lost. -/
def bigBytes
    (z : Int) : Bytes :=
  minBytes z.natAbs

/- Copy `b` into `buf` so that it ends before `stop`. -/
def copyBefore
    (stop : Nat)
    (buf b : Bytes) : Except (Stop SigError) Bytes :=
  if b.length ≤ stop then
    .ok (buf.take (stop - b.length) ++ (b ++ buf.drop stop))
  else
    .error .panic

/- `elliptic.MarshalCompressed` on this curve. -/
def marshalCompressed
    (curve : Secp256k1)
    (x y : Nat) : Except (Stop SigError) Bytes :=
  if (x ≠ 0 ∨ y ≠ 0) ∧ curve.isOnCurve x y = false then
    .error .panic
  else
    .ok (compressedBytes x y)

/- Try the recovery ids one after the other. -/
def tryRecoveryIds
    (curve : Secp256k1)
    (msg rsSig compressedPubKey : Bytes) :
    List UInt8 → Except (Stop SigError) UInt8
| [] => .error (.error .recovery)
| v :: vs =>
    match
      curve.ecrecover msg (padRight 64 rsSig ++ [v])
    with
    | none =>
        tryRecoveryIds curve msg rsSig compressedPubKey vs
    | some recovered =>
        if recovered.length = 65 then do
          let compressed ←
            marshalCompressed curve (pointX recovered)
              (pointY recovered)
          if compressed = compressedPubKey then
            .ok v
          else
            tryRecoveryIds curve msg rsSig compressedPubKey
              vs
        else
          tryRecoveryIds curve msg rsSig compressedPubKey vs

def recoverV
    (curve : Secp256k1)
    (msg rsSig compressedPubKey : Bytes) :
    Except (Stop SigError) UInt8 :=
  tryRecoveryIds curve msg rsSig compressedPubKey [0, 1]

/- The twin of S in the lower half of the order. -/
def lowS
    (s : Int) : Int :=
  if (secp256k1HalfN : Int) < s then curveN - s else s

def rsToEthSig
    (curve : Secp256k1)
    (r s : Int)
    (msg compressedPubKey : Bytes) :
    Except (Stop SigError) Bytes := do
  let sig ← copyBefore 32 (zeros 65) (bigBytes r)
  let sig ← copyBefore 64 sig (bigBytes (lowS s))
  let v ←
    recoverV curve msg (sig.take 64) compressedPubKey
  .ok (sig.take 64 ++ [v + 27])

def derToEthSig
    (curve : Secp256k1)
    (der msg compressedPubKey : Bytes) :
    Except (Stop SigError) Bytes := do
  let (r, s) ← parseDERSignature der
  rsToEthSig curve r s msg compressedPubKey

end Signer

end BridgeSigner

------------------------------------------------------------
-- The DSM Backend
------------------------------------------------------------

namespace BridgeSigner

namespace Signer

/- The backend: the key is cached when it is set up. -/
structure FortanixDSMSigner where
  curve : Secp256k1
  compressedPubKey : Bytes

/- Why a backend did not sign; this one never `signing`. -/
inductive BackendError where
| msgLength (got : Nat)
| signing (e : Bytes)
| call (e : Bytes)
| convert (e : SigError)
  deriving DecidableEq, Repr

/- A panic is passed on, an error is wrapped. -/
def Stop.wrap
    {ε ε' : Type}
    (f : ε → ε') :
    Stop ε → Stop ε'
| .error e => .error (f e)
| .panic => .panic

/- `SignRaw`, given what the DSM answers. -/
def FortanixDSMSigner.signRaw
    (signer : FortanixDSMSigner)
    (resp : Fallible Bytes)
    (msg : Bytes) :
    Except (Stop BackendError) Bytes := do
  ensure (msg.length = 32)
    (.error (.msgLength msg.length))
  let der ←
    resp.mapError (fun e => .error (BackendError.call e))
  let sig ←
    (derToEthSig signer.curve der msg
      signer.compressedPubKey).mapError
        (Stop.wrap BackendError.convert)
  .ok (sig.take 64)

end Signer

end BridgeSigner

------------------------------------------------------------
-- Packing
------------------------------------------------------------

namespace BridgeSigner

namespace Signer

/-
  The 64 bytes of R and S. An S of more than 32 bytes runs
  over the end of R.
-/
def packed
    (r s : Nat) : Bytes :=
  (beBytes 32 r ++ zeros 32).take (64 - byteLength s) ++
    minBytes s

theorem length_packed
    (r : Nat)
    {s : Nat}
    (hs : s < 256 ^ 64) :
    (packed r s).length = 64 := by
  have hLength := (byteLength_le_iff s 64).mpr hs
  simp only [packed, List.length_append, List.length_take,
    length_beBytes, length_zeros, length_minBytes]
  omega

theorem packed_of_fits
    (r : Nat)
    {s : Nat}
    (hs : s < 256 ^ 32) :
    packed r s = beBytes 32 r ++ beBytes 32 s := by
  have hLength := (byteLength_le_iff s 32).mpr hs
  have hTake :
      (beBytes 32 r ++ zeros 32).take (64 - byteLength s) =
        beBytes 32 r ++ zeros (32 - byteLength s) := by
    rw [List.take_append, length_beBytes,
      List.take_of_length_le (by simp; omega)]
    simp only [zeros, List.take_replicate]
    congr 2
    omega
  rw [packed, hTake, List.append_assoc,
    zeros_append_minBytes hs]

/- The bytes of S are its low 32 bytes in either case. -/
theorem packed_drop
    (r : Nat)
    {s : Nat}
    (hs : s < 256 ^ 64) :
    (packed r s).drop 32 = beBytes 32 s := by
  by_cases hFits : s < 256 ^ 32
  · rw [packed_of_fits r hFits]
    simp
  · have hLength := (byteLength_le_iff s 64).mpr hs
    have hLong : 32 < byteLength s := by
      by_contra hShort
      exact hFits
        ((byteLength_le_iff s 32).mp (not_lt.mp hShort))
    have hTake :
        ((beBytes 32 r ++ zeros 32).take
          (64 - byteLength s)).length =
          64 - byteLength s := by
      simp
    have hSplit := beBytes_add (byteLength s - 32) 32 s
    rw [Nat.sub_add_cancel hLong.le] at hSplit
    rw [packed, List.drop_append, hTake,
      List.drop_of_length_le (by omega), List.nil_append,
      minBytes, hSplit]
    apply List.drop_left'
    rw [length_beBytes]
    omega

theorem copyBefore_fits
    {stop : Nat}
    {buf b : Bytes}
    (hFits : b.length ≤ stop) :
    copyBefore stop buf b =
      .ok (buf.take (stop - b.length) ++
        (b ++ buf.drop stop)) :=
  if_pos hFits

/- R goes right-aligned into the first 32 bytes. -/
theorem copy_r
    {r : Int}
    (hr : r.natAbs < 256 ^ 32) :
    copyBefore 32 (zeros 65) (bigBytes r) =
      .ok (beBytes 32 r.natAbs ++ zeros 33) := by
  have hLength := (byteLength_le_iff r.natAbs 32).mpr hr
  rw [bigBytes, copyBefore_fits (by simpa using hLength),
    ← zeros_append_minBytes hr, List.append_assoc,
    length_minBytes]
  congr 2
  simp only [zeros, List.take_replicate]
  congr 1
  omega

/- S goes right-aligned before the recovery id. -/
theorem copy_s
    (r : Nat)
    {s : Int}
    (hs : s.natAbs < 256 ^ 64) :
    copyBefore 64 (beBytes 32 r ++ zeros 33) (bigBytes s) =
      .ok (packed r s.natAbs ++ [0]) := by
  have hLength := (byteLength_le_iff s.natAbs 64).mpr hs
  have hZeros :
      beBytes 32 r ++ zeros 33 =
        (beBytes 32 r ++ zeros 32) ++ [0] := by
    rw [List.append_assoc]
    rfl
  rw [bigBytes, copyBefore_fits (by simpa using hLength),
    length_minBytes, hZeros,
    List.take_append_of_le_length (by simp),
    List.drop_left' (by simp), packed, List.append_assoc]

end Signer

end BridgeSigner

------------------------------------------------------------
-- Recovery
------------------------------------------------------------

namespace BridgeSigner

namespace Signer

namespace Secp256k1

variable (curve : Secp256k1)

/- Recovery with this id gives the key. -/
def Recovers
    (msg rs : Bytes)
    (v : UInt8)
    (key : Bytes) : Prop :=
  ∃ recovered,
    curve.ecrecover msg (rs ++ [v]) = some recovered ∧
      recovered.length = 65 ∧
      compressedBytes (pointX recovered) (pointY recovered) =
        key

instance
    (msg rs : Bytes)
    (v : UInt8)
    (key : Bytes) :
    Decidable (curve.Recovers msg rs v key) :=
  match h : curve.ecrecover msg (rs ++ [v]) with
  | none => .isFalse (by simp [Recovers, h])
  | some recovered =>
      decidable_of_iff
        (recovered.length = 65 ∧
          compressedBytes (pointX recovered)
            (pointY recovered) = key)
        (by simp [Recovers, h])

/- A recovered key is a point of the curve. -/
def RecoversPoints : Prop :=
  ∀ msg sig recovered,
    curve.ecrecover msg sig = some recovered →
      recovered.length = 65 →
        curve.isOnCurve (pointX recovered)
          (pointY recovered) = true

/- R and S out of range are rejected. -/
def RejectsOutOfRange : Prop :=
  ∀ msg rs v recovered,
    rs.length = 64 →
      curve.ecrecover msg (rs ++ [v]) = some recovered →
        (1 ≤ beNat (rs.take 32) ∧
            beNat (rs.take 32) < curveN) ∧
          1 ≤ beNat (rs.drop 32) ∧
            beNat (rs.drop 32) < curveN

variable {curve}

theorem marshalCompressed_recovered
    (hPoints : curve.RecoversPoints)
    {msg sig recovered : Bytes}
    (hRecovered :
      curve.ecrecover msg sig = some recovered)
    (hLength : recovered.length = 65) :
    marshalCompressed curve (pointX recovered)
        (pointY recovered) =
      .ok (compressedBytes (pointX recovered)
        (pointY recovered)) := by
  have hOn := hPoints msg sig recovered hRecovered hLength
  simp [marshalCompressed, hOn]

/- One try either finds the key or goes on. -/
theorem tryRecoveryIds_cons
    (hPoints : curve.RecoversPoints)
    {rs : Bytes}
    (hrs : rs.length = 64)
    (msg key : Bytes)
    (v : UInt8)
    (vs : List UInt8) :
    tryRecoveryIds curve msg rs key (v :: vs) =
      if curve.Recovers msg rs v key then .ok v
      else tryRecoveryIds curve msg rs key vs := by
  rw [tryRecoveryIds, padRight_of_length hrs]
  cases hEc : curve.ecrecover msg (rs ++ [v]) with
  | none =>
      rw [if_neg]
      simp [Recovers, hEc]
  | some recovered =>
      by_cases hLength : recovered.length = 65
      · simp only [hLength, if_true,
          marshalCompressed_recovered hPoints hEc hLength,
          ok_bind]
        simp [Recovers, hEc, hLength]
      · simp [Recovers, hEc, hLength]

end Secp256k1

/- The smallest recovery id that gives the key. -/
theorem recoverV_eq
    {curve : Secp256k1}
    (hPoints : curve.RecoversPoints)
    {rs : Bytes}
    (hrs : rs.length = 64)
    (msg key : Bytes) :
    recoverV curve msg rs key =
      if curve.Recovers msg rs 0 key then .ok 0
      else if curve.Recovers msg rs 1 key then .ok 1
      else .error (.error .recovery) := by
  rw [recoverV,
    Secp256k1.tryRecoveryIds_cons hPoints hrs,
    Secp256k1.tryRecoveryIds_cons hPoints hrs,
    tryRecoveryIds]

/- The bytes `rs` with the smallest recovery id. -/
def ethSig
    (curve : Secp256k1)
    (msg key rs : Bytes) : Except (Stop SigError) Bytes :=
  if curve.Recovers msg rs 0 key then .ok (rs ++ [27])
  else if curve.Recovers msg rs 1 key then .ok (rs ++ [28])
  else .error (.error .recovery)

/- Values that fit are packed, and the id is searched for. -/
theorem rsToEthSig_of_fits
    {curve : Secp256k1}
    (hPoints : curve.RecoversPoints)
    {r s : Int}
    (hr : r.natAbs < 256 ^ 32)
    (hs : (lowS s).natAbs < 256 ^ 64)
    (msg key : Bytes) :
    rsToEthSig curve r s msg key =
      ethSig curve msg key
        (packed r.natAbs (lowS s).natAbs) := by
  have hTake :
      (packed r.natAbs (lowS s).natAbs ++ [0]).take 64 =
        packed r.natAbs (lowS s).natAbs :=
    List.take_left' (length_packed _ hs)
  simp only [rsToEthSig, copy_r hr, ok_bind, copy_s _ hs,
    hTake, recoverV_eq hPoints (length_packed _ hs), ethSig]
  split
  · rfl
  · split
    · rfl
    · rfl

/- Values that do not fit. -/
theorem rsToEthSig_panics
    (curve : Secp256k1)
    {r s : Int}
    (hLarge :
      ¬(r.natAbs < 256 ^ 32 ∧ (lowS s).natAbs < 256 ^ 64))
    (msg key : Bytes) :
    rsToEthSig curve r s msg key = .error .panic := by
  by_cases hr : r.natAbs < 256 ^ 32
  · have hs : ¬(bigBytes (lowS s)).length ≤ 64 := by
      rw [bigBytes, length_minBytes, byteLength_le_iff]
      exact fun hs => hLarge ⟨hr, hs⟩
    rw [rsToEthSig, copy_r hr, ok_bind, copyBefore,
      if_neg hs, error_bind]
  · have hLong : ¬(bigBytes r).length ≤ 32 := by
      rw [bigBytes, length_minBytes, byteLength_le_iff]
      exact hr
    rw [rsToEthSig, copyBefore, if_neg hLong, error_bind]

end Signer

end BridgeSigner

------------------------------------------------------------
-- Values In Range
------------------------------------------------------------

namespace BridgeSigner

namespace Signer

theorem curveN_lt :
    curveN < 256 ^ 32 := by
  decide

theorem secp256k1HalfN_eq :
    2 * secp256k1HalfN + 1 = curveN := by
  decide

/- The order is odd: a value and its twin never meet. -/
theorem lowS_eq_min
    {s : Nat}
    (hs : s < curveN) :
    lowS s = ((min s (curveN - s) : Nat) : Int) := by
  have hHalf := secp256k1HalfN_eq
  unfold lowS
  split
  · rename_i hHigh
    rw [min_eq_right (by omega)]
    omega
  · rename_i hLow
    rw [min_eq_left (by omega)]

theorem lowS_twin
    {s : Nat}
    (hPos : 1 ≤ s)
    (hs : s < curveN) :
    lowS ((curveN - s : Nat) : Int) = lowS s := by
  rw [lowS_eq_min hs, lowS_eq_min (by omega)]
  congr 1
  rw [Nat.sub_sub_self hs.le, min_comm]

theorem ethSig_ok_iff
    {curve : Secp256k1}
    {msg key rs : Bytes} :
    (∃ sig, ethSig curve msg key rs = .ok sig) ↔
      curve.Recovers msg rs 0 key ∨
        curve.Recovers msg rs 1 key := by
  unfold ethSig
  by_cases hZero : curve.Recovers msg rs 0 key
  · simp [hZero]
  · by_cases hOne : curve.Recovers msg rs 1 key
    · simp [hZero, hOne]
    · simp [hZero, hOne]

theorem ethSig_eq_ok
    {curve : Secp256k1}
    {msg key rs sig : Bytes}
    (hSig : ethSig curve msg key rs = .ok sig) :
    ∃ v : UInt8,
      sig = rs ++ [27 + v] ∧
        (v = 0 ∨ v = 1) ∧
        curve.Recovers msg rs v key ∧
        ∀ v', curve.Recovers msg rs v' key → v ≤ v' := by
  unfold ethSig at hSig
  split at hSig
  · rename_i hZero
    cases hSig
    exact ⟨0, rfl, Or.inl rfl, hZero,
      fun v' _ => UInt8.zero_le⟩
  · rename_i hZero
    split at hSig
    · rename_i hOne
      cases hSig
      refine ⟨1, rfl, Or.inr rfl, hOne, ?_⟩
      intro v' hKey
      have hNe : v' ≠ 0 := by
        rintro rfl
        exact hZero hKey
      exact UInt8.le_iff_toNat_le.mpr
        (Nat.pos_of_ne_zero
          (fun h => hNe (UInt8.toNat_inj.mp h)))
    · cases hSig

theorem rsToEthSig_of_range
    {curve : Secp256k1}
    (hPoints : curve.RecoversPoints)
    {r s : Nat}
    (hr : r < curveN)
    (hs : s < curveN)
    (msg key : Bytes) :
    rsToEthSig curve r s msg key =
      ethSig curve msg key
        (beBytes 32 r ++
          beBytes 32 (min s (curveN - s))) := by
  have hLow : min s (curveN - s) < 256 ^ 32 :=
    (min_le_left _ _).trans_lt (hs.trans curveN_lt)
  have hAbs :
      (lowS s).natAbs = min s (curveN - s) := by
    rw [lowS_eq_min hs, Int.natAbs_natCast]
  rw [← packed_of_fits r hLow, ← hAbs]
  apply rsToEthSig_of_fits hPoints
  · exact hr.trans curveN_lt
  · rw [hAbs]
    exact hLow.trans (by decide)

/- R, S and the last byte, read back from a signature. -/
theorem sig_fields
    {r s : Nat}
    (hr : r < 256 ^ 32)
    (hs : s < 256 ^ 32)
    {sig : Bytes}
    {v : UInt8}
    (hSig : sig = beBytes 32 r ++ beBytes 32 s ++ [v]) :
    beNat (sig.take 32) = r ∧
      beNat ((sig.drop 32).take 32) = s ∧
      sig.drop 64 = [v] := by
  have hLast : sig.drop 64 = [v] := by
    rw [hSig, List.drop_left' (by simp)]
  rw [List.append_assoc] at hSig
  refine ⟨?_, ?_, hLast⟩
  · rw [hSig, List.take_left' (length_beBytes 32 r),
      beNat_beBytes, Nat.mod_eq_of_lt hr]
  · rw [hSig, List.drop_left' (length_beBytes 32 r),
      List.take_left' (length_beBytes 32 s), beNat_beBytes,
      Nat.mod_eq_of_lt hs]

/-
  Conversion is canonical for values in range. S and its twin
  give the same result; there is a result exactly when one of
  the recovery ids gives the key for R and the lower twin; and
  it holds R, the lower twin and the smallest such id.
-/
theorem conversion_canonical
    (curve : Secp256k1)
    (hPoints : curve.RecoversPoints)
    (r s : Nat)
    (hr : 1 ≤ r ∧ r < curveN)
    (hs : 1 ≤ s ∧ s < curveN)
    (msg key : Bytes) :
    let low := min s (curveN - s)
    let rs := beBytes 32 r ++ beBytes 32 low
    rsToEthSig curve r s msg key =
        rsToEthSig curve r ((curveN - s : Nat) : Int) msg
          key ∧
      ((∃ sig, rsToEthSig curve r s msg key = .ok sig) ↔
        curve.Recovers msg rs 0 key ∨
          curve.Recovers msg rs 1 key) ∧
      ∀ sig, rsToEthSig curve r s msg key = .ok sig →
        beNat (sig.take 32) = r ∧
          beNat ((sig.drop 32).take 32) = low ∧
          ∃ v : UInt8,
            sig.drop 64 = [27 + v] ∧
              curve.Recovers msg rs v key ∧
              ∀ v', curve.Recovers msg rs v' key → v ≤ v' := by
  intro low rs
  have hLow : low < 256 ^ 32 :=
    (min_le_left _ _).trans_lt (hs.2.trans curveN_lt)
  have hEq :
      rsToEthSig curve r s msg key =
        ethSig curve msg key rs :=
    rsToEthSig_of_range hPoints hr.2 hs.2 msg key
  refine ⟨?_, ?_, ?_⟩
  · unfold rsToEthSig
    rw [lowS_twin hs.1 hs.2]
  · rw [hEq]
    exact ethSig_ok_iff
  · intro sig hSig
    rw [hEq] at hSig
    rcases ethSig_eq_ok hSig with ⟨v, hBytes, -, hKey, hLeast⟩
    rcases sig_fields (hr.2.trans curveN_lt) hLow hBytes with
      ⟨hR, hS, hV⟩
    exact ⟨hR, hS, v, hV, hKey, hLeast⟩

/- A signature of the tests' key, with both its twins. -/
def sampleMsg : Bytes :=
  beBytes 32
    0x435aa98210d4aedafd74df2ccba13bd8069bf249f59e19ad00f1a790f7b0509f

def sampleR : Nat :=
  0x9a72b1cd4bec2d1b870e1f719185a405e92e8ab327de07108e6d35041d2437f5

def sampleS : Nat :=
  0x592084ce7351ca00637eb956c0df64fde2ff19ea87bc8212c26c9101e466b4e1

/- The tests' public key, and the other candidate. -/
def samplePoint : Nat × Nat :=
  (0x4f355bdcb7cc0af728ef3cceb9615d90684bb5b2ca5f859ab0f0b704075871aa,
    0x385b6b1b8ead809ca67454d9683fcf2ba03456d6fe2c4abe2b07f0fbdbb2f1c1)

def sampleOther : Nat × Nat :=
  (0x44dcd5293f1b52054e10f9c4a8540e9528fbac665716b3ee8ddea99a8387b172,
    0x73c02625c69a751d1d4cc70a740bb1fd76ffa0bc494c941022d9a0ed062af011)

def sampleKey : Bytes :=
  compressedBytes samplePoint.1 samplePoint.2

def sampleRS
    (s : Nat) : Bytes :=
  beBytes 32 sampleR ++ beBytes 32 s

def uncompressed
    (point : Nat × Nat) : Bytes :=
  0x04 :: (beBytes 32 point.1 ++ beBytes 32 point.2)

/- A text, its SHA-256 digest and the key's signature. -/
def hashedText : Bytes :=
  beBytes 32
    0x4a01a0c286d64dc2f38021230b91e0acc60ba93d000ade663bb405435da3a03b

def hashedMsg : Bytes :=
  beBytes 32
    0xdfd704ed81bc48581e50f40a132cc30d2f3153aab40da6f7e6345fc9e1e9e3c6

def hashedR : Nat :=
  0x3ce64dfa1a35b7f385de4d594b4f5cb12ced2aa545313ae732dd0f03b60e5d79

def hashedS : Nat :=
  0x44a0023542a72e45c41f951cc7da523b8a833ea8d4f7f0770c0e850bd79fa222

def hashedRS : Bytes :=
  beBytes 32 hashedR ++ beBytes 32 hashedS

def hashedOther : Nat × Nat :=
  (0x6e233b76eda0274808419ca24a648419c41250e55bb39e7173c0a4188989e368,
    0xe2cb09f0b16bad4d20abe7fe6a4755c12c8f392e063043a68d88c1fc0dabf33c)

/- What recovery gives for the sample, its twin and the text. -/
def sampleRecovery : List ((Bytes × Bytes) × Bytes) :=
  [((sampleMsg, sampleRS sampleS ++ [0]),
      uncompressed sampleOther),
    ((sampleMsg, sampleRS sampleS ++ [1]),
      uncompressed samplePoint),
    ((sampleMsg, sampleRS (curveN - sampleS) ++ [0]),
      uncompressed samplePoint),
    ((sampleMsg, sampleRS (curveN - sampleS) ++ [1]),
      uncompressed sampleOther),
    ((hashedMsg, hashedRS ++ [0]), uncompressed samplePoint),
    ((hashedMsg, hashedRS ++ [1]), uncompressed hashedOther)]

/- The field of the curve. -/
def curveP : Nat :=
  2 ^ 256 - 2 ^ 32 - 977

/- The library, as far as the samples ask it. -/
def sampleCurve : Secp256k1 where
  ecrecover := fun msg sig => sampleRecovery.lookup (msg, sig)
  isOnCurve := fun x y =>
    y * y % curveP == (x * x * x + 7) % curveP

theorem sampleCurve_mem
    {msg sig recovered : Bytes}
    (hEc :
      sampleCurve.ecrecover msg sig = some recovered) :
    ((msg, sig), recovered) ∈ sampleRecovery := by
  rcases List.lookup_eq_some_iff.mp hEc with
    ⟨before, after, hSplit, -⟩
  rw [hSplit]
  exact List.mem_append_cons_self

theorem sampleCurve_recoversPoints :
    sampleCurve.RecoversPoints := by
  intro msg sig recovered hEc _
  have hAll :
      ∀ e ∈ sampleRecovery,
        sampleCurve.isOnCurve (pointX e.2) (pointY e.2) =
          true := by
    decide +kernel
  exact hAll _ (sampleCurve_mem hEc)

/- The upper twin of the sample is converted to the lower. -/
theorem sample_twin_converted :
    rsToEthSig sampleCurve sampleR
        ((curveN - sampleS : Nat) : Int) sampleMsg sampleKey =
      .ok (sampleRS sampleS ++ [28]) := by
  have hLow :
      rsToEthSig sampleCurve sampleR sampleS sampleMsg
          sampleKey =
        .ok (sampleRS sampleS ++ [28]) := by
    decide +kernel
  have hTwins :=
    (conversion_canonical sampleCurve
      sampleCurve_recoversPoints sampleR sampleS (by decide)
      (by decide) sampleMsg sampleKey).1
  exact hTwins.symm.trans hLow

end Signer

end BridgeSigner

------------------------------------------------------------
-- Whatever The Backend Returns
------------------------------------------------------------

namespace BridgeSigner

namespace Signer

/- R and S in range, S in the lower half of the order. -/
def InRange
    (rs : Bytes) : Prop :=
  (1 ≤ beNat (rs.take 32) ∧ beNat (rs.take 32) < curveN) ∧
    1 ≤ beNat (rs.drop 32) ∧
      beNat (rs.drop 32) ≤ secp256k1HalfN

/-
  A conversion returns an error, or a low-S signature with a
  recovery id that gives the key; it does not panic.
-/
def FailsClosed
    (curve : Secp256k1)
    (msg key : Bytes) :
    Except (Stop SigError) Bytes → Prop
| .ok sig =>
    ∃ rs v,
      sig = rs ++ [27 + v] ∧ rs.length = 64 ∧
        InRange rs ∧ (v = 0 ∨ v = 1) ∧
        curve.Recovers msg rs v key
| .error (.error _) => True
| .error .panic => False

/- The same of a raw signature, which has no recovery id. -/
def RawFailsClosed
    (curve : Secp256k1)
    (msg key : Bytes) :
    Except (Stop BackendError) Bytes → Prop
| .ok rs =>
    rs.length = 64 ∧ InRange rs ∧
      (curve.Recovers msg rs 0 key ∨
        curve.Recovers msg rs 1 key)
| .error (.error _) => True
| .error .panic => False

/-
  R and S fit into their slices, and the low 32 bytes of S
  are in the lower half unless no key can be recovered.
-/
def Convertible
    (curve : Secp256k1)
    (msg key : Bytes)
    (r s : Int) : Prop :=
  r.natAbs < 256 ^ 32 ∧
    (lowS s).natAbs < 256 ^ 64 ∧
    ((lowS s).natAbs % 256 ^ 32 ≤ secp256k1HalfN ∨
      ¬curve.Recovers msg
          (packed r.natAbs (lowS s).natAbs) 0 key ∧
        ¬curve.Recovers msg
          (packed r.natAbs (lowS s).natAbs) 1 key)

/- The input is not a signature, or a convertible one. -/
def SafeDER
    (curve : Secp256k1)
    (msg key der : Bytes) : Prop :=
  ∀ r s, parseDERSignature der = .ok (r, s) →
    Convertible curve msg key r s

theorem ethSig_failsClosed_iff
    {curve : Secp256k1}
    (hRange : curve.RejectsOutOfRange)
    {rs : Bytes}
    (hrs : rs.length = 64)
    (msg key : Bytes) :
    FailsClosed curve msg key (ethSig curve msg key rs) ↔
      beNat (rs.drop 32) ≤ secp256k1HalfN ∨
        ¬curve.Recovers msg rs 0 key ∧
          ¬curve.Recovers msg rs 1 key := by
  rw [← not_or, ← ethSig_ok_iff]
  cases hSig : ethSig curve msg key rs with
  | error e =>
      refine iff_of_true ?_ (Or.inr (by simp))
      unfold ethSig at hSig
      split at hSig
      · cases hSig
      · split at hSig
        · cases hSig
        · cases hSig
          trivial
  | ok sig =>
      rcases ethSig_eq_ok hSig with
        ⟨v, rfl, hv, ⟨recovered, hEc, hPoint⟩, -⟩
      rcases hRange msg rs v recovered hrs hEc with ⟨hR, hS⟩
      constructor
      · rintro ⟨rs', v', hEq, -, hIn, -⟩
        rw [(List.append_inj' hEq rfl).1]
        exact Or.inl hIn.2.2
      · rintro (hLow | hNone)
        · exact ⟨rs, v, rfl, hrs, ⟨hR, hS.1, hLow⟩, hv,
            recovered, hEc, hPoint⟩
        · exact absurd ⟨_, rfl⟩ hNone

theorem rsToEthSig_failsClosed_iff
    {curve : Secp256k1}
    (hPoints : curve.RecoversPoints)
    (hRange : curve.RejectsOutOfRange)
    (r s : Int)
    (msg key : Bytes) :
    FailsClosed curve msg key
        (rsToEthSig curve r s msg key) ↔
      Convertible curve msg key r s := by
  unfold Convertible
  by_cases hFits :
      r.natAbs < 256 ^ 32 ∧ (lowS s).natAbs < 256 ^ 64
  · rw [rsToEthSig_of_fits hPoints hFits.1 hFits.2,
      ethSig_failsClosed_iff hRange
        (length_packed _ hFits.2),
      packed_drop _ hFits.2, beNat_beBytes]
    constructor
    · intro h
      exact ⟨hFits.1, hFits.2, h⟩
    · rintro ⟨-, -, h⟩
      exact h
  · rw [rsToEthSig_panics curve hFits]
    constructor
    · intro hFalse
      exact hFalse.elim
    · rintro ⟨hr, hs, -⟩
      exact hFits ⟨hr, hs⟩

/- Reading the DER never panics. -/
theorem parseDERSignature_error
    {der : Bytes}
    {e : Stop SigError}
    (hParse : parseDERSignature der = .error e) :
    ∃ e', e = .error e' := by
  unfold parseDERSignature at hParse
  split at hParse
  · cases hParse
    exact ⟨_, rfl⟩
  · cases hParse
  · cases hParse
    exact ⟨_, rfl⟩

theorem derToEthSig_failsClosed_iff
    {curve : Secp256k1}
    (hPoints : curve.RecoversPoints)
    (hRange : curve.RejectsOutOfRange)
    (der msg key : Bytes) :
    FailsClosed curve msg key
        (derToEthSig curve der msg key) ↔
      SafeDER curve msg key der := by
  unfold derToEthSig SafeDER
  cases hParse : parseDERSignature der with
  | error e =>
      rcases parseDERSignature_error hParse with ⟨e', rfl⟩
      refine iff_of_true trivial ?_
      intro r s hOk
      cases hOk
  | ok rs =>
      rw [ok_bind, rsToEthSig_failsClosed_iff hPoints hRange]
      constructor
      · intro h r s hOk
        cases hOk
        exact h
      · intro h
        exact h rs.1 rs.2 rfl

/- What a conversion returned was found by its recovery. -/
theorem derToEthSig_ok
    {curve : Secp256k1}
    (hPoints : curve.RecoversPoints)
    {der msg key sig : Bytes}
    (hSig : derToEthSig curve der msg key = .ok sig) :
    ∃ rs v,
      sig = rs ++ [27 + v] ∧ rs.length = 64 ∧
        (v = 0 ∨ v = 1) ∧ curve.Recovers msg rs v key := by
  rcases except_bind_ok_iff.mp hSig with ⟨⟨r, s⟩, -, hRs⟩
  simp only at hRs
  by_cases hFits :
      r.natAbs < 256 ^ 32 ∧ (lowS s).natAbs < 256 ^ 64
  · rw [rsToEthSig_of_fits hPoints hFits.1 hFits.2] at hRs
    rcases ethSig_eq_ok hRs with ⟨v, hBytes, hv, hKey, -⟩
    exact ⟨_, v, hBytes, length_packed _ hFits.2, hv, hKey⟩
  · rw [rsToEthSig_panics curve hFits] at hRs
    cases hRs

/- A raw signature is a converted one without its id. -/
theorem signRaw_failsClosed_iff
    (signer : FortanixDSMSigner)
    (hPoints : signer.curve.RecoversPoints)
    {msg : Bytes}
    (hMsg : msg.length = 32)
    (der : Bytes) :
    RawFailsClosed signer.curve msg signer.compressedPubKey
        (signer.signRaw (.ok der) msg) ↔
      FailsClosed signer.curve msg signer.compressedPubKey
        (derToEthSig signer.curve der msg
          signer.compressedPubKey) := by
  unfold FortanixDSMSigner.signRaw
  rw [ensure_pos hMsg, mapError_ok, ok_bind]
  cases hSig :
      derToEthSig signer.curve der msg
        signer.compressedPubKey with
  | error e =>
      cases e with
      | error e => exact Iff.rfl
      | panic => exact Iff.rfl
  | ok sig =>
      rcases derToEthSig_ok hPoints hSig with
        ⟨rs, v, rfl, hLength, hv, hKey⟩
      rw [mapError_ok, ok_bind, List.take_left' hLength]
      constructor
      · rintro ⟨-, hIn, -⟩
        exact ⟨rs, v, rfl, hLength, hIn, hv, hKey⟩
      · rintro ⟨rs', v', hEq, -, hIn, -, -⟩
        cases (List.append_inj' hEq rfl).1
        refine ⟨hLength, hIn, ?_⟩
        rcases hv with rfl | rfl
        · exact Or.inl hKey
        · exact Or.inr hKey

/-
  Malformed DER fails closed exactly when it is safe: it is
  not a signature at all, or R and S fit into their slices and
  no key is recovered from the upper half of the order. The
  same holds of the raw signatures of the DSM backend, and a
  failed call of the DSM fails closed.
-/
theorem der_fails_closed_iff
    (signer : FortanixDSMSigner)
    (hPoints : signer.curve.RecoversPoints)
    (hRange : signer.curve.RejectsOutOfRange)
    (der msg : Bytes)
    (hMsg : msg.length = 32) :
    let curve := signer.curve
    let key := signer.compressedPubKey
    (FailsClosed curve msg key
          (derToEthSig curve der msg key) ↔
        SafeDER curve msg key der) ∧
      (RawFailsClosed curve msg key
          (signer.signRaw (.ok der) msg) ↔
        SafeDER curve msg key der) ∧
      ∀ e,
        RawFailsClosed curve msg key
          (signer.signRaw (.error e) msg) := by
  have hDer :=
    derToEthSig_failsClosed_iff hPoints hRange der msg
      signer.compressedPubKey
  refine ⟨hDer, ?_, ?_⟩
  · exact (signRaw_failsClosed_iff signer hPoints hMsg
      der).trans hDer
  · intro e
    unfold FortanixDSMSigner.signRaw
    rw [ensure_pos hMsg]
    exact trivial

theorem sampleCurve_rejectsOutOfRange :
    sampleCurve.RejectsOutOfRange := by
  intro msg rs v recovered hrs hEc
  have hAll :
      ∀ e ∈ sampleRecovery,
        (1 ≤ beNat (e.1.2.take 32) ∧
            beNat (e.1.2.take 32) < curveN) ∧
          1 ≤ beNat ((e.1.2.take 64).drop 32) ∧
            beNat ((e.1.2.take 64).drop 32) < curveN := by
    decide +kernel
  have hEntry := hAll _ (sampleCurve_mem hEc)
  simpa only [List.take_left' hrs,
    List.take_append_of_le_length
      (show 32 ≤ rs.length by omega)] using hEntry

def sampleSigner : FortanixDSMSigner where
  curve := sampleCurve
  compressedPubKey := sampleKey

/- A SEQUENCE of two INTEGERs of less than 128 bytes. -/
def derPair
    (r s : Bytes) : Bytes :=
  [0x30, UInt8.ofNat (r.length + s.length + 4), 0x02,
    UInt8.ofNat r.length] ++
    (r ++ ([0x02, UInt8.ofNat s.length] ++ s))

/- The DSM's answer for the sample. -/
def sampleDER : Bytes :=
  derPair (0 :: beBytes 32 sampleR) (beBytes 32 sampleS)

/- The DSM's answer for the text's digest. -/
def hashedDER : Bytes :=
  derPair (beBytes 32 hashedR) (beBytes 32 hashedS)

theorem sample_fails_closed :
    RawFailsClosed sampleCurve sampleMsg sampleKey
        (sampleSigner.signRaw (.ok sampleDER) sampleMsg) ∧
      sampleSigner.signRaw (.ok sampleDER) sampleMsg =
        .ok (sampleRS sampleS) := by
  have hParse :
      parseDERSignature sampleDER =
        .ok ((sampleR : Int), (sampleS : Int)) := by
    decide +kernel
  have hSafe :
      SafeDER sampleCurve sampleMsg sampleKey sampleDER := by
    intro r s hOk
    cases hParse.symm.trans hOk
    refine ⟨by decide, by decide, Or.inl (by decide)⟩
  have hClosed :=
    (der_fails_closed_iff sampleSigner
      sampleCurve_recoversPoints
      sampleCurve_rejectsOutOfRange sampleDER sampleMsg
      (by decide)).2.1.mpr hSafe
  exact ⟨hClosed, by decide +kernel⟩

/-
  An R of 33 bytes panics, whatever it is an answer to. A
  negative S is never moved: the upper twin of the sample,
  negated, comes back as a high-S signature.
-/
theorem malformed_der_not_closed :
    sampleSigner.signRaw
        (.ok (derPair (beBytes 33 (2 ^ 256)) [1]))
        sampleMsg =
      .error .panic ∧
    sampleSigner.signRaw
        (.ok (derPair (0 :: beBytes 32 sampleR)
          (beBytes 33 (2 ^ 264 - (curveN - sampleS)))))
        sampleMsg =
      .ok (sampleRS (curveN - sampleS)) ∧
    secp256k1HalfN < curveN - sampleS := by
  refine ⟨by decide +kernel, by decide +kernel, by decide⟩

end Signer

end BridgeSigner
