import BridgeSigner.Foundation.DerValues
import BridgeSigner.Signer.Backends

/-
  The key of the DSM backend (signer/fortanix_dsm.go).

  When the backend is set up it asks the DSM for the key named
  in the settings, by its id or else by its name, and takes
  the public key out of a DER text. A point that is not on the
  curve panics.

  Key definitions include:
    * `parseSpkiToSecp256k1`
    * `fetchDSMPublicKey`
    * `newFortanixDSMSigner`

  Main results:
    * `parseSpki_ok_iff`
    * `spki_read_back`
-/

------------------------------------------------------------
-- The Public Key In DER
------------------------------------------------------------

namespace BridgeSigner

namespace Signer

/- Why a public key was not read. -/
inductive SpkiError where
| unmarshal (e : Der.ValueError)
| point (got : Nat)
  deriving DecidableEq, Repr

/- The element with this tag, as a value. -/
def readField
    (tag : UInt8)
    (b : Bytes) : Except Der.ValueError (Bytes × Bytes) :=
  (Der.readElement tag b).mapError .element

/- The parameters of an algorithm may be left out. -/
def readParameters
    (b : Bytes) : Except Der.ValueError Unit :=
  if b = [] then .ok ()
  else (Der.readAny b).map (fun _ => ())

/- An algorithm and a bit string; more may follow. -/
def unmarshalSpki
    (der : Bytes) : Except Der.ValueError Bytes := do
  let (fields, _) ← readField 0x30 der
  let (algorithm, fields) ← readField 0x30 fields
  let (oid, parameters) ← readField 0x06 algorithm
  Der.checkObjectIdentifier oid
  readParameters parameters
  let (bits, _) ← readField 0x03 fields
  Der.readBits bits

def parseSpkiToSecp256k1
    (curve : Secp256k1)
    (der : Bytes) : Except (Stop SpkiError) Bytes := do
  let raw ←
    (unmarshalSpki der).mapError
      (fun e => .error (.unmarshal e))
  ensure (raw.length = 65 ∧ raw.head? = some 0x04)
    (.error (.point raw.length))
  (marshalCompressed curve (pointX raw)
    (pointY raw)).mapError (fun _ => .panic)

end Signer

end BridgeSigner

------------------------------------------------------------
-- Reading The Key Back
------------------------------------------------------------

namespace BridgeSigner

namespace Signer

/- A public key as the DSM writes it. -/
def spkiText
    (oid parameters point : Bytes) : Bytes :=
  Der.element 0x30
    (Der.element 0x30
        (Der.element 0x06 oid ++ parameters) ++
      Der.element 0x03 (0 :: point))

/- No parameters, or one element. -/
def Parameters
    (b : Bytes) : Prop :=
  b = [] ∨
    ∃ tag content,
      tag &&& 0x1f ≠ 0x1f ∧ content.length < 2 ^ 20 ∧
        b = Der.element tag content

theorem length_element_le
    (tag : UInt8)
    {content : Bytes}
    (hLength : content.length < 2 ^ 31) :
    (Der.element tag content).length ≤
      content.length + 6 := by
  have hBytes : byteLength content.length ≤ 4 := by
    rw [byteLength_le_iff]
    omega
  unfold Der.element Der.encodeLength
  split
  · simp
  · simp only [List.length_cons, List.length_append,
      length_minBytes]
    omega

theorem readField_element
    (tag : UInt8)
    (hTag : tag &&& 0x1f ≠ 0x1f)
    {content : Bytes}
    (hLength : content.length < 2 ^ 31)
    (rest : Bytes) :
    readField tag (Der.element tag content ++ rest) =
      .ok (content, rest) := by
  rw [readField, Der.readElement_element hTag hLength,
    mapError_ok]

theorem readParameters_ok
    {b : Bytes}
    (hb : Parameters b) :
    readParameters b = .ok () := by
  rcases hb with rfl | ⟨tag, content, hTag, hLength, rfl⟩
  · rfl
  · have hRead :=
      Der.readAny_element hTag
        (hLength.trans (by decide)) []
    rw [List.append_nil] at hRead
    rw [readParameters, if_neg (by simp [Der.element]),
      hRead]
    rfl

theorem Parameters.length_le
    {b : Bytes}
    (hb : Parameters b) :
    b.length ≤ 2 ^ 20 + 6 := by
  rcases hb with rfl | ⟨tag, content, -, hLength, rfl⟩
  · simp
  · have h :=
      length_element_le tag (hLength.trans (by decide))
    omega

theorem readBits_whole
    (point : Bytes) :
    Der.readBits (0 :: point) = .ok point := by
  rw [Der.readBits, ensure_pos]
  refine ⟨by decide, fun _ => rfl, ?_⟩
  exact Nat.mod_one _

/- The bit string of what was written, with more after it. -/
theorem unmarshalSpki_spkiText
    {oid parameters point : Bytes}
    (hOid : Der.checkObjectIdentifier oid = .ok ())
    (hOidLength : oid.length < 2 ^ 20)
    (hParameters : Parameters parameters)
    (hPoint : point.length = 65)
    (rest : Bytes) :
    unmarshalSpki (spkiText oid parameters point ++ rest) =
      .ok point := by
  have hOidFits : oid.length < 2 ^ 31 :=
    hOidLength.trans (by decide)
  have hOidElement := length_element_le 0x06 hOidFits
  have hAfterOid := hParameters.length_le
  have hAlgorithm :
      (Der.element 0x06 oid ++ parameters).length <
        2 ^ 31 := by
    rw [List.length_append]
    omega
  have hInner := length_element_le 0x30 hAlgorithm
  have hBits : (0 :: point : Bytes).length < 2 ^ 31 := by
    rw [List.length_cons, hPoint]
    decide
  have hBitsElement := length_element_le 0x03 hBits
  have hFields :
      (Der.element 0x30
            (Der.element 0x06 oid ++ parameters) ++
          Der.element 0x03 (0 :: point)).length <
        2 ^ 31 := by
    rw [List.length_append] at hInner ⊢
    rw [List.length_cons] at hBitsElement
    omega
  have hRead :=
    readField_element 0x03 (by decide) hBits []
  rw [List.append_nil] at hRead
  simp only [unmarshalSpki, spkiText,
    readField_element 0x30 (by decide) hFields,
    readField_element 0x30 (by decide) hAlgorithm,
    readField_element 0x06 (by decide) hOidFits,
    ok_bind, hOid, readParameters_ok hParameters, hRead,
    readBits_whole]

theorem coordinates_uncompressed
    {x y : Nat}
    (hx : x < 256 ^ 32)
    (hy : y < 256 ^ 32) :
    pointX (uncompressed (x, y)) = x ∧
      pointY (uncompressed (x, y)) = y := by
  constructor
  · rw [pointX, uncompressed, List.drop_one, List.tail_cons,
      List.take_left' (length_beBytes 32 x), beNat_beBytes,
      Nat.mod_eq_of_lt hx]
  · have hDrop :
        (uncompressed (x, y)).drop 33 = beBytes 32 y := by
      rw [uncompressed, List.drop_succ_cons,
        List.drop_left' (length_beBytes 32 x)]
    rw [pointY, hDrop, List.take_of_length_le (by simp),
      beNat_beBytes, Nat.mod_eq_of_lt hy]

/- An uncompressed point is spelled by its coordinates. -/
theorem uncompressed_coordinates
    {raw : Bytes}
    (hLength : raw.length = 65)
    (hHead : raw.head? = some 0x04) :
    raw = uncompressed (pointX raw, pointY raw) := by
  cases raw with
  | nil => cases hHead
  | cons b rest =>
      cases hHead
      have hRest : rest.length = 64 := by
        simpa using hLength
      have hX := beBytes_beNat (rest.take 32)
      have hY := beBytes_beNat (rest.drop 32)
      rw [List.length_take_of_le (by omega)] at hX
      rw [List.length_drop, hRest] at hY
      have hTail :
          (rest.drop 32).take 32 = rest.drop 32 :=
        List.take_of_length_le (by simp [hRest])
      simp only [uncompressed, pointX, pointY,
        List.drop_succ_cons, List.drop_zero, hTail, hX, hY,
        List.take_append_drop]

theorem parseSpki_ok_iff
    {curve : Secp256k1}
    {der key : Bytes} :
    parseSpkiToSecp256k1 curve der = .ok key ↔
      ∃ x y,
        (x < 256 ^ 32 ∧ y < 256 ^ 32) ∧
          unmarshalSpki der = .ok (uncompressed (x, y)) ∧
          (curve.isOnCurve x y = true ∨ x = 0 ∧ y = 0) ∧
          key = compressedBytes x y := by
  simp only [parseSpkiToSecp256k1, except_bind_ok_iff,
    mapError_ok_iff, ensure_ok_iff, exists_const]
  constructor
  · rintro ⟨raw, hRaw, ⟨hLength, hHead⟩, hKey⟩
    have hSpelled := uncompressed_coordinates hLength hHead
    have hX : pointX raw < 256 ^ 32 := by
      have h := beNat_lt ((raw.drop 1).take 32)
      rwa [List.length_take_of_le (by simp [hLength])] at h
    have hY : pointY raw < 256 ^ 32 := by
      have h := beNat_lt ((raw.drop 33).take 32)
      rwa [List.length_take_of_le (by simp [hLength])] at h
    rw [hSpelled] at hRaw
    refine ⟨_, _, ⟨hX, hY⟩, hRaw, ?_⟩
    unfold marshalCompressed at hKey
    split at hKey
    · cases hKey
    · rename_i hOn
      refine ⟨?_, (Except.ok.inj hKey).symm⟩
      cases hCurve :
          curve.isOnCurve (pointX raw) (pointY raw) with
      | true => exact Or.inl rfl
      | false =>
          right
          by_contra hZero
          exact hOn ⟨by omega, hCurve⟩
  · rintro ⟨x, y, ⟨hx, hy⟩, hRaw, hOn, rfl⟩
    refine ⟨_, hRaw, ⟨?_, rfl⟩, ?_⟩
    · simp [uncompressed]
    · rcases coordinates_uncompressed hx hy with ⟨hX, hY⟩
      rw [hX, hY, marshalCompressed, if_neg]
      rintro ⟨hNonzero, hOff⟩
      rcases hOn with hOn | ⟨rfl, rfl⟩
      · rw [hOn] at hOff
        cases hOff
      · simp at hNonzero

/-
  What the DSM writes for a point of the curve is read as the
  compressed form of that point, whatever algorithm it names
  and whatever follows; and whatever text is read as a key
  holds, as an uncompressed point, the point of the curve of
  which the key is the compressed form, or the point zero.
-/
theorem spki_read_back
    (curve : Secp256k1) :
    (∀ oid parameters rest x y,
      Der.checkObjectIdentifier oid = .ok () →
        oid.length < 2 ^ 20 →
          Parameters parameters →
            x < 256 ^ 32 → y < 256 ^ 32 →
              curve.isOnCurve x y = true →
                parseSpkiToSecp256k1 curve
                    (spkiText oid parameters
                      (uncompressed (x, y)) ++ rest) =
                  .ok (compressedBytes x y)) ∧
      ∀ der key,
        parseSpkiToSecp256k1 curve der = .ok key →
          ∃ x y,
            unmarshalSpki der = .ok (uncompressed (x, y)) ∧
              (curve.isOnCurve x y = true ∨
                x = 0 ∧ y = 0) ∧
              key = compressedBytes x y := by
  constructor
  · intro oid parameters rest x y hOid hOidLength
      hParameters hx hy hOn
    have hPoint : (uncompressed (x, y)).length = 65 := by
      simp [uncompressed]
    have hRead :=
      unmarshalSpki_spkiText hOid hOidLength hParameters
        hPoint rest
    exact parseSpki_ok_iff.mpr
      ⟨x, y, ⟨hx, hy⟩, hRead, Or.inl hOn, rfl⟩
  · intro der key hKey
    rcases parseSpki_ok_iff.mp hKey with
      ⟨x, y, -, hRead, hOn, hEq⟩
    exact ⟨x, y, hRead, hOn, hEq⟩

/- The algorithm of keys on elliptic curves. -/
def ecPublicKeyOid : Bytes :=
  [0x2a, 0x86, 0x48, 0xce, 0x3d, 0x02, 0x01]

/- Its parameter: the curve, by its own identifier. -/
def secp256k1Parameters : Bytes :=
  Der.element 0x06 [0x2b, 0x81, 0x04, 0x00, 0x0a]

/- The tests' key, as the DSM sends it. -/
def sampleSpki : Bytes :=
  spkiText ecPublicKeyOid secp256k1Parameters
    (uncompressed samplePoint)

theorem sample_spki_read_back :
    sampleSpki.length = 88 ∧
      parseSpkiToSecp256k1 sampleCurve sampleSpki =
        .ok sampleKey ∧
      ∃ x y,
        unmarshalSpki sampleSpki =
            .ok (uncompressed (x, y)) ∧
          (sampleCurve.isOnCurve x y = true ∨
            x = 0 ∧ y = 0) ∧
          sampleKey = compressedBytes x y := by
  have hRead :=
    (spki_read_back sampleCurve).1 ecPublicKeyOid
      secp256k1Parameters [] samplePoint.1 samplePoint.2
      (by decide) (by decide)
      (Or.inr ⟨0x06, [0x2b, 0x81, 0x04, 0x00, 0x0a],
        by decide, by decide, rfl⟩)
      (by decide) (by decide) (by decide +kernel)
  rw [List.append_nil] at hRead
  exact ⟨by decide +kernel, hRead,
    (spki_read_back sampleCurve).2 _ _ hRead⟩

end Signer

end BridgeSigner

------------------------------------------------------------
-- Setting Up The Backend
------------------------------------------------------------

namespace BridgeSigner

namespace Signer

/- What the DSM tells about a key. -/
structure Sobject where
  objType : Bytes
  ellipticCurve : Option Bytes
  pubKey : Option Bytes

/- How a key is asked for. -/
inductive SobjectDescriptor where
| kid (id : Bytes)
| name (name : Bytes)
  deriving DecidableEq, Repr

/- Why the public key was not fetched. -/
inductive FetchError where
| getSobject (e : Bytes)
| notEC (objType : Bytes)
| curve (name : Bytes)
| noPubKey
| parse (e : SpkiError)
  deriving DecidableEq, Repr

def fetchDSMPublicKey
    (curve : Secp256k1)
    (resp : Fallible Sobject) :
    Except (Stop FetchError) Bytes := do
  let sobject ←
    resp.mapError (fun e => .error (.getSobject e))
  ensure (sobject.objType = ascii "EC")
    (.error (.notEC sobject.objType))
  ensure (sobject.ellipticCurve = some (ascii "SecP256K1"))
    (.error (.curve
      (sobject.ellipticCurve.getD (ascii "unknown"))))
  match sobject.pubKey with
  | none => .error (.error .noPubKey)
  | some raw =>
      (parseSpkiToSecp256k1 curve raw).mapError
        (Stop.wrap .parse)

structure FortanixDSMConfig where
  apiEndpoint : Bytes
  apiKey : Bytes
  keyID : Bytes
  keyName : Bytes

/- Why the backend was not set up. -/
inductive NewDSMError where
| endpointRequired
| apiKeyRequired
| keyRequired
| fetch (e : FetchError)
  deriving DecidableEq, Repr

/- The id is preferred to the name. -/
def FortanixDSMConfig.descriptor
    (cfg : FortanixDSMConfig) : SobjectDescriptor :=
  if cfg.keyID ≠ [] then .kid cfg.keyID
  else .name cfg.keyName

/- `getSobject` is the DSM at the configured endpoint. -/
def newFortanixDSMSigner
    (curve : Secp256k1)
    (getSobject :
      FortanixDSMConfig → SobjectDescriptor →
        Fallible Sobject)
    (cfg : FortanixDSMConfig) :
    Except (Stop NewDSMError) FortanixDSMSigner := do
  ensure (cfg.apiEndpoint ≠ []) (.error .endpointRequired)
  ensure (cfg.apiKey ≠ []) (.error .apiKeyRequired)
  ensure (cfg.keyID ≠ [] ∨ cfg.keyName ≠ [])
    (.error .keyRequired)
  let compressedPubKey ←
    (fetchDSMPublicKey curve
      (getSobject cfg cfg.descriptor)).mapError
        (Stop.wrap .fetch)
  .ok ⟨curve, compressedPubKey⟩

end Signer

end BridgeSigner
