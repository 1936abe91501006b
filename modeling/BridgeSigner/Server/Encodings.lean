import BridgeSigner.Foundation.AbiCodec
import BridgeSigner.Server.Handlers

/-
  What the hashed encodings say (server/checkpoint.go,
  server/attestation.go).

  The validator set is encoded by hand. The bytes are those
  of the Solidity ABI for one array of pairs, so that the
  contract on the other side decodes the set that was hashed.
  An attestation is packed by the library, with one byte
  string in the middle of its words, and its snapshot binds
  all of them.

  Key definitions include:
    * `validatorSetArguments`
    * `decodeValidatorSet`
    * `SameAttestation`

  Main results:
    * `encodeAndHashValidatorSet_abi`
    * `snapshot_binds_attestation`
-/

------------------------------------------------------------
-- The Validator Set
------------------------------------------------------------

namespace BridgeSigner

namespace Server

/- A validator as an (address,uint256) pair. -/
def BridgeValidator.datum
    (v : BridgeValidator) : Abi.Datum :=
  .tuple [.address v.ethereumAddress,
    .uint256 v.power.toNat]

/- A pair as a validator; powers have 64 bits. -/
def BridgeValidator.ofDatum :
    Abi.Datum → Option BridgeValidator
| .tuple [.address a, .uint256 n] =>
    if n < 2 ^ 64 then
      some ⟨a, UInt64.ofNat n⟩
    else
      none
| _ => none

/- The one argument of type (address,uint256)[]. -/
def validatorSetArguments
    (vs : List BridgeValidator) : List Abi.Datum :=
  [.array (vs.map BridgeValidator.datum)]

def validatorSetTypes : List Abi.Ty :=
  [.array (.tuple [.address, .uint256])]

/- Decode the argument and read the validators off it. -/
def decodeValidatorSet
    (s : Bytes) : Option (List BridgeValidator) :=
  match Abi.decodeArguments validatorSetTypes s with
  | some [.array ds] => ds.mapM BridgeValidator.ofDatum
  | _ => none

/- A length in the last eight bytes is a word. -/
theorem uint64_word
    {n : Nat}
    (hn : n < 2 ^ 64) :
    zeros 24 ++ beBytes 8 n = Abi.uint256 n := by
  have hPow : (256 : Nat) ^ 8 = 2 ^ 64 := by norm_num
  have hSplit := beBytes_add 24 8 n
  rw [hPow, Nat.div_eq_of_lt hn, beBytes_zero] at hSplit
  exact hSplit.symm

theorem BridgeValidator.ofDatum_datum
    (v : BridgeValidator) :
    BridgeValidator.ofDatum v.datum = some v := by
  rcases v with ⟨a, p⟩
  simp only [BridgeValidator.datum,
    BridgeValidator.ofDatum, if_pos p.toNat_lt,
    UInt64.ofNat_toNat]

theorem mapM_ofDatum
    (vs : List BridgeValidator) :
    (vs.map BridgeValidator.datum).mapM
        BridgeValidator.ofDatum =
      some vs := by
  induction vs with
  | nil => rfl
  | cons v vs ih =>
      simp [BridgeValidator.ofDatum_datum, ih]

/- A pair is static, and is its two words. -/
theorem BridgeValidator.part_datum
    {v : BridgeValidator}
    (hLength : v.ethereumAddress.length = 20) :
    v.datum.part = ⟨false, encodeValidator v⟩ := by
  rw [encodeValidator_eq hLength]
  simp [BridgeValidator.datum, Abi.Datum.part,
    Abi.Datum.parts, Abi.Part.join, Abi.Part.heads,
    Abi.Part.tails]

theorem parts_validators
    {vs : List BridgeValidator}
    (hLengths : ∀ v ∈ vs, v.ethereumAddress.length = 20) :
    (vs.map BridgeValidator.datum).map Abi.Datum.part =
      vs.map (fun v => ⟨false, encodeValidator v⟩) := by
  rw [List.map_map]
  apply List.map_congr_left
  intro v hv
  exact BridgeValidator.part_datum (hLengths v hv)

/- The hand-written bytes follow the recursive rules. -/
theorem encodeValidatorSet_eq
    {vs : List BridgeValidator}
    (hLengths : ∀ v ∈ vs, v.ethereumAddress.length = 20)
    (hSlice : vs.length < 2 ^ 63) :
    encodeValidatorSet vs =
      Abi.encodeArguments (validatorSetArguments vs) := by
  have hEntries :
      Abi.Part.join
          ((vs.map BridgeValidator.datum).map
            Abi.Datum.part) =
        (vs.map encodeValidator).flatten := by
    rw [parts_validators hLengths, Abi.Part.join_static]
    · simp [Function.comp_def]
    · simp
  rw [validatorSetArguments, Abi.encodeArguments_dynamic]
  · simp only [encodeValidatorSet, Abi.Datum.encode,
      Abi.Datum.part, Abi.Datum.parts_eq_map, hEntries,
      List.length_map,
      uint64_word (show 32 < 2 ^ 64 by norm_num),
      uint64_word (show vs.length < 2 ^ 64 by omega)]
  · simp only [Abi.Datum.part]

theorem hasAll_validatorSet
    {vs : List BridgeValidator}
    (hLengths : ∀ v ∈ vs, v.ethereumAddress.length = 20)
    (hSlice : vs.length < 2 ^ 63) :
    Abi.Ty.HasAll validatorSetTypes
      (validatorSetArguments vs) := by
  simp only [validatorSetTypes, validatorSetArguments,
    Abi.Ty.HasAll, Abi.Ty.Has, List.length_map, and_true,
    List.forall_mem_map]
  refine ⟨by omega, ?_⟩
  intro v hv
  have hPower := v.power.toNat_lt
  simp only [BridgeValidator.datum, Abi.Ty.Has,
    Abi.Ty.HasAll, and_true]
  exact ⟨hLengths v hv, by omega⟩

theorem length_encodeValidatorSet
    {vs : List BridgeValidator}
    (hLengths : ∀ v ∈ vs, v.ethereumAddress.length = 20) :
    (encodeValidatorSet vs).length =
      64 + 64 * vs.length := by
  have hEntries :
      (vs.map encodeValidator).flatten.length =
        64 * vs.length := by
    induction vs with
    | nil => rfl
    | cons v vs ih =>
        rw [List.forall_mem_cons] at hLengths
        simp only [List.map_cons, List.flatten_cons,
          List.length_append, List.length_cons,
          length_encodeValidator hLengths.1, ih hLengths.2]
        omega
  simp only [encodeValidatorSet, List.length_append,
    length_zeros, length_beBytes, hEntries]
  omega

/-
  The encoded set is the ABI encoding of an array of pairs,
  and decodes to the same validators in the same order. The
  length of a slice has 63 bits.
-/
theorem encodeAndHashValidatorSet_abi
    (keccak256 : Bytes → Bytes)
    (vs : List BridgeValidator)
    (hLengths : ∀ v ∈ vs, v.ethereumAddress.length = 20)
    (hSlice : vs.length < 2 ^ 63) :
    (encodeAndHashValidatorSet keccak256 vs).1 =
        Abi.encodeArguments (validatorSetArguments vs) ∧
      decodeValidatorSet
          (encodeAndHashValidatorSet keccak256 vs).1 =
        some vs := by
  have hEq := encodeValidatorSet_eq hLengths hSlice
  refine ⟨hEq, ?_⟩
  have hSize :
      (Abi.encodeArguments
        (validatorSetArguments vs)).length < 2 ^ 256 := by
    rw [← hEq, length_encodeValidatorSet hLengths]
    omega
  have hDecode :
      Abi.decodeArguments validatorSetTypes
          (encodeValidatorSet vs) =
        some (validatorSetArguments vs) := by
    rw [hEq]
    exact Abi.decodeArguments_encodeArguments
      (hasAll_validatorSet hLengths hSlice) hSize
  simp only [encodeAndHashValidatorSet, decodeValidatorSet,
    hDecode, validatorSetArguments]
  exact mapM_ofDatum vs

/- The golden set of three validators. -/
theorem golden_validatorSet_abi :
    (encodeAndHashValidatorSet goldenKeccak256
        goldenMainnetRequest.validatorSet).1 =
      Abi.encodeArguments
        (validatorSetArguments
          goldenMainnetRequest.validatorSet) ∧
    decodeValidatorSet
        (encodeAndHashValidatorSet goldenKeccak256
          goldenMainnetRequest.validatorSet).1 =
      some goldenMainnetRequest.validatorSet :=
  encodeAndHashValidatorSet_abi goldenKeccak256
    goldenMainnetRequest.validatorSet (by decide)
    (by decide)

end Server

end BridgeSigner

------------------------------------------------------------
-- Attestations
------------------------------------------------------------

namespace BridgeSigner

namespace Server

/- The gates on the lengths of a request's fields. -/
structure LengthGates
    (req : SignOracleAttestationRequest) : Prop where
  query_pos : 0 < req.queryId.length
  query_le : req.queryId.length ≤ 32
  valset : req.valsetCheckpoint.length = 32
  expected : req.expectedSnapshot.length = 32

/- Requests with one content; query ids may be padded. -/
structure SameAttestation
    (r r' : SignOracleAttestationRequest) : Prop where
  queryId : padRight 32 r.queryId = padRight 32 r'.queryId
  value : r.value = r'.value
  timestamp : r.timestamp = r'.timestamp
  aggregatePower : r.aggregatePower = r'.aggregatePower
  previousTimestamp :
    r.previousTimestamp = r'.previousTimestamp
  nextTimestamp : r.nextTimestamp = r'.nextTimestamp
  valsetCheckpoint :
    r.valsetCheckpoint = r'.valsetCheckpoint
  attestationTimestamp :
    r.attestationTimestamp = r'.attestationTimestamp
  lastConsensusTimestamp :
    r.lastConsensusTimestamp = r'.lastConsensusTimestamp

/- The words in front of the value, and those behind it. -/
def wordsBefore
    (req : SignOracleAttestationRequest) : List Bytes :=
  [padRight 32 oracleAttestationDomainSeparator,
    padRight 32 req.queryId]

def wordsAfter
    (req : SignOracleAttestationRequest) : List Bytes :=
  [Abi.uint256 req.timestamp.toNat,
    Abi.uint256 req.aggregatePower.toNat,
    Abi.uint256 req.previousTimestamp.toNat,
    Abi.uint256 req.nextTimestamp.toNat,
    padRight 32 req.valsetCheckpoint,
    Abi.uint256 req.attestationTimestamp.toNat,
    Abi.uint256 req.lastConsensusTimestamp.toNat]

theorem wordsBefore_sized
    (req : SignOracleAttestationRequest) :
    ∀ w ∈ wordsBefore req, w.length = 32 := by
  simp [wordsBefore]

theorem wordsAfter_sized
    (req : SignOracleAttestationRequest) :
    ∀ w ∈ wordsAfter req, w.length = 32 := by
  simp [wordsAfter]

theorem encodeAttestationArgs_eq
    (req : SignOracleAttestationRequest) :
    encodeAttestationArgs req =
      Abi.pack
        ((wordsBefore req).map Abi.Value.word ++
          .bytes req.value ::
            (wordsAfter req).map Abi.Value.word) :=
  rfl

/- The packed arguments determine the request's content. -/
theorem encodeAttestationArgs_injective
    {r r' : SignOracleAttestationRequest}
    (hValset : r.valsetCheckpoint.length = 32)
    (hValset' : r'.valsetCheckpoint.length = 32)
    (hEq :
      encodeAttestationArgs r = encodeAttestationArgs r') :
    SameAttestation r r' := by
  rw [encodeAttestationArgs_eq,
    encodeAttestationArgs_eq] at hEq
  have hFront :
      (wordsBefore r).length = (wordsBefore r').length := by
    simp [wordsBefore]
  have hBack :
      (wordsAfter r).length = (wordsAfter r').length := by
    simp [wordsAfter]
  rcases Abi.pack_one_bytes_injective (wordsBefore_sized r)
      (wordsBefore_sized r') (wordsAfter_sized r)
      (wordsAfter_sized r') hFront hBack hEq with
    ⟨hBefore, hValue, hAfter⟩
  simp only [wordsBefore, List.cons.injEq, true_and,
    and_true] at hBefore
  simp only [wordsAfter, List.cons.injEq, and_true,
    padRight_of_length hValset,
    padRight_of_length hValset'] at hAfter
  rcases hAfter with
    ⟨hTime, hPower, hPrevious, hNext, hCheckpoint,
      hAttested, hConsensus⟩
  exact ⟨hBefore, hValue, uint64_word_injective hTime,
    uint64_word_injective hPower,
    uint64_word_injective hPrevious,
    uint64_word_injective hNext, hCheckpoint,
    uint64_word_injective hAttested,
    uint64_word_injective hConsensus⟩

theorem SameAttestation.encode_eq
    {r r' : SignOracleAttestationRequest}
    (hSame : SameAttestation r r') :
    encodeAttestationArgs r = encodeAttestationArgs r' := by
  simp only [encodeAttestationArgs, hSame.queryId,
    hSame.value, hSame.timestamp, hSame.aggregatePower,
    hSame.previousTimestamp, hSame.nextTimestamp,
    hSame.valsetCheckpoint, hSame.attestationTimestamp,
    hSame.lastConsensusTimestamp]

/- Two requests share a snapshot exactly if they agree. -/
theorem snapshot_binds_attestation
    (keccak256 : Bytes → Bytes)
    (r r' : SignOracleAttestationRequest)
    (hFree :
      CollisionFree keccak256
        [encodeAttestationArgs r, encodeAttestationArgs r'])
    (hGates : LengthGates r)
    (hGates' : LengthGates r') :
    encodeOracleAttestation keccak256 r =
        encodeOracleAttestation keccak256 r' ↔
      SameAttestation r r' := by
  constructor
  · intro hSnapshot
    exact encodeAttestationArgs_injective hGates.valset
      hGates'.valset
      (hFree _ (by simp) _ (by simp) hSnapshot)
  · intro hSame
    rw [encodeOracleAttestation, encodeOracleAttestation,
      hSame.encode_eq]

/- The golden attestation, for a query id of `queryId`. -/
def shortAttestation
    (queryId : Bytes) : SignOracleAttestationRequest :=
  { BridgeSignerServer.goldenAttestation with
    queryId := queryId }

/- Keccak-256 where the query id is two bytes and zeros. -/
def shortKeccak256
    (b : Bytes) : Bytes :=
  if b = encodeAttestationArgs
      (shortAttestation [0x83, 0x24]) then
    beBytes 32
      0x88acf47d30b8eedc18f3eecfd812d1ccc08fce054610776996213bdd4fa77549
  else
    []

/- A query id and its padded form share the snapshot. -/
theorem padded_query_shares_snapshot :
    encodeOracleAttestation shortKeccak256
        (shortAttestation [0x83, 0x24]) =
      encodeOracleAttestation shortKeccak256
        (shortAttestation [0x83, 0x24, 0]) := by
  apply (snapshot_binds_attestation shortKeccak256
    (shortAttestation [0x83, 0x24])
    (shortAttestation [0x83, 0x24, 0]) (by decide +kernel)
    ⟨by decide, by decide, by decide, by decide⟩
    ⟨by decide, by decide, by decide, by decide⟩).mpr
  exact ⟨by decide, rfl, rfl, rfl, rfl, rfl, rfl, rfl, rfl⟩

end Server

end BridgeSigner
