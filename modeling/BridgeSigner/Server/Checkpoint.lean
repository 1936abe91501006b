import Mathlib.Data.List.Sort
import Mathlib.Data.Multiset.Defs
import BridgeSigner.Foundation.Abi
import BridgeSigner.Server.Status

/-
  Validator-set checkpoints (server/checkpoint.go) and the
  gates (1) to (6) of `SignBridgeCheckpoint`
  (server/server.go).

  The signer never trusts a claimed hash: it sorts the
  validator set, recomputes the set hash, the power
  threshold, the domain separator and the checkpoint, and
  goes on only when every claimed value is the recomputed
  one. Keccak-256 is a parameter throughout.

  Key definitions include:
    * `sortBridgeValidators`
    * `encodeAndHashValidatorSet`
    * `computeDomainSeparator`
    * `encodeValsetCheckpoint`
    * `validateCheckpoint`

  Main results:
    * `validateCheckpoint_ok_iff`
    * `checkpoint_binds_request`
-/

------------------------------------------------------------
-- Canonical Order
------------------------------------------------------------

namespace BridgeSigner

namespace Server

/- One entry of a validator set. -/
structure BridgeValidator where
  ethereumAddress : Bytes
  power : UInt64
  deriving DecidableEq, Repr

/- Power descending, ties broken by ascending address. -/
def BridgeValidator.less
    (v w : BridgeValidator) : Bool :=
  if v.power = w.power then
    decide (v.ethereumAddress < w.ethereumAddress)
  else
    decide (w.power < v.power)

/- The stable sort into the node's canonical order. -/
def sortBridgeValidators
    (vs : List BridgeValidator) : List BridgeValidator :=
  vs.insertionSort (fun v w => w.less v = false)

end Server

end BridgeSigner

------------------------------------------------------------
-- Encoders
------------------------------------------------------------

namespace BridgeSigner

namespace Server

/- The chain whose domain separator is a constant. -/
def mainnetChainID : Bytes :=
  ascii "tellor-1"

/- Right-align into 20 bytes, cropping from the left. -/
def bytesToAddress
    (b : Bytes) : Bytes :=
  zeros (20 - b.length) ++ b.drop (b.length - 20)

/- The two words of one validator. -/
def encodeValidator
    (v : BridgeValidator) : Bytes :=
  Abi.pack
    [.word (Abi.address (bytesToAddress v.ethereumAddress)),
      .word (Abi.uint256 v.power.toNat)]

/-
  The hand-rolled dynamic array: the offset word, the length
  word and the entries.
-/
def encodeValidatorSet
    (vs : List BridgeValidator) : Bytes :=
  let offsetToData := zeros 24 ++ beBytes 8 32
  let lengthEncoded := zeros 24 ++ beBytes 8 vs.length
  offsetToData ++
    (lengthEncoded ++ (vs.map encodeValidator).flatten)

/- The domain separator of the mainnet chain, not hashed. -/
def mainnetSeparator : Bytes :=
  padRight 32 (ascii "checkpoint")

/- What every other chain's domain separator hashes. -/
def encodeDomain
    (chainID : Bytes) : Bytes :=
  Abi.pack [.bytes (ascii "checkpoint"), .bytes chainID]

/- The four words that a checkpoint hashes. -/
def encodeCheckpointWords
    (domainSep : Bytes)
    (powerThreshold validatorTimestamp : UInt64)
    (validatorSetHash : Bytes) : Bytes :=
  Abi.pack
    [.word (padRight 32 domainSep),
      .word (Abi.uint256 powerThreshold.toNat),
      .word (Abi.uint256 validatorTimestamp.toNat),
      .word (padRight 32 validatorSetHash)]

section Hashed

variable (keccak256 : Bytes → Bytes)

/- The encoded set and its hash. -/
def encodeAndHashValidatorSet
    (vs : List BridgeValidator) : Bytes × Bytes :=
  let finalEncoded := encodeValidatorSet vs
  (finalEncoded, keccak256 finalEncoded)

/- The domain separator of a chain. -/
def computeDomainSeparator
    (chainID : Bytes) : Bytes :=
  if chainID = mainnetChainID then
    mainnetSeparator
  else
    keccak256 (encodeDomain chainID)

/- The checkpoint of a validator set. -/
def encodeValsetCheckpoint
    (domainSep : Bytes)
    (powerThreshold validatorTimestamp : UInt64)
    (validatorSetHash : Bytes) : Bytes :=
  keccak256
    (encodeCheckpointWords domainSep powerThreshold
      validatorTimestamp validatorSetHash)

end Hashed

end Server

end BridgeSigner

------------------------------------------------------------
-- Gates (1) To (6)
------------------------------------------------------------

namespace BridgeSigner

namespace Server

structure SignBridgeCheckpointRequest where
  domainSeparator : Bytes
  powerThreshold : UInt64
  validatorTimestamp : UInt64
  validatorSetHash : Bytes
  validatorSet : List BridgeValidator
  blockHeight : UInt64
  checkpointIndex : UInt64
  chainId : Bytes
  expectedCheckpoint : Bytes
  requestId : Bytes
  deriving DecidableEq, Repr

/- Copy the entries, each checked at its own index. -/
def checkedValidators :
    Nat → List BridgeValidator →
      Except Status (List BridgeValidator)
| _, [] => .ok []
| i, v :: vs => do
    ensure (v.ethereumAddress.length = 20)
      (invalidArgument
        ("validator_set[%d].ethereum_address must be " ++
          "20 bytes, got %d")
        [.num i, .num v.ethereumAddress.length])
    ensure (v.power ≠ 0)
      (invalidArgument
        "validator_set[%d].power must be > 0" [.num i])
    let rest ← checkedValidators (i + 1) vs
    .ok (v :: rest)

/- The sum of the powers, in wrapping arithmetic. -/
def totalPower
    (vs : List BridgeValidator) : UInt64 :=
  vs.foldl (fun total v => total + v.power) 0

/- Two thirds of the total power, in wrapping arithmetic. -/
def wantThreshold
    (vs : List BridgeValidator) : UInt64 :=
  totalPower vs * 2 / 3

/- A field that must have exactly 32 bytes. -/
def ensure32
    (field : String)
    (b : Bytes) : Except Status Unit :=
  ensure (b.length = 32)
    (invalidArgument (field ++ " must be 32 bytes, got %d")
      [.num b.length])

/-
  Gates (1) to (6): the recomputed checkpoint when every
  claimed value of the request is the recomputed one.
-/
def validateCheckpoint
    (keccak256 : Bytes → Bytes)
    (selfEVMAddr : Bytes)
    (req : SignBridgeCheckpointRequest) :
    Except Status Bytes := do
  -- (1) Format and range.
  ensure32 "domain_separator" req.domainSeparator
  ensure32 "validator_set_hash" req.validatorSetHash
  ensure32 "expected_checkpoint" req.expectedCheckpoint
  ensure (req.validatorSet ≠ [])
    (invalidArgument "validator_set must not be empty" [])
  ensure (req.chainId ≠ [])
    (invalidArgument "chain_id must not be empty" [])
  let copied ← checkedValidators 0 req.validatorSet
  let vs := sortBridgeValidators copied
  -- (2) The validator-set hash.
  let valsetHash :=
    (encodeAndHashValidatorSet keccak256 vs).2
  ensure (valsetHash = req.validatorSetHash)
    (invalidArgument "validator_set_hash mismatch" [])
  -- (3) The power threshold.
  ensure (wantThreshold vs = req.powerThreshold)
    (invalidArgument
      ("power_threshold mismatch: computed %d, " ++
        "claimed %d")
      [.num (wantThreshold vs).toNat,
        .num req.powerThreshold.toNat])
  -- (4) The domain separator.
  let domainSep :=
    computeDomainSeparator keccak256 req.chainId
  ensure (domainSep = req.domainSeparator)
    (invalidArgument
      "domain_separator mismatch for chain_id %q"
      [.text req.chainId])
  -- (5) The signer is a member of the set.
  ensure
    (vs.any
      (fun v =>
        bytesToAddress v.ethereumAddress == selfEVMAddr))
    ⟨.permissionDenied,
      "signer is not a member of the validator set", []⟩
  -- (6) The checkpoint.
  let checkpoint :=
    encodeValsetCheckpoint keccak256 domainSep
      req.powerThreshold req.validatorTimestamp valsetHash
  ensure (checkpoint = req.expectedCheckpoint)
    (invalidArgument "checkpoint mismatch" [])
  .ok checkpoint

end Server

end BridgeSigner

------------------------------------------------------------
-- What A Valid Request Is
------------------------------------------------------------

namespace BridgeSigner

namespace Server

theorem checkedValidators_ok_iff
    {i : Nat}
    {vs ws : List BridgeValidator} :
    checkedValidators i vs = .ok ws ↔
      ws = vs ∧
        ∀ v ∈ vs,
          v.ethereumAddress.length = 20 ∧ v.power ≠ 0 := by
  induction vs generalizing i ws with
  | nil => simp [checkedValidators, eq_comm]
  | cons v vs ih =>
      simp only [checkedValidators, except_bind_ok_iff,
        ensure_ok_iff, exists_const, ih, List.forall_mem_cons,
        Except.ok.injEq]
      constructor
      · rintro ⟨hAddress, hPower, _, ⟨rfl, hRest⟩, rfl⟩
        exact ⟨rfl, ⟨hAddress, hPower⟩, hRest⟩
      · rintro ⟨rfl, ⟨hAddress, hPower⟩, hRest⟩
        exact ⟨hAddress, hPower, vs, ⟨rfl, hRest⟩, rfl⟩

/-
  Every claimed value of the request is the recomputed one,
  and `c` is its checkpoint.
-/
structure CheckpointRecomputed
    (keccak256 : Bytes → Bytes)
    (selfEVMAddr : Bytes)
    (req : SignBridgeCheckpointRequest)
    (c : Bytes) : Prop where
  separator_length : req.domainSeparator.length = 32
  setHash_length : req.validatorSetHash.length = 32
  expected_length : req.expectedCheckpoint.length = 32
  set_nonempty : req.validatorSet ≠ []
  chain_nonempty : req.chainId ≠ []
  entries :
    ∀ v ∈ req.validatorSet,
      v.ethereumAddress.length = 20 ∧ v.power ≠ 0
  setHash :
    (encodeAndHashValidatorSet keccak256
        (sortBridgeValidators req.validatorSet)).2 =
      req.validatorSetHash
  threshold :
    wantThreshold (sortBridgeValidators req.validatorSet) =
      req.powerThreshold
  separator :
    computeDomainSeparator keccak256 req.chainId =
      req.domainSeparator
  member :
    ∃ v ∈ req.validatorSet,
      bytesToAddress v.ethereumAddress = selfEVMAddr
  checkpoint :
    encodeValsetCheckpoint keccak256 req.domainSeparator
        req.powerThreshold req.validatorTimestamp
        req.validatorSetHash =
      c
  expected : c = req.expectedCheckpoint

theorem sortBridgeValidators_perm
    (vs : List BridgeValidator) :
    (sortBridgeValidators vs).Perm vs :=
  List.perm_insertionSort _ vs

theorem mem_sortBridgeValidators
    {v : BridgeValidator}
    {vs : List BridgeValidator} :
    v ∈ sortBridgeValidators vs ↔ v ∈ vs :=
  (sortBridgeValidators_perm vs).mem_iff

/- The gates let through exactly the recomputed requests. -/
theorem validateCheckpoint_ok_iff
    {keccak256 : Bytes → Bytes}
    {selfEVMAddr : Bytes}
    {req : SignBridgeCheckpointRequest}
    {c : Bytes} :
    validateCheckpoint keccak256 selfEVMAddr req = .ok c ↔
      CheckpointRecomputed keccak256 selfEVMAddr req c := by
  simp only [validateCheckpoint, ensure32,
    except_bind_ok_iff, ensure_ok_iff, exists_const,
    checkedValidators_ok_iff, List.any_eq_true, beq_iff_eq,
    mem_sortBridgeValidators, Except.ok.injEq]
  constructor
  · rintro ⟨hSep, hHash, hExp, hSet, hChain, _,
      ⟨rfl, hEntries⟩, hSetHash, hThreshold, hSeparator,
      hMember, hExpected, rfl⟩
    exact ⟨hSep, hHash, hExp, hSet, hChain, hEntries,
      hSetHash, hThreshold, hSeparator, hMember,
      by rw [← hSeparator, ← hSetHash], hExpected⟩
  · intro h
    have hCheckpoint := h.checkpoint
    rw [← h.separator, ← h.setHash] at hCheckpoint
    exact ⟨h.separator_length, h.setHash_length,
      h.expected_length, h.set_nonempty, h.chain_nonempty,
      _, ⟨rfl, h.entries⟩, h.setHash, h.threshold,
      h.separator, h.member,
      hCheckpoint.trans h.expected, hCheckpoint⟩

theorem CheckpointRecomputed.length
    {keccak256 : Bytes → Bytes}
    {selfEVMAddr c : Bytes}
    {req : SignBridgeCheckpointRequest}
    (h : CheckpointRecomputed keccak256 selfEVMAddr req c) :
    c.length = 32 :=
  h.expected ▸ h.expected_length

end Server

end BridgeSigner

------------------------------------------------------------
-- A Checkpoint Binds Its Request
------------------------------------------------------------

namespace BridgeSigner

namespace Server

theorem bytesToAddress_of_length
    {b : Bytes}
    (hLength : b.length = 20) :
    bytesToAddress b = b := by
  simp [bytesToAddress, hLength, zeros]

theorem encodeValidator_eq
    {v : BridgeValidator}
    (hLength : v.ethereumAddress.length = 20) :
    encodeValidator v =
      Abi.address v.ethereumAddress ++
        Abi.uint256 v.power.toNat := by
  rw [encodeValidator, bytesToAddress_of_length hLength]
  exact (Abi.pack_words
    [Abi.address v.ethereumAddress,
      Abi.uint256 v.power.toNat]).trans (by simp)

theorem length_encodeValidator
    {v : BridgeValidator}
    (hLength : v.ethereumAddress.length = 20) :
    (encodeValidator v).length = 64 := by
  simp [encodeValidator_eq hLength, Abi.address, hLength]

theorem uint64_word_injective
    {m n : UInt64}
    (hEq : Abi.uint256 m.toNat = Abi.uint256 n.toNat) :
    m = n := by
  have hm := m.toNat_lt
  have hn := n.toNat_lt
  exact UInt64.toNat_inj.mp
    (Abi.uint256_injective (by omega) (by omega) hEq)

theorem encodeValidator_injective
    {v w : BridgeValidator}
    (hv : v.ethereumAddress.length = 20)
    (hw : w.ethereumAddress.length = 20)
    (hEq : encodeValidator v = encodeValidator w) :
    v = w := by
  rw [encodeValidator_eq hv, encodeValidator_eq hw] at hEq
  obtain ⟨hAddress, hPower⟩ :=
    List.append_inj hEq (by simp [Abi.address, hv, hw])
  rcases v with ⟨a, p⟩
  rcases w with ⟨b, q⟩
  cases Abi.address_injective hAddress
  cases uint64_word_injective hPower
  rfl

theorem encodeValidatorSet_injective
    {vs ws : List BridgeValidator}
    (hvs : ∀ v ∈ vs, v.ethereumAddress.length = 20)
    (hws : ∀ w ∈ ws, w.ethereumAddress.length = 20)
    (hEq : encodeValidatorSet vs = encodeValidatorSet ws) :
    vs = ws := by
  have hTail := List.append_cancel_left hEq
  obtain ⟨-, hBlocks⟩ := List.append_inj hTail (by simp)
  have hMap :
      vs.map encodeValidator = ws.map encodeValidator := by
    apply flatten_blocks_inj (w := 64) (by decide) _ _ hBlocks
    · simpa using fun v hv =>
        length_encodeValidator (hvs v hv)
    · simpa using fun w hw =>
        length_encodeValidator (hws w hw)
  clear hEq hTail hBlocks
  induction vs generalizing ws with
  | nil => simpa [eq_comm] using hMap
  | cons v vs ih =>
      cases ws with
      | nil => simp at hMap
      | cons w ws =>
          rw [List.map_cons, List.map_cons,
            List.cons.injEq] at hMap
          rw [List.forall_mem_cons] at hvs hws
          rw [encodeValidator_injective hvs.1 hws.1 hMap.1,
            ih hvs.2 hws.2 hMap.2]

theorem encodeDomain_injective
    {a b : Bytes}
    (hEq : encodeDomain a = encodeDomain b) :
    a = b := by
  have hPack :
      Abi.pack
          ([.bytes (ascii "checkpoint")] ++ [.bytes a]) =
        Abi.pack
          ([.bytes (ascii "checkpoint")] ++ [.bytes b]) :=
    hEq
  exact Abi.pack_last_injective hPack

theorem encodeCheckpointWords_injective
    {s s' h h' : Bytes}
    {p p' t t' : UInt64}
    (hs : s.length = 32)
    (hs' : s'.length = 32)
    (hh : h.length = 32)
    (hh' : h'.length = 32)
    (hEq :
      encodeCheckpointWords s p t h =
        encodeCheckpointWords s' p' t' h') :
    s = s' ∧ p = p' ∧ t = t' ∧ h = h' := by
  have hWords :
      ∀ a p t b,
        encodeCheckpointWords a p t b =
          [padRight 32 a, Abi.uint256 p.toNat,
            Abi.uint256 t.toNat, padRight 32 b].flatten :=
    fun a p t b =>
      Abi.pack_words
        [padRight 32 a, Abi.uint256 p.toNat,
          Abi.uint256 t.toNat, padRight 32 b]
  rw [hWords, hWords] at hEq
  have hList :=
    flatten_blocks_inj (w := 32) (by decide) (by simp)
      (by simp) hEq
  simp only [padRight_of_length hs, padRight_of_length hs',
    padRight_of_length hh, padRight_of_length hh',
    List.cons.injEq, and_true] at hList
  rcases hList with ⟨hSep, hPower, hTime, hHash⟩
  exact ⟨hSep, uint64_word_injective hPower,
    uint64_word_injective hTime, hHash⟩

/- No two of the given strings share a hash. -/
def CollisionFree
    (hash : Bytes → Bytes)
    (inputs : List Bytes) : Prop :=
  ∀ a ∈ inputs, ∀ b ∈ inputs, hash a = hash b → a = b

instance
    (hash : Bytes → Bytes)
    (inputs : List Bytes) :
    Decidable (CollisionFree hash inputs) := by
  unfold CollisionFree
  infer_instance

/- The strings hashed for a chain's domain separator. -/
def hashedDomain
    (chainID : Bytes) : List Bytes :=
  if chainID = mainnetChainID then
    []
  else
    [encodeDomain chainID]

/- The strings that the gates hash for a request. -/
def hashedStrings
    (req : SignBridgeCheckpointRequest) : List Bytes :=
  encodeValidatorSet
      (sortBridgeValidators req.validatorSet) ::
    encodeCheckpointWords req.domainSeparator
      req.powerThreshold req.validatorTimestamp
      req.validatorSetHash ::
    hashedDomain req.chainId

/- Chains with one domain separator are one chain. -/
theorem computeDomainSeparator_injective
    {keccak256 : Bytes → Bytes}
    {a b : Bytes}
    (hFree :
      CollisionFree keccak256
        (hashedDomain a ++ hashedDomain b))
    (hMainnet :
      ∀ x ∈ hashedDomain a ++ hashedDomain b,
        keccak256 x ≠ mainnetSeparator)
    (hEq :
      computeDomainSeparator keccak256 a =
        computeDomainSeparator keccak256 b) :
    a = b := by
  unfold computeDomainSeparator at hEq
  by_cases ha : a = mainnetChainID
  · by_cases hb : b = mainnetChainID
    · rw [ha, hb]
    · rw [if_pos ha, if_neg hb] at hEq
      exact absurd hEq.symm
        (hMainnet _ (by simp [hashedDomain, hb]))
  · by_cases hb : b = mainnetChainID
    · rw [if_neg ha, if_pos hb] at hEq
      exact absurd hEq
        (hMainnet _ (by simp [hashedDomain, ha]))
    · rw [if_neg ha, if_neg hb] at hEq
      exact encodeDomain_injective
        (hFree _ (by simp [hashedDomain, ha]) _
          (by simp [hashedDomain, hb]) hEq)

theorem CollisionFree.subset
    {hash : Bytes → Bytes}
    {inputs inputs' : List Bytes}
    (hFree : CollisionFree hash inputs)
    (hSub : inputs' ⊆ inputs) :
    CollisionFree hash inputs' :=
  fun a ha b hb => hFree a (hSub ha) b (hSub hb)

/-
  Two valid requests with one checkpoint agree on the chain,
  the timestamp, the threshold and, up to order, on the
  validator set.
-/
theorem checkpoint_binds_request
    (keccak256 : Bytes → Bytes)
    (selfEVMAddr : Bytes)
    (req req' : SignBridgeCheckpointRequest)
    (c : Bytes)
    (hFree :
      CollisionFree keccak256
        (hashedStrings req ++ hashedStrings req'))
    (hMainnet :
      ∀ b ∈ hashedStrings req ++ hashedStrings req',
        keccak256 b ≠ mainnetSeparator)
    (hValid :
      validateCheckpoint keccak256 selfEVMAddr req = .ok c)
    (hValid' :
      validateCheckpoint keccak256 selfEVMAddr req' =
        .ok c) :
    req.chainId = req'.chainId ∧
      req.validatorTimestamp = req'.validatorTimestamp ∧
        req.powerThreshold = req'.powerThreshold ∧
          (req.validatorSet : Multiset BridgeValidator) =
            (req'.validatorSet :
              Multiset BridgeValidator) := by
  have h := validateCheckpoint_ok_iff.mp hValid
  have h' := validateCheckpoint_ok_iff.mp hValid'
  -- The checkpoint gives the four words back.
  obtain ⟨hSep, hThreshold, hTime, hHash⟩ :=
    encodeCheckpointWords_injective h.separator_length
      h'.separator_length h.setHash_length
      h'.setHash_length
      (hFree _ (by simp [hashedStrings]) _
        (by simp [hashedStrings])
        (h.checkpoint.trans h'.checkpoint.symm))
  have hChain : req.chainId = req'.chainId := by
    have hSub :
        hashedDomain req.chainId ++
            hashedDomain req'.chainId ⊆
          hashedStrings req ++ hashedStrings req' := by
      intro b hb
      rw [List.mem_append] at hb
      simp only [hashedStrings, List.mem_append,
        List.mem_cons]
      rcases hb with hb | hb
      · exact Or.inl (Or.inr (Or.inr hb))
      · exact Or.inr (Or.inr (Or.inr hb))
    refine computeDomainSeparator_injective
      (hFree.subset hSub)
      (fun b hb => hMainnet b (hSub hb)) ?_
    rw [h.separator, h'.separator, hSep]
  have hSet :
      sortBridgeValidators req.validatorSet =
        sortBridgeValidators req'.validatorSet := by
    refine encodeValidatorSet_injective
      (fun v hv =>
        (h.entries v (mem_sortBridgeValidators.mp hv)).1)
      (fun v hv =>
        (h'.entries v (mem_sortBridgeValidators.mp hv)).1)
      (hFree _ (by simp [hashedStrings]) _
        (by simp [hashedStrings]) ?_)
    exact h.setHash.trans (hHash.trans h'.setHash.symm)
  refine ⟨hChain, hTime, hThreshold, ?_⟩
  have hPerm :
      req.validatorSet.Perm req'.validatorSet :=
    (sortBridgeValidators_perm _).symm.trans
      (hSet ▸ sortBridgeValidators_perm _)
  exact Multiset.coe_eq_coe.mpr hPerm

/- The validator set of the node's golden vector. -/
def goldenValidators : List BridgeValidator :=
  [⟨List.replicate 20 0x11, 100⟩,
    ⟨List.replicate 20 0x22, 50⟩,
    ⟨List.replicate 20 0x33, 25⟩]

/- The golden request on the chain `layertest-4`. -/
def goldenRequest : SignBridgeCheckpointRequest where
  domainSeparator := beBytes 32
    0x32db5895e769c8ddfaf31c5af9d7424b4a272a41b772e223d57620dc1936184a
  powerThreshold := 116
  validatorTimestamp := 1700000000000
  validatorSetHash := beBytes 32
    0xb905fe4296342440a843dd0b0bb6f8b280661c90f895419c980d3788d4d5fd7d
  validatorSet := goldenValidators
  blockHeight := 42
  checkpointIndex := 7
  chainId := ascii "layertest-4"
  expectedCheckpoint := beBytes 32
    0xec1f6f55a307b36d69a89e7e2be38dd54959434ade3b98f0711550bda98eb28f
  requestId := ascii "parity-non-mainnet"

/- The golden request on the mainnet chain. -/
def goldenMainnetRequest : SignBridgeCheckpointRequest :=
  { goldenRequest with
    domainSeparator := mainnetSeparator
    chainId := mainnetChainID
    expectedCheckpoint := beBytes 32
      0xab090e41f0bc98246cce8eb74603375dcc3721bc212a6704f2e26980d04ee0f1 }

/- The words of a golden checkpoint, by its separator. -/
def goldenWords
    (domainSep : Bytes) : Bytes :=
  encodeCheckpointWords domainSep 116 1700000000000
    goldenRequest.validatorSetHash

/- Keccak-256 on the strings that the golden requests hash. -/
def goldenKeccak256
    (b : Bytes) : Bytes :=
  if b = encodeValidatorSet goldenValidators then
    goldenRequest.validatorSetHash
  else if b = encodeDomain (ascii "layertest-4") then
    goldenRequest.domainSeparator
  else if b = goldenWords goldenRequest.domainSeparator then
    goldenRequest.expectedCheckpoint
  else if b = goldenWords mainnetSeparator then
    goldenMainnetRequest.expectedCheckpoint
  else
    []

/- The caller's order of the set does not matter. -/
theorem checkpoint_binds_golden_request :
    (goldenRequest.validatorSet :
        Multiset BridgeValidator) =
      (goldenValidators.reverse :
        Multiset BridgeValidator) :=
  (checkpoint_binds_request goldenKeccak256
    (List.replicate 20 0x11) goldenRequest
    { goldenRequest with
      validatorSet := goldenValidators.reverse }
    goldenRequest.expectedCheckpoint
    (by decide +kernel) (by decide +kernel)
    (by decide +kernel) (by decide +kernel)).2.2.2

end Server

end BridgeSigner
