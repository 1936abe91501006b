import BridgeSigner.Server.Handlers

/-
  The validator set of a checkpoint request, as the whole
  handler treats it (server/checkpoint.go and
  `SignBridgeCheckpoint` in server/server.go).

  The canonical order is a total order on the entries, so a
  set has one sorted list whatever order the caller sends it
  in, and the handler cannot tell two orders apart. The power
  threshold is two thirds of the total power in the node's
  integer arithmetic, which wraps around at 64 bits.

  Main results:
    * `sortBridgeValidators_eq_of_perm`
    * `validateCheckpoint_of_perm`
    * `BridgeSignerServer.validator_order_irrelevant`
    * `wantThreshold_toNat`
    * `BridgeSignerServer.accepted_threshold`
-/

------------------------------------------------------------
-- One Sorted List For Each Set
------------------------------------------------------------

namespace BridgeSigner

namespace Server

/- The relation by which the set is sorted. -/
def BridgeValidator.NotAfter
    (v w : BridgeValidator) : Prop :=
  w.less v = false

instance :
    DecidableRel BridgeValidator.NotAfter :=
  fun v w => inferInstanceAs (Decidable (w.less v = false))

namespace BridgeValidator

variable {u v w : BridgeValidator}

theorem notAfter_iff :
    v.NotAfter w ↔
      w.power < v.power ∨
        v.power = w.power ∧
          v.ethereumAddress ≤ w.ethereumAddress := by
  unfold NotAfter less
  by_cases hPower : w.power = v.power
  · simp [hPower, List.not_lt]
  · rw [if_neg hPower, decide_eq_false_iff_not,
      UInt64.not_lt]
    constructor
    · intro hLe
      exact Or.inl (UInt64.lt_of_le_of_ne hLe hPower)
    · rintro (hLt | ⟨hEq, -⟩)
      · exact UInt64.le_of_lt hLt
      · exact absurd hEq.symm hPower

theorem notAfter_total
    (v w : BridgeValidator) :
    v.NotAfter w ∨ w.NotAfter v := by
  rw [notAfter_iff, notAfter_iff]
  rcases Std.lt_trichotomy v.power w.power with
    hLt | hEq | hLt
  · exact Or.inr (Or.inl hLt)
  · rcases List.le_total v.ethereumAddress
        w.ethereumAddress with
      hLe | hLe
    · exact Or.inl (Or.inr ⟨hEq, hLe⟩)
    · exact Or.inr (Or.inr ⟨hEq.symm, hLe⟩)
  · exact Or.inl (Or.inl hLt)

theorem NotAfter.trans
    (huv : u.NotAfter v)
    (hvw : v.NotAfter w) :
    u.NotAfter w := by
  rw [notAfter_iff] at huv hvw ⊢
  rcases huv with hPower | ⟨hPower, hAddress⟩
  · rcases hvw with hPower' | ⟨hPower', -⟩
    · exact Or.inl (UInt64.lt_trans hPower' hPower)
    · exact Or.inl (hPower' ▸ hPower)
  · rcases hvw with hPower' | ⟨hPower', hAddress'⟩
    · exact Or.inl (hPower ▸ hPower')
    · exact Or.inr ⟨hPower.trans hPower',
        List.le_trans hAddress hAddress'⟩

theorem NotAfter.antisymm
    (hvw : v.NotAfter w)
    (hwv : w.NotAfter v) :
    v = w := by
  rw [notAfter_iff] at hvw hwv
  rcases v with ⟨a, p⟩
  rcases w with ⟨b, q⟩
  rcases hvw with hLt | ⟨hPower, hAddress⟩
  · rcases hwv with hLt' | ⟨hPower', -⟩
    · exact absurd hLt' (UInt64.lt_asymm hLt)
    · exact absurd hPower' (UInt64.ne_of_lt hLt)
  · rcases hwv with hLt' | ⟨-, hAddress'⟩
    · exact absurd hPower (UInt64.ne_of_lt hLt')
    · cases hPower
      cases List.le_antisymm hAddress hAddress'
      rfl

instance : Std.Total BridgeValidator.NotAfter :=
  ⟨notAfter_total⟩

instance : IsTrans BridgeValidator BridgeValidator.NotAfter :=
  ⟨fun _ _ _ => NotAfter.trans⟩

instance : Std.Antisymm BridgeValidator.NotAfter :=
  ⟨fun _ _ => NotAfter.antisymm⟩

end BridgeValidator

theorem sortBridgeValidators_sorted
    (vs : List BridgeValidator) :
    (sortBridgeValidators vs).Pairwise
      BridgeValidator.NotAfter :=
  List.pairwise_insertionSort BridgeValidator.NotAfter vs

/- The caller's order is lost in the sort. -/
theorem sortBridgeValidators_eq_of_perm
    {vs ws : List BridgeValidator}
    (hPerm : vs.Perm ws) :
    sortBridgeValidators vs = sortBridgeValidators ws := by
  apply List.Perm.eq_of_pairwise'
    (sortBridgeValidators_sorted vs)
    (sortBridgeValidators_sorted ws)
  exact (sortBridgeValidators_perm vs).trans
    (hPerm.trans (sortBridgeValidators_perm ws).symm)

end Server

end BridgeSigner

------------------------------------------------------------
-- The Gates Do Not See The Order
------------------------------------------------------------

namespace BridgeSigner

namespace Server

/- An entry that the format gate lets through. -/
def BridgeValidator.WellFormed
    (v : BridgeValidator) : Prop :=
  v.ethereumAddress.length = 20 ∧ v.power ≠ 0

instance :
    DecidablePred BridgeValidator.WellFormed :=
  fun v =>
    inferInstanceAs
      (Decidable
        (v.ethereumAddress.length = 20 ∧ v.power ≠ 0))

/-
  The index of the first bad entry is in the message only:
  the code is the same for every one of them.
-/
theorem checkedValidators_code
    (i : Nat)
    (vs : List BridgeValidator) :
    (checkedValidators i vs).mapError Status.code =
      if ∀ v ∈ vs, v.WellFormed then .ok vs
      else .error .invalidArgument := by
  induction vs generalizing i with
  | nil => simp [checkedValidators]
  | cons v vs ih =>
      rw [checkedValidators, mapError_bind, mapError_ensure]
      by_cases hAddress : v.ethereumAddress.length = 20
      · rw [ensure_pos hAddress, mapError_bind,
          mapError_ensure]
        by_cases hPower : v.power ≠ 0
        · rw [ensure_pos hPower, mapError_bind, ih]
          by_cases hRest : ∀ w ∈ vs, w.WellFormed
          · have hAll : ∀ w ∈ v :: vs, w.WellFormed :=
              List.forall_mem_cons.mpr
                ⟨⟨hAddress, hPower⟩, hRest⟩
            rw [if_pos hRest, if_pos hAll]
            rfl
          · rw [if_neg hRest, if_neg]
            · rfl
            · intro hAll
              exact hRest (List.forall_mem_cons.mp hAll).2
        · rw [ensure_neg hPower, if_neg]
          · rfl
          · intro hAll
            exact hPower (hAll v List.mem_cons_self).2
      · rw [ensure_neg hAddress, if_neg]
        · rfl
        · intro hAll
          exact hAddress (hAll v List.mem_cons_self).1

/- The same request with its set in another order. -/
def SignBridgeCheckpointRequest.reorder
    (req : SignBridgeCheckpointRequest)
    (vs : List BridgeValidator) :
    SignBridgeCheckpointRequest :=
  { req with validatorSet := vs }

theorem validateCheckpoint_of_perm
    (keccak256 : Bytes → Bytes)
    (selfEVMAddr : Bytes)
    (req : SignBridgeCheckpointRequest)
    {vs : List BridgeValidator}
    (hPerm : req.validatorSet.Perm vs) :
    (validateCheckpoint keccak256 selfEVMAddr
        (req.reorder vs)).mapError Status.code =
      (validateCheckpoint keccak256 selfEVMAddr
        req).mapError Status.code := by
  have hNil : (vs ≠ []) = (req.validatorSet ≠ []) := by
    rw [ne_eq, ne_eq, ← List.isEmpty_iff, ← List.isEmpty_iff,
      hPerm.isEmpty_eq]
  have hEntries :
      (∀ v ∈ vs, v.WellFormed) =
        ∀ v ∈ req.validatorSet, v.WellFormed :=
    propext (forall_congr' fun v => by rw [hPerm.mem_iff])
  unfold SignBridgeCheckpointRequest.reorder
  simp only [validateCheckpoint, mapError_bind,
    mapError_ensure, mapError_ok, checkedValidators_code,
    ensure32, hNil, hEntries]
  by_cases h : ∀ v ∈ req.validatorSet, v.WellFormed
  · simp only [if_pos h, ok_bind,
      sortBridgeValidators_eq_of_perm hPerm]
  · simp only [if_neg h, error_bind]

end Server

end BridgeSigner

------------------------------------------------------------
-- The Handler Does Not See The Order
------------------------------------------------------------

namespace BridgeSigner

namespace Server

/- What an RPC comes to, with the code of its error only. -/
def visible
    {α : Type}
    (out : Outcome α) :
    Except Code α × CheckpointReplayGuard × Disk :=
  (out.1.mapError Status.code, out.2.guard, out.2.disk)

/- Both are rejected with one code or answered alike. -/
def SameAnswer
    {α : Type}
    (r r' : Except Status α) : Prop :=
  (∃ e e',
      r = .error e ∧ r' = .error e' ∧ e.code = e'.code) ∨
    ∃ a, r = .ok a ∧ r' = .ok a

theorem sameAnswer_of_mapError
    {α : Type}
    {r r' : Except Status α}
    (hEq :
      r.mapError Status.code = r'.mapError Status.code) :
    SameAnswer r r' := by
  cases r with
  | error e =>
      cases r' with
      | error e' =>
          exact Or.inl ⟨e, e', rfl, rfl, Except.error.inj hEq⟩
      | ok a => cases hEq
  | ok a =>
      cases r' with
      | error e' => cases hEq
      | ok a' =>
          exact Or.inr
            ⟨a, rfl, congrArg Except.ok (Except.ok.inj hEq).symm⟩

namespace BridgeSignerServer

variable (srv : BridgeSignerServer)
variable (env : Surroundings)
variable (w : World)

/- After the gates the set is not read again. -/
theorem signBridgeCheckpoint_of_perm
    (req : SignBridgeCheckpointRequest)
    {vs : List BridgeValidator}
    (hPerm : req.validatorSet.Perm vs) :
    visible (srv.signBridgeCheckpoint env w (req.reorder vs)) =
      visible (srv.signBridgeCheckpoint env w req) := by
  have hGates :=
    validateCheckpoint_of_perm srv.lib.keccak256
      srv.selfEVMAddr req hPerm
  unfold signBridgeCheckpoint
  simp only [CheckpointEnv.validate, BridgeSignerServer.env]
  rcases hNew :
      validateCheckpoint srv.lib.keccak256 srv.selfEVMAddr
        (req.reorder vs) with e | c
  · rcases hOld :
        validateCheckpoint srv.lib.keccak256 srv.selfEVMAddr
          req with e' | c'
    · rw [hNew, hOld] at hGates
      have hCode : e.code = e'.code :=
        Except.error.inj hGates
      exact congrArg
        (fun c => (Except.error c, w.guard, w.disk)) hCode
    · rw [hNew, hOld] at hGates
      cases hGates
  · rcases hOld :
        validateCheckpoint srv.lib.keccak256 srv.selfEVMAddr
          req with e' | c'
    · rw [hNew, hOld] at hGates
      cases hGates
    · rw [hNew, hOld] at hGates
      cases Except.ok.inj hGates
      -- One checkpoint: the rest reads the timestamp only.
      have hTime :
          (req.reorder vs).validatorTimestamp =
            req.validatorTimestamp :=
        rfl
      simp only [hTime]
      split
      · rfl
      · rfl
      · unfold signCheckpoint
        split
        · rfl
        · rfl

theorem handle_of_perm
    (req : SignBridgeCheckpointRequest)
    {vs : List BridgeValidator}
    (hPerm : req.validatorSet.Perm vs) :
    visible
        (srv.handle env w
          (.signBridgeCheckpoint (req.reorder vs))) =
      visible
        (srv.handle env w (.signBridgeCheckpoint req)) := by
  have hMethod :
      (Request.signBridgeCheckpoint (req.reorder vs)).method =
        (Request.signBridgeCheckpoint req).method :=
    rfl
  unfold handle
  rw [hMethod]
  split
  · rfl
  · split
    · rfl
    · have hSame :=
        signBridgeCheckpoint_of_perm srv env w req hPerm
      rcases Prod.mk.inj hSame with ⟨hAnswer, hState⟩
      unfold visible dispatch
      simp only [mapError_map, hAnswer]
      exact congrArg (_, ·) hState

/-
  The order of the validator set is irrelevant: from one
  state, a request and the same request with its set in any
  other order are rejected with the same code or get the same
  response, and leave the same guard and the same file.
-/
theorem validator_order_irrelevant
    (req : SignBridgeCheckpointRequest)
    (vs : List BridgeValidator)
    (hPerm : req.validatorSet.Perm vs) :
    let out :=
      srv.handle env w (.signBridgeCheckpoint req)
    let out' :=
      srv.handle env w
        (.signBridgeCheckpoint { req with validatorSet := vs })
    SameAnswer out.1 out'.1 ∧
      out.2.guard = out'.2.guard ∧
      out.2.disk = out'.2.disk := by
  have hVisible := handle_of_perm srv env w req hPerm
  rcases Prod.mk.inj hVisible.symm with ⟨hAnswer, hState⟩
  rcases Prod.mk.inj hState with ⟨hGuard, hDisk⟩
  exact ⟨sameAnswer_of_mapError hAnswer, hGuard, hDisk⟩

/-
  A set of two validators of equal power, one of them the
  fixed key, on the mainnet chain.
-/
def tiedCheckpoint : SignBridgeCheckpointRequest :=
  { goldenMainnetRequest with
    powerThreshold := 0
    validatorSet :=
      [⟨fixedEVMAddr, 0x4000000000000000⟩,
        ⟨List.replicate 20 0x22, 0x4000000000000000⟩]
    validatorSetHash := beBytes 32
      0x24441960f830bd479d0cedcf8ca36fafbdfd002cda174b42ea94c6d9c7a20b17
    expectedCheckpoint := beBytes 32
      0x373d9b189f6314f300d4520ef1a6f4eced199d1ef33ca14b2475cb768a6240d9 }

/- The libraries on what the tied set asks of them. -/
def tiedLibraries : Libraries :=
  { fixedLibraries with
    keccak256 := table
      [(encodeValidatorSet tiedCheckpoint.validatorSet,
          tiedCheckpoint.validatorSetHash),
        (encodeCheckpointWords mainnetSeparator 0
            1700000000000 tiedCheckpoint.validatorSetHash,
          tiedCheckpoint.expectedCheckpoint)]
    sha256 := table
      [(tiedCheckpoint.expectedCheckpoint,
        beBytes 32
          0x80b51c0d81ddab4f8b7d4d89d90bab19d798ce4ffdeed3da0c096266b0e43fbe)] }

def tiedServer : BridgeSignerServer :=
  { fixedServer with lib := tiedLibraries }

/- The signature that the fixed key makes. -/
def tiedSignature : Nat × Nat :=
  (0xa553fb5602adc5bc48861518bac9ac11e7bce53e61d8d524085e8c89c50c554c,
    0x2329e1f72f6dc6262ec91d69409cbd069e767cade35a586483f8fdd442f52318)

def tiedSigning : Surroundings :=
  signing [tiedSignature]

def freshWorld : World :=
  ⟨bareGuard fixedServer.statePath 0, ⟨none, none⟩, []⟩

/- The tied set in the other order is signed as well. -/
theorem tied_order_irrelevant :
    (tiedServer.handle tiedSigning freshWorld
        (.signBridgeCheckpoint
          { tiedCheckpoint with
            validatorSet :=
              tiedCheckpoint.validatorSet.reverse })).1.isOk =
      true := by
  have hSigned :
      (tiedServer.handle tiedSigning freshWorld
        (.signBridgeCheckpoint tiedCheckpoint)).1.isOk =
        true := by
    decide +kernel
  have hSame :=
    (validator_order_irrelevant tiedServer tiedSigning
      freshWorld tiedCheckpoint
      tiedCheckpoint.validatorSet.reverse
      (List.reverse_perm _).symm).1
  rcases hSame with ⟨e, e', hError, -, -⟩ | ⟨r, -, hOk⟩
  · rw [hError] at hSigned
    cases hSigned
  · rw [hOk]
    rfl

end BridgeSignerServer

end Server

end BridgeSigner

------------------------------------------------------------
-- Two Thirds Of The Power
------------------------------------------------------------

namespace BridgeSigner

namespace Server

/- The sum of the powers, as a number without bound. -/
def powerSum
    (vs : List BridgeValidator) : Nat :=
  (vs.map (fun v => v.power.toNat)).sum

theorem powerSum_of_perm
    {vs ws : List BridgeValidator}
    (hPerm : vs.Perm ws) :
    powerSum vs = powerSum ws :=
  (hPerm.map _).sum_nat

/- The running sum of the loop, from any total so far. -/
theorem foldl_power_toNat
    (vs : List BridgeValidator)
    (total : UInt64) :
    (vs.foldl (fun total v => total + v.power) total).toNat =
      (total.toNat + powerSum vs) % 2 ^ 64 := by
  induction vs generalizing total with
  | nil => simp [powerSum]
  | cons v vs ih =>
      rw [List.foldl_cons, ih, UInt64.toNat_add]
      simp only [powerSum, List.map_cons, List.sum_cons]
      omega

theorem totalPower_toNat
    (vs : List BridgeValidator) :
    (totalPower vs).toNat = powerSum vs % 2 ^ 64 := by
  rw [totalPower, foldl_power_toNat]
  simp

/- The doubling wraps around as the sum does. -/
theorem wantThreshold_toNat
    (vs : List BridgeValidator) :
    (wantThreshold vs).toNat =
      2 * powerSum vs % 2 ^ 64 / 3 := by
  rw [wantThreshold, UInt64.toNat_div, UInt64.toNat_mul,
    totalPower_toNat]
  have hTwo : (2 : UInt64).toNat = 2 := rfl
  have hThree : (3 : UInt64).toNat = 3 := rfl
  rw [hTwo, hThree]
  omega

/- The threshold is exact as long as nothing wraps around. -/
theorem wrapped_two_thirds_iff
    (total : Nat) :
    2 * total % 2 ^ 64 / 3 = 2 * total / 3 ↔
      total < 2 ^ 63 := by
  omega

namespace BridgeSignerServer

variable {srv : BridgeSignerServer}
variable {env : Surroundings}
variable {w : World}

/- A response, cached or new, carries the gates' result. -/
theorem signBridgeCheckpoint_ok
    {req : SignBridgeCheckpointRequest}
    {r : SignBridgeCheckpointResponse}
    (hOk : (srv.signBridgeCheckpoint env w req).1 = .ok r) :
    srv.env.validate req = .ok r.checkpoint := by
  unfold signBridgeCheckpoint at hOk
  split at hOk
  · cases hOk
  · rename_i c hGates
    rw [hGates]
    split at hOk
    · simp only [CheckpointRun.lookupReply] at hOk
      split at hOk
      · cases hOk
        rfl
      · cases hOk
    · cases hOk
    · unfold signCheckpoint at hOk
      split at hOk
      · cases hOk
      · cases hOk
        rfl

theorem handle_checkpoint_ok
    {req : SignBridgeCheckpointRequest}
    {r : SignBridgeCheckpointResponse}
    (hOk :
      (srv.handle env w (.signBridgeCheckpoint req)).1 =
        .ok (.signBridgeCheckpoint r)) :
    CheckpointRecomputed srv.lib.keccak256 srv.selfEVMAddr
      req r.checkpoint := by
  have hDirect :
      (srv.signBridgeCheckpoint env w req).1 = .ok r := by
    unfold handle at hOk
    split at hOk
    · cases hOk
    · split at hOk
      · cases hOk
      · unfold dispatch at hOk
        simp only at hOk
        cases hResult :
            (srv.signBridgeCheckpoint env w req).1 with
        | error e =>
            rw [hResult] at hOk
            cases hOk
        | ok r' =>
            rw [hResult] at hOk
            cases hOk
            rfl
  exact validateCheckpoint_ok_iff.mp
    (signBridgeCheckpoint_ok hDirect)

/-
  The threshold bound into an accepted checkpoint is two
  thirds of the total power modulo 2^64, which is two thirds
  of the total power exactly when twice that fits 64 bits.
-/
theorem accepted_threshold
    (req : SignBridgeCheckpointRequest)
    (r : SignBridgeCheckpointResponse)
    (hAccepted :
      (srv.handle env w (.signBridgeCheckpoint req)).1 =
        .ok (.signBridgeCheckpoint r)) :
    r.checkpoint =
        encodeValsetCheckpoint srv.lib.keccak256
          req.domainSeparator req.powerThreshold
          req.validatorTimestamp req.validatorSetHash ∧
      req.powerThreshold.toNat =
        2 * powerSum req.validatorSet % 2 ^ 64 / 3 ∧
      (req.powerThreshold.toNat =
          2 * powerSum req.validatorSet / 3 ↔
        powerSum req.validatorSet < 2 ^ 63) := by
  have h := handle_checkpoint_ok hAccepted
  have hThreshold :
      req.powerThreshold.toNat =
        2 * powerSum req.validatorSet % 2 ^ 64 / 3 := by
    rw [← h.threshold, wantThreshold_toNat,
      powerSum_of_perm (sortBridgeValidators_perm _)]
  refine ⟨h.checkpoint.symm, hThreshold, ?_⟩
  rw [hThreshold]
  exact wrapped_two_thirds_iff _

/- What the backend's signature is answered with. -/
def answered
    (req : SignBridgeCheckpointRequest)
    (sig : Nat × Nat) : SignBridgeCheckpointResponse :=
  ⟨beBytes 32 sig.1 ++ beBytes 32 sig.2,
    req.expectedCheckpoint⟩

/-
  Twice the power of the tied set is 2^64: the threshold wraps
  to zero, and the request is signed.
-/
theorem tied_threshold_wraps :
    (tiedServer.handle tiedSigning freshWorld
          (.signBridgeCheckpoint tiedCheckpoint)).1 =
        .ok (.signBridgeCheckpoint
          (answered tiedCheckpoint tiedSignature)) ∧
      tiedCheckpoint.powerThreshold.toNat ≠
        2 * powerSum tiedCheckpoint.validatorSet / 3 := by
  constructor
  · decide +kernel
  · decide

/- The signature of the fixed key over its own checkpoint. -/
def fixedSignature : Nat × Nat :=
  (0x3ce64dfa1a35b7f385de4d594b4f5cb12ced2aa545313ae732dd0f03b60e5d79,
    0x44a0023542a72e45c41f951cc7da523b8a833ea8d4f7f0770c0e850bd79fa222)

theorem fixed_threshold :
    fixedCheckpoint.powerThreshold.toNat =
      2 * powerSum fixedCheckpoint.validatorSet / 3 := by
  have hAccepted :
      (fixedServer.handle (signing [fixedSignature])
          freshWorld
          (.signBridgeCheckpoint fixedCheckpoint)).1 =
        .ok (.signBridgeCheckpoint
          (answered fixedCheckpoint fixedSignature)) := by
    decide +kernel
  exact (accepted_threshold fixedCheckpoint _
    hAccepted).2.2.mpr (by decide)

end BridgeSignerServer

end Server

end BridgeSigner
