import Mathlib.Data.List.Chain
import Mathlib.Data.List.Dedup
import Mathlib.Data.List.Perm.Subperm
import BridgeSigner.Consensus.Primary

/-
  How often the primary role changes hands
  (consensus/primary.go).

  While no release takes effect and the primary is never idle
  for longer than the timeout, the role can only go to an id
  that is preferred to its holder. Each holder then ranks
  strictly before the one it follows, so there are no more
  changes than distinct ids in the preference list.

  Key definitions include:
    * `PrimaryArbiter.results`
    * `PrimaryArbiter.holders`
    * `Steady`

  Main results:
    * `length_le_of_improving`
    * `PrimaryArbiter.perform_steady`
    * `PrimaryArbiter.no_flapping`
-/

------------------------------------------------------------
-- Preference
------------------------------------------------------------

namespace BridgeSigner

namespace Consensus

variable {order : List Bytes}

theorem Prefers.trans
    {a b c : Bytes}
    (hcb : Prefers order c b)
    (hba : Prefers order b a) :
    Prefers order c a := by
  refine ⟨hcb.1, ?_⟩
  rcases hba.2 with hUnlisted | hBefore
  · exact Or.inl hUnlisted
  · rcases hcb.2 with hUnlisted | hBefore'
    · exact absurd hba.1 hUnlisted
    · exact Or.inr (hBefore'.trans hBefore)

theorem Prefers.irrefl
    (a : Bytes) :
    ¬Prefers order a a := by
  rintro ⟨hListed, hUnlisted | hBefore⟩
  · exact hUnlisted hListed
  · exact lt_irrefl _ hBefore

/- Every id is preferred to all the ids before it. -/
def Improving
    (order : List Bytes)
    (ids : List Bytes) : Prop :=
  ids.Pairwise (fun earlier later => Prefers order later earlier)

/- Ids after the first are listed, and none comes twice. -/
theorem length_le_of_improving
    {id : Bytes}
    {ids : List Bytes}
    (hImproving : Improving order (id :: ids)) :
    ids.length ≤ order.dedup.length := by
  rcases List.pairwise_cons.mp hImproving with ⟨hFirst, hRest⟩
  have hDistinct : ids.Nodup := by
    apply hRest.imp
    rintro a b hPrefers rfl
    exact Prefers.irrefl a hPrefers
  have hListed : ids ⊆ order.dedup := by
    intro b hb
    exact List.mem_dedup.mpr (hFirst b hb).1
  exact (List.subperm_of_subset hDistinct hListed).length_le

/- A new holder, preferred to the one before. -/
theorem Improving.cons
    {a b : Bytes}
    {ids : List Bytes}
    (h : Improving order (b :: ids))
    (hba : Prefers order b a) :
    Improving order (a :: b :: ids) := by
  apply List.pairwise_cons.mpr
  refine ⟨?_, h⟩
  intro c hc
  rcases List.mem_cons.mp hc with rfl | hc
  · exact hba
  · exact ((List.pairwise_cons.mp h).1 c hc).trans hba

end Consensus

end BridgeSigner

------------------------------------------------------------
-- Sequences Of Calls
------------------------------------------------------------

namespace BridgeSigner

namespace Consensus

namespace PrimaryArbiter

/- The calls with their results, in order. -/
def results :
    PrimaryArbiter → List ArbiterCall →
      List (ArbiterCall × Bool)
| _, [] => []
| a, call :: calls =>
    (call, (a.perform call).1) ::
      results (a.perform call).2 calls

/- The ids that the role goes to, in order. -/
def holders :
    PrimaryArbiter → List ArbiterCall → List Bytes
| _, [] => []
| a, call :: calls =>
    let a' := (a.perform call).2
    if a'.primary = a.primary then
      holders a' calls
    else
      a'.primary :: holders a' calls

end PrimaryArbiter

/- The time of a request that was allowed. -/
def grantTime : ArbiterCall × Bool → Option Instant
| (.acquire _ _ now, true) => some now
| _ => none

/-
  No release takes effect, and no two consecutive grants are
  more than the timeout apart.
-/
structure Steady
    (timeout : Int)
    (rs : List (ArbiterCall × Bool)) : Prop where
  kept : ∀ id, (.release id, true) ∉ rs
  busy :
    (rs.filterMap grantTime).IsChain
      (fun t u => (u.ns : Int) - t.ns ≤ timeout)

/-
  The empty id stands for no primary: it is not both in the
  list and the id of a request.
-/
def Unambiguous
    (order : List Bytes)
    (calls : List ArbiterCall) : Prop :=
  [] ∈ order → ∀ height now, .acquire [] height now ∉ calls

end Consensus

end BridgeSigner

------------------------------------------------------------
-- One Call
------------------------------------------------------------

namespace BridgeSigner

namespace Consensus

variable {timeout : Int}
variable {order : List Bytes}

/- What is left of a steady sequence after its first call. -/
theorem Steady.tail
    {r : ArbiterCall × Bool}
    {rs : List (ArbiterCall × Bool)}
    (h : Steady timeout (r :: rs)) :
    Steady timeout rs where
  kept := fun id hMem => h.kept id (List.mem_cons_of_mem r hMem)
  busy := by
    have hBusy := h.busy
    rw [List.filterMap_cons] at hBusy
    split at hBusy
    · exact hBusy
    · exact hBusy.tail

theorem Unambiguous.tail
    {call : ArbiterCall}
    {calls : List ArbiterCall}
    (h : Unambiguous order (call :: calls)) :
    Unambiguous order calls :=
  fun hListed height now hMem =>
    h hListed height now (List.mem_cons_of_mem call hMem)

namespace PrimaryArbiter

/- Someone has the role and was last granted at `t`. -/
structure HeldSince
    (timeout : Int)
    (order : List Bytes)
    (t : Instant)
    (a : PrimaryArbiter) : Prop where
  timeout_eq : a.timeout = timeout
  rank_eq : a.rank = rankIds 0 [] order
  held : a.primary ≠ []
  last : a.lastReq = some t

theorem heldSince_elect
    {a : PrimaryArbiter}
    {id : Bytes}
    (hTimeout : a.timeout = timeout)
    (hRank : a.rank = rankIds 0 [] order)
    (hId : id ≠ [])
    (height : Int)
    (now : Instant) :
    HeldSince timeout order now (a.elect id height now) := by
  constructor
  · simpa [elect, grant_eq] using hTimeout
  · simpa [elect, grant_eq] using hRank
  · simpa [elect, grant_eq] using hId
  · simp [elect, grant_eq]

@[simp] theorem elect_primary
    (a : PrimaryArbiter)
    (id : Bytes)
    (height : Int)
    (now : Instant) :
    (a.elect id height now).primary = id := by
  simp [elect, grant_eq]

/- A busy primary loses its role to a preferred id only. -/
theorem HeldSince.granted
    {a : PrimaryArbiter}
    {t : Instant}
    (h : HeldSince timeout order t a)
    {id : Bytes}
    {height : Int}
    {now : Instant}
    (hGranted : (a.acquire id height now).1 = true)
    (hBusy : (now.ns : Int) - t.ns ≤ timeout) :
    id = a.primary ∨ Prefers order id a.primary := by
  rcases (a.acquire_granted_iff id height now).mp hGranted with
    hVacant | hSame | hIdle | ⟨hOutranks, -⟩
  · exact absurd hVacant h.held
  · exact Or.inl hSame.symm
  · rw [h.last, Instant.sub_some, h.timeout_eq] at hIdle
    omega
  · exact Or.inr ((outranks_iff h.rank_eq id).mp hOutranks)

/- A release that does not take effect changes nothing. -/
theorem release_kept
    {a : PrimaryArbiter}
    {id : Bytes}
    {rs : List (ArbiterCall × Bool)}
    (h :
      Steady timeout
        ((.release id, (a.release id).1) :: rs)) :
    (a.release id).2 = a := by
  apply release_refused
  apply Bool.eq_false_iff.mpr
  intro hTrue
  rw [hTrue] at h
  exact h.kept id List.mem_cons_self

/- The grant after an election comes within the timeout. -/
theorem first_grant
    {a : PrimaryArbiter}
    {id : Bytes}
    {height : Int}
    {now : Instant}
    {calls : List ArbiterCall}
    (hEq :
      a.acquire id height now =
        (true, a.elect id height now))
    (h :
      Steady timeout
        (a.results (.acquire id height now :: calls))) :
    ∀ u ∈
        (((a.elect id height now).results
          calls).filterMap grantTime).head?,
      (u.ns : Int) - now.ns ≤ timeout := by
  have hBusy := h.busy
  simp only [results, perform, hEq, List.filterMap_cons,
    grantTime] at hBusy
  exact (List.isChain_cons.mp hBusy).1

end PrimaryArbiter

end Consensus

end BridgeSigner

------------------------------------------------------------
-- Whole Sequences
------------------------------------------------------------

namespace BridgeSigner

namespace Consensus

namespace PrimaryArbiter

variable {timeout : Int}
variable {order : List Bytes}

/-
  The holders from a held state on improve on its primary.
  `hBusy` ties the first grant to the one that `a` remembers.
-/
theorem HeldSince.improving
    {a : PrimaryArbiter}
    {t : Instant}
    {calls : List ArbiterCall}
    (h : HeldSince timeout order t a)
    (hSteady : Steady timeout (a.results calls))
    (hBusy :
      ∀ u ∈ ((a.results calls).filterMap grantTime).head?,
        (u.ns : Int) - t.ns ≤ timeout)
    (hName : Unambiguous order calls) :
    Improving order (a.primary :: a.holders calls) := by
  induction calls generalizing a t with
  | nil => exact List.pairwise_singleton _ _
  | cons call calls ih =>
      have hRest := hSteady.tail
      cases call with
      | release id =>
          have hKept := release_kept hSteady
          simp only [results, perform, hKept] at hRest hBusy
          simp only [holders, perform, hKept, if_true]
          exact ih h hRest hBusy hName.tail
      | acquire id height now =>
          rcases a.acquire_cases id height now with
            hEq | hEq
          · have hNow : (now.ns : Int) - t.ns ≤ timeout := by
              apply hBusy
              simp [results, perform, hEq, grantTime]
            have hGranted :
                (a.acquire id height now).1 = true := by
              rw [hEq]
            have hId : id ≠ [] := by
              rintro rfl
              rcases h.granted hGranted hNow with
                hSame | hPrefers
              · exact h.held hSame.symm
              · exact hName hPrefers.1 height now
                  List.mem_cons_self
            have hNext :=
              ih
                (heldSince_elect h.timeout_eq h.rank_eq hId
                  height now)
                (by simpa [results, perform, hEq] using hRest)
                (first_grant hEq hSteady) hName.tail
            simp only [holders, perform, hEq, elect_primary]
            rw [elect_primary] at hNext
            rcases h.granted hGranted hNow with
              rfl | hPrefers
            · rw [if_pos rfl]
              exact hNext
            · rw [if_neg]
              · exact hNext.cons hPrefers
              · rintro rfl
                exact Prefers.irrefl _ hPrefers
          · simp only [results, perform, hEq] at hRest hBusy
            simp only [holders, perform, hEq, if_true]
            exact ih h hRest hBusy hName.tail

/- The holders from a vacant state on. -/
theorem improving_of_vacant
    {a : PrimaryArbiter}
    {calls : List ArbiterCall}
    (hTimeout : a.timeout = timeout)
    (hRank : a.rank = rankIds 0 [] order)
    (hVacant : a.primary = [])
    (hSteady : Steady timeout (a.results calls))
    (hName : Unambiguous order calls) :
    Improving order (a.holders calls) := by
  induction calls generalizing a with
  | nil => exact List.Pairwise.nil
  | cons call calls ih =>
      have hRest := hSteady.tail
      cases call with
      | release id =>
          have hKept := release_kept hSteady
          simp only [perform, hKept] at hRest
          simp only [holders, perform, hKept, if_true]
          exact ih hTimeout hRank hVacant hRest hName.tail
      | acquire id height now =>
          have hEq :
              a.acquire id height now =
                (true, a.elect id height now) := by
            have hGranted :=
              (a.acquire_granted_iff id height now).mpr
                (Or.inl hVacant)
            rcases a.acquire_cases id height now with
              hEq | hEq
            · exact hEq
            · rw [hEq] at hGranted
              cases hGranted
          simp only [perform, hEq] at hRest
          simp only [holders, perform, hEq, elect_primary,
            hVacant]
          split
          · -- The empty id is granted and elects nobody.
            rename_i hId
            refine ih ?_ ?_ ?_ hRest hName.tail
            · simpa [elect, grant_eq] using hTimeout
            · simpa [elect, grant_eq] using hRank
            · simpa using hId
          · rename_i hId
            have hHeld :=
              heldSince_elect hTimeout hRank hId height now
            have hImproving :=
              hHeld.improving hRest
                (first_grant hEq hSteady) hName.tail
            rwa [elect_primary] at hImproving

/-
  No flapping: with no release that takes effect and no two
  consecutive grants further apart than the timeout, every
  holder of the role ranks strictly before the one it
  follows. After the first election the role changes hands
  at most once for each distinct id of the preference list,
  and never when the list is empty.
-/
theorem no_flapping
    (timeout : Int)
    (order : List Bytes)
    (calls : List ArbiterCall)
    (hSteady :
      Steady timeout
        ((newPreferringPrimaryArbiter timeout order).results
          calls))
    (hName : Unambiguous order calls) :
    let ids :=
      (newPreferringPrimaryArbiter timeout order).holders
        calls
    Improving order ids ∧
      ids.tail.length ≤ order.dedup.length ∧
      (order = [] → ids.tail = []) := by
  have hImproving :
      Improving order
        ((newPreferringPrimaryArbiter timeout order).holders
          calls) :=
    improving_of_vacant rfl rfl rfl hSteady hName
  have hLength :
      ((newPreferringPrimaryArbiter timeout order).holders
          calls).tail.length ≤
        order.dedup.length := by
    cases hIds :
        (newPreferringPrimaryArbiter timeout order).holders
          calls with
    | nil => simp
    | cons id ids =>
        rw [hIds] at hImproving
        exact length_le_of_improving hImproving
  refine ⟨hImproving, hLength, ?_⟩
  rintro rfl
  exact List.eq_nil_of_length_eq_zero (by simpa using hLength)

/- A clock that has just been started. -/
def tick
    (n : Fin 8) : Instant :=
  ⟨n, by omega⟩

/- Requests one tick apart, all of them for height 5. -/
def requests
    (ids : List Bytes) : List ArbiterCall :=
  ids.zipWith (fun id n => .acquire id 5 (tick n))
    [0, 1, 2, 3]

/-
  An unlisted id, the backup and then the preferred target:
  the longest sequence of holders that a list of two allows.
-/
theorem two_targets_change_twice :
    (newPreferringPrimaryArbiter 10 twoTargets).holders
        (requests (ascii "tcp://other:26659" ::
          twoTargets.reverse)) =
      ascii "tcp://other:26659" :: twoTargets.reverse ∧
    Improving twoTargets
      (ascii "tcp://other:26659" :: twoTargets.reverse) := by
  have hHolders :
      (newPreferringPrimaryArbiter 10 twoTargets).holders
          (requests (ascii "tcp://other:26659" ::
            twoTargets.reverse)) =
        ascii "tcp://other:26659" :: twoTargets.reverse := by
    decide
  refine ⟨hHolders, ?_⟩
  have hFlapping :=
    no_flapping 10 twoTargets
      (requests (ascii "tcp://other:26659" ::
        twoTargets.reverse))
      ⟨by simp [requests, results, twoTargets], by decide⟩
      (fun hListed => absurd hListed (by decide))
  simpa only [hHolders] using hFlapping.1

/-
  A list of the empty id alone: the empty id takes the role
  as if it were preferred, and leaves it vacant for the next.
-/
theorem empty_id_flaps :
    let arbiter := newPreferringPrimaryArbiter 10 [[]]
    let calls :=
      requests [ascii "a", [], ascii "b"]
    Steady 10 (arbiter.results calls) ∧
      arbiter.holders calls = [ascii "a", [], ascii "b"] ∧
      ¬Improving [[]] (arbiter.holders calls) ∧
      ([[]] : List Bytes).dedup.length <
        (arbiter.holders calls).tail.length := by
  have hHolders :
      (newPreferringPrimaryArbiter 10 [[]]).holders
          (requests [ascii "a", [], ascii "b"]) =
        [ascii "a", [], ascii "b"] := by
    decide
  refine ⟨⟨by simp [requests, results], by decide⟩, hHolders,
    ?_, ?_⟩
  · rw [hHolders]
    intro hImproving
    have hListed :=
      (List.rel_of_pairwise_cons hImproving
        (List.mem_cons_of_mem _ List.mem_cons_self)).1
    exact absurd hListed (by decide)
  · rw [hHolders]
    decide

end PrimaryArbiter

end Consensus

end BridgeSigner
