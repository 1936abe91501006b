import Mathlib
import BridgeSigner.Foundation.Execution

/-
  Counting over runs.

  A potential bounds the cost of a run: every step pays for
  itself out of the potential, except for the credit that
  its event brings in. The potential of a system of parts is
  the sum over the parts; a step of one part changes one
  summand.

  Key definitions include:
    * `Machine.Pays`

  Main results:
    * `Machine.Pays.run`
    * `sum_range_of_part`
    * `filterMap_set`
-/

------------------------------------------------------------
-- Potentials
------------------------------------------------------------

namespace BridgeSigner

namespace Machine

variable {σ ε : Type}

/-
  Under the invariant `P` the cost of a step is covered by
  the potential it uses up and the credit of its event.
-/
structure Pays
    (M : Machine σ ε)
    (P : σ → Prop)
    (potential : σ → Nat)
    (cost credit : ε → Nat) : Prop where
  keeps : ∀ s e t, M.step s e = some t → P s → P t
  pays :
    ∀ s e t, M.step s e = some t → P s →
      potential t + cost e ≤ potential s + credit e

/- The cost of a run is covered in the same way. -/
theorem Pays.run
    {M : Machine σ ε}
    {P : σ → Prop}
    {potential : σ → Nat}
    {cost credit : ε → Nat}
    (hPays : M.Pays P potential cost credit)
    {s t : σ}
    {es : List ε}
    (hRun : M.run s es = some t)
    (hStart : P s) :
    potential t + (es.map cost).sum ≤
      potential s + (es.map credit).sum := by
  induction es generalizing s with
  | nil =>
      cases hRun
      exact le_refl _
  | cons e es ih =>
      rcases (M.run_cons_iff s t e es).mp hRun with
        ⟨m, hHead, hTail⟩
      have hFirst := hPays.pays s e m hHead hStart
      have hRest := ih hTail (hPays.keeps s e m hHead hStart)
      rw [List.map_cons, List.map_cons, List.sum_cons,
        List.sum_cons]
      omega

end Machine

/- One summand changes, and the others stay. -/
theorem sum_range_of_part
    {n i : Nat}
    {f g : Nat → Nat}
    {cost credit : Nat}
    (hi : i < n)
    (hPart : g i + cost ≤ f i + credit)
    (hOthers : ∀ j, j ≠ i → g j = f j) :
    ∑ j ∈ Finset.range n, g j + cost ≤
      ∑ j ∈ Finset.range n, f j + credit := by
  have hMem : i ∈ Finset.range n := Finset.mem_range.mpr hi
  have hRest :
      ∑ j ∈ (Finset.range n).erase i, g j =
        ∑ j ∈ (Finset.range n).erase i, f j :=
    Finset.sum_congr rfl
      (fun j hj => hOthers j (Finset.ne_of_mem_erase hj))
  have hg := Finset.add_sum_erase _ g hMem
  have hf := Finset.add_sum_erase _ f hMem
  omega

end BridgeSigner

------------------------------------------------------------
-- One Part Of A List
------------------------------------------------------------

namespace BridgeSigner

variable {α β : Type}

/- What is picked out of a list when one entry changes. -/
theorem filterMap_set
    (f : α → Option β)
    {l : List α}
    {i : Nat}
    {a : α}
    (hi : l[i]? = some a)
    (b : α) :
    ((l.set i b).filterMap f : Multiset β) +
        ((f a).toList : Multiset β) =
      (l.filterMap f : Multiset β) +
        ((f b).toList : Multiset β) := by
  induction l generalizing i with
  | nil => cases hi
  | cons x l ih =>
      have hHead :
          ∀ (y : α) (rest : List α),
            ((y :: rest).filterMap f : Multiset β) =
              ((f y).toList : Multiset β) +
                (rest.filterMap f : Multiset β) := by
        intro y rest
        rw [List.filterMap_cons, Multiset.coe_add]
        cases f y <;> rfl
      cases i with
      | zero =>
          cases hi
          rw [List.set_cons_zero, hHead, hHead,
            add_right_comm,
            add_comm ((f b).toList : Multiset β),
            add_right_comm]
      | succ i =>
          have hTail := ih hi
          rw [List.set_cons_succ, hHead, hHead, add_assoc,
            hTail, add_assoc]

end BridgeSigner
