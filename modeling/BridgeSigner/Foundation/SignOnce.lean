import Mathlib.Data.Multiset.UnionInter
import Mathlib.Data.Multiset.Dedup
import Mathlib.Order.Basic
import BridgeSigner.Foundation.Execution

/-
  A durable register that hands out every mark at most once.

  The register keeps a mark and an optional memo in memory
  and on disk. A grant moves the mark up and hands out one
  token for it; a token is used up by one call, whose result
  may be remembered for the current mark, written out, and
  answered with. A crash loses the memory and the tokens.
  An advance may also fail after its write has landed: the
  disk then runs ahead of the memory, and may fall back later.

  Main declarations:
    * `SignOnce.machine`
    * `SignOnce.Consistent`
    * `SignOnce.reaches_consistent`
    * `SignOnce.Consistent.calls_nodup`
    * `SignOnce.Consistent.calls_agree`
    * `SignOnce.Consistent.answers_agree`
-/

------------------------------------------------------------
-- The Register
------------------------------------------------------------

namespace BridgeSigner

namespace SignOnce

/- A mark and what is remembered for it. -/
@[ext] structure Cell (τ π : Type) where
  mark : τ
  memo : Option π
  deriving DecidableEq

/- The register with the history of its uses. -/
structure Register (τ π : Type) where
  memory : Cell τ π
  disk : Cell τ π
  tokens : Multiset τ
  granted : List τ
  calls : List (τ × Option π)
  answers : List (τ × π)

/- What can happen to the register. -/
inductive Op (τ π : Type) where
| grant (t : τ)
| spill (t : τ)
| call (t : τ) (result : Option π)
| remember (p : π)
| flush
| restart
| answer (t : τ) (p : π)

variable {τ π : Type}

/- A register that starts from a cell with its own past. -/
def Register.start
    (c : Cell τ π) : Register τ π where
  memory := c
  disk := c
  tokens := 0
  granted := c.memo.toList.map (fun _ => c.mark)
  calls := c.memo.toList.map (fun p => (c.mark, some p))
  answers := []

namespace Register

variable (r : Register τ π)

/- Move the mark up, in memory and on disk. -/
def grant
    (t : τ) : Register τ π :=
  { r with
    memory := ⟨t, none⟩
    disk := ⟨t, none⟩
    tokens := t ::ₘ r.tokens
    granted := t :: r.granted }

/- Write a higher mark to disk only. -/
def spill
    (t : τ) : Register τ π :=
  { r with disk := ⟨t, none⟩ }

/- Use up the token of a mark. -/
def call
    [DecidableEq τ]
    (t : τ)
    (result : Option π) : Register τ π :=
  { r with
    tokens := r.tokens.erase t
    calls := (t, result) :: r.calls }

/- Remember a result for the current mark. -/
def remember
    (p : π) : Register τ π :=
  { r with memory := ⟨r.memory.mark, some p⟩ }

/- Write the memory to disk. -/
def flush : Register τ π :=
  { r with disk := r.memory }

/- Lose the memory and the tokens. -/
def restart : Register τ π :=
  { r with memory := r.disk, tokens := 0 }

/- Give a result out. -/
def answer
    (t : τ)
    (p : π) : Register τ π :=
  { r with answers := (t, p) :: r.answers }

end Register

variable [LinearOrder τ] [DecidableEq π]

/- One step of the register. -/
def Register.step
    (r : Register τ π) :
    Op τ π → Option (Register τ π)
| .grant t =>
    if r.memory.mark < t then some (r.grant t) else none
| .spill t =>
    if r.memory.mark < t then some (r.spill t) else none
| .call t result =>
    if t ∈ r.tokens then some (r.call t result) else none
| .remember p =>
    if (r.memory.mark, some p) ∈ r.calls then
      some (r.remember p)
    else
      none
| .flush => some r.flush
| .restart => some r.restart
| .answer t p =>
    if (t, some p) ∈ r.calls ∨ r.memory = ⟨t, some p⟩ then
      some (r.answer t p)
    else
      none

/- The register as a machine. -/
def machine : Machine (Register τ π) (Op τ π) where
  step := Register.step

end SignOnce

end BridgeSigner

------------------------------------------------------------
-- Consistency
------------------------------------------------------------

namespace BridgeSigner

namespace SignOnce

variable {τ π : Type}
variable [LinearOrder τ]

/-
  The disk is never behind the memory, and the memory never
  behind a grant; tokens and calls are covered by grants;
  every memo and every answer is the result of a call.
-/
structure Consistent
    (r : Register τ π) : Prop where
  memory_le_disk : r.memory.mark ≤ r.disk.mark
  granted_le : ∀ t ∈ r.granted, t ≤ r.memory.mark
  granted_strict : r.granted.Pairwise (· > ·)
  covered :
    r.tokens + (r.calls.map Prod.fst : Multiset τ) ≤
      (r.granted : Multiset τ)
  memory_memo :
    ∀ p, r.memory.memo = some p →
      (r.memory.mark, some p) ∈ r.calls
  disk_memo :
    ∀ p, r.disk.memo = some p →
      (r.disk.mark, some p) ∈ r.calls
  answered :
    ∀ a ∈ r.answers, (a.1, some a.2) ∈ r.calls

theorem consistent_start
    (c : Cell τ π) :
    Consistent (Register.start c) := by
  rcases c with ⟨mark, memo⟩
  cases memo with
  | none =>
      constructor <;> simp [Register.start]
  | some p =>
      constructor <;> simp [Register.start]

namespace Consistent

variable {r : Register τ π}

theorem granted_nodup
    (h : Consistent r) :
    r.granted.Nodup :=
  h.granted_strict.imp (fun hLt => ne_of_gt hLt)

/- No mark is called twice. -/
theorem calls_nodup
    (h : Consistent r) :
    (r.calls.map Prod.fst).Nodup := by
  have hLe :
      (r.calls.map Prod.fst : Multiset τ) ≤
        (r.granted : Multiset τ) :=
    le_trans (Multiset.le_add_left _ _) h.covered
  exact Multiset.coe_nodup.mp
    (Multiset.nodup_of_le hLe
      (Multiset.coe_nodup.mpr h.granted_nodup))

/- One mark has one call, hence one result. -/
theorem calls_agree
    (h : Consistent r)
    {t : τ}
    {x y : Option π}
    (hx : (t, x) ∈ r.calls)
    (hy : (t, y) ∈ r.calls) :
    x = y := by
  have hPair :=
    List.inj_on_of_nodup_map h.calls_nodup hx hy rfl
  exact congrArg Prod.snd hPair

/- Two answers for one mark are the same answer. -/
theorem answers_agree
    (h : Consistent r)
    {t : τ}
    {p q : π}
    (hp : (t, p) ∈ r.answers)
    (hq : (t, q) ∈ r.answers) :
    p = q :=
  Option.some.inj
    (h.calls_agree (h.answered _ hp) (h.answered _ hq))

/- A called mark is a granted one. -/
theorem granted_of_call
    (h : Consistent r)
    {t : τ}
    {x : Option π}
    (hx : (t, x) ∈ r.calls) :
    t ∈ r.granted := by
  have hLe :
      (r.calls.map Prod.fst : Multiset τ) ≤
        (r.granted : Multiset τ) :=
    le_trans (Multiset.le_add_left _ _) h.covered
  have hMem : t ∈ r.calls.map Prod.fst :=
    List.mem_map.mpr ⟨(t, x), hx, rfl⟩
  exact Multiset.mem_of_le hLe hMem

end Consistent

end SignOnce

end BridgeSigner

------------------------------------------------------------
-- Preservation
------------------------------------------------------------

namespace BridgeSigner

namespace SignOnce

variable {τ π : Type}
variable [LinearOrder τ] [DecidableEq π]
variable {r s : Register τ π}

omit [DecidableEq π] in
private theorem grant_consistent
    {t : τ}
    (h : Consistent r)
    (hLt : r.memory.mark < t) :
    Consistent (r.grant t) where
  memory_le_disk := le_refl t
  granted_le := by
    intro u hu
    rcases List.mem_cons.mp hu with rfl | hu
    · exact le_refl u
    · exact (lt_of_le_of_lt (h.granted_le u hu) hLt).le
  granted_strict :=
    List.pairwise_cons.mpr
      ⟨fun u hu => lt_of_le_of_lt (h.granted_le u hu) hLt,
        h.granted_strict⟩
  covered := by
    have hCons :=
      (Multiset.cons_le_cons_iff t).mpr h.covered
    rw [← Multiset.cons_add] at hCons
    simpa [Register.grant] using hCons
  memory_memo := by
    intro p hp
    cases hp
  disk_memo := by
    intro p hp
    cases hp
  answered := h.answered

omit [DecidableEq π] in
private theorem call_consistent
    {t : τ}
    {x : Option π}
    (h : Consistent r)
    (hToken : t ∈ r.tokens) :
    Consistent (r.call t x) where
  memory_le_disk := h.memory_le_disk
  granted_le := h.granted_le
  granted_strict := h.granted_strict
  covered := by
    -- The call takes the place of the token it uses up.
    have hMove :
        r.tokens.erase t +
            (((t, x) :: r.calls).map Prod.fst :
              Multiset τ) =
          r.tokens +
            (r.calls.map Prod.fst : Multiset τ) := by
      rw [List.map_cons, ← Multiset.cons_coe,
        Multiset.add_cons, ← Multiset.cons_add,
        Multiset.cons_erase hToken]
    exact hMove ▸ h.covered
  memory_memo := fun p hp =>
    List.mem_cons_of_mem _ (h.memory_memo p hp)
  disk_memo := fun p hp =>
    List.mem_cons_of_mem _ (h.disk_memo p hp)
  answered := fun a ha =>
    List.mem_cons_of_mem _ (h.answered a ha)

/- Every step keeps the register consistent. -/
theorem step_consistent
    {op : Op τ π}
    (hStep : r.step op = some s)
    (h : Consistent r) :
    Consistent s := by
  cases op with
  | grant t =>
      simp only [Register.step] at hStep
      split at hStep
      · cases hStep
        exact grant_consistent h ‹_›
      · cases hStep
  | spill t =>
      simp only [Register.step] at hStep
      split at hStep
      · rename_i hLt
        cases hStep
        exact { h with
          memory_le_disk := hLt.le
          disk_memo := by
            intro p hp
            cases hp }
      · cases hStep
  | call t x =>
      simp only [Register.step] at hStep
      split at hStep
      · cases hStep
        exact call_consistent h ‹_›
      · cases hStep
  | remember p =>
      simp only [Register.step] at hStep
      split at hStep
      · rename_i hCalled
        cases hStep
        exact { h with
          memory_memo := by
            intro q hq
            cases hq
            exact hCalled }
      · cases hStep
  | flush =>
      cases hStep
      exact { h with
        memory_le_disk := le_refl _
        disk_memo := h.memory_memo }
  | restart =>
      cases hStep
      exact { h with
        memory_le_disk := le_refl _
        granted_le := fun t ht =>
          (h.granted_le t ht).trans h.memory_le_disk
        covered := by
          simpa [Register.restart] using
            le_trans (Multiset.le_add_left _ _) h.covered
        memory_memo := h.disk_memo }
  | answer t p =>
      simp only [Register.step] at hStep
      split at hStep
      · rename_i hKnown
        cases hStep
        have hCalled : (t, some p) ∈ r.calls := by
          rcases hKnown with hCalled | hMemory
          · exact hCalled
          · have hMemo := h.memory_memo p
            rw [hMemory] at hMemo
            exact hMemo rfl
        exact { h with
          answered := by
            intro a ha
            rcases List.mem_cons.mp ha with rfl | ha
            · exact hCalled
            · exact h.answered a ha }
      · cases hStep

/- Every reachable register is consistent. -/
theorem reaches_consistent
    (hReach : (machine (τ := τ) (π := π)).Reaches r s)
    (h : Consistent r) :
    Consistent s :=
  hReach.invariant (P := Consistent)
    (fun _ _ _ hStep hr => step_consistent hStep hr) h

end SignOnce

end BridgeSigner

------------------------------------------------------------
-- Enabled Steps
------------------------------------------------------------

namespace BridgeSigner

namespace SignOnce

variable {τ π : Type}
variable [LinearOrder τ] [DecidableEq π]
variable (r : Register τ π)

theorem reaches_grant
    {t : τ}
    (hLt : r.memory.mark < t) :
    machine.Reaches r (r.grant t) :=
  Machine.Reaches.single (e := .grant t) (if_pos hLt)

theorem reaches_spill
    {t : τ}
    (hLt : r.memory.mark < t) :
    machine.Reaches r (r.spill t) :=
  Machine.Reaches.single (e := .spill t) (if_pos hLt)

theorem reaches_call
    {t : τ}
    (hToken : t ∈ r.tokens)
    (result : Option π) :
    machine.Reaches r (r.call t result) :=
  Machine.Reaches.single (e := .call t result)
    (if_pos hToken)

theorem reaches_remember
    {p : π}
    (hCalled : (r.memory.mark, some p) ∈ r.calls) :
    machine.Reaches r (r.remember p) :=
  Machine.Reaches.single (e := .remember p)
    (if_pos hCalled)

theorem reaches_flush :
    machine.Reaches r r.flush :=
  Machine.Reaches.single (e := .flush) rfl

theorem reaches_restart :
    machine.Reaches r r.restart :=
  Machine.Reaches.single (e := .restart) rfl

theorem reaches_answer
    {t : τ}
    {p : π}
    (hKnown :
      (t, some p) ∈ r.calls ∨ r.memory = ⟨t, some p⟩) :
    machine.Reaches r (r.answer t p) :=
  Machine.Reaches.single (e := .answer t p) (if_pos hKnown)

end SignOnce

end BridgeSigner
