import Mathlib.Data.List.Basic

/-
  Machines with a partial step function, and their runs.

  A machine takes one event at a time; `none` says that the
  event is not enabled in the state. The environment's
  choices (schedules, faults, crashes) are part of the event,
  so a run is a list of events and every machine evaluates.

  Main declarations:
    * `Machine.run`
    * `Machine.Reaches`
    * `Machine.run_invariant`
    * `Machine.run_begins`
    * `Machine.run_invariant_within`
    * `Machine.Simulates.run`
-/

------------------------------------------------------------
-- Machines And Runs
------------------------------------------------------------

namespace BridgeSigner

/- A machine over states `σ` driven by events `ε`. -/
structure Machine (σ ε : Type) where
  step : σ → ε → Option σ

namespace Machine

variable {σ ε : Type}
variable (M : Machine σ ε)

/- Take a list of events, every one of them enabled. -/
def run : σ → List ε → Option σ
| s, [] => some s
| s, e :: es =>
    match M.step s e with
    | none => none
    | some t => run t es

/- The state `t` is reached from `s` by some run. -/
def Reaches
    (s t : σ) : Prop :=
  ∃ es, M.run s es = some t

@[simp] theorem run_nil
    (s : σ) :
    M.run s [] = some s :=
  rfl

theorem run_cons
    (s : σ)
    (e : ε)
    (es : List ε) :
    M.run s (e :: es) =
      (M.step s e).bind (fun t => M.run t es) := by
  cases hStep : M.step s e with
  | none => simp [run, hStep]
  | some t => simp [run, hStep]

/- A run over `es ++ es'` stops in between. -/
theorem run_append
    (s : σ)
    (es es' : List ε) :
    M.run s (es ++ es') =
      (M.run s es).bind (fun t => M.run t es') := by
  induction es generalizing s with
  | nil => rfl
  | cons e es ih =>
      rw [List.cons_append, run_cons, run_cons]
      cases hStep : M.step s e with
      | none => rfl
      | some t => simpa using ih t

theorem run_append_iff
    (s t : σ)
    (es es' : List ε) :
    M.run s (es ++ es') = some t ↔
      ∃ m, M.run s es = some m ∧ M.run m es' = some t := by
  rw [run_append, Option.bind_eq_some_iff]

theorem run_cons_iff
    (s t : σ)
    (e : ε)
    (es : List ε) :
    M.run s (e :: es) = some t ↔
      ∃ m, M.step s e = some m ∧ M.run m es = some t := by
  rw [run_cons, Option.bind_eq_some_iff]

theorem run_singleton
    (s : σ)
    (e : ε) :
    M.run s [e] = M.step s e := by
  rw [run_cons]
  cases M.step s e <;> rfl

theorem Reaches.refl
    (s : σ) :
    M.Reaches s s :=
  ⟨[], rfl⟩

theorem Reaches.trans
    {M : Machine σ ε}
    {s t u : σ}
    (hFirst : M.Reaches s t)
    (hSecond : M.Reaches t u) :
    M.Reaches s u := by
  rcases hFirst with ⟨es, hFirst⟩
  rcases hSecond with ⟨es', hSecond⟩
  exact ⟨es ++ es',
    (M.run_append_iff s u es es').mpr
      ⟨t, hFirst, hSecond⟩⟩

theorem Reaches.single
    {M : Machine σ ε}
    {s t : σ}
    {e : ε}
    (hStep : M.step s e = some t) :
    M.Reaches s t :=
  ⟨[e], by rw [run_singleton, hStep]⟩

end Machine

end BridgeSigner

------------------------------------------------------------
-- Invariants Of Runs
------------------------------------------------------------

namespace BridgeSigner

namespace Machine

variable {σ ε : Type}
variable {M : Machine σ ε}

/- What every step keeps, every run keeps. -/
theorem run_invariant
    {P : σ → Prop}
    (hStep :
      ∀ s e t, M.step s e = some t → P s → P t)
    {s t : σ}
    {es : List ε}
    (hRun : M.run s es = some t)
    (hStart : P s) :
    P t := by
  induction es generalizing s with
  | nil =>
      cases hRun
      exact hStart
  | cons e es ih =>
      rcases (M.run_cons_iff s t e es).mp hRun with
        ⟨m, hHead, hTail⟩
      exact ih hTail (hStep s e m hHead hStart)

theorem Reaches.invariant
    {P : σ → Prop}
    (hStep :
      ∀ s e t, M.step s e = some t → P s → P t)
    {s t : σ}
    (hReach : M.Reaches s t)
    (hStart : P s) :
    P t := by
  rcases hReach with ⟨es, hRun⟩
  exact run_invariant hStep hRun hStart

/- What does not hold at first begins to hold in a step. -/
theorem run_begins
    {P : σ → Prop}
    {s t : σ}
    {es : List ε}
    (hRun : M.run s es = some t)
    (hStart : ¬ P s)
    (hEnd : P t) :
    ∃ es₁ e es₂ a b,
      es = es₁ ++ e :: es₂ ∧ M.run s es₁ = some a ∧
        M.step a e = some b ∧ ¬ P a ∧ P b := by
  induction es generalizing s with
  | nil =>
      cases hRun
      exact absurd hEnd hStart
  | cons e es ih =>
      rcases (M.run_cons_iff s t e es).mp hRun with
        ⟨m, hHead, hTail⟩
      by_cases hm : P m
      · exact ⟨[], e, es, s, m, rfl, rfl, hHead, hStart, hm⟩
      · rcases ih hTail hm with
          ⟨es₁, e', es₂, a, b, hSplit, hFirst, hStep, hRest⟩
        refine ⟨e :: es₁, e', es₂, a, b, ?_, ?_, hStep, hRest⟩
        · rw [hSplit, List.cons_append]
        · exact (M.run_cons_iff s a e es₁).mpr
            ⟨m, hHead, hFirst⟩

/- Every event of the run meets `Q` where it is taken. -/
def Within
    (M : Machine σ ε)
    (Q : σ → ε → Prop) :
    σ → List ε → Prop
| _, [] => True
| s, e :: es =>
    Q s e ∧ ∀ t, M.step s e = some t → Within M Q t es

/- A condition on events alone is met by their members. -/
theorem within_of_forall
    {Q : ε → Prop}
    {es : List ε}
    (hAll : ∀ e ∈ es, Q e)
    (s : σ) :
    M.Within (fun _ e => Q e) s es := by
  induction es generalizing s with
  | nil => trivial
  | cons e es ih =>
      rw [List.forall_mem_cons] at hAll
      exact ⟨hAll.1, fun t _ => ih hAll.2 t⟩

theorem within_append_iff
    {Q : σ → ε → Prop}
    {s : σ}
    {es es' : List ε} :
    M.Within Q s (es ++ es') ↔
      M.Within Q s es ∧
        ∀ t, M.run s es = some t → M.Within Q t es' := by
  induction es generalizing s with
  | nil => simp [Within]
  | cons e es ih =>
      simp only [List.cons_append, Within, ih, and_assoc,
        M.run_cons_iff]
      constructor
      · rintro ⟨hEvent, hRest⟩
        refine ⟨hEvent, fun t ht => (hRest t ht).1, ?_⟩
        rintro t ⟨m, hm, ht⟩
        exact (hRest m hm).2 t ht
      · rintro ⟨hEvent, hFirst, hSecond⟩
        refine ⟨hEvent, fun m hm => ⟨hFirst m hm, ?_⟩⟩
        intro t ht
        exact hSecond t ⟨m, hm, ht⟩

/-
  What every step that meets `Q` keeps, every run whose
  steps all meet `Q` keeps.
-/
theorem run_invariant_within
    {P : σ → Prop}
    {Q : σ → ε → Prop}
    (hStep :
      ∀ s e t, M.step s e = some t → Q s e → P s → P t)
    {s t : σ}
    {es : List ε}
    (hRun : M.run s es = some t)
    (hWithin : M.Within Q s es)
    (hStart : P s) :
    P t := by
  induction es generalizing s with
  | nil =>
      cases hRun
      exact hStart
  | cons e es ih =>
      rcases (M.run_cons_iff s t e es).mp hRun with
        ⟨m, hHead, hTail⟩
      rcases hWithin with ⟨hEvent, hRest⟩
      exact ih hTail (hRest m hHead)
        (hStep s e m hHead hEvent hStart)

end Machine

end BridgeSigner

------------------------------------------------------------
-- Simulation
------------------------------------------------------------

namespace BridgeSigner

namespace Machine

variable {σ ε σ' ε' : Type}

/-
  The invariant `P` is kept by `M`, and under it every step
  of `M` is matched by a run of `N` between related states.
-/
structure Simulates
    (M : Machine σ ε)
    (N : Machine σ' ε')
    (P : σ → Prop)
    (R : σ → σ' → Prop) : Prop where
  keeps : ∀ s e t, M.step s e = some t → P s → P t
  matched :
    ∀ s e t, M.step s e = some t → P s →
      ∀ a, R s a → ∃ b, N.Reaches a b ∧ R t b

/- A simulated run ends where the abstract machine can be. -/
theorem Simulates.run
    {M : Machine σ ε}
    {N : Machine σ' ε'}
    {P : σ → Prop}
    {R : σ → σ' → Prop}
    (hSim : Simulates M N P R)
    {s t : σ}
    {es : List ε}
    {a : σ'}
    (hRun : M.run s es = some t)
    (hStart : P s)
    (hRel : R s a) :
    P t ∧ ∃ b, N.Reaches a b ∧ R t b := by
  induction es generalizing s a with
  | nil =>
      cases hRun
      exact ⟨hStart, a, Reaches.refl N a, hRel⟩
  | cons e es ih =>
      rcases (M.run_cons_iff s t e es).mp hRun with
        ⟨m, hHead, hTail⟩
      rcases hSim.matched s e m hHead hStart a hRel with
        ⟨b, hFirst, hMid⟩
      rcases ih hTail (hSim.keeps s e m hHead hStart)
          hMid with
        ⟨hEnd, c, hRest, hLast⟩
      exact ⟨hEnd, c, hFirst.trans hRest, hLast⟩

end Machine

end BridgeSigner
