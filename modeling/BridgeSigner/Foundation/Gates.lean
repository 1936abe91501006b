import BridgeSigner.Foundation.Bytes

/-
  Sequences of gates in the error monad.

  A gate passes or returns its error. The lemmas take a
  computation that succeeded apart, one gate at a time.

  Main declarations:
    * `Fallible`
    * `ensure`
    * `ensure_ok_iff`
    * `except_bind_ok_iff`
    * `mapError_ok_iff`
    * `mapError_bind`
-/

------------------------------------------------------------
-- Gates
------------------------------------------------------------

namespace BridgeSigner

/- A result of library code; an error is its text. -/
abbrev Fallible (α : Type) :=
  Except Bytes α

variable {ε ε' α β : Type}

/- Pass when `p` holds, else return the error. -/
def ensure
    (p : Prop)
    [Decidable p]
    (e : ε) : Except ε Unit :=
  if p then .ok () else .error e

theorem ensure_ok_iff
    {p : Prop}
    [Decidable p]
    {e : ε}
    {u : Unit} :
    ensure p e = .ok u ↔ p := by
  by_cases hp : p
  · simp [ensure, hp]
  · simp [ensure, hp]

theorem ok_bind
    (a : α)
    (f : α → Except ε β) :
    (Except.ok a >>= f) = f a :=
  rfl

theorem error_bind
    (e : ε)
    (f : α → Except ε β) :
    (Except.error e >>= f) = .error e :=
  rfl

theorem ensure_pos
    {p : Prop}
    [Decidable p]
    {e : ε}
    (hp : p)
    (f : Unit → Except ε β) :
    (ensure p e >>= f) = f () := by
  rw [ensure, if_pos hp]
  rfl

theorem ensure_neg
    {p : Prop}
    [Decidable p]
    {e : ε}
    (hp : ¬p)
    (f : Unit → Except ε β) :
    (ensure p e >>= f) = .error e := by
  rw [ensure, if_neg hp]
  rfl

theorem except_bind_ok_iff
    {x : Except ε α}
    {f : α → Except ε β}
    {b : β} :
    (x >>= f) = .ok b ↔ ∃ a, x = .ok a ∧ f a = .ok b := by
  cases x with
  | error e => simp [bind, Except.bind]
  | ok a => simp [bind, Except.bind]

theorem except_map_ok_iff
    {x : Except ε α}
    {f : α → β}
    {b : β} :
    x.map f = .ok b ↔ ∃ a, x = .ok a ∧ f a = b := by
  cases x with
  | error e => simp [Except.map]
  | ok a => simp [Except.map]

@[simp] theorem mapError_ensure
    (f : ε → ε')
    (p : Prop)
    [Decidable p]
    (e : ε) :
    (ensure p e).mapError f = ensure p (f e) := by
  unfold ensure
  split
  · rfl
  · rfl

@[simp] theorem mapError_ok
    (f : ε → ε')
    (a : α) :
    (Except.ok a).mapError f = .ok a :=
  rfl

/- The errors of a sequence, mapped gate by gate. -/
theorem mapError_bind
    (f : ε → ε')
    (x : Except ε α)
    (g : α → Except ε β) :
    (x >>= g).mapError f =
      x.mapError f >>= fun a => (g a).mapError f := by
  cases x with
  | error e => rfl
  | ok a => rfl

theorem mapError_map
    (f : ε → ε')
    (g : α → β)
    (x : Except ε α) :
    (x.map g).mapError f = (x.mapError f).map g := by
  cases x with
  | error e => rfl
  | ok a => rfl

theorem mapError_ok_iff
    {f : ε → ε'}
    {r : Except ε α}
    {a : α} :
    r.mapError f = .ok a ↔ r = .ok a := by
  cases r with
  | ok b => simp [Except.mapError]
  | error e => simp [Except.mapError]

end BridgeSigner
