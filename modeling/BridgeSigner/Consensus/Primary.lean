import BridgeSigner.Foundation.Execution
import BridgeSigner.Foundation.HostPort

/-
  The primary arbiter (consensus/primary.go).

  The arbiter elects one of the dial targets that share a
  validator key. A target may sign when there is no primary,
  when it is the primary, when the primary has been idle for
  longer than the timeout, or when it is preferred to the
  primary and has caught up with the heights granted so far.

  The specification reads the same decisions off the history
  of calls and results alone.

  Key definitions include:
    * `PrimaryArbiter.acquire`
    * `PrimaryArbiter.release`
    * `PrimaryArbiter.machine`
    * `MayAcquire`
    * `hostOf`

  Main results:
    * `PrimaryArbiter.reflects_run`
    * `PrimaryArbiter.acquire_iff_history`
-/

------------------------------------------------------------
-- Time
------------------------------------------------------------

namespace BridgeSigner

namespace Consensus

/- A monotonic clock reading in nanoseconds. -/
structure Instant where
  ns : Nat
  bound : ns < 2 ^ 63
  deriving DecidableEq, Repr

/- The largest duration. -/
def maxDuration : Int :=
  2 ^ 63 - 1

/- The smallest duration. -/
def minDuration : Int :=
  -2 ^ 63

/-
  The time since `u`, saturated to the range of durations.
  The zero time lies further back than any duration reaches.
-/
def Instant.sub
    (t : Instant) :
    Option Instant → Int
| none => maxDuration
| some u =>
    max minDuration (min maxDuration ((t.ns : Int) - u.ns))

/- Readings of one clock never saturate. -/
theorem Instant.sub_some
    (t u : Instant) :
    t.sub (some u) = (t.ns : Int) - u.ns := by
  have ht := t.bound
  have hu := u.bound
  simp only [Instant.sub, maxDuration, minDuration]
  omega

end Consensus

end BridgeSigner

------------------------------------------------------------
-- The Arbiter
------------------------------------------------------------

namespace BridgeSigner

namespace Consensus

/- The arbiter; the empty id stands for no primary. -/
structure PrimaryArbiter where
  timeout : Int
  rank : List (Bytes × Nat)
  primary : Bytes
  lastReq : Option Instant
  maxHeight : Int
  deriving DecidableEq, Repr

/- Rank ids by their first position in the list. -/
def rankIds :
    Nat → List (Bytes × Nat) → List Bytes →
      List (Bytes × Nat)
| _, rank, [] => rank
| i, rank, id :: ids =>
    if (rank.lookup id).isSome then
      rankIds (i + 1) rank ids
    else
      rankIds (i + 1) ((id, i) :: rank) ids

/- An arbiter with a preference order, which may be empty. -/
def newPreferringPrimaryArbiter
    (timeout : Int)
    (preferOrder : List Bytes) : PrimaryArbiter where
  timeout := timeout
  rank := rankIds 0 [] preferOrder
  primary := []
  lastReq := none
  maxHeight := 0

namespace PrimaryArbiter

/- Whether `id` is preferred to the current primary. -/
def outranks
    (a : PrimaryArbiter)
    (id : Bytes) : Bool :=
  if a.rank.length = 0 then
    false
  else
    match a.rank.lookup id with
    | none => false
    | some mine =>
        match a.rank.lookup a.primary with
        | none => true
        | some theirs => decide (mine < theirs)

/- Record the height of a request just allowed. -/
def grant
    (a : PrimaryArbiter)
    (height : Int) : PrimaryArbiter :=
  if a.maxHeight < height then
    { a with maxHeight := height }
  else
    a

/- Give the role to `id` and record the request. -/
def elect
    (a : PrimaryArbiter)
    (id : Bytes)
    (height : Int)
    (now : Instant) : PrimaryArbiter :=
  { a with primary := id, lastReq := some now }.grant height

/- Whether `id` may sign now, and the arbiter afterwards. -/
def acquire
    (a : PrimaryArbiter)
    (id : Bytes)
    (height : Int)
    (now : Instant) : Bool × PrimaryArbiter :=
  if a.primary = id then
    (true, { a with lastReq := some now }.grant height)
  else if a.primary = [] then
    (true, a.elect id height now)
  else if a.timeout < now.sub a.lastReq then
    (true, a.elect id height now)
  -- A preferred target that is still behind is deferred.
  else if a.outranks id && decide (height < a.maxHeight) then
    (false, a)
  else if a.outranks id then
    (true, a.elect id height now)
  else
    (false, a)

/- Give up the role of `id` when its connection is lost. -/
def release
    (a : PrimaryArbiter)
    (id : Bytes) : Bool × PrimaryArbiter :=
  if a.primary ≠ id then
    (false, a)
  else
    (true, { a with primary := [], lastReq := none })

end PrimaryArbiter

/- Strip an optional scheme and an optional port. -/
def hostOf
    (addr : Bytes) : Bytes :=
  if addr = [] then
    []
  else
    let rest := (afterFirst (ascii "://") addr).getD addr
    match splitHostPort rest with
    | .ok (host, _) => host
    | .error _ => rest

/- A host and a port without a scheme lose the port. -/
theorem hostOf_of_splits
    {addr host port : Bytes}
    (hNe : addr ≠ [])
    (hPlain : afterFirst (ascii "://") addr = none)
    (hSplits : splitHostPort addr = .ok (host, port)) :
    hostOf addr = host := by
  rw [hostOf, if_neg hNe, hPlain]
  simp [hSplits]

/- A host and a port behind a scheme lose both. -/
theorem hostOf_of_scheme
    {scheme addr host port : Bytes}
    (hScheme : afterFirst (ascii "://") scheme = none)
    (hSplits : splitHostPort addr = .ok (host, port)) :
    hostOf (scheme ++ (ascii "://" ++ addr)) = host := by
  have hAfter :
      afterFirst (ascii "://")
          (scheme ++ (ascii "://" ++ addr)) =
        some addr :=
    afterFirst_append (c := 58) hScheme (by decide) addr
  have hNe : scheme ++ (ascii "://" ++ addr) ≠ [] := by
    simp [ascii]
  rw [hostOf, if_neg hNe, hAfter]
  simp [hSplits]

/- The host of the current primary. -/
def PrimaryArbiter.primaryHost
    (a : PrimaryArbiter) : Bytes :=
  hostOf a.primary

end Consensus

end BridgeSigner

------------------------------------------------------------
-- Histories
------------------------------------------------------------

namespace BridgeSigner

namespace Consensus

/- A call of the arbiter, with the clock it reads. -/
inductive ArbiterCall where
| acquire (id : Bytes) (height : Int) (now : Instant)
| release (id : Bytes)
  deriving DecidableEq, Repr

def ArbiterCall.id : ArbiterCall → Bytes
| .acquire id _ _ => id
| .release id => id

/- Calls with their results, the newest first. -/
abbrev History :=
  List (ArbiterCall × Bool)

/- A request that was allowed. -/
structure Grant where
  id : Bytes
  height : Int
  time : Instant

/- The latest grant since the last release that took effect. -/
def latestGrant : History → Option Grant
| [] => none
| (.acquire id height now, true) :: _ =>
    some ⟨id, height, now⟩
| (.release _, true) :: _ => none
| _ :: hist => latestGrant hist

/- The greatest height ever granted, and at least zero. -/
def maxGranted : History → Int
| [] => 0
| (.acquire _ height _, true) :: hist =>
    max height (maxGranted hist)
| _ :: hist => maxGranted hist

/- `b` is listed, and `a` is not or is listed later. -/
def Prefers
    (order : List Bytes)
    (b a : Bytes) : Prop :=
  b ∈ order ∧ (a ∉ order ∨ order.idxOf b < order.idxOf a)

/- What the history says about a request of `id`. -/
def MayAcquire
    (timeout : Int)
    (order : List Bytes)
    (hist : History)
    (id : Bytes)
    (height : Int)
    (now : Instant) : Prop :=
  match latestGrant hist with
  | none => True
  | some g =>
      g.id = id ∨
        timeout < (now.ns : Int) - g.time.ns ∨
          (Prefers order id g.id ∧ maxGranted hist ≤ height)

namespace PrimaryArbiter

/- Perform a call. -/
def perform
    (a : PrimaryArbiter) :
    ArbiterCall → Bool × PrimaryArbiter
| .acquire id height now => a.acquire id height now
| .release id => a.release id

/- Calls with ids that are not empty, and their history. -/
def machine :
    Machine (PrimaryArbiter × History) ArbiterCall where
  step := fun s call =>
    if call.id = [] then
      none
    else
      some ((s.1.perform call).2,
        (call, (s.1.perform call).1) :: s.2)

end PrimaryArbiter

end Consensus

end BridgeSigner

------------------------------------------------------------
-- Ranks
------------------------------------------------------------

namespace BridgeSigner

namespace Consensus

/- The rank of an id is its first position in the list. -/
theorem lookup_rankIds
    (i : Nat)
    (rank : List (Bytes × Nat))
    (ids : List Bytes)
    (id : Bytes) :
    (rankIds i rank ids).lookup id =
      match rank.lookup id with
      | some k => some k
      | none =>
          if id ∈ ids then some (i + ids.idxOf id)
          else none := by
  induction ids generalizing i rank with
  | nil =>
      cases hRank : rank.lookup id with
      | none => simp [rankIds, hRank]
      | some k => simp [rankIds, hRank]
  | cons x ids ih =>
      have hShift :
          x ≠ id →
            i + 1 + ids.idxOf id =
              i + (x :: ids).idxOf id := by
        intro hx
        rw [List.idxOf_cons_ne _ hx]
        omega
      rw [rankIds]
      split
      · rename_i hSome
        rw [ih]
        cases hRank : rank.lookup id with
        | some k => rfl
        | none =>
            have hx : x ≠ id := by
              rintro rfl
              simp [hRank] at hSome
            simp [hShift hx, Ne.symm hx]
      · rename_i hNone
        rw [ih, List.lookup_cons]
        by_cases hx : x = id
        · subst hx
          have hRank : rank.lookup x = none :=
            Option.not_isSome_iff_eq_none.mp hNone
          simp [hRank]
        · have hOther : (id == x) = false :=
            beq_eq_false_iff_ne.mpr (Ne.symm hx)
          rw [hOther]
          cases hRank : rank.lookup id with
          | some k => rfl
          | none => simp [Ne.symm hx, hShift hx]

namespace PrimaryArbiter

theorem outranks_iff
    {a : PrimaryArbiter}
    {order : List Bytes}
    (hRank : a.rank = rankIds 0 [] order)
    (id : Bytes) :
    a.outranks id = true ↔ Prefers order id a.primary := by
  have hLookup :
      ∀ x, a.rank.lookup x =
        if x ∈ order then some (order.idxOf x) else none := by
    intro x
    rw [hRank, lookup_rankIds]
    simp
  unfold outranks Prefers
  split
  · rename_i hEmpty
    have hNil : a.rank = [] :=
      List.eq_nil_of_length_eq_zero hEmpty
    have hNot : id ∉ order := by
      intro hMem
      have hId := hLookup id
      rw [hNil, if_pos hMem] at hId
      cases hId
    simp [hNot]
  · rw [hLookup, hLookup]
    by_cases hId : id ∈ order
    · by_cases hPrimary : a.primary ∈ order
      · simp [hId, hPrimary]
      · simp [hId, hPrimary]
    · simp [hId]

end PrimaryArbiter

end Consensus

end BridgeSigner

------------------------------------------------------------
-- Decisions Follow The History
------------------------------------------------------------

namespace BridgeSigner

namespace Consensus

namespace PrimaryArbiter

theorem grant_eq
    (a : PrimaryArbiter)
    (height : Int) :
    a.grant height =
      { a with maxHeight := max height a.maxHeight } := by
  unfold grant
  split
  · rename_i hLt
    rw [max_eq_left hLt.le]
  · rename_i hLe
    rw [max_eq_right (not_lt.mp hLe)]

/- A call either elects its id or changes nothing. -/
theorem acquire_cases
    (a : PrimaryArbiter)
    (id : Bytes)
    (height : Int)
    (now : Instant) :
    a.acquire id height now = (true, a.elect id height now) ∨
      a.acquire id height now = (false, a) := by
  unfold acquire
  split
  · rename_i hPrimary
    left
    rw [elect, ← hPrimary]
  · split
    · exact Or.inl rfl
    · split
      · exact Or.inl rfl
      · split
        · exact Or.inr rfl
        · split
          · exact Or.inl rfl
          · exact Or.inr rfl

/- Whom the arbiter allows to sign. -/
def Grants
    (a : PrimaryArbiter)
    (id : Bytes)
    (height : Int)
    (now : Instant) : Prop :=
  a.primary = [] ∨ a.primary = id ∨
    a.timeout < now.sub a.lastReq ∨
      a.outranks id = true ∧ a.maxHeight ≤ height

theorem acquire_granted_iff
    (a : PrimaryArbiter)
    (id : Bytes)
    (height : Int)
    (now : Instant) :
    (a.acquire id height now).1 = true ↔
      a.Grants id height now := by
  unfold acquire Grants
  by_cases hSame : a.primary = id
  · simp [hSame]
  · by_cases hVacant : a.primary = []
    · rw [if_neg hSame, if_pos hVacant]
      simp [hVacant]
    · by_cases hIdle : a.timeout < now.sub a.lastReq
      · simp [hSame, hVacant, hIdle]
      · cases hRank : a.outranks id with
        | false => simp [hSame, hVacant, hIdle]
        | true =>
            by_cases hBehind : height < a.maxHeight
            · simp [hSame, hVacant, hIdle, hBehind]
            · simp [hSame, hVacant, hIdle, hBehind,
                not_lt.mp hBehind]

/- A refused call changes nothing. -/
theorem acquire_refused
    {a : PrimaryArbiter}
    {id : Bytes}
    {height : Int}
    {now : Instant}
    (hFalse : (a.acquire id height now).1 = false) :
    (a.acquire id height now).2 = a := by
  rcases a.acquire_cases id height now with hEq | hEq
  · rw [hEq] at hFalse
    cases hFalse
  · rw [hEq]

theorem release_refused
    {a : PrimaryArbiter}
    {id : Bytes}
    (hFalse : (a.release id).1 = false) :
    (a.release id).2 = a := by
  unfold release at hFalse ⊢
  split
  · rfl
  · rename_i hPrimary
    rw [if_neg hPrimary] at hFalse
    cases hFalse

/- The state of the arbiter, read off the history. -/
structure Reflects
    (timeout : Int)
    (order : List Bytes)
    (s : PrimaryArbiter × History) : Prop where
  timeout_eq : s.1.timeout = timeout
  rank_eq : s.1.rank = rankIds 0 [] order
  height_eq : s.1.maxHeight = maxGranted s.2
  vacant : latestGrant s.2 = none → s.1.primary = []
  held :
    ∀ g, latestGrant s.2 = some g →
      s.1.primary = g.id ∧ g.id ≠ [] ∧
        s.1.lastReq = some g.time

variable {timeout : Int}
variable {order : List Bytes}

theorem reflects_new :
    Reflects timeout order
      (newPreferringPrimaryArbiter timeout order, []) := by
  constructor <;>
    simp [newPreferringPrimaryArbiter, maxGranted,
      latestGrant]

/- The decision is the one the history calls for. -/
theorem Reflects.acquire_iff
    {s : PrimaryArbiter × History}
    (h : Reflects timeout order s)
    (id : Bytes)
    (height : Int)
    (now : Instant) :
    (s.1.acquire id height now).1 = true ↔
      MayAcquire timeout order s.2 id height now := by
  have hOutranks := outranks_iff h.rank_eq id
  rw [acquire_granted_iff, Grants, MayAcquire]
  cases hLatest : latestGrant s.2 with
  | none => simp [h.vacant hLatest]
  | some g =>
      rcases h.held g hLatest with ⟨hPrimary, hNe, hLast⟩
      rw [hOutranks, hPrimary, hLast, Instant.sub_some,
        h.timeout_eq, h.height_eq]
      simp [hNe]

/- Every call keeps the arbiter and its history in step. -/
theorem reflects_step
    {s t : PrimaryArbiter × History}
    {call : ArbiterCall}
    (hStep : machine.step s call = some t)
    (h : Reflects timeout order s) :
    Reflects timeout order t := by
  simp only [machine] at hStep
  split at hStep
  · cases hStep
  · rename_i hId
    cases hStep
    cases call with
    | acquire id height now =>
        rcases s.1.acquire_cases id height now with
          hEq | hEq
        · simp only [perform, hEq]
          refine ⟨?_, ?_, ?_, ?_, ?_⟩
          · simpa [elect, grant_eq] using h.timeout_eq
          · simpa [elect, grant_eq] using h.rank_eq
          · simp [elect, grant_eq, maxGranted, h.height_eq]
          · simp [latestGrant]
          · rintro g ⟨⟩
            have hNe : id ≠ [] := hId
            simpa [elect, grant_eq] using hNe
        · simp only [perform, hEq]
          exact ⟨h.timeout_eq, h.rank_eq, h.height_eq,
            h.vacant, h.held⟩
    | release id =>
        simp only [perform, release]
        split
        · exact ⟨h.timeout_eq, h.rank_eq, h.height_eq,
            h.vacant, h.held⟩
        · exact ⟨h.timeout_eq, h.rank_eq, h.height_eq,
            fun _ => rfl, by simp [latestGrant]⟩

/- After any calls the arbiter reflects their history. -/
theorem reflects_run
    {calls : List ArbiterCall}
    {s : PrimaryArbiter × History}
    (hRun :
      machine.run
          (newPreferringPrimaryArbiter timeout order, [])
          calls =
        some s) :
    Reflects timeout order s :=
  Machine.run_invariant
    (fun _ _ _ hStep h => reflects_step hStep h) hRun
    reflects_new

/-
  After any calls a request is granted exactly when the
  history of grants and releases allows it, and a refused
  request or release changes nothing.
-/
theorem acquire_iff_history
    (timeout : Int)
    (order : List Bytes)
    (calls : List ArbiterCall)
    (a : PrimaryArbiter)
    (hist : History)
    (hRun :
      machine.run
          (newPreferringPrimaryArbiter timeout order, [])
          calls =
        some (a, hist)) :
    (∀ id height now, id ≠ [] →
      ((a.acquire id height now).1 = true ↔
        MayAcquire timeout order hist id height now)) ∧
      (∀ id height now,
        (a.acquire id height now).1 = false →
          (a.acquire id height now).2 = a) ∧
      ∀ id, (a.release id).1 = false →
        (a.release id).2 = a := by
  have h := reflects_run hRun
  exact ⟨fun id height now _ => h.acquire_iff id height now,
    fun id height now hFalse => acquire_refused hFalse,
    fun id hFalse => release_refused hFalse⟩

/- Two targets; the first one is preferred. -/
def twoTargets : List Bytes :=
  [ascii "tcp://layer:26659", ascii "tcp://layer-backup:26659"]

/-
  The backup signs height 5; at once the preferred target is
  deferred at height 4 and takes the role at height 5.
-/
theorem preferred_target_takes_over :
    ∃ a hist,
      machine.run
          (newPreferringPrimaryArbiter 10 twoTargets, [])
          [.acquire (ascii "tcp://layer-backup:26659") 5
              ⟨0, by decide⟩,
            .acquire (ascii "tcp://layer:26659") 4
              ⟨1, by decide⟩] =
          some (a, hist) ∧
        hist.map Prod.snd = [false, true] ∧
          MayAcquire 10 twoTargets hist
            (ascii "tcp://layer:26659") 5
            ⟨2, by decide⟩ := by
  refine ⟨_, _, rfl, by decide, ?_⟩
  have hDecided := (acquire_iff_history 10 twoTargets
    [.acquire (ascii "tcp://layer-backup:26659") 5
        ⟨0, by decide⟩,
      .acquire (ascii "tcp://layer:26659") 4
        ⟨1, by decide⟩] _ _ rfl).1
    (ascii "tcp://layer:26659") 5 ⟨2, by decide⟩
    (by decide)
  exact hDecided.mp (by decide)

end PrimaryArbiter

end Consensus

end BridgeSigner
