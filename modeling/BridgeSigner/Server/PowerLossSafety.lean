import BridgeSigner.Server.PowerLoss

/-
  What the server keeps when the power goes
  (server/server.go, server/replay_guard.go).

  A run refines the register that hands out every mark once.
  What the state file may hold after a power loss is never
  below a mark that was handed out, but it need not be what
  the last process read: a persist that failed after its
  rename is seen by the next process, and may still be lost.
  The directory of the file is on the disk from the start.

  Key definitions include:
    * `PowerLoss.Covered`
    * `PowerLoss.Follows`
    * `PowerLoss.Stands`

  Main results:
    * `PowerLoss.simulates_signOnce`
    * `PowerLoss.signed_once_through_power_loss`
    * `PowerLoss.answers_agree_through_power_loss`
    * `PowerLoss.state_file_never_falls_behind`
-/

------------------------------------------------------------
-- The Register Behind The Versions
------------------------------------------------------------

namespace BridgeSigner

namespace Server

namespace PowerLoss

open CheckpointRun

/-
  A cell that the disk may hold: at the mark of the register
  or above it, and with a memo only at the mark itself, as
  the result of a call.
-/
structure Above
    (r : CheckpointRegister)
    (c : SignOnce.Cell Nat (Bytes × Bytes)) : Prop where
  mark_le : r.disk.mark ≤ c.mark
  memo :
    ∀ p, c.memo = some p →
      c.mark = r.disk.mark ∧ (c.mark, some p) ∈ r.calls

/- The file loads as a guard with such a cell. -/
def Covered
    (env : CheckpointEnv)
    (r : CheckpointRegister)
    (x : Option File) : Prop :=
  ∃ g, env.Stores ⟨x.map File.data, none⟩ g ∧
    Above r g.cell

/-
  The guard is what the register remembers, or it has read a
  higher mark that nothing was signed at.
-/
def Follows
    (r : CheckpointRegister)
    (c : SignOnce.Cell Nat (Bytes × Bytes)) : Prop :=
  r.memory = c ∨ (c.memo = none ∧ r.memory.mark ≤ c.mark)

variable {ν : Type}

namespace Critical

/- What the guard `g` is to become, for the flight at work. -/
def Intends
    (g : CheckpointReplayGuard)
    (k : Critical ν) : Prop :=
  match k.flight with
  | .checked req _ =>
      g.highWater < req.validatorTimestamp ∧
        k.next = g.advanceTo req.validatorTimestamp
  | .signed req c sig =>
      req.validatorTimestamp = g.highWater ∧
        k.next = g.withMemo c sig
  | _ => False

/- The critical section of a process with the guard `g`. -/
structure Sound
    (env : CheckpointEnv)
    (target : ν)
    (fs : FileSystem ν)
    (calls : List SignRawCall)
    (g : CheckpointReplayGuard)
    (k : Critical ν) : Prop where
  flight : k.flight.Sound env calls
  intends : k.Intends g
  writing : k.writing.Ready k.next.blob fs target

end Critical

/- The register that a state of the server stands for. -/
structure Stands
    (place : Place ν)
    (env : CheckpointEnv)
    (s : State ν)
    (r : CheckpointRegister) : Prop where
  level : r.disk.mark = r.memory.mark
  files :
    s.fs.Holds (place.entry env.statePath) (Covered env r)
  memory :
    ∀ p, s.process = some p →
      env.Owns p.guard ∧ Follows r p.guard.cell
  critical :
    ∀ k, s.critical = some k →
      ∃ p, s.process = some p ∧
        k.Sound env (place.entry env.statePath) s.fs s.calls
          p.guard
  requests : Sound env (s.view place env)
  tokens : r.tokens = tokensOf (s.view place env).flights
  calls : r.calls = s.calls.map SignRawCall.entry
  answers : r.answers = s.replies.filterMap answerOf

variable {place : Place ν}
variable {env : CheckpointEnv}
variable {s : State ν}
variable {r r' : CheckpointRegister}

theorem Above.mono
    {c : SignOnce.Cell Nat (Bytes × Bytes)}
    (h : Above r c)
    (hMark : r'.disk.mark = r.disk.mark)
    (hCalls : r.calls ⊆ r'.calls) :
    Above r' c := by
  refine ⟨hMark.trans_le h.mark_le, ?_⟩
  intro p hp
  rcases h.memo p hp with ⟨hAt, hCalled⟩
  exact ⟨hAt.trans hMark.symm, hCalls hCalled⟩

theorem Covered.mono
    {x : Option File}
    (h : Covered env r x)
    (hMark : r'.disk.mark = r.disk.mark)
    (hCalls : r.calls ⊆ r'.calls) :
    Covered env r' x := by
  rcases h with ⟨g, hStores, hAbove⟩
  exact ⟨g, hStores, hAbove.mono hMark hCalls⟩

/- The written text of a guard loads as that guard. -/
theorem covered_blob
    {g : CheckpointReplayGuard}
    {x : Option File}
    (hg : env.Owns g)
    (hAbove : Above r g.cell)
    (hText : Contains g.blob x) :
    Covered env r x := by
  have hLoads := newCheckpointReplayGuard_blob hg.wellFormed
  refine ⟨g, ⟨hg, ?_⟩, hAbove⟩
  rw [hText]
  rw [← hg.path]
  exact hLoads

theorem Follows.mark_le
    {c : SignOnce.Cell Nat (Bytes × Bytes)}
    (h : Follows r c) :
    r.memory.mark ≤ c.mark := by
  rcases h with rfl | ⟨-, hLe⟩
  · exact Nat.le_refl _
  · exact hLe

/- A guard with a memo is what the register remembers. -/
theorem Follows.eq_of_memo
    {c : SignOnce.Cell Nat (Bytes × Bytes)}
    {p : Bytes × Bytes}
    (h : Follows r c)
    (hMemo : c.memo = some p) :
    r.memory = c := by
  rcases h with hEq | ⟨hNone, -⟩
  · exact hEq
  · rw [hNone] at hMemo
    cases hMemo

/- At a mark that was called, the register is level with it. -/
theorem Follows.mark_eq_of_call
    {c : SignOnce.Cell Nat (Bytes × Bytes)}
    {x : Option (Bytes × Bytes)}
    (h : Follows r c)
    (hr : SignOnce.Consistent r)
    (hCalled : (c.mark, x) ∈ r.calls) :
    r.memory.mark = c.mark :=
  Nat.le_antisymm h.mark_le
    (hr.granted_le _ (hr.granted_of_call hCalled))

namespace Stands

/- What a taken request says about the register. -/
theorem take
    (h : Stands place env s r)
    {f : Flight}
    {g : CheckpointReplayGuard}
    {fs : List Flight}
    (hTake :
      (s.view place env).take f = some (g, fs)) :
    env.Owns g ∧ Follows r g.cell ∧
      r.tokens = tokensOf (f :: fs) := by
  rcases CheckpointRun.State.take_eq_some hTake with
    ⟨all, hProcess, hMem, rfl⟩
  rcases h.memory _ hProcess with ⟨hg, hFollows⟩
  refine ⟨hg, hFollows, ?_⟩
  rw [h.tokens, CheckpointRun.State.flights, hProcess]
  exact tokensOf_erase hMem

/- A signed request's result is a call of the register. -/
theorem called_of_signed
    (h : Stands place env s r)
    {req : SignBridgeCheckpointRequest}
    {c sig : Bytes}
    (hf : (Flight.signed req c sig).Sound env s.calls) :
    (req.validatorTimestamp.toNat, some (c, sig)) ∈
      r.calls := by
  rw [h.calls]
  refine List.mem_map.mpr ⟨_, hf.2.2, ?_⟩
  have hSig : checkedSignature (.ok sig) = .ok sig :=
    checkedSignature_ok_iff.mpr ⟨rfl, hf.2.1⟩
  simp [SignRawCall.entry, hSig]

/- A successful reply is an answer of the register. -/
theorem answer_of_reply
    (h : Stands place env s r)
    {x :
      SignBridgeCheckpointRequest ×
        Except Status SignBridgeCheckpointResponse}
    (hx : x ∈ s.replies)
    {a : SignBridgeCheckpointResponse}
    (ha : x.2 = .ok a) :
    (x.1.validatorTimestamp.toNat,
        (a.checkpoint, a.signature)) ∈ r.answers := by
  rw [h.answers]
  refine List.mem_filterMap.mpr ⟨x, hx, ?_⟩
  rcases x with ⟨req, reply⟩
  cases ha
  rfl

/- The guard that is written may be found on the disk. -/
theorem next_above
    (h : Stands place env s r)
    (hr : SignOnce.Consistent r)
    {p : Process}
    {k : Critical ν}
    (hProcess : s.process = some p)
    (hk :
      k.Sound env (place.entry env.statePath) s.fs s.calls
        p.guard) :
    env.Owns k.next ∧ Above r k.next.cell := by
  rcases h.memory p hProcess with ⟨hg, hFollows⟩
  rcases k with ⟨flight, next, writing⟩
  have hFlight := hk.flight
  have hIntends := hk.intends
  cases flight with
  | checked req c =>
      rcases hIntends with ⟨hLt, rfl⟩
      have hMark :
          r.memory.mark < req.validatorTimestamp.toNat :=
        hFollows.mark_le.trans_lt
          (UInt64.lt_iff_toNat_lt.mp hLt)
      refine ⟨hg.advanceTo _, ?_, ?_⟩
      · rw [h.level]
        exact hMark.le
      · intro p hp
        cases hp
  | signed req c sig =>
      rcases hIntends with ⟨hMark, rfl⟩
      have hCalled := h.called_of_signed hFlight
      rw [hMark] at hCalled
      have hLevel :=
        hFollows.mark_eq_of_call hr hCalled
      have hc : c.length = 32 :=
        (validateCheckpoint_ok_iff.mp hFlight.1).length
      refine ⟨hg.withMemo hc hFlight.2.1, ?_, ?_⟩
      · rw [h.level, hLevel]
        exact Nat.le_refl _
      · intro p hp
        cases hp
        rw [h.level, hLevel]
        exact ⟨rfl, hCalled⟩
  | advanced req c => exact absurd hIntends id
  | refused req c e => exact absurd hIntends id

end Stands

end PowerLoss

end Server

end BridgeSigner

------------------------------------------------------------
-- Requests That Write Nothing
------------------------------------------------------------

namespace BridgeSigner

namespace Server

namespace PowerLoss

open CheckpointRun

variable {ν : Type}
variable {place : Place ν}
variable {env : CheckpointEnv}
variable {s : State ν}
variable {r r' : CheckpointRegister}

namespace Stands

/- The versions stay covered by a register that goes on. -/
theorem covered
    (h : Stands place env s r)
    (hMark : r'.disk.mark = r.disk.mark)
    (hCalls : r.calls ⊆ r'.calls) :
    s.fs.Holds (place.entry env.statePath)
      (Covered env r') :=
  h.files.mono (fun _ hx => hx.mono hMark hCalls)

/- A section under way is that of the process there is. -/
theorem critical_at
    (h : Stands place env s r)
    {p : Process}
    (hProcess : s.process = some p)
    {k : Critical ν}
    (hk : s.critical = some k) :
    k.Sound env (place.entry env.statePath) s.fs s.calls
      p.guard := by
  rcases h.critical k hk with ⟨q, hq, hSound⟩
  rw [hProcess] at hq
  cases hq
  exact hSound

/- Without a process there is no critical section. -/
theorem critical_none
    (h : Stands place env s r)
    (hProcess : s.process = none) :
    s.critical = none := by
  cases hk : s.critical with
  | none => rfl
  | some k =>
      rcases h.critical k hk with ⟨q, hq, -⟩
      rw [hProcess] at hq
      cases hq

end Stands

/- Calls of the backend do not disturb a section. -/
theorem Critical.Sound.called
    {target : ν}
    {fs : FileSystem ν}
    {calls : List SignRawCall}
    {g : CheckpointReplayGuard}
    {k : Critical ν}
    (hk : k.Sound env target fs calls g)
    (call : SignRawCall) :
    k.Sound env target fs (call :: calls) g :=
  ⟨hk.flight.mono (List.subset_cons_self _ _), hk.intends,
    hk.writing⟩

theorem arrive_matched
    (h : Stands place env s r)
    {req : SignBridgeCheckpointRequest}
    {c : Bytes}
    {p : Process}
    (hProcess : s.process = some p)
    (hValid : env.validate req = .ok c) :
    Stands place env
      (s.adopt
        ((s.view place env).resume (s.disk place env) p.guard
          (.checked req c :: p.inflight))) r where
  level := h.level
  files := h.files
  memory := by
    intro q hq
    cases hq
    exact h.memory p hProcess
  critical := fun k hk => ⟨_, rfl, h.critical_at hProcess hk⟩
  requests := by
    apply h.requests.resume_cons (f := .checked req c) hValid
    intro f hf
    apply h.requests.flights
    rw [CheckpointRun.State.flights, State.view, hProcess]
    exact hf
  tokens := by
    have hTokens := h.tokens
    rw [CheckpointRun.State.flights, State.view, hProcess]
      at hTokens
    exact hTokens
  calls := h.calls
  answers := h.answers

/- A lookup finds what the register remembers. -/
theorem lookup_matched
    (h : Stands place env s r)
    (hFree : s.critical = none)
    {req : SignBridgeCheckpointRequest}
    {c : Bytes}
    {e : GuardError}
    {g : CheckpointReplayGuard}
    {fs : List Flight}
    (hTake :
      (s.view place env).take (.refused req c e) =
        some (g, fs))
    (hSound :
      Sound env
        (((s.view place env).resume (s.disk place env) g
          fs).reply req (lookupReply g req c e))) :
    ∃ r', SignOnce.machine.Reaches r r' ∧
      Stands place env
        (s.adopt
          (((s.view place env).resume (s.disk place env) g
            fs).reply req (lookupReply g req c e))) r' := by
  rcases h.take hTake with ⟨hg, hFollows, hTokens⟩
  have hMemory :
      ∀ q, some (⟨g, fs⟩ : Process) = some q →
        env.Owns q.guard ∧ Follows r q.guard.cell := by
    intro q hq
    cases hq
    exact ⟨hg, hFollows⟩
  have hNone :
      ∀ k, s.critical = some k → False := by
    intro k hk
    rw [hFree] at hk
    cases hk
  cases hCached :
      g.cachedSignature req.validatorTimestamp c with
  | some sig =>
      rcases (g.cachedSignature_eq_some hg.wellFormed
          _ _ _).mp hCached with
        ⟨hMark, hMemo⟩
      have hKnown :
          r.memory =
            ⟨req.validatorTimestamp.toNat,
              some (c, sig)⟩ := by
        rw [hFollows.eq_of_memo hMemo,
          CheckpointReplayGuard.cell, hMark, hMemo]
      refine ⟨_, SignOnce.reaches_answer r (Or.inr hKnown),
        h.level, h.covered rfl (List.Subset.refl _), hMemory,
        fun k hk => (hNone k hk).elim, hSound, hTokens,
        h.calls, ?_⟩
      simp only [SignOnce.Register.answer, h.answers,
        lookupReply, hCached]
      rfl
  | none =>
      refine ⟨r, .refl _ r, h.level, h.files, hMemory,
        fun k hk => (hNone k hk).elim, hSound, hTokens,
        h.calls, ?_⟩
      rw [h.answers]
      simp only [lookupReply, hCached]
      rfl

/- The backend is called with the token of the request. -/
theorem signRaw_matched
    (h : Stands place env s r)
    {req : SignBridgeCheckpointRequest}
    {c : Bytes}
    {g : CheckpointReplayGuard}
    {fs : List Flight}
    (hTake :
      (s.view place env).take (.advanced req c) =
        some (g, fs))
    (result : SignRawResult)
    (hSound :
      Sound env
        (((s.view place env).called env req c
          result).afterSignRaw req c g fs
            (checkedSignature result))) :
    ∃ r', SignOnce.machine.Reaches r r' ∧
      Stands place env
        (s.adopt
          (((s.view place env).called env req c
            result).afterSignRaw req c g fs
              (checkedSignature result))) r' := by
  rcases h.take hTake with ⟨hg, hFollows, hTokens⟩
  rcases CheckpointRun.State.take_eq_some hTake with
    ⟨all, hProcess, -, -⟩
  let call : SignRawCall :=
    ⟨req.validatorTimestamp, c, env.sha256 c, result⟩
  have hToken :
      r.tokens =
        req.validatorTimestamp.toNat ::ₘ tokensOf fs :=
    hTokens
  have hReach :=
    SignOnce.reaches_call r
      (t := req.validatorTimestamp.toNat)
      (by rw [hToken]; exact Multiset.mem_cons_self _ _)
      call.entry.2
  have hErase :
      r.tokens.erase req.validatorTimestamp.toNat =
        tokensOf fs := by
    rw [hToken, Multiset.erase_cons_head]
  have hCalls :
      (req.validatorTimestamp.toNat, call.entry.2) ::
          r.calls =
        (call :: s.calls).map SignRawCall.entry := by
    rw [h.calls]
    rfl
  have hCritical :
      ∀ k, s.critical = some k →
        k.Sound env (place.entry env.statePath) s.fs
          (call :: s.calls) g :=
    fun k hk => (h.critical_at hProcess hk).called call
  refine ⟨_, hReach, ?_⟩
  unfold CheckpointRun.State.afterSignRaw at hSound ⊢
  split at hSound
  · refine ⟨h.level, h.covered rfl
        (List.subset_cons_self _ _), ?_,
      fun k hk => ⟨_, rfl, hCritical k hk⟩, hSound, hErase,
      hCalls, h.answers⟩
    intro q hq
    cases hq
    exact ⟨hg, hFollows⟩
  · refine ⟨h.level, h.covered rfl
        (List.subset_cons_self _ _), ?_,
      fun k hk => ⟨_, rfl, hCritical k hk⟩, hSound, hErase,
      hCalls, h.answers⟩
    intro q hq
    cases hq
    exact ⟨hg, hFollows⟩

/-
  A start reads one of the versions. A memo found there is
  remembered again; a higher mark is only followed.
-/
theorem restart_matched
    (h : Stands place env s r)
    {g : CheckpointReplayGuard}
    (hProcess : s.process = none)
    (hLoad :
      newCheckpointReplayGuard env.statePath
          (s.disk place env).read =
        .ok g)
    (hSound :
      Sound env
        ((s.view place env).resume (s.disk place env) g
          [])) :
    ∃ r', SignOnce.machine.Reaches r r' ∧
      Stands place env
        (s.adopt
          ((s.view place env).resume (s.disk place env) g
            [])) r' := by
  rcases h.files.read with ⟨g', hStores, hAbove⟩
  have hSame : g' = g :=
    Except.ok.inj (hStores.loads.symm.trans hLoad)
  subst hSame
  have hTokens := h.tokens
  rw [CheckpointRun.State.flights, State.view, hProcess]
    at hTokens
  have hCritical :
      ∀ k, s.critical = some k → False := by
    intro k hk
    rw [h.critical_none hProcess] at hk
    cases hk
  cases hMemo : g'.cell.memo with
  | none =>
      refine ⟨r, .refl _ r, h.level, h.files, ?_,
        fun k hk => (hCritical k hk).elim, hSound, hTokens,
        h.calls, h.answers⟩
      intro q hq
      cases hq
      refine ⟨hStores.owned, Or.inr ⟨hMemo, ?_⟩⟩
      rw [← h.level]
      exact hAbove.mark_le
  | some m =>
      rcases hAbove.memo m hMemo with ⟨hMark, hCalled⟩
      have hAt : g'.cell.mark = r.memory.mark :=
        hMark.trans h.level
      refine ⟨_, SignOnce.reaches_remember r (hAt ▸ hCalled),
        h.level, h.covered rfl (List.Subset.refl _), ?_,
        fun k hk => (hCritical k hk).elim, hSound, hTokens,
        h.calls, h.answers⟩
      intro q hq
      cases hq
      refine ⟨hStores.owned, Or.inl ?_⟩
      exact SignOnce.Cell.ext hAt.symm hMemo.symm

theorem handle_matched
    (h : Stands place env s r)
    {e : CheckpointRun.Event}
    {run : CheckpointRun.State}
    (hAllows : s.allows e = true)
    (hStep :
      CheckpointRun.step env (s.view place env) e =
        some run) :
    ∃ r', SignOnce.machine.Reaches r r' ∧
      Stands place env (s.adopt run) r' := by
  have hSound := step_sound hStep h.requests
  cases CheckpointRun.step_transition hStep with
  | turnedAway hProcess hInvalid =>
      exact ⟨r, .refl _ r, h.level, h.files, h.memory,
        h.critical, hSound, h.tokens, h.calls, h.answers⟩
  | arrive hProcess hValid =>
      exact ⟨r, .refl _ r, arrive_matched h hProcess hValid⟩
  | lookup hTake =>
      exact lookup_matched h (Option.isNone_iff_eq_none.mp
        hAllows) hTake hSound
  | signRaw hTake =>
      exact signRaw_matched h hTake _ hSound
  | restart hProcess hLoad =>
      exact restart_matched h hProcess hLoad hSound
  | advance hTake => cases hAllows
  | record hTake => cases hAllows
  | crash hProcess => cases hAllows
  | crashAdvance hTake hLt => cases hAllows
  | crashRecord hTake hMark => cases hAllows

end PowerLoss

end Server

end BridgeSigner

------------------------------------------------------------
-- Critical Sections
------------------------------------------------------------

namespace BridgeSigner

namespace Server

namespace PowerLoss

open CheckpointRun

variable {ν : Type}
variable {place : Place ν}
variable {env : CheckpointEnv}
variable {s : State ν}
variable {r : CheckpointRegister}

/- The guard of this server wants to persist a higher mark. -/
theorem advancePersists_iff
    {g : CheckpointReplayGuard}
    (hg : env.Owns g)
    (ts : UInt64) :
    advancePersists g ts = true ↔ g.highWater < ts := by
  simp [advancePersists, hg.wellFormed.loaded,
    hg.wellFormed.path]

theorem recorded_eq
    (g : CheckpointReplayGuard)
    {c sig : Bytes}
    (hc : c.length = 32)
    (hSig : sig.length = 64) :
    recorded g c sig = g.withMemo c sig := by
  have hCheckpoint : c ≠ [] :=
    List.ne_nil_of_length_pos (by omega)
  have hSignature : sig ≠ [] :=
    List.ne_nil_of_length_pos (by omega)
  simp [recorded, CheckpointReplayGuard.appendNil,
    CheckpointReplayGuard.withMemo, hCheckpoint, hSignature]

/- A request without a token enters its section. -/
theorem lock_matched
    (h : Stands place env s r)
    {f : Flight}
    {g next : CheckpointReplayGuard}
    {fs : List Flight}
    (hTake : (s.view place env).take f = some (g, fs))
    (hToken : f.token = none)
    (hIntends :
      (⟨f, next, .mkdirAll⟩ : Critical ν).Intends g) :
    Stands place env (s.lock g fs f next) r := by
  rcases h.take hTake with ⟨hg, hFollows, hTokens⟩
  rcases h.requests.take hTake with ⟨hf, hfs⟩
  refine ⟨h.level, h.files, ?_, ?_,
    h.requests.resume hfs _ g, ?_, h.calls, h.answers⟩
  · intro q hq
    cases hq
    exact ⟨hg, hFollows⟩
  · intro k hk
    cases hk
    exact ⟨_, rfl, hf, hIntends, trivial⟩
  · rw [hTokens, tokensOf, List.filterMap_cons, hToken]
    rfl

/- A timestamp at or below the mark is refused at once. -/
theorem refuse_matched
    (h : Stands place env s r)
    (hFree : s.critical = none)
    {req : SignBridgeCheckpointRequest}
    {c : Bytes}
    {g : CheckpointReplayGuard}
    {fs : List Flight}
    (hTake :
      (s.view place env).take (.checked req c) =
        some (g, fs))
    (hPersists :
      advancePersists g req.validatorTimestamp = false) :
    Stands place env
      (s.adopt
        ((s.view place env).afterAdvance req c fs
          (g.checkAndAdvance req.validatorTimestamp
            (s.disk place env) none))) r := by
  rcases h.take hTake with ⟨hg, hFollows, hTokens⟩
  rcases h.requests.take hTake with ⟨hf, hfs⟩
  have hNot : ¬ g.highWater < req.validatorTimestamp := by
    rw [← advancePersists_iff hg, hPersists]
    exact Bool.false_ne_true
  rcases g.checkAndAdvance_cases hg.wellFormed
      req.validatorTimestamp (s.disk place env) none with
    ⟨-, hEq⟩ | ⟨hLt, -⟩ | ⟨op, hLt, -⟩
  · rw [hEq]
    refine ⟨h.level, h.files, ?_, ?_,
      h.requests.resume_cons (f := .refused req c _) hf hfs
        _ g, hTokens, h.calls, h.answers⟩
    · intro q hq
      cases hq
      exact ⟨hg, hFollows⟩
    · intro k hk
      rw [State.adopt, hFree] at hk
      cases hk
  · exact absurd hLt hNot
  · exact absurd hLt hNot

/- A result for a mark that has moved on is only returned. -/
theorem pass_matched
    (h : Stands place env s r)
    (hFree : s.critical = none)
    {req : SignBridgeCheckpointRequest}
    {c sig : Bytes}
    {g : CheckpointReplayGuard}
    {fs : List Flight}
    (hTake :
      (s.view place env).take (.signed req c sig) =
        some (g, fs))
    (hPast :
      ¬ (req.validatorTimestamp = g.highWater ∧
        g.statePath ≠ [])) :
    ∃ r', SignOnce.machine.Reaches r r' ∧
      Stands place env
        (s.adopt
          ((s.view place env).afterRecord req c sig fs
            (g.recordSignature req.validatorTimestamp c sig
              (s.disk place env) none))) r' := by
  rcases h.take hTake with ⟨hg, hFollows, hTokens⟩
  rcases h.requests.take hTake with ⟨hf, hfs⟩
  have hOther : req.validatorTimestamp ≠ g.highWater :=
    fun hMark => hPast ⟨hMark, hg.wellFormed.path⟩
  have hEq :
      g.recordSignature req.validatorTimestamp c sig
          (s.disk place env) none =
        (none, g, s.disk place env) := by
    rw [CheckpointReplayGuard.recordSignature,
      CheckpointReplayGuard.recordSignatureBy,
      if_pos hOther]
  rw [hEq]
  refine ⟨_, SignOnce.reaches_answer r
      (Or.inl (h.called_of_signed hf)),
    h.level, h.covered rfl (List.Subset.refl _), ?_, ?_,
    (h.requests.resume hfs _ g).reply ?_, hTokens, h.calls,
    ?_⟩
  · intro q hq
    cases hq
    exact ⟨hg, hFollows⟩
  · intro k hk
    rw [State.adopt, hFree] at hk
    cases hk
  · intro a ha
    cases ha
    exact hf.1
  · simp only [SignOnce.Register.answer, h.answers]
    rfl

/- The open requests, while one of them has the mutex. -/
theorem Stands.inflight
    (h : Stands place env s r)
    {p : Process}
    (hProcess : s.process = some p) :
    (∀ f ∈ p.inflight, f.Sound env s.calls) ∧
      r.tokens = tokensOf p.inflight := by
  have hFlights :
      (s.view place env).flights = p.inflight := by
    rw [CheckpointRun.State.flights, State.view, hProcess]
  rw [h.tokens, ← hFlights]
  exact ⟨h.requests.flights, rfl⟩

/- Whatever the files are, the requests are sound. -/
theorem Stands.unlocked
    (h : Stands place env s r)
    (fs : FileSystem ν) :
    Sound env ((s.unlock fs).view place env) :=
  ⟨h.requests.flights, h.requests.digests,
    h.requests.replies⟩

theorem adopt_sound
    {run : CheckpointRun.State}
    (hs : Sound env run) :
    Sound env ((s.adopt run).view place env) :=
  ⟨hs.flights, hs.digests, hs.replies⟩

/- A persisted advance grants the timestamp. -/
theorem granted_matched
    (h : Stands place env s r)
    {p : Process}
    (hProcess : s.process = some p)
    {req : SignBridgeCheckpointRequest}
    {c : Bytes}
    (hValid : env.validate req = .ok c)
    (hLt : p.guard.highWater < req.validatorTimestamp)
    {fs : FileSystem ν}
    {d : Disk}
    (hDone :
      fs.Holds (place.entry env.statePath)
        (Contains
          (p.guard.advanceTo req.validatorTimestamp).blob)) :
    ∃ r', SignOnce.machine.Reaches r r' ∧
      Stands place env
        ((s.unlock fs).adopt
          (((s.unlock fs).view place env).resume d
            (p.guard.advanceTo req.validatorTimestamp)
            (.advanced req c :: p.inflight))) r' := by
  rcases h.memory p hProcess with ⟨hg, hFollows⟩
  have hNew := hg.advanceTo req.validatorTimestamp
  have hMark :
      r.memory.mark < req.validatorTimestamp.toNat :=
    hFollows.mark_le.trans_lt
      (UInt64.lt_iff_toNat_lt.mp hLt)
  rcases h.inflight hProcess with ⟨hfs, hTokens⟩
  refine ⟨_, SignOnce.reaches_grant r hMark, rfl, ?_, ?_, ?_,
    adopt_sound ((h.unlocked fs).resume_cons
      (f := .advanced req c) hValid hfs d _), ?_,
    h.calls, h.answers⟩
  · refine hDone.mono (fun x hx =>
      covered_blob hNew ⟨Nat.le_refl _, ?_⟩ hx)
    intro m hm
    cases hm
  · intro q hq
    cases hq
    exact ⟨hNew, Or.inl rfl⟩
  · intro k hk
    cases hk
  · simp only [SignOnce.Register.grant, hTokens]
    rfl

/- A write that failed leaves the guard as it was. -/
theorem rolledBack_matched
    (h : Stands place env s r)
    {p : Process}
    (hProcess : s.process = some p)
    {fs : FileSystem ν}
    (hFiles :
      fs.Holds (place.entry env.statePath) (Covered env r))
    {req : SignBridgeCheckpointRequest}
    {e : Status}
    {d : Disk} :
    Stands place env
      ((s.unlock fs).adopt
        ((((s.unlock fs).view place env).resume d p.guard
          p.inflight).reply req (.error e))) r := by
  rcases h.inflight hProcess with ⟨hfs, hTokens⟩
  refine ⟨h.level, hFiles, ?_, ?_,
    adopt_sound (((h.unlocked fs).resume hfs d _).reply ?_),
    hTokens, h.calls, h.answers⟩
  · intro q hq
    cases hq
    exact h.memory p hProcess
  · intro k hk
    cases hk
  · intro a ha
    cases ha

/- A record is kept in memory, however its write ended. -/
theorem recorded_matched
    (h : Stands place env s r)
    (hr : SignOnce.Consistent r)
    {p : Process}
    (hProcess : s.process = some p)
    {req : SignBridgeCheckpointRequest}
    {c sig : Bytes}
    (hFlight : (Flight.signed req c sig).Sound env s.calls)
    (hMark : req.validatorTimestamp = p.guard.highWater)
    {fs : FileSystem ν}
    (hFiles :
      fs.Holds (place.entry env.statePath) (Covered env r))
    {d : Disk} :
    ∃ r', SignOnce.machine.Reaches r r' ∧
      Stands place env
        ((s.unlock fs).adopt
          ((((s.unlock fs).view place env).resume d
            (p.guard.withMemo c sig) p.inflight).reply req
              (.ok ⟨sig, c⟩))) r' := by
  rcases h.memory p hProcess with ⟨hg, hFollows⟩
  have hCalled := h.called_of_signed hFlight
  have hAt :
      (p.guard.cell.mark, some (c, sig)) ∈ r.calls := by
    rw [hMark] at hCalled
    exact hCalled
  have hLevel := hFollows.mark_eq_of_call hr hAt
  have hc : c.length = 32 :=
    (validateCheckpoint_ok_iff.mp hFlight.1).length
  rcases h.inflight hProcess with ⟨hfs, hTokens⟩
  refine ⟨_,
    (SignOnce.reaches_remember r (hLevel ▸ hAt)).trans
      (SignOnce.reaches_answer _ (Or.inl hCalled)),
    h.level, ?_, ?_, ?_,
    adopt_sound (((h.unlocked fs).resume hfs d _).reply ?_),
    hTokens, h.calls, ?_⟩
  · exact hFiles.mono (fun _ hx =>
      hx.mono rfl (List.Subset.refl _))
  · intro q hq
    cases hq
    refine ⟨hg.withMemo hc hFlight.2.1, Or.inl ?_⟩
    exact SignOnce.Cell.ext hLevel rfl
  · intro k hk
    cases hk
  · intro a ha
    cases ha
    exact hFlight.1
  · simp only [SignOnce.Register.answer,
      SignOnce.Register.remember, h.answers]
    rfl

variable [DecidableEq ν]

/- A call of the write under way. -/
theorem persist_matched
    (hPlace : place.Suits env.statePath)
    (h : Stands place env s r)
    (hr : SignOnce.Consistent r)
    {p : Process}
    {k : Critical ν}
    (hProcess : s.process = some p)
    (hCritical : s.critical = some k)
    {fault : Bool}
    {n : Nat}
    {fs : FileSystem ν}
    {progress : Progress ν}
    (hCall :
      writeBytesAtomicStep place k.next.statePath
          k.next.blob s.fs fault n k.writing =
        some (fs, progress)) :
    fs.Holds (place.entry env.statePath) (Covered env r) ∧
      progress.Ready k.next.blob fs
        (place.entry env.statePath) := by
  have hk := h.critical_at hProcess hCritical
  rcases h.next_above hr hProcess hk with ⟨hOwns, hAbove⟩
  rw [hOwns.path] at hCall
  exact writeBytesAtomicStep_holds hPlace h.files
    (fun _ => covered_blob hOwns hAbove rfl) hk.writing hCall

theorem finish_matched
    (hPlace : place.Suits env.statePath)
    (h : Stands place env s r)
    (hr : SignOnce.Consistent r)
    {p : Process}
    {k : Critical ν}
    (hProcess : s.process = some p)
    (hCritical : s.critical = some k)
    {fault : Bool}
    {n : Nat}
    {fs : FileSystem ν}
    {result : Option FileOp}
    (hCall :
      writeBytesAtomicStep place k.next.statePath
          k.next.blob s.fs fault n k.writing =
        some (fs, .returned result)) :
    ∃ r', SignOnce.machine.Reaches r r' ∧
      Stands place env
        (finish place env (s.unlock fs) p k result) r' := by
  rcases persist_matched hPlace h hr hProcess hCritical
      hCall with
    ⟨hFiles, hDone⟩
  have hk := h.critical_at hProcess hCritical
  rcases k with ⟨flight, next, writing⟩
  have hFlight := hk.flight
  have hIntends := hk.intends
  cases flight with
  | checked req c =>
      rcases hIntends with ⟨hLt, rfl⟩
      cases result with
      | none =>
          exact granted_matched h hProcess hFlight hLt
            (hDone rfl)
      | some op =>
          exact ⟨r, .refl _ r,
            rolledBack_matched h hProcess hFiles⟩
  | signed req c sig =>
      rcases hIntends with ⟨hMark, rfl⟩
      exact recorded_matched h hr hProcess hFlight hMark
        hFiles
  | advanced req c => exact absurd hIntends id
  | refused req c e => exact absurd hIntends id

end PowerLoss

end Server

end BridgeSigner

------------------------------------------------------------
-- The Server Refines The Register
------------------------------------------------------------

namespace BridgeSigner

namespace Server

namespace PowerLoss

open CheckpointRun

variable {ν : Type}
variable {place : Place ν}
variable {env : CheckpointEnv}
variable {s : State ν}
variable {r : CheckpointRegister}

/-
  The process is gone, with the tokens of its requests; the
  versions are as far as they were.
-/
theorem die_matched
    (h : Stands place env s r)
    {fs : FileSystem ν}
    (hFiles :
      fs.Holds (place.entry env.statePath)
        (Covered env r)) :
    Stands place env (s.die fs) r.restart where
  level := rfl
  files :=
    hFiles.mono (fun _ hx =>
      hx.mono rfl (List.Subset.refl _))
  memory := by
    intro p hp
    cases hp
  critical := by
    intro k hk
    cases hk
  requests :=
    ⟨by simp [State.die, State.view,
        CheckpointRun.State.flights],
      h.requests.digests, h.requests.replies⟩
  tokens := rfl
  calls := h.calls
  answers := h.answers

/- Where there never was a state file. -/
theorem stands_initial
    (hPath : env.statePath ≠ [])
    {fs : FileSystem ν}
    (hFresh : fs.Vacant (place.entry env.statePath)) :
    Stands place env (State.initial fs)
      (SignOnce.Register.start ⟨0, none⟩) where
  level := rfl
  files := by
    apply hFresh.holds
    refine ⟨_, CheckpointEnv.stores_bare hPath rfl,
      Nat.le_refl _, ?_⟩
    intro p hp
    cases hp
  memory := by
    intro p hp
    cases hp
  critical := by
    intro k hk
    cases hk
  requests := by
    constructor <;>
      simp [State.initial, State.view,
        CheckpointRun.State.flights]
  tokens := rfl
  calls := rfl
  answers := rfl

variable [DecidableEq ν]

/- Others leave the state file and the section be. -/
theorem other_matched
    (h : Stands place env s r)
    {op : FileSystem.Op ν}
    (hSpares :
      s.spares (place.entry env.statePath) op = true) :
    Stands place env { s with fs := op.apply s.fs } r := by
  rcases Bool.and_eq_true_iff.mp hSpares with
    ⟨hTarget, hTemp⟩
  have hSpared := FileSystem.Op.spared hTarget
  refine ⟨h.level, h.files.spared hSpared, h.memory, ?_,
    ⟨h.requests.flights, h.requests.digests,
      h.requests.replies⟩, h.tokens, h.calls, h.answers⟩
  intro k hk
  rcases h.critical k hk with ⟨p, hProcess, hSound⟩
  refine ⟨p, hProcess, hSound.flight, hSound.intends,
    hSound.writing.other ?_ hSpared⟩
  intro tmp ino hAt hMade
  have hSection : s.critical = some k := hk
  rw [hSection, Option.bind_some, hAt] at hTemp
  exact FileSystem.Op.undisturbed hMade hTemp

theorem transition_matched
    (hPlace : place.Suits env.statePath)
    (h : Stands place env s r)
    (hr : SignOnce.Consistent r)
    {e : Event ν}
    {t : State ν}
    (hStep : Transition place env s e t) :
    ∃ r', SignOnce.machine.Reaches r r' ∧
      Stands place env t r' := by
  cases hStep with
  | handle hAllows hStep =>
      exact handle_matched h hAllows hStep
  | advanceLock hFree hTake hPersists =>
      have hLt :=
        (advancePersists_iff (h.take hTake).1 _).mp hPersists
      exact ⟨r, .refl _ r,
        lock_matched h hTake rfl ⟨hLt, rfl⟩⟩
  | advance hFree hTake hPersists =>
      exact ⟨r, .refl _ r,
        refuse_matched h hFree hTake hPersists⟩
  | recordLock hFree hTake hMark =>
      have hf := (h.requests.take hTake).1
      have hc :=
        (validateCheckpoint_ok_iff.mp hf.1).length
      exact ⟨r, .refl _ r,
        lock_matched h hTake rfl
          ⟨hMark, recorded_eq _ hc hf.2.1⟩⟩
  | record hFree hTake hPast =>
      exact pass_matched h hFree hTake hPast
  | persist hProcess hCritical hCall =>
      rcases persist_matched hPlace h hr hProcess hCritical
          hCall with
        ⟨hFiles, hReady⟩
      refine ⟨r, .refl _ r, h.level, hFiles, h.memory, ?_,
        ⟨h.requests.flights, h.requests.digests,
          h.requests.replies⟩, h.tokens, h.calls, h.answers⟩
      intro k hk
      have hSound := h.critical_at hProcess hCritical
      cases hk
      exact ⟨_, hProcess, hSound.flight, hSound.intends,
        hReady⟩
  | finish hProcess hCritical hCall =>
      exact finish_matched hPlace h hr hProcess hCritical
        hCall
  | kill =>
      exact ⟨_, SignOnce.reaches_restart r,
        die_matched h h.files⟩
  | powerLoss pick lost =>
      exact ⟨_, SignOnce.reaches_restart r,
        die_matched h (h.files.powerLoss pick lost)⟩
  | other hSpares =>
      exact ⟨r, .refl _ r, other_matched h hSpares⟩

/- Every event is a run of the register. -/
theorem simulates_signOnce
    (hPlace : place.Suits env.statePath) :
    Machine.Simulates (machine place env) SignOnce.machine
      (fun _ => True)
      (fun s r => SignOnce.Consistent r ∧
        Stands place env s r) where
  keeps := fun _ _ _ _ _ => trivial
  matched := by
    rintro s e t hStep - r ⟨hr, h⟩
    rcases transition_matched hPlace h hr
        (step_transition hStep) with
      ⟨r', hReach, h'⟩
    exact ⟨r', hReach,
      SignOnce.reaches_consistent hReach hr, h'⟩

theorem run_stands
    (hPath : env.statePath ≠ [])
    (hPlace : place.Suits env.statePath)
    {fs : FileSystem ν}
    (hFresh : fs.Vacant (place.entry env.statePath))
    {es : List (Event ν)}
    {t : State ν}
    (hRun :
      (machine place env).run (State.initial fs) es =
        some t) :
    ∃ r, SignOnce.Consistent r ∧ Stands place env t r := by
  rcases (simulates_signOnce hPlace).run hRun trivial
      ⟨SignOnce.consistent_start _,
        stands_initial hPath hFresh⟩ with
    ⟨-, r, -, hr, h⟩
  exact ⟨r, hr, h⟩

end PowerLoss

end Server

end BridgeSigner

------------------------------------------------------------
-- What A Power Loss Cannot Break
------------------------------------------------------------

namespace BridgeSigner

namespace Server

namespace PowerLoss

open CheckpointRun

variable {ν : Type} [DecidableEq ν]

/- The calls of a write that succeeds, the number drawn 0. -/
def wholeWrite (ν : Type) : List (Event ν) :=
  [.persist false 0, .persist false 0, .persist false 512] ++
    List.replicate 7 (.persist false 0)

/- A repeat of the golden request, up to its lookup. -/
def goldenRepeat (ν : Type) : List (Event ν) :=
  [.handle (.arrive goldenMainnetRequest),
    .advance goldenMainnetRequest
      goldenMainnetRequest.expectedCheckpoint,
    .handle goldenLookup]

/-
  A golden request is signed, and the power goes when its
  record has been renamed but not synced. The version that
  is left has the signature, and repeats are answered.
-/
def goldenPowerLoss (ν : Type) : List (Event ν) :=
  let req := goldenMainnetRequest
  let c := req.expectedCheckpoint
  [.handle .restart, .handle (.arrive req),
      .advance req c] ++
    wholeWrite ν ++
    [.handle (.signRaw req c (.ok goldenSignature)),
      .record req c goldenSignature] ++
    (wholeWrite ν).take 8 ++
    [.powerLoss (fun _ => 0) (fun _ => ⟨[], 0⟩),
      .handle .restart] ++
    goldenRepeat ν ++ goldenRepeat ν

theorem goldenEnv_suits :
    (Place.resolving []).Suits goldenEnv.statePath := by
  apply Place.resolving_suits
  · refine ⟨?_, ?_, ?_⟩ <;> decide +kernel
  · decide +kernel
  · intro n _
    exact ne_guardTempName (by decide +kernel) n

/- The calls of a run are those of its register. -/
omit [DecidableEq ν] in
theorem Stands.calls_once
    {place : Place ν}
    {env : CheckpointEnv}
    {t : State ν}
    {r : CheckpointRegister}
    (h : Stands place env t r)
    (hr : SignOnce.Consistent r) :
    (t.calls.map SignRawCall.timestamp).Nodup := by
  have hMarks := hr.calls_nodup
  rw [h.calls, List.map_map] at hMarks
  have hToNat :
      t.calls.map (Prod.fst ∘ SignRawCall.entry) =
        (t.calls.map SignRawCall.timestamp).map
          UInt64.toNat := by
    rw [List.map_map]
    rfl
  rw [hToNat] at hMarks
  exact hMarks.of_map _

/- A reply carries what the backend returned for it. -/
omit [DecidableEq ν] in
theorem Stands.call_of_reply
    {place : Place ν}
    {env : CheckpointEnv}
    {t : State ν}
    {r : CheckpointRegister}
    (h : Stands place env t r)
    (hr : SignOnce.Consistent r)
    {x :
      SignBridgeCheckpointRequest ×
        Except Status SignBridgeCheckpointResponse}
    (hx : x ∈ t.replies)
    {a : SignBridgeCheckpointResponse}
    (ha : x.2 = .ok a) :
    ∃ call ∈ t.calls,
      call.digest = env.sha256 a.checkpoint ∧
        call.result = .ok a.signature := by
  have hCalled := hr.answered _ (h.answer_of_reply hx ha)
  rw [h.calls] at hCalled
  rcases List.mem_map.mp hCalled with ⟨call, hCall, hEntry⟩
  refine ⟨call, hCall, ?_⟩
  simp only [SignRawCall.entry, Prod.mk.injEq] at hEntry
  rcases hEntry with ⟨-, hResult⟩
  split at hResult
  · rename_i sig hSig
    obtain ⟨hCkpt, rfl⟩ :=
      Prod.mk.inj (Option.some.inj hResult)
    rw [← hCkpt]
    exact ⟨h.requests.digests call hCall,
      (checkedSignature_ok_iff.mp hSig).1⟩
  · cases hResult

/-
  Kills and power losses at any call, also between a rename
  and the sync of its directory: the backend is called at
  most once for a timestamp.
-/
theorem signed_once_through_power_loss
    (place : Place ν)
    (env : CheckpointEnv)
    (hPath : env.statePath ≠ [])
    (hPlace : place.Suits env.statePath)
    (fs : FileSystem ν)
    (hFresh : fs.Vacant (place.entry env.statePath))
    (es : List (Event ν))
    (t : State ν)
    (hRun :
      (machine place env).run (State.initial fs) es =
        some t) :
    (t.calls.map SignRawCall.timestamp).Nodup := by
  rcases run_stands hPath hPlace hFresh hRun with
    ⟨r, hr, h⟩
  exact h.calls_once hr

theorem golden_signed_once_through_power_loss :
    ∃ t,
      (machine (Place.resolving []) goldenEnv).run
            (State.initial FileSystem.empty)
            (goldenPowerLoss (List Bytes)) =
          some t ∧
        t.calls.length = 1 ∧
          (t.calls.map SignRawCall.timestamp).Nodup := by
  have hCalls :
      ((machine (Place.resolving []) goldenEnv).run
          (State.initial FileSystem.empty)
          (goldenPowerLoss (List Bytes))).map
          (fun t => t.calls.length) =
        some 1 := by
    decide +kernel
  rcases Option.map_eq_some_iff.mp hCalls with
    ⟨t, hRun, hLength⟩
  exact ⟨t, hRun, hLength,
    signed_once_through_power_loss _ _ (by decide)
      goldenEnv_suits _ ⟨rfl, rfl⟩ _ t hRun⟩

/-
  Every successful reply, also after a power loss, carries
  the checkpoint of its request and a signature that the
  backend returned for it, and two for one timestamp are the
  same.
-/
theorem answers_agree_through_power_loss
    (place : Place ν)
    (env : CheckpointEnv)
    (hPath : env.statePath ≠ [])
    (hPlace : place.Suits env.statePath)
    (fs : FileSystem ν)
    (hFresh : fs.Vacant (place.entry env.statePath))
    (es : List (Event ν))
    (t : State ν)
    (hRun :
      (machine place env).run (State.initial fs) es =
        some t) :
    (∀ x ∈ t.replies, ∀ a, x.2 = .ok a →
      env.validate x.1 = .ok a.checkpoint ∧
        ∃ call ∈ t.calls,
          call.digest = env.sha256 a.checkpoint ∧
            call.result = .ok a.signature) ∧
      ∀ x ∈ t.replies, ∀ y ∈ t.replies, ∀ a b,
        x.2 = .ok a → y.2 = .ok b →
          x.1.validatorTimestamp = y.1.validatorTimestamp →
            a = b := by
  rcases run_stands hPath hPlace hFresh hRun with
    ⟨r, hr, h⟩
  constructor
  · intro x hx a ha
    exact ⟨h.requests.replies x hx a ha,
      h.call_of_reply hr hx ha⟩
  · intro x hx y hy a b ha hb hTime
    have hx' := h.answer_of_reply hx ha
    have hy' := h.answer_of_reply hy hb
    rw [← hTime] at hy'
    have hPair := hr.answers_agree hx' hy'
    rcases a with ⟨sigA, ckptA⟩
    rcases b with ⟨sigB, ckptB⟩
    cases hPair
    rfl

theorem golden_answers_agree_through_power_loss :
    ∃ t,
      (machine (Place.resolving []) goldenEnv).run
            (State.initial FileSystem.empty)
            (goldenPowerLoss (List Bytes)) =
          some t ∧
        t.replies.length = 2 ∧
          ∀ x ∈ t.replies, ∀ y ∈ t.replies, ∀ a b,
            x.2 = .ok a → y.2 = .ok b →
              x.1.validatorTimestamp =
                  y.1.validatorTimestamp →
                a = b := by
  have hReplies :
      ((machine (Place.resolving []) goldenEnv).run
          (State.initial FileSystem.empty)
          (goldenPowerLoss (List Bytes))).map
          (fun t => t.replies.length) =
        some 2 := by
    decide +kernel
  rcases Option.map_eq_some_iff.mp hReplies with
    ⟨t, hRun, hLength⟩
  exact ⟨t, hRun, hLength,
    (answers_agree_through_power_loss _ _ (by decide)
      goldenEnv_suits _ ⟨rfl, rfl⟩ _ t hRun).2⟩

/-
  Whatever happened, the state file loads, and its mark is
  at or above every timestamp that was signed.
-/
theorem state_file_never_falls_behind
    (place : Place ν)
    (env : CheckpointEnv)
    (hPath : env.statePath ≠ [])
    (hPlace : place.Suits env.statePath)
    (fs : FileSystem ν)
    (hFresh : fs.Vacant (place.entry env.statePath))
    (es : List (Event ν))
    (t : State ν)
    (hRun :
      (machine place env).run (State.initial fs) es =
        some t) :
    ∃ g,
      newCheckpointReplayGuard env.statePath
            (t.disk place env).read =
          .ok g ∧
        ∀ call ∈ t.calls, call.timestamp ≤ g.highWater := by
  rcases run_stands hPath hPlace hFresh hRun with
    ⟨r, hr, h⟩
  rcases h.files.read with ⟨g, hStores, hAbove⟩
  refine ⟨g, hStores.loads, ?_⟩
  intro call hCall
  have hEntry : call.entry ∈ r.calls := by
    rw [h.calls]
    exact List.mem_map_of_mem hCall
  have hGranted := hr.granted_of_call hEntry
  have hLe : call.timestamp.toNat ≤ g.highWater.toNat :=
    calc
      call.timestamp.toNat ≤ r.memory.mark :=
        hr.granted_le _ hGranted
      _ = r.disk.mark := h.level.symm
      _ ≤ g.highWater.toNat := hAbove.mark_le
  exact UInt64.le_iff_toNat_le.mpr hLe

theorem golden_state_file_never_falls_behind :
    ∃ t,
      (machine (Place.resolving []) goldenEnv).run
            (State.initial FileSystem.empty)
            (goldenPowerLoss (List Bytes)) =
          some t ∧
        ∃ g,
          newCheckpointReplayGuard goldenEnv.statePath
                (t.disk (Place.resolving [])
                  goldenEnv).read =
              .ok g ∧
            ∀ call ∈ t.calls,
              call.timestamp ≤ g.highWater := by
  have hRuns :
      ((machine (Place.resolving []) goldenEnv).run
          (State.initial FileSystem.empty)
          (goldenPowerLoss (List Bytes))).isSome =
        true := by
    decide +kernel
  rcases Option.isSome_iff_exists.mp hRuns with ⟨t, hRun⟩
  exact ⟨t, hRun,
    state_file_never_falls_behind _ _ (by decide)
      goldenEnv_suits _ ⟨rfl, rfl⟩ _ t hRun⟩

end PowerLoss

end Server

end BridgeSigner
