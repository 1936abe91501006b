import BridgeSigner.Server.CheckpointRun

/-
  What happens to the repeats of a checkpoint request.

  The guard moves its mark before the backend signs, so the
  mark alone never brings a signature back: a repeat is
  answered from the memo or not at all. The history of
  `RecordSignature` calls after the advance decides which.

  Key definitions include:
    * `CheckpointRun.Overtakes`
    * `CheckpointRun.memoAfter`

  Main results:
    * `CheckpointRun.window_run`
    * `CheckpointRun.repeat_answered_from_record`
-/

------------------------------------------------------------
-- The History Of The Memo
------------------------------------------------------------

namespace BridgeSigner

namespace Server

namespace CheckpointRun

/-
  The event moves the mark above `ts`, in memory or in the
  state file alone.
-/
def Overtakes
    (ts : UInt64) :
    Event → Prop
| .advance req _ fault =>
    ts < req.validatorTimestamp ∧ Lands fault
| .crashAdvance req _ op =>
    ts < req.validatorTimestamp ∧ op.Landed
| _ => False

instance
    (ts : UInt64) :
    DecidablePred (Overtakes ts) := fun e => by
  cases e <;> unfold Overtakes <;> infer_instance

/- What is recorded at a timestamp: in memory, and on disk. -/
structure Memos where
  live : Option (Bytes × Bytes)
  saved : Option (Bytes × Bytes)

/-
  Follow the records at `ts`. A record is live at once and
  saved when its rename is reached; a crash loses what is
  live, and a restart brings back what is saved.
-/
def Memos.track
    (ts : UInt64)
    (m : Memos) :
    Event → Memos
| .record req c sig fault =>
    if req.validatorTimestamp = ts then
      ⟨some (c, sig),
        if Lands fault then some (c, sig) else m.saved⟩
    else
      m
| .crashRecord req c sig op =>
    ⟨none,
      if req.validatorTimestamp = ts ∧ op.Landed then
        some (c, sig)
      else
        m.saved⟩
| .crash => ⟨none, m.saved⟩
| .crashAdvance _ _ _ => ⟨none, m.saved⟩
| .restart => ⟨m.saved, m.saved⟩
| _ => m

/- The live record after the events that follow an advance. -/
def memoAfter
    (ts : UInt64)
    (es : List Event) : Option (Bytes × Bytes) :=
  (es.foldl (Memos.track ts) ⟨none, none⟩).live

end CheckpointRun

end Server

end BridgeSigner

------------------------------------------------------------
-- While A Timestamp Is The Mark
------------------------------------------------------------

namespace BridgeSigner

namespace Server

namespace CheckpointRun

/- A request past the guard at `ts` is one for `c`. -/
def Flight.BelongsTo
    (ts : UInt64)
    (c : Bytes) :
    Flight → Prop
| .advanced req c' => req.validatorTimestamp = ts → c' = c
| .signed req c' _ => req.validatorTimestamp = ts → c' = c
| _ => True

variable (env : CheckpointEnv)

/-
  The mark is `ts` in memory and on disk, with the tracked
  records beside it, and only `c` is signed at `ts`.
-/
structure Window
    (ts : UInt64)
    (c : Bytes)
    (m : Memos)
    (s : State) : Prop where
  process :
    ∀ p, s.process = some p →
      env.Owns p.guard ∧ p.guard.highWater = ts ∧
        p.guard.memo = m.live
  disk :
    ∃ g, env.Stores s.disk g ∧ g.highWater = ts ∧
      g.memo = m.saved
  flights : ∀ f ∈ s.flights, f.BelongsTo ts c
  live : ∀ x, m.live = some x → x.1 = c
  saved : ∀ x, m.saved = some x → x.1 = c

namespace Window

variable {env}
variable {ts : UInt64}
variable {c : Bytes}
variable {m : Memos}
variable {s : State}

/- What a taken request says about the guard. -/
theorem take
    (h : Window env ts c m s)
    {f : Flight}
    {g : CheckpointReplayGuard}
    {fs : List Flight}
    (hTake : s.take f = some (g, fs)) :
    (env.Owns g ∧ g.highWater = ts ∧ g.memo = m.live) ∧
      f.BelongsTo ts c ∧
        ∀ x ∈ fs, x.BelongsTo ts c := by
  rcases State.take_eq_some hTake with
    ⟨all, hProcess, hMem, rfl⟩
  have hAll : ∀ x ∈ all, x.BelongsTo ts c := by
    intro x hx
    exact h.flights x (by simpa [State.flights, hProcess])
  exact ⟨h.process _ hProcess, hAll f hMem,
    fun x hx => hAll x (List.mem_of_mem_erase hx)⟩

/- Go on with an unchanged guard and an unchanged file. -/
theorem resume
    (h : Window env ts c m s)
    {d : Disk}
    {g : CheckpointReplayGuard}
    {fs : List Flight}
    (hFile : d.file = s.disk.file)
    (hg :
      env.Owns g ∧ g.highWater = ts ∧ g.memo = m.live)
    (hfs : ∀ f ∈ fs, f.BelongsTo ts c) :
    Window env ts c m (s.resume d g fs) where
  process := by
    rintro p ⟨⟩
    exact hg
  disk := by
    rcases h.disk with ⟨gd, hStores, hRest⟩
    exact ⟨gd, hStores.of_file hFile, hRest⟩
  flights := hfs
  live := h.live
  saved := h.saved

theorem reply
    (h : Window env ts c m s)
    (req : SignBridgeCheckpointRequest)
    (r : Except Status SignBridgeCheckpointResponse) :
    Window env ts c m (s.reply req r) :=
  ⟨h.process, h.disk, h.flights, h.live, h.saved⟩

theorem called
    (h : Window env ts c m s)
    (req : SignBridgeCheckpointRequest)
    (c' : Bytes)
    (result : SignRawResult) :
    Window env ts c m (s.called env req c' result) :=
  ⟨h.process, h.disk, h.flights, h.live, h.saved⟩

/- The process dies and the file stays as it is. -/
theorem die
    (h : Window env ts c m s)
    {d : Disk}
    (hFile : d.file = s.disk.file) :
    Window env ts c ⟨none, m.saved⟩ (s.die d) where
  process := by
    rintro p ⟨⟩
  disk := by
    rcases h.disk with ⟨gd, hStores, hRest⟩
    exact ⟨gd, hStores.of_file hFile, hRest⟩
  flights := by simp [State.die, State.flights]
  live := by simp
  saved := h.saved

end Window

variable {env}
variable {ts : UInt64}
variable {c : Bytes}
variable {m : Memos}
variable {s t : State}

theorem window_advance
    (h : Window env ts c m s)
    {req : SignBridgeCheckpointRequest}
    {c' : Bytes}
    {g : CheckpointReplayGuard}
    {fs : List Flight}
    {fault : Option FileOp}
    (hTake : s.take (.checked req c') = some (g, fs))
    (hBelow : ¬Overtakes ts (.advance req c' fault)) :
    Window env ts c m
      (s.afterAdvance req c' fs
        (g.checkAndAdvance req.validatorTimestamp s.disk
          fault)) := by
  rcases h.take hTake with ⟨hg, hf, hfs⟩
  rcases g.checkAndAdvance_cases hg.1.wellFormed
      req.validatorTimestamp s.disk fault with
    ⟨-, hEq⟩ | ⟨hLt, rfl, -⟩ | ⟨op, hLt, rfl, hEq⟩
  · rw [hEq]
    exact h.resume rfl hg
      (List.forall_mem_cons.mpr ⟨trivial, hfs⟩)
  · exact absurd ⟨hg.2.1 ▸ hLt, trivial⟩ hBelow
  · rw [hEq]
    have hLands : ¬Lands (some op) :=
      fun hLands => hBelow ⟨hg.2.1 ▸ hLt, hLands⟩
    refine (h.resume ?_ hg hfs).reply _ _
    simp [CheckpointReplayGuard.persistedFile, hLands]

/- The memo written by a record, as `track` says it. -/
theorem window_record
    (h : Window env ts c m s)
    (hs : Sound env s)
    {req : SignBridgeCheckpointRequest}
    {c' sig : Bytes}
    {g : CheckpointReplayGuard}
    {fs : List Flight}
    (hTake : s.take (.signed req c' sig) = some (g, fs))
    (fault : Option FileOp) :
    Window env ts c
      (m.track ts (.record req c' sig fault))
      (s.afterRecord req c' sig fs
        (g.recordSignature req.validatorTimestamp c' sig
          s.disk fault)) := by
  rcases h.take hTake with ⟨hg, hf, hfs⟩
  have hSound := (hs.take hTake).1
  have hc : c'.length = 32 :=
    (validateCheckpoint_ok_iff.mp hSound.1).length
  rcases g.recordSignature_cases hg.1.wellFormed
      req.validatorTimestamp hc hSound.2.1 s.disk fault with
    ⟨hOther, hEq⟩ | ⟨hMark, hEq⟩
  · rw [hEq, Memos.track, if_neg (hg.2.1 ▸ hOther)]
    exact (h.resume rfl hg hfs).reply _ _
  · have hTs : req.validatorTimestamp = ts :=
      hMark.trans hg.2.1
    have hNew : env.Owns (g.withMemo c' sig) :=
      hg.1.withMemo hc hSound.2.1
    rcases h.disk with ⟨gd, hStores, hGd, hSaved⟩
    rw [hEq, Memos.track, if_pos hTs]
    refine Window.reply (s := s.resume _ _ fs)
      ⟨?_, ?_, hfs, ?_, ?_⟩ _ _
    · rintro p ⟨⟩
      exact ⟨hNew, hg.2.1, rfl⟩
    · refine ⟨_, hStores.persisted hNew fault rfl, ?_⟩
      split
      · exact ⟨hg.2.1, rfl⟩
      · exact ⟨hGd, hSaved⟩
    · rintro x ⟨⟩
      exact hf hTs
    · intro x hx
      dsimp only at hx
      split at hx
      · cases hx
        exact hf hTs
      · exact h.saved x hx

theorem window_crashRecord
    (h : Window env ts c m s)
    (hs : Sound env s)
    {req : SignBridgeCheckpointRequest}
    {c' sig : Bytes}
    {g : CheckpointReplayGuard}
    {fs : List Flight}
    (hTake : s.take (.signed req c' sig) = some (g, fs))
    (hMark : g.highWater = req.validatorTimestamp)
    (op : FileOp) :
    Window env ts c
      (m.track ts (.crashRecord req c' sig op))
      (s.die
        (crashBytesAtomic (g.withMemo c' sig).blob
          s.disk op)) := by
  rcases h.take hTake with ⟨hg, hf, -⟩
  have hSound := (hs.take hTake).1
  have hTs : req.validatorTimestamp = ts :=
    hMark.symm.trans hg.2.1
  have hNew : env.Owns (g.withMemo c' sig) :=
    hg.1.withMemo
      (validateCheckpoint_ok_iff.mp hSound.1).length
      hSound.2.1
  by_cases hLands : op.Landed
  · rcases h.disk with ⟨gd, hStores, -⟩
    have hNewStores :=
      hStores.persisted hNew (some op)
        (crashBytesAtomic_file _ s.disk op)
    rw [if_pos (show Lands (some op) from hLands)]
      at hNewStores
    rw [Memos.track, if_pos ⟨hTs, hLands⟩]
    refine ⟨?_, ⟨_, hNewStores, hg.2.1, rfl⟩, ?_, ?_, ?_⟩
    · rintro p ⟨⟩
    · simp [State.die, State.flights]
    · simp
    · rintro x ⟨⟩
      exact hf hTs
  · rw [Memos.track, if_neg (fun hBoth => hLands hBoth.2)]
    refine h.die ?_
    rw [crashBytesAtomic_file, if_neg hLands]

/- Every event that does not overtake keeps the window. -/
theorem window_step
    {e : Event}
    (hStep : step env s e = some t)
    (hBelow : ¬Overtakes ts e)
    (hs : Sound env s)
    (h : Window env ts c m s) :
    Window env ts c (m.track ts e) t := by
  cases step_transition hStep with
  | turnedAway hProcess hInvalid => exact h.reply _ _
  | @arrive req p c' hProcess hValid =>
      have hFlights := h.flights
      rw [State.flights, hProcess] at hFlights
      exact h.resume rfl (h.process _ hProcess)
        (List.forall_mem_cons.mpr ⟨trivial, hFlights⟩)
  | advance hTake => exact window_advance h hTake hBelow
  | lookup hTake =>
      rcases h.take hTake with ⟨hg, -, hfs⟩
      exact (h.resume rfl hg hfs).reply _ _
  | @signRaw req c' result g fs hTake =>
      rcases h.take hTake with ⟨hg, hf, hfs⟩
      have h' := h.called req c' result
      unfold State.afterSignRaw
      split
      · exact h'.resume rfl hg
          (List.forall_mem_cons.mpr ⟨hf, hfs⟩)
      · exact (h'.resume rfl hg hfs).reply _ _
  | record hTake => exact window_record h hs hTake _
  | crash hProcess => exact h.die rfl
  | @crashAdvance req c' op g fs hTake hLt =>
      rcases h.take hTake with ⟨hg, -, -⟩
      have hLands : ¬op.Landed :=
        fun hLands => hBelow ⟨hg.2.1 ▸ hLt, hLands⟩
      refine h.die ?_
      rw [crashBytesAtomic_file, if_neg hLands]
  | crashRecord hTake hMark =>
      exact window_crashRecord h hs hTake hMark _
  | restart hProcess hLoad =>
      rcases h.disk with ⟨gd, hStores, hGd, hSaved⟩
      rw [hStores.loads] at hLoad
      cases hLoad
      exact ⟨by
          rintro p ⟨⟩
          exact ⟨hStores.owned, hGd, hSaved⟩,
        ⟨_, hStores, hGd, hSaved⟩, by
          simp [State.resume, State.flights],
        h.saved, h.saved⟩

/- A run that does not overtake keeps the window. -/
theorem window_run
    {es : List Event}
    (hRun : (machine env).run s es = some t)
    (hBelow : ∀ e ∈ es, ¬Overtakes ts e)
    (hs : Sound env s)
    (h : Window env ts c m s) :
    Window env ts c (es.foldl (Memos.track ts) m) t := by
  induction es generalizing s m with
  | nil =>
      cases hRun
      exact h
  | cons e es ih =>
      rcases ((machine env).run_cons_iff s t e es).mp
          hRun with
        ⟨u, hHead, hTail⟩
      rw [List.forall_mem_cons] at hBelow
      exact ih hTail hBelow.2 (step_sound hHead hs)
        (window_step hHead hBelow.1 hs h)

end CheckpointRun

end Server

end BridgeSigner

------------------------------------------------------------
-- Repeats
------------------------------------------------------------

namespace BridgeSigner

namespace Server

namespace CheckpointRun

variable {env : CheckpointEnv}

/- Before the mark reaches `ts`, nothing is signed at `ts`. -/
theorem belongsTo_of_below
    {s : State}
    {r : CheckpointRegister}
    (hs : Sound env s)
    (hAbs : Abstracts env s r)
    (hr : SignOnce.Consistent r)
    {ts : UInt64}
    (hBelow : r.memory.mark < ts.toNat)
    (c : Bytes) :
    ∀ f ∈ s.flights, f.BelongsTo ts c := by
  have hGranted :
      ∀ ts' : UInt64, ts'.toNat ∈ r.granted → ts' ≠ ts := by
    rintro ts' hMem rfl
    have hLe := hr.granted_le _ hMem
    omega
  intro f hf
  cases f with
  | checked req c' => trivial
  | refused req c' e => trivial
  | advanced req c' =>
      intro hTs
      have hToken :
          req.validatorTimestamp.toNat ∈ r.tokens := by
        rw [hAbs.tokens]
        exact List.mem_filterMap.mpr ⟨_, hf, rfl⟩
      have hMem : req.validatorTimestamp.toNat ∈ r.granted :=
        Multiset.mem_of_le
          (le_trans (Multiset.le_add_right _ _) hr.covered)
          hToken
      exact absurd hTs (hGranted _ hMem)
  | signed req c' sig =>
      intro hTs
      have hCalled :=
        called_of_signed hAbs (hs.flights _ hf)
      exact absurd hTs
        (hGranted _ (hr.granted_of_call hCalled))

/- The successful advance to a timestamp opens its window. -/
theorem window_opens
    (hPath : env.statePath ≠ [])
    {es : List Event}
    {s s' : State}
    {p : Process}
    {req : SignBridgeCheckpointRequest}
    {c : Bytes}
    (hRun : (machine env).run State.initial es = some s)
    (hProcess : s.process = some p)
    (hMark : p.guard.highWater < req.validatorTimestamp)
    (hStep : step env s (.advance req c none) = some s') :
    Window env req.validatorTimestamp c ⟨none, none⟩ s' := by
  rcases run_consistent hPath hRun with
    ⟨hs, r, hr, hAbs⟩
  cases step_transition hStep with
  | @advance _ _ _ g fs hTake =>
      rcases State.take_eq_some hTake with
        ⟨all, hSame, hMem, rfl⟩
      rw [hProcess] at hSame
      cases hSame
      rcases hAbs.take hTake with ⟨hg, hMemory, -⟩
      rcases hAbs.disk with ⟨gd, hStores, -⟩
      have hBelow :
          r.memory.mark < req.validatorTimestamp.toNat := by
        rw [hMemory]
        exact UInt64.lt_iff_toNat_lt.mp hMark
      have hOthers :=
        belongsTo_of_below hs hAbs hr hBelow c
      rw [State.flights, hProcess] at hOthers
      have hNew := hg.advanceTo req.validatorTimestamp
      rcases g.checkAndAdvance_cases hg.wellFormed
          req.validatorTimestamp s.disk none with
        ⟨hLe, -⟩ | ⟨-, -, hEq⟩ | ⟨op, -, hNone, -⟩
      · exact absurd hMark (UInt64.not_lt.mpr hLe)
      · rw [hEq]
        refine ⟨?_,
          ⟨_, hStores.persisted hNew none rfl, rfl, rfl⟩,
          ?_, by simp, by simp⟩
        · rintro q ⟨⟩
          exact ⟨hNew, rfl, rfl⟩
        · exact List.forall_mem_cons.mpr
            ⟨fun _ => rfl, fun f hf =>
              hOthers f (List.mem_of_mem_erase hf)⟩
      · cases hNone

theorem State.take_of_mem
    {s : State}
    {p : Process}
    {f : Flight}
    (hProcess : s.process = some p)
    (hMem : f ∈ p.inflight) :
    s.take f = some (p.guard, p.inflight.erase f) := by
  simp [State.take, hProcess, hMem]

/-
  What the history since the advance says a repeat is to be
  answered with.
-/
def repeatReply
    (ts : UInt64)
    (c : Bytes)
    (es : List Event)
    (e : GuardError) :
    Except Status SignBridgeCheckpointResponse :=
  match memoAfter ts es with
  | some (_, sig) => .ok ⟨sig, c⟩
  | none => .error (replayGuardStatus e)

/- In its window a lookup finds exactly the live record. -/
theorem Window.lookupReply_eq
    {c : Bytes}
    {m : Memos}
    {s : State}
    {q : Process}
    {req : SignBridgeCheckpointRequest}
    (h : Window env req.validatorTimestamp c m s)
    (hUp : s.process = some q)
    (e : GuardError) :
    lookupReply q.guard req c e =
      match m.live with
      | some (_, sig) => .ok ⟨sig, c⟩
      | none => .error (replayGuardStatus e) := by
  rcases h.process q hUp with ⟨hg, hMark, hMemo⟩
  have hIff :=
    q.guard.cachedSignature_eq_some hg.wellFormed
      req.validatorTimestamp c
  unfold lookupReply
  cases hLive : m.live with
  | some x =>
      rcases x with ⟨c', sig⟩
      have hSame : c' = c := h.live _ hLive
      subst hSame
      have hCached := (hIff sig).mpr
        ⟨hMark.symm, hMemo.trans hLive⟩
      rw [hCached]
  | none =>
      have hMiss :
          q.guard.cachedSignature req.validatorTimestamp c =
            none := by
        rw [Option.eq_none_iff_forall_ne_some]
        intro sig hSig
        have hMemo' := ((hIff sig).mp hSig).2
        rw [hMemo, hLive] at hMemo'
        cases hMemo'
      rw [hMiss]

/-
  Once a request has advanced the mark, and until the mark is
  overtaken, its repeats never reach the backend: they are
  refused, and answered with the recorded signature exactly
  when the history holds one that is still live.
-/
theorem repeat_answered_from_record
    (env : CheckpointEnv)
    (hPath : env.statePath ≠ [])
    (es es' : List Event)
    (s s' t : State)
    (p q : Process)
    (req : SignBridgeCheckpointRequest)
    (c : Bytes)
    (hRun : (machine env).run State.initial es = some s)
    (hProcess : s.process = some p)
    (hMark : p.guard.highWater < req.validatorTimestamp)
    (hStep : step env s (.advance req c none) = some s')
    (hAfter : (machine env).run s' es' = some t)
    (hBelow :
      ∀ e ∈ es', ¬Overtakes req.validatorTimestamp e)
    (hUp : t.process = some q) :
    step env t (.arrive req) =
        some (t.resume t.disk q.guard
          (.checked req c :: q.inflight)) ∧
      (.checked req c ∈ q.inflight →
        ∀ fault,
          step env t (.advance req c fault) =
            some (t.resume t.disk q.guard
              (.refused req c
                  (.rejected req.validatorTimestamp
                    req.validatorTimestamp) ::
                q.inflight.erase (.checked req c)))) ∧
      (∀ e, .refused req c e ∈ q.inflight →
        step env t (.lookup req c e) =
          some ((t.resume t.disk q.guard
              (q.inflight.erase (.refused req c e))).reply
            req
            (repeatReply req.validatorTimestamp c es'
              e))) ∧
      ∀ x, memoAfter req.validatorTimestamp es' = some x →
        x.1 = c ∧
          ∃ call ∈ t.calls,
            call.timestamp = req.validatorTimestamp ∧
              call.digest = env.sha256 c ∧
                call.result = .ok x.2 := by
  have hWhole :
      (machine env).run State.initial
          (es ++ .advance req c none :: es') =
        some t := by
    rw [Machine.run_append_iff]
    exact ⟨s, hRun, (Machine.run_cons_iff _ _ _ _ _).mpr
      ⟨s', hStep, hAfter⟩⟩
  rcases run_consistent hPath hRun with ⟨hs, -⟩
  have hValid : env.validate req = .ok c := by
    cases step_transition hStep with
    | advance hTake => exact (hs.take hTake).1
  have hWindow :=
    window_run hAfter hBelow (step_sound hStep hs)
      (window_opens hPath hRun hProcess hMark hStep)
  rcases hWindow.process q hUp with ⟨hg, hHigh, hMemo⟩
  refine ⟨?_, ?_, ?_, ?_⟩
  · simp [step, hUp, hValid]
  · intro hOpen fault
    have hLe :
        req.validatorTimestamp ≤ q.guard.highWater := by
      rw [hHigh]
      exact UInt64.le_refl _
    rcases q.guard.checkAndAdvance_cases hg.wellFormed
        req.validatorTimestamp t.disk fault with
      ⟨-, hEq⟩ | ⟨hLt, -⟩ | ⟨op, hLt, -⟩
    · simp [step, State.take_of_mem hUp hOpen, hEq,
        State.afterAdvance, hHigh]
    · exact absurd hLt (UInt64.not_lt.mpr hLe)
    · exact absurd hLt (UInt64.not_lt.mpr hLe)
  · intro e hOpen
    simp only [step, State.take_of_mem hUp hOpen,
      hWindow.lookupReply_eq hUp]
    rfl
  · intro x hx
    rcases run_consistent hPath hWhole with
      ⟨hSound, r, hr, hAbs⟩
    have hMemory := hAbs.memory
    rw [hUp] at hMemory
    have hCalled := hr.memory_memo x
    rw [hMemory.2, hAbs.calls] at hCalled
    rcases List.mem_map.mp (hCalled (hMemo.trans hx)) with
      ⟨call, hCall, hEntry⟩
    have hSame : x.1 = c := hWindow.live x hx
    simp only [SignRawCall.entry, CheckpointReplayGuard.cell,
      Prod.mk.injEq] at hEntry
    rcases hEntry with ⟨hTime, hResult⟩
    split at hResult
    · rename_i sig hSig
      cases hResult
      refine ⟨hSame, call, hCall, ?_, ?_,
        (checkedSignature_ok_iff.mp hSig).1⟩
      · rw [← hHigh]
        exact UInt64.toNat_inj.mp hTime
      · rw [hSound.digests call hCall]
        exact congrArg env.sha256 hSame
    · cases hResult

/- A golden request is open, and not yet at the guard. -/
def goldenOpening : List Event :=
  [.restart, .arrive goldenMainnetRequest]

/-
  The backend signs, the record's write fails before its
  rename, and the request comes again.
-/
def goldenUnsaved : List Event :=
  [.signRaw goldenMainnetRequest
      goldenMainnetRequest.expectedCheckpoint
      (.ok goldenSignature),
    .record goldenMainnetRequest
      goldenMainnetRequest.expectedCheckpoint
      goldenSignature (some .fsync),
    .arrive goldenMainnetRequest]

end CheckpointRun

end Server

end BridgeSigner
