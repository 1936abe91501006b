import BridgeSigner.Server.CheckpointRun
import BridgeSigner.Server.GuardAdvance

/-
  The state file of the checkpoint replay guard
  (server/replay_guard.go).

  The guard writes a JSON object and reads that object, or a
  bare number as earlier releases wrote it. What a run of the
  server writes is read back unchanged. A file that records
  no mark is not always refused: an object without one is
  read as mark zero.

  Key definitions include:
    * `CheckpointRun.State.startedOn`
    * `Records`
    * `MarkGiven`
    * `Decodes`

  Main results:
    * `CheckpointRun.owns_of_run`
    * `CheckpointRun.guard_reads_back`
    * `mark_recorded_iff`
-/

------------------------------------------------------------
-- What Is Loaded Is Well Formed
------------------------------------------------------------

namespace BridgeSigner

namespace Server

theorem decodeOptionalHex_length
    {s b : Bytes}
    {want : Nat}
    {field : String}
    (hOk : decodeOptionalHex s want field = .ok (some b)) :
    b.length = want := by
  unfold decodeOptionalHex at hOk
  split at hOk
  · cases hOk
  · split at hOk
    · cases hOk
    · split at hOk
      · cases hOk
      · rename_i hLength
        cases hOk
        exact not_not.mp hLength

/- A decoded state gives a well-formed guard with its mark. -/
theorem guardOfState_wellFormed
    {statePath : Bytes}
    (hPath : statePath ≠ [])
    {st : GuardState}
    {g : CheckpointReplayGuard}
    (hOk : guardOfState statePath st = .ok g) :
    g.WellFormed ∧ g.statePath = statePath ∧
      g.highWater = st.highWater := by
  unfold guardOfState at hOk
  split at hOk
  · cases hOk
  · rename_i ckpt hCheckpoint
    split at hOk
    · cases hOk
    · rename_i sig hSignature
      split at hOk
      · rename_i c s
        cases hOk
        refine ⟨⟨rfl, hPath, ?_⟩, rfl, rfl⟩
        right
        exact ⟨c, s, rfl, rfl,
          decodeOptionalHex_length hCheckpoint,
          decodeOptionalHex_length hSignature⟩
      · cases hOk
        exact ⟨bareGuard_wellFormed hPath _, rfl, rfl⟩

/- Loading, by the two formats of an existing file. -/
theorem newCheckpointReplayGuard_content
    {statePath : Bytes}
    (hPath : statePath ≠ [])
    (data : Bytes) :
    newCheckpointReplayGuard statePath (.content data) =
      if [123].isPrefixOf (trimSpace data) then
        match GuardState.unmarshal (trimSpace data) with
        | none => .error .parseJson
        | some st => guardOfState statePath st
      else
        match parseUint64 (trimSpace data) with
        | none => .error .parseUint
        | some v => .ok (bareGuard statePath v) := by
  unfold newCheckpointReplayGuard
  exact if_neg hPath

theorem newCheckpointReplayGuard_wellFormed
    {statePath : Bytes}
    (hPath : statePath ≠ [])
    {file : ReadResult}
    {g : CheckpointReplayGuard}
    (hOk :
      newCheckpointReplayGuard statePath file = .ok g) :
    g.WellFormed ∧ g.statePath = statePath := by
  cases file with
  | notExist =>
      simp only [newCheckpointReplayGuard, if_neg hPath]
        at hOk
      cases hOk
      exact ⟨bareGuard_wellFormed hPath 0, rfl⟩
  | failed =>
      simp only [newCheckpointReplayGuard, if_neg hPath]
        at hOk
      cases hOk
  | content data =>
      rw [newCheckpointReplayGuard_content hPath] at hOk
      split at hOk
      · split at hOk
        · cases hOk
        · rcases guardOfState_wellFormed hPath hOk with
            ⟨hWell, hSame, -⟩
          exact ⟨hWell, hSame⟩
      · split at hOk
        · cases hOk
        · cases hOk
          exact ⟨bareGuard_wellFormed hPath _, rfl⟩

end Server

end BridgeSigner

------------------------------------------------------------
-- Guards That A Run Reaches
------------------------------------------------------------

namespace BridgeSigner

namespace Server

namespace CheckpointRun

/- Before a start, on whatever the disk holds. -/
def State.startedOn
    (d : Disk) : State :=
  ⟨d, none, [], []⟩

/- The running guard is well formed, on the state path. -/
def Guarded
    (env : CheckpointEnv)
    (s : State) : Prop :=
  ∀ p, s.process = some p → env.Owns p.guard

variable {env : CheckpointEnv}
variable {s t : State}

theorem Guarded.resume
    {g : CheckpointReplayGuard}
    (hg : env.Owns g)
    (s : State)
    (d : Disk)
    (fs : List Flight) :
    Guarded env (s.resume d g fs) := by
  intro p hp
  cases hp
  exact hg

theorem Guarded.reply
    (hs : Guarded env s)
    (req : SignBridgeCheckpointRequest)
    (r : Except Status SignBridgeCheckpointResponse) :
    Guarded env (s.reply req r) :=
  hs

theorem Guarded.die
    (s : State)
    (d : Disk) :
    Guarded env (s.die d) := by
  intro p hp
  cases hp

theorem Guarded.take
    (hs : Guarded env s)
    {f : Flight}
    {g : CheckpointReplayGuard}
    {fs : List Flight}
    (hTake : s.take f = some (g, fs)) :
    env.Owns g := by
  rcases State.take_eq_some hTake with ⟨all, hProcess, -⟩
  exact hs _ hProcess

theorem Guarded.advance
    {g : CheckpointReplayGuard}
    (hg : env.Owns g)
    (s : State)
    (req : SignBridgeCheckpointRequest)
    (c : Bytes)
    (fs : List Flight)
    (fault : Option FileOp) :
    Guarded env
      (s.afterAdvance req c fs
        (g.checkAndAdvance req.validatorTimestamp s.disk
          fault)) := by
  rcases g.checkAndAdvance_cases hg.wellFormed
      req.validatorTimestamp s.disk fault with
    ⟨-, hEq⟩ | ⟨-, -, hEq⟩ | ⟨op, -, -, hEq⟩
  · rw [hEq]
    exact Guarded.resume hg s _ _
  · rw [hEq]
    exact Guarded.resume (hg.advanceTo _) s _ _
  · rw [hEq]
    exact (Guarded.resume hg s _ _).reply req _

/- The handler records only what the loader insists on. -/
theorem Guarded.record
    {g : CheckpointReplayGuard}
    (hg : env.Owns g)
    {req : SignBridgeCheckpointRequest}
    {c sig : Bytes}
    (hFlight : Flight.Sound env s.calls (.signed req c sig))
    (fs : List Flight)
    (fault : Option FileOp) :
    Guarded env
      (s.afterRecord req c sig fs
        (g.recordSignature req.validatorTimestamp c sig
          s.disk fault)) := by
  have hc : c.length = 32 :=
    (validateCheckpoint_ok_iff.mp hFlight.1).length
  rcases g.recordSignature_cases hg.wellFormed
      req.validatorTimestamp hc hFlight.2.1 s.disk
      fault with ⟨-, hEq⟩ | ⟨-, hEq⟩
  · rw [hEq]
    exact (Guarded.resume hg s _ _).reply req _
  · rw [hEq]
    exact (Guarded.resume (hg.withMemo hc hFlight.2.1)
      s _ _).reply req _

theorem Guarded.step
    (hPath : env.statePath ≠ [])
    {e : Event}
    (hStep : step env s e = some t)
    (hSound : Sound env s)
    (hs : Guarded env s) :
    Guarded env t := by
  cases step_transition hStep with
  | turnedAway hProcess hInvalid => exact hs.reply _ _
  | arrive hProcess hValid =>
      exact Guarded.resume (hs _ hProcess) s _ _
  | advance hTake =>
      exact Guarded.advance (hs.take hTake) s _ _ _ _
  | lookup hTake =>
      exact (Guarded.resume (hs.take hTake) s _ _).reply _ _
  | signRaw hTake =>
      unfold State.afterSignRaw
      split
      · exact Guarded.resume (hs.take hTake) _ _ _
      · exact (Guarded.resume (hs.take hTake) _ _ _).reply
          _ _
  | record hTake =>
      exact Guarded.record (hs.take hTake)
        (hSound.take hTake).1 _ _
  | crash hProcess => exact Guarded.die s _
  | crashAdvance hTake hLt => exact Guarded.die s _
  | crashRecord hTake hMark => exact Guarded.die s _
  | restart hProcess hLoad =>
      rcases newCheckpointReplayGuard_wellFormed hPath
          hLoad with ⟨hWell, hSame⟩
      exact Guarded.resume ⟨hWell, hSame⟩ s _ _

/- Every guard of a run is well formed, from any disk. -/
theorem owns_of_run
    (hPath : env.statePath ≠ [])
    {d : Disk}
    {es : List Event}
    (hRun :
      (machine env).run (State.startedOn d) es = some t)
    {p : Process}
    (hProcess : t.process = some p) :
    env.Owns p.guard := by
  have hStart :
      Sound env (State.startedOn d) ∧
        Guarded env (State.startedOn d) := by
    constructor
    · constructor <;>
        simp [State.startedOn, State.flights]
    · intro p hp
      cases hp
  have hEnd : Sound env t ∧ Guarded env t := by
    apply Machine.run_invariant _ hRun hStart
    intro s e t hStep hs
    exact ⟨step_sound hStep hs.1,
      hs.2.step hPath hStep hs.1⟩
  exact hEnd.2 p hProcess

end CheckpointRun

end Server

end BridgeSigner

------------------------------------------------------------
-- Reading Back
------------------------------------------------------------

namespace BridgeSigner

namespace Server

/- What a successful persist leaves is the guard's own. -/
theorem newCheckpointReplayGuard_persisted
    {g : CheckpointReplayGuard}
    (hg : g.WellFormed)
    (d : Disk) :
    newCheckpointReplayGuard g.statePath
        (g.persistLocked d none).2.read =
      .ok g := by
  rw [g.persistLocked_eq]
  exact newCheckpointReplayGuard_blob hg

/- The decimal digits of a mark, with white space around. -/
theorem newCheckpointReplayGuard_legacy
    {statePath : Bytes}
    (hPath : statePath ≠ [])
    (v : UInt64)
    {front back : Bytes}
    (hFront : WhiteSpace front)
    (hBack : WhiteSpace back) :
    newCheckpointReplayGuard statePath
        (.content
          (front ++ (formatUint v.toNat ++ back))) =
      .ok (bareGuard statePath v) := by
  have hDigits :
      ∀ b ∈ formatUint v.toNat, isDigit b = true :=
    fun b hb => isDigit_of_mem_formatUint hb
  have hTrim :
      trimSpace (front ++ (formatUint v.toNat ++ back)) =
        formatUint v.toNat :=
    trimSpace_padded hFront hBack (formatUint_ne_nil _)
      (fun b hb => visible_of_isDigit (hDigits b hb))
  have hBrace :
      ¬ [123].isPrefixOf (formatUint v.toNat) = true := by
    intro hPrefix
    rcases List.isPrefixOf_iff_prefix.mp hPrefix with
      ⟨rest, hRest⟩
    have hDigit := hDigits 123 (by rw [← hRest]; simp)
    exact absurd hDigit (by decide)
  rw [newCheckpointReplayGuard_content hPath, hTrim,
    if_neg hBrace, parseUint64_formatUint]

namespace CheckpointRun

/-
  Every guard that a run reaches, on whatever file it was
  started, and every guard of its shape is read back from
  what it persists. A number that an earlier release wrote
  is read as a mark without a memo.
-/
theorem guard_reads_back
    (env : CheckpointEnv)
    (hPath : env.statePath ≠ []) :
    (∀ d es t p,
        (machine env).run (State.startedOn d) es = some t →
        t.process = some p →
        env.Owns p.guard ∧
          ∀ d',
            newCheckpointReplayGuard env.statePath
                (p.guard.persistLocked d' none).2.read =
              .ok p.guard) ∧
      (∀ g d, env.Owns g →
        newCheckpointReplayGuard env.statePath
            (g.persistLocked d none).2.read =
          .ok g) ∧
      ∀ (v : UInt64) front back,
        WhiteSpace front → WhiteSpace back →
        newCheckpointReplayGuard env.statePath
            (.content
              (front ++ (formatUint v.toNat ++ back))) =
          .ok ⟨env.statePath, v, true, none, none⟩ := by
  have hOwned :
      ∀ g d, env.Owns g →
        newCheckpointReplayGuard env.statePath
            (g.persistLocked d none).2.read =
          .ok g := by
    intro g d hg
    rw [← hg.path]
    exact newCheckpointReplayGuard_persisted hg.wellFormed d
  refine ⟨?_, hOwned, ?_⟩
  · intro d es t p hRun hProcess
    have hg := owns_of_run hPath hRun hProcess
    exact ⟨hg, fun d' => hOwned p.guard d' hg⟩
  · intro v front back hFront hBack
    exact newCheckpointReplayGuard_legacy hPath v hFront
      hBack

/- A golden request, up to its recorded signature. -/
def goldenRecorded : List Event :=
  .restart :: goldenArrival ++
    [.signRaw goldenMainnetRequest
        goldenMainnetRequest.expectedCheckpoint
        (.ok goldenSignature),
      .record goldenMainnetRequest
        goldenMainnetRequest.expectedCheckpoint
        goldenSignature none]

/-
  It starts on a number with a no-break space, and its memo
  is read back.
-/
theorem golden_guard_reads_back :
    ∃ t p,
      (machine goldenEnv).run
          (State.startedOn
            ⟨some (ascii " 42" ++ [0xC2, 0xA0, 10]), none⟩)
          goldenRecorded =
        some t ∧
      t.process = some p ∧
      p.guard.memo =
        some (goldenMainnetRequest.expectedCheckpoint,
          goldenSignature) ∧
      newCheckpointReplayGuard goldenEnv.statePath
          (p.guard.persistLocked ⟨none, none⟩ none).2.read =
        .ok p.guard ∧
      newCheckpointReplayGuard goldenEnv.statePath
          (.content
            ([32] ++
              (formatUint 42 ++ [0xC2, 0xA0, 10]))) =
        .ok ⟨goldenEnv.statePath, 42, true, none, none⟩ := by
  have hMemo :
      (((machine goldenEnv).run
          (State.startedOn
            ⟨some (ascii " 42" ++ [0xC2, 0xA0, 10]), none⟩)
          goldenRecorded).bind State.process).map
            (fun p => p.guard.memo) =
        some (some (goldenMainnetRequest.expectedCheckpoint,
          goldenSignature)) := by
    decide +kernel
  rcases Option.map_eq_some_iff.mp hMemo with
    ⟨p, hBind, hGuard⟩
  rcases Option.bind_eq_some_iff.mp hBind with
    ⟨t, hRun, hProcess⟩
  rcases guard_reads_back goldenEnv (by decide) with
    ⟨hReached, -, hLegacy⟩
  exact ⟨t, p, hRun, hProcess, hGuard,
    (hReached _ _ t p hRun hProcess).2 _,
    hLegacy 42 [32] [0xC2, 0xA0, 10]
      ⟨[[32]], by decide, rfl⟩
      ⟨[[0xC2, 0xA0], [10]], by decide, rfl⟩⟩

end CheckpointRun

end Server

end BridgeSigner

------------------------------------------------------------
-- Files Without A Mark
------------------------------------------------------------

namespace BridgeSigner

namespace Server

/- A member that is stored as the mark. -/
def MarkMember
    (m : Bytes × Json.Value) : Prop :=
  foldName m.1 = foldName (ascii "high_water")

/- The content gives this mark, in one of the two formats. -/
def Records
    (data : Bytes)
    (hw : UInt64) : Prop :=
  if [123].isPrefixOf (trimSpace data) then
    ∃ ms, Json.parse (trimSpace data) = some (.object ms) ∧
      ∃ m ∈ ms, MarkMember m ∧
        ∃ literal, m.2 = .number literal ∧
          parseUint64 literal = some hw
  else
    parseUint64 (trimSpace data) = some hw

/- An object has a member for the mark that is not null. -/
def MarkGiven
    (data : Bytes) : Prop :=
  [123].isPrefixOf (trimSpace data) = true →
    ∃ ms, Json.parse (trimSpace data) = some (.object ms) ∧
      ∃ m ∈ ms, MarkMember m ∧ m.2 ≠ .null

/- The guard is not built from this content. -/
def Refused
    (statePath data : Bytes) : Prop :=
  ∃ e,
    newCheckpointReplayGuard statePath (.content data) =
      .error e

/- A memo's text: none, or hexadecimal of so many bytes. -/
def MemoText
    (s : Bytes)
    (want : Nat) : Prop :=
  s = [] ∨ ∃ b, decodeHex s = some b ∧ b.length = want

/-
  The content has one of the two formats: an object with the
  types of the fields and the texts of a memo, or a number.
-/
def Decodes
    (data : Bytes) : Prop :=
  if [123].isPrefixOf (trimSpace data) then
    ∃ st, GuardState.unmarshal (trimSpace data) = some st ∧
      MemoText st.checkpoint 32 ∧ MemoText st.signature 64
  else
    ∃ v, parseUint64 (trimSpace data) = some v

/- A mark is loaded only from a content that records it. -/
structure MarkRecorded
    (statePath data : Bytes) : Prop where
  loaded :
    ∀ g,
      newCheckpointReplayGuard statePath (.content data) =
          .ok g →
        Records data g.highWater
  unrecorded :
    (∀ hw, ¬ Records data hw) → Refused statePath data

/- One member: it gives the mark, or leaves it as it was. -/
theorem GuardState.setMember_highWater
    {st st' : GuardState}
    {m : Bytes × Json.Value}
    (hSet : st.setMember m = some st') :
    (MarkMember m ∧
        ∃ literal, m.2 = .number literal ∧
          parseUint64 literal = some st'.highWater) ∨
      ((MarkMember m → m.2 = .null) ∧
        st'.highWater = st.highWater) := by
  rcases m with ⟨name, v⟩
  by_cases hMark : MarkMember (name, v)
  · have hName :
        foldName name = foldName (ascii "high_water") :=
      hMark
    simp only [GuardState.setMember, if_pos hName] at hSet
    split at hSet
    · cases hSet
      exact Or.inr ⟨fun _ => rfl, rfl⟩
    · rename_i literal
      rcases Option.map_eq_some_iff.mp hSet with
        ⟨hw, hParse, rfl⟩
      exact Or.inl ⟨hMark, literal, rfl, hParse⟩
    · cases hSet
  · right
    refine ⟨fun h => absurd h hMark, ?_⟩
    have hName :
        foldName name ≠ foldName (ascii "high_water") :=
      hMark
    simp only [GuardState.setMember, if_neg hName,
      setText] at hSet
    split at hSet
    · split at hSet <;> cases hSet <;> rfl
    · split at hSet
      · split at hSet <;> cases hSet <;> rfl
      · cases hSet
        rfl

/- All members: one gives the mark, or all leave it. -/
theorem GuardState.setMembers_highWater
    {ms : List (Bytes × Json.Value)}
    {st st' : GuardState}
    (hSet : GuardState.setMembers st ms = some st') :
    (∃ m ∈ ms, MarkMember m ∧
        ∃ literal, m.2 = .number literal ∧
          parseUint64 literal = some st'.highWater) ∨
      ((∀ m ∈ ms, MarkMember m → m.2 = .null) ∧
        st'.highWater = st.highWater) := by
  induction ms generalizing st with
  | nil =>
      cases hSet
      exact Or.inr ⟨by simp, rfl⟩
  | cons m ms ih =>
      rw [GuardState.setMembers] at hSet
      split at hSet
      · cases hSet
      · rename_i st₁ hHead
        rcases ih hSet with
          ⟨m', hMem, hGiven⟩ | ⟨hNull, hKept⟩
        · left
          exact ⟨m', List.mem_cons_of_mem m hMem, hGiven⟩
        · rcases GuardState.setMember_highWater hHead with
            ⟨hMark, literal, hValue, hParse⟩ | ⟨hThis, hSame⟩
          · left
            refine ⟨m, by simp, hMark, literal, hValue, ?_⟩
            rw [hKept]
            exact hParse
          · right
            exact ⟨List.forall_mem_cons.mpr ⟨hThis, hNull⟩,
              hKept.trans hSame⟩

theorem decodeOptionalHex_ok_iff
    {s : Bytes}
    {want : Nat}
    (field : String) :
    (∃ o, decodeOptionalHex s want field = .ok o) ↔
      MemoText s want := by
  unfold decodeOptionalHex MemoText
  by_cases hEmpty : s = []
  · simp [hEmpty]
  · cases hHex : decodeHex s with
    | none => simp [hEmpty]
    | some b =>
        by_cases hLength : b.length = want
        · simp [hEmpty, hLength]
        · simp [hEmpty, hLength]

theorem guardOfState_ok_iff
    {statePath : Bytes}
    {st : GuardState} :
    (∃ g, guardOfState statePath st = .ok g) ↔
      MemoText st.checkpoint 32 ∧
        MemoText st.signature 64 := by
  rw [← decodeOptionalHex_ok_iff "checkpoint",
    ← decodeOptionalHex_ok_iff "signature"]
  unfold guardOfState
  cases decodeOptionalHex st.checkpoint 32 "checkpoint" with
  | error e => simp
  | ok ckpt =>
      cases
        decodeOptionalHex st.signature 64 "signature" with
      | error e => simp
      | ok sig =>
          cases ckpt with
          | none => simp
          | some c =>
              cases sig with
              | none => simp
              | some s => simp

variable {statePath data : Bytes}

/- A guard is built from the contents that decode. -/
theorem loads_iff
    (hPath : statePath ≠ []) :
    (∃ g,
        newCheckpointReplayGuard statePath (.content data) =
          .ok g) ↔
      Decodes data := by
  rw [newCheckpointReplayGuard_content hPath, Decodes]
  split
  · cases GuardState.unmarshal (trimSpace data) with
    | none => simp
    | some st => simpa using guardOfState_ok_iff
  · cases parseUint64 (trimSpace data) with
    | none => simp
    | some v => simp

/- What an accepted content has to give for its mark. -/
theorem records_of_loaded
    (hPath : statePath ≠ [])
    (hGiven : MarkGiven data)
    {g : CheckpointReplayGuard}
    (hLoad :
      newCheckpointReplayGuard statePath (.content data) =
        .ok g) :
    Records data g.highWater := by
  rw [newCheckpointReplayGuard_content hPath] at hLoad
  unfold Records
  split at hLoad
  · rename_i hBrace
    rw [if_pos hBrace]
    rcases hGiven hBrace with ⟨ms, hParse, m, hm, hMark, hNe⟩
    refine ⟨ms, hParse, ?_⟩
    simp only [GuardState.unmarshal, hParse] at hLoad
    split at hLoad
    · cases hLoad
    · rename_i st hSet
      rw [(guardOfState_wellFormed hPath hLoad).2.2]
      rcases GuardState.setMembers_highWater hSet with
        hFound | ⟨hNull, -⟩
      · exact hFound
      · exact absurd (hNull m hm hMark) hNe
  · rename_i hBare
    rw [if_neg hBare]
    split at hLoad
    · cases hLoad
    · rename_i v hParse
      cases hLoad
      exact hParse

/- A recorded mark is one that was given. -/
theorem Records.given
    {hw : UInt64}
    (hRecords : Records data hw) :
    MarkGiven data := by
  intro hBrace
  rw [Records, if_pos hBrace] at hRecords
  rcases hRecords with
    ⟨ms, hParse, m, hm, hMark, literal, hValue, -⟩
  refine ⟨ms, hParse, m, hm, hMark, ?_⟩
  rw [hValue]
  intro hNull
  cases hNull

/-
  No mark is made up from a content exactly if the content,
  where it decodes, is no object without a mark.
-/
theorem mark_recorded_iff
    (statePath data : Bytes)
    (hPath : statePath ≠ []) :
    MarkRecorded statePath data ↔
      (Decodes data → MarkGiven data) := by
  constructor
  · intro hRecorded hDecodes
    rcases (loads_iff hPath).mpr hDecodes with ⟨g, hLoad⟩
    exact (hRecorded.loaded g hLoad).given
  · intro hGiven
    have hLoaded :
        ∀ g,
          newCheckpointReplayGuard statePath
              (.content data) =
            .ok g →
          Records data g.highWater := by
      intro g hLoad
      exact records_of_loaded hPath
        (hGiven ((loads_iff hPath).mp ⟨g, hLoad⟩)) hLoad
    refine ⟨hLoaded, ?_⟩
    intro hNone
    cases hLoad :
        newCheckpointReplayGuard statePath
          (.content data) with
    | error e => exact ⟨e, hLoad⟩
    | ok g =>
        exact absurd (hLoaded g hLoad) (hNone g.highWater)

/- The object written for a mark records it. -/
theorem mark_recorded_in_object :
    MarkRecorded (ascii "/state/hw.json")
      (GuardState.marshal ⟨7, [], []⟩) := by
  apply (mark_recorded_iff (ascii "/state/hw.json")
    (GuardState.marshal ⟨7, [], []⟩) (by decide)).mpr
  intro _ _
  have hPlain : Json.Plain [] := by
    simp [Json.Plain]
  have hTrim :
      trimSpace (GuardState.marshal ⟨7, [], []⟩) =
        GuardState.marshal ⟨7, [], []⟩ := by
    rcases GuardState.marshal_braces ⟨7, [], []⟩ with
      ⟨s, hBraces⟩
    rw [hBraces, trimSpace_braces]
  rw [hTrim]
  refine ⟨_, GuardState.parse_marshal hPlain hPlain, _,
    List.mem_cons_self, rfl, ?_⟩
  intro hNull
  cases hNull

/- An object with no members is read as mark zero. -/
theorem empty_object_resets :
    newCheckpointReplayGuard (ascii "/state/hw.json")
        (.content (ascii "\x7b\x7d")) =
      .ok ⟨ascii "/state/hw.json", 0, true, none, none⟩ ∧
    ∀ hw, ¬ Records (ascii "\x7b\x7d") hw := by
  refine ⟨by rfl, ?_⟩
  intro hw hRecords
  rcases hRecords.given (by rfl) with
    ⟨ms, hParse, m, hm, -⟩
  have hEmpty :
      Json.parse (trimSpace (ascii "\x7b\x7d")) =
        some (.object []) := by
    rfl
  rw [hEmpty] at hParse
  cases hParse
  cases hm

end Server

end BridgeSigner
