import BridgeSigner.Server.GuardDraw

/-
  A failed advance of the replay guard
  (server/replay_guard.go).

  `CheckAndAdvance` rolls its memory back when the persist
  fails. Two of the nine file operations come after the
  rename: when one of these fails, the memory is rolled back
  and the file is not. And where the state file is absent and
  its own name is drawn for the temporary file, an advance
  that succeeds leaves no file at all.

  Key definitions include:
    * `CheckpointReplayGuard.onDisk`
    * `CheckpointReplayGuard.AllOrNothing`
    * `CheckpointReplayGuard.Undone`

  Main results:
    * `CheckpointReplayGuard.advance_all_or_nothing_iff`
-/

------------------------------------------------------------
-- All Or Nothing
------------------------------------------------------------

namespace BridgeSigner

namespace Server

namespace CheckpointReplayGuard

/- The guard that a restart would load. -/
def onDisk
    (g : CheckpointReplayGuard)
    (d : Disk) : Except LoadError CheckpointReplayGuard :=
  newCheckpointReplayGuard g.statePath d.read

/- The mark and the memo of two guards are the same. -/
def SameMark
    (g g' : CheckpointReplayGuard) : Prop :=
  g'.highWater = g.highWater ∧
    g'.signedCheckpoint = g.signedCheckpoint ∧
    g'.signedSignature = g.signedSignature

/-
  An error changes nothing, in memory or on disk; success
  puts the timestamp, without a memo, into both. A guard
  without a state path has no file.
-/
def AllOrNothing
    (g : CheckpointReplayGuard)
    (ts : UInt64)
    (d : Disk)
    (r : Option GuardError × CheckpointReplayGuard × Disk) :
    Prop :=
  match r with
  | (some _, g', d') =>
      g.SameMark g' ∧ g.onDisk d' = g.onDisk d
  | (none, g', d') =>
      (bareGuard g.statePath ts).SameMark g' ∧
        (g.statePath ≠ [] →
          g.onDisk d' = .ok (bareGuard g.statePath ts))

theorem AllOrNothing.of_error
    {g : CheckpointReplayGuard}
    {ts : UInt64}
    {d : Disk}
    {r : Option GuardError × CheckpointReplayGuard × Disk}
    {e : GuardError}
    (h : g.AllOrNothing ts d r)
    (hError : r.1 = some e) :
    g.onDisk r.2.2 = g.onDisk d := by
  rcases r with ⟨_, g', d'⟩
  cases hError
  exact h.2

theorem AllOrNothing.of_ok
    {g : CheckpointReplayGuard}
    {ts : UInt64}
    {d : Disk}
    {r : Option GuardError × CheckpointReplayGuard × Disk}
    (h : g.AllOrNothing ts d r)
    (hOk : r.1 = none)
    (hPath : g.statePath ≠ []) :
    g.onDisk r.2.2 = .ok (bareGuard g.statePath ts) := by
  rcases r with ⟨_, g', d'⟩
  cases hOk
  exact h.2 hPath

/- A timestamp that the guard turns away at once. -/
def Rejects
    (g : CheckpointReplayGuard)
    (ts : UInt64) : Prop :=
  g.loaded = true ∧ ts ≤ g.highWater

/- A draw, where `Remove` does what it should. -/
def drawn
    (n : UInt32) : Draw :=
  ⟨n, 0, true⟩

/-
  The persist, if there is one, does not fail after the
  rename, or the file holds the new timestamp already. Where
  the path itself is drawn, the persist does fail.
-/
def Undone
    {ν : Type}
    (place : Place ν)
    (g : CheckpointReplayGuard)
    (ts : UInt64)
    (d : Disk)
    (n : UInt32)
    (fault : Option FileOp) : Prop :=
  g.Rejects ts ∨
    g.statePath = [] ∨
    (¬ (drawn n).Hits place g.statePath d ∧
      fault ≠ some .openDir ∧ fault ≠ some .fsyncDir) ∨
    ((drawn n).Hits place g.statePath d ∧ fault ≠ none) ∨
    g.onDisk d = .ok (bareGuard g.statePath ts)

end CheckpointReplayGuard

end Server

end BridgeSigner

------------------------------------------------------------
-- When A Failed Advance Changes Nothing
------------------------------------------------------------

namespace BridgeSigner

namespace Server

theorem bareGuard_wellFormed
    {statePath : Bytes}
    (hPath : statePath ≠ [])
    (ts : UInt64) :
    (bareGuard statePath ts).WellFormed where
  loaded := rfl
  path := hPath
  memo := Or.inl ⟨rfl, rfl⟩

theorem FileOp.landed_iff
    (op : FileOp) :
    op.Landed ↔ op = .openDir ∨ op = .fsyncDir := by
  cases op <;> simp [FileOp.Landed]

namespace CheckpointReplayGuard

variable {g : CheckpointReplayGuard}
variable {ts : UInt64}
variable {d : Disk}
variable {persist :
  CheckpointReplayGuard → Option FileOp × Disk}

theorem checkAndAdvanceBy_rejected
    (hRejects : g.Rejects ts) :
    g.checkAndAdvanceBy ts d persist =
      (some (.rejected ts g.highWater), g, d) := by
  simp [checkAndAdvanceBy, hRejects.1, hRejects.2]

theorem checkAndAdvanceBy_memory
    (hRejects : ¬g.Rejects ts)
    (hPath : g.statePath = []) :
    g.checkAndAdvanceBy ts d persist =
      (none, g.advanceTo ts, d) := by
  have hPass : ¬(g.loaded && decide (ts ≤ g.highWater)) := by
    simpa [Rejects] using hRejects
  rw [checkAndAdvanceBy, if_neg hPass, if_pos hPath]

/- The persist decides what is returned. -/
theorem checkAndAdvanceBy_persists
    {fault : Option FileOp}
    {d' : Disk}
    (hRejects : ¬g.Rejects ts)
    (hPath : g.statePath ≠ [])
    (hPersist : persist (g.advanceTo ts) = (fault, d')) :
    g.checkAndAdvanceBy ts d persist =
      (fault.map .persist,
        if fault = none then g.advanceTo ts else g,
        d') := by
  have hPass : ¬(g.loaded && decide (ts ≤ g.highWater)) := by
    simpa [Rejects] using hRejects
  rw [checkAndAdvanceBy, if_neg hPass, if_neg hPath,
    hPersist]
  cases fault with
  | none => rfl
  | some op => rfl

/- The file that an advance writes loads as its timestamp. -/
theorem onDisk_advanceTo
    (hPath : g.statePath ≠ []) :
    g.onDisk ⟨some (g.advanceTo ts).blob, none⟩ =
      .ok (bareGuard g.statePath ts) :=
  newCheckpointReplayGuard_blob
    (bareGuard_wellFormed hPath ts)

/- Without a file the guard starts at zero. -/
theorem onDisk_none
    (hFile : d.file = none) :
    g.onDisk d = .ok (bareGuard g.statePath 0) := by
  rw [onDisk, Disk.read, hFile]
  unfold newCheckpointReplayGuard
  split <;> rfl

theorem not_landed_iff
    {op : FileOp} :
    ¬op.Landed ↔
      some op ≠ some .openDir ∧ some op ≠ some .fsyncDir := by
  rw [FileOp.landed_iff, not_or]
  simp

/- The persist is in another file, and then in place. -/
theorem allOrNothing_beside_iff
    (hPath : g.statePath ≠ [])
    (fault : Option FileOp) :
    g.AllOrNothing ts d
        (fault.map .persist,
          if fault = none then g.advanceTo ts else g,
          ⟨(g.advanceTo ts).persistedFile d fault, none⟩) ↔
      (fault ≠ some .openDir ∧ fault ≠ some .fsyncDir) ∨
        g.onDisk d = .ok (bareGuard g.statePath ts) := by
  cases fault with
  | none =>
      refine iff_of_true ⟨⟨rfl, rfl, rfl⟩, fun _ => ?_⟩ ?_
      · exact onDisk_advanceTo hPath
      · exact Or.inl ⟨by simp, by simp⟩
  | some op =>
      by_cases hLanded : op.Landed
      · -- The file is replaced, the memory is not.
        have hFile :
            (g.advanceTo ts).persistedFile d (some op) =
              some (g.advanceTo ts).blob :=
          if_pos hLanded
        rw [hFile, or_iff_right fun hEarly =>
          not_landed_iff.mpr hEarly hLanded]
        constructor
        · rintro ⟨-, hSame⟩
          exact hSame.symm.trans (onDisk_advanceTo hPath)
        · intro hHeld
          exact ⟨⟨rfl, rfl, rfl⟩,
            (onDisk_advanceTo hPath).trans hHeld.symm⟩
      · have hFile :
            (g.advanceTo ts).persistedFile d (some op) =
              d.file :=
          if_neg hLanded
        rw [hFile]
        exact iff_of_true ⟨⟨rfl, rfl, rfl⟩, rfl⟩
          (Or.inl (not_landed_iff.mp hLanded))

/- The path is drawn, and what was written is removed. -/
theorem allOrNothing_inPlace_iff
    (hPath : g.statePath ≠ [])
    (hFile : d.file = none)
    (fault : Option FileOp) :
    g.AllOrNothing ts d
        (fault.map .persist,
          if fault = none then g.advanceTo ts else g,
          ⟨none, none⟩) ↔
      fault ≠ none ∨
        g.onDisk d = .ok (bareGuard g.statePath ts) := by
  have hBefore : g.onDisk d = .ok (bareGuard g.statePath 0) :=
    onDisk_none hFile
  have hAfter :
      g.onDisk ⟨none, none⟩ =
        .ok (bareGuard g.statePath 0) :=
    onDisk_none rfl
  cases fault with
  | none =>
      constructor
      · rintro ⟨-, hLoads⟩
        refine Or.inr (hBefore.trans ?_)
        exact hAfter.symm.trans (hLoads hPath)
      · rintro (hSome | hHeld)
        · exact absurd rfl hSome
        · refine ⟨⟨rfl, rfl, rfl⟩, fun _ => ?_⟩
          exact hAfter.trans (hBefore.symm.trans hHeld)
  | some op =>
      exact iff_of_true
        ⟨⟨rfl, rfl, rfl⟩, hAfter.trans hBefore.symm⟩
        (Or.inl (by simp))

/-
  A failed advance changes nothing, in memory or on disk, and
  one that succeeds is in both, unless the persist failed
  after its rename, or the absent file was drawn itself; and
  also then if the file loaded as the new timestamp before.
-/
theorem advance_all_or_nothing_iff
    {ν : Type}
    [DecidableEq ν]
    (place : Place ν)
    (g : CheckpointReplayGuard)
    (ts : UInt64)
    (d : Disk)
    (n : UInt32)
    (fault : Option FileOp) :
    g.AllOrNothing ts d
        (g.checkAndAdvanceAt place ts d (drawn n) fault) ↔
      g.Undone place ts d n fault := by
  unfold checkAndAdvanceAt Undone
  by_cases hRejects : g.Rejects ts
  · rw [checkAndAdvanceBy_rejected hRejects]
    exact iff_of_true ⟨⟨rfl, rfl, rfl⟩, rfl⟩ (Or.inl hRejects)
  by_cases hPath : g.statePath = []
  · rw [checkAndAdvanceBy_memory hRejects hPath]
    exact iff_of_true
      ⟨⟨rfl, rfl, rfl⟩, fun hNe => absurd hPath hNe⟩
      (Or.inr (Or.inl hPath))
  by_cases hHits : (drawn n).Hits place g.statePath d
  · have hPersist :
        (g.advanceTo ts).persistLockedAt place d (drawn n)
            fault =
          (fault, ⟨none, none⟩) :=
      if_pos hHits
    rw [checkAndAdvanceBy_persists hRejects hPath hPersist,
      allOrNothing_inPlace_iff hPath hHits.1]
    simp [hRejects, hPath, hHits]
  · have hPersist :
        (g.advanceTo ts).persistLockedAt place d (drawn n)
            fault =
          (g.advanceTo ts).persistLocked d fault :=
      if_neg hHits
    rw [checkAndAdvanceBy_persists hRejects hPath
        (hPersist.trans (persistLocked_eq _ _ _)),
      allOrNothing_beside_iff hPath]
    simp [hRejects, hPath, hHits]

/- The directory cannot be synced after the rename. -/
theorem failed_sync_moves_file :
    let g := bareGuard (ascii "/state/checkpoint_hw") 5
    let d : Disk := ⟨some g.blob, none⟩
    let r :=
      g.checkAndAdvanceAt (Place.resolving []) 7 d (drawn 1)
        (some .fsyncDir)
    r.1 = some (.persist .fsyncDir) ∧
      r.2.1 = g ∧
      g.onDisk d = .ok g ∧
      g.onDisk r.2.2 = .ok (bareGuard g.statePath 7) ∧
      ¬g.AllOrNothing 7 d r := by
  have hFiles :
      let g := bareGuard (ascii "/state/checkpoint_hw") 5
      let d : Disk := ⟨some g.blob, none⟩
      let r :=
        g.checkAndAdvanceAt (Place.resolving []) 7 d
          (drawn 1) (some .fsyncDir)
      r.1 = some (.persist .fsyncDir) ∧
        r.2.1 = g ∧
        g.onDisk d = .ok g ∧
        g.onDisk r.2.2 = .ok (bareGuard g.statePath 7) := by
    decide +kernel
  rcases hFiles with ⟨hError, hMemory, hBefore, hAfter⟩
  refine ⟨hError, hMemory, hBefore, hAfter, ?_⟩
  intro hAll
  have hMark :=
    hAfter.symm.trans ((hAll.of_error hError).trans hBefore)
  exact absurd hMark (by decide)

/-
  The first advance of a guard whose file has a name that may
  be drawn: no call fails, nil is returned, and there is no
  file.
-/
theorem drawn_state_file_is_removed :
    let g := bareGuard (ascii "/state/.ckpt-hw-7.tmp") 0
    let d : Disk := ⟨none, none⟩
    let r :=
      g.checkAndAdvanceAt (Place.resolving []) 5 d (drawn 7)
        none
    r.1 = none ∧ r.2.1.highWater = 5 ∧
      r.2.2.file = none ∧ ¬g.AllOrNothing 5 d r := by
  have hFiles :
      let g := bareGuard (ascii "/state/.ckpt-hw-7.tmp") 0
      let d : Disk := ⟨none, none⟩
      let r :=
        g.checkAndAdvanceAt (Place.resolving []) 5 d
          (drawn 7) none
      r.1 = none ∧ r.2.1.highWater = 5 ∧
        r.2.2.file = none ∧
        g.onDisk r.2.2 = .ok (bareGuard g.statePath 0) := by
    decide +kernel
  rcases hFiles with ⟨hResult, hMemory, hFile, hLoads⟩
  refine ⟨hResult, hMemory, hFile, ?_⟩
  intro hAll
  have hMark :=
    hLoads.symm.trans (hAll.of_ok hResult (by decide))
  exact absurd hMark (by decide)

end CheckpointReplayGuard

end Server

end BridgeSigner
