import BridgeSigner.Foundation.Execution
import BridgeSigner.Server.GuardWrite

/-
  The name that `CreateTemp` draws for the replay guard
  (server/replay_guard.go).

  On a disk of two cells the temporary file is never the state
  file. The name is drawn at random, though, and while there
  is no state file it may be drawn itself: the content is then
  written in place, the rename does nothing, and the deferred
  `Remove` takes the state file away although no call failed.
  The calls of the operating system come to just this: to the
  write on two cells where the name drawn is another one, and
  to the write in place where it is not.

  Key definitions include:
    * `Draw`
    * `writeBytesAtomicAt`
    * `CheckpointReplayGuard.checkAndAdvanceAt`
    * `writeCalls`

  Main results:
    * `writeBytesAtomicAt_of_apart`
    * `calls_refine_disk`
    * `calls_refine_cells`
-/

------------------------------------------------------------
-- The Draw
------------------------------------------------------------

namespace BridgeSigner

namespace Server

/-
  What chance adds to a persist: the number drawn, and, where
  the content is written in place, how much of it a write that
  does not end has written and whether `Remove` succeeds.
-/
structure Draw where
  number : UInt32
  written : Nat
  removed : Bool
  deriving DecidableEq, Repr

/- What is at the path, where it is the temporary file. -/
def leftInPlace
    (b : Bytes)
    (written : Nat) :
    Option FileOp → Option Bytes
| some .mkdirAll => none
| some .createTemp => none
| some .write => some (b.take written)
| _ => some b

section Place

variable {ν : Type} [DecidableEq ν]
variable (place : Place ν)
variable (path : Bytes)

/- `O_EXCL`: a name that is taken is not drawn. -/
def Draw.Hits
    (d : Disk)
    (draw : Draw) : Prop :=
  d.file = none ∧
    place.tempEntry path draw.number.toNat = place.entry path

instance
    (d : Disk)
    (draw : Draw) :
    Decidable (draw.Hits place path d) :=
  inferInstanceAs (Decidable (_ ∧ _))

/- `writeBytesAtomic`, with the name that is drawn in it. -/
def writeBytesAtomicAt
    (b : Bytes)
    (d : Disk)
    (draw : Draw)
    (fault : Option FileOp) :
    Option FileOp × Disk :=
  if draw.Hits place path d then
    -- the error of the deferred call is dropped
    (fault,
      ⟨if draw.removed then
          none
        else
          leftInPlace b draw.written fault,
        none⟩)
  else
    writeBytesAtomic b d fault

/- What a crash just before `op` leaves. -/
def crashBytesAtomicAt
    (b : Bytes)
    (d : Disk)
    (draw : Draw)
    (op : FileOp) : Disk :=
  if draw.Hits place path d then
    ⟨leftInPlace b draw.written (some op), none⟩
  else
    crashBytesAtomic b d op

namespace CheckpointReplayGuard

def persistLockedAt
    (g : CheckpointReplayGuard)
    (d : Disk)
    (draw : Draw)
    (fault : Option FileOp) :
    Option FileOp × Disk :=
  writeBytesAtomicAt place g.statePath g.blob d draw fault

def recordSignatureAt
    (g : CheckpointReplayGuard)
    (ts : UInt64)
    (checkpoint sig : Bytes)
    (d : Disk)
    (draw : Draw)
    (fault : Option FileOp) :
    Option FileOp × CheckpointReplayGuard × Disk :=
  g.recordSignatureBy ts checkpoint sig d
    (fun g' => g'.persistLockedAt place d draw fault)

def checkAndAdvanceAt
    (g : CheckpointReplayGuard)
    (ts : UInt64)
    (d : Disk)
    (draw : Draw)
    (fault : Option FileOp) :
    Option GuardError × CheckpointReplayGuard × Disk :=
  g.checkAndAdvanceBy ts d
    (fun g' => g'.persistLockedAt place d draw fault)

end CheckpointReplayGuard

variable {place : Place ν}
variable {path : Bytes}

omit [DecidableEq ν] in
theorem Draw.not_hits_of_apart
    (hApart : place.Apart path)
    (d : Disk)
    (draw : Draw) :
    ¬ draw.Hits place path d :=
  fun hHits =>
    hApart draw.number.toNat draw.number.toNat_lt hHits.2

/- Where the path cannot be drawn there are two files. -/
theorem writeBytesAtomicAt_of_apart
    (hApart : place.Apart path)
    (b : Bytes)
    (d : Disk)
    (draw : Draw)
    (fault : Option FileOp) :
    writeBytesAtomicAt place path b d draw fault =
      writeBytesAtomic b d fault :=
  if_neg (draw.not_hits_of_apart hApart d)

theorem crashBytesAtomicAt_of_apart
    (hApart : place.Apart path)
    (b : Bytes)
    (d : Disk)
    (draw : Draw)
    (op : FileOp) :
    crashBytesAtomicAt place path b d draw op =
      crashBytesAtomic b d op :=
  if_neg (draw.not_hits_of_apart hApart d)

namespace CheckpointReplayGuard

variable {g : CheckpointReplayGuard}

theorem checkAndAdvanceAt_of_apart
    (hApart : place.Apart g.statePath)
    (ts : UInt64)
    (d : Disk)
    (draw : Draw)
    (fault : Option FileOp) :
    g.checkAndAdvanceAt place ts d draw fault =
      g.checkAndAdvance ts d fault := by
  have hPersist :
      (g.advanceTo ts).persistLockedAt place d draw fault =
        (g.advanceTo ts).persistLocked d fault :=
    writeBytesAtomicAt_of_apart hApart _ _ _ _
  unfold checkAndAdvanceAt checkAndAdvance checkAndAdvanceBy
  simp only [hPersist]

theorem recordSignatureAt_of_apart
    (hApart : place.Apart g.statePath)
    (ts : UInt64)
    (checkpoint sig : Bytes)
    (d : Disk)
    (draw : Draw)
    (fault : Option FileOp) :
    g.recordSignatureAt place ts checkpoint sig d draw
        fault =
      g.recordSignature ts checkpoint sig d fault := by
  have hPersist :
      ∀ c s,
        ({ g with
          signedCheckpoint := c
          signedSignature := s } :
            CheckpointReplayGuard).persistLockedAt place d
            draw fault =
          ({ g with
            signedCheckpoint := c
            signedSignature := s } :
              CheckpointReplayGuard).persistLocked d fault :=
    fun _ _ => writeBytesAtomicAt_of_apart hApart _ _ _ _
  unfold recordSignatureAt recordSignature
    recordSignatureBy
  simp only [hPersist]

end CheckpointReplayGuard

end Place

end Server

end BridgeSigner

------------------------------------------------------------
-- The Calls Of One Write
------------------------------------------------------------

namespace BridgeSigner

namespace Server

variable {ν : Type}

/- What a process reads at a name. -/
def contentAt
    (fs : FileSystem ν)
    (p : ν) : Option Bytes :=
  (fs.read p).map File.data

variable [DecidableEq ν]
variable (place : Place ν)
variable (path b : Bytes)

/-
  `writeBytesAtomic` as a machine. An event is the next call,
  with its fault and its number.
-/
def writeCalls :
    Machine (FileSystem ν × Progress ν) (Bool × Nat) where
  step := fun s e =>
    match s.2 with
    | .going w =>
        writeBytesAtomicStep place path b s.1 e.1 e.2 w
    | .returned _ => none

/-
  The file that the calls leave is that of the write on the
  disk, from what was there before; where they have not
  returned, it is what a crash leaves.
-/
def Progress.Refines
    (old now : Option Bytes) :
    Progress ν → Prop
| .returned result =>
    ∃ draw,
      now =
        (writeBytesAtomicAt place path b ⟨old, none⟩ draw
          result).2.file
| .going _ =>
    ∃ draw op,
      now =
        (crashBytesAtomicAt place path b ⟨old, none⟩ draw
          op).file

/- A temporary file beside the path. -/
def WriteStage.Beside
    (old : Option Bytes)
    (fs : FileSystem ν)
    (target tmp : ν)
    (ino : Nat) :
    WriteStage → Prop
| .write written =>
    contentAt fs target = old ∧ fs.names tmp = some ino ∧
      fs.names target ≠ some ino ∧ written ≤ b.length ∧
        (fs.files ino).data = b.take written
| .openDir => contentAt fs target = some b
| .fsyncDir => contentAt fs target = some b
| _ =>
    contentAt fs target = old ∧ fs.names tmp = some ino ∧
      fs.names target ≠ some ino ∧ (fs.files ino).data = b

/- The path is the temporary file. -/
def WriteStage.InPlace
    (fs : FileSystem ν)
    (target : ν)
    (ino : Nat) :
    WriteStage → Prop
| .write written =>
    fs.names target = some ino ∧ written ≤ b.length ∧
      (fs.files ino).data = b.take written
| _ => fs.names target = some ino ∧ (fs.files ino).data = b

/- What is at the path while the function runs. -/
def Progress.Seen
    (old : Option Bytes)
    (fs : FileSystem ν) :
    Progress ν → Prop
| .going .mkdirAll => contentAt fs (place.entry path) = old
| .going .createTemp => contentAt fs (place.entry path) = old
| .going (.running tmp ino stage) =>
    (∃ n : UInt32, tmp = place.tempEntry path n.toNat) ∧
      (tmp ≠ place.entry path ∧
          stage.Beside b old fs (place.entry path) tmp ino ∨
        tmp = place.entry path ∧ old = none ∧
          stage.InPlace b fs (place.entry path) ino)
| .going (.removing tmp result) =>
    (∃ n : UInt32, tmp = place.tempEntry path n.toNat) ∧
      (tmp ≠ place.entry path ∧
          contentAt fs (place.entry path) =
            (writeBytesAtomic b ⟨old, none⟩ result).2.file ∨
        tmp = place.entry path ∧ old = none ∧
          ∃ written,
            contentAt fs (place.entry path) =
              leftInPlace b written result)
| .returned result =>
    ∃ draw,
      contentAt fs (place.entry path) =
        (writeBytesAtomicAt place path b ⟨old, none⟩ draw
          result).2.file

end Server

end BridgeSigner

------------------------------------------------------------
-- What The Calls Come To
------------------------------------------------------------

namespace BridgeSigner

namespace Server

section Content

variable {ν : Type}
variable {fs fs' : FileSystem ν}
variable {p : ν}
variable {ino : Nat}

theorem contentAt_named
    (hName : fs.names p = some ino) :
    contentAt fs p = some (fs.files ino).data := by
  simp [contentAt, FileSystem.read, hName]

theorem contentAt_store
    (hNe : fs.names p ≠ some ino)
    (f : File) :
    contentAt (fs.store ino f) p = contentAt fs p := by
  rw [contentAt, fs.read_store_of_ne hNe, contentAt]

theorem contentAt_spared
    (hSpared : FileSystem.Spared p fs fs') :
    contentAt fs' p = contentAt fs p := by
  rw [contentAt, hSpared.read, contentAt]

end Content

variable {ν : Type} [DecidableEq ν]
variable {place : Place ν}
variable {path b : Bytes}
variable {old : Option Bytes}
variable {fs fs' : FileSystem ν}
variable {tmp : ν}
variable {ino : Nat}

/- Before the draw a failure changes nothing. -/
theorem writeBytesAtomicAt_undrawn
    {op : FileOp}
    (hOp : op = .mkdirAll ∨ op = .createTemp)
    (draw : Draw) :
    (writeBytesAtomicAt place path b ⟨old, none⟩ draw
        (some op)).2.file =
      old := by
  unfold writeBytesAtomicAt
  split
  · rename_i hHits
    have hOld : old = none := hHits.1
    rcases hOp with rfl | rfl <;> simp [leftInPlace, hOld]
  · rcases hOp with rfl | rfl <;> rfl

/- The name drawn is another one. -/
theorem writeBytesAtomicAt_beside
    {draw : Draw}
    (hNe :
      place.tempEntry path draw.number.toNat ≠
        place.entry path)
    (d : Disk)
    (fault : Option FileOp) :
    writeBytesAtomicAt place path b d draw fault =
      writeBytesAtomic b d fault :=
  if_neg fun hHits => hNe hHits.2

theorem createTemp_seen
    {n : Nat}
    (hn : n < 2 ^ 32)
    (hFree : fs.names (place.tempEntry path n) = none)
    (hOld : contentAt fs (place.entry path) = old) :
    Progress.Seen place path b old
      (fs.create (place.tempEntry path n) ⟨[], 0o600⟩)
      (.going
        (.running (place.tempEntry path n) fs.next
          (.write 0))) := by
  refine ⟨⟨UInt32.ofNat n, ?_⟩, ?_⟩
  · rw [UInt32.toNat_ofNat_of_lt' hn]
  by_cases hSame : place.tempEntry path n = place.entry path
  · refine Or.inr ⟨hSame, ?_, ?_, Nat.zero_le _, ?_⟩
    · rw [← hOld, ← hSame, contentAt, FileSystem.read, hFree]
      rfl
    · rw [← hSame]
      exact fs.create_names_self _ _
    · rw [FileSystem.create_files_self]
      rfl
  · refine Or.inl ⟨hSame, ?_, fs.create_names_self _ _, ?_,
      Nat.zero_le _, ?_⟩
    · rw [contentAt_spared
        (FileSystem.create_spared hSame _), hOld]
    · rw [fs.create_names_of_ne (Ne.symm hSame)]
      intro hName
      exact absurd (fs.names_lt _ _ hName)
        (Nat.lt_irrefl _)
    · rw [FileSystem.create_files_self]
      rfl

theorem writeChunk_seen
    {written : Nat}
    (hSeen :
      Progress.Seen place path b old fs
        (.going (.running tmp ino (.write written))))
    (n : Nat)
    (fault : Bool) :
    Progress.Seen place path b old
      (writeChunk b fs tmp ino written n fault).1
      (writeChunk b fs tmp ino written n fault).2 := by
  rcases hSeen with
    ⟨hDrawn, ⟨hNe, hOld, hName, hOther, hLe, hData⟩ |
      ⟨hSame, hOld, hName, hLe, hData⟩⟩
  · have hText := fs.writePiece_files hLe hData n
    have hStays :
        contentAt (fs.writePiece ino b written n)
            (place.entry path) =
          old :=
      (contentAt_store hOther _).trans hOld
    unfold writeChunk
    simp only
    split
    · exact ⟨hDrawn, Or.inl ⟨hNe, hStays⟩⟩
    · split
      · rename_i hMore
        exact ⟨hDrawn, Or.inl ⟨hNe, hStays, hName, hOther,
          hMore.le, hText⟩⟩
      · rename_i hAll
        rw [List.take_of_length_le (not_lt.mp hAll)] at hText
        exact ⟨hDrawn, Or.inl ⟨hNe, hStays, hName, hOther,
          hText⟩⟩
  · have hText := fs.writePiece_files hLe hData n
    unfold writeChunk
    simp only
    split
    · have hStill :
          (fs.writePiece ino b written n).names
              (place.entry path) =
            some ino :=
        hName
      exact ⟨hDrawn, Or.inr ⟨hSame, hOld, written + n,
        (contentAt_named hStill).trans
          (congrArg some hText)⟩⟩
    · split
      · rename_i hMore
        exact ⟨hDrawn, Or.inr ⟨hSame, hOld, hName, hMore.le,
          hText⟩⟩
      · rename_i hAll
        rw [List.take_of_length_le (not_lt.mp hAll)] at hText
        exact ⟨hDrawn, Or.inr ⟨hSame, hOld, hName, hText⟩⟩

/- A call after the write fails. -/
theorem failed_seen
    {stage : WriteStage}
    (hStage : ∀ written, stage ≠ .write written)
    (hSeen :
      Progress.Seen place path b old fs
        (.going (.running tmp ino stage))) :
    Progress.Seen place path b old fs
      (.going (.removing tmp (some stage.op))) := by
  rcases hSeen with
    ⟨hDrawn, ⟨hNe, hBeside⟩ | ⟨hSame, hOld, hIn⟩⟩
  · refine ⟨hDrawn, Or.inl ⟨hNe, ?_⟩⟩
    cases stage with
    | write written => exact absurd rfl (hStage written)
    | openDir => exact hBeside
    | fsyncDir => exact hBeside
    | _ => exact hBeside.1
  · refine ⟨hDrawn, Or.inr ⟨hSame, hOld, 0, ?_⟩⟩
    cases stage with
    | write written => exact absurd rfl (hStage written)
    | _ =>
        rw [contentAt_named hIn.1, hIn.2]
        rfl

theorem writeCall_seen
    {stage : WriteStage}
    {w : Writing ν}
    (hSeen :
      Progress.Seen place path b old fs
        (.going (.running tmp ino stage)))
    (hCall :
      writeCall place path fs tmp ino stage =
        some (fs', w)) :
    Progress.Seen place path b old fs' (.going w) := by
  rcases hSeen with
    ⟨hDrawn, ⟨hNe, hBeside⟩ | ⟨hSame, hOld, hIn⟩⟩
  · cases stage with
    | write written => cases hCall
    | chmod =>
        cases hCall
        rcases hBeside with ⟨hOld, hName, hOther, hData⟩
        refine ⟨hDrawn, Or.inl ⟨hNe,
          (contentAt_store hOther _).trans hOld, hName,
          hOther, ?_⟩⟩
        rw [FileSystem.store_files_self]
        exact hData
    | fsync =>
        cases hCall
        exact ⟨hDrawn, Or.inl ⟨hNe, hBeside⟩⟩
    | close =>
        cases hCall
        exact ⟨hDrawn, Or.inl ⟨hNe, hBeside⟩⟩
    | rename =>
        cases hCall
        rcases hBeside with ⟨hOld, hName, hOther, hData⟩
        refine ⟨hDrawn, Or.inl ⟨hNe, ?_⟩⟩
        unfold WriteStage.Beside contentAt
        rw [fs.read_rename hNe]
        exact (contentAt_named hName).trans
          (congrArg some hData)
    | openDir =>
        cases hCall
        exact ⟨hDrawn, Or.inl ⟨hNe, hBeside⟩⟩
    | fsyncDir =>
        cases hCall
        exact ⟨hDrawn, Or.inl ⟨hNe, hBeside⟩⟩
  · cases stage with
    | write written => cases hCall
    | chmod =>
        cases hCall
        refine ⟨hDrawn, Or.inr ⟨hSame, hOld, hIn.1, ?_⟩⟩
        rw [FileSystem.store_files_self]
        exact hIn.2
    | rename =>
        cases hCall
        have hNothing :
            fs.rename tmp (place.entry path) = fs := by
          rw [hSame, FileSystem.rename, if_pos rfl]
        rw [hNothing]
        exact ⟨hDrawn, Or.inr ⟨hSame, hOld, hIn⟩⟩
    | fsyncDir =>
        cases hCall
        refine ⟨hDrawn, Or.inr ⟨hSame, hOld, 0, ?_⟩⟩
        exact (contentAt_named hIn.1).trans
          (congrArg some hIn.2)
    | _ =>
        cases hCall
        exact ⟨hDrawn, Or.inr ⟨hSame, hOld, hIn⟩⟩

theorem removed_seen
    {result : Option FileOp}
    (hSeen :
      Progress.Seen place path b old fs
        (.going (.removing tmp result))) :
    Progress.Seen place path b old (fs.remove tmp)
      (.returned result) := by
  rcases hSeen with
    ⟨⟨n, hDrawn⟩, ⟨hNe, hFile⟩ |
      ⟨hSame, hOld, written, hFile⟩⟩
  · refine ⟨⟨n, 0, true⟩, ?_⟩
    rw [writeBytesAtomicAt_beside (hDrawn ▸ hNe), ← hFile]
    exact contentAt_spared (FileSystem.remove_spared hNe)
  · refine ⟨⟨n, written, true⟩, ?_⟩
    rw [writeBytesAtomicAt,
      if_pos ⟨hOld, hDrawn.symm.trans hSame⟩]
    simp [contentAt, FileSystem.read, hSame]

/- The error of the removal is dropped. -/
theorem kept_seen
    {result : Option FileOp}
    (hSeen :
      Progress.Seen place path b old fs
        (.going (.removing tmp result))) :
    Progress.Seen place path b old fs
      (.returned result) := by
  rcases hSeen with
    ⟨⟨n, hDrawn⟩, ⟨hNe, hFile⟩ |
      ⟨hSame, hOld, written, hFile⟩⟩
  · refine ⟨⟨n, 0, true⟩, ?_⟩
    rw [writeBytesAtomicAt_beside (hDrawn ▸ hNe)]
    exact hFile
  · refine ⟨⟨n, written, false⟩, ?_⟩
    rw [writeBytesAtomicAt,
      if_pos ⟨hOld, hDrawn.symm.trans hSame⟩]
    exact hFile

/- A failure before the draw. -/
theorem undrawn_seen
    {op : FileOp}
    (hOp : op = .mkdirAll ∨ op = .createTemp)
    (hOld : contentAt fs (place.entry path) = old) :
    Progress.Seen place path b old fs
      (.returned (some op)) := by
  refine ⟨⟨0, 0, true⟩, ?_⟩
  rw [writeBytesAtomicAt_undrawn hOp]
  exact hOld

theorem step_seen
    {w : Writing ν}
    {fault : Bool}
    {n : Nat}
    {progress : Progress ν}
    (hSeen : Progress.Seen place path b old fs (.going w))
    (hStep :
      writeBytesAtomicStep place path b fs fault n w =
        some (fs', progress)) :
    Progress.Seen place path b old fs' progress := by
  cases writeBytesAtomicStep_made hStep with
  | noDir => exact undrawn_seen (Or.inl rfl) hSeen
  | mkdirAll => exact hSeen
  | noTemp => exact undrawn_seen (Or.inr rfl) hSeen
  | createTemp hDraw hFree =>
      exact createTemp_seen hDraw hFree hSeen
  | chunk => exact writeChunk_seen hSeen _ _
  | failed hStage => exact failed_seen hStage hSeen
  | called hCall => exact writeCall_seen hSeen hCall
  | kept => exact kept_seen hSeen
  | removed => exact removed_seen hSeen

/- A crash before the draw. -/
theorem refines_undrawn
    {w : Writing ν}
    {now : Option Bytes}
    (hOld : now = old) :
    (Progress.going w).Refines place path b old now := by
  refine ⟨⟨0, 0, true⟩, .mkdirAll, ?_⟩
  unfold crashBytesAtomicAt
  split
  · rename_i hHits
    exact hOld.trans hHits.1
  · exact hOld

/- A crash with a temporary file beside the state file. -/
theorem refines_beside
    {w : Writing ν}
    {now : Option Bytes}
    {n : UInt32}
    {op : FileOp}
    (hNe :
      place.tempEntry path n.toNat ≠ place.entry path)
    (hFile :
      now = (crashBytesAtomic b ⟨old, none⟩ op).file) :
    (Progress.going w).Refines place path b old now := by
  refine ⟨⟨n, 0, true⟩, op, ?_⟩
  rw [crashBytesAtomicAt, if_neg fun hHits => hNe hHits.2]
  exact hFile

/- A crash with the state file as temporary file. -/
theorem refines_inPlace
    {w : Writing ν}
    {now : Option Bytes}
    {n : UInt32}
    {op : FileOp}
    {written : Nat}
    (hSame :
      place.tempEntry path n.toNat = place.entry path)
    (hOld : old = none)
    (hFile : now = leftInPlace b written (some op)) :
    (Progress.going w).Refines place path b old now := by
  refine ⟨⟨n, written, true⟩, op, ?_⟩
  rw [crashBytesAtomicAt, if_pos ⟨hOld, hSame⟩]
  exact hFile

/- What a crash between two calls leaves. -/
theorem going_refines
    {w : Writing ν}
    (hSeen : Progress.Seen place path b old fs (.going w)) :
    (Progress.going w).Refines place path b old
      (contentAt fs (place.entry path)) := by
  cases w with
  | mkdirAll => exact refines_undrawn hSeen
  | createTemp => exact refines_undrawn hSeen
  | running tmp ino stage =>
      rcases hSeen with
        ⟨⟨n, rfl⟩, ⟨hNe, hStage⟩ | ⟨hSame, hOld, hStage⟩⟩
      · have hFile :
            contentAt fs (place.entry path) =
              (crashBytesAtomic b ⟨old, none⟩
                stage.op).file := by
          cases stage with
          | openDir => exact hStage
          | fsyncDir => exact hStage
          | _ => exact hStage.1
        exact refines_beside hNe hFile
      · cases stage with
        | write written =>
            have hFile :
                contentAt fs (place.entry path) =
                  leftInPlace b written (some .write) :=
              (contentAt_named hStage.1).trans
                (congrArg some hStage.2.2)
            exact refines_inPlace hSame hOld hFile
        | _ =>
            have hFile :
                contentAt fs (place.entry path) =
                  leftInPlace b 0 (some .fsyncDir) :=
              (contentAt_named hStage.1).trans
                (congrArg some hStage.2)
            exact refines_inPlace hSame hOld hFile
  | removing tmp result =>
      rcases hSeen with
        ⟨⟨n, rfl⟩, ⟨hNe, hFile⟩ |
          ⟨hSame, hOld, written, hFile⟩⟩
      · cases result with
        | none =>
            have hRenamed :
                contentAt fs (place.entry path) =
                  (crashBytesAtomic b ⟨old, none⟩
                    .fsyncDir).file :=
              hFile
            exact refines_beside hNe hRenamed
        | some op =>
            rw [writeBytesAtomic_fault,
              ← crashBytesAtomic_file] at hFile
            exact refines_beside hNe hFile
      · cases result with
        | none =>
            have hWhole :
                contentAt fs (place.entry path) =
                  leftInPlace b written (some .fsyncDir) :=
              hFile
            exact refines_inPlace hSame hOld hWhole
        | some op =>
            exact refines_inPlace hSame hOld hFile

/-
  However the calls go, what is at the path is what the write
  on the disk leaves, for some draw.
-/
theorem calls_refine_disk
    {es : List (Bool × Nat)}
    {progress : Progress ν}
    (hRun :
      (writeCalls place path b).run (fs, .going .mkdirAll)
          es =
        some (fs', progress)) :
    progress.Refines place path b
      (contentAt fs (place.entry path))
      (contentAt fs' (place.entry path)) := by
  have hSeen :
      Progress.Seen place path b
        (contentAt fs (place.entry path)) fs' progress := by
    refine Machine.run_invariant
      (P := fun s : FileSystem ν × Progress ν =>
        Progress.Seen place path b
          (contentAt fs (place.entry path)) s.1 s.2)
      ?_ hRun rfl
    rintro ⟨fs₁, progress₁⟩ e ⟨fs₂, progress₂⟩ hStep hSeen
    cases progress₁ with
    | going w => exact step_seen hSeen hStep
    | returned result => cases hStep
  cases progress with
  | going w => exact going_refines hSeen
  | returned result => exact hSeen

/- Where the path cannot be drawn, the disk has two cells. -/
theorem calls_refine_cells
    (hApart : place.Apart path)
    {es : List (Bool × Nat)}
    {result : Option FileOp}
    (hRun :
      (writeCalls place path b).run (fs, .going .mkdirAll)
          es =
        some (fs', .returned result)) :
    contentAt fs' (place.entry path) =
      (writeBytesAtomic b
        ⟨contentAt fs (place.entry path), none⟩
        result).2.file := by
  rcases calls_refine_disk hRun with ⟨draw, hFile⟩
  rw [writeBytesAtomicAt_of_apart hApart] at hFile
  exact hFile

theorem killed_calls_refine_cells
    (hApart : place.Apart path)
    {es : List (Bool × Nat)}
    {w : Writing ν}
    (hRun :
      (writeCalls place path b).run (fs, .going .mkdirAll)
          es =
        some (fs', .going w)) :
    ∃ op,
      contentAt fs' (place.entry path) =
        (crashBytesAtomic b
          ⟨contentAt fs (place.entry path), none⟩
          op).file := by
  rcases calls_refine_disk hRun with ⟨draw, op, hFile⟩
  rw [crashBytesAtomicAt_of_apart hApart] at hFile
  exact ⟨op, hFile⟩

end Server

end BridgeSigner
