import BridgeSigner.Foundation.TempName
import BridgeSigner.Foundation.Versions
import BridgeSigner.Server.ReplayGuard

/-
  `writeBytesAtomic` and `syncDirBestEffort`, one call of the
  operating system after the other (server/replay_guard.go).

  The new content goes to a temporary file in the directory
  of the path. The file is synced before it takes the name,
  and the directory afterwards. Every call may fail, and a
  write may be short. Only the rename gives the path a new
  version, and only a synced one; when the call has returned
  without an error, the new content is the only version.

  Key definitions include:
    * `Place.Suits`
    * `Writing`
    * `writeBytesAtomicStep`
    * `CallMade`
    * `Writing.Ready`

  Main results:
    * `writeBytesAtomicStep_holds`
    * `Writing.Ready.other`
-/

------------------------------------------------------------
-- Paths
------------------------------------------------------------

namespace BridgeSigner

namespace Server

/-
  How paths are resolved: the entry that a path denotes, and
  the entries that a directory holds.
-/
structure Place (ν : Type) where
  entry : Bytes → ν
  holds : Bytes → ν → Bool

theorem guardFront_noSlash :
    Path.slash ∉ ascii ".ckpt-hw-" := by
  decide

theorem guardBack_noSlash :
    Path.slash ∉ ascii ".tmp" := by
  decide

theorem guardFront_long :
    2 < (ascii ".ckpt-hw-").length := by
  decide

/- The pattern ".ckpt-hw-*.tmp". -/
def guardPattern : TempPattern where
  front := ascii ".ckpt-hw-"
  back := ascii ".tmp"
  front_noSlash := guardFront_noSlash
  back_noSlash := guardBack_noSlash
  long := guardFront_long

/- The pattern with a number for the star. -/
def guardTempName
    (n : Nat) : Bytes :=
  guardPattern.name n

def guardTempPath
    (dir : Bytes)
    (n : Nat) : Bytes :=
  guardPattern.path dir n

namespace Place

variable {ν : Type}
variable (place : Place ν)

def tempEntry
    (path : Bytes)
    (n : Nat) : ν :=
  place.entry (guardTempPath (Path.dir path) n)

/- No name that may be drawn is that of the path. -/
def Apart
    (path : Bytes) : Prop :=
  ∀ n < 2 ^ 32, place.tempEntry path n ≠ place.entry path

/-
  No name that may be drawn is that of the path, and the
  directory that is synced is the one that has the path.
-/
structure Suits
    (path : Bytes) : Prop where
  apart : place.Apart path
  dir_holds :
    place.holds (Path.dir path) (place.entry path) = true

/- No directory on the way is a symbolic link. -/
def resolving
    (cwd : List Bytes) : Place (List Bytes) where
  entry := Path.resolve cwd
  holds := fun dir e => e.tail == Path.resolve cwd dir

end Place

/- A name that is drawn begins with a dot. -/
theorem ne_guardTempName
    {name : Bytes}
    (hHead : name.head? ≠ some 46)
    (n : Nat) :
    name ≠ guardTempName n := by
  rintro rfl
  exact hHead rfl

/- The path is drawn only if it ends in the name drawn. -/
theorem Place.resolving_apart_iff
    (cwd : List Bytes)
    (path : Bytes) :
    (Place.resolving cwd).Apart path ↔
      ∀ n < 2 ^ 32, Path.afterSlash path ≠ guardTempName n :=
  forall₂_congr fun n _ =>
    not_congr (guardPattern.resolve_path_eq_iff cwd path n)

/-
  A path whose last element is a name, but not one that may
  be drawn.
-/
theorem Place.resolving_suits
    (cwd : List Bytes)
    {path : Bytes}
    (hProper : Path.Proper (Path.afterSlash path))
    (hDots : Path.afterSlash path ≠ Path.dotdot)
    (hDrawn :
      ∀ n < 2 ^ 32, Path.afterSlash path ≠ guardTempName n) :
    (Place.resolving cwd).Suits path := by
  constructor
  · exact (Place.resolving_apart_iff cwd path).mpr hDrawn
  · have hPath :
        Path.resolve cwd path =
          Path.afterSlash path ::
            Path.resolve cwd (Path.dir path) := by
      rw [Path.resolve_afterSlash, Path.dir,
        Path.resolve_clean, Path.enter_proper hProper hDots]
    simp [resolving, hPath]

end Server

end BridgeSigner

------------------------------------------------------------
-- The Calls
------------------------------------------------------------

namespace BridgeSigner

namespace Server

/- The call on the temporary file that comes next. -/
inductive WriteStage where
| write (written : Nat)
| chmod
| fsync
| close
| rename
| openDir
| fsyncDir
  deriving DecidableEq, Repr

/- The operation that fails where a call fails. -/
def WriteStage.op : WriteStage → FileOp
| .write _ => .write
| .chmod => .chmod
| .fsync => .fsync
| .close => .close
| .rename => .rename
| .openDir => .openDir
| .fsyncDir => .fsyncDir

/-
  Where the function is. With the name and the number of the
  temporary file it is between its creation and the deferred
  `Remove`; the result is that of the function.
-/
inductive Writing (ν : Type) where
| mkdirAll
| createTemp
| running (tmp : ν) (ino : Nat) (stage : WriteStage)
| removing (tmp : ν) (result : Option FileOp)

/- It goes on, or it has returned. -/
inductive Progress (ν : Type) where
| going (w : Writing ν)
| returned (result : Option FileOp)

variable {ν : Type} [DecidableEq ν]

/- `f.Write` after some bytes, and it may go on. -/
def writeChunk
    (b : Bytes)
    (fs : FileSystem ν)
    (tmp : ν)
    (ino written n : Nat)
    (fault : Bool) : FileSystem ν × Progress ν :=
  let fs := fs.writePiece ino b written n
  if fault then
    (fs, .going (.removing tmp (some .write)))
  else if written + n < b.length then
    (fs, .going (.running tmp ino (.write (written + n))))
  else
    (fs, .going (.running tmp ino .chmod))

/- The other calls, where they succeed. -/
def writeCall
    (place : Place ν)
    (path : Bytes)
    (fs : FileSystem ν)
    (tmp : ν)
    (ino : Nat) :
    WriteStage → Option (FileSystem ν × Writing ν)
| .write _ => none
| .chmod =>
    some
      (fs.store ino { fs.files ino with mode := 0o600 },
        .running tmp ino .fsync)
| .fsync => some (fs.sync ino, .running tmp ino .close)
| .close => some (fs, .running tmp ino .rename)
| .rename =>
    some
      (fs.rename tmp (place.entry path),
        .running tmp ino .openDir)
| .openDir => some (fs, .running tmp ino .fsyncDir)
| .fsyncDir =>
    some
      (fs.syncDir (place.holds (Path.dir path)),
        .removing tmp none)

/-
  One call, which fails with `fault`. The number is the one
  that `CreateTemp` draws, or that of the bytes written.
-/
def writeBytesAtomicStep
    (place : Place ν)
    (path b : Bytes)
    (fs : FileSystem ν)
    (fault : Bool)
    (n : Nat) :
    Writing ν → Option (FileSystem ν × Progress ν)
| .mkdirAll =>
    if fault then
      some (fs, .returned (some .mkdirAll))
    else
      -- the entry of a directory made here is never synced
      some
        (fs.mkdirAll (place.holds (Path.dir path)),
          .going .createTemp)
| .createTemp =>
    if fault then
      some (fs, .returned (some .createTemp))
    else if
        n < 2 ^ 32 ∧
          fs.names (place.tempEntry path n) = none then
      -- a name that is taken is not used
      some
        (fs.create (place.tempEntry path n) ⟨[], 0o600⟩,
          .going
            (.running (place.tempEntry path n) fs.next
              (.write 0)))
    else
      none
| .running tmp ino (.write written) =>
    some (writeChunk b fs tmp ino written n fault)
| .running tmp ino stage =>
    if fault then
      some (fs, .going (.removing tmp (some stage.op)))
    else
      (writeCall place path fs tmp ino stage).map
        (fun r => (r.1, .going r.2))
| .removing tmp result =>
    -- the error of the deferred call is dropped
    some
      (if fault then fs else fs.remove tmp,
        .returned result)

/- The calls made, each with what it leads to. -/
inductive CallMade
    (place : Place ν)
    (path b : Bytes)
    (fs : FileSystem ν) :
    Writing ν → FileSystem ν → Progress ν → Prop where
| noDir :
    CallMade place path b fs .mkdirAll fs
      (.returned (some .mkdirAll))
| mkdirAll :
    CallMade place path b fs .mkdirAll
      (fs.mkdirAll (place.holds (Path.dir path)))
      (.going .createTemp)
| noTemp :
    CallMade place path b fs .createTemp fs
      (.returned (some .createTemp))
| createTemp {n} :
    n < 2 ^ 32 →
    fs.names (place.tempEntry path n) = none →
    CallMade place path b fs .createTemp
      (fs.create (place.tempEntry path n) ⟨[], 0o600⟩)
      (.going
        (.running (place.tempEntry path n) fs.next
          (.write 0)))
| chunk {tmp ino written n fault} :
    CallMade place path b fs
      (.running tmp ino (.write written))
      (writeChunk b fs tmp ino written n fault).1
      (writeChunk b fs tmp ino written n fault).2
| failed {tmp ino stage} :
    (∀ written, stage ≠ .write written) →
    CallMade place path b fs (.running tmp ino stage) fs
      (.going (.removing tmp (some stage.op)))
| called {tmp ino stage fs' w} :
    writeCall place path fs tmp ino stage = some (fs', w) →
    CallMade place path b fs (.running tmp ino stage) fs'
      (.going w)
| kept {tmp result} :
    CallMade place path b fs (.removing tmp result) fs
      (.returned result)
| removed {tmp result} :
    CallMade place path b fs (.removing tmp result)
      (fs.remove tmp) (.returned result)

/- A call after the write is made, or fails. -/
theorem writeBytesAtomicStep_tried
    {place : Place ν}
    {path b : Bytes}
    {fs : FileSystem ν}
    {fault : Bool}
    {tmp : ν}
    {ino : Nat}
    {stage : WriteStage}
    {r : FileSystem ν × Progress ν}
    (hStage : ∀ written, stage ≠ .write written)
    (hTried :
      (if fault = true then
          some (fs, .going (.removing tmp (some stage.op)))
        else
          (writeCall place path fs tmp ino stage).map
            (fun r => (r.1, .going r.2))) =
        some r) :
    CallMade place path b fs (.running tmp ino stage)
      r.1 r.2 := by
  split at hTried
  · cases hTried
    exact .failed hStage
  · rcases Option.map_eq_some_iff.mp hTried with
      ⟨r', hCall, rfl⟩
    exact .called hCall

theorem writeBytesAtomicStep_made
    {place : Place ν}
    {path b : Bytes}
    {fs fs' : FileSystem ν}
    {fault : Bool}
    {n : Nat}
    {w : Writing ν}
    {progress : Progress ν}
    (hStep :
      writeBytesAtomicStep place path b fs fault n w =
        some (fs', progress)) :
    CallMade place path b fs w fs' progress := by
  cases w with
  | mkdirAll =>
      simp only [writeBytesAtomicStep] at hStep
      split at hStep
      · cases hStep
        exact .noDir
      · cases hStep
        exact .mkdirAll
  | createTemp =>
      simp only [writeBytesAtomicStep] at hStep
      split at hStep
      · cases hStep
        exact .noTemp
      · split at hStep
        · rename_i hDrawn
          cases hStep
          exact .createTemp hDrawn.1 hDrawn.2
        · cases hStep
  | running tmp ino stage =>
      cases stage with
      | write written =>
          have hChunk :
              writeChunk b fs tmp ino written n fault =
                (fs', progress) :=
            Option.some.inj hStep
          have hMade :
              CallMade place path b fs
                (.running tmp ino (.write written))
                (writeChunk b fs tmp ino written n fault).1
                (writeChunk b fs tmp ino written n
                  fault).2 :=
            .chunk
          rw [hChunk] at hMade
          exact hMade
      | _ =>
          exact writeBytesAtomicStep_tried (by simp) hStep
  | removing tmp result =>
      cases fault with
      | true =>
          cases hStep
          exact .kept
      | false =>
          cases hStep
          exact .removed

end Server

end BridgeSigner

------------------------------------------------------------
-- The Temporary File
------------------------------------------------------------

namespace BridgeSigner

namespace Server

variable {ν : Type}

/- The temporary file has its name, and not the target's. -/
structure Hidden
    (fs : FileSystem ν)
    (target tmp : ν)
    (ino : Nat) : Prop where
  name : fs.names tmp = some ino
  unseen : some ino ∉ fs.versions target

/- What each call starts from. -/
def WriteStage.Ready
    (b : Bytes)
    (fs : FileSystem ν)
    (target tmp : ν)
    (ino : Nat) :
    WriteStage → Prop
| .write written =>
    Hidden fs target tmp ino ∧ written ≤ b.length ∧
      (fs.files ino).data = b.take written
| .chmod =>
    Hidden fs target tmp ino ∧ (fs.files ino).data = b
| .fsync =>
    Hidden fs target tmp ino ∧ (fs.files ino).data = b
| .close =>
    Hidden fs target tmp ino ∧ (fs.files ino).data = b ∧
      fs.synced ino = true
| .rename =>
    Hidden fs target tmp ino ∧ (fs.files ino).data = b ∧
      fs.synced ino = true
| .openDir => (fs.read target).map File.data = some b
| .fsyncDir => (fs.read target).map File.data = some b

/- The content is `b`. -/
def Contains
    (b : Bytes)
    (x : Option File) : Prop :=
  x.map File.data = some b

def Writing.Ready
    (b : Bytes)
    (fs : FileSystem ν)
    (target : ν) :
    Writing ν → Prop
| .mkdirAll => True
| .createTemp => True
| .running tmp ino stage =>
    tmp ≠ target ∧ ino < fs.next ∧
      stage.Ready b fs target tmp ino
| .removing tmp result =>
    tmp ≠ target ∧
      (result = none → fs.Holds target (Contains b))

/- What has been reached, also where it has returned. -/
def Progress.Ready
    (b : Bytes)
    (fs : FileSystem ν)
    (target : ν) :
    Progress ν → Prop
| .going w => w.Ready b fs target
| .returned result =>
    result = none → fs.Holds target (Contains b)

variable {b : Bytes}
variable {fs fs' : FileSystem ν}
variable {target tmp : ν}
variable {ino : Nat}

theorem Hidden.keep
    (h : Hidden fs target tmp ino)
    (hName : fs'.names tmp = fs.names tmp)
    (hVersions : fs'.versions target ⊆ fs.versions target) :
    Hidden fs' target tmp ino :=
  ⟨hName.trans h.name, fun hSeen => h.unseen (hVersions hSeen)⟩

/- What others do to other files does not matter. -/
theorem WriteStage.Ready.other
    {stage : WriteStage}
    (h : stage.Ready b fs target tmp ino)
    (hSame : FileSystem.Undisturbed tmp ino fs fs')
    (hSpared : FileSystem.Spared target fs fs') :
    stage.Ready b fs' target tmp ino := by
  have hHidden :
      Hidden fs target tmp ino → Hidden fs' target tmp ino :=
    fun hOld => hOld.keep hSame.name hSpared.versions
  cases stage with
  | write written =>
      exact ⟨hHidden h.1, h.2.1, by rw [hSame.file, h.2.2]⟩
  | chmod => exact ⟨hHidden h.1, by rw [hSame.file, h.2]⟩
  | fsync => exact ⟨hHidden h.1, by rw [hSame.file, h.2]⟩
  | close =>
      exact ⟨hHidden h.1, by rw [hSame.file, h.2.1],
        hSame.synced h.2.2⟩
  | rename =>
      exact ⟨hHidden h.1, by rw [hSame.file, h.2.1],
        hSame.synced h.2.2⟩
  | openDir =>
      unfold Ready
      rw [hSpared.read]
      exact h
  | fsyncDir =>
      unfold Ready
      rw [hSpared.read]
      exact h

/- The temporary file, while there is one. -/
def Writing.temp : Writing ν → Option (ν × Nat)
| .running tmp ino _ => some (tmp, ino)
| _ => none

theorem Writing.Ready.other
    {w : Writing ν}
    (h : w.Ready b fs target)
    (hSame :
      ∀ tmp ino, w.temp = some (tmp, ino) →
        ino < fs.next →
          FileSystem.Undisturbed tmp ino fs fs')
    (hSpared : FileSystem.Spared target fs fs') :
    w.Ready b fs' target := by
  cases w with
  | mkdirAll => trivial
  | createTemp => trivial
  | running tmp ino stage =>
      rcases h with ⟨hApart, hMade, hStage⟩
      have hTemp := hSame tmp ino rfl hMade
      exact ⟨hApart, hMade.trans_le hTemp.next,
        hStage.other hTemp hSpared⟩
  | removing tmp result =>
      exact ⟨h.1, fun hResult =>
        (h.2 hResult).spared hSpared⟩

end Server

end BridgeSigner

------------------------------------------------------------
-- What A Call Does To The Path
------------------------------------------------------------

namespace BridgeSigner

namespace Server

variable {ν : Type}
variable {place : Place ν}
variable {path b : Bytes}
variable {fs : FileSystem ν}
variable {tmp : ν}
variable {ino : Nat}
variable {P : Option File → Prop}

theorem writeChunk_holds
    {target : ν}
    {written : Nat}
    (hHolds : fs.Holds target P)
    (hApart : tmp ≠ target)
    (hMade : ino < fs.next)
    (hReady :
      (WriteStage.write written).Ready b fs target tmp ino)
    (n : Nat)
    (fault : Bool) :
    (writeChunk b fs tmp ino written n fault).1.Holds
        target P ∧
      (writeChunk b fs tmp ino written n fault).2.Ready b
        (writeChunk b fs tmp ino written n fault).1
        target := by
  rcases hReady with ⟨hHidden, hLe, hData⟩
  have hSpared :
      FileSystem.Spared target fs
        (fs.writePiece ino b written n) :=
    FileSystem.store_spared hHidden.unseen _
  have hWritten := fs.writePiece_files hLe hData n
  unfold writeChunk
  simp only
  split
  · exact ⟨hHolds.spared hSpared, hApart,
      fun hResult => by cases hResult⟩
  · split
    · rename_i hMore
      exact ⟨hHolds.spared hSpared, hApart, hMade,
        ⟨hHidden.name, hHidden.unseen⟩, hMore.le, hWritten⟩
    · rename_i hAll
      refine ⟨hHolds.spared hSpared, hApart, hMade,
        ⟨hHidden.name, hHidden.unseen⟩, hWritten.trans ?_⟩
      exact List.take_of_length_le (not_lt.mp hAll)

variable [DecidableEq ν]

theorem writeCall_holds
    {stage : WriteStage}
    {fs' : FileSystem ν}
    {w : Writing ν}
    (hPath : place.Suits path)
    (hHolds : fs.Holds (place.entry path) P)
    (hBlob : ∀ mode, P (some ⟨b, mode⟩))
    (hApart : tmp ≠ place.entry path)
    (hMade : ino < fs.next)
    (hReady : stage.Ready b fs (place.entry path) tmp ino)
    (hCall :
      writeCall place path fs tmp ino stage =
        some (fs', w)) :
    fs'.Holds (place.entry path) P ∧
      w.Ready b fs' (place.entry path) := by
  cases stage with
  | write written => cases hCall
  | chmod =>
      cases hCall
      rcases hReady with ⟨hHidden, hData⟩
      refine ⟨hHolds.spared
          (FileSystem.store_spared hHidden.unseen _),
        hApart, hMade, ⟨hHidden.name, hHidden.unseen⟩, ?_⟩
      rw [FileSystem.store_files_self]
      exact hData
  | fsync =>
      cases hCall
      rcases hReady with ⟨hHidden, hData⟩
      refine ⟨hHolds.spared (FileSystem.sync_spared ino),
        hApart, hMade, ⟨hHidden.name, hHidden.unseen⟩,
        hData, ?_⟩
      simp [FileSystem.sync]
  | close =>
      cases hCall
      exact ⟨hHolds, hApart, hMade, hReady⟩
  | rename =>
      cases hCall
      rcases hReady with ⟨hHidden, hData, hSynced⟩
      have hFile : P (some (fs.files ino)) := by
        have hBlob' := hBlob (fs.files ino).mode
        rw [← hData] at hBlob'
        exact hBlob'
      refine ⟨hHolds.rename hApart hHidden.name hSynced
          hFile, hApart, ?_, ?_⟩
      · rw [FileSystem.rename_next]
        exact hMade
      · unfold WriteStage.Ready
        rw [FileSystem.read_rename _ hApart,
          FileSystem.read, hHidden.name]
        exact congrArg some hData
  | openDir =>
      cases hCall
      exact ⟨hHolds, hApart, hMade, hReady⟩
  | fsyncDir =>
      cases hCall
      refine ⟨hHolds.spared (FileSystem.syncDir_spared _),
        hApart, fun _ => ?_⟩
      exact hHolds.syncDir hPath.dir_holds hReady

theorem createTemp_holds
    {n : Nat}
    (hPath : place.Suits path)
    (hHolds : fs.Holds (place.entry path) P)
    (hDraw : n < 2 ^ 32) :
    (fs.create (place.tempEntry path n) ⟨[], 0o600⟩).Holds
        (place.entry path) P ∧
      (Writing.running (place.tempEntry path n) fs.next
          (.write 0)).Ready b
        (fs.create (place.tempEntry path n) ⟨[], 0o600⟩)
        (place.entry path) := by
  have hApart := hPath.apart n hDraw
  have hSpared :
      FileSystem.Spared (place.entry path) fs
        (fs.create (place.tempEntry path n) ⟨[], 0o600⟩) :=
    FileSystem.create_spared hApart _
  refine ⟨hHolds.spared hSpared, hApart,
    Nat.lt_succ_self _, ⟨?_, ?_⟩, Nat.zero_le _, ?_⟩
  · exact fs.create_names_self _ _
  · intro hSeen
    exact absurd
      (FileSystem.version_lt (hSpared.versions hSeen))
      (Nat.lt_irrefl _)
  · rw [FileSystem.create_files_self]
    rfl

/-
  A call keeps what all versions of the path and the new
  content have in common; a return without an error leaves
  the new content as the only version.
-/
theorem writeBytesAtomicStep_holds
    {w : Writing ν}
    {fault : Bool}
    {n : Nat}
    {fs' : FileSystem ν}
    {progress : Progress ν}
    (hPath : place.Suits path)
    (hHolds : fs.Holds (place.entry path) P)
    (hBlob : ∀ mode, P (some ⟨b, mode⟩))
    (hReady : w.Ready b fs (place.entry path))
    (hStep :
      writeBytesAtomicStep place path b fs fault n w =
        some (fs', progress)) :
    fs'.Holds (place.entry path) P ∧
      progress.Ready b fs' (place.entry path) := by
  cases writeBytesAtomicStep_made hStep with
  | noDir => exact ⟨hHolds, fun hResult => by cases hResult⟩
  | mkdirAll =>
      exact ⟨hHolds.spared
        (FileSystem.mkdirAll_spared _), trivial⟩
  | noTemp =>
      exact ⟨hHolds, fun hResult => by cases hResult⟩
  | createTemp hDraw _ =>
      exact createTemp_holds hPath hHolds hDraw
  | chunk =>
      rcases hReady with ⟨hApart, hMade, hStage⟩
      exact writeChunk_holds hHolds hApart hMade hStage _ _
  | failed _ =>
      exact ⟨hHolds, hReady.1,
        fun hResult => by cases hResult⟩
  | called hCall =>
      rcases hReady with ⟨hApart, hMade, hStage⟩
      exact writeCall_holds hPath hHolds hBlob hApart hMade
        hStage hCall
  | kept => exact ⟨hHolds, hReady.2⟩
  | @removed tmp result =>
      have hSpared :
          FileSystem.Spared (place.entry path) fs
            (fs.remove tmp) :=
        FileSystem.remove_spared hReady.1
      exact ⟨hHolds.spared hSpared, fun hResult =>
        (hReady.2 hResult).spared hSpared⟩

end Server

end BridgeSigner
