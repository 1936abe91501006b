import Mathlib.Logic.Function.Basic
import BridgeSigner.Foundation.Bytes

/-
  A file system with hard links: names denote files, and
  several names may denote one file.

  Changes are in memory until they are synced. After a power
  loss a file that was not synced holds anything, and a name
  denotes what it denoted at some time since its directory
  was synced; a directory that was made, and whose own entry
  was not synced, may be lost with all the names in it. The
  names are of any type; what a path denotes is left to the
  user of the library.

  Key definitions include:
    * `FileSystem`
    * `FileSystem.create`, `FileSystem.link`
    * `FileSystem.mkdirAll`
    * `FileSystem.powerLoss`
    * `FileSystem.Op`
    * `FileSystem.Exposed`
    * `FileSystem.Undisturbed`

  Main results:
    * `File.writeAt_take`
    * `FileSystem.Op.undisturbed`
    * `FileSystem.powerLoss_exposed`
-/

------------------------------------------------------------
-- Files
------------------------------------------------------------

namespace BridgeSigner

/- A file: its content, and its mode bits. -/
structure File where
  data : Bytes
  mode : UInt32
  deriving DecidableEq, Repr

namespace File

/- Write from an offset; a gap before it reads as zeros. -/
def writeAt
    (f : File)
    (offset : Nat)
    (chunk : Bytes) : File :=
  { f with
    data :=
      (f.data ++ zeros (offset - f.data.length)).take
          offset ++
        chunk ++ f.data.drop (offset + chunk.length) }

/- A write at the end of the file appends. -/
theorem writeAt_end
    (f : File)
    (chunk : Bytes) :
    f.writeAt f.data.length chunk =
      { f with data := f.data ++ chunk } := by
  simp [writeAt, zeros]

/- A text is written piece by piece. -/
theorem writeAt_take
    {f : File}
    {text : Bytes}
    {offset : Nat}
    (hOffset : offset ≤ text.length)
    (hData : f.data = text.take offset)
    (n : Nat) :
    f.writeAt offset ((text.drop offset).take n) =
      { f with data := text.take (offset + n) } := by
  have hLength : f.data.length = offset := by
    rw [hData, List.length_take, Nat.min_eq_left hOffset]
  have hEnd :=
    f.writeAt_end ((text.drop offset).take n)
  rw [hLength, hData] at hEnd
  rw [hEnd, List.take_add]

end File

end BridgeSigner

------------------------------------------------------------
-- Names And Files
------------------------------------------------------------

namespace BridgeSigner

/- The directory of a name: on disk only when it is kept. -/
inductive DirState where
| missing
| made
| kept
  deriving DecidableEq, Repr

/-
  The files are numbered in the order of their creation.
  `past` holds what the disk may still have for a name,
  `dirs` the state of the directory that a name is in, and
  `synced` tells which files the disk has as they are.
-/
structure FileSystem (ν : Type) where
  names : ν → Option Nat
  past : ν → List (Option Nat)
  dirs : ν → DirState
  files : Nat → File
  synced : Nat → Bool
  next : Nat
  names_lt : ∀ p i, names p = some i → i < next
  past_lt : ∀ p i, some i ∈ past p → i < next

namespace FileSystem

variable {ν : Type}

/- The file at a name. -/
def read
    (fs : FileSystem ν)
    (p : ν) : Option File :=
  (fs.names p).map fs.files

theorem lt_of_none
    {n i : Nat}
    (hi : none = some i) :
    i < n := by
  cases hi

theorem lt_of_nil
    {n i : Nat}
    (hi : some i ∈ ([] : List (Option Nat))) :
    i < n := by
  cases hi

theorem lt_succ_of_some
    {n i : Nat}
    (hi : some n = some i) :
    i < n + 1 := by
  cases hi
  exact Nat.lt_succ_self n

/- No file at all, in directories that are kept. -/
def empty : FileSystem ν where
  names := fun _ => none
  past := fun _ => []
  dirs := fun _ => .kept
  files := fun _ => ⟨[], 0⟩
  synced := fun _ => true
  next := 0
  names_lt := fun _ _ => lt_of_none
  past_lt := fun _ _ => lt_of_nil

/- Change the content or the mode of a file. -/
def store
    (fs : FileSystem ν)
    (i : Nat)
    (f : File) : FileSystem ν :=
  { fs with
    files := Function.update fs.files i f
    synced := Function.update fs.synced i false }

/- The next piece of a text is written to a file. -/
def writePiece
    (fs : FileSystem ν)
    (i : Nat)
    (text : Bytes)
    (offset n : Nat) : FileSystem ν :=
  fs.store i
    ((fs.files i).writeAt offset ((text.drop offset).take n))

def sync
    (fs : FileSystem ν)
    (i : Nat) : FileSystem ν :=
  { fs with synced := Function.update fs.synced i true }

theorem past_lt_syncDir
    (fs : FileSystem ν)
    (holds : ν → Bool)
    (p : ν)
    (i : Nat)
    (hPast :
      some i ∈ if holds p = true then [] else fs.past p) :
    i < fs.next := by
  split at hPast
  · exact lt_of_nil hPast
  · exact fs.past_lt p i hPast

/- Sync the names that a directory holds. -/
def syncDir
    (fs : FileSystem ν)
    (holds : ν → Bool) : FileSystem ν :=
  { fs with
    past := fun p =>
      if holds p = true then [] else fs.past p
    past_lt := fs.past_lt_syncDir holds }

/- Make the directory that holds the names, if need be. -/
def mkdirAll
    (fs : FileSystem ν)
    (holds : ν → Bool) : FileSystem ν :=
  { fs with
    dirs := fun p =>
      if holds p = true ∧ fs.dirs p = .missing then
        .made
      else
        fs.dirs p }

/- The choice that a made directory was not on the disk. -/
def dirLost
    (fs : FileSystem ν)
    (p : ν)
    (k : Nat) : Prop :=
  fs.dirs p = .made ∧ k = (fs.past p).length

instance
    (fs : FileSystem ν)
    (p : ν)
    (k : Nat) :
    Decidable (fs.dirLost p k) :=
  inferInstanceAs (Decidable (_ ∧ _))

/- What a name denotes, by what is picked for it. -/
def pickName
    (fs : FileSystem ν)
    (p : ν)
    (k : Nat) : Option Nat :=
  if fs.dirLost p k then
    none
  else
    (fs.past p).getD k (fs.names p)

/- What a name may denote after a power loss. -/
theorem picked
    (fs : FileSystem ν)
    {p : ν}
    {k : Nat}
    {v : Option Nat}
    (hPick : fs.pickName p k = v)
    (hKept : fs.dirs p = .kept ∨ v ≠ none) :
    fs.names p = v ∨ v ∈ fs.past p := by
  unfold pickName at hPick
  split at hPick
  · rename_i hLost
    rcases hKept with hDir | hSome
    · rw [hLost.1] at hDir
      cases hDir
    · exact absurd hPick.symm hSome
  · rw [List.getD_eq_getElem?_getD] at hPick
    cases hGet : (fs.past p)[k]? with
    | none =>
        rw [hGet] at hPick
        exact Or.inl hPick
    | some w =>
        rw [hGet] at hPick
        subst hPick
        exact Or.inr (List.mem_of_getElem? hGet)

theorem picked_lt
    (fs : FileSystem ν)
    (pick : ν → Nat)
    (p : ν)
    (i : Nat)
    (hPick : fs.pickName p (pick p) = some i) :
    i < fs.next := by
  rcases fs.picked hPick (Or.inr (by simp)) with
    hName | hPast
  · exact fs.names_lt p i hName
  · exact fs.past_lt p i hPast

/-
  What is found after a power loss: `pick` chooses among what
  the disk may have for a name, and `lost` is what it has of
  the files that were not synced.
-/
def powerLoss
    (fs : FileSystem ν)
    (pick : ν → Nat)
    (lost : Nat → File) : FileSystem ν where
  names := fun p => fs.pickName p (pick p)
  past := fun _ => []
  dirs := fun p =>
    if fs.dirLost p (pick p) then
      .missing
    else if fs.dirs p = .made then
      .kept
    else
      fs.dirs p
  files := fun i =>
    if fs.synced i = true then fs.files i else lost i
  synced := fun _ => true
  next := fs.next
  names_lt := fs.picked_lt pick
  past_lt := fun _ _ => lt_of_nil

section Naming

variable [DecidableEq ν]

theorem names_lt_update
    (fs : FileSystem ν)
    {p : ν}
    {v : Option Nat}
    {n : Nat}
    (hNext : fs.next ≤ n)
    (hv : ∀ i, v = some i → i < n)
    (q : ν)
    (i : Nat)
    (hName : Function.update fs.names p v q = some i) :
    i < n := by
  by_cases hq : q = p
  · subst hq
    rw [Function.update_self] at hName
    exact hv i hName
  · rw [Function.update_of_ne hq] at hName
    exact (fs.names_lt q i hName).trans_le hNext

theorem past_lt_update
    (fs : FileSystem ν)
    {p : ν}
    {n : Nat}
    (hNext : fs.next ≤ n)
    (q : ν)
    (i : Nat)
    (hPast :
      some i ∈
        Function.update fs.past p
          (fs.names p :: fs.past p) q) :
    i < n := by
  by_cases hq : q = p
  · subst hq
    rw [Function.update_self, List.mem_cons] at hPast
    rcases hPast with hName | hPast
    · exact (fs.names_lt q i hName.symm).trans_le hNext
    · exact (fs.past_lt q i hPast).trans_le hNext
  · rw [Function.update_of_ne hq] at hPast
    exact (fs.past_lt q i hPast).trans_le hNext

/- Let a name denote a file that exists, or nothing. -/
def setName
    (fs : FileSystem ν)
    (p : ν)
    (v : Option Nat)
    (hv : ∀ i, v = some i → i < fs.next) :
    FileSystem ν :=
  { fs with
    names := Function.update fs.names p v
    past := Function.update fs.past p (fs.names p :: fs.past p)
    names_lt := fs.names_lt_update (Nat.le_refl _) hv
    past_lt := fs.past_lt_update (Nat.le_refl _) }

/- A new file at a name, in place of what was there. -/
def create
    (fs : FileSystem ν)
    (p : ν)
    (f : File) : FileSystem ν where
  names := Function.update fs.names p (some fs.next)
  past := Function.update fs.past p (fs.names p :: fs.past p)
  dirs := fs.dirs
  files := Function.update fs.files fs.next f
  synced := Function.update fs.synced fs.next false
  next := fs.next + 1
  names_lt :=
    fs.names_lt_update (Nat.le_succ _)
      (fun _ => lt_succ_of_some)
  past_lt := fs.past_lt_update (Nat.le_succ _)

/- A second name for the file at `q`. -/
def link
    (fs : FileSystem ν)
    (q p : ν) : FileSystem ν :=
  fs.setName p (fs.names q) (fs.names_lt q)

def remove
    (fs : FileSystem ν)
    (p : ν) : FileSystem ν :=
  fs.setName p none (fun _ => lt_of_none)

/- Two names of one file are left as they are. -/
def rename
    (fs : FileSystem ν)
    (q p : ν) : FileSystem ν :=
  if fs.names q = fs.names p then
    fs
  else
    (fs.link q p).remove q

end Naming

end FileSystem

end BridgeSigner

------------------------------------------------------------
-- What The Operations Change
------------------------------------------------------------

namespace BridgeSigner

namespace FileSystem

variable {ν : Type}
variable (fs : FileSystem ν)

@[simp] theorem store_names
    (i : Nat)
    (f : File) :
    (fs.store i f).names = fs.names :=
  rfl

@[simp] theorem store_files_self
    (i : Nat)
    (f : File) :
    (fs.store i f).files i = f := by
  simp [store]

/- A file that has a part of a text has more of it. -/
theorem writePiece_files
    {i offset : Nat}
    {text : Bytes}
    (hOffset : offset ≤ text.length)
    (hData : (fs.files i).data = text.take offset)
    (n : Nat) :
    ((fs.writePiece i text offset n).files i).data =
      text.take (offset + n) := by
  rw [writePiece, store_files_self,
    File.writeAt_take hOffset hData]

theorem store_files_of_ne
    {i j : Nat}
    (hNe : j ≠ i)
    (f : File) :
    (fs.store i f).files j = fs.files j := by
  simp [store, hNe]

theorem read_store_of_ne
    {p : ν}
    {i : Nat}
    (hNe : fs.names p ≠ some i)
    (f : File) :
    (fs.store i f).read p = fs.read p := by
  unfold read
  rw [store_names]
  cases hName : fs.names p with
  | none => rfl
  | some j =>
      have hj : j ≠ i := by
        rintro rfl
        exact hNe hName
      simp only [Option.map_some]
      rw [fs.store_files_of_ne hj]

variable [DecidableEq ν]

@[simp] theorem create_names_self
    (p : ν)
    (f : File) :
    (fs.create p f).names p = some fs.next :=
  Function.update_self p _ fs.names

@[simp] theorem create_files_self
    (p : ν)
    (f : File) :
    (fs.create p f).files fs.next = f := by
  simp [create]

theorem create_files_of_lt
    {i : Nat}
    (hLt : i < fs.next)
    (p : ν)
    (f : File) :
    (fs.create p f).files i = fs.files i := by
  simp [create, hLt.ne]

theorem create_names_of_ne
    {p q : ν}
    (hNe : q ≠ p)
    (f : File) :
    (fs.create p f).names q = fs.names q := by
  simp [create, hNe]

@[simp] theorem link_names_self
    (q p : ν) :
    (fs.link q p).names p = fs.names q := by
  simp [link, setName]

theorem link_names_of_ne
    {q p r : ν}
    (hNe : r ≠ p) :
    (fs.link q p).names r = fs.names r := by
  simp [link, setName, hNe]

@[simp] theorem remove_names_self
    (p : ν) :
    (fs.remove p).names p = none := by
  simp [remove, setName]

theorem remove_names_of_ne
    {p q : ν}
    (hNe : q ≠ p) :
    (fs.remove p).names q = fs.names q := by
  simp [remove, setName, hNe]

@[simp] theorem rename_files
    (q p : ν) :
    (fs.rename q p).files = fs.files := by
  unfold rename
  split <;> rfl

@[simp] theorem rename_next
    (q p : ν) :
    (fs.rename q p).next = fs.next := by
  unfold rename
  split <;> rfl

/- A file that is renamed is at its new name. -/
theorem read_rename
    {q p : ν}
    (hNe : q ≠ p) :
    (fs.rename q p).read p = fs.read q := by
  have hName : (fs.rename q p).names p = fs.names q := by
    unfold rename
    split
    · exact Eq.symm ‹_›
    · rw [remove_names_of_ne _ hNe.symm, link_names_self]
  rw [read, read, hName, rename_files]

theorem read_create
    (p : ν)
    (f : File) :
    (fs.create p f).read p = some f := by
  rw [read, create_names_self, Option.map_some,
    create_files_self]

end FileSystem

end BridgeSigner

------------------------------------------------------------
-- Other Processes
------------------------------------------------------------

namespace BridgeSigner

namespace FileSystem

/- What a process may do to the file system. -/
inductive Op (ν : Type) where
| create (p : ν) (f : File)
| store (i : Nat) (f : File)
| link (q p : ν)
| rename (q p : ν)
| remove (p : ν)
| sync (i : Nat)
| syncDir (holds : ν → Bool)

variable {ν : Type} [DecidableEq ν]

def Op.apply
    (fs : FileSystem ν) :
    Op ν → FileSystem ν
| .create p f => fs.create p f
| .store i f => fs.store i f
| .link q p => fs.link q p
| .rename q p => fs.rename q p
| .remove p => fs.remove p
| .sync i => fs.sync i
| .syncDir holds => fs.syncDir holds

/- The operation uses neither the name nor the file. -/
def Op.avoids
    (tmp : ν)
    (ino : Nat) :
    Op ν → Bool
| .create p _ => p != tmp
| .store i _ => i != ino
| .link q p => q != tmp && p != tmp
| .rename q p => q != tmp && p != tmp
| .remove p => p != tmp
| .sync _ => true
| .syncDir _ => true

end FileSystem

end BridgeSigner

------------------------------------------------------------
-- Files Under One Name
------------------------------------------------------------

namespace BridgeSigner

namespace FileSystem

variable {ν : Type}

/-
  The file is or was under another name than `tmp`, as far as
  the disk may know.
-/
def Exposed
    (fs : FileSystem ν)
    (tmp : ν)
    (ino : Nat) : Prop :=
  ∃ q, q ≠ tmp ∧
    (fs.names q = some ino ∨ some ino ∈ fs.past q)

/-
  Between two states, the file `ino` is left as it is, and so
  is its name `tmp`; it gets no other name.
-/
structure Undisturbed
    (tmp : ν)
    (ino : Nat)
    (fs fs' : FileSystem ν) : Prop where
  name : fs'.names tmp = fs.names tmp
  file : fs'.files ino = fs.files ino
  synced : fs.synced ino = true → fs'.synced ino = true
  next : fs.next ≤ fs'.next
  exposed : fs'.Exposed tmp ino → fs.Exposed tmp ino

variable {fs : FileSystem ν}
variable {tmp : ν}
variable {ino : Nat}

theorem Undisturbed.refl
    (tmp : ν)
    (ino : Nat)
    (fs : FileSystem ν) :
    Undisturbed tmp ino fs fs :=
  ⟨rfl, rfl, fun h => h, Nat.le_refl _, fun h => h⟩

theorem Undisturbed.trans
    {fs' fs'' : FileSystem ν}
    (hFirst : Undisturbed tmp ino fs fs')
    (hSecond : Undisturbed tmp ino fs' fs'') :
    Undisturbed tmp ino fs fs'' := by
  constructor
  · rw [hSecond.name, hFirst.name]
  · rw [hSecond.file, hFirst.file]
  · intro hSynced
    exact hSecond.synced (hFirst.synced hSynced)
  · exact hFirst.next.trans hSecond.next
  · intro hExposed
    exact hFirst.exposed (hSecond.exposed hExposed)

theorem store_undisturbed
    {i : Nat}
    (hNe : i ≠ ino)
    (f : File) :
    Undisturbed tmp ino fs (fs.store i f) where
  name := rfl
  file := fs.store_files_of_ne hNe.symm f
  synced := by
    intro hSynced
    simp [store, hNe.symm, hSynced]
  next := Nat.le_refl _
  exposed := fun hExposed => hExposed

theorem sync_undisturbed
    (i : Nat) :
    Undisturbed tmp ino fs (fs.sync i) where
  name := rfl
  file := rfl
  synced := by
    intro hSynced
    by_cases hi : ino = i
    · simp [sync, hi]
    · simp [sync, hi, hSynced]
  next := Nat.le_refl _
  exposed := fun hExposed => hExposed

theorem syncDir_undisturbed
    (holds : ν → Bool) :
    Undisturbed tmp ino fs (fs.syncDir holds) where
  name := rfl
  file := rfl
  synced := fun hSynced => hSynced
  next := Nat.le_refl _
  exposed := by
    rintro ⟨q, hq, hName | hPast⟩
    · exact ⟨q, hq, Or.inl hName⟩
    · simp only [syncDir] at hPast
      split at hPast
      · cases hPast
      · exact ⟨q, hq, Or.inr hPast⟩

/- After a power loss no file has a name it never had. -/
theorem powerLoss_exposed
    {pick : ν → Nat}
    {lost : Nat → File}
    (hExposed : (fs.powerLoss pick lost).Exposed tmp ino) :
    fs.Exposed tmp ino := by
  rcases hExposed with ⟨q, hq, hName | hPast⟩
  · exact ⟨q, hq, fs.picked hName (Or.inr (by simp))⟩
  · cases hPast

/- A synced file survives a power loss. -/
theorem powerLoss_files
    {pick : ν → Nat}
    {lost : Nat → File}
    (hSynced : fs.synced ino = true) :
    (fs.powerLoss pick lost).files ino = fs.files ino :=
  if_pos hSynced

variable [DecidableEq ν]

/- The names and pasts after one name was changed. -/
theorem exposed_of_update
    {p : ν}
    {v : Option Nat}
    {fs' : FileSystem ν}
    (hNames : fs'.names = Function.update fs.names p v)
    (hPast :
      fs'.past =
        Function.update fs.past p (fs.names p :: fs.past p))
    (hExposed : fs'.Exposed tmp ino) :
    fs.Exposed tmp ino ∨ p ≠ tmp ∧ v = some ino := by
  rcases hExposed with ⟨q, hq, hSeen⟩
  rw [hNames, hPast] at hSeen
  by_cases hp : q = p
  · subst hp
    rw [Function.update_self, Function.update_self,
      List.mem_cons] at hSeen
    rcases hSeen with hName | hName | hPast
    · exact Or.inr ⟨hq, hName⟩
    · exact Or.inl ⟨q, hq, Or.inl hName.symm⟩
    · exact Or.inl ⟨q, hq, Or.inr hPast⟩
  · rw [Function.update_of_ne hp, Function.update_of_ne hp]
      at hSeen
    exact Or.inl ⟨q, hq, hSeen⟩

theorem setName_undisturbed
    {p : ν}
    (hp : p ≠ tmp)
    {v : Option Nat}
    {hv : ∀ i, v = some i → i < fs.next}
    (hHidden : v = some ino → fs.Exposed tmp ino) :
    Undisturbed tmp ino fs (fs.setName p v hv) where
  name := by
    simp [setName, hp.symm]
  file := rfl
  synced := fun hSynced => hSynced
  next := Nat.le_refl _
  exposed := by
    intro hExposed
    rcases exposed_of_update rfl rfl hExposed with
      hOld | ⟨-, hNew⟩
    · exact hOld
    · exact hHidden hNew

theorem link_undisturbed
    {q p : ν}
    (hq : q ≠ tmp)
    (hp : p ≠ tmp) :
    Undisturbed tmp ino fs (fs.link q p) :=
  setName_undisturbed hp
    (fun hName => ⟨q, hq, Or.inl hName⟩)

theorem remove_undisturbed
    {p : ν}
    (hp : p ≠ tmp) :
    Undisturbed tmp ino fs (fs.remove p) :=
  setName_undisturbed hp (fun hName => by cases hName)

theorem rename_undisturbed
    {q p : ν}
    (hq : q ≠ tmp)
    (hp : p ≠ tmp) :
    Undisturbed tmp ino fs (fs.rename q p) := by
  unfold rename
  split
  · exact Undisturbed.refl tmp ino fs
  · exact (link_undisturbed hq hp).trans
      (remove_undisturbed hq)

theorem create_undisturbed
    {p : ν}
    (hp : p ≠ tmp)
    (hLt : ino < fs.next)
    (f : File) :
    Undisturbed tmp ino fs (fs.create p f) where
  name := by
    simp [create, hp.symm]
  file := fs.create_files_of_lt hLt p f
  synced := by
    intro hSynced
    simp [create, hLt.ne, hSynced]
  next := Nat.le_succ _
  exposed := by
    intro hExposed
    rcases exposed_of_update rfl rfl hExposed with
      hOld | ⟨-, hNew⟩
    · exact hOld
    · cases hNew
      exact absurd hLt (Nat.lt_irrefl _)

/- An operation that avoids a file leaves it undisturbed. -/
theorem Op.undisturbed
    {op : Op ν}
    (hLt : ino < fs.next)
    (hAvoids : op.avoids tmp ino = true) :
    Undisturbed tmp ino fs (op.apply fs) := by
  cases op with
  | create p f =>
      exact create_undisturbed (bne_iff_ne.mp hAvoids) hLt f
  | store i f =>
      exact store_undisturbed (bne_iff_ne.mp hAvoids) f
  | link q p =>
      simp only [avoids, Bool.and_eq_true, bne_iff_ne]
        at hAvoids
      exact link_undisturbed hAvoids.1 hAvoids.2
  | rename q p =>
      simp only [avoids, Bool.and_eq_true, bne_iff_ne]
        at hAvoids
      exact rename_undisturbed hAvoids.1 hAvoids.2
  | remove p =>
      exact remove_undisturbed (bne_iff_ne.mp hAvoids)
  | sync i => exact sync_undisturbed i
  | syncDir holds => exact syncDir_undisturbed holds

/- A new file has no other name. -/
theorem create_hidden
    (p : ν)
    (f : File) :
    ¬ (fs.create p f).Exposed p fs.next := by
  intro hExposed
  rcases exposed_of_update rfl rfl hExposed with
    ⟨q, -, hName | hPast⟩ | ⟨hp, -⟩
  · exact absurd (fs.names_lt q _ hName) (Nat.lt_irrefl _)
  · exact absurd (fs.past_lt q _ hPast) (Nat.lt_irrefl _)
  · exact hp rfl

/- The removal of a name exposes nothing. -/
theorem remove_exposed
    {p : ν}
    (hExposed : (fs.remove p).Exposed tmp ino) :
    fs.Exposed tmp ino := by
  rcases exposed_of_update rfl rfl hExposed with
    hOld | ⟨-, hNew⟩
  · exact hOld
  · cases hNew

end FileSystem

end BridgeSigner
