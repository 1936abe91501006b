import BridgeSigner.Foundation.FileSystem

/-
  What the disk may have under a name.

  After a power loss a name in a directory that is on the
  disk denotes one of its versions: what it denoted when the
  power went, or what it denoted at some time since its
  directory was synced. A property of all versions, every one
  of them a synced file, is therefore kept by a power loss.

  Key definitions include:
    * `FileSystem.versions`
    * `FileSystem.Spared`
    * `FileSystem.Holds`
    * `FileSystem.Vacant`

  Main results:
    * `FileSystem.Op.spared`
    * `FileSystem.Holds.powerLoss`
    * `FileSystem.Holds.rename`
    * `FileSystem.Holds.syncDir`
-/

------------------------------------------------------------
-- Versions
------------------------------------------------------------

namespace BridgeSigner

namespace FileSystem

variable {ν : Type}

/- What the disk may have for a name; the first is current. -/
def versions
    (fs : FileSystem ν)
    (p : ν) : List (Option Nat) :=
  fs.names p :: fs.past p

/-
  Between two states the name denotes what it did, it has no
  new version, and its versions are left as they are.
-/
structure Spared
    (p : ν)
    (fs fs' : FileSystem ν) : Prop where
  kept : fs.dirs p = .kept → fs'.dirs p = .kept
  name : fs'.names p = fs.names p
  versions : fs'.versions p ⊆ fs.versions p
  file :
    ∀ i, some i ∈ fs.versions p → fs'.files i = fs.files i
  synced :
    ∀ i, some i ∈ fs.versions p →
      fs.synced i = true → fs'.synced i = true

variable {fs fs' : FileSystem ν}
variable {p q : ν}

theorem version_lt
    {i : Nat}
    (hVersion : some i ∈ fs.versions p) :
    i < fs.next := by
  rcases List.mem_cons.mp hVersion with hName | hPast
  · exact fs.names_lt p i hName.symm
  · exact fs.past_lt p i hPast

theorem Spared.read
    (hSame : Spared p fs fs') :
    fs'.read p = fs.read p := by
  unfold FileSystem.read
  rw [hSame.name]
  cases hName : fs.names p with
  | none => rfl
  | some i =>
      have hVersion : some i ∈ fs.versions p :=
        hName ▸ List.mem_cons_self
      rw [Option.map_some, Option.map_some,
        hSame.file i hVersion]

theorem Spared.refl
    (p : ν)
    (fs : FileSystem ν) :
    Spared p fs fs :=
  ⟨fun h => h, rfl, List.Subset.refl _, fun _ _ => rfl,
    fun _ _ h => h⟩

theorem Spared.trans
    {fs'' : FileSystem ν}
    (hFirst : Spared p fs fs')
    (hSecond : Spared p fs' fs'')
    (hVersions : fs'.versions p = fs.versions p) :
    Spared p fs fs'' where
  kept := fun hDir => hSecond.kept (hFirst.kept hDir)
  name := hSecond.name.trans hFirst.name
  versions :=
    List.Subset.trans hSecond.versions hFirst.versions
  file := by
    intro i hi
    rw [hSecond.file i (hVersions ▸ hi), hFirst.file i hi]
  synced := fun i hi hSynced =>
    hSecond.synced i (hVersions ▸ hi)
      (hFirst.synced i hi hSynced)

theorem sync_spared
    (i : Nat) :
    Spared p fs (fs.sync i) where
  kept := fun hDir => hDir
  name := rfl
  versions := List.Subset.refl _
  file := fun _ _ => rfl
  synced := by
    intro j _ hSynced
    by_cases hj : j = i
    · simp [sync, hj]
    · simp [sync, hj, hSynced]

theorem store_spared
    {i : Nat}
    (hOther : some i ∉ fs.versions p)
    (f : File) :
    Spared p fs (fs.store i f) := by
  have hNe : ∀ j, some j ∈ fs.versions p → j ≠ i := by
    rintro j hj rfl
    exact hOther hj
  constructor
  · exact fun hDir => hDir
  · rfl
  · exact List.Subset.refl _
  · exact fun j hj => fs.store_files_of_ne (hNe j hj) f
  · intro j hj hSynced
    simp [store, hNe j hj, hSynced]

theorem syncDir_spared
    (holds : ν → Bool) :
    Spared p fs (fs.syncDir holds) where
  kept := fun hDir => hDir
  name := rfl
  versions := by
    intro v hv
    rcases List.mem_cons.mp hv with hName | hPast
    · exact hName ▸ List.mem_cons_self
    · simp only [syncDir] at hPast
      split at hPast
      · cases hPast
      · exact List.mem_cons_of_mem _ hPast
  file := fun _ _ => rfl
  synced := fun _ _ hSynced => hSynced

/- A directory that is kept stays, whatever is made. -/
theorem mkdirAll_spared
    (holds : ν → Bool) :
    Spared p fs (fs.mkdirAll holds) where
  kept := by
    intro hDir
    simp [mkdirAll, hDir]
  name := rfl
  versions := List.Subset.refl _
  file := fun _ _ => rfl
  synced := fun _ _ hSynced => hSynced

variable [DecidableEq ν]

theorem versions_setName
    (hNe : q ≠ p)
    {v : Option Nat}
    {hv : ∀ i, v = some i → i < fs.next} :
    (fs.setName q v hv).versions p = fs.versions p := by
  simp [versions, setName, hNe.symm]

theorem setName_spared
    (hNe : q ≠ p)
    {v : Option Nat}
    (hv : ∀ i, v = some i → i < fs.next) :
    Spared p fs (fs.setName q v hv) where
  kept := fun hDir => hDir
  name := by
    simp [setName, hNe.symm]
  versions := by
    rw [versions_setName hNe]
    exact List.Subset.refl _
  file := fun _ _ => rfl
  synced := fun _ _ hSynced => hSynced

theorem link_spared
    (r : ν)
    (hNe : q ≠ p) :
    Spared p fs (fs.link r q) :=
  setName_spared hNe (fs.names_lt r)

theorem remove_spared
    (hNe : q ≠ p) :
    Spared p fs (fs.remove q) :=
  setName_spared hNe (fun _ => lt_of_none)

theorem rename_spared
    {r : ν}
    (hFrom : r ≠ p)
    (hTo : q ≠ p) :
    Spared p fs (fs.rename r q) := by
  unfold rename
  split
  · exact Spared.refl p fs
  · exact (link_spared r hTo).trans (remove_spared hFrom)
      (versions_setName hTo)

theorem create_spared
    (hNe : q ≠ p)
    (f : File) :
    Spared p fs (fs.create q f) where
  kept := fun hDir => hDir
  name := fs.create_names_of_ne hNe.symm f
  versions := by
    intro v hv
    simpa [versions, create, hNe.symm] using hv
  file := fun i hi =>
    fs.create_files_of_lt (version_lt hi) q f
  synced := by
    intro i hi hSynced
    simp [create, (version_lt hi).ne, hSynced]

/- The operation leaves the name and its versions alone. -/
def Op.spares
    (fs : FileSystem ν)
    (p : ν) :
    Op ν → Bool
| .create q _ => q != p
| .store i _ => !(fs.versions p).contains (some i)
| .link _ q => q != p
| .rename r q => r != p && q != p
| .remove q => q != p
| .sync _ => true
| .syncDir _ => true

theorem Op.spared
    {op : Op ν}
    (hSpares : op.spares fs p = true) :
    Spared p fs (op.apply fs) := by
  cases op with
  | create q f =>
      exact create_spared (bne_iff_ne.mp hSpares) f
  | store i f =>
      apply store_spared
      simpa [Op.spares] using hSpares
  | link r q =>
      exact link_spared r (bne_iff_ne.mp hSpares)
  | rename r q =>
      simp only [Op.spares, Bool.and_eq_true, bne_iff_ne]
        at hSpares
      exact rename_spared hSpares.1 hSpares.2
  | remove q =>
      exact remove_spared (bne_iff_ne.mp hSpares)
  | sync i => exact sync_spared i
  | syncDir holds => exact syncDir_spared holds

end FileSystem

end BridgeSigner

------------------------------------------------------------
-- Properties Of All Versions
------------------------------------------------------------

namespace BridgeSigner

namespace FileSystem

variable {ν : Type}

/-
  The directory is on the disk and so is every version, and
  every version has the property.
-/
structure Holds
    (fs : FileSystem ν)
    (p : ν)
    (P : Option File → Prop) : Prop where
  kept : fs.dirs p = .kept
  versions :
    ∀ v ∈ fs.versions p,
      P (v.map fs.files) ∧
        ∀ i, v = some i → fs.synced i = true

/- The directory is on the disk; the name was never used. -/
structure Vacant
    (fs : FileSystem ν)
    (p : ν) : Prop where
  kept : fs.dirs p = .kept
  versions : fs.versions p = [none]

/- What an absent file has, a vacant name has. -/
theorem Vacant.holds
    {fs : FileSystem ν}
    {p : ν}
    {P : Option File → Prop}
    (h : fs.Vacant p)
    (hNone : P none) :
    fs.Holds p P := by
  refine ⟨h.kept, ?_⟩
  intro v hv
  rw [h.versions, List.mem_singleton] at hv
  subst hv
  exact ⟨hNone, fun i hi => by cases hi⟩

namespace Holds

variable {fs fs' : FileSystem ν}
variable {p q : ν}
variable {P Q : Option File → Prop}

/- What is read has the property. -/
theorem read
    (h : fs.Holds p P) :
    P (fs.read p) :=
  (h.versions (fs.names p) List.mem_cons_self).1

theorem mono
    (h : fs.Holds p P)
    (hPQ : ∀ x, P x → Q x) :
    fs.Holds p Q :=
  ⟨h.kept, fun v hv =>
    ⟨hPQ _ (h.versions v hv).1, (h.versions v hv).2⟩⟩

/- No new version, and the files as they were. -/
theorem transfer
    (h : fs.Holds p P)
    (hKept : fs'.dirs p = .kept)
    (hVersions : fs'.versions p ⊆ fs.versions p)
    (hFile :
      ∀ i, some i ∈ fs.versions p →
        fs'.files i = fs.files i)
    (hSynced :
      ∀ i, some i ∈ fs.versions p →
        fs.synced i = true → fs'.synced i = true) :
    fs'.Holds p P := by
  refine ⟨hKept, ?_⟩
  intro v hv
  rcases h.versions v (hVersions hv) with ⟨hProp, hDisk⟩
  cases v with
  | none => exact ⟨hProp, fun i hi => by cases hi⟩
  | some i =>
      have hi := hVersions hv
      refine ⟨?_, ?_⟩
      · rw [Option.map_some, hFile i hi]
        exact hProp
      · rintro j hj
        cases hj
        exact hSynced i hi (hDisk i rfl)

theorem spared
    (h : fs.Holds p P)
    (hSame : Spared p fs fs') :
    fs'.Holds p P :=
  h.transfer (hSame.kept h.kept) hSame.versions hSame.file
    hSame.synced

/- A power loss leaves one of the versions. -/
theorem powerLoss
    (h : fs.Holds p P)
    (pick : ν → Nat)
    (lost : Nat → File) :
    (fs.powerLoss pick lost).Holds p P := by
  apply h.transfer
  · simp [FileSystem.powerLoss, dirLost, h.kept]
  · intro v hv
    rcases List.mem_cons.mp hv with hName | hPast
    · rcases fs.picked hName.symm (Or.inl h.kept) with
        hNow | hThen
      · exact hNow ▸ List.mem_cons_self
      · exact List.mem_cons_of_mem _ hThen
    · cases hPast
  · intro i hi
    exact powerLoss_files ((h.versions _ hi).2 i rfl)
  · exact fun _ _ _ => rfl

/- Once its directory is synced a name has one version. -/
theorem syncDir
    (h : fs.Holds p P)
    {holds : ν → Bool}
    (hDir : holds p = true)
    (hRead : Q (fs.read p)) :
    (fs.syncDir holds).Holds p Q := by
  refine ⟨h.kept, ?_⟩
  intro v hv
  rcases List.mem_cons.mp hv with hName | hPast
  · subst hName
    exact ⟨hRead, (h.versions _ List.mem_cons_self).2⟩
  · simp only [FileSystem.syncDir, hDir, if_true] at hPast
    cases hPast

variable [DecidableEq ν]

/- A synced file takes the name: one version more. -/
theorem rename
    (h : fs.Holds p P)
    (hNe : q ≠ p)
    {i : Nat}
    (hName : fs.names q = some i)
    (hSynced : fs.synced i = true)
    (hFile : P (some (fs.files i))) :
    (fs.rename q p).Holds p P := by
  have hLinked : (fs.link q p).Holds p P := by
    refine ⟨h.kept, ?_⟩
    intro v hv
    have hVersions :
        (fs.link q p).versions p =
          some i :: fs.versions p := by
      simp [FileSystem.versions, FileSystem.link,
        FileSystem.setName, hName]
    rw [hVersions] at hv
    rcases List.mem_cons.mp hv with rfl | hOld
    · refine ⟨hFile, ?_⟩
      rintro j hj
      cases hj
      exact hSynced
    · exact h.versions v hOld
  unfold FileSystem.rename
  split
  · exact h
  · exact hLinked.spared (remove_spared hNe)

end Holds

end FileSystem

end BridgeSigner
