import BridgeSigner.Foundation.Execution
import BridgeSigner.Foundation.FileSystem

/-
  What is seen by those who may not read some of the files.

  Two file systems are alike but for hidden files if they
  differ in nothing but the content of these, and not in its
  size. Whoever does the same to both keeps them alike. Two
  machines that are alike before a step and take the same
  events are alike at the end of a run.

  Key definitions include:
    * `File.Alike`
    * `FileSystem.AlikeBut`

  Main results:
    * `Machine.run_lockstep`
    * `FileSystem.AlikeBut.apply`
-/

------------------------------------------------------------
-- Machines In Lockstep
------------------------------------------------------------

namespace BridgeSigner

namespace Machine

variable {σ σ' ε : Type}
variable {M : Machine σ ε}
variable {N : Machine σ' ε}

/- What is matched in every step is matched in every run. -/
theorem run_lockstep
    {R : σ → σ' → Prop}
    (hStep :
      ∀ s e t a, M.step s e = some t → R s a →
        ∃ b, N.step a e = some b ∧ R t b)
    {s t : σ}
    {a : σ'}
    {es : List ε}
    (hRun : M.run s es = some t)
    (hRel : R s a) :
    ∃ b, N.run a es = some b ∧ R t b := by
  induction es generalizing s a with
  | nil =>
      cases hRun
      exact ⟨a, rfl, hRel⟩
  | cons e es ih =>
      rcases (M.run_cons_iff s t e es).mp hRun with
        ⟨m, hHead, hTail⟩
      rcases hStep s e m a hHead hRel with ⟨b, hFirst, hMid⟩
      rcases ih hTail hMid with ⟨c, hRest, hLast⟩
      exact ⟨c,
        (N.run_cons_iff a c e es).mpr ⟨b, hFirst, hRest⟩,
        hLast⟩

end Machine

end BridgeSigner

------------------------------------------------------------
-- Files And File Systems
------------------------------------------------------------

namespace BridgeSigner

/- The same file, up to its content if that is hidden. -/
structure File.Alike
    (hidden : Prop)
    (f f' : File) : Prop where
  mode : f'.mode = f.mode
  size : f'.data.length = f.data.length
  data : ¬ hidden → f'.data = f.data

theorem File.Alike.refl
    (hidden : Prop)
    (f : File) :
    File.Alike hidden f f :=
  ⟨rfl, rfl, fun _ => rfl⟩

/- A write into a hidden file shows only how long it is. -/
theorem File.Alike.writeAt
    {hidden : Prop}
    {f f' : File}
    (h : File.Alike hidden f f')
    (hHidden : hidden)
    (offset : Nat)
    {chunk chunk' : Bytes}
    (hLength : chunk'.length = chunk.length) :
    File.Alike hidden (f.writeAt offset chunk)
      (f'.writeAt offset chunk') := by
  refine ⟨h.mode, ?_, fun hShown => absurd hHidden hShown⟩
  simp only [File.writeAt, List.length_append,
    List.length_take, List.length_drop, hLength, h.size]

namespace FileSystem

variable {ν : Type}

/- The two differ only in what the hidden files hold. -/
structure AlikeBut
    (hidden : Nat → Prop)
    (fs fs' : FileSystem ν) : Prop where
  names : fs'.names = fs.names
  past : fs'.past = fs.past
  dirs : fs'.dirs = fs.dirs
  synced : fs'.synced = fs.synced
  next : fs'.next = fs.next
  files :
    ∀ i, File.Alike (hidden i) (fs.files i) (fs'.files i)

namespace AlikeBut

variable {hidden : Nat → Prop}
variable {fs fs' : FileSystem ν}

theorem refl
    (hidden : Nat → Prop)
    (fs : FileSystem ν) :
    AlikeBut hidden fs fs :=
  ⟨rfl, rfl, rfl, rfl, rfl, fun _ => File.Alike.refl _ _⟩

/- More may be hidden. -/
theorem mono
    {hidden' : Nat → Prop}
    (h : AlikeBut hidden fs fs')
    (hMore : ∀ i, hidden i → hidden' i) :
    AlikeBut hidden' fs fs' where
  names := h.names
  past := h.past
  dirs := h.dirs
  synced := h.synced
  next := h.next
  files := fun i =>
    ⟨(h.files i).mode, (h.files i).size,
      fun hShown =>
        (h.files i).data (fun hi => hShown (hMore i hi))⟩

theorem store
    (h : AlikeBut hidden fs fs')
    {i : Nat}
    {f f' : File}
    (hFile : File.Alike (hidden i) f f') :
    AlikeBut hidden (fs.store i f) (fs'.store i f') where
  names := h.names
  past := h.past
  dirs := h.dirs
  synced := by
    rw [FileSystem.store, FileSystem.store, h.synced]
  next := h.next
  files := by
    intro j
    by_cases hj : j = i
    · subst hj
      rw [store_files_self, store_files_self]
      exact hFile
    · rw [fs.store_files_of_ne hj, fs'.store_files_of_ne hj]
      exact h.files j

theorem sync
    (h : AlikeBut hidden fs fs')
    (i : Nat) :
    AlikeBut hidden (fs.sync i) (fs'.sync i) where
  names := h.names
  past := h.past
  dirs := h.dirs
  synced := by
    rw [FileSystem.sync, FileSystem.sync, h.synced]
  next := h.next
  files := h.files

theorem syncDir
    (h : AlikeBut hidden fs fs')
    (holds : ν → Bool) :
    AlikeBut hidden (fs.syncDir holds)
      (fs'.syncDir holds) where
  names := h.names
  past := by
    simp only [FileSystem.syncDir, h.past]
  dirs := h.dirs
  synced := h.synced
  next := h.next
  files := h.files

variable [DecidableEq ν]

theorem setName
    (h : AlikeBut hidden fs fs')
    (p : ν)
    {v v' : Option Nat}
    (hv : ∀ i, v = some i → i < fs.next)
    (hv' : ∀ i, v' = some i → i < fs'.next)
    (hSame : v' = v) :
    AlikeBut hidden (fs.setName p v hv)
      (fs'.setName p v' hv') where
  names := by
    simp only [FileSystem.setName, h.names, hSame]
  past := by
    simp only [FileSystem.setName, h.names, h.past]
  dirs := h.dirs
  synced := h.synced
  next := h.next
  files := h.files

theorem link
    (h : AlikeBut hidden fs fs')
    (q p : ν) :
    AlikeBut hidden (fs.link q p) (fs'.link q p) := by
  apply h.setName
  rw [h.names]

theorem remove
    (h : AlikeBut hidden fs fs')
    (p : ν) :
    AlikeBut hidden (fs.remove p) (fs'.remove p) := by
  apply h.setName
  rfl

theorem rename
    (h : AlikeBut hidden fs fs')
    (q p : ν) :
    AlikeBut hidden (fs.rename q p) (fs'.rename q p) := by
  unfold FileSystem.rename
  rw [h.names]
  split
  · exact h
  · exact (h.link q p).remove q

theorem create
    (h : AlikeBut hidden fs fs')
    (p : ν)
    (f : File) :
    AlikeBut hidden (fs.create p f) (fs'.create p f) where
  names := by
    simp only [FileSystem.create, h.names, h.next]
  past := by
    simp only [FileSystem.create, h.names, h.past]
  dirs := h.dirs
  synced := by
    simp only [FileSystem.create, h.synced, h.next]
  next := by
    simp only [FileSystem.create, h.next]
  files := by
    intro j
    simp only [FileSystem.create, h.next]
    by_cases hj : j = fs.next
    · subst hj
      rw [Function.update_self, Function.update_self]
      exact File.Alike.refl _ _
    · rw [Function.update_of_ne hj, Function.update_of_ne hj]
      exact h.files j

/- Another process does the same to both. -/
theorem apply
    (h : AlikeBut hidden fs fs')
    (op : Op ν) :
    AlikeBut hidden (op.apply fs) (op.apply fs') := by
  cases op with
  | create p f => exact h.create p f
  | store i f => exact h.store (File.Alike.refl _ f)
  | link q p => exact h.link q p
  | rename q p => exact h.rename q p
  | remove p => exact h.remove p
  | sync i => exact h.sync i
  | syncDir holds => exact h.syncDir holds

end AlikeBut

end FileSystem

end BridgeSigner
