import BridgeSigner.Foundation.Execution
import BridgeSigner.Foundation.FileSystem
import BridgeSigner.Foundation.TempName

/-
  The write of a new file in one piece (signer/atomicwrite.go).

  A call of `WriteNewFileAtomic` is a machine on a file system
  that other processes use too. Every call of the operating
  system is a step of its own and may fail; the process may be
  killed and the power may fail between any two of them.

  Key definitions include:
    * `validatePerm`
    * `AtomicWrite.Call`
    * `AtomicWrite.step`
    * `AtomicWrite.Call.AllOrNothing`

  Main results:
    * `validatePerm_ok_iff`
    * `AtomicWrite.run_guarded`
    * `AtomicWrite.allOrNothing_iff`
    * `AtomicWrite.tempEntry_eq_target_iff`
-/

------------------------------------------------------------
-- Modes
------------------------------------------------------------

namespace BridgeSigner

namespace Signer

/- Why a file was not written. -/
inductive WriteError where
| outside (perm : UInt32)
| shared (perm : UInt32)
| createTemp (e : Bytes)
| write (e : Bytes)
| chmod (e : Bytes)
| sync (e : Bytes)
| close (e : Bytes)
| overwrite (path : Bytes)
| link (path e : Bytes)
| openDir (dir e : Bytes)
| syncDir (dir e : Bytes)
| closeDir (dir e : Bytes)
  deriving DecidableEq, Repr

def validatePerm
    (perm : UInt32) : Except WriteError Unit :=
  if perm &&& ~~~0o777 ≠ 0 then
    .error (.outside perm)
  else if perm &&& 0o077 ≠ 0 then
    .error (.shared perm)
  else
    .ok ()

/- The bits of the owner are the only ones that are set. -/
def OwnerOnly
    (perm : UInt32) : Prop :=
  ∀ k, perm.toBitVec.getLsbD k = true → 6 ≤ k ∧ k < 9

/- A mode without the bits of a mask. -/
theorem and_eq_zero_iff
    (perm mask : UInt32) :
    perm &&& mask = 0 ↔
      ∀ k, perm.toBitVec.getLsbD k = true →
        mask.toBitVec.getLsbD k = false := by
  rw [← UInt32.toBitVec_inj, UInt32.toBitVec_and]
  constructor
  · intro hZero k hBit
    have hAnd := congrArg (fun b => b.getLsbD k) hZero
    simpa [hBit] using hAnd
  · intro hBits
    apply BitVec.eq_of_getLsbD_eq
    intro k hk
    rw [BitVec.getLsbD_and]
    cases hBit : perm.toBitVec.getLsbD k with
    | false => simp
    | true => simp [hBits k hBit]

theorem outside_bits :
    ∀ k < 32,
      (~~~0o777 : UInt32).toBitVec.getLsbD k = false ↔
        k < 9 := by
  decide

theorem shared_bits :
    ∀ k < 32,
      (0o077 : UInt32).toBitVec.getLsbD k = false ↔
        6 ≤ k := by
  decide

theorem validatePerm_ok_iff
    (perm : UInt32) :
    validatePerm perm = .ok () ↔ OwnerOnly perm := by
  have hMasks :
      validatePerm perm = .ok () ↔
        perm &&& ~~~0o777 = 0 ∧ perm &&& 0o077 = 0 := by
    unfold validatePerm
    split
    · simp_all
    · split
      · simp_all
      · simp_all
  rw [hMasks, and_eq_zero_iff, and_eq_zero_iff]
  constructor
  · rintro ⟨hOutside, hShared⟩ k hBit
    have hk := BitVec.lt_of_getLsbD hBit
    exact ⟨(shared_bits k hk).mp (hShared k hBit),
      (outside_bits k hk).mp (hOutside k hBit)⟩
  · intro hOwner
    constructor
    · intro k hBit
      exact (outside_bits k (BitVec.lt_of_getLsbD hBit)).mpr
        (hOwner k hBit).2
    · intro k hBit
      exact (shared_bits k (BitVec.lt_of_getLsbD hBit)).mpr
        (hOwner k hBit).1

end Signer

end BridgeSigner

------------------------------------------------------------
-- The Call
------------------------------------------------------------

namespace BridgeSigner

namespace Signer

namespace AtomicWrite

variable {ν : Type}

/-
  A call of `WriteNewFileAtomic`, and how paths are resolved:
  the entry that a path denotes, and the entries that a
  directory holds.
-/
structure Call (ν : Type) where
  path : Bytes
  data : Bytes
  perm : UInt32
  entry : Bytes → ν
  holds : Bytes → ν → Bool

theorem tempFront_noSlash :
    Path.slash ∉ ascii ".atomic-" := by
  decide

theorem tempBack_noSlash :
    Path.slash ∉ ascii ".tmp" := by
  decide

theorem tempFront_long :
    2 < (ascii ".atomic-").length := by
  decide

/- The pattern ".atomic-*.tmp". -/
def tempPattern : TempPattern where
  front := ascii ".atomic-"
  back := ascii ".tmp"
  front_noSlash := tempFront_noSlash
  back_noSlash := tempBack_noSlash
  long := tempFront_long

/- The pattern with a number for the star. -/
def tempName
    (n : Nat) : Bytes :=
  tempPattern.name n

namespace Call

variable (call : Call ν)

def dir : Bytes :=
  Path.dir call.path

def tempPath
    (n : Nat) : Bytes :=
  tempPattern.path call.dir n

def target : ν :=
  call.entry call.path

def tempEntry
    (n : Nat) : ν :=
  call.entry (call.tempPath n)

end Call

/- The call of the operating system that comes next. -/
inductive Stage where
| write (written : Nat)
| chmod
| sync
| close
| link
| openDir
| syncDir
| closeDir
  deriving DecidableEq, Repr

/- What is returned where a call fails. -/
def Stage.error
    (call : Call ν)
    (e : Bytes) :
    Stage → WriteError
| .write _ => .write e
| .chmod => .chmod e
| .sync => .sync e
| .close => .close e
| .link => .link call.path e
| .openDir => .openDir call.dir e
| .syncDir => .syncDir call.dir e
| .closeDir => .closeDir call.dir e

/-
  Where the process is. With the name and the number of the
  temporary file it is between its creation and the deferred
  calls, `Close` first and `Remove` last. No error is nil.
-/
inductive Proc (ν : Type) where
| called
| creating
| running (tmp : ν) (ino : Nat) (stage : Stage)
| closing
    (tmp : ν)
    (ino : Nat)
    (result : Option WriteError)
| removing
    (tmp : ν)
    (ino : Nat)
    (result : Option WriteError)
| returned
    (temp : Option (ν × Nat))
    (result : Option WriteError)
| dead (temp : Option (ν × Nat))

/- The temporary file of the call. -/
def Proc.temp : Proc ν → Option (ν × Nat)
| .called => none
| .creating => none
| .running tmp ino _ => some (tmp, ino)
| .closing tmp ino _ => some (tmp, ino)
| .removing tmp ino _ => some (tmp, ino)
| .returned temp _ => temp
| .dead temp => temp

structure State (ν : Type) where
  fs : FileSystem ν
  proc : Proc ν

/-
  A fault is the error of a call of the operating system that
  fails. `createTemp n` draws the number `n` for the name.
-/
inductive Event (ν : Type) where
| validate
| createTemp (n : Nat)
| createTempFails (e : Bytes)
| write (n : Nat) (fault : Option Bytes)
| proceed (fault : Option Bytes)
| deferred
| kill
| powerLoss (pick : ν → Nat) (lost : Nat → File)
| other (op : FileSystem.Op ν)

/- The steps that are the call's own. -/
def Event.own : Event ν → Bool
| .validate => true
| .createTemp _ => true
| .createTempFails _ => true
| .write _ _ => true
| .proceed _ => true
| .deferred => true
| _ => false

variable [DecidableEq ν]

/- `f.Write` after some bytes, and it may go on. -/
def writeStep
    (call : Call ν)
    (fs : FileSystem ν)
    (tmp : ν)
    (ino written n : Nat)
    (fault : Option Bytes) : State ν :=
  let fs := fs.writePiece ino call.data written n
  match fault with
  | some e => ⟨fs, .closing tmp ino (some (.write e))⟩
  | none =>
      if written + n < call.data.length then
        ⟨fs, .running tmp ino (.write (written + n))⟩
      else
        ⟨fs, .running tmp ino .chmod⟩

/- The other calls, where they succeed. -/
def proceedStep
    (call : Call ν)
    (fs : FileSystem ν)
    (tmp : ν)
    (ino : Nat) :
    Stage → Option (State ν)
| .write _ => none
| .chmod =>
    some
      ⟨fs.store ino { fs.files ino with mode := call.perm },
        .running tmp ino .sync⟩
| .sync => some ⟨fs.sync ino, .running tmp ino .close⟩
| .close => some ⟨fs, .running tmp ino .link⟩
| .link =>
    match fs.names call.target with
    | none =>
        some
          ⟨fs.link tmp call.target,
            .running tmp ino .openDir⟩
    | some _ =>
        some
          ⟨fs, .closing tmp ino (some (.overwrite call.path))⟩
| .openDir => some ⟨fs, .running tmp ino .syncDir⟩
| .syncDir =>
    some
      ⟨fs.syncDir (call.holds call.dir),
        .running tmp ino .closeDir⟩
| .closeDir => some ⟨fs, .closing tmp ino none⟩

/- The process is gone; no deferred call is made. -/
def Proc.killed : Proc ν → Option (Proc ν)
| .returned _ _ => none
| .dead _ => none
| proc => some (.dead proc.temp)

/- Others leave the temporary file of the call alone. -/
def Proc.allows
    (op : FileSystem.Op ν)
    (proc : Proc ν) : Bool :=
  match proc.temp with
  | none => true
  | some (tmp, ino) => op.avoids tmp ino

def step
    (call : Call ν)
    (s : State ν) :
    Event ν → Option (State ν)
| .validate =>
    match s.proc with
    | .called =>
        match validatePerm call.perm with
        | .error e => some ⟨s.fs, .returned none (some e)⟩
        | .ok () => some ⟨s.fs, .creating⟩
    | _ => none
| .createTemp n =>
    match s.proc with
    | .creating =>
        -- the numbers are of 32 bits, and a name that is
        -- taken is not used
        if n < 2 ^ 32 ∧ s.fs.names (call.tempEntry n) = none then
          some
            ⟨s.fs.create (call.tempEntry n) ⟨[], 0o600⟩,
              .running (call.tempEntry n) s.fs.next (.write 0)⟩
        else
          none
    | _ => none
| .createTempFails e =>
    match s.proc with
    | .creating =>
        some ⟨s.fs, .returned none (some (.createTemp e))⟩
    | _ => none
| .write n fault =>
    match s.proc with
    | .running tmp ino (.write written) =>
        some (writeStep call s.fs tmp ino written n fault)
    | _ => none
| .proceed fault =>
    match s.proc with
    | .running tmp ino stage =>
        match fault with
        | none => proceedStep call s.fs tmp ino stage
        | some e =>
            some
              ⟨s.fs,
                .closing tmp ino (some (stage.error call e))⟩
    | _ => none
| .deferred =>
    match s.proc with
    | .closing tmp ino result =>
        some ⟨s.fs, .removing tmp ino result⟩
    | .removing tmp ino result =>
        some
          ⟨s.fs.remove tmp, .returned (some (tmp, ino)) result⟩
    | _ => none
| .kill => s.proc.killed.map (fun proc => ⟨s.fs, proc⟩)
| .powerLoss pick lost =>
    some ⟨s.fs.powerLoss pick lost, .dead s.proc.temp⟩
| .other op =>
    if s.proc.allows op = true then
      some ⟨op.apply s.fs, s.proc⟩
    else
      none

def machine
    (call : Call ν) : Machine (State ν) (Event ν) where
  step := step call

/- The call is made on some file system. -/
def State.initial
    (fs : FileSystem ν) : State ν :=
  ⟨fs, .called⟩

end AtomicWrite

end Signer

end BridgeSigner

------------------------------------------------------------
-- What A Step Can Do
------------------------------------------------------------

namespace BridgeSigner

namespace Signer

namespace AtomicWrite

variable {ν : Type}

theorem killed_eq
    {proc proc' : Proc ν}
    (hKilled : proc.killed = some proc') :
    proc' = .dead proc.temp := by
  cases proc with
  | returned temp result => cases hKilled
  | dead temp => cases hKilled
  | _ =>
      cases hKilled
      rfl

/- The link was made, and nothing has failed since. -/
def Proc.linked : Proc ν → Bool
| .running _ _ .openDir => true
| .running _ _ .syncDir => true
| .running _ _ .closeDir => true
| .closing _ _ none => true
| .removing _ _ none => true
| .returned _ none => true
| _ => false

/- A write changes the file, and is before the link. -/
theorem writeStep_eq
    (call : Call ν)
    (fs : FileSystem ν)
    (tmp : ν)
    (ino written n : Nat)
    (fault : Option Bytes) :
    ∃ proc,
      writeStep call fs tmp ino written n fault =
          ⟨fs.writePiece ino call.data written n, proc⟩ ∧
        proc.linked = false := by
  unfold writeStep
  simp only
  split
  · exact ⟨_, rfl, rfl⟩
  · split
    · exact ⟨_, rfl, rfl⟩
    · exact ⟨_, rfl, rfl⟩

variable [DecidableEq ν]

/- The steps, by the state they are taken in. -/
inductive Transition
    (call : Call ν) :
    State ν → Event ν → State ν → Prop where
| refuse
    {fs : FileSystem ν}
    {e : WriteError}
    (hPerm : validatePerm call.perm = .error e) :
    Transition call ⟨fs, .called⟩ .validate
      ⟨fs, .returned none (some e)⟩
| accept
    {fs : FileSystem ν}
    (hPerm : validatePerm call.perm = .ok ()) :
    Transition call ⟨fs, .called⟩ .validate ⟨fs, .creating⟩
| createTemp
    {fs : FileSystem ν}
    {n : Nat}
    (hn : n < 2 ^ 32)
    (hFree : fs.names (call.tempEntry n) = none) :
    Transition call ⟨fs, .creating⟩ (.createTemp n)
      ⟨fs.create (call.tempEntry n) ⟨[], 0o600⟩,
        .running (call.tempEntry n) fs.next (.write 0)⟩
| createTempFails
    {fs : FileSystem ν}
    {e : Bytes} :
    Transition call ⟨fs, .creating⟩ (.createTempFails e)
      ⟨fs, .returned none (some (.createTemp e))⟩
| write
    {fs : FileSystem ν}
    {tmp : ν}
    {ino written n : Nat}
    {fault : Option Bytes} :
    Transition call ⟨fs, .running tmp ino (.write written)⟩
      (.write n fault)
      (writeStep call fs tmp ino written n fault)
| proceed
    {fs : FileSystem ν}
    {tmp : ν}
    {ino : Nat}
    {stage : Stage}
    {t : State ν}
    (hStage : proceedStep call fs tmp ino stage = some t) :
    Transition call ⟨fs, .running tmp ino stage⟩
      (.proceed none) t
| fail
    {fs : FileSystem ν}
    {tmp : ν}
    {ino : Nat}
    {stage : Stage}
    {e : Bytes} :
    Transition call ⟨fs, .running tmp ino stage⟩
      (.proceed (some e))
      ⟨fs, .closing tmp ino (some (stage.error call e))⟩
| close
    {fs : FileSystem ν}
    {tmp : ν}
    {ino : Nat}
    {result : Option WriteError} :
    Transition call ⟨fs, .closing tmp ino result⟩ .deferred
      ⟨fs, .removing tmp ino result⟩
| remove
    {fs : FileSystem ν}
    {tmp : ν}
    {ino : Nat}
    {result : Option WriteError} :
    Transition call ⟨fs, .removing tmp ino result⟩ .deferred
      ⟨fs.remove tmp, .returned (some (tmp, ino)) result⟩
| kill
    {fs : FileSystem ν}
    {proc : Proc ν} :
    Transition call ⟨fs, proc⟩ .kill ⟨fs, .dead proc.temp⟩
| powerLoss
    {fs : FileSystem ν}
    {proc : Proc ν}
    {pick : ν → Nat}
    {lost : Nat → File} :
    Transition call ⟨fs, proc⟩ (.powerLoss pick lost)
      ⟨fs.powerLoss pick lost, .dead proc.temp⟩
| other
    {fs : FileSystem ν}
    {proc : Proc ν}
    {op : FileSystem.Op ν}
    (hAllows : proc.allows op = true) :
    Transition call ⟨fs, proc⟩ (.other op)
      ⟨op.apply fs, proc⟩

theorem step_transition
    {call : Call ν}
    {s t : State ν}
    {e : Event ν}
    (hStep : step call s e = some t) :
    Transition call s e t := by
  rcases s with ⟨fs, proc⟩
  cases e with
  | validate =>
      cases proc with
      | called =>
          simp only [step] at hStep
          split at hStep
          · cases hStep
            exact .refuse ‹_›
          · cases hStep
            exact .accept ‹_›
      | _ => cases hStep
  | createTemp n =>
      cases proc with
      | creating =>
          simp only [step] at hStep
          split at hStep
          · rename_i hFree
            cases hStep
            exact .createTemp hFree.1 hFree.2
          · cases hStep
      | _ => cases hStep
  | createTempFails e =>
      cases proc with
      | creating =>
          cases hStep
          exact .createTempFails
      | _ => cases hStep
  | write n fault =>
      cases proc with
      | running tmp ino stage =>
          cases stage with
          | write written =>
              cases hStep
              exact .write
          | _ => cases hStep
      | _ => cases hStep
  | proceed fault =>
      cases proc with
      | running tmp ino stage =>
          cases fault with
          | none => exact .proceed hStep
          | some e =>
              cases hStep
              exact .fail
      | _ => cases hStep
  | deferred =>
      cases proc with
      | closing tmp ino result =>
          cases hStep
          exact .close
      | removing tmp ino result =>
          cases hStep
          exact .remove
      | _ => cases hStep
  | kill =>
      rcases Option.map_eq_some_iff.mp hStep with
        ⟨proc', hKilled, hState⟩
      cases hState
      rw [killed_eq hKilled]
      exact .kill
  | powerLoss pick lost =>
      cases hStep
      exact .powerLoss
  | other op =>
      simp only [step] at hStep
      split at hStep
      · cases hStep
        exact .other ‹_›
      · cases hStep

end AtomicWrite

end Signer

end BridgeSigner

------------------------------------------------------------
-- The Temporary File
------------------------------------------------------------

namespace BridgeSigner

namespace Signer

namespace AtomicWrite

variable {ν : Type}

/- The file has all that it should have, on the disk too. -/
def Whole
    (call : Call ν)
    (fs : FileSystem ν)
    (ino : Nat) : Prop :=
  fs.files ino = ⟨call.data, call.perm⟩ ∧
    fs.synced ino = true

/-
  The temporary file is not at the path itself, and it has
  got another name only with all that it should have.
-/
structure Guarded
    (call : Call ν)
    (fs : FileSystem ν)
    (tmp : ν)
    (ino : Nat) : Prop where
  apart : tmp ≠ call.target
  made : ino < fs.next
  owner : OwnerOnly call.perm
  whole : fs.Exposed tmp ino → Whole call fs ino

/- What each call of the operating system starts from. -/
def Ready
    (call : Call ν)
    (fs : FileSystem ν)
    (tmp : ν)
    (ino : Nat) :
    Stage → Prop
| .write written =>
    ¬ fs.Exposed tmp ino ∧ written ≤ call.data.length ∧
      (fs.files ino).data = call.data.take written
| .chmod =>
    ¬ fs.Exposed tmp ino ∧ (fs.files ino).data = call.data
| .sync =>
    ¬ fs.Exposed tmp ino ∧
      fs.files ino = ⟨call.data, call.perm⟩
| .close => ¬ fs.Exposed tmp ino ∧ Whole call fs ino
| .link => ¬ fs.Exposed tmp ino ∧ Whole call fs ino
| .openDir => Whole call fs ino
| .syncDir => Whole call fs ino
| .closeDir => Whole call fs ino

def Inv
    (call : Call ν)
    (s : State ν) : Prop :=
  match s.proc with
  | .called => True
  | .creating => OwnerOnly call.perm
  | .running tmp ino stage =>
      Guarded call s.fs tmp ino ∧
        s.fs.names tmp = some ino ∧
        Ready call s.fs tmp ino stage
  | .closing tmp ino _ => Guarded call s.fs tmp ino
  | .removing tmp ino _ => Guarded call s.fs tmp ino
  | .returned none _ => True
  | .returned (some (tmp, ino)) _ =>
      Guarded call s.fs tmp ino ∧ s.fs.names tmp = none
  | .dead none => True
  | .dead (some (tmp, ino)) => Guarded call s.fs tmp ino

variable {call : Call ν}
variable {fs fs' : FileSystem ν}
variable {tmp : ν}
variable {ino : Nat}

theorem Whole.undisturbed
    (hWhole : Whole call fs ino)
    (hSame : FileSystem.Undisturbed tmp ino fs fs') :
    Whole call fs' ino :=
  ⟨hSame.file.trans hWhole.1, hSame.synced hWhole.2⟩

theorem Guarded.undisturbed
    (hGuarded : Guarded call fs tmp ino)
    (hSame : FileSystem.Undisturbed tmp ino fs fs') :
    Guarded call fs' tmp ino where
  apart := hGuarded.apart
  made := hGuarded.made.trans_le hSame.next
  owner := hGuarded.owner
  whole := fun hExposed =>
    (hGuarded.whole (hSame.exposed hExposed)).undisturbed
      hSame

theorem Ready.undisturbed
    {stage : Stage}
    (hReady : Ready call fs tmp ino stage)
    (hSame : FileSystem.Undisturbed tmp ino fs fs') :
    Ready call fs' tmp ino stage := by
  have hHidden :
      ¬ fs.Exposed tmp ino → ¬ fs'.Exposed tmp ino :=
    fun hNot hExposed => hNot (hSame.exposed hExposed)
  cases stage with
  | write written =>
      rcases hReady with ⟨hNot, hLe, hData⟩
      exact ⟨hHidden hNot, hLe, by rw [hSame.file, hData]⟩
  | chmod =>
      exact ⟨hHidden hReady.1, by rw [hSame.file, hReady.2]⟩
  | sync =>
      exact ⟨hHidden hReady.1, by rw [hSame.file, hReady.2]⟩
  | close =>
      exact ⟨hHidden hReady.1, hReady.2.undisturbed hSame⟩
  | link =>
      exact ⟨hHidden hReady.1, hReady.2.undisturbed hSame⟩
  | openDir => exact Whole.undisturbed hReady hSame
  | syncDir => exact Whole.undisturbed hReady hSame
  | closeDir => exact Whole.undisturbed hReady hSame

/- What the disk has is what the file was synced with. -/
theorem Guarded.powerLoss
    (hGuarded : Guarded call fs tmp ino)
    (pick : ν → Nat)
    (lost : Nat → File) :
    Guarded call (fs.powerLoss pick lost) tmp ino where
  apart := hGuarded.apart
  made := hGuarded.made
  owner := hGuarded.owner
  whole := by
    intro hExposed
    rcases hGuarded.whole
        (FileSystem.powerLoss_exposed hExposed) with
      ⟨hFile, hSynced⟩
    exact ⟨(FileSystem.powerLoss_files hSynced).trans hFile,
      rfl⟩

/- A file that no other name has ever had may change. -/
theorem Guarded.store
    (hGuarded : Guarded call fs tmp ino)
    (hHidden : ¬ fs.Exposed tmp ino)
    (f : File) :
    Guarded call (fs.store ino f) tmp ino where
  apart := hGuarded.apart
  made := hGuarded.made
  owner := hGuarded.owner
  whole := fun hExposed => absurd hExposed hHidden

/- A file at the path is not one without another name. -/
theorem Guarded.ne_of_hidden
    (hGuarded : Guarded call fs tmp ino)
    (hHidden : ¬ fs.Exposed tmp ino)
    {i : Nat}
    (hName : fs.names call.target = some i) :
    i ≠ ino := by
  rintro rfl
  exact hHidden
    ⟨call.target, hGuarded.apart.symm, Or.inl hName⟩

theorem Inv.guarded
    {s : State ν}
    (hInv : Inv call s)
    (hTemp : s.proc.temp = some (tmp, ino)) :
    Guarded call s.fs tmp ino := by
  rcases s with ⟨fs, proc⟩
  cases proc with
  | called => cases hTemp
  | creating => cases hTemp
  | running tmp' ino' stage =>
      cases hTemp
      exact hInv.1
  | closing tmp' ino' result =>
      cases hTemp
      exact hInv
  | removing tmp' ino' result =>
      cases hTemp
      exact hInv
  | returned temp result =>
      cases hTemp
      exact hInv.1
  | dead temp =>
      cases hTemp
      exact hInv

theorem inv_dead
    {proc : Proc ν}
    (hGuarded :
      ∀ tmp ino, proc.temp = some (tmp, ino) →
        Guarded call fs tmp ino) :
    Inv call ⟨fs, .dead proc.temp⟩ := by
  cases hTemp : proc.temp with
  | none => trivial
  | some temp => exact hGuarded temp.1 temp.2 hTemp

end AtomicWrite

end Signer

end BridgeSigner

------------------------------------------------------------
-- The Invariant
------------------------------------------------------------

namespace BridgeSigner

namespace Signer

namespace AtomicWrite

variable {ν : Type}

/- The names that may be drawn are not that of the path. -/
def Call.Apart
    (call : Call ν) : Prop :=
  validatePerm call.perm = .ok () →
    ∀ n < 2 ^ 32, call.tempEntry n ≠ call.target

variable {call : Call ν}
variable {fs : FileSystem ν}
variable {tmp : ν}
variable {ino : Nat}

theorem writeStep_inv
    (hGuarded : Guarded call fs tmp ino)
    (hName : fs.names tmp = some ino)
    {written : Nat}
    (hReady : Ready call fs tmp ino (.write written))
    (n : Nat)
    (fault : Option Bytes) :
    Inv call (writeStep call fs tmp ino written n fault) := by
  rcases hReady with ⟨hHidden, hLe, hData⟩
  have hText := fs.writePiece_files hLe hData n
  have hAfter :
      Guarded call (fs.writePiece ino call.data written n)
        tmp ino :=
    hGuarded.store hHidden _
  unfold writeStep
  simp only
  split
  · exact hAfter
  · split
    · rename_i hMore
      exact ⟨hAfter, hName, hHidden, hMore.le, hText⟩
    · rename_i hAll
      refine ⟨hAfter, hName, hHidden, hText.trans ?_⟩
      exact List.take_of_length_le (Nat.le_of_not_lt hAll)

variable [DecidableEq ν]

theorem linked_inv
    (hGuarded : Guarded call fs tmp ino)
    (hName : fs.names tmp = some ino)
    (hWhole : Whole call fs ino) :
    Inv call
      ⟨fs.link tmp call.target, .running tmp ino .openDir⟩ := by
  have hGuarded' :
      Guarded call (fs.link tmp call.target) tmp ino :=
    ⟨hGuarded.apart, hGuarded.made, hGuarded.owner,
      fun _ => hWhole⟩
  refine ⟨hGuarded', ?_, hWhole⟩
  exact (fs.link_names_of_ne hGuarded.apart).trans hName

theorem proceedStep_inv
    {stage : Stage}
    {t : State ν}
    (hInv : Inv call ⟨fs, .running tmp ino stage⟩)
    (hStage : proceedStep call fs tmp ino stage = some t) :
    Inv call t := by
  rcases hInv with ⟨hGuarded, hName, hReady⟩
  cases stage with
  | write written => cases hStage
  | chmod =>
      cases hStage
      rcases hReady with ⟨hHidden, hData⟩
      refine ⟨hGuarded.store hHidden _, hName, hHidden, ?_⟩
      rw [FileSystem.store_files_self]
      exact congrArg (File.mk · call.perm) hData
  | sync =>
      cases hStage
      rcases hReady with ⟨hHidden, hFile⟩
      have hSame :
          FileSystem.Undisturbed tmp ino fs (fs.sync ino) :=
        FileSystem.sync_undisturbed ino
      refine ⟨hGuarded.undisturbed hSame, hName, hHidden,
        hFile, ?_⟩
      exact Function.update_self ino true fs.synced
  | close =>
      cases hStage
      exact ⟨hGuarded, hName, hReady⟩
  | link =>
      simp only [proceedStep] at hStage
      split at hStage
      · cases hStage
        exact linked_inv hGuarded hName hReady.2
      · cases hStage
        exact hGuarded
  | openDir =>
      cases hStage
      exact ⟨hGuarded, hName, hReady⟩
  | syncDir =>
      cases hStage
      have hSame :
          FileSystem.Undisturbed tmp ino fs
            (fs.syncDir (call.holds call.dir)) :=
        FileSystem.syncDir_undisturbed _
      exact ⟨hGuarded.undisturbed hSame, hName,
        Whole.undisturbed hReady hSame⟩
  | closeDir =>
      cases hStage
      exact hGuarded

theorem createTemp_inv
    (hApart : call.Apart)
    (hOwner : OwnerOnly call.perm)
    {n : Nat}
    (hn : n < 2 ^ 32) :
    Inv call
      ⟨fs.create (call.tempEntry n) ⟨[], 0o600⟩,
        .running (call.tempEntry n) fs.next (.write 0)⟩ := by
  have hHidden :
      ¬ (fs.create (call.tempEntry n) ⟨[], 0o600⟩).Exposed
        (call.tempEntry n) fs.next :=
    FileSystem.create_hidden _ _
  have hGuarded :
      Guarded call
        (fs.create (call.tempEntry n) ⟨[], 0o600⟩)
        (call.tempEntry n) fs.next :=
    ⟨hApart ((validatePerm_ok_iff _).mpr hOwner) n hn,
      Nat.lt_succ_self _, hOwner,
      fun hExposed => absurd hExposed hHidden⟩
  refine ⟨hGuarded, fs.create_names_self _ _, hHidden,
    Nat.zero_le _, ?_⟩
  rw [FileSystem.create_files_self, List.take_zero]

theorem other_inv
    {proc : Proc ν}
    {op : FileSystem.Op ν}
    (hInv : Inv call ⟨fs, proc⟩)
    (hAllows : proc.allows op = true) :
    Inv call ⟨op.apply fs, proc⟩ := by
  have hSame :
      ∀ tmp ino, proc.temp = some (tmp, ino) →
        FileSystem.Undisturbed tmp ino fs (op.apply fs) := by
    intro tmp ino hTemp
    rw [Proc.allows, hTemp] at hAllows
    exact op.undisturbed (hInv.guarded hTemp).made hAllows
  cases proc with
  | called => trivial
  | creating => exact hInv
  | running tmp ino stage =>
      rcases hInv with ⟨hGuarded, hName, hReady⟩
      have hKept := hSame tmp ino rfl
      exact ⟨hGuarded.undisturbed hKept,
        hKept.name.trans hName, hReady.undisturbed hKept⟩
  | closing tmp ino result =>
      exact Guarded.undisturbed hInv (hSame tmp ino rfl)
  | removing tmp ino result =>
      exact Guarded.undisturbed hInv (hSame tmp ino rfl)
  | returned temp result =>
      cases temp with
      | none => trivial
      | some temp =>
          have hKept := hSame temp.1 temp.2 rfl
          exact ⟨hInv.1.undisturbed hKept,
            hKept.name.trans hInv.2⟩
  | dead temp =>
      cases temp with
      | none => trivial
      | some temp =>
          exact Guarded.undisturbed hInv
            (hSame temp.1 temp.2 rfl)

/- Every step keeps the invariant. -/
theorem transition_inv
    (hApart : call.Apart)
    {s t : State ν}
    {e : Event ν}
    (hStep : Transition call s e t)
    (hInv : Inv call s) :
    Inv call t := by
  cases hStep with
  | refuse hPerm => trivial
  | accept hPerm => exact (validatePerm_ok_iff _).mp hPerm
  | createTemp hn hFree => exact createTemp_inv hApart hInv hn
  | createTempFails => trivial
  | write =>
      rcases hInv with ⟨hGuarded, hName, hReady⟩
      exact writeStep_inv hGuarded hName hReady _ _
  | proceed hStage => exact proceedStep_inv hInv hStage
  | fail => exact hInv.1
  | close => exact hInv
  | @remove fs tmp ino result =>
      have hGuarded : Guarded call fs tmp ino := hInv
      refine ⟨⟨hGuarded.apart, hGuarded.made, hGuarded.owner,
        ?_⟩, ?_⟩
      · intro hExposed
        exact hGuarded.whole
          (FileSystem.remove_exposed hExposed)
      · exact fs.remove_names_self tmp
  | kill => exact inv_dead (fun _ _ => hInv.guarded)
  | powerLoss =>
      apply inv_dead
      intro tmp ino hTemp
      exact (hInv.guarded hTemp).powerLoss _ _
  | other hAllows => exact other_inv hInv hAllows

theorem run_guarded
    (hApart : call.Apart)
    {es : List (Event ν)}
    {s : State ν}
    (hRun :
      (machine call).run (State.initial fs) es = some s) :
    Inv call s := by
  apply Machine.run_invariant _ hRun
  · trivial
  · intro s e t hStep hInv
    exact transition_inv hApart (step_transition hStep) hInv

end AtomicWrite

end Signer

end BridgeSigner

------------------------------------------------------------
-- All Or Nothing
------------------------------------------------------------

namespace BridgeSigner

namespace Signer

namespace AtomicWrite

variable {ν : Type} [DecidableEq ν]

/- The step puts a whole file at the free path. -/
structure Creates
    (call : Call ν)
    (a b : State ν)
    (e : Event ν) : Prop where
  own : e.own = true
  step : step call a e = some b
  free : a.fs.names call.target = none
  whole :
    b.fs.read call.target = some ⟨call.data, call.perm⟩

/-
  What is asked of the call in the state that a run leads to:
  its next step leaves a file at the path as it is; a file of
  its own at the path is whole and for the owner only; it has
  returned nil only if it created the path; and it leaves no
  temporary file behind.
-/
structure Correct
    (call : Call ν)
    (fs : FileSystem ν)
    (es : List (Event ν))
    (s : State ν) : Prop where
  kept :
    ∀ e t, e.own = true → step call s e = some t →
      ∀ i, s.fs.names call.target = some i →
        t.fs.names call.target = some i ∧
          t.fs.files i = s.fs.files i
  whole :
    ∀ tmp ino, s.proc.temp = some (tmp, ino) →
      s.fs.names call.target = some ino →
        s.fs.files ino = ⟨call.data, call.perm⟩ ∧
          OwnerOnly call.perm
  created :
    ∀ temp, s.proc = .returned temp none →
      ∃ es₁ e es₂ a b,
        es = es₁ ++ e :: es₂ ∧
          (machine call).run (State.initial fs) es₁ =
            some a ∧
          Creates call a b e
  removed :
    ∀ tmp ino result,
      s.proc = .returned (some (tmp, ino)) result →
        s.fs.names tmp = none

/- In every run, whoever else uses the file system. -/
def Call.AllOrNothing
    (call : Call ν) : Prop :=
  ∀ fs es s,
    (machine call).run (State.initial fs) es = some s →
      Correct call fs es s

variable {call : Call ν}
variable {fs : FileSystem ν}
variable {tmp : ν}
variable {ino : Nat}

theorem proceedStep_kept
    {stage : Stage}
    {t : State ν}
    (hInv : Inv call ⟨fs, .running tmp ino stage⟩)
    (hStage : proceedStep call fs tmp ino stage = some t)
    {i : Nat}
    (hName : fs.names call.target = some i) :
    t.fs.names call.target = some i ∧
      t.fs.files i = fs.files i := by
  rcases hInv with ⟨hGuarded, -, hReady⟩
  cases stage with
  | write written => cases hStage
  | chmod =>
      cases hStage
      have hNe := hGuarded.ne_of_hidden hReady.1 hName
      exact ⟨hName, fs.store_files_of_ne hNe _⟩
  | link =>
      simp only [proceedStep, hName] at hStage
      cases hStage
      exact ⟨hName, rfl⟩
  | _ =>
      cases hStage
      exact ⟨hName, rfl⟩

theorem transition_kept
    {s t : State ν}
    {e : Event ν}
    (hApart : call.Apart)
    (hInv : Inv call s)
    (hOwn : e.own = true)
    (hStep : Transition call s e t)
    {i : Nat}
    (hName : s.fs.names call.target = some i) :
    t.fs.names call.target = some i ∧
      t.fs.files i = s.fs.files i := by
  cases hStep with
  | refuse hPerm => exact ⟨hName, rfl⟩
  | accept hPerm => exact ⟨hName, rfl⟩
  | @createTemp fs n hn hFree =>
      have hPerm := (validatePerm_ok_iff call.perm).mpr hInv
      have hNe := hApart hPerm n hn
      constructor
      · exact (fs.create_names_of_ne hNe.symm _).trans hName
      · exact fs.create_files_of_lt
          (fs.names_lt _ _ hName) _ _
  | createTempFails => exact ⟨hName, rfl⟩
  | @write fs tmp ino written n fault =>
      rcases hInv with ⟨hGuarded, -, hReady⟩
      have hNe := hGuarded.ne_of_hidden hReady.1 hName
      rcases writeStep_eq call fs tmp ino written n fault with
        ⟨proc, hEq, -⟩
      rw [hEq]
      exact ⟨hName, fs.store_files_of_ne hNe _⟩
  | proceed hStage => exact proceedStep_kept hInv hStage hName
  | fail => exact ⟨hName, rfl⟩
  | close => exact ⟨hName, rfl⟩
  | @remove fs tmp ino result =>
      have hGuarded : Guarded call fs tmp ino := hInv
      exact ⟨(fs.remove_names_of_ne hGuarded.apart.symm).trans
        hName, rfl⟩
  | kill => cases hOwn
  | powerLoss => cases hOwn
  | other hAllows => cases hOwn

theorem proceedStep_linked
    {stage : Stage}
    {t : State ν}
    (hInv : Inv call ⟨fs, .running tmp ino stage⟩)
    (hStage : proceedStep call fs tmp ino stage = some t)
    (hBefore : (Proc.running tmp ino stage).linked = false)
    (hAfter : t.proc.linked = true) :
    Creates call ⟨fs, .running tmp ino stage⟩ t
      (.proceed none) := by
  cases stage with
  | link =>
      have hStep :
          step call ⟨fs, .running tmp ino .link⟩
            (.proceed none) = some t :=
        hStage
      rcases hInv with ⟨-, hName, -, hFile, -⟩
      simp only [proceedStep] at hStage
      split at hStage
      · rename_i hFree
        refine ⟨rfl, hStep, hFree, ?_⟩
        cases hStage
        rw [FileSystem.read, FileSystem.link_names_self, hName]
        exact congrArg some hFile
      · cases hStage
        cases hAfter
  | openDir => cases hBefore
  | syncDir => cases hBefore
  | closeDir => cases hBefore
  | write written => cases hStage
  | chmod =>
      cases hStage
      cases hAfter
  | sync =>
      cases hStage
      cases hAfter
  | close =>
      cases hStage
      cases hAfter

/- Only the link itself gets a call to where it is linked. -/
theorem transition_linked
    {s t : State ν}
    {e : Event ν}
    (hInv : Inv call s)
    (hStep : Transition call s e t)
    (hBefore : s.proc.linked = false)
    (hAfter : t.proc.linked = true) :
    Creates call s t e := by
  cases hStep with
  | @write fs tmp ino written n fault =>
      rcases writeStep_eq call fs tmp ino written n fault with
        ⟨proc, hEq, hNot⟩
      rw [hEq, hNot] at hAfter
      cases hAfter
  | proceed hStage =>
      exact proceedStep_linked hInv hStage hBefore hAfter
  | @close fs tmp ino result =>
      cases result with
      | none => cases hBefore
      | some e => cases hAfter
  | @remove fs tmp ino result =>
      cases result with
      | none => cases hBefore
      | some e => cases hAfter
  | other hAllows =>
      rw [hBefore] at hAfter
      cases hAfter
  | _ => cases hAfter

theorem run_created
    (hApart : call.Apart)
    {es : List (Event ν)}
    {s : State ν}
    (hRun :
      (machine call).run (State.initial fs) es = some s)
    (hLinked : s.proc.linked = true) :
    ∃ es₁ e es₂ a b,
      es = es₁ ++ e :: es₂ ∧
        (machine call).run (State.initial fs) es₁ = some a ∧
        Creates call a b e := by
  have hStart :
      ¬ (State.initial fs).proc.linked = true := by
    intro hNot
    cases hNot
  rcases Machine.run_begins
      (P := fun s => s.proc.linked = true) hRun hStart
      hLinked with
    ⟨es₁, e, es₂, a, b, hSplit, hFirst, hStep, hBefore, hAfter⟩
  have hCreates :=
    transition_linked (run_guarded hApart hFirst)
      (step_transition hStep)
      (Bool.eq_false_iff.mpr hBefore) hAfter
  exact ⟨es₁, e, es₂, a, b, hSplit, hFirst, hCreates⟩

theorem correct_of_apart
    (hApart : call.Apart)
    {es : List (Event ν)}
    {s : State ν}
    (hRun :
      (machine call).run (State.initial fs) es = some s) :
    Correct call fs es s := by
  have hInv := run_guarded hApart hRun
  constructor
  · intro e t hOwn hStep i hName
    exact transition_kept hApart hInv hOwn
      (step_transition hStep) hName
  · intro tmp ino hTemp hName
    have hGuarded := hInv.guarded hTemp
    have hExposed : s.fs.Exposed tmp ino :=
      ⟨call.target, hGuarded.apart.symm, Or.inl hName⟩
    exact ⟨(hGuarded.whole hExposed).1, hGuarded.owner⟩
  · intro temp hProc
    apply run_created hApart hRun
    rw [hProc]
    rfl
  · intro tmp ino result hProc
    rw [Inv, hProc] at hInv
    exact hInv.2

/- A write that fails removes the path it has created. -/
theorem not_allOrNothing_of_drawn
    (hPerm : validatePerm call.perm = .ok ())
    {n : Nat}
    (hn : n < 2 ^ 32)
    (hSame : call.tempEntry n = call.target) :
    ¬ call.AllOrNothing := by
  intro hAll
  have hAccepted :
      step call (State.initial FileSystem.empty) .validate =
        some ⟨FileSystem.empty, .creating⟩ := by
    simp only [step, State.initial, hPerm]
  have hDrawn :
      step call ⟨FileSystem.empty, .creating⟩
          (.createTemp n) =
        some
          ⟨FileSystem.empty.create call.target ⟨[], 0o600⟩,
            .running call.target 0 (.write 0)⟩ := by
    rw [← hSame]
    exact if_pos ⟨hn, rfl⟩
  have hRun :
      (machine call).run (State.initial FileSystem.empty)
          [.validate, .createTemp n, .proceed (some []),
            .deferred] =
        some
          ⟨FileSystem.empty.create call.target ⟨[], 0o600⟩,
            .removing call.target 0 (some (.write []))⟩ := by
    simp only [Machine.run, machine, hAccepted, hDrawn]
    rfl
  rcases (hAll _ _ _ hRun).kept .deferred _ rfl rfl 0
      (FileSystem.create_names_self _ _ _) with
    ⟨hStays, -⟩
  rw [FileSystem.remove_names_self] at hStays
  cases hStays

/-
  The call is all or nothing exactly where no name that it
  may draw for its temporary file is that of the path.
-/
theorem allOrNothing_iff
    (call : Call ν) :
    call.AllOrNothing ↔ call.Apart := by
  constructor
  · intro hAll hPerm n hn hSame
    exact not_allOrNothing_of_drawn hPerm hn hSame hAll
  · intro hApart fs es s hRun
    exact correct_of_apart hApart hRun

end AtomicWrite

end Signer

end BridgeSigner

------------------------------------------------------------
-- Paths Like Temporary Files
------------------------------------------------------------

namespace BridgeSigner

namespace Signer

namespace AtomicWrite

variable (call : Call (List Bytes))

/-
  Where no directory on the way is a symbolic link, the path
  is drawn only if its last element is the name drawn.
-/
theorem tempEntry_eq_target_iff
    {cwd : List Bytes}
    (hEntry : call.entry = Path.resolve cwd)
    (n : Nat) :
    call.tempEntry n = call.target ↔
      Path.afterSlash call.path = tempName n := by
  rw [Call.tempEntry, Call.target, hEntry]
  exact tempPattern.resolve_path_eq_iff cwd call.path n

/- A key for a path that looks like a temporary file. -/
def sampleCall : Call (List Bytes) where
  path := ascii "keys/.atomic-7.tmp"
  data := ascii "c0ffee\n"
  perm := 0o600
  entry := Path.resolve []
  holds := fun dir place =>
    place.tail == Path.resolve [] dir

/-
  The draw of 7 makes the path itself the temporary file: it
  is there without its content, the link to it is refused,
  and the path is removed again.
-/
theorem drawn_path_is_removed :
    ∃ a b,
      (machine sampleCall).run
            (State.initial FileSystem.empty)
            [.validate, .createTemp 7] =
          some a ∧
        a.fs.read sampleCall.target = some ⟨[], 0o600⟩ ∧
        (machine sampleCall).run a
            [.write 7 none, .proceed none, .proceed none,
              .proceed none, .proceed none, .deferred,
              .deferred] =
          some b ∧
        b.proc =
          .returned (some (sampleCall.target, 0))
            (some (.overwrite sampleCall.path)) ∧
        b.fs.read sampleCall.target = none ∧
        ¬ sampleCall.AllOrNothing := by
  have hSame :
      sampleCall.tempEntry 7 = sampleCall.target :=
    (tempEntry_eq_target_iff sampleCall rfl 7).mpr rfl
  refine ⟨_, _, rfl, ?_, rfl, ?_, ?_, ?_⟩
  · rfl
  · rfl
  · rfl
  · exact not_allOrNothing_of_drawn rfl (by decide) hSame

end AtomicWrite

end Signer

end BridgeSigner
