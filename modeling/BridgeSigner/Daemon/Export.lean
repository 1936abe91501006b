import BridgeSigner.Foundation.Hidden
import BridgeSigner.Signer.AtomicWrite
import BridgeSigner.Signer.Keyring

/-
  The export of a private key (cmd/bridge-signer/cmd_export.go).

  A run of the command reads the key from the keyring and
  writes it as text, to a new file or to stdout. The write of
  the file is the machine of `WriteNewFileAtomic`: every call
  of the operating system may fail, the process may be killed
  between any two of them, and others use the file system all
  the while.

  Key definitions include:
    * `Export.step`
    * `Export.View`, `Export.State.seen`
    * `Export.Alike`

  Main results:
    * `Export.step_alike`
    * `Export.export_hides_key`
    * `Export.exported_key_reads_back`
-/

------------------------------------------------------------
-- The Command
------------------------------------------------------------

namespace BridgeSigner

open Consensus (Err)
open Signer

/- What the command returns if it fails. -/
inductive ExportError where
| message (e : Err)
| file (e : WriteError)
  deriving DecidableEq, Repr

/-
  A command line and what it meets: the keyring, whether
  stdout is a terminal, and how paths are resolved.
-/
structure Export (ν : Type) where
  keyName : Bytes
  outputPath : Bytes
  keyringDir : Bytes
  keyring : Bytes → Fallible Record
  terminal : Bool
  entry : Bytes → ν
  holds : Bytes → ν → Bool

namespace Export

variable {ν : Type}

/- What is said on stderr. -/
inductive Note where
| warning
| written (path : Bytes)
  deriving DecidableEq, Repr

inductive Stage where
| started
| saving (key : Bytes)
| printing (key : Bytes)
| returned (result : Option ExportError)
| dead
  deriving DecidableEq, Repr

/- `file` has the file system and the state of the write. -/
structure State (ν : Type) where
  file : AtomicWrite.State ν
  stage : Stage
  stdout : Bytes
  stderr : List Note

/-
  `write` is a step of `WriteNewFileAtomic`, and `report` is
  what comes after it. `print` writes to stdout; if it fails
  then after `n` bytes.
-/
inductive Event (ν : Type) where
| fetch
| write (e : AtomicWrite.Event ν)
| report
| print (n : Nat) (fault : Option Bytes)
| kill
| other (op : FileSystem.Op ν)

def keyText
    (key : Bytes) : Bytes :=
  encodeHex key ++ [newline]

variable (x : Export ν)

/- The key that is asked for. -/
def key : Except Err Bytes :=
  match x.keyring x.keyName with
  | .error e =>
      .error
        ⟨"get key %q from keyring at %q: %w",
          [.text x.keyName, .text x.keyringDir, .library e]⟩
  | .ok record => extractSecpPrivKeyBytes (some record)

/- The write of `writeKeyToFile`. -/
def call
    (key : Bytes) : AtomicWrite.Call ν where
  path := x.outputPath
  data := keyText key
  perm := 0o600
  entry := x.entry
  holds := x.holds

/- Where the key goes, or why it goes nowhere. -/
def fetchStep
    (s : State ν) : State ν :=
  match x.key with
  | .error e =>
      { s with stage := .returned (some (.message e)) }
  | .ok key =>
      if x.outputPath ≠ [] then
        { s with stage := .saving key }
      else if x.terminal = true then
        { s with
          stage :=
            .returned
              (some
                (.message
                  ⟨"refusing to write private key to a " ++
                    "terminal; redirect stdout to a " ++
                    "file/pipe or use --output to write to " ++
                    "a file with mode 0600", []⟩)) }
      else
        { s with
          stage := .printing key
          stderr := s.stderr ++ [.warning] }

/- What is returned after the write of the file. -/
def reportStep
    (s : State ν) :
    AtomicWrite.Proc ν → Option (State ν)
| .returned _ none =>
    some
      { s with
        stage := .returned none
        stderr := s.stderr ++ [.written x.outputPath] }
| .returned _ (some e) =>
    some { s with stage := .returned (some (.file e)) }
| _ => none

def printStep
    (s : State ν)
    (key : Bytes)
    (n : Nat) :
    Option Bytes → State ν
| none =>
    { s with
      stage := .returned none
      stdout := s.stdout ++ keyText key }
| some e =>
    { s with
      stage :=
        .returned
          (some (.message ⟨"write key: %w", [.library e]⟩))
      stdout := s.stdout ++ (keyText key).take n }

/- The process is gone, and with it the write. -/
def killStep
    (s : State ν) : State ν :=
  { s with
    stage := .dead
    file :=
      { s.file with
        proc := s.file.proc.killed.getD s.file.proc } }

variable [DecidableEq ν]

def step
    (s : State ν) :
    Event ν → Option (State ν)
| .fetch =>
    match s.stage with
    | .started => some (x.fetchStep s)
    | _ => none
| .write e =>
    match s.stage with
    | .saving key =>
        if e.own = true then
          (AtomicWrite.step (x.call key) s.file e).map
            (fun file => { s with file := file })
        else
          none
    | _ => none
| .report =>
    match s.stage with
    | .saving _ => x.reportStep s s.file.proc
    | _ => none
| .print n fault =>
    match s.stage with
    | .printing key => some (printStep s key n fault)
    | _ => none
| .kill =>
    match s.stage with
    | .returned _ => none
    | .dead => none
    | _ => some (killStep s)
| .other op =>
    if s.file.proc.allows op = true then
      some
        { s with file := ⟨op.apply s.file.fs, s.file.proc⟩ }
    else
      none

def machine : Machine (State ν) (Event ν) where
  step := x.step

/- The command is started on some file system. -/
def initial
    (fs : FileSystem ν) : State ν :=
  ⟨AtomicWrite.State.initial fs, .started, [], []⟩

end Export

end BridgeSigner

------------------------------------------------------------
-- What A Step Can Do
------------------------------------------------------------

namespace BridgeSigner

open Signer

namespace Export

variable {ν : Type} [DecidableEq ν]

/- The steps, by the stage they are taken in. -/
inductive Transition
    (x : Export ν)
    (s : State ν) :
    Event ν → State ν → Prop where
| fetch
    (hStage : s.stage = .started) :
    Transition x s .fetch (x.fetchStep s)
| write
    {key : Bytes}
    {e : AtomicWrite.Event ν}
    {file : AtomicWrite.State ν}
    (hStage : s.stage = .saving key)
    (hOwn : e.own = true)
    (hWrite :
      AtomicWrite.step (x.call key) s.file e = some file) :
    Transition x s (.write e) { s with file := file }
| report
    {key : Bytes}
    {t : State ν}
    (hStage : s.stage = .saving key)
    (hReport : x.reportStep s s.file.proc = some t) :
    Transition x s .report t
| print
    {key : Bytes}
    {n : Nat}
    {fault : Option Bytes}
    (hStage : s.stage = .printing key) :
    Transition x s (.print n fault) (printStep s key n fault)
| kill
    (hOpen : ∀ result, s.stage ≠ .returned result)
    (hAlive : s.stage ≠ .dead) :
    Transition x s .kill (killStep s)
| other
    {op : FileSystem.Op ν}
    (hAllows : s.file.proc.allows op = true) :
    Transition x s (.other op)
      { s with file := ⟨op.apply s.file.fs, s.file.proc⟩ }

theorem step_iff
    {x : Export ν}
    {s t : State ν}
    {e : Event ν} :
    x.step s e = some t ↔ Transition x s e t := by
  constructor
  · intro hStep
    cases e with
    | fetch =>
        simp only [step] at hStep
        split at hStep
        · cases hStep
          exact .fetch ‹_›
        · cases hStep
    | write e =>
        simp only [step] at hStep
        split at hStep
        · split at hStep
          · rcases Option.map_eq_some_iff.mp hStep with
              ⟨file, hWrite, rfl⟩
            exact .write ‹_› ‹_› hWrite
          · cases hStep
        · cases hStep
    | report =>
        simp only [step] at hStep
        split at hStep
        · exact .report ‹_› hStep
        · cases hStep
    | print n fault =>
        simp only [step] at hStep
        split at hStep
        · cases hStep
          exact .print ‹_›
        · cases hStep
    | kill =>
        simp only [step] at hStep
        split at hStep
        · cases hStep
        · cases hStep
        · rename_i hOpen hAlive
          cases hStep
          exact .kill hOpen hAlive
    | other op =>
        simp only [step] at hStep
        split at hStep
        · cases hStep
          exact .other ‹_›
        · cases hStep
  · intro hStep
    cases hStep with
    | fetch hStage => simp only [step, hStage]
    | write hStage hOwn hWrite =>
        simp only [step, hStage, hOwn, hWrite, if_true,
          Option.map_some]
    | report hStage hReport =>
        simp only [step, hStage, hReport]
    | print hStage => simp only [step, hStage]
    | kill hOpen hAlive =>
        cases hStage : s.stage with
        | returned result => exact absurd hStage (hOpen result)
        | dead => exact absurd hStage hAlive
        | _ => simp only [step, hStage]
    | other hAllows => simp only [step, hAllows, if_true]

end Export

end BridgeSigner

------------------------------------------------------------
-- What Others See Of A Write
------------------------------------------------------------

namespace BridgeSigner

namespace Signer

namespace AtomicWrite

variable {ν : Type}

/- The file is the temporary file of the call. -/
def State.Hides
    (s : State ν)
    (i : Nat) : Prop :=
  ∃ tmp, s.proc.temp = some (tmp, i)

/-
  Two writes at the same point, alike but for the content of
  the temporary file, which is for the owner only.
-/
structure Alike
    (s s' : State ν) : Prop where
  proc : s'.proc = s.proc
  fs : FileSystem.AlikeBut s.Hides s.fs s'.fs
  owner :
    ∀ i, s.Hides i →
      (s.fs.files i).mode &&& 0o077 = 0 ∧ i < s.fs.next

/- The process moves on with the same temporary file. -/
theorem Alike.moved
    {fs fs' : FileSystem ν}
    {proc next : Proc ν}
    (h : Alike ⟨fs, proc⟩ ⟨fs', proc⟩)
    (hTemp : next.temp = proc.temp) :
    Alike ⟨fs, next⟩ ⟨fs', next⟩ := by
  have hHides :
      (⟨fs, next⟩ : State ν).Hides =
        (⟨fs, proc⟩ : State ν).Hides := by
    funext i
    simp only [State.Hides, hTemp]
  refine ⟨rfl, ?_, ?_⟩
  · rw [hHides]
    exact h.fs
  · intro i hi
    rw [hHides] at hi
    exact h.owner i hi

/- The temporary file itself is changed. -/
theorem Alike.stored
    {fs fs' : FileSystem ν}
    {proc : Proc ν}
    {tmp : ν}
    {ino : Nat}
    (h : Alike ⟨fs, proc⟩ ⟨fs', proc⟩)
    (hTemp : proc.temp = some (tmp, ino))
    {f f' : File}
    (hFile : File.Alike True f f')
    (hMode : f.mode &&& 0o077 = 0) :
    Alike ⟨fs.store ino f, proc⟩ ⟨fs'.store ino f', proc⟩ := by
  have hIno : (⟨fs, proc⟩ : State ν).Hides ino :=
    ⟨tmp, hTemp⟩
  have hOnly :
      ∀ i, (⟨fs, proc⟩ : State ν).Hides i → i = ino := by
    rintro i ⟨tmp', hi⟩
    rw [hTemp] at hi
    cases hi
    rfl
  refine ⟨rfl, ?_, ?_⟩
  · apply h.fs.store
    exact ⟨hFile.mode, hFile.size,
      fun hShown => absurd hIno hShown⟩
  · intro i hi
    have hSelf := hOnly i hi
    subst hSelf
    rw [FileSystem.store_files_self]
    exact ⟨hMode, (h.owner i hIno).2⟩

variable {call : Call ν}
variable {text : Bytes}

theorem writeStep_alike
    (hLength : text.length = call.data.length)
    {fs fs' : FileSystem ν}
    {tmp : ν}
    {ino written : Nat}
    (h :
      Alike ⟨fs, .running tmp ino (.write written)⟩
        ⟨fs', .running tmp ino (.write written)⟩)
    (n : Nat)
    (fault : Option Bytes) :
    Alike
      (writeStep call fs tmp ino written n fault)
      (writeStep { call with data := text } fs' tmp ino
        written n fault) := by
  have hIno :
      (⟨fs, .running tmp ino (.write written)⟩ :
        State ν).Hides ino :=
    ⟨tmp, rfl⟩
  have hChunk :
      ((text.drop written).take n).length =
        ((call.data.drop written).take n).length := by
    simp only [List.length_take, List.length_drop, hLength]
  have hBefore : File.Alike True (fs.files ino) (fs'.files ino) :=
    ⟨(h.fs.files ino).mode, (h.fs.files ino).size,
      fun hShown => absurd trivial hShown⟩
  have hFile := hBefore.writeAt trivial written hChunk
  have hStored := h.stored rfl hFile (h.owner ino hIno).1
  unfold writeStep
  simp only [hLength]
  split
  · exact hStored.moved rfl
  · split
    · exact hStored.moved rfl
    · exact hStored.moved rfl

variable [DecidableEq ν]

/- Others leave the temporary file as it is. -/
theorem Alike.other
    {s s' : State ν}
    (h : Alike s s')
    {op : FileSystem.Op ν}
    (hAllows : s.proc.allows op = true) :
    Alike ⟨op.apply s.fs, s.proc⟩ ⟨op.apply s'.fs, s'.proc⟩ := by
  refine ⟨h.proc, h.fs.apply op, ?_⟩
  rintro i ⟨tmp, hTemp⟩
  rcases h.owner i ⟨tmp, hTemp⟩ with ⟨hMode, hMade⟩
  rw [Proc.allows, hTemp] at hAllows
  have hSame := op.undisturbed hMade hAllows
  rw [hSame.file]
  exact ⟨hMode, hMade.trans_le hSame.next⟩

theorem proceedStep_alike
    (hPerm : call.perm &&& 0o077 = 0)
    {fs fs' : FileSystem ν}
    {tmp : ν}
    {ino : Nat}
    {stage : Stage}
    {t : State ν}
    (h :
      Alike ⟨fs, .running tmp ino stage⟩
        ⟨fs', .running tmp ino stage⟩)
    (hStage : proceedStep call fs tmp ino stage = some t) :
    ∃ t',
      proceedStep { call with data := text } fs' tmp ino
          stage = some t' ∧
        Alike t t' := by
  cases stage with
  | write written => cases hStage
  | chmod =>
      cases hStage
      have hFile :
          File.Alike True
            { fs.files ino with mode := call.perm }
            { fs'.files ino with mode := call.perm } :=
        ⟨rfl, (h.fs.files ino).size,
          fun hShown => absurd trivial hShown⟩
      exact ⟨_, rfl, (h.stored rfl hFile hPerm).moved rfl⟩
  | sync =>
      cases hStage
      have hMoved : Alike ⟨fs, .running tmp ino .close⟩
          ⟨fs', .running tmp ino .close⟩ :=
        h.moved rfl
      exact ⟨_, rfl, rfl, hMoved.fs.sync ino, hMoved.owner⟩
  | close =>
      cases hStage
      exact ⟨_, rfl, h.moved rfl⟩
  | link =>
      simp only [proceedStep] at hStage ⊢
      have hTarget :
          fs'.names ({ call with data := text } : Call ν).target =
            fs.names call.target :=
        congrFun h.fs.names call.target
      rw [hTarget]
      split at hStage
      · cases hStage
        have hMoved : Alike ⟨fs, .running tmp ino .openDir⟩
            ⟨fs', .running tmp ino .openDir⟩ :=
          h.moved rfl
        exact ⟨_, rfl, rfl, hMoved.fs.link tmp call.target,
          hMoved.owner⟩
      · cases hStage
        exact ⟨_, rfl, h.moved rfl⟩
  | openDir =>
      cases hStage
      exact ⟨_, rfl, h.moved rfl⟩
  | syncDir =>
      cases hStage
      have hMoved : Alike ⟨fs, .running tmp ino .closeDir⟩
          ⟨fs', .running tmp ino .closeDir⟩ :=
        h.moved rfl
      exact ⟨_, rfl, rfl,
        hMoved.fs.syncDir (call.holds call.dir),
        hMoved.owner⟩
  | closeDir =>
      cases hStage
      exact ⟨_, rfl, h.moved rfl⟩

/- The text that is written shows in no step of the call. -/
theorem step_alike
    (hPerm : call.perm &&& 0o077 = 0)
    (hLength : text.length = call.data.length)
    {s s' t : State ν}
    {e : Event ν}
    (hOwn : e.own = true)
    (hStep : step call s e = some t)
    (h : Alike s s') :
    ∃ t',
      step { call with data := text } s' e = some t' ∧
        Alike t t' := by
  rcases s' with ⟨fs', proc'⟩
  have hProc := h.proc
  cases step_transition hStep with
  | refuse hRefused =>
      cases hProc
      refine ⟨_, ?_, h.moved rfl⟩
      simp only [step, hRefused]
  | accept hAccepted =>
      cases hProc
      refine ⟨_, ?_, h.moved rfl⟩
      simp only [step, hAccepted]
  | @createTemp fs n hn hFree =>
      cases hProc
      have hTemp :
          ({ call with data := text } : Call ν).tempEntry n =
            call.tempEntry n :=
        rfl
      refine ⟨⟨fs'.create (call.tempEntry n) ⟨[], 0o600⟩,
        .running (call.tempEntry n) fs'.next (.write 0)⟩,
        ?_, ?_⟩
      · have hFree' : fs'.names (call.tempEntry n) = none :=
          (congrFun h.fs.names _).trans hFree
        simp only [step, hTemp]
        exact if_pos ⟨hn, hFree'⟩
      · rw [h.fs.next]
        refine ⟨rfl, ?_, ?_⟩
        · apply FileSystem.AlikeBut.create
          apply h.fs.mono
          rintro i ⟨tmp, hNone⟩
          cases hNone
        · rintro i ⟨tmp, hSelf⟩
          cases hSelf
          rw [FileSystem.create_files_self]
          exact ⟨by decide, Nat.lt_succ_self _⟩
  | createTempFails =>
      cases hProc
      exact ⟨_, rfl, h.moved rfl⟩
  | write =>
      cases hProc
      exact ⟨_, rfl, writeStep_alike hLength h _ _⟩
  | proceed hStage =>
      cases hProc
      exact proceedStep_alike hPerm h hStage
  | @fail fs tmp ino stage e =>
      cases hProc
      have hError :
          stage.error { call with data := text } e =
            stage.error call e := by
        cases stage with
        | _ => rfl
      refine ⟨_, rfl, ?_⟩
      rw [hError]
      exact h.moved rfl
  | close =>
      cases hProc
      exact ⟨_, rfl, h.moved rfl⟩
  | @remove fs tmp ino result =>
      cases hProc
      have hMoved :
          Alike ⟨fs, .returned (some (tmp, ino)) result⟩
            ⟨fs', .returned (some (tmp, ino)) result⟩ :=
        h.moved rfl
      exact ⟨_, rfl, rfl, hMoved.fs.remove tmp, hMoved.owner⟩
  | kill => cases hOwn
  | powerLoss => cases hOwn
  | other hAllows => cases hOwn

end AtomicWrite

end Signer

end BridgeSigner

------------------------------------------------------------
-- What Others See Of An Export
------------------------------------------------------------

namespace BridgeSigner

open Signer

namespace Export

variable {ν : Type}

/-
  What is seen by others than the owner: the names, modes and
  sizes of the files, the content of those that group or
  others may use, and what the command says and returns.
-/
structure View (ν : Type) where
  names : ν → Option Nat
  modes : Nat → UInt32
  sizes : Nat → Nat
  shared : Nat → Option Bytes
  stdout : Bytes
  stderr : List Note
  result : Option (Option ExportError)

def Stage.result : Stage → Option (Option ExportError)
| .returned result => some result
| _ => none

def sharedData
    (f : File) : Option Bytes :=
  if f.mode &&& 0o077 = 0 then none else some f.data

def State.seen
    (s : State ν) : View ν where
  names := s.file.fs.names
  modes := fun i => (s.file.fs.files i).mode
  sizes := fun i => (s.file.fs.files i).data.length
  shared := fun i => sharedData (s.file.fs.files i)
  stdout := s.stdout
  stderr := s.stderr
  result := s.stage.result

/- The stage is the same, up to the key. -/
inductive Stage.Alike
    (k k' : Bytes) :
    Stage → Stage → Prop where
| started : Alike k k' .started .started
| saving : Alike k k' (.saving k) (.saving k')
| returned
    (result : Option ExportError) :
    Alike k k' (.returned result) (.returned result)
| dead : Alike k k' .dead .dead

/- Two exports at the same point, of two keys. -/
structure Alike
    (k k' : Bytes)
    (s s' : State ν) : Prop where
  file : AtomicWrite.Alike s.file s'.file
  stage : Stage.Alike k k' s.stage s'.stage
  stdout : s'.stdout = s.stdout
  stderr : s'.stderr = s.stderr

theorem Stage.Alike.result_eq
    {k k' : Bytes}
    {a a' : Stage}
    (h : Stage.Alike k k' a a') :
    a'.result = a.result := by
  cases h with
  | _ => rfl

/- Where the one is, the other is too. -/
theorem Stage.Alike.of_started
    {k k' : Bytes}
    {b : Stage}
    (h : Stage.Alike k k' .started b) :
    b = .started := by
  cases h
  rfl

theorem Stage.Alike.of_saving
    {k k' key : Bytes}
    {b : Stage}
    (h : Stage.Alike k k' (.saving key) b) :
    key = k ∧ b = .saving k' := by
  cases h
  exact ⟨rfl, rfl⟩

theorem Stage.Alike.to_returned
    {k k' : Bytes}
    {a : Stage}
    {result : Option ExportError}
    (h : Stage.Alike k k' a (.returned result)) :
    a = .returned result := by
  cases h
  rfl

theorem Stage.Alike.to_dead
    {k k' : Bytes}
    {a : Stage}
    (h : Stage.Alike k k' a .dead) :
    a = .dead := by
  cases h
  rfl

theorem sharedData_alike
    {hidden : Prop}
    {f f' : File}
    (h : File.Alike hidden f f')
    (hOwner : hidden → f.mode &&& 0o077 = 0) :
    sharedData f' = sharedData f := by
  unfold sharedData
  rw [h.mode]
  split
  · rfl
  · rename_i hShared
    rw [h.data (fun hHidden => hShared (hOwner hHidden))]

variable {k k' : Bytes}
variable {s s' t : State ν}

/- What differs is not seen. -/
theorem Alike.seen_eq
    (h : Alike k k' s s') :
    s'.seen = s.seen := by
  unfold State.seen
  congr 1
  · exact h.file.fs.names
  · funext i
    exact (h.file.fs.files i).mode
  · funext i
    exact (h.file.fs.files i).size
  · funext i
    exact sharedData_alike (h.file.fs.files i)
      (fun hi => (h.file.owner i hi).1)
  · exact h.stdout
  · exact h.stderr
  · exact h.stage.result_eq

theorem keyText_length
    (key : Bytes) :
    (keyText key).length = 2 * key.length + 1 := by
  rw [keyText, List.length_append, length_encodeHex]
  rfl

theorem alike_initial
    (k k' : Bytes)
    (fs : FileSystem ν) :
    Alike k k' (initial fs) (initial fs) := by
  refine ⟨⟨rfl, FileSystem.AlikeBut.refl _ fs, ?_⟩,
    .started, rfl, rfl⟩
  rintro i ⟨tmp, hNone⟩
  cases hNone

/- A write that was killed keeps its temporary file. -/
theorem temp_killed
    (proc : AtomicWrite.Proc ν) :
    (proc.killed.getD proc).temp = proc.temp := by
  cases proc with
  | _ => rfl

theorem killStep_alike
    (h : Alike k k' s s') :
    Alike k k' (killStep s) (killStep s') := by
  refine ⟨?_, .dead, h.stdout, h.stderr⟩
  rcases s with ⟨⟨fs, proc⟩, stage, stdout, stderr⟩
  rcases s' with ⟨⟨fs', proc'⟩, stage', stdout', stderr'⟩
  have hProc : proc' = proc := h.file.proc
  subst hProc
  exact AtomicWrite.Alike.moved h.file (temp_killed proc')

variable {x : Export ν}
variable {others : Bytes → Fallible Record}

/- Nothing of the key is printed. -/
def Closed
    (x : Export ν) : Prop :=
  x.outputPath ≠ [] ∨ x.terminal = true

theorem fetchStep_alike
    (hClosed : x.Closed)
    (hKey : x.key = .ok k)
    (hOther : { x with keyring := others }.key = .ok k')
    (h : Alike k k' s s') :
    Alike k k' (x.fetchStep s)
      ({ x with keyring := others }.fetchStep s') := by
  unfold fetchStep
  rw [hKey, hOther]
  simp only
  by_cases hPath : x.outputPath ≠ []
  · rw [if_pos hPath, if_pos hPath]
    exact ⟨h.file, .saving, h.stdout, h.stderr⟩
  · have hTerminal := hClosed.resolve_left hPath
    rw [if_neg hPath, if_neg hPath, if_pos hTerminal,
      if_pos hTerminal]
    exact ⟨h.file, .returned _, h.stdout, h.stderr⟩

theorem reportStep_alike
    (others : Bytes → Fallible Record)
    (h : Alike k k' s s')
    {proc : AtomicWrite.Proc ν}
    (hReport : x.reportStep s proc = some t) :
    ∃ t',
      { x with keyring := others }.reportStep s' proc =
          some t' ∧
        Alike k k' t t' := by
  unfold reportStep at hReport ⊢
  split at hReport
  · cases hReport
    refine ⟨_, rfl, h.file, .returned _, h.stdout, ?_⟩
    exact congrArg (· ++ [Note.written x.outputPath]) h.stderr
  · cases hReport
    exact ⟨_, rfl, h.file, .returned _, h.stdout, h.stderr⟩
  · cases hReport

variable [DecidableEq ν]

/- Every step of the one is a step of the other. -/
theorem step_alike
    (hClosed : x.Closed)
    (hKey : x.key = .ok k)
    (hOther : { x with keyring := others }.key = .ok k')
    (hLength : k'.length = k.length)
    {e : Event ν}
    (hStep : x.step s e = some t)
    (h : Alike k k' s s') :
    ∃ t',
      { x with keyring := others }.step s' e = some t' ∧
        Alike k k' t t' := by
  have hSame := h.stage
  cases step_iff.mp hStep with
  | fetch hStage =>
      rw [hStage] at hSame
      exact ⟨_, step_iff.mpr (.fetch hSame.of_started),
        fetchStep_alike hClosed hKey hOther h⟩
  | @write key e file hStage hOwn hWrite =>
      rw [hStage] at hSame
      rcases hSame.of_saving with ⟨rfl, hStage'⟩
      have hPerm : (x.call key).perm &&& 0o077 = 0 := by
        change (0o600 : UInt32) &&& 0o077 = 0
        decide
      have hText :
          (keyText k').length = (x.call key).data.length := by
        rw [call, keyText_length, keyText_length, hLength]
      rcases AtomicWrite.step_alike hPerm hText hOwn hWrite
          h.file with
        ⟨file', hWrite', hFile⟩
      exact ⟨_, step_iff.mpr (.write hStage' hOwn hWrite'),
        hFile, h.stage, h.stdout, h.stderr⟩
  | report hStage hReport =>
      rw [hStage] at hSame
      rcases reportStep_alike others h hReport with
        ⟨t', hReport', hAlike⟩
      rw [← h.file.proc] at hReport'
      exact ⟨t',
        step_iff.mpr (.report hSame.of_saving.2 hReport'),
        hAlike⟩
  | print hStage =>
      -- A closed export never comes to print.
      rw [hStage] at hSame
      cases hSame
  | kill hOpen hAlive =>
      refine ⟨_, step_iff.mpr (.kill ?_ ?_), killStep_alike h⟩
      · intro result hReturned
        rw [hReturned] at hSame
        exact hOpen result hSame.to_returned
      · intro hDead
        rw [hDead] at hSame
        exact hAlive hSame.to_dead
  | @other op hAllows =>
      have hAllows' : s'.file.proc.allows op = true := by
        rw [h.file.proc]
        exact hAllows
      exact ⟨_, step_iff.mpr (.other hAllows'),
        h.file.other hAllows, h.stage, h.stdout, h.stderr⟩

end Export

end BridgeSigner

------------------------------------------------------------
-- The Key Stays Hidden
------------------------------------------------------------

namespace BridgeSigner

open Signer

namespace Export

variable {ν : Type}

theorem length_of_key
    {x : Export ν}
    {key : Bytes}
    (hKey : x.key = .ok key) :
    key.length = 32 := by
  unfold Export.key at hKey
  split at hKey
  · cases hKey
  · exact length_of_extract hKey

variable [DecidableEq ν]

/-
  With an output file, or at a terminal, the command shows
  nothing of the key: with any other key in the keyring the
  same run is possible, and it looks the same.
-/
theorem export_hides_key
    (x : Export ν)
    (hClosed : x.Closed)
    (others : Bytes → Fallible Record)
    (k k' : Bytes)
    (hKey : x.key = .ok k)
    (hOther : { x with keyring := others }.key = .ok k')
    (fs : FileSystem ν)
    (es : List (Event ν))
    (s : State ν)
    (hRun : x.machine.run (initial fs) es = some s) :
    ∃ t,
      { x with keyring := others }.machine.run
          (initial fs) es = some t ∧
        t.seen = s.seen := by
  have hLength : k'.length = k.length := by
    rw [length_of_key hKey, length_of_key hOther]
  have hStep :
      ∀ s e t s', x.machine.step s e = some t →
        Alike k k' s s' →
          ∃ t',
            { x with keyring := others }.machine.step s' e =
                some t' ∧
              Alike k k' t t' := by
    intro s e t s' hStep h
    exact step_alike hClosed hKey hOther hLength hStep h
  rcases Machine.run_lockstep hStep hRun
      (alike_initial k k' fs) with
    ⟨t, hRun', hAlike⟩
  exact ⟨t, hRun', hAlike.seen_eq⟩

/- A key is saved; the keyring has one entry. -/
def sampleKeyring
    (b : UInt8) : Bytes → Fallible Record :=
  fun name =>
    .ok
      ⟨name,
        some (.ok (.secp256k1 (List.replicate 32 b)))⟩

def sampleExport : Export (List Bytes) where
  keyName := ascii "bridge"
  outputPath := ascii "bridge.hex"
  keyringDir := ascii "keyring"
  keyring := sampleKeyring 1
  terminal := false
  entry := Path.resolve []
  holds := fun dir place =>
    place.tail == Path.resolve [] dir

/- The file is written in two pieces. -/
def sampleEvents : List (Event (List Bytes)) :=
  [.fetch, .write .validate, .write (.createTemp 7),
    .write (.write 40 none), .write (.write 25 none),
    .write (.proceed none), .write (.proceed none),
    .write (.proceed none), .write (.proceed none),
    .write (.proceed none), .write (.proceed none),
    .write (.proceed none), .write .deferred,
    .write .deferred, .report]

theorem sample_runs :
    ∃ s,
      sampleExport.machine.run (initial FileSystem.empty)
            sampleEvents = some s ∧
        s.stage = .returned none :=
  ⟨_, rfl, rfl⟩

theorem sample_hides_key :
    ∃ s t,
      sampleExport.machine.run (initial FileSystem.empty)
            sampleEvents = some s ∧
        { sampleExport with
            keyring := sampleKeyring 2 }.machine.run
              (initial FileSystem.empty) sampleEvents =
            some t ∧
        s.stage = .returned none ∧
        t.seen = s.seen := by
  rcases sample_runs with ⟨s, hRun, hDone⟩
  rcases export_hides_key sampleExport
      (Or.inl (by decide)) (sampleKeyring 2)
      (List.replicate 32 1) (List.replicate 32 2) rfl rfl
      FileSystem.empty sampleEvents s hRun with
    ⟨t, hOther, hSeen⟩
  exact ⟨s, t, hRun, hOther, hDone, hSeen⟩

end Export

end BridgeSigner

------------------------------------------------------------
-- The File Has The Key
------------------------------------------------------------

namespace BridgeSigner

open Signer

namespace Export

variable {ν : Type}

/- What holds of the write in every stage of the command. -/
structure Kept
    (x : Export ν)
    (s : State ν) : Prop where
  sound :
    ∀ key, x.key = .ok key →
      AtomicWrite.Inv (x.call key) s.file
  saving :
    ∀ key, s.stage = .saving key → x.key = .ok key
  printing :
    ∀ key, s.stage = .printing key → x.outputPath = []
  linked :
    s.stage = .returned none → x.outputPath ≠ [] →
      s.file.proc.linked = true

variable {x : Export ν}
variable {s t : State ν}

/- The fetch leaves the file system and the write alone. -/
theorem fetchStep_file
    (x : Export ν)
    (s : State ν) :
    (x.fetchStep s).file = s.file := by
  unfold fetchStep
  split
  · rfl
  · split
    · rfl
    · split
      · rfl
      · rfl

theorem reportStep_file
    {proc : AtomicWrite.Proc ν}
    (hReport : x.reportStep s proc = some t) :
    t.file = s.file := by
  unfold reportStep at hReport
  split at hReport
  · cases hReport
    rfl
  · cases hReport
    rfl
  · cases hReport

theorem printStep_file
    (s : State ν)
    (key : Bytes)
    (n : Nat)
    (fault : Option Bytes) :
    (printStep s key n fault).file = s.file := by
  cases fault with
  | none => rfl
  | some e => rfl

theorem fetchStep_kept
    (h : Kept x s) :
    Kept x (x.fetchStep s) := by
  unfold fetchStep
  split
  · exact ⟨h.sound, nofun, nofun, nofun⟩
  · rename_i key hKey
    split
    · refine ⟨h.sound, ?_, nofun, nofun⟩
      intro key' hStage
      cases hStage
      exact hKey
    · rename_i hPath
      split
      · exact ⟨h.sound, nofun, nofun, nofun⟩
      · exact ⟨h.sound, nofun,
          fun _ _ => not_not.mp hPath, nofun⟩

theorem killStep_kept
    (h : Kept x s) :
    Kept x (killStep s) := by
  refine ⟨?_, nofun, nofun, nofun⟩
  intro key hKey
  have hInv := h.sound key hKey
  cases hKilled : s.file.proc.killed with
  | none =>
      simp only [killStep, hKilled, Option.getD_none]
      exact hInv
  | some proc =>
      simp only [killStep, hKilled, Option.getD_some]
      rw [AtomicWrite.killed_eq hKilled]
      exact AtomicWrite.inv_dead (fun _ _ => hInv.guarded)

theorem kept_initial
    (x : Export ν)
    (fs : FileSystem ν) :
    Kept x (initial fs) :=
  ⟨fun _ _ => trivial, nofun, nofun, nofun⟩

variable [DecidableEq ν]

theorem step_kept
    (hApart : (x.call []).Apart)
    {e : Event ν}
    (hStep : x.step s e = some t)
    (h : Kept x s) :
    Kept x t := by
  cases step_iff.mp hStep with
  | fetch hStage => exact fetchStep_kept h
  | @write key e file hStage hOwn hWrite =>
      refine ⟨?_, h.saving, h.printing, ?_⟩
      · intro key' hKey
        have hSame := (h.saving key hStage).symm.trans hKey
        cases hSame
        have hDrawn : (x.call key).Apart := hApart
        exact AtomicWrite.transition_inv hDrawn
          (AtomicWrite.step_transition hWrite)
          (h.sound key hKey)
      · intro hReturned
        rw [hStage] at hReturned
        cases hReturned
  | report hStage hReport =>
      unfold reportStep at hReport
      split at hReport
      · rename_i temp hProc
        cases hReport
        refine ⟨h.sound, nofun, nofun, ?_⟩
        intro _ _
        simp only [hProc]
        rfl
      · cases hReport
        exact ⟨h.sound, nofun, nofun, nofun⟩
      · cases hReport
  | @print key n fault hStage =>
      have hPath := h.printing key hStage
      cases fault with
      | none =>
          exact ⟨h.sound, nofun, nofun,
            fun _ hOutput => absurd hPath hOutput⟩
      | some e => exact ⟨h.sound, nofun, nofun, nofun⟩
  | kill hOpen hAlive => exact killStep_kept h
  | other hAllows =>
      refine ⟨?_, h.saving, h.printing, h.linked⟩
      intro key hKey
      exact AtomicWrite.other_inv (h.sound key hKey) hAllows

theorem run_kept
    (hApart : (x.call []).Apart)
    {fs : FileSystem ν}
    {es : List (Event ν)}
    (hRun : x.machine.run (initial fs) es = some s) :
    Kept x s := by
  apply Machine.run_invariant _ hRun (kept_initial x fs)
  intro s e t hStep h
  exact step_kept hApart hStep h

/- Only a step of the write itself makes the link. -/
theorem step_creates
    (h : Kept x s)
    {e : Event ν}
    (hStep : x.step s e = some t)
    (hBefore : s.file.proc.linked = false)
    (hAfter : t.file.proc.linked = true) :
    ∃ key e',
      e = .write e' ∧ x.key = .ok key ∧
        AtomicWrite.Creates (x.call key) s.file t.file e' := by
  cases step_iff.mp hStep with
  | fetch hStage =>
      rw [fetchStep_file, hBefore] at hAfter
      cases hAfter
  | @write key e file hStage hOwn hWrite =>
      have hKey := h.saving key hStage
      exact ⟨key, e, rfl, hKey,
        AtomicWrite.transition_linked (h.sound key hKey)
          (AtomicWrite.step_transition hWrite) hBefore
          hAfter⟩
  | report hStage hReport =>
      rw [reportStep_file hReport, hBefore] at hAfter
      cases hAfter
  | print hStage =>
      rw [printStep_file, hBefore] at hAfter
      cases hAfter
  | kill hOpen hAlive =>
      cases hKilled : s.file.proc.killed with
      | none =>
          simp only [killStep, hKilled, Option.getD_none,
            hBefore] at hAfter
          cases hAfter
      | some proc =>
          simp only [killStep, hKilled, Option.getD_some,
            AtomicWrite.killed_eq hKilled] at hAfter
          cases hAfter
  | other hAllows =>
      rw [hBefore] at hAfter
      cases hAfter

/- What is exported is read as the key. -/
theorem decodeHex_keyText
    (key : Bytes) :
    decodeHex (trimLineEnds (keyText key)) = some key := by
  have hTrim :
      trimLineEnds (keyText key) = encodeHex key := by
    rw [trimLineEnds, keyText,
      List.rdropWhile_concat_pos _ _ _ (by decide),
      List.rdropWhile_eq_self_iff]
    intro hNonempty hEnd
    have hPlain :=
      encodeHex_plain (List.getLast_mem hNonempty)
    rcases List.mem_pair.mp (List.contains_iff_mem.mp hEnd) with
      hReturn | hNewline
    · rw [hReturn] at hPlain
      exact absurd hPlain.1 (by decide)
    · rw [hNewline] at hPlain
      exact absurd hPlain.1 (by decide)
  rw [hTrim, decodeHex_encodeHex]

/-
  If the command reports the file as written, then a step of
  its write made the file where there was none, for the owner
  only, and what it holds is the key of the keyring.
-/
theorem exported_key_reads_back
    (x : Export ν)
    (hApart : (x.call []).Apart)
    (hPath : x.outputPath ≠ [])
    (fs : FileSystem ν)
    (es : List (Event ν))
    (s : State ν)
    (hRun : x.machine.run (initial fs) es = some s)
    (hDone : s.stage = .returned none) :
    ∃ key text es₁ e es₂ a b,
      x.key = .ok key ∧ key.length = 32 ∧
        es = es₁ ++ .write e :: es₂ ∧
        x.machine.run (initial fs) es₁ = some a ∧
        x.step a (.write e) = some b ∧
        a.file.fs.read (x.entry x.outputPath) = none ∧
        b.file.fs.read (x.entry x.outputPath) =
          some ⟨text, 0o600⟩ ∧
        decodeHex (trimLineEnds text) = some key := by
  have hLinked :=
    (run_kept hApart hRun).linked hDone hPath
  have hStart :
      ¬ (initial fs).file.proc.linked = true := by
    intro hNot
    cases hNot
  rcases Machine.run_begins
      (P := fun s : State ν => s.file.proc.linked = true) hRun
      hStart hLinked with
    ⟨es₁, e, es₂, a, b, hSplit, hFirst, hStep, hBefore,
      hAfter⟩
  rcases step_creates (run_kept hApart hFirst) hStep
      (Bool.eq_false_iff.mpr hBefore) hAfter with
    ⟨key, e', rfl, hKey, hCreates⟩
  have hFree :
      a.file.fs.read (x.entry x.outputPath) = none := by
    rw [FileSystem.read]
    exact Option.map_eq_none_iff.mpr hCreates.free
  exact ⟨key, keyText key, es₁, e', es₂, a, b, hKey,
    length_of_key hKey, hSplit, hFirst, hStep, hFree,
    hCreates.whole, decodeHex_keyText key⟩

theorem sample_apart :
    (sampleExport.call []).Apart := by
  intro _ n _
  rw [Ne, AtomicWrite.tempEntry_eq_target_iff _ rfl]
  intro hSame
  have hFirst := congrArg (·[0]?) hSame
  cases hFirst

theorem sample_reads_back :
    ∃ text es₁ e es₂ a b,
      sampleEvents = es₁ ++ .write e :: es₂ ∧
        sampleExport.machine.run (initial FileSystem.empty)
          es₁ = some a ∧
        sampleExport.step a (.write e) = some b ∧
        a.file.fs.read
            (sampleExport.entry sampleExport.outputPath) =
          none ∧
        b.file.fs.read
            (sampleExport.entry sampleExport.outputPath) =
          some ⟨text, 0o600⟩ ∧
        decodeHex (trimLineEnds text) =
          some (List.replicate 32 1) := by
  rcases sample_runs with ⟨s, hRun, hDone⟩
  rcases exported_key_reads_back sampleExport sample_apart
      (by decide) FileSystem.empty sampleEvents s hRun
      hDone with
    ⟨key, text, es₁, e, es₂, a, b, hKey, -, hSplit, hFirst,
      hStep, hFree, hWhole, hRead⟩
  have hSame : List.replicate 32 1 = key :=
    Except.ok.inj hKey
  rw [← hSame] at hRead
  exact ⟨text, es₁, e, es₂, a, b, hSplit, hFirst, hStep,
    hFree, hWhole, hRead⟩

end Export

end BridgeSigner
