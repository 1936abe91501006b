import Mathlib.Order.WithBot
import BridgeSigner.Foundation.FileSystem
import BridgeSigner.Consensus.DialRun

/-
  Runs of `init-state` beside each other and beside a signer
  on one state file (consensus/statefile.go).

  `InitStateFile` asks for the file first and writes it in a
  later call, and `os.WriteFile` opens a file that is there
  and truncates it. Every call of the operating system is a
  step of its own here. A signer that has started replaces
  the file by a new one for every state it saves.

  Key definitions include:
    * `InitRace.step`
    * `InitRace.System.recorded`
    * `InitRace.System.Vacant`
    * `InitRace.ParsesFresh`

  Main results:
    * `InitRace.init_alone`
    * `InitRace.transition_grows`
    * `InitRace.init_keeps_iff`
-/

------------------------------------------------------------
-- Processes On The State File
------------------------------------------------------------

namespace BridgeSigner

namespace Consensus

namespace InitRace

/- The library, the key, and where the state file is. -/
structure System where
  lib : Comet
  chainID : Bytes
  valAddr : Bytes
  keyFile : PathEntry
  keyPath : Bytes
  statePath : Bytes

/- Where an `init-state` is; no error is nil. -/
inductive InitStage where
| idle
| absent
| writing (ino written : Nat)
| returned (err : Option Err)
| killed
  deriving DecidableEq, Repr

/- Where the signer is. -/
inductive StartStage where
| off
| required
| running (st : LastSignState)
  deriving DecidableEq, Repr

/- Any number of `init-state`s, and one signer at a time. -/
structure State where
  fs : FileSystem Bytes
  inits : Nat → InitStage
  start : StartStage

/- A fault is the error of a call that fails. -/
inductive Event where
| initStat (k : Nat) (fault : Option Bytes)
| initOpen (k : Nat) (fault : Option Bytes)
| initWrite (k n : Nat) (fault : Option Bytes)
| initClose (k : Nat) (fault : Option Bytes)
| initKill (k : Nat)
| require (fault : Option Bytes)
| load (fault : Option Bytes)
| request (req : Message)
| stop

/- The `init-state` that takes the step. -/
def Event.init : Event → Option Nat
| .initStat k _ => some k
| .initOpen k _ => some k
| .initWrite k _ _ => some k
| .initClose k _ => some k
| .initKill k => some k
| _ => none

def State.setInit
    (s : State)
    (k : Nat)
    (stage : InitStage) : State :=
  { s with inits := Function.update s.inits k stage }

def State.initKill
    (s : State)
    (k : Nat) : Option State :=
  match s.inits k with
  | .absent => some (s.setInit k .killed)
  | .writing _ _ => some (s.setInit k .killed)
  | _ => none

/- What a failed or a finished call returns. -/
def errorOf
    {α : Type} :
    Except Err α → Option Err
| .ok _ => none
| .error e => some e

namespace System

variable (sys : System)

/- What stands at the path of the state file. -/
def entry
    (fs : FileSystem Bytes) : PathEntry :=
  match fs.read sys.statePath with
  | none => .missing
  | some f => .file f.data

/- What `os.Stat` and `os.ReadFile` find there. -/
def statEntry
    (fs : FileSystem Bytes) :
    Option Bytes → PathEntry
| none => sys.entry fs
| some e => .statFails e

def readEntry
    (fs : FileSystem Bytes) :
    Option Bytes → PathEntry
| none => sys.entry fs
| some e => .unreadable e

/- `os.WriteFile` has returned. -/
def written
    (fault : Option Bytes) : InitStage :=
  .returned
    (errorOf (initStateFile sys.statePath fault .missing))

def initStat
    (s : State)
    (k : Nat)
    (fault : Option Bytes) : Option State :=
  match s.inits k with
  | .idle =>
      match sys.statEntry s.fs fault with
      | .missing => some (s.setInit k .absent)
      | entry =>
          some (s.setInit k (.returned
            (errorOf
              (initStateFile sys.statePath none entry))))
  | _ => none

/- The flags are O_WRONLY, O_CREATE and O_TRUNC. -/
def initOpen
    (s : State)
    (k : Nat)
    (fault : Option Bytes) : Option State :=
  match s.inits k with
  | .absent =>
      match fault with
      | some e => some (s.setInit k (sys.written (some e)))
      | none =>
          match s.fs.names sys.statePath with
          | none =>
              some
                (State.setInit
                  { s with
                    fs :=
                      s.fs.create sys.statePath ⟨[], 0o600⟩ }
                  k (.writing s.fs.next 0))
          | some i =>
              some
                (State.setInit
                  { s with
                    fs :=
                      s.fs.store i
                        { s.fs.files i with data := [] } }
                  k (.writing i 0))
  | _ => none

/- Some bytes of the fresh state, where the last ones end. -/
def initWrite
    (s : State)
    (k n : Nat)
    (fault : Option Bytes) : Option State :=
  match s.inits k with
  | .writing i off =>
      if off + n ≤ freshStateJSON.length then
        let chunk := (freshStateJSON.drop off).take n
        let s :=
          { s with
            fs :=
              s.fs.store i ((s.fs.files i).writeAt off chunk) }
        match fault with
        | some e => some (s.setInit k (sys.written (some e)))
        | none => some (s.setInit k (.writing i (off + n)))
      else
        none
  | _ => none

def initClose
    (s : State)
    (k : Nat)
    (fault : Option Bytes) : Option State :=
  match s.inits k with
  | .writing _ off =>
      if off = freshStateJSON.length then
        some (s.setInit k (sys.written fault))
      else
        none
  | _ => none

def require
    (s : State)
    (fault : Option Bytes) : Option State :=
  match s.start with
  | .off =>
      match
        requireStateFile sys.statePath
          (sys.statEntry s.fs fault)
      with
      | .ok () => some { s with start := .required }
      | .error _ => some { s with start := .off }
  | _ => none

def load
    (s : State)
    (fault : Option Bytes) : Option State :=
  match s.start with
  | .required =>
      match
        loadCometFilePV sys.lib sys.keyPath sys.keyFile
          (sys.readEntry s.fs fault)
      with
      | .ok st => some { s with start := .running st }
      | .error _ => some { s with start := .off }
  | _ => none

/- A new state is renamed into place from a new file. -/
def request
    (s : State)
    (req : Message) : Option State :=
  match s.start with
  | .running st =>
      match
        (validationRequestHandler sys.lib sys.valAddr req
          sys.chainID).enter sys.lib sys.chainID st
      with
      | .saving st' _ =>
          some
            { s with
              fs :=
                s.fs.create sys.statePath
                  ⟨sys.lib.marshalState st', 0o600⟩
              start := .running st' }
      | .done _ => some s
      | .panic => some { s with start := .off }
  | _ => none

end System

def step
    (sys : System)
    (s : State) :
    Event → Option State
| .initStat k fault => sys.initStat s k fault
| .initOpen k fault => sys.initOpen s k fault
| .initWrite k n fault => sys.initWrite s k n fault
| .initClose k fault => sys.initClose s k fault
| .initKill k => s.initKill k
| .require fault => sys.require s fault
| .load fault => sys.load s fault
| .request req => sys.request s req
| .stop => some { s with start := .off }

def machine
    (sys : System) : Machine State Event where
  step := step sys

/- Nothing runs yet on some file system. -/
def State.initial
    (fs : FileSystem Bytes) : State :=
  ⟨fs, fun _ => .idle, .off⟩

end InitRace

end Consensus

end BridgeSigner

------------------------------------------------------------
-- What A Step Can Do
------------------------------------------------------------

namespace BridgeSigner

namespace Consensus

namespace InitRace

/- The steps, by what they do to the state. -/
inductive Transition
    (sys : System)
    (s : State)
    (e : Event) :
    State → Prop where
| settle
    {k : Nat}
    {stage : InitStage}
    (hInit : e.init = some k)
    (hStage : ∀ i off, stage ≠ .writing i off) :
    Transition sys s e (s.setInit k stage)
| create
    {k : Nat}
    (hInit : e.init = some k)
    (hName : s.fs.names sys.statePath = none) :
    Transition sys s e
      (State.setInit
        { s with
          fs := s.fs.create sys.statePath ⟨[], 0o600⟩ }
        k (.writing s.fs.next 0))
| truncate
    {k i : Nat}
    (hEvent : e = .initOpen k none)
    (hName : s.fs.names sys.statePath = some i) :
    Transition sys s e
      (State.setInit
        { s with
          fs :=
            s.fs.store i { s.fs.files i with data := [] } }
        k (.writing i 0))
| write
    {k i off n : Nat}
    {stage : InitStage}
    (hInit : e.init = some k)
    (hWriting : s.inits k = .writing i off)
    (hLe : off + n ≤ freshStateJSON.length)
    (hStage :
      ∀ j m, stage = .writing j m → j = i ∧ m = off + n) :
    Transition sys s e
      (State.setInit
        { s with
          fs :=
            s.fs.store i
              ((s.fs.files i).writeAt off
                ((freshStateJSON.drop off).take n)) }
        k stage)
| required
    {fault : Option Bytes}
    (hInit : e.init = none)
    (hRequire :
      requireStateFile sys.statePath
        (sys.statEntry s.fs fault) = .ok ()) :
    Transition sys s e { s with start := .required }
| loaded
    {fault : Option Bytes}
    {st : LastSignState}
    (hInit : e.init = none)
    (hRequired : s.start = .required)
    (hLoad :
      loadCometFilePV sys.lib sys.keyPath sys.keyFile
        (sys.readEntry s.fs fault) = .ok st) :
    Transition sys s e { s with start := .running st }
| saved
    {req : Message}
    {st st' : LastSignState}
    {r : Reply}
    (hInit : e.init = none)
    (hRunning : s.start = .running st)
    (hEnter :
      (validationRequestHandler sys.lib sys.valAddr req
          sys.chainID).enter sys.lib sys.chainID st =
        .saving st' r) :
    Transition sys s e
      { s with
        fs :=
          s.fs.create sys.statePath
            ⟨sys.lib.marshalState st', 0o600⟩
        start := .running st' }
| stopped
    (hInit : e.init = none) :
    Transition sys s e { s with start := .off }
| same
    (hInit : e.init = none) :
    Transition sys s e s

theorem returned_ne_writing
    (err : Option Err)
    (i off : Nat) :
    InitStage.returned err ≠ .writing i off := by
  intro hEq
  cases hEq

theorem killed_ne_writing
    (i off : Nat) :
    InitStage.killed ≠ .writing i off := by
  intro hEq
  cases hEq

variable {sys : System}
variable {s t : State}
variable {k : Nat}
variable {fault : Option Bytes}

theorem initStat_transition
    (hStep : sys.initStat s k fault = some t) :
    Transition sys s (.initStat k fault) t := by
  unfold System.initStat at hStep
  split at hStep
  · split at hStep
    · cases hStep
      apply Transition.settle rfl
      intro i off hEq
      cases hEq
    · cases hStep
      exact .settle rfl (returned_ne_writing _)
  · cases hStep

theorem initOpen_transition
    (hStep : sys.initOpen s k fault = some t) :
    Transition sys s (.initOpen k fault) t := by
  unfold System.initOpen at hStep
  split at hStep
  · split at hStep
    · cases hStep
      exact .settle rfl (returned_ne_writing _)
    · split at hStep
      · cases hStep
        exact .create rfl ‹_›
      · cases hStep
        exact .truncate rfl ‹_›
  · cases hStep

theorem initWrite_transition
    {n : Nat}
    (hStep : sys.initWrite s k n fault = some t) :
    Transition sys s (.initWrite k n fault) t := by
  unfold System.initWrite at hStep
  split at hStep
  · split at hStep
    · simp only at hStep
      split at hStep
      · cases hStep
        apply Transition.write rfl ‹_› ‹_›
        intro j m hEq
        cases hEq
      · cases hStep
        apply Transition.write rfl ‹_› ‹_›
        intro j m hEq
        cases hEq
        exact ⟨rfl, rfl⟩
    · cases hStep
  · cases hStep

theorem initClose_transition
    (hStep : sys.initClose s k fault = some t) :
    Transition sys s (.initClose k fault) t := by
  unfold System.initClose at hStep
  split at hStep
  · split at hStep
    · cases hStep
      exact .settle rfl (returned_ne_writing _)
    · cases hStep
  · cases hStep

theorem request_transition
    {req : Message}
    (hStep : sys.request s req = some t) :
    Transition sys s (.request req) t := by
  unfold System.request at hStep
  split at hStep
  · split at hStep
    · cases hStep
      exact .saved rfl ‹_› ‹_›
    · cases hStep
      exact .same rfl
    · cases hStep
      exact .stopped rfl
  · cases hStep

theorem step_transition
    {e : Event}
    (hStep : step sys s e = some t) :
    Transition sys s e t := by
  cases e with
  | initStat k fault => exact initStat_transition hStep
  | initOpen k fault => exact initOpen_transition hStep
  | initWrite k n fault => exact initWrite_transition hStep
  | initClose k fault => exact initClose_transition hStep
  | initKill k =>
      simp only [step, State.initKill] at hStep
      split at hStep
      · cases hStep
        exact .settle rfl killed_ne_writing
      · cases hStep
        exact .settle rfl killed_ne_writing
      · cases hStep
  | require fault =>
      simp only [step, System.require] at hStep
      split at hStep
      · split at hStep
        · cases hStep
          exact .required rfl ‹_›
        · cases hStep
          exact .stopped rfl
      · cases hStep
  | load fault =>
      simp only [step, System.load] at hStep
      split at hStep
      · split at hStep
        · cases hStep
          exact .loaded rfl ‹_› ‹_›
        · cases hStep
          exact .stopped rfl
      · cases hStep
  | request req => exact request_transition hStep
  | stop =>
      cases hStep
      exact .stopped rfl

end InitRace

end Consensus

end BridgeSigner

------------------------------------------------------------
-- The Recorded State
------------------------------------------------------------

namespace BridgeSigner

namespace Consensus

namespace InitRace

/- The place that a state file's content records, if any. -/
def recordOf
    (lib : Comet)
    (data : Bytes) : WithBot HRS :=
  match restoreState lib data with
  | .ok st => st.hrs
  | .error _ => ⊥

/-
  How the library reads what is written of a fresh state: the
  object alone is the zero state, with or without the newline,
  and less than the object is no state.
-/
structure ParsesFresh
    (lib : Comet) : Prop where
  object :
    ∀ n, 33 ≤ n →
      lib.unmarshalState (freshStateJSON.take n) =
        .ok ⟨0, 0, 0, none, none⟩
  torn :
    ∀ n < 33,
      ∃ e,
        lib.unmarshalState (freshStateJSON.take n) = .error e

variable {lib : Comet}

theorem recordOf_torn
    (hFresh : ParsesFresh lib)
    {n : Nat}
    (hn : n < 33) :
    recordOf lib (freshStateJSON.take n) = ⊥ := by
  rcases hFresh.torn n hn with ⟨e, hTorn⟩
  rw [recordOf, restoreState, hTorn]

theorem recordOf_object
    (hFresh : ParsesFresh lib)
    {n : Nat}
    (hn : 33 ≤ n) :
    recordOf lib (freshStateJSON.take n) =
      (⟨0, 0, 0⟩ : HRS) := by
  rw [recordOf, restoreState, hFresh.object n hn]
  rfl

/- What is recorded by a part of the fresh state stays. -/
theorem recordOf_take
    (hFresh : ParsesFresh lib)
    {n m : Nat}
    (hLe : n ≤ m) :
    recordOf lib (freshStateJSON.take n) = ⊥ ∨
      recordOf lib (freshStateJSON.take m) =
        recordOf lib (freshStateJSON.take n) := by
  by_cases hn : n < 33
  · exact Or.inl (recordOf_torn hFresh hn)
  · right
    have hObject : 33 ≤ n := Nat.le_of_not_lt hn
    rw [recordOf_object hFresh hObject,
      recordOf_object hFresh (hObject.trans hLe)]

theorem recordOf_marshalState
    (hRestored : lib.StateRestored)
    {x : Signed}
    (hBytes : x.signBytes ≠ [])
    (hSignature : x.signature ≠ []) :
    recordOf lib (lib.marshalState x.state) = x.hrs := by
  rw [recordOf,
    restoreState_marshalState hRestored hBytes hSignature]
  rfl

namespace System

variable (sys : System)

/- The place that the file at the path records. -/
def recorded
    (fs : FileSystem Bytes) : WithBot HRS :=
  match sys.entry fs with
  | .file data => recordOf sys.lib data
  | _ => ⊥

/-
  No file stands at the path when `os.WriteFile` opens it:
  none was created since the same call asked for it.
-/
def Vacant
    (s : State) :
    Event → Prop
| .initOpen _ none => s.fs.names sys.statePath = none
| _ => True

variable {sys}
variable {fs fs' : FileSystem Bytes}

theorem entry_of_read
    {f : File}
    (hRead : fs.read sys.statePath = some f) :
    sys.entry fs = .file f.data := by
  rw [entry, hRead]

theorem recorded_of_read
    {f : File}
    (hRead : fs.read sys.statePath = some f) :
    sys.recorded fs = recordOf sys.lib f.data := by
  rw [recorded, entry_of_read hRead]

theorem recorded_of_free
    (hName : fs.names sys.statePath = none) :
    sys.recorded fs = ⊥ := by
  rw [recorded, entry, FileSystem.read, hName]
  rfl

theorem recorded_congr
    (hRead :
      fs'.read sys.statePath = fs.read sys.statePath) :
    sys.recorded fs' = sys.recorded fs := by
  rw [recorded, recorded, entry, entry, hRead]

theorem recorded_create
    (f : File) :
    sys.recorded (fs.create sys.statePath f) =
      recordOf sys.lib f.data :=
  recorded_of_read (fs.read_create sys.statePath f)

/- A signer that has loaded the file goes on from it. -/
theorem recorded_of_load
    (hName : fs.names sys.statePath ≠ none)
    {fault : Option Bytes}
    {st : LastSignState}
    (hLoad :
      loadCometFilePV sys.lib sys.keyPath sys.keyFile
        (sys.readEntry fs fault) = .ok st) :
    sys.recorded fs = st.hrs := by
  rcases Option.ne_none_iff_exists'.mp hName with ⟨i, hi⟩
  have hRead :
      fs.read sys.statePath = some (fs.files i) := by
    rw [FileSystem.read, hi]
    rfl
  have hRequire :
      requireStateFile sys.statePath
        (sys.readEntry fs fault) = .ok () := by
    cases fault with
    | none => rw [readEntry, entry_of_read hRead]; rfl
    | some e => rfl
  have hStart :
      startPV sys.lib sys.keyPath sys.statePath sys.keyFile
        (sys.readEntry fs fault) = .ok st := by
    rw [startPV, hRequire]
    exact hLoad
  rcases startPV_ok hStart with ⟨data, hData, hRestore⟩
  cases fault with
  | none =>
      rw [recorded]
      rw [readEntry] at hData
      rw [hData]
      simp only [recordOf, hRestore]
  | some e => cases hData

end System

end InitRace

end Consensus

end BridgeSigner

------------------------------------------------------------
-- The Recorded State Only Grows
------------------------------------------------------------

namespace BridgeSigner

namespace Consensus

namespace InitRace

/- A file with what has been written of the fresh state. -/
def Owned
    (fs : FileSystem Bytes)
    (i off : Nat) : Prop :=
  i < fs.next ∧ off ≤ freshStateJSON.length ∧
    (fs.files i).data = freshStateJSON.take off

/-
  Every `init-state` that writes has a file of its own, with
  what it has written of the fresh state. A signer that runs
  has the recorded state.
-/
structure Inv
    (sys : System)
    (s : State) : Prop where
  own :
    ∀ k i off, s.inits k = .writing i off →
      Owned s.fs i off
  apart :
    ∀ k l i off off', s.inits k = .writing i off →
      s.inits l = .writing i off' → k = l
  stands :
    s.start = .required →
      s.fs.names sys.statePath ≠ none
  running :
    ∀ st, s.start = .running st →
      sys.recorded s.fs = st.hrs

variable {sys : System}
variable {s t : State}
variable {e : Event}
variable {k : Nat}

theorem setInit_writing
    {stage : InitStage}
    {l i off : Nat}
    (hWriting :
      (s.setInit k stage).inits l = .writing i off) :
    l = k ∧ stage = .writing i off ∨
      l ≠ k ∧ s.inits l = .writing i off := by
  simp only [State.setInit] at hWriting
  by_cases hl : l = k
  · subst hl
    rw [Function.update_self] at hWriting
    exact Or.inl ⟨rfl, hWriting⟩
  · rw [Function.update_of_ne hl] at hWriting
    exact Or.inr ⟨hl, hWriting⟩

/- The stage that is new, and those that are not. -/
theorem setInit_own
    {fs : FileSystem Bytes}
    {stage : InitStage}
    (hOld :
      ∀ l i off, l ≠ k → s.inits l = .writing i off →
        Owned fs i off)
    (hNew :
      ∀ i off, stage = .writing i off → Owned fs i off)
    (l i off : Nat)
    (hWriting :
      (State.setInit { s with fs := fs } k stage).inits l =
        .writing i off) :
    Owned fs i off := by
  rcases setInit_writing hWriting with
    ⟨-, hStage⟩ | ⟨hl, hWriting⟩
  · exact hNew i off hStage
  · exact hOld l i off hl hWriting

theorem setInit_apart
    {fs : FileSystem Bytes}
    {stage : InitStage}
    (hInv : Inv sys s)
    (hNew :
      ∀ i off, stage = .writing i off →
        ∀ l off', s.inits l = .writing i off' → l = k)
    (l m i off off' : Nat)
    (hFirst :
      (State.setInit { s with fs := fs } k stage).inits l =
        .writing i off)
    (hSecond :
      (State.setInit { s with fs := fs } k stage).inits m =
        .writing i off') :
    l = m := by
  rcases setInit_writing hFirst with
    ⟨hl, hStage⟩ | ⟨-, hFirst⟩
  · rcases setInit_writing hSecond with
      ⟨hm, -⟩ | ⟨-, hSecond⟩
    · rw [hl, hm]
    · rw [hl, hNew i off hStage m off' hSecond]
  · rcases setInit_writing hSecond with
      ⟨hm, hStage⟩ | ⟨-, hSecond⟩
    · rw [hm, hNew i off' hStage l off hFirst]
    · exact hInv.apart l m i off off' hFirst hSecond

theorem settle_inv
    (hInv : Inv sys s)
    {stage : InitStage}
    (hStage : ∀ i off, stage ≠ .writing i off) :
    Inv sys (s.setInit k stage) where
  own := by
    apply setInit_own
    · intro l i off _ hWriting
      exact hInv.own l i off hWriting
    · intro i off hEq
      exact absurd hEq (hStage i off)
  apart := by
    apply setInit_apart hInv
    intro i off hEq
    exact absurd hEq (hStage i off)
  stands := hInv.stands
  running := hInv.running

/- A new file is nobody's, and leaves the others' alone. -/
theorem Owned.create
    {fs : FileSystem Bytes}
    {i off : Nat}
    (hOwned : Owned fs i off)
    (p : Bytes)
    (f : File) :
    Owned (fs.create p f) i off := by
  rcases hOwned with ⟨hLt, hLe, hData⟩
  refine ⟨hLt.trans (Nat.lt_succ_self _), hLe, ?_⟩
  rw [fs.create_files_of_lt hLt, hData]

/- A signer needs a file, and an empty path has none. -/
theorem Inv.off_of_free
    (hInv : Inv sys s)
    (hName : s.fs.names sys.statePath = none) :
    s.start = .off := by
  cases hStart : s.start with
  | off => rfl
  | required => exact absurd hName (hInv.stands hStart)
  | running st =>
      have hRecorded := hInv.running st hStart
      rw [System.recorded_of_free hName] at hRecorded
      exact absurd hRecorded.symm WithBot.coe_ne_bot

theorem create_inv
    (hInv : Inv sys s)
    (hName : s.fs.names sys.statePath = none) :
    Inv sys
      (State.setInit
        { s with
          fs := s.fs.create sys.statePath ⟨[], 0o600⟩ }
        k (.writing s.fs.next 0)) := by
  have hOff := hInv.off_of_free hName
  constructor
  · apply setInit_own
    · intro l i off _ hWriting
      exact (hInv.own l i off hWriting).create _ _
    · rintro i off ⟨⟩
      refine ⟨Nat.lt_succ_self _, Nat.zero_le _, ?_⟩
      rw [FileSystem.create_files_self, List.take_zero]
  · apply setInit_apart hInv
    rintro i off ⟨⟩ l off' hWriting
    exact absurd (hInv.own l _ off' hWriting).1
      (Nat.lt_irrefl _)
  · intro hRequired
    rw [State.setInit, hOff] at hRequired
    cases hRequired
  · intro st hRunning
    rw [State.setInit, hOff] at hRunning
    cases hRunning

/- One more piece of the fresh state, in a file of one's own. -/
def wrote
    (s : State)
    (i off n : Nat) : FileSystem Bytes :=
  s.fs.store i
    ((s.fs.files i).writeAt off
      ((freshStateJSON.drop off).take n))

theorem Inv.wrote_eq
    (hInv : Inv sys s)
    {i off : Nat}
    (hWriting : s.inits k = .writing i off)
    (n : Nat) :
    wrote s i off n =
      s.fs.store i
        ⟨freshStateJSON.take (off + n),
          (s.fs.files i).mode⟩ := by
  rcases hInv.own k i off hWriting with ⟨-, hLe, hData⟩
  rw [wrote, File.writeAt_take hLe hData]

/- What was recorded is still recorded after the piece. -/
theorem Inv.recorded_wrote
    (hFresh : ParsesFresh sys.lib)
    (hInv : Inv sys s)
    {i off : Nat}
    (hWriting : s.inits k = .writing i off)
    (n : Nat) :
    sys.recorded s.fs = ⊥ ∨
      sys.recorded (wrote s i off n) =
        sys.recorded s.fs := by
  rw [hInv.wrote_eq hWriting]
  rcases hInv.own k i off hWriting with ⟨-, -, hData⟩
  by_cases hName : s.fs.names sys.statePath = some i
  · have hBefore :
        s.fs.read sys.statePath = some (s.fs.files i) := by
      rw [FileSystem.read, hName]
      rfl
    have hAfter :
        (s.fs.store i
            ⟨freshStateJSON.take (off + n),
              (s.fs.files i).mode⟩).read sys.statePath =
          some ⟨freshStateJSON.take (off + n),
            (s.fs.files i).mode⟩ := by
      rw [FileSystem.read, FileSystem.store_names, hName,
        Option.map_some, FileSystem.store_files_self]
    rw [System.recorded_of_read hBefore,
      System.recorded_of_read hAfter, hData]
    exact recordOf_take hFresh (Nat.le_add_right off n)
  · right
    exact System.recorded_congr
      (s.fs.read_store_of_ne hName _)

theorem write_inv
    (hFresh : ParsesFresh sys.lib)
    (hInv : Inv sys s)
    {i off n : Nat}
    {stage : InitStage}
    (hWriting : s.inits k = .writing i off)
    (hLe : off + n ≤ freshStateJSON.length)
    (hStage :
      ∀ j m, stage = .writing j m → j = i ∧ m = off + n) :
    Inv sys
      (State.setInit { s with fs := wrote s i off n } k
        stage) := by
  have hWrote := hInv.wrote_eq hWriting n
  constructor
  · apply setInit_own
    · intro l j m hl hOld
      rcases hInv.own l j m hOld with ⟨hLt, hLe, hData⟩
      have hNe : j ≠ i := by
        rintro rfl
        exact hl (hInv.apart l k j m off hOld hWriting)
      refine ⟨hLt, hLe, ?_⟩
      rw [hWrote, s.fs.store_files_of_ne hNe, hData]
    · intro j m hNow
      rcases hStage j m hNow with ⟨rfl, rfl⟩
      refine ⟨(hInv.own k j off hWriting).1, hLe, ?_⟩
      rw [hWrote, FileSystem.store_files_self]
  · apply setInit_apart hInv
    intro j m hNow l off' hOld
    rcases hStage j m hNow with ⟨rfl, -⟩
    exact hInv.apart l k j off' off hOld hWriting
  · exact hInv.stands
  · intro st hRunning
    have hRecorded := hInv.running st hRunning
    change sys.recorded (wrote s i off n) = _
    rcases hInv.recorded_wrote hFresh hWriting n with
      hBot | hSame
    · rw [hBot] at hRecorded
      exact absurd hRecorded.symm WithBot.coe_ne_bot
    · rw [hSame, hRecorded]

theorem saved_inv
    (hRestored : sys.lib.StateRestored)
    (hInv : Inv sys s)
    {x : Signed}
    (hBytes : x.signBytes ≠ [])
    (hSignature : x.signature ≠ []) :
    Inv sys
      { s with
        fs :=
          s.fs.create sys.statePath
            ⟨sys.lib.marshalState x.state, 0o600⟩
        start := .running x.state } where
  own := by
    intro l i off hWriting
    exact (hInv.own l i off hWriting).create _ _
  apart := hInv.apart
  stands := by
    intro hRequired
    cases hRequired
  running := by
    intro st hRunning
    cases hRunning
    rw [System.recorded_create]
    exact recordOf_marshalState hRestored hBytes hSignature

theorem start_inv
    (hInv : Inv sys s)
    {start : StartStage}
    (hStands :
      start = .required → s.fs.names sys.statePath ≠ none)
    (hRunning :
      ∀ st, start = .running st →
        sys.recorded s.fs = st.hrs) :
    Inv sys { s with start := start } :=
  ⟨hInv.own, hInv.apart, hStands, hRunning⟩

theorem names_of_required
    {fault : Option Bytes}
    (hRequire :
      requireStateFile sys.statePath
        (sys.statEntry s.fs fault) = .ok ()) :
    s.fs.names sys.statePath ≠ none := by
  intro hName
  cases fault with
  | none =>
      rw [System.statEntry, System.entry, FileSystem.read,
        hName] at hRequire
      cases hRequire
  | some e => cases hRequire

/-
  Where no `init-state` opens a file that is there, every
  step keeps the invariant, and what is recorded grows.
-/
theorem transition_grows
    (hDefault : sys.lib.DefaultPublished)
    (hOnce : sys.lib.SignsOnce)
    (hRestored : sys.lib.StateRestored)
    (hFresh : ParsesFresh sys.lib)
    (hInv : Inv sys s)
    (hVacant : sys.Vacant s e)
    (hStep : Transition sys s e t) :
    Inv sys t ∧ sys.recorded s.fs ≤ sys.recorded t.fs := by
  cases hStep with
  | settle hInit hStage =>
      exact ⟨settle_inv hInv hStage, le_refl _⟩
  | create hInit hName =>
      refine ⟨create_inv hInv hName, ?_⟩
      rw [System.recorded_of_free hName]
      exact bot_le
  | truncate hEvent hName =>
      rw [hEvent, System.Vacant, hName] at hVacant
      cases hVacant
  | @write k i off n stage hInit hWriting hLe hStage =>
      refine ⟨write_inv hFresh hInv hWriting hLe hStage, ?_⟩
      change sys.recorded s.fs ≤
        sys.recorded (wrote s i off n)
      rcases hInv.recorded_wrote hFresh hWriting n with
        hBot | hSame
      · rw [hBot]
        exact bot_le
      · rw [hSame]
  | required hInit hRequire =>
      refine ⟨start_inv hInv ?_ ?_, le_refl _⟩
      · intro _
        exact names_of_required hRequire
      · intro st hRunning
        cases hRunning
  | loaded hInit hRequired hLoad =>
      refine ⟨start_inv hInv ?_ ?_, le_refl _⟩
      · intro hEq
        cases hEq
      · intro st hRunning
        cases hRunning
        exact System.recorded_of_load (hInv.stands hRequired)
          hLoad
  | @saved req st st' r hInit hRunning hEnter =>
      rcases (validationRequestHandler_served
          hDefault).saving hOnce hEnter with
        ⟨x, -, rfl, -, -, hLt, hBytes, hSignature⟩
      refine ⟨saved_inv hRestored hInv hBytes hSignature, ?_⟩
      rw [hInv.running st hRunning, System.recorded_create,
        recordOf_marshalState hRestored hBytes hSignature]
      exact WithBot.coe_le_coe.mpr hLt.le
  | stopped hInit =>
      refine ⟨start_inv hInv ?_ ?_, le_refl _⟩
      · intro hEq
        cases hEq
      · intro st hRunning
        cases hRunning
  | same hInit => exact ⟨hInv, le_refl _⟩

end InitRace

end Consensus

end BridgeSigner

------------------------------------------------------------
-- One Process Alone
------------------------------------------------------------

namespace BridgeSigner

namespace Consensus

namespace InitRace

variable {sys : System}
variable {s : State}
variable {k : Nat}

/- The state of the file system, and of one `init-state`. -/
def State.At
    (s : State)
    (fs : FileSystem Bytes)
    (k : Nat)
    (stage : InitStage) : Prop :=
  s.fs = fs ∧ s.inits k = stage

theorem setInit_at
    (s : State)
    (k : Nat)
    (stage : InitStage) :
    (s.setInit k stage).At s.fs k stage :=
  ⟨rfl, by simp [State.setInit]⟩

theorem entry_of_free
    {fs : FileSystem Bytes}
    (hName : fs.names sys.statePath = none) :
    sys.entry fs = .missing := by
  rw [System.entry, FileSystem.read, hName]
  rfl

theorem stat_at
    {fs : FileSystem Bytes}
    (hAt : s.At fs k .idle)
    (hName : fs.names sys.statePath = none) :
    ∃ t, step sys s (.initStat k none) = some t ∧
      t.At fs k .absent := by
  rcases hAt with ⟨rfl, hIdle⟩
  refine ⟨_, ?_, setInit_at s k .absent⟩
  simp only [step, System.initStat, hIdle,
    System.statEntry, entry_of_free hName]

theorem open_at
    {fs : FileSystem Bytes}
    (hAt : s.At fs k .absent)
    (hName : fs.names sys.statePath = none) :
    ∃ t, step sys s (.initOpen k none) = some t ∧
      t.At (fs.create sys.statePath ⟨[], 0o600⟩) k
        (.writing fs.next 0) := by
  rcases hAt with ⟨rfl, hAbsent⟩
  refine ⟨_, ?_,
    setInit_at
      { s with
        fs := s.fs.create sys.statePath ⟨[], 0o600⟩ }
      k (.writing s.fs.next 0)⟩
  simp only [step, System.initOpen, hAbsent, hName]

theorem write_at
    (sys : System)
    {fs : FileSystem Bytes}
    {i : Nat}
    (hAt : s.At fs k (.writing i 0))
    (hEmpty : (fs.files i).data = []) :
    ∃ t,
      step sys s
          (.initWrite k freshStateJSON.length none) =
        some t ∧
      t.At
        (fs.store i ⟨freshStateJSON, (fs.files i).mode⟩) k
        (.writing i freshStateJSON.length) := by
  rcases hAt with ⟨rfl, hWriting⟩
  have hText :
      (s.fs.files i).writeAt 0
          ((freshStateJSON.drop 0).take
            freshStateJSON.length) =
        ⟨freshStateJSON, (s.fs.files i).mode⟩ := by
    rw [File.writeAt_take (Nat.zero_le _) hEmpty,
      Nat.zero_add, List.take_length]
  refine ⟨_, ?_,
    setInit_at
      { s with
        fs :=
          s.fs.store i
            ⟨freshStateJSON, (s.fs.files i).mode⟩ }
      k (.writing i freshStateJSON.length)⟩
  simp only [step, System.initWrite, hWriting,
    Nat.zero_add, le_refl, if_true, hText]

theorem close_at
    (sys : System)
    {fs : FileSystem Bytes}
    {i : Nat}
    (hAt : s.At fs k (.writing i freshStateJSON.length)) :
    ∃ t, step sys s (.initClose k none) = some t ∧
      t.At fs k (.returned none) := by
  rcases hAt with ⟨rfl, hWriting⟩
  refine ⟨_, ?_, setInit_at s k (.returned none)⟩
  simp only [step, System.initClose, hWriting, if_true]
  rfl

/- The steps of an `init-state` that nothing comes between. -/
def aloneRun
    (k : Nat) : List Event :=
  [.initStat k none, .initOpen k none,
    .initWrite k freshStateJSON.length none,
    .initClose k none]

/- They do what `InitStateFile` does in one step. -/
theorem init_alone
    (hIdle : s.inits k = .idle)
    (hName : s.fs.names sys.statePath = none) :
    ∃ t, (machine sys).run s (aloneRun k) = some t ∧
      t.inits k = .returned none ∧
      initStateFile sys.statePath none (sys.entry s.fs) =
        .ok (sys.entry t.fs) := by
  have hEmpty :
      ((s.fs.create sys.statePath ⟨[], 0o600⟩).files
        s.fs.next).data = [] := by
    rw [FileSystem.create_files_self]
  rcases stat_at ⟨rfl, hIdle⟩ hName with ⟨s₁, hStat, hAt⟩
  rcases open_at hAt hName with ⟨s₂, hOpen, hAt⟩
  rcases write_at sys hAt hEmpty with ⟨s₃, hWrite, hAt⟩
  rcases close_at sys hAt with ⟨s₄, hClose, hFiles, hDone⟩
  refine ⟨s₄, ?_, hDone, ?_⟩
  · simp only [Machine.run, aloneRun, machine, hStat, hOpen,
      hWrite, hClose]
  · have hRead :
        s₄.fs.read sys.statePath =
          some ⟨freshStateJSON, 0o600⟩ := by
      rw [hFiles, FileSystem.read, FileSystem.store_names,
        FileSystem.create_names_self, Option.map_some,
        FileSystem.store_files_self,
        FileSystem.create_files_self]
    rw [entry_of_free hName, System.entry_of_read hRead]
    rfl

end InitRace

end Consensus

end BridgeSigner

------------------------------------------------------------
-- When Nothing Is Overwritten
------------------------------------------------------------

namespace BridgeSigner

namespace Consensus

namespace InitRace

variable {sys : System}

theorem initial_inv
    (fs : FileSystem Bytes) :
    Inv sys (State.initial fs) where
  own := by
    intro k i off hWriting
    cases hWriting
  apart := by
    intro k l i off off' hWriting
    cases hWriting
  stands := by
    intro hRequired
    cases hRequired
  running := by
    intro st hRunning
    cases hRunning

theorem run_inv
    (hDefault : sys.lib.DefaultPublished)
    (hOnce : sys.lib.SignsOnce)
    (hRestored : sys.lib.StateRestored)
    (hFresh : ParsesFresh sys.lib)
    {s t : State}
    {es : List Event}
    (hInv : Inv sys s)
    (hRun : (machine sys).run s es = some t)
    (hWithin : (machine sys).Within sys.Vacant s es) :
    Inv sys t ∧ sys.recorded s.fs ≤ sys.recorded t.fs := by
  apply Machine.run_invariant_within _ hRun hWithin
  · exact ⟨hInv, le_refl _⟩
  · rintro a e b hStep hVacant ⟨hInv, hLe⟩
    rcases transition_grows hDefault hOnce hRestored hFresh
        hInv hVacant (step_transition hStep) with
      ⟨hInv', hGrows⟩
    exact ⟨hInv', hLe.trans hGrows⟩

/-
  The open of `os.WriteFile` keeps a file that stands at the
  path, and `InitStateFile` returns an error.
-/
def System.Keeps
    (sys : System)
    (s t : State)
    (k : Nat) : Prop :=
  ∀ f, s.fs.read sys.statePath = some f →
    t.fs.read sys.statePath = some f ∧
      ∃ e, t.inits k = .returned (some e)

/-
  A step of an `init-state` keeps a file at the path that it
  has not created itself.
-/
def System.Untouched
    (sys : System)
    (s t : State)
    (k : Nat) : Prop :=
  ∀ i, s.fs.names sys.statePath = some i →
    (∀ off, s.inits k ≠ .writing i off) →
      t.fs.names sys.statePath = some i ∧
        t.fs.files i = s.fs.files i

/- An open that succeeds goes on to write. -/
theorem keeps_iff_vacant
    {s t : State}
    {k : Nat}
    (hStep : step sys s (.initOpen k none) = some t) :
    sys.Keeps s t k ↔ sys.Vacant s (.initOpen k none) := by
  have hWriting : ∃ i, t.inits k = .writing i 0 := by
    simp only [step, System.initOpen] at hStep
    split at hStep
    · split at hStep
      · cases hStep
        exact ⟨_, Function.update_self k _ s.inits⟩
      · cases hStep
        exact ⟨_, Function.update_self k _ s.inits⟩
    · cases hStep
  rcases hWriting with ⟨i, hWriting⟩
  constructor
  · intro hKeeps
    cases hName : s.fs.names sys.statePath with
    | none => exact hName
    | some j =>
        have hRead :
            s.fs.read sys.statePath = some (s.fs.files j) := by
          rw [FileSystem.read, hName]
          rfl
        rcases hKeeps _ hRead with ⟨-, e, hReturned⟩
        rw [hWriting] at hReturned
        cases hReturned
  · intro hVacant f hRead
    have hName : s.fs.names sys.statePath = none := hVacant
    rw [FileSystem.read, hName] at hRead
    cases hRead

theorem transition_untouched
    {s t : State}
    {e : Event}
    {k : Nat}
    (hInit : e.init = some k)
    (hVacant : sys.Vacant s e)
    (hStep : Transition sys s e t) :
    sys.Untouched s t k := by
  intro i hName hOther
  cases hStep with
  | settle _ hStage => exact ⟨hName, rfl⟩
  | create _ hFree =>
      rw [hName] at hFree
      cases hFree
  | truncate hEvent hSome =>
      rw [hEvent, System.Vacant, hSome] at hVacant
      cases hVacant
  | @write l j off n stage hBy hWriting hLe hStage =>
      have hl : l = k := by
        rw [hBy] at hInit
        exact Option.some.inj hInit
      subst hl
      have hNe : i ≠ j := by
        rintro rfl
        exact hOther off hWriting
      exact ⟨hName, s.fs.store_files_of_ne hNe _⟩
  | required hNone => exact absurd hInit (by simp [hNone])
  | loaded hNone => exact absurd hInit (by simp [hNone])
  | saved hNone => exact absurd hInit (by simp [hNone])
  | stopped hNone => exact absurd hInit (by simp [hNone])
  | same hNone => exact absurd hInit (by simp [hNone])

/-
  In every run, an open of `InitStateFile` keeps what stands
  at the path exactly if nothing stands there. In a run where
  every open meets this, no `init-state` touches a file that
  it has not created, and from each state to every later one
  what is recorded grows.
-/
theorem init_keeps_iff
    (sys : System)
    (hDefault : sys.lib.DefaultPublished)
    (hOnce : sys.lib.SignsOnce)
    (hRestored : sys.lib.StateRestored)
    (hFresh : ParsesFresh sys.lib)
    (fs : FileSystem Bytes)
    (es : List Event)
    (s : State)
    (hRun :
      (machine sys).run (State.initial fs) es = some s) :
    (∀ k t, step sys s (.initOpen k none) = some t →
        (sys.Keeps s t k ↔
          sys.Vacant s (.initOpen k none))) ∧
      ((machine sys).Within sys.Vacant (State.initial fs)
          es →
        (∀ e k t, e.init = some k → sys.Vacant s e →
            step sys s e = some t → sys.Untouched s t k) ∧
          ∀ es' t, (machine sys).Within sys.Vacant s es' →
            (machine sys).run s es' = some t →
              sys.recorded s.fs ≤ sys.recorded t.fs) := by
  refine ⟨fun k t => keeps_iff_vacant, ?_⟩
  intro hWithin
  constructor
  · intro e k t hInit hVacant hStep
    exact transition_untouched hInit hVacant
      (step_transition hStep)
  · intro es' t hWithin' hRun'
    have hInv :=
      (run_inv hDefault hOnce hRestored hFresh
        (initial_inv fs) hRun hWithin).1
    exact (run_inv hDefault hOnce hRestored hFresh hInv
      hRun' hWithin').2

end InitRace

end Consensus

end BridgeSigner

------------------------------------------------------------
-- A Race Lost
------------------------------------------------------------

namespace BridgeSigner

namespace Consensus

namespace InitRace

open DialRun

/- The library on the states of the runs below. -/
def raceMarshal
    (st : LastSignState) : Bytes :=
  if st = sampleSigned.state then
    sampleStateJSON
  else
    match st.signed with
    | none => []
    | some x => 0 :: sampleEncode x

def raceUnmarshal
    (data : Bytes) : Fallible StateJSON :=
  if data.isPrefixOf freshStateJSON = true then
    if 33 ≤ data.length then
      .ok ⟨0, 0, 0, none, none⟩
    else
      .error (ascii "unexpected end of JSON input")
  else if data = sampleStateJSON then
    .ok ⟨1, 0, 2, some sampleSigned.signature,
      some sampleSigned.signBytes⟩
  else
    sampleDecode data.tail

def raceFiles : FilePV.Files :=
  { sampleFiles with
    unmarshalState := raceUnmarshal
    marshalState := raceMarshal }

def raceComet : Comet :=
  samplePV.library samplePubKey raceFiles

theorem raceComet_parsesFresh :
    ParsesFresh raceComet := by
  have hFront :
      ∀ n,
        (freshStateJSON.take n).isPrefixOf freshStateJSON =
          true := by
    intro n
    rw [List.isPrefixOf_iff_prefix]
    exact List.take_prefix n freshStateJSON
  have hLength : freshStateJSON.length = 34 := by
    decide
  constructor
  · intro n hn
    have hLong : 33 ≤ (freshStateJSON.take n).length := by
      rw [List.length_take, hLength]
      omega
    change raceUnmarshal _ = _
    rw [raceUnmarshal, if_pos (hFront n), if_pos hLong]
  · intro n hn
    have hShort : ¬ 33 ≤ (freshStateJSON.take n).length := by
      rw [List.length_take]
      omega
    refine ⟨ascii "unexpected end of JSON input", ?_⟩
    change raceUnmarshal _ = _
    rw [raceUnmarshal, if_pos (hFront n), if_neg hShort]

theorem raceUnmarshal_raceMarshal
    (x : Signed) :
    raceUnmarshal (raceMarshal x.state) =
      .ok ⟨x.hrs.height, x.hrs.round, x.hrs.step,
        some x.signature, some x.signBytes⟩ := by
  by_cases hx : x.state = sampleSigned.state
  · have hSame : x = sampleSigned := by
      have hBoth := congrArg LastSignState.signed hx
      exact Option.some.inj hBoth
    have hNot :
        ¬ sampleStateJSON.isPrefixOf freshStateJSON =
          true := by
      decide +kernel
    rw [raceMarshal, if_pos hx, raceUnmarshal, if_neg hNot,
      if_pos rfl, hSame]
    rfl
  · have hMarshal :
        raceMarshal x.state = 0 :: sampleEncode x := by
      rw [raceMarshal, if_neg hx]
      rfl
    have hNot :
        ¬ (0 :: sampleEncode x).isPrefixOf freshStateJSON =
          true := by
      intro hFront
      cases hFront
    have hOther : 0 :: sampleEncode x ≠ sampleStateJSON := by
      intro hEq
      have hHead := congrArg List.head? hEq
      cases hHead
    rw [hMarshal, raceUnmarshal, if_neg hNot,
      if_neg hOther, List.tail_cons,
      sampleDecode_sampleEncode]

theorem raceComet_default :
    raceComet.DefaultPublished :=
  samplePV.library_default samplePubKey raceFiles

theorem raceComet_signsOnce :
    raceComet.SignsOnce :=
  FilePV.library_signsOnce samplePubKey raceFiles
    samplePV_encodes

theorem raceComet_stateRestored :
    raceComet.StateRestored :=
  fun x _ _ => raceUnmarshal_raceMarshal x

def raceSystem : System where
  lib := raceComet
  chainID := sampleChain
  valAddr := sampleAddress
  keyFile := .file sampleKeyJSON
  keyPath := ascii "config/priv_validator_key.json"
  statePath := ascii "data/priv_validator_state.json"

/-
  One `init-state` asks for the file. Another one makes it,
  and a signer starts on it.
-/
def startedRun : List Event :=
  .initStat 0 none :: aloneRun 1 ++
    [.require none, .load none]

/- The signer signs a prevote. -/
def savedRun : List Event :=
  startedRun ++ [.request sampleRequest]

/- The first `init-state` goes on. -/
def lateRun : List Event :=
  [.initOpen 0 none,
    .initWrite 0 freshStateJSON.length none,
    .initClose 0 none]

theorem savedRun_start :
    ((machine raceSystem).run
        (State.initial FileSystem.empty) savedRun).map
        State.start =
      some (.running sampleSigned.state) := by
  decide +kernel

theorem lateRun_entry :
    ((machine raceSystem).run
        (State.initial FileSystem.empty)
        (savedRun ++ lateRun)).map
        (fun t => (raceSystem.entry t.fs, t.inits 0)) =
      some (.file freshStateJSON, .returned none) := by
  decide +kernel

/- The file is made where there is none. -/
theorem savedRun_within :
    (machine raceSystem).Within raceSystem.Vacant
      (State.initial FileSystem.empty) savedRun := by
  refine ⟨trivial, ?_⟩
  intro s hStep
  cases hStep
  refine ⟨trivial, ?_⟩
  intro s hStep
  cases hStep
  refine ⟨rfl, fun s _ => ⟨trivial, fun s _ => ?_⟩⟩
  refine ⟨trivial, fun s _ => ⟨trivial, fun s _ => ?_⟩⟩
  exact ⟨trivial, fun s _ => ⟨trivial, fun s _ => trivial⟩⟩

/- What the signer has saved is what the file records. -/
theorem savedRun_recorded
    {s : State}
    (hRun :
      (machine raceSystem).run
          (State.initial FileSystem.empty) savedRun =
        some s) :
    raceSystem.recorded s.fs = (⟨1, 0, 2⟩ : HRS) := by
  have hStart := savedRun_start
  rw [hRun] at hStart
  have hInv :=
    (run_inv raceComet_default raceComet_signsOnce
      raceComet_stateRestored raceComet_parsesFresh
      (initial_inv _) hRun savedRun_within).1
  exact hInv.running _ (Option.some.inj hStart)

theorem recordOf_fresh :
    recordOf raceComet freshStateJSON =
      (⟨0, 0, 0⟩ : HRS) := by
  have hObject :=
    recordOf_object raceComet_parsesFresh
      (n := freshStateJSON.length) (by decide)
  rwa [List.take_length] at hObject

/-
  The recorded prevote is overwritten with the fresh state,
  and `InitStateFile` returns nil.
-/
theorem late_init_overwrites :
    ∃ s t,
      (machine raceSystem).run
            (State.initial FileSystem.empty) savedRun =
          some s ∧
        raceSystem.recorded s.fs = (⟨1, 0, 2⟩ : HRS) ∧
        (machine raceSystem).run s lateRun = some t ∧
        t.inits 0 = .returned none ∧
        raceSystem.recorded t.fs = (⟨0, 0, 0⟩ : HRS) := by
  rcases Option.map_eq_some_iff.mp lateRun_entry with
    ⟨t, hBoth, hLate⟩
  rcases Prod.mk.inj hLate with ⟨hEntry, hReturned⟩
  rcases (Machine.run_append_iff _ _ _ _ _).mp hBoth with
    ⟨s, hSaved, hRun⟩
  refine ⟨s, t, hSaved, savedRun_recorded hSaved, hRun,
    hReturned, ?_⟩
  rw [System.recorded, hEntry]
  exact recordOf_fresh

/- Up to there, what is recorded has grown. -/
theorem started_state_grows :
    ∃ s t,
      (machine raceSystem).run
            (State.initial FileSystem.empty) startedRun =
          some s ∧
        (machine raceSystem).run s
            [.request sampleRequest] =
          some t ∧
        raceSystem.recorded s.fs ≤
          raceSystem.recorded t.fs ∧
        raceSystem.recorded t.fs = (⟨1, 0, 2⟩ : HRS) := by
  rcases Option.map_eq_some_iff.mp savedRun_start with
    ⟨t, hSaved, -⟩
  rcases (Machine.run_append_iff _ _ _ _ _).mp hSaved with
    ⟨s, hStarted, hRun⟩
  rcases Machine.within_append_iff.mp savedRun_within with
    ⟨hFirst, hSecond⟩
  rcases init_keeps_iff raceSystem raceComet_default
      raceComet_signsOnce raceComet_stateRestored
      raceComet_parsesFresh FileSystem.empty startedRun s
      hStarted with
    ⟨-, hWithin⟩
  rcases hWithin hFirst with ⟨-, hGrows⟩
  exact ⟨s, t, hStarted, hRun,
    hGrows _ t (hSecond s hStarted) hRun,
    savedRun_recorded hSaved⟩

end InitRace

end Consensus

end BridgeSigner
