import BridgeSigner.Server.CheckpointRun
import BridgeSigner.Server.GuardWrite

/-
  The server over a file system that loses what is not synced
  (server/server.go, server/replay_guard.go).

  The requests are those of `CheckpointRun`, but a persist of
  the replay guard is a sequence of calls of the operating
  system under the guard's mutex. The process may be killed
  and the power may go before any call, and other processes
  use the file system too; they leave the state file and the
  guard's temporary file alone. `MkdirAll` may make the
  directory of the state file, which a power loss can then
  take away with the file.

  Key definitions include:
    * `PowerLoss.State`
    * `PowerLoss.step`
    * `PowerLoss.Transition`

  Main results:
    * `PowerLoss.step_transition`
-/

------------------------------------------------------------
-- States And Events
------------------------------------------------------------

namespace BridgeSigner

namespace Server

namespace PowerLoss

open CheckpointRun

/-
  A request that holds the mutex while the guard `next` is
  written, for an advance or for a record.
-/
structure Critical (ν : Type) where
  flight : Flight
  next : CheckpointReplayGuard
  writing : Writing ν

/- As in `CheckpointRun`, with all of the file system. -/
structure State (ν : Type) where
  fs : FileSystem ν
  process : Option Process
  critical : Option (Critical ν)
  calls : List SignRawCall
  replies :
    List (SignBridgeCheckpointRequest ×
      Except Status SignBridgeCheckpointResponse)

/-
  What can happen. `handle` is an event of `CheckpointRun`
  that writes nothing; `persist` is the next call of the
  write under way, as in `writeBytesAtomicStep`.
-/
inductive Event (ν : Type) where
| handle (e : CheckpointRun.Event)
| advance
    (req : SignBridgeCheckpointRequest)
    (c : Bytes)
| record
    (req : SignBridgeCheckpointRequest)
    (c sig : Bytes)
| persist (fault : Bool) (n : Nat)
| kill
| powerLoss (pick : ν → Nat) (lost : Nat → File)
| other (op : FileSystem.Op ν)

variable {ν : Type}

/- Nothing has run on this file system. -/
def State.initial
    (fs : FileSystem ν) : State ν :=
  ⟨fs, none, none, [], []⟩

namespace State

variable (s : State ν)

/- The state file as a process reads it. -/
def disk
    (place : Place ν)
    (env : CheckpointEnv) : Disk :=
  ⟨(s.fs.read (place.entry env.statePath)).map File.data,
    none⟩

/- The state without the file system. -/
def view
    (place : Place ν)
    (env : CheckpointEnv) : CheckpointRun.State :=
  ⟨s.disk place env, s.process, s.calls, s.replies⟩

/- The requests have gone on; the files are left alone. -/
def adopt
    (run : CheckpointRun.State) : State ν :=
  { s with
    process := run.process
    calls := run.calls
    replies := run.replies }

/- A request enters its critical section. -/
def lock
    (g : CheckpointReplayGuard)
    (fs : List Flight)
    (flight : Flight)
    (next : CheckpointReplayGuard) : State ν :=
  { s with
    process := some ⟨g, fs⟩
    critical := some ⟨flight, next, .mkdirAll⟩ }

/- A write goes on. -/
def writes
    (fs : FileSystem ν)
    (k : Critical ν)
    (w : Writing ν) : State ν :=
  { s with fs := fs, critical := some { k with writing := w } }

/- The mutex is given back. -/
def unlock
    (fs : FileSystem ν) : State ν :=
  { s with fs := fs, critical := none }

/- The process is gone. -/
def die
    (fs : FileSystem ν) : State ν :=
  { s with fs := fs, process := none, critical := none }

/- The lookup takes the mutex; a request signs without it. -/
def allows : CheckpointRun.Event → Bool
| .arrive _ => true
| .lookup _ _ _ => s.critical.isNone
| .signRaw _ _ _ => true
| .restart => true
| _ => false

/- Others leave the state file and the temporary file be. -/
def spares
    [DecidableEq ν]
    (target : ν)
    (op : FileSystem.Op ν) : Bool :=
  op.spares s.fs target &&
    match s.critical.bind (fun k => k.writing.temp) with
    | none => true
    | some (tmp, ino) => op.avoids tmp ino

end State

end PowerLoss

end Server

end BridgeSigner

------------------------------------------------------------
-- The Machine
------------------------------------------------------------

namespace BridgeSigner

namespace Server

namespace PowerLoss

open CheckpointRun

variable {ν : Type} [DecidableEq ν]
variable (place : Place ν)
variable (env : CheckpointEnv)

/- The mark is below the timestamp, and there is a file. -/
def advancePersists
    (g : CheckpointReplayGuard)
    (ts : UInt64) : Bool :=
  !(g.loaded && ts ≤ g.highWater) && g.statePath != []

/- The guard with the signature of its mark. -/
def recorded
    (g : CheckpointReplayGuard)
    (c sig : Bytes) : CheckpointReplayGuard :=
  { g with
    signedCheckpoint := CheckpointReplayGuard.appendNil c
    signedSignature := CheckpointReplayGuard.appendNil sig }

/-
  The critical section has returned. A failed advance is
  rolled back; a record stays in memory in any case.
-/
def finish
    (s : State ν)
    (p : Process)
    (k : Critical ν)
    (result : Option FileOp) : State ν :=
  let run := s.view place env
  match k.flight with
  | .checked req c =>
      s.adopt (run.afterAdvance req c p.inflight
        (match result with
        | none => (none, k.next, run.disk)
        | some op => (some (.persist op), p.guard, run.disk)))
  | .signed req c sig =>
      s.adopt (run.afterRecord req c sig p.inflight
        (result, k.next, run.disk))
  | _ => s

/- One event; `none` when it is not enabled. -/
def step
    (s : State ν) :
    Event ν → Option (State ν)
| .handle e =>
    if s.allows e then
      (CheckpointRun.step env (s.view place env) e).map
        s.adopt
    else
      none
| .advance req c =>
    match s.critical,
      (s.view place env).take (.checked req c) with
    | none, some (g, fs) =>
        if advancePersists g req.validatorTimestamp then
          some (s.lock g fs (.checked req c)
            (g.advanceTo req.validatorTimestamp))
        else
          some (s.adopt
            ((s.view place env).afterAdvance req c fs
              (g.checkAndAdvance req.validatorTimestamp
                (s.disk place env) none)))
    | _, _ => none
| .record req c sig =>
    match s.critical,
      (s.view place env).take (.signed req c sig) with
    | none, some (g, fs) =>
        if
            req.validatorTimestamp = g.highWater ∧
              g.statePath ≠ [] then
          some (s.lock g fs (.signed req c sig)
            (recorded g c sig))
        else
          some (s.adopt
            ((s.view place env).afterRecord req c sig fs
              (g.recordSignature req.validatorTimestamp c
                sig (s.disk place env) none)))
    | _, _ => none
| .persist fault n =>
    match s.process, s.critical with
    | some p, some k =>
        match
          writeBytesAtomicStep place k.next.statePath
            k.next.blob s.fs fault n k.writing
        with
        | none => none
        | some (fs, .going w) => some (s.writes fs k w)
        | some (fs, .returned result) =>
            some (finish place env (s.unlock fs) p k result)
    | _, _ => none
| .kill =>
    match s.process with
    | none => none
    | some _ => some (s.die s.fs)
| .powerLoss pick lost =>
    some (s.die (s.fs.powerLoss pick lost))
| .other op =>
    if s.spares (place.entry env.statePath) op then
      some { s with fs := op.apply s.fs }
    else
      none

def machine : Machine (State ν) (Event ν) where
  step := step place env

end PowerLoss

end Server

end BridgeSigner

------------------------------------------------------------
-- What A Step Can Do
------------------------------------------------------------

namespace BridgeSigner

namespace Server

namespace PowerLoss

open CheckpointRun

variable {ν : Type} [DecidableEq ν]

/- The enabled events, with the states they lead to. -/
inductive Transition
    (place : Place ν)
    (env : CheckpointEnv)
    (s : State ν) :
    Event ν → State ν → Prop where
| handle
    {e : CheckpointRun.Event}
    {run : CheckpointRun.State}
    (hAllows : s.allows e = true)
    (hStep :
      CheckpointRun.step env (s.view place env) e =
        some run) :
    Transition place env s (.handle e) (s.adopt run)
| advanceLock
    {req : SignBridgeCheckpointRequest}
    {c : Bytes}
    {g : CheckpointReplayGuard}
    {fs : List Flight}
    (hFree : s.critical = none)
    (hTake :
      (s.view place env).take (.checked req c) =
        some (g, fs))
    (hPersists :
      advancePersists g req.validatorTimestamp = true) :
    Transition place env s (.advance req c)
      (s.lock g fs (.checked req c)
        (g.advanceTo req.validatorTimestamp))
| advance
    {req : SignBridgeCheckpointRequest}
    {c : Bytes}
    {g : CheckpointReplayGuard}
    {fs : List Flight}
    (hFree : s.critical = none)
    (hTake :
      (s.view place env).take (.checked req c) =
        some (g, fs))
    (hPersists :
      advancePersists g req.validatorTimestamp = false) :
    Transition place env s (.advance req c)
      (s.adopt
        ((s.view place env).afterAdvance req c fs
          (g.checkAndAdvance req.validatorTimestamp
            (s.disk place env) none)))
| recordLock
    {req : SignBridgeCheckpointRequest}
    {c sig : Bytes}
    {g : CheckpointReplayGuard}
    {fs : List Flight}
    (hFree : s.critical = none)
    (hTake :
      (s.view place env).take (.signed req c sig) =
        some (g, fs))
    (hMark : req.validatorTimestamp = g.highWater) :
    Transition place env s (.record req c sig)
      (s.lock g fs (.signed req c sig) (recorded g c sig))
| record
    {req : SignBridgeCheckpointRequest}
    {c sig : Bytes}
    {g : CheckpointReplayGuard}
    {fs : List Flight}
    (hFree : s.critical = none)
    (hTake :
      (s.view place env).take (.signed req c sig) =
        some (g, fs))
    (hPast :
      ¬ (req.validatorTimestamp = g.highWater ∧
        g.statePath ≠ [])) :
    Transition place env s (.record req c sig)
      (s.adopt
        ((s.view place env).afterRecord req c sig fs
          (g.recordSignature req.validatorTimestamp c sig
            (s.disk place env) none)))
| persist
    {fault : Bool}
    {n : Nat}
    {p : Process}
    {k : Critical ν}
    {fs : FileSystem ν}
    {w : Writing ν}
    (hProcess : s.process = some p)
    (hCritical : s.critical = some k)
    (hCall :
      writeBytesAtomicStep place k.next.statePath
          k.next.blob s.fs fault n k.writing =
        some (fs, .going w)) :
    Transition place env s (.persist fault n)
      (s.writes fs k w)
| finish
    {fault : Bool}
    {n : Nat}
    {p : Process}
    {k : Critical ν}
    {fs : FileSystem ν}
    {result : Option FileOp}
    (hProcess : s.process = some p)
    (hCritical : s.critical = some k)
    (hCall :
      writeBytesAtomicStep place k.next.statePath
          k.next.blob s.fs fault n k.writing =
        some (fs, .returned result)) :
    Transition place env s (.persist fault n)
      (PowerLoss.finish place env (s.unlock fs) p k result)
| kill :
    Transition place env s .kill (s.die s.fs)
| powerLoss
    (pick : ν → Nat)
    (lost : Nat → File) :
    Transition place env s (.powerLoss pick lost)
      (s.die (s.fs.powerLoss pick lost))
| other
    {op : FileSystem.Op ν}
    (hSpares :
      s.spares (place.entry env.statePath) op = true) :
    Transition place env s (.other op)
      { s with fs := op.apply s.fs }

theorem step_transition
    {place : Place ν}
    {env : CheckpointEnv}
    {s t : State ν}
    {e : Event ν}
    (hStep : step place env s e = some t) :
    Transition place env s e t := by
  cases e with
  | handle e =>
      simp only [step] at hStep
      split at hStep
      · rename_i hAllows
        rcases Option.map_eq_some_iff.mp hStep with
          ⟨run, hRun, rfl⟩
        exact .handle hAllows hRun
      · cases hStep
  | advance req c =>
      simp only [step] at hStep
      split at hStep
      · split at hStep
        · cases hStep
          exact .advanceLock ‹_› ‹_› ‹_›
        · rename_i hNow
          cases hStep
          exact .advance ‹_› ‹_›
            (Bool.eq_false_iff.mpr hNow)
      · cases hStep
  | record req c sig =>
      simp only [step] at hStep
      split at hStep
      · split at hStep
        · rename_i hMark
          cases hStep
          exact .recordLock ‹_› ‹_› hMark.1
        · cases hStep
          exact .record ‹_› ‹_› ‹_›
      · cases hStep
  | persist fault n =>
      simp only [step] at hStep
      split at hStep
      · split at hStep
        · cases hStep
        · cases hStep
          exact .persist ‹_› ‹_› ‹_›
        · cases hStep
          exact .finish ‹_› ‹_› ‹_›
      · cases hStep
  | kill =>
      simp only [step] at hStep
      split at hStep
      · cases hStep
      · cases hStep
        exact .kill
  | powerLoss pick lost =>
      cases hStep
      exact .powerLoss pick lost
  | other op =>
      simp only [step] at hStep
      split at hStep
      · cases hStep
        exact .other ‹_›
      · cases hStep

end PowerLoss

end Server

end BridgeSigner
