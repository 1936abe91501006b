import BridgeSigner.Foundation.SignOnce
import BridgeSigner.Server.Checkpoint

/-
  Runs of the server under concurrent `SignBridgeCheckpoint`
  requests, persist faults, crashes and restarts
  (server/server.go, server/replay_guard.go).

  A request in flight stands between two of its critical
  sections: the gates, `CheckAndAdvance`, the backend call,
  `RecordSignature` or `CachedSignature`. An event is one of
  these sections of one request, with the fault the file
  system produces in it, or a crash, or a restart from the
  state file.

  Key definitions include:
    * `CheckpointRun.State`
    * `CheckpointRun.Event`
    * `CheckpointRun.machine`

  Main results:
    * `CheckpointRun.simulates_signOnce`
    * `CheckpointRun.timestamp_signed_once`
    * `CheckpointRun.answers_agree_at_timestamp`
-/

------------------------------------------------------------
-- The Handler And Its Surroundings
------------------------------------------------------------

namespace BridgeSigner

namespace Server

/- The status of a request that the guard turned away. -/
def replayGuardStatus
    (e : GuardError) : Status :=
  ⟨.failedPrecondition, "replay guard: %v", [.guard e]⟩

structure SignBridgeCheckpointResponse where
  signature : Bytes
  checkpoint : Bytes
  deriving DecidableEq, Repr

/- What the checkpoint handler depends on. -/
structure CheckpointEnv where
  statePath : Bytes
  keccak256 : Bytes → Bytes
  sha256 : Bytes → Bytes
  selfEVMAddr : Bytes

/- Gates (1) to (6) of this server. -/
def CheckpointEnv.validate
    (env : CheckpointEnv)
    (req : SignBridgeCheckpointRequest) :
    Except Status Bytes :=
  validateCheckpoint env.keccak256 env.selfEVMAddr req

end Server

end BridgeSigner

------------------------------------------------------------
-- States And Events
------------------------------------------------------------

namespace BridgeSigner

namespace Server

namespace CheckpointRun

/- A request between two of its critical sections. -/
inductive Flight where
| checked
    (req : SignBridgeCheckpointRequest)
    (c : Bytes)
| advanced
    (req : SignBridgeCheckpointRequest)
    (c : Bytes)
| refused
    (req : SignBridgeCheckpointRequest)
    (c : Bytes)
    (e : GuardError)
| signed
    (req : SignBridgeCheckpointRequest)
    (c sig : Bytes)
  deriving DecidableEq

/- One call of the backend, with the request it is for. -/
structure SignRawCall where
  timestamp : UInt64
  checkpoint : Bytes
  digest : Bytes
  result : SignRawResult
  deriving DecidableEq, Repr

/- A running process: its guard and its open requests. -/
structure Process where
  guard : CheckpointReplayGuard
  inflight : List Flight
  deriving DecidableEq

/- The disk, the process if one runs, and the history. -/
structure State where
  disk : Disk
  process : Option Process
  calls : List SignRawCall
  replies :
    List (SignBridgeCheckpointRequest ×
      Except Status SignBridgeCheckpointResponse)
  deriving DecidableEq

/-
  What can happen. `crashAdvance` and `crashRecord` strike
  inside a persist, just before the given file operation.
-/
inductive Event where
| arrive
    (req : SignBridgeCheckpointRequest)
| advance
    (req : SignBridgeCheckpointRequest)
    (c : Bytes)
    (fault : Option FileOp)
| lookup
    (req : SignBridgeCheckpointRequest)
    (c : Bytes)
    (e : GuardError)
| signRaw
    (req : SignBridgeCheckpointRequest)
    (c : Bytes)
    (result : SignRawResult)
| record
    (req : SignBridgeCheckpointRequest)
    (c sig : Bytes)
    (fault : Option FileOp)
| crash
| crashAdvance
    (req : SignBridgeCheckpointRequest)
    (c : Bytes)
    (op : FileOp)
| crashRecord
    (req : SignBridgeCheckpointRequest)
    (c sig : Bytes)
    (op : FileOp)
| restart

/- Before the first start: no process and no state file. -/
def State.initial : State :=
  ⟨⟨none, none⟩, none, [], []⟩

/- The guard, and the other requests, when `f` is open. -/
def State.take
    (s : State)
    (f : Flight) :
    Option (CheckpointReplayGuard × List Flight) :=
  match s.process with
  | none => none
  | some p =>
      if f ∈ p.inflight then
        some (p.guard, p.inflight.erase f)
      else
        none

/- Answer a request. -/
def State.reply
    (s : State)
    (req : SignBridgeCheckpointRequest)
    (r : Except Status SignBridgeCheckpointResponse) :
    State :=
  { s with replies := (req, r) :: s.replies }

/- Go on with the given disk, guard and requests. -/
def State.resume
    (s : State)
    (d : Disk)
    (g : CheckpointReplayGuard)
    (fs : List Flight) : State :=
  { s with disk := d, process := some ⟨g, fs⟩ }

/- The process dies and leaves the given disk. -/
def State.die
    (s : State)
    (d : Disk) : State :=
  { s with disk := d, process := none }

end CheckpointRun

end Server

end BridgeSigner

------------------------------------------------------------
-- The Machine
------------------------------------------------------------

namespace BridgeSigner

namespace Server

namespace CheckpointRun

/- Step (7) has returned. -/
def State.afterAdvance
    (s : State)
    (req : SignBridgeCheckpointRequest)
    (c : Bytes)
    (fs : List Flight) :
    Option GuardError × CheckpointReplayGuard × Disk → State
| (none, g, d) => s.resume d g (.advanced req c :: fs)
| (some (.rejected ts hw), g, d) =>
    s.resume d g (.refused req c (.rejected ts hw) :: fs)
| (some (.persist op), g, d) =>
    (s.resume d g fs).reply req
      (.error (replayGuardStatus (.persist op)))

/- The backend is called on the checkpoint's digest. -/
def State.called
    (env : CheckpointEnv)
    (s : State)
    (req : SignBridgeCheckpointRequest)
    (c : Bytes)
    (result : SignRawResult) : State :=
  { s with
    calls :=
      ⟨req.validatorTimestamp, c, env.sha256 c, result⟩ ::
        s.calls }

/- The backend call of step (8) has returned. -/
def State.afterSignRaw
    (s : State)
    (req : SignBridgeCheckpointRequest)
    (c : Bytes)
    (g : CheckpointReplayGuard)
    (fs : List Flight) :
    Except Status Bytes → State
| .ok sig => s.resume s.disk g (.signed req c sig :: fs)
| .error e => (s.resume s.disk g fs).reply req (.error e)

/-
  `RecordSignature` has returned. A persist failure is only
  logged: the signature is returned in any case.
-/
def State.afterRecord
    (s : State)
    (req : SignBridgeCheckpointRequest)
    (c sig : Bytes)
    (fs : List Flight) :
    Option FileOp × CheckpointReplayGuard × Disk → State
| (_, g, d) => (s.resume d g fs).reply req (.ok ⟨sig, c⟩)

/- The outcome of the memo lookup after a rejection. -/
def lookupReply
    (g : CheckpointReplayGuard)
    (req : SignBridgeCheckpointRequest)
    (c : Bytes)
    (e : GuardError) :
    Except Status SignBridgeCheckpointResponse :=
  match g.cachedSignature req.validatorTimestamp c with
  | some sig => .ok ⟨sig, c⟩
  | none => .error (replayGuardStatus e)

variable (env : CheckpointEnv)

/- One event; `none` when it is not enabled. -/
def step
    (s : State) :
    Event → Option State
| .arrive req =>
    match s.process with
    | none => none
    | some p =>
        match env.validate req with
        | .error e => some (s.reply req (.error e))
        | .ok c =>
            some (s.resume s.disk p.guard
              (.checked req c :: p.inflight))
| .advance req c fault =>
    match s.take (.checked req c) with
    | none => none
    | some (g, fs) =>
        some (s.afterAdvance req c fs
          (g.checkAndAdvance req.validatorTimestamp s.disk
            fault))
| .lookup req c e =>
    match s.take (.refused req c e) with
    | none => none
    | some (g, fs) =>
        some ((s.resume s.disk g fs).reply req
          (lookupReply g req c e))
| .signRaw req c result =>
    match s.take (.advanced req c) with
    | none => none
    | some (g, fs) =>
        some ((s.called env req c result).afterSignRaw
          req c g fs (checkedSignature result))
| .record req c sig fault =>
    match s.take (.signed req c sig) with
    | none => none
    | some (g, fs) =>
        some (s.afterRecord req c sig fs
          (g.recordSignature req.validatorTimestamp c sig
            s.disk fault))
| .crash =>
    match s.process with
    | none => none
    | some _ => some (s.die s.disk)
| .crashAdvance req c op =>
    match s.take (.checked req c) with
    | none => none
    | some (g, _) =>
        if g.highWater < req.validatorTimestamp then
          some (s.die
            (crashBytesAtomic
              (g.advanceTo req.validatorTimestamp).blob
              s.disk op))
        else
          none
| .crashRecord req c sig op =>
    match s.take (.signed req c sig) with
    | none => none
    | some (g, _) =>
        if g.highWater = req.validatorTimestamp then
          some (s.die
            (crashBytesAtomic (g.withMemo c sig).blob
              s.disk op))
        else
          none
| .restart =>
    match s.process with
    | some _ => none
    | none =>
        match
          newCheckpointReplayGuard env.statePath s.disk.read
        with
        | .error _ => none
        | .ok g => some (s.resume s.disk g [])

def machine : Machine State Event where
  step := step env

end CheckpointRun

end Server

end BridgeSigner

------------------------------------------------------------
-- What One Event Does
------------------------------------------------------------

namespace BridgeSigner

namespace Server

namespace CheckpointRun

variable (env : CheckpointEnv)
variable (s : State)

/- The enabled events, each with the state it leads to. -/
inductive Transition : Event → State → Prop where
| turnedAway {req p e} :
    s.process = some p →
    env.validate req = .error e →
    Transition (.arrive req) (s.reply req (.error e))
| arrive {req p c} :
    s.process = some p →
    env.validate req = .ok c →
    Transition (.arrive req)
      (s.resume s.disk p.guard
        (.checked req c :: p.inflight))
| advance {req c fault g fs} :
    s.take (.checked req c) = some (g, fs) →
    Transition (.advance req c fault)
      (s.afterAdvance req c fs
        (g.checkAndAdvance req.validatorTimestamp s.disk
          fault))
| lookup {req c e g fs} :
    s.take (.refused req c e) = some (g, fs) →
    Transition (.lookup req c e)
      ((s.resume s.disk g fs).reply req
        (lookupReply g req c e))
| signRaw {req c result g fs} :
    s.take (.advanced req c) = some (g, fs) →
    Transition (.signRaw req c result)
      ((s.called env req c result).afterSignRaw req c g fs
        (checkedSignature result))
| record {req c sig fault g fs} :
    s.take (.signed req c sig) = some (g, fs) →
    Transition (.record req c sig fault)
      (s.afterRecord req c sig fs
        (g.recordSignature req.validatorTimestamp c sig
          s.disk fault))
| crash {p} :
    s.process = some p →
    Transition .crash (s.die s.disk)
| crashAdvance {req c op g fs} :
    s.take (.checked req c) = some (g, fs) →
    g.highWater < req.validatorTimestamp →
    Transition (.crashAdvance req c op)
      (s.die
        (crashBytesAtomic
          (g.advanceTo req.validatorTimestamp).blob
          s.disk op))
| crashRecord {req c sig op g fs} :
    s.take (.signed req c sig) = some (g, fs) →
    g.highWater = req.validatorTimestamp →
    Transition (.crashRecord req c sig op)
      (s.die
        (crashBytesAtomic (g.withMemo c sig).blob
          s.disk op))
| restart {g} :
    s.process = none →
    newCheckpointReplayGuard env.statePath s.disk.read =
      .ok g →
    Transition .restart (s.resume s.disk g [])

variable {env s}

/- A step is one of the transitions. -/
theorem step_transition
    {e : Event}
    {t : State}
    (hStep : step env s e = some t) :
    Transition env s e t := by
  cases e with
  | arrive req =>
      simp only [step] at hStep
      split at hStep
      · cases hStep
      · split at hStep
        · cases hStep
          exact .turnedAway ‹_› ‹_›
        · cases hStep
          exact .arrive ‹_› ‹_›
  | advance req c fault =>
      simp only [step] at hStep
      split at hStep
      · cases hStep
      · cases hStep
        exact .advance ‹_›
  | lookup req c e =>
      simp only [step] at hStep
      split at hStep
      · cases hStep
      · cases hStep
        exact .lookup ‹_›
  | signRaw req c result =>
      simp only [step] at hStep
      split at hStep
      · cases hStep
      · cases hStep
        exact .signRaw ‹_›
  | record req c sig fault =>
      simp only [step] at hStep
      split at hStep
      · cases hStep
      · cases hStep
        exact .record ‹_›
  | crash =>
      simp only [step] at hStep
      split at hStep
      · cases hStep
      · cases hStep
        exact .crash ‹_›
  | crashAdvance req c op =>
      simp only [step] at hStep
      split at hStep
      · cases hStep
      · split at hStep
        · cases hStep
          exact .crashAdvance ‹_› ‹_›
        · cases hStep
  | crashRecord req c sig op =>
      simp only [step] at hStep
      split at hStep
      · cases hStep
      · split at hStep
        · cases hStep
          exact .crashRecord ‹_› ‹_›
        · cases hStep
  | restart =>
      simp only [step] at hStep
      split at hStep
      · cases hStep
      · split at hStep
        · cases hStep
        · cases hStep
          exact .restart ‹_› ‹_›

end CheckpointRun

end Server

end BridgeSigner

------------------------------------------------------------
-- Soundness Of Open Requests
------------------------------------------------------------

namespace BridgeSigner

namespace Server

namespace CheckpointRun

/- The open requests. -/
def State.flights
    (s : State) : List Flight :=
  match s.process with
  | none => []
  | some p => p.inflight

theorem State.take_eq_some
    {s : State}
    {f : Flight}
    {g : CheckpointReplayGuard}
    {fs : List Flight}
    (hTake : s.take f = some (g, fs)) :
    ∃ all, s.process = some ⟨g, all⟩ ∧ f ∈ all ∧
      fs = all.erase f := by
  unfold State.take at hTake
  split at hTake
  · cases hTake
  · rename_i p hProcess
    split at hTake
    · rename_i hMem
      cases hTake
      exact ⟨p.inflight, hProcess, hMem, rfl⟩
    · cases hTake

variable (env : CheckpointEnv)

/-
  An open request has passed the gates with its checkpoint;
  a signed one holds what the backend returned for it.
-/
def Flight.Sound
    (calls : List SignRawCall) :
    Flight → Prop
| .checked req c => env.validate req = .ok c
| .advanced req c => env.validate req = .ok c
| .refused req c _ => env.validate req = .ok c
| .signed req c sig =>
    env.validate req = .ok c ∧ sig.length = 64 ∧
      ⟨req.validatorTimestamp, c, env.sha256 c, .ok sig⟩ ∈
        calls

/- What holds of every request, call and reply. -/
structure Sound
    (s : State) : Prop where
  flights : ∀ f ∈ s.flights, f.Sound env s.calls
  digests :
    ∀ call ∈ s.calls,
      call.digest = env.sha256 call.checkpoint
  replies :
    ∀ r ∈ s.replies, ∀ a, r.2 = .ok a →
      env.validate r.1 = .ok a.checkpoint

variable {env}

theorem Flight.Sound.mono
    {calls calls' : List SignRawCall}
    {f : Flight}
    (hSub : calls ⊆ calls')
    (hf : f.Sound env calls) :
    f.Sound env calls' := by
  cases f with
  | checked req c => exact hf
  | advanced req c => exact hf
  | refused req c e => exact hf
  | signed req c sig => exact ⟨hf.1, hf.2.1, hSub hf.2.2⟩

namespace Sound

variable {s : State}

theorem initial :
    Sound env State.initial := by
  constructor <;> simp [State.initial, State.flights]

theorem resume
    (hs : Sound env s)
    {fs : List Flight}
    (hfs : ∀ f ∈ fs, f.Sound env s.calls)
    (d : Disk)
    (g : CheckpointReplayGuard) :
    Sound env (s.resume d g fs) :=
  ⟨hfs, hs.digests, hs.replies⟩

theorem resume_cons
    (hs : Sound env s)
    {f : Flight}
    {fs : List Flight}
    (hf : f.Sound env s.calls)
    (hfs : ∀ f ∈ fs, f.Sound env s.calls)
    (d : Disk)
    (g : CheckpointReplayGuard) :
    Sound env (s.resume d g (f :: fs)) :=
  hs.resume (List.forall_mem_cons.mpr ⟨hf, hfs⟩) d g

theorem die
    (hs : Sound env s)
    (d : Disk) :
    Sound env (s.die d) where
  flights := by simp [State.die, State.flights]
  digests := hs.digests
  replies := hs.replies

theorem reply
    (hs : Sound env s)
    {req : SignBridgeCheckpointRequest}
    {r : Except Status SignBridgeCheckpointResponse}
    (hr : ∀ a, r = .ok a →
      env.validate req = .ok a.checkpoint) :
    Sound env (s.reply req r) where
  flights := hs.flights
  digests := hs.digests
  replies := by
    intro x hx
    rcases List.mem_cons.mp hx with rfl | hx
    · exact hr
    · exact hs.replies x hx

theorem called
    (hs : Sound env s)
    (req : SignBridgeCheckpointRequest)
    (c : Bytes)
    (result : SignRawResult) :
    Sound env (s.called env req c result) where
  flights := fun f hf =>
    (hs.flights f hf).mono (List.subset_cons_self _ _)
  digests := by
    intro x hx
    rcases List.mem_cons.mp hx with rfl | hx
    · rfl
    · exact hs.digests x hx
  replies := hs.replies

/- The taken request and the others are all sound. -/
theorem take
    (hs : Sound env s)
    {f : Flight}
    {g : CheckpointReplayGuard}
    {fs : List Flight}
    (hTake : s.take f = some (g, fs)) :
    f.Sound env s.calls ∧ ∀ x ∈ fs, x.Sound env s.calls := by
  rcases State.take_eq_some hTake with
    ⟨all, hProcess, hMem, rfl⟩
  have hAll : ∀ x ∈ all, x.Sound env s.calls := by
    intro x hx
    exact hs.flights x (by simpa [State.flights, hProcess])
  exact ⟨hAll f hMem,
    fun x hx => hAll x (List.mem_of_mem_erase hx)⟩

end Sound

/- Every step keeps requests, calls and replies sound. -/
theorem step_sound
    {s t : State}
    {e : Event}
    (hStep : step env s e = some t)
    (hs : Sound env s) :
    Sound env t := by
  cases step_transition hStep with
  | turnedAway hProcess hInvalid => exact hs.reply (by simp)
  | @arrive req p c hProcess hValid =>
      refine hs.resume_cons (f := .checked req c) hValid ?_
        _ _
      intro f hf
      exact hs.flights f
        (by simpa [State.flights, hProcess])
  | @advance req c fault g fs hTake =>
      rcases hs.take hTake with ⟨hf, hfs⟩
      unfold State.afterAdvance
      split
      · exact hs.resume_cons (f := .advanced req c) hf
          hfs _ _
      · exact hs.resume_cons (f := .refused req c _) hf
          hfs _ _
      · exact (hs.resume hfs _ _).reply (by simp)
  | @lookup req c e g fs hTake =>
      rcases hs.take hTake with ⟨hf, hfs⟩
      refine (hs.resume hfs _ _).reply ?_
      intro a ha
      unfold lookupReply at ha
      split at ha
      · cases ha
        exact hf
      · cases ha
  | @signRaw req c result g fs hTake =>
      rcases hs.take hTake with ⟨hf, hfs⟩
      have hs' := hs.called req c result
      have hfs' :
          ∀ x ∈ fs,
            x.Sound env (s.called env req c result).calls :=
        fun x hx =>
          (hfs x hx).mono (List.subset_cons_self _ _)
      unfold State.afterSignRaw
      split
      · rename_i sig hSig
        rcases checkedSignature_ok_iff.mp hSig with
          ⟨rfl, hLength⟩
        exact hs'.resume_cons (f := .signed req c sig)
          ⟨hf, hLength, by simp [State.called]⟩ hfs' _ _
      · exact (hs'.resume hfs' _ _).reply (by simp)
  | @record req c sig fault g fs hTake =>
      rcases hs.take hTake with ⟨hf, hfs⟩
      refine (hs.resume hfs _ _).reply ?_
      intro a ha
      cases ha
      exact hf.1
  | crash hProcess => exact hs.die _
  | crashAdvance hTake hLt => exact hs.die _
  | crashRecord hTake hMark => exact hs.die _
  | restart hProcess hLoad => exact hs.resume (by simp) _ _

end CheckpointRun

end Server

end BridgeSigner

------------------------------------------------------------
-- The Register Behind The Guard
------------------------------------------------------------

namespace BridgeSigner

namespace Server

/- Timestamps with the checkpoint and signature made there. -/
abbrev CheckpointRegister :=
  SignOnce.Register Nat (Bytes × Bytes)

/- The mark and the memo of a guard. -/
def CheckpointReplayGuard.cell
    (g : CheckpointReplayGuard) :
    SignOnce.Cell Nat (Bytes × Bytes) :=
  ⟨g.highWater.toNat, g.memo⟩

/- A well-formed guard on the server's state path. -/
structure CheckpointEnv.Owns
    (env : CheckpointEnv)
    (g : CheckpointReplayGuard) : Prop where
  wellFormed : g.WellFormed
  path : g.statePath = env.statePath

/- Loading this disk's state file gives the guard `g`. -/
structure CheckpointEnv.Stores
    (env : CheckpointEnv)
    (d : Disk)
    (g : CheckpointReplayGuard) : Prop where
  owned : env.Owns g
  loads :
    newCheckpointReplayGuard env.statePath d.read = .ok g

namespace CheckpointEnv

variable {env : CheckpointEnv}
variable {g g' : CheckpointReplayGuard}
variable {d d' : Disk}

theorem Owns.advanceTo
    (hg : env.Owns g)
    (ts : UInt64) :
    env.Owns (g.advanceTo ts) :=
  ⟨hg.wellFormed.advanceTo ts, hg.path⟩

theorem Owns.withMemo
    (hg : env.Owns g)
    {c sig : Bytes}
    (hc : c.length = 32)
    (hSig : sig.length = 64) :
    env.Owns (g.withMemo c sig) :=
  ⟨hg.wellFormed.withMemo hc hSig, hg.path⟩

/- A file that was never written stands for mark zero. -/
theorem stores_bare
    (hPath : env.statePath ≠ [])
    (hFile : d.file = none) :
    env.Stores d (bareGuard env.statePath 0) where
  owned := ⟨⟨rfl, hPath, Or.inl ⟨rfl, rfl⟩⟩, rfl⟩
  loads := by
    simp [newCheckpointReplayGuard, hPath, Disk.read, hFile]

theorem Stores.of_file
    (hd : env.Stores d g)
    (hFile : d'.file = d.file) :
    env.Stores d' g := by
  refine ⟨hd.owned, ?_⟩
  rw [Disk.read, hFile]
  exact hd.loads

/- After a persist the disk stores the new guard or the old. -/
theorem Stores.persisted
    (hd : env.Stores d g)
    (hg : env.Owns g')
    (fault : Option FileOp)
    (hFile : d'.file = g'.persistedFile d fault) :
    env.Stores d' (if Lands fault then g' else g) := by
  rw [CheckpointReplayGuard.persistedFile] at hFile
  split at hFile
  · rename_i hLands
    rw [if_pos hLands]
    refine ⟨hg, ?_⟩
    rw [← hg.path, Disk.read, hFile]
    exact newCheckpointReplayGuard_blob hg.wellFormed
  · rename_i hLands
    rw [if_neg hLands]
    exact hd.of_file hFile

end CheckpointEnv

namespace CheckpointRun

/- The token of a request whose timestamp was advanced to. -/
def Flight.token : Flight → Option Nat
| .advanced req _ => some req.validatorTimestamp.toNat
| _ => none

def tokensOf
    (fs : List Flight) : Multiset Nat :=
  (fs.filterMap Flight.token : List Nat)

/- A backend call as a call of the register. -/
def SignRawCall.entry
    (call : SignRawCall) :
    Nat × Option (Bytes × Bytes) :=
  (call.timestamp.toNat,
    match checkedSignature call.result with
    | .ok sig => some (call.checkpoint, sig)
    | .error _ => none)

/- A successful reply as an answer of the register. -/
def answerOf :
    SignBridgeCheckpointRequest ×
        Except Status SignBridgeCheckpointResponse →
      Option (Nat × (Bytes × Bytes))
| (req, .ok a) =>
    some (req.validatorTimestamp.toNat,
      (a.checkpoint, a.signature))
| (_, .error _) => none

variable (env : CheckpointEnv)

/- The memory of the register: the guard, or the disk. -/
def MemoryOf
    (r : CheckpointRegister) :
    Option Process → Prop
| none => r.memory = r.disk
| some p => env.Owns p.guard ∧ r.memory = p.guard.cell

/- The register that a state of the server stands for. -/
structure Abstracts
    (s : State)
    (r : CheckpointRegister) : Prop where
  disk : ∃ g, env.Stores s.disk g ∧ r.disk = g.cell
  memory : MemoryOf env r s.process
  tokens : r.tokens = tokensOf s.flights
  calls : r.calls = s.calls.map SignRawCall.entry
  answers : r.answers = s.replies.filterMap answerOf

end CheckpointRun

end Server

end BridgeSigner

------------------------------------------------------------
-- The Server Refines The Register
------------------------------------------------------------

namespace BridgeSigner

namespace Server

namespace CheckpointRun

variable {env : CheckpointEnv}
variable {s : State}
variable {r : CheckpointRegister}

theorem tokensOf_erase
    {f : Flight}
    {fs : List Flight}
    (hMem : f ∈ fs) :
    tokensOf fs = tokensOf (f :: fs.erase f) :=
  Multiset.coe_eq_coe.mpr
    ((List.perm_cons_erase hMem).filterMap _)

/- What a taken request says about the register. -/
theorem Abstracts.take
    (h : Abstracts env s r)
    {f : Flight}
    {g : CheckpointReplayGuard}
    {fs : List Flight}
    (hTake : s.take f = some (g, fs)) :
    env.Owns g ∧ r.memory = g.cell ∧
      r.tokens = tokensOf (f :: fs) := by
  rcases State.take_eq_some hTake with
    ⟨all, hProcess, hMem, rfl⟩
  have hMemory := h.memory
  rw [hProcess] at hMemory
  refine ⟨hMemory.1, hMemory.2, ?_⟩
  rw [h.tokens, State.flights, hProcess]
  exact tokensOf_erase hMem

/- The process dies: the register restarts from its disk. -/
theorem Abstracts.die
    (h : Abstracts env s r)
    {r' : CheckpointRegister}
    {d : Disk}
    (hDisk : ∃ g, env.Stores d g ∧ r'.disk = g.cell)
    (hCalls : r'.calls = r.calls)
    (hAnswers : r'.answers = r.answers) :
    Abstracts env (s.die d) r'.restart where
  disk := hDisk
  memory := rfl
  tokens := rfl
  calls := hCalls.trans h.calls
  answers := hAnswers.trans h.answers

/- A landed write of a higher mark is a spill. -/
theorem spill_matched
    {g gd : CheckpointReplayGuard}
    {ts : UInt64}
    (hDisk : r.disk = gd.cell)
    (hMemory : r.memory = g.cell)
    (hLt : g.highWater < ts)
    (fault : Option FileOp) :
    ∃ r' : CheckpointRegister,
      SignOnce.machine.Reaches r r' ∧
        r'.disk =
            (if Lands fault then g.advanceTo ts
              else gd).cell ∧
          r' = { r with disk := r'.disk } := by
  have hMark : r.memory.mark < ts.toNat := by
    rw [hMemory]
    exact UInt64.lt_iff_toNat_lt.mp hLt
  by_cases hLands : Lands fault
  · rw [if_pos hLands]
    exact ⟨_, SignOnce.reaches_spill r hMark, rfl, rfl⟩
  · rw [if_neg hLands]
    exact ⟨r, .refl _ r, hDisk, rfl⟩

theorem advance_matched
    (h : Abstracts env s r)
    {req : SignBridgeCheckpointRequest}
    {c : Bytes}
    {g : CheckpointReplayGuard}
    {fs : List Flight}
    (hTake : s.take (.checked req c) = some (g, fs))
    (fault : Option FileOp) :
    ∃ r', SignOnce.machine.Reaches r r' ∧
      Abstracts env
        (s.afterAdvance req c fs
          (g.checkAndAdvance req.validatorTimestamp s.disk
            fault)) r' := by
  rcases h.take hTake with ⟨hg, hMemory, hTokens⟩
  rcases h.disk with ⟨gd, hStores, hDisk⟩
  have hNew := hg.advanceTo req.validatorTimestamp
  rcases g.checkAndAdvance_cases hg.wellFormed
      req.validatorTimestamp s.disk fault with
    ⟨-, hEq⟩ | ⟨hLt, rfl, hEq⟩ | ⟨op, hLt, rfl, hEq⟩
  · rw [hEq]
    exact ⟨r, .refl _ r,
      ⟨gd, hStores, hDisk⟩, ⟨hg, hMemory⟩, hTokens,
      h.calls, h.answers⟩
  · rw [hEq]
    have hMark :
        r.memory.mark < req.validatorTimestamp.toNat := by
      rw [hMemory]
      exact UInt64.lt_iff_toNat_lt.mp hLt
    refine ⟨_, SignOnce.reaches_grant r hMark,
      ⟨_, hStores.persisted hNew none rfl, rfl⟩,
      ⟨hNew, rfl⟩, ?_, h.calls, h.answers⟩
    simp only [SignOnce.Register.grant, hTokens]
    rfl
  · rw [hEq]
    rcases spill_matched hDisk hMemory hLt (some op) with
      ⟨r', hReach, hDisk', hRest⟩
    rw [hRest] at hReach
    exact ⟨_, hReach,
      ⟨_, hStores.persisted hNew (some op) rfl, hDisk'⟩,
      ⟨hg, hMemory⟩, hTokens, h.calls, h.answers⟩

theorem lookup_matched
    (h : Abstracts env s r)
    {req : SignBridgeCheckpointRequest}
    {c : Bytes}
    {e : GuardError}
    {g : CheckpointReplayGuard}
    {fs : List Flight}
    (hTake : s.take (.refused req c e) = some (g, fs)) :
    ∃ r', SignOnce.machine.Reaches r r' ∧
      Abstracts env
        ((s.resume s.disk g fs).reply req
          (lookupReply g req c e)) r' := by
  rcases h.take hTake with ⟨hg, hMemory, hTokens⟩
  unfold lookupReply
  split
  · rename_i sig hSig
    rcases (g.cachedSignature_eq_some hg.wellFormed _ _ _).mp
        hSig with
      ⟨hMark, hMemo⟩
    have hKnown :
        r.memory =
          ⟨req.validatorTimestamp.toNat, some (c, sig)⟩ := by
      rw [hMemory, CheckpointReplayGuard.cell, hMark, hMemo]
    refine ⟨_, SignOnce.reaches_answer r (Or.inr hKnown),
      h.disk, ⟨hg, hMemory⟩, hTokens, h.calls, ?_⟩
    simp only [SignOnce.Register.answer, h.answers]
    rfl
  · exact ⟨r, .refl _ r, h.disk, ⟨hg, hMemory⟩, hTokens,
      h.calls, h.answers⟩

theorem signRaw_matched
    (h : Abstracts env s r)
    {req : SignBridgeCheckpointRequest}
    {c : Bytes}
    {g : CheckpointReplayGuard}
    {fs : List Flight}
    (hTake : s.take (.advanced req c) = some (g, fs))
    (result : SignRawResult) :
    ∃ r', SignOnce.machine.Reaches r r' ∧
      Abstracts env
        ((s.called env req c result).afterSignRaw req c g fs
          (checkedSignature result)) r' := by
  rcases h.take hTake with ⟨hg, hMemory, hTokens⟩
  have hToken :
      r.tokens =
        req.validatorTimestamp.toNat ::ₘ tokensOf fs :=
    hTokens
  let call : SignRawCall :=
    ⟨req.validatorTimestamp, c, env.sha256 c, result⟩
  have hReach :=
    SignOnce.reaches_call r
      (t := req.validatorTimestamp.toNat)
      (by rw [hToken]; exact Multiset.mem_cons_self _ _)
      call.entry.2
  refine ⟨_, hReach, ?_⟩
  have hErase :
      r.tokens.erase req.validatorTimestamp.toNat =
        tokensOf fs := by
    rw [hToken, Multiset.erase_cons_head]
  have hCalls :
      (req.validatorTimestamp.toNat, call.entry.2) ::
          r.calls =
        (call :: s.calls).map SignRawCall.entry := by
    rw [h.calls]
    rfl
  unfold State.afterSignRaw
  split
  · exact ⟨h.disk, ⟨hg, hMemory⟩, hErase, hCalls,
      h.answers⟩
  · exact ⟨h.disk, ⟨hg, hMemory⟩, hErase, hCalls,
      h.answers⟩

/- A result kept for the mark, written out if it lands. -/
theorem remember_matched
    {g gd : CheckpointReplayGuard}
    {c sig : Bytes}
    (hDisk : r.disk = gd.cell)
    (hMemory : r.memory = g.cell)
    (hCalled :
      (g.highWater.toNat, some (c, sig)) ∈ r.calls)
    (fault : Option FileOp) :
    ∃ r' : CheckpointRegister,
      SignOnce.machine.Reaches r r' ∧
        r'.disk =
            (if Lands fault then g.withMemo c sig
              else gd).cell ∧
          r' = { r with
            memory := (g.withMemo c sig).cell
            disk := r'.disk } := by
  have hKept :
      (r.remember (c, sig)).memory =
        (g.withMemo c sig).cell := by
    simp only [SignOnce.Register.remember, hMemory]
    rfl
  have hReach :=
    SignOnce.reaches_remember r (p := (c, sig))
      (by rw [hMemory]; exact hCalled)
  by_cases hLands : Lands fault
  · rw [if_pos hLands]
    refine ⟨_, hReach.trans (SignOnce.reaches_flush _),
      hKept, ?_⟩
    simp only [SignOnce.Register.flush, ← hKept]
    rfl
  · rw [if_neg hLands]
    refine ⟨_, hReach, hDisk, ?_⟩
    rw [← hKept]
    rfl

/- A signed request's result is a call of the register. -/
theorem called_of_signed
    (h : Abstracts env s r)
    {req : SignBridgeCheckpointRequest}
    {c sig : Bytes}
    (hf : (Flight.signed req c sig).Sound env s.calls) :
    (req.validatorTimestamp.toNat, some (c, sig)) ∈
      r.calls := by
  rw [h.calls]
  refine List.mem_map.mpr ⟨_, hf.2.2, ?_⟩
  have hSig : checkedSignature (.ok sig) = .ok sig :=
    checkedSignature_ok_iff.mpr ⟨rfl, hf.2.1⟩
  simp [SignRawCall.entry, hSig]

theorem record_matched
    (h : Abstracts env s r)
    (hs : Sound env s)
    {req : SignBridgeCheckpointRequest}
    {c sig : Bytes}
    {g : CheckpointReplayGuard}
    {fs : List Flight}
    (hTake : s.take (.signed req c sig) = some (g, fs))
    (fault : Option FileOp) :
    ∃ r', SignOnce.machine.Reaches r r' ∧
      Abstracts env
        (s.afterRecord req c sig fs
          (g.recordSignature req.validatorTimestamp c sig
            s.disk fault)) r' := by
  rcases h.take hTake with ⟨hg, hMemory, hTokens⟩
  rcases h.disk with ⟨gd, hStores, hDisk⟩
  have hf := (hs.take hTake).1
  have hCalled := called_of_signed h hf
  have hAnswers :
      (req.validatorTimestamp.toNat, (c, sig)) ::
          r.answers =
        ((req, .ok ⟨sig, c⟩) :: s.replies).filterMap
          answerOf := by
    rw [h.answers]
    rfl
  have hc : c.length = 32 :=
    (validateCheckpoint_ok_iff.mp hf.1).length
  rcases g.recordSignature_cases hg.wellFormed
      req.validatorTimestamp hc hf.2.1 s.disk fault with
    ⟨-, hEq⟩ | ⟨hMark, hEq⟩
  · rw [hEq]
    exact ⟨_, SignOnce.reaches_answer r (Or.inl hCalled),
      ⟨gd, hStores, hDisk⟩, ⟨hg, hMemory⟩, hTokens,
      h.calls, hAnswers⟩
  · rw [hEq]
    have hNew := hg.withMemo hc hf.2.1
    rcases remember_matched hDisk hMemory
        (hMark ▸ hCalled) fault with
      ⟨r', hReach, hDisk', hRest⟩
    rw [hRest] at hReach
    exact ⟨_,
      hReach.trans
        (SignOnce.reaches_answer _ (Or.inl hCalled)),
      ⟨_, hStores.persisted hNew fault rfl, hDisk'⟩,
      ⟨hNew, rfl⟩, hTokens, h.calls, hAnswers⟩

theorem crashAdvance_matched
    (h : Abstracts env s r)
    {req : SignBridgeCheckpointRequest}
    {c : Bytes}
    {g : CheckpointReplayGuard}
    {fs : List Flight}
    (hTake : s.take (.checked req c) = some (g, fs))
    (hLt : g.highWater < req.validatorTimestamp)
    (op : FileOp) :
    ∃ r', SignOnce.machine.Reaches r r' ∧
      Abstracts env
        (s.die
          (crashBytesAtomic
            (g.advanceTo req.validatorTimestamp).blob
            s.disk op)) r' := by
  rcases h.take hTake with ⟨hg, hMemory, -⟩
  rcases h.disk with ⟨gd, hStores, hDisk⟩
  rcases spill_matched hDisk hMemory hLt (some op) with
    ⟨r', hReach, hDisk', hRest⟩
  have hNew := hg.advanceTo req.validatorTimestamp
  exact ⟨_, hReach.trans (SignOnce.reaches_restart r'),
    h.die
      ⟨_, hStores.persisted hNew (some op)
        (crashBytesAtomic_file _ _ op), hDisk'⟩
      (by rw [hRest]) (by rw [hRest])⟩

theorem crashRecord_matched
    (h : Abstracts env s r)
    (hs : Sound env s)
    {req : SignBridgeCheckpointRequest}
    {c sig : Bytes}
    {g : CheckpointReplayGuard}
    {fs : List Flight}
    (hTake : s.take (.signed req c sig) = some (g, fs))
    (hMark : g.highWater = req.validatorTimestamp)
    (op : FileOp) :
    ∃ r', SignOnce.machine.Reaches r r' ∧
      Abstracts env
        (s.die
          (crashBytesAtomic (g.withMemo c sig).blob
            s.disk op)) r' := by
  rcases h.take hTake with ⟨hg, hMemory, -⟩
  rcases h.disk with ⟨gd, hStores, hDisk⟩
  have hf := (hs.take hTake).1
  have hCalled := called_of_signed h hf
  rcases remember_matched hDisk hMemory
      (hMark ▸ hCalled) (some op) with
    ⟨r', hReach, hDisk', hRest⟩
  have hc : c.length = 32 :=
    (validateCheckpoint_ok_iff.mp hf.1).length
  have hNew := hg.withMemo hc hf.2.1
  exact ⟨_, hReach.trans (SignOnce.reaches_restart r'),
    h.die
      ⟨_, hStores.persisted hNew (some op)
        (crashBytesAtomic_file _ _ op), hDisk'⟩
      (by rw [hRest]) (by rw [hRest])⟩

/- Every event of the server is a run of the register. -/
theorem simulates_signOnce :
    Machine.Simulates (machine env) SignOnce.machine
      (Sound env) (Abstracts env) where
  keeps := fun _ _ _ hStep hs => step_sound hStep hs
  matched := by
    intro s e t hStep hs r h
    cases step_transition hStep with
    | turnedAway hProcess hInvalid =>
        exact ⟨r, .refl _ r, h.disk, h.memory, h.tokens,
          h.calls, h.answers⟩
    | arrive hProcess hValid =>
        have hMemory := h.memory
        have hTokens := h.tokens
        rw [hProcess] at hMemory
        rw [State.flights, hProcess] at hTokens
        exact ⟨r, .refl _ r, h.disk, hMemory, hTokens,
          h.calls, h.answers⟩
    | advance hTake => exact advance_matched h hTake _
    | lookup hTake => exact lookup_matched h hTake
    | signRaw hTake => exact signRaw_matched h hTake _
    | record hTake => exact record_matched h hs hTake _
    | crash hProcess =>
        exact ⟨_, SignOnce.reaches_restart r,
          h.die h.disk rfl rfl⟩
    | crashAdvance hTake hLt =>
        exact crashAdvance_matched h hTake hLt _
    | crashRecord hTake hMark =>
        exact crashRecord_matched h hs hTake hMark _
    | restart hProcess hLoad =>
        rcases h.disk with ⟨gd, hStores, hDisk⟩
        have hMemory := h.memory
        have hTokens := h.tokens
        rw [hProcess] at hMemory
        rw [State.flights, hProcess] at hTokens
        rw [hStores.loads] at hLoad
        cases hLoad
        exact ⟨r, .refl _ r, h.disk,
          ⟨hStores.owned, hMemory.trans hDisk⟩, hTokens,
          h.calls, h.answers⟩

end CheckpointRun

end Server

end BridgeSigner

------------------------------------------------------------
-- One Signing And One Answer Per Timestamp
------------------------------------------------------------

namespace BridgeSigner

namespace Server

namespace CheckpointRun

variable {env : CheckpointEnv}

/- The register of the server before its first start. -/
theorem abstracts_initial
    (hPath : env.statePath ≠ []) :
    Abstracts env State.initial
      (SignOnce.Register.start ⟨0, none⟩) where
  disk := ⟨_, CheckpointEnv.stores_bare hPath rfl, rfl⟩
  memory := rfl
  tokens := rfl
  calls := rfl
  answers := rfl

/- Every run ends in a state of a consistent register. -/
theorem run_consistent
    (hPath : env.statePath ≠ [])
    {es : List Event}
    {t : State}
    (hRun :
      (machine env).run State.initial es = some t) :
    Sound env t ∧
      ∃ r, SignOnce.Consistent r ∧ Abstracts env t r := by
  rcases simulates_signOnce.run hRun Sound.initial
      (abstracts_initial hPath) with
    ⟨hSound, r, hReach, hAbs⟩
  exact ⟨hSound, r,
    SignOnce.reaches_consistent hReach
      (SignOnce.consistent_start _), hAbs⟩

/- SHA-256 on the golden mainnet checkpoint. -/
def goldenSha256
    (b : Bytes) : Bytes :=
  if b = goldenMainnetRequest.expectedCheckpoint then
    beBytes 32
      0x38624782d275b911ce4daf72e906172377d4a117d8871eeef8e446799e62f2f1
  else
    []

/- The backend's signature of the golden checkpoint. -/
def goldenSignature : Bytes :=
  beBytes 32
      0xb8dbec6f118cdf8cd94cdfb499daa5621619092bbc7bde0a40dfbca3d2520204 ++
    beBytes 32
      0x3b088b44938efa379d25a0fab20972e4cb190789b7bbe2b1488a3f75e7179eb7

/- A server whose address is in the golden set. -/
def goldenEnv : CheckpointEnv where
  statePath := ascii "/state/checkpoint_hw"
  keccak256 := goldenKeccak256
  sha256 := goldenSha256
  selfEVMAddr := List.replicate 20 0x11

/- The events of one golden request up to its guard check. -/
def goldenArrival : List Event :=
  [.arrive goldenMainnetRequest,
    .advance goldenMainnetRequest
      goldenMainnetRequest.expectedCheckpoint none]

/- The memo lookup of a repeated golden request. -/
def goldenLookup : Event :=
  .lookup goldenMainnetRequest
    goldenMainnetRequest.expectedCheckpoint
    (.rejected 1700000000000 1700000000000)

/-
  A golden request is signed and recorded; after a crash and
  a restart its repeat is answered from the state file.
-/
def goldenRun : List Event :=
  .restart :: goldenArrival ++
    [.signRaw goldenMainnetRequest
        goldenMainnetRequest.expectedCheckpoint
        (.ok goldenSignature),
      .record goldenMainnetRequest
        goldenMainnetRequest.expectedCheckpoint
        goldenSignature none,
      .crash, .restart] ++
    goldenArrival ++ [goldenLookup]

/-
  Over the whole history the backend is called at most once
  for a timestamp, so never for two checkpoints.
-/
theorem timestamp_signed_once
    (env : CheckpointEnv)
    (hPath : env.statePath ≠ [])
    (es : List Event)
    (t : State)
    (hRun :
      (machine env).run State.initial es = some t) :
    (t.calls.map SignRawCall.timestamp).Nodup ∧
      ∀ a ∈ t.calls, ∀ b ∈ t.calls,
        a.timestamp = b.timestamp →
          a.checkpoint = b.checkpoint := by
  rcases run_consistent hPath hRun with ⟨-, r, hr, hAbs⟩
  have hNodup :
      (t.calls.map SignRawCall.timestamp).Nodup := by
    have hMarks := hr.calls_nodup
    rw [hAbs.calls, List.map_map] at hMarks
    have hToNat :
        (t.calls.map (Prod.fst ∘ SignRawCall.entry)) =
          (t.calls.map SignRawCall.timestamp).map
            UInt64.toNat := by
      rw [List.map_map]
      rfl
    rw [hToNat] at hMarks
    exact hMarks.of_map _
  refine ⟨hNodup, ?_⟩
  intro a ha b hb hEq
  rw [List.inj_on_of_nodup_map hNodup ha hb hEq]

theorem golden_timestamp_signed_once :
    ∃ t,
      (machine goldenEnv).run State.initial goldenRun =
          some t ∧
        t.calls.length = 1 ∧
          (t.calls.map SignRawCall.timestamp).Nodup := by
  have hCalls :
      ((machine goldenEnv).run State.initial
          goldenRun).map (fun t => t.calls.length) =
        some 1 := by
    decide +kernel
  rcases Option.map_eq_some_iff.mp hCalls with
    ⟨t, hRun, hLength⟩
  exact ⟨t, hRun, hLength,
    (timestamp_signed_once goldenEnv (by decide) goldenRun
      t hRun).1⟩

/-
  Every successful reply carries the checkpoint of its own
  request and a signature the backend returned for it, and
  two successful replies for one timestamp are the same.
-/
theorem answers_agree_at_timestamp
    (env : CheckpointEnv)
    (hPath : env.statePath ≠ [])
    (es : List Event)
    (t : State)
    (hRun :
      (machine env).run State.initial es = some t) :
    (∀ x ∈ t.replies, ∀ a, x.2 = .ok a →
      env.validate x.1 = .ok a.checkpoint ∧
        ∃ call ∈ t.calls,
          call.digest = env.sha256 a.checkpoint ∧
            call.result = .ok a.signature) ∧
      ∀ x ∈ t.replies, ∀ y ∈ t.replies, ∀ a b,
        x.2 = .ok a → y.2 = .ok b →
          x.1.validatorTimestamp = y.1.validatorTimestamp →
            a = b := by
  rcases run_consistent hPath hRun with
    ⟨hSound, r, hr, hAbs⟩
  have hAnswer :
      ∀ x ∈ t.replies, ∀ a, x.2 = .ok a →
        (x.1.validatorTimestamp.toNat,
            (a.checkpoint, a.signature)) ∈ r.answers := by
    intro x hx a ha
    rw [hAbs.answers]
    refine List.mem_filterMap.mpr ⟨x, hx, ?_⟩
    rcases x with ⟨req, reply⟩
    cases ha
    rfl
  constructor
  · intro x hx a ha
    refine ⟨hSound.replies x hx a ha, ?_⟩
    have hCalled := hr.answered _ (hAnswer x hx a ha)
    rw [hAbs.calls] at hCalled
    rcases List.mem_map.mp hCalled with
      ⟨call, hCall, hEntry⟩
    refine ⟨call, hCall, ?_⟩
    simp only [SignRawCall.entry, Prod.mk.injEq] at hEntry
    rcases hEntry with ⟨-, hResult⟩
    split at hResult
    · rename_i sig hSig
      obtain ⟨hCkpt, rfl⟩ :=
        Prod.mk.inj (Option.some.inj hResult)
      rw [← hCkpt]
      exact ⟨hSound.digests call hCall,
        (checkedSignature_ok_iff.mp hSig).1⟩
    · cases hResult
  · intro x hx y hy a b ha hb hTime
    have hx' := hAnswer x hx a ha
    have hy' := hAnswer y hy b hb
    rw [← hTime] at hy'
    have hPair := hr.answers_agree hx' hy'
    rcases a with ⟨sigA, ckptA⟩
    rcases b with ⟨sigB, ckptB⟩
    cases hPair
    rfl

end CheckpointRun

end Server

end BridgeSigner
