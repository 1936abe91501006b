import Mathlib.Logic.Function.Basic
import BridgeSigner.Config.Load
import BridgeSigner.Consensus.DialRun
import BridgeSigner.Server.Handlers

/-
  The daemon on its files (cmd/bridge-signer/cmd_start.go,
  consensus/loadpv.go, server/replay_guard.go).

  The private validator reads its key from one path and saves
  the last-sign state to another, and the checkpoint replay
  guard saves its mark to a third; all are paths of one file
  tree. The connection key is written where there is none.

  The two halves of the daemon take their steps in any order.
  They also crash and start each on its own here, so a crash
  of the daemon is a crash of both, one after the other.

  Key definitions include:
    * `Daemon`, `Daemon.step`
    * `Daemon.KeepsState`

  Main results:
    * `Daemon.run_consensus`
    * `Daemon.keeps_state_of_apart`
-/

------------------------------------------------------------
-- The Last State Saved
------------------------------------------------------------

namespace BridgeSigner

namespace Consensus

/- The key file holds a key. -/
def KeyLoads
    (lib : Comet)
    (keyFile : PathEntry) : Prop :=
  ∃ keyJSON key,
    keyFile.readFile = .ok keyJSON ∧
      lib.unmarshalKey keyJSON = .ok (some key)

/- What was saved last is loaded. -/
theorem loadCometFilePV_saved
    {lib : Comet}
    (hRestored : lib.StateRestored)
    {x : Signed}
    (hBytes : x.signBytes ≠ [])
    (hSignature : x.signature ≠ [])
    {keyFile : PathEntry}
    (hKey : KeyLoads lib keyFile)
    (keyPath : Bytes) :
    loadCometFilePV lib keyPath keyFile
        (.file (lib.marshalState x.state)) =
      .ok x.state := by
  rcases hKey with ⟨keyJSON, key, hRead, hKey⟩
  simp only [loadCometFilePV, hRead, hKey]
  exact restoreState_marshalState hRestored hBytes
    hSignature

namespace DialRun

variable {σ : Type}
variable {sys : System σ}
variable {s t : State σ}

/- The file holds the state of the last signature saved. -/
def HoldsLast
    (sys : System σ)
    (s : State σ) : Prop :=
  ∀ x rest, s.fresh = x :: rest →
    s.file = .file (sys.lib.marshalState x.state) ∧
      x.signBytes ≠ [] ∧ x.signature ≠ []

/- A step leaves the file alone, or is a save. -/
theorem transition_file
    {e : Event}
    (hTrans : Transition sys s e t) :
    t.file = s.file ∧ t.fresh = s.fresh ∨
      ∃ p reply,
        s.process = some p ∧ p.critical = some reply ∧
          t.file = .file (sys.lib.marshalState p.memory) ∧
          t.fresh = p.memory.signed.toList ++ s.fresh := by
  cases hTrans with
  | arrive hProcess id req now =>
      left
      unfold afterGate
      split <;> exact ⟨rfl, rfl⟩
  | enter hProcess hWaiting hFree =>
      left
      unfold afterEnter
      split <;> exact ⟨rfl, rfl⟩
  | save hProcess hCritical =>
      exact Or.inr ⟨_, _, hProcess, hCritical, rfl, rfl⟩
  | release hProcess hArbiter id => exact Or.inl ⟨rfl, rfl⟩
  | crash landed => exact Or.inl ⟨rfl, rfl⟩
  | crashLanded hProcess hCritical landed =>
      exact Or.inr ⟨_, _, hProcess, hCritical, rfl, rfl⟩
  | restart hLoad => exact Or.inl ⟨rfl, rfl⟩

theorem transition_holdsLast
    {r : PVRegister}
    (hAbs : Abstracts sys s r)
    {e : Event}
    (hTrans : Transition sys s e t)
    (hLast : HoldsLast sys s) :
    HoldsLast sys t := by
  intro x rest hFresh
  rcases transition_file hTrans with ⟨hFile, hSame⟩ |
    ⟨p, reply, hProcess, hCritical, hFile, hNew⟩
  · rw [hFile]
    exact hLast x rest (hSame.symm.trans hFresh)
  · -- What is saved is the signature the call has made.
    have hMemory := hAbs.process p hProcess
    rw [MemoryOf, hCritical] at hMemory
    rcases hMemory with ⟨y, hPending⟩
    rw [hNew, hPending.state, y.state_signed] at hFresh
    cases hFresh
    rw [hFile, hPending.state]
    exact ⟨rfl, hPending.bytes_nonempty,
      hPending.signature_nonempty⟩

theorem run_holdsLast
    (hDefault : sys.lib.DefaultPublished)
    (hSteps : sys.lib.VoteSteps)
    (hOnce : sys.lib.SignsOnce)
    (hRestored : sys.lib.StateRestored)
    {file : PathEntry}
    {es : List Event}
    (hRun :
      (machine sys).run (State.initial file) es = some s) :
    HoldsLast sys s := by
  rcases abstracts_initial hSteps hOnce file with
    ⟨c, hStart⟩
  have hKept :
      (∃ r, Abstracts sys s r) ∧ HoldsLast sys s := by
    refine Machine.run_invariant
      (P := fun s =>
        (∃ r, Abstracts sys s r) ∧ HoldsLast sys s)
      ?_ hRun ⟨⟨_, hStart⟩, ?_⟩
    · rintro s e t hStep ⟨⟨r, hAbs⟩, hLast⟩
      have hTrans := step_transition hStep
      rcases transition_followed hDefault hOnce hRestored
          hTrans hAbs with
        ⟨r', -, hAbs'⟩
      exact ⟨⟨r', hAbs'⟩,
        transition_holdsLast hAbs hTrans hLast⟩
    · intro x rest hFresh
      cases hFresh
  exact hKept.2

end DialRun

end Consensus

end BridgeSigner

------------------------------------------------------------
-- The Machine
------------------------------------------------------------

namespace BridgeSigner

open Consensus (PathEntry)

/- A daemon in its working directory. -/
structure Daemon (σ : Type) where
  cwd : List Bytes
  sys : Consensus.System σ
  srv : Server.BridgeSignerServer
  connKeyFile : Bytes

namespace Daemon

/- The contents of the files, by their places. -/
abbrev Files :=
  List Bytes → Option Bytes

/- A file or nothing, as the private validator sees it. -/
def entry : Option Bytes → PathEntry
| none => .missing
| some data => .file data

def content : PathEntry → Option Bytes
| .file data => some data
| _ => none

structure State (σ : Type) where
  files : Files
  pv : Consensus.DialRun.State σ
  bridge : Server.CheckpointRun.State

/-
  What can happen: the connection key is looked for, the
  private validator or the checkpoint guard takes a step of
  its own machine, or the server answers an RPC.
-/
inductive Event where
| connKey (data : Bytes)
| consensus (e : Consensus.DialRun.Event)
| bridge (e : Server.CheckpointRun.Event)
| rpc (env : Server.Surroundings) (request : Server.Request)

variable {σ : Type}
variable (d : Daemon σ)

def keyPlace : List Bytes :=
  Path.resolve d.cwd d.sys.keyFilePath

def statePlace : List Bytes :=
  Path.resolve d.cwd d.sys.stateFilePath

def guardPlace : List Bytes :=
  Path.resolve d.cwd d.srv.statePath

def connPlace : List Bytes :=
  Path.resolve d.cwd d.connKeyFile

/- Nothing runs yet on the given files. -/
def initial
    (files : Files) : State σ where
  files := files
  pv :=
    Consensus.DialRun.State.initial
      (entry (files d.statePlace))
  bridge := Server.CheckpointRun.State.initial

/- The private validator, on a key file. -/
def sysOn
    (key : Option Bytes) : Consensus.System σ :=
  { d.sys with keyFile := entry key }

/- Its state, with the state file. -/
def pvView
    (s : State σ) : Consensus.DialRun.State σ :=
  { s.pv with file := entry (s.files d.statePlace) }

/- The checkpoint guard with its file. -/
def bridgeView
    (s : State σ) : Server.CheckpointRun.State :=
  { s.bridge with
    disk :=
      { s.bridge.disk with file := s.files d.guardPlace } }

/- The private validator goes on, with what it wrote. -/
def setPV
    (s : State σ)
    (pv : Consensus.DialRun.State σ) : State σ :=
  { s with
    pv := pv
    files :=
      Function.update s.files d.statePlace
        (content pv.file) }

/- The server goes on, with what the guard wrote. -/
def setBridge
    (s : State σ)
    (bridge : Server.CheckpointRun.State) : State σ :=
  { s with
    bridge := bridge
    files :=
      Function.update s.files d.guardPlace
        bridge.disk.file }

/- An RPC, carried out on the guard of the server. -/
def answer
    (bridge : Server.CheckpointRun.State)
    (env : Server.Surroundings)
    (request : Server.Request) :
    Option Server.CheckpointRun.State :=
  match bridge.process with
  | none => none
  | some p =>
      let w :=
        (d.srv.handle env ⟨p.guard, bridge.disk, []⟩
          request).2
      some (bridge.resume w.disk w.guard p.inflight)

/- One event; `none` when it is not enabled. -/
def step
    (s : State σ) :
    Event → Option (State σ)
| .connKey data =>
    match s.files d.connPlace with
    | some _ => some s
    | none =>
        some
          { s with
            files :=
              Function.update s.files d.connPlace
                (some data) }
| .consensus e => do
    let pv ←
      Consensus.DialRun.step (d.sysOn (s.files d.keyPlace))
        (d.pvView s) e
    some (d.setPV s pv)
| .bridge e => do
    let bridge ←
      Server.CheckpointRun.step d.srv.env (d.bridgeView s) e
    some (d.setBridge s bridge)
| .rpc env request => do
    let bridge ← d.answer (d.bridgeView s) env request
    some (d.setBridge s bridge)

def machine : Machine (State σ) Event where
  step := d.step

/- The steps of the private validator in a run. -/
def consensusEvents
    (es : List Event) : List Consensus.DialRun.Event :=
  es.filterMap fun e =>
    match e with
    | .consensus e => some e
    | _ => none

/- The daemon that a configuration starts. -/
structure StartedFrom
    (cfg : Config) : Prop where
  keyFile : d.sys.keyFilePath = cfg.consensus.keyFile
  stateFile : d.sys.stateFilePath = cfg.consensus.stateFile
  connKeyFile : d.connKeyFile = cfg.consensus.connKeyFile
  guardPath : d.srv.statePath = cfg.checkpointGuardStatePath

end Daemon

end BridgeSigner

------------------------------------------------------------
-- The State File Belongs To The Private Validator
------------------------------------------------------------

namespace BridgeSigner

namespace Daemon

open Consensus (PathEntry)

variable {σ : Type}
variable {d : Daemon σ}
variable {s t : State σ}

/-
  The key is there, and the state file is as the private
  validator left it.
-/
structure Owned
    (d : Daemon σ)
    (key : Bytes)
    (s : State σ) : Prop where
  key : s.files d.keyPlace = some key
  state :
    ∃ data,
      s.files d.statePlace = some data ∧
        s.pv.file = .file data

variable {key : Bytes}

theorem Owned.pvView
    (hOwned : Owned d key s) :
    d.pvView s = s.pv := by
  rcases hOwned.state with ⟨data, hFile, hView⟩
  rw [Daemon.pvView, hFile, entry, ← hView]

/- A write elsewhere leaves both files alone. -/
theorem Owned.update
    (hOwned : Owned d key s)
    {place : List Bytes}
    (hKey : place ≠ d.keyPlace)
    (hState : place ≠ d.statePlace)
    (hPV : t.pv = s.pv)
    {data : Option Bytes}
    (hFiles :
      t.files = Function.update s.files place data) :
    Owned d key t := by
  rcases hOwned.state with ⟨old, hFile, hView⟩
  refine ⟨?_, old, ?_, hPV ▸ hView⟩
  · rw [hFiles, Function.update_of_ne hKey.symm, hOwned.key]
  · rw [hFiles, Function.update_of_ne hState.symm, hFile]

/- The three files are different ones. -/
structure Apart
    (d : Daemon σ) : Prop where
  guard_state : d.guardPlace ≠ d.statePlace
  guard_key : d.guardPlace ≠ d.keyPlace
  key_state : d.keyPlace ≠ d.statePlace

/- One step: at most a step of the private validator. -/
theorem step_owned
    (hApart : d.Apart)
    {e : Event}
    (hStep : d.step s e = some t)
    (hOwned : Owned d key s) :
    Owned d key t ∧
      (Consensus.DialRun.machine (d.sysOn (some key))).run
          s.pv (consensusEvents [e]) =
        some t.pv := by
  cases e with
  | connKey data =>
      simp only [step] at hStep
      split at hStep
      · cases hStep
        exact ⟨hOwned, rfl⟩
      · rename_i hMissing
        cases hStep
        -- Nothing is written over a file that is there.
        have hKey : d.connPlace ≠ d.keyPlace := by
          intro hSame
          rw [hSame, hOwned.key] at hMissing
          cases hMissing
        have hState : d.connPlace ≠ d.statePlace := by
          intro hSame
          rcases hOwned.state with ⟨old, hFile, -⟩
          rw [hSame, hFile] at hMissing
          cases hMissing
        exact ⟨hOwned.update hKey hState rfl rfl, rfl⟩
  | consensus e =>
      rcases Option.bind_eq_some_iff.mp hStep with
        ⟨pv, hPV, hSome⟩
      cases hSome
      rw [hOwned.pvView, hOwned.key] at hPV
      have hData : ∃ data, pv.file = .file data := by
        rcases Consensus.DialRun.transition_file
            (Consensus.DialRun.step_transition hPV) with
          ⟨hSame, -⟩ | ⟨p, reply, -, -, hSaved, -⟩
        · rcases hOwned.state with ⟨old, -, hView⟩
          exact ⟨old, hSame.trans hView⟩
        · exact ⟨_, hSaved⟩
      rcases hData with ⟨data, hData⟩
      refine ⟨⟨?_, data, ?_, hData⟩, ?_⟩
      · exact (Function.update_of_ne hApart.key_state _
          _).trans hOwned.key
      · apply (Function.update_self _ _ _).trans
        rw [hData]
        rfl
      · exact ((Consensus.DialRun.machine
          (d.sysOn (some key))).run_singleton s.pv e).trans
          hPV
  | bridge e =>
      rcases Option.bind_eq_some_iff.mp hStep with
        ⟨bridge, -, hSome⟩
      cases hSome
      exact ⟨hOwned.update hApart.guard_key
        hApart.guard_state rfl rfl, rfl⟩
  | rpc env request =>
      rcases Option.bind_eq_some_iff.mp hStep with
        ⟨bridge, -, hSome⟩
      cases hSome
      exact ⟨hOwned.update hApart.guard_key
        hApart.guard_state rfl rfl, rfl⟩

/-
  A run of the daemon is, on the key and the state file, the
  run of the private validator alone.
-/
theorem run_consensus
    (hApart : d.Apart)
    {es : List Event}
    (hRun : d.machine.run s es = some t)
    (hOwned : Owned d key s) :
    Owned d key t ∧
      (Consensus.DialRun.machine (d.sysOn (some key))).run
          s.pv (consensusEvents es) =
        some t.pv := by
  induction es generalizing s with
  | nil =>
      cases hRun
      exact ⟨hOwned, rfl⟩
  | cons e es ih =>
      rcases (d.machine.run_cons_iff s t e es).mp hRun with
        ⟨m, hHead, hTail⟩
      rcases step_owned hApart hHead hOwned with
        ⟨hMid, hFirst⟩
      rcases ih hTail hMid with ⟨hEnd, hRest⟩
      refine ⟨hEnd, ?_⟩
      have hSplit :
          consensusEvents (e :: es) =
            consensusEvents [e] ++ consensusEvents es :=
        List.filterMap_append (l := [e])
      rw [hSplit, Machine.run_append_iff]
      exact ⟨m.pv, hFirst, hRest⟩

/-
  The guard's path denotes another file than the state's; and
  from any files with a key and a state file among them, in
  every run, the state file is as the steps of the private
  validator alone make it, and what it saved last is what is
  loaded, if the key was one that loads.
-/
def KeepsState
    (d : Daemon σ) : Prop :=
  d.guardPlace ≠ d.statePlace ∧
    ∀ (files : Files) (key data : Bytes) (es : List Event)
        (s : State σ),
      files d.keyPlace = some key →
      files d.statePlace = some data →
      d.machine.run (d.initial files) es = some s →
        (Consensus.DialRun.machine (d.sysOn (some key))).run
            (.initial (.file data)) (consensusEvents es) =
          some s.pv ∧
        s.pv.file = entry (s.files d.statePlace) ∧
        ∀ x rest, s.pv.fresh = x :: rest →
          Consensus.KeyLoads d.sys.lib (.file key) →
            Consensus.loadCometFilePV d.sys.lib
                d.sys.keyFilePath
                (entry (s.files d.keyPlace))
                (entry (s.files d.statePlace)) =
              .ok x.state

theorem Apart.keepsState
    (hApart : d.Apart)
    (hDefault : d.sys.lib.DefaultPublished)
    (hSteps : d.sys.lib.VoteSteps)
    (hOnce : d.sys.lib.SignsOnce)
    (hRestored : d.sys.lib.StateRestored) :
    d.KeepsState := by
  refine ⟨hApart.guard_state, ?_⟩
  intro files key data es s hKey hFile hRun
  have hPV :
      (d.initial files).pv = .initial (.file data) := by
    rw [initial, hFile]
    rfl
  rcases run_consensus hApart hRun
      ⟨hKey, data, hFile, by rw [hPV]; rfl⟩ with
    ⟨⟨hKeyNow, now, hNow, hView⟩, hAlone⟩
  rw [hPV] at hAlone
  refine ⟨hAlone, ?_, ?_⟩
  · rw [hView, hNow]
    rfl
  · intro x rest hFresh hLoads
    have hLast :
        Consensus.DialRun.HoldsLast (d.sysOn (some key))
          s.pv :=
      Consensus.DialRun.run_holdsLast hDefault hSteps hOnce
        hRestored hAlone
    rcases hLast x rest hFresh with
      ⟨hSaved, hBytes, hSignature⟩
    rw [hKeyNow, hNow, entry, entry, ← hView, hSaved]
    exact Consensus.loadCometFilePV_saved hRestored hBytes
      hSignature hLoads d.sys.keyFilePath

/-
  In a configuration that was loaded with consensus signing,
  the bridge touches the double-sign state unless the guard's
  file is another than the state file; and it never does if,
  besides, the key is in a file of its own.
-/
theorem keeps_state_of_apart
    (host : Config.Host)
    (raw cfg : Config)
    (hLoad : Config.load host raw = .ok cfg)
    (hEnabled : cfg.consensus.enabled = true)
    (d : Daemon σ)
    (hStarted : d.StartedFrom cfg)
    (hDefault : d.sys.lib.DefaultPublished)
    (hSteps : d.sys.lib.VoteSteps)
    (hOnce : d.sys.lib.SignsOnce)
    (hRestored : d.sys.lib.StateRestored) :
    (d.KeepsState → cfg.GuardApart d.cwd) ∧
      (cfg.GuardApart d.cwd → cfg.KeyApart d.cwd →
        d.KeepsState) := by
  have hState := Config.load_stateFile hLoad hEnabled
  have hPlaces :
      d.guardPlace ≠ d.statePlace ↔ cfg.GuardApart d.cwd := by
    rw [guardPlace, statePlace, hStarted.guardPath,
      hStarted.stateFile]
    exact Config.guard_apart_iff cfg hState d.cwd
  refine ⟨fun hKeeps => hPlaces.mp hKeeps.1, ?_⟩
  intro hGuard hKey
  have hApart : d.Apart := by
    refine ⟨hPlaces.mpr hGuard, ?_, ?_⟩
    · rw [guardPlace, keyPlace, hStarted.guardPath,
        hStarted.keyFile]
      exact hKey.guard hState
    · rw [keyPlace, statePlace, hStarted.keyFile,
        hStarted.stateFile]
      exact hKey.1
  exact hApart.keepsState hDefault hSteps hOnce hRestored

/- The paths that exist are those of the samples below. -/
def sampleHost : Config.Host where
  stat := fun path =>
    if path = ascii "/keys" then
      .ok ()
    else
      .error (ascii "no such file or directory")
  parseDuration := fun _ =>
    .error (ascii "time: invalid duration")

/- Consensus signing on a state file, with the defaults. -/
def sampleRaw
    (stateFile : Bytes) : Config where
  chainID := Consensus.DialRun.sampleChain
  consensus :=
    ⟨ascii "/state/priv_validator_key.json", stateFile, [],
      ascii "tcp://node-a:26659,tcp://node-b:26659", []⟩
  signer :=
    ⟨ascii "file", ascii "/keys", ascii "bridge", [], [],
      [], []⟩
  server := ⟨[], [], 0, 0, [], []⟩
  tls := ⟨true, [], [], []⟩
  log := ⟨[], []⟩

def sampleDaemon
    (lib : Consensus.Comet)
    (stateFile : Bytes) :
    Daemon Consensus.PrimaryArbiter where
  cwd := []
  sys :=
    { Consensus.DialRun.sampleSystem with
      lib := lib
      stateFilePath := stateFile }
  srv :=
    { Server.BridgeSignerServer.fixedServer with
      statePath :=
        (sampleRaw
          stateFile).applyDefaults.checkpointGuardStatePath }
  connKeyFile := ascii "/data/connection.key"

theorem sampleDaemon_started
    (lib : Consensus.Comet)
    (stateFile : Bytes)
    (hState : stateFile ≠ []) :
    (sampleDaemon lib stateFile).StartedFrom
      (sampleRaw stateFile).applyDefaults where
  keyFile := rfl
  stateFile := by
    have hDefault :
        Config.orDefault stateFile
          (ascii "/data/priv_validator_state.json") =
            stateFile :=
      if_neg hState
    exact hDefault.symm
  connKeyFile := rfl
  guardPath := rfl

/- The default paths keep the files apart. -/
theorem default_paths_keep_state :
    (sampleDaemon Consensus.DialRun.sampleComet
      (ascii "/state/priv_validator_state.json")).KeepsState :=
  (keeps_state_of_apart sampleHost
    (sampleRaw (ascii "/state/priv_validator_state.json"))
    (sampleRaw
      (ascii
        "/state/priv_validator_state.json")).applyDefaults
    (by rfl) (by decide +kernel) _
    (sampleDaemon_started _ _ (by decide +kernel))
    Consensus.DialRun.sampleComet_default
    Consensus.DialRun.sampleComet_voteSteps
    Consensus.DialRun.sampleComet_signsOnce
    Consensus.DialRun.sampleComet_stateRestored).2
    (by decide +kernel) (by decide +kernel)

/- A state file with the name of the guard's file. -/
def sharedPath : Bytes :=
  ascii "/state/bridge_checkpoint_state.json"

/- What the guard writes for its first checkpoint. -/
def markJSON : Bytes :=
  ascii "\x7b\"high_water\":1700000000000\x7d"

/-
  To the node library that is a state with no fields set, and
  a key file without a key.
-/
def sharedComet : Consensus.Comet :=
  Consensus.DialRun.samplePV.library
    Consensus.DialRun.samplePubKey
    { Consensus.DialRun.sampleFiles with
      unmarshalKey := fun data =>
        if data = markJSON then
          .ok none
        else
          Consensus.DialRun.sampleFiles.unmarshalKey data
      unmarshalState := fun data =>
        if data = markJSON then
          .ok ⟨0, 0, 0, none, none⟩
        else
          Consensus.DialRun.sampleUnmarshal data }

def sharedDaemon : Daemon Consensus.PrimaryArbiter :=
  sampleDaemon sharedComet sharedPath

/- A connection key, as the daemon writes it. -/
def connKeyJSON : Bytes :=
  ascii "\x7b\n  \"priv_key\": \x7b\n    \"type\": " ++
    ascii "\"tendermint/PrivKeyEd25519\",\n" ++
    ascii "    \"value\": \"IiIiIiIiIiIiIiIiIiIiIiIiIiIiIiIiIiIiIiIiIiKg" ++
    ascii "mqX0emdZgC/5VfjcLSoUpcmdI76X+GQSf/k4NFWk8A==\"\n" ++
    ascii "  \x7d\n\x7d"

/- The key and a fresh state file, and no other file. -/
def freshFiles
    (d : Daemon Consensus.PrimaryArbiter) : Files :=
  fun place =>
    if place = d.keyPlace then
      some Consensus.DialRun.sampleKeyJSON
    else if place = d.statePlace then
      some Consensus.freshStateJSON
    else
      none

/-
  A prevote is signed and saved; the guard advances for a
  checkpoint; the daemon dies and starts again.
-/
def sharedRun : List Event :=
  let target := ascii "tcp://node-b:26659"
  let request := Consensus.DialRun.sampleRequest
  let checkpoint := Server.BridgeSignerServer.fixedCheckpoint
  [.connKey connKeyJSON, .consensus .restart, .bridge .restart,
    .consensus
      (.arrive target request (Consensus.DialRun.sampleTime 1)),
    .consensus (.enter target request), .consensus .save,
    .bridge (.arrive checkpoint),
    .bridge
      (.advance checkpoint checkpoint.expectedCheckpoint none),
    .bridge .crash, .consensus (.crash false),
    .consensus .restart]

/-
  The configuration is accepted, the guard overwrites the
  saved state, and the restarted private validator has
  forgotten what it signed.
-/
theorem shared_file_forgets_state :
    Config.load sampleHost (sampleRaw sharedPath) =
        .ok (sampleRaw sharedPath).applyDefaults ∧
      (sampleRaw
        sharedPath).applyDefaults.consensus.enabled = true ∧
      sharedDaemon.StartedFrom
        (sampleRaw sharedPath).applyDefaults ∧
      (sampleRaw
        sharedPath).applyDefaults.checkpointGuardStatePath =
          (sampleRaw
            sharedPath).applyDefaults.consensus.stateFile ∧
      (sharedDaemon.machine.run
          (sharedDaemon.initial (freshFiles sharedDaemon))
          sharedRun).map
          (fun s =>
            (s.pv.fresh, s.files sharedDaemon.statePlace,
              s.pv.process.map
                Consensus.DialRun.Process.memory)) =
        some ([Consensus.DialRun.sampleSigned],
          some markJSON, some ⟨0, 0, 0, none, none⟩) := by
  refine ⟨by rfl, ?_, ?_, ?_, ?_⟩
  · decide +kernel
  · exact sampleDaemon_started _ _ (by decide +kernel)
  · decide +kernel
  · decide +kernel

/- The guard's file configured to be the consensus key. -/
def keyRaw : Config :=
  { sampleRaw (ascii "/state/priv_validator_state.json") with
    server :=
      ⟨[], [], 0, 0, ascii "/state/priv_validator_key.json",
        []⟩ }

def keyDaemon : Daemon Consensus.PrimaryArbiter :=
  { sampleDaemon sharedComet
      (ascii "/state/priv_validator_state.json") with
    srv :=
      { Server.BridgeSignerServer.fixedServer with
        statePath := ascii "/state/priv_validator_key.json" } }

/-
  That is accepted too: the guard's mark takes the place of
  the key, and what was saved is not loaded any more.
-/
theorem guard_on_key_file_blocks_load :
    Config.load sampleHost keyRaw = .ok keyRaw.applyDefaults ∧
      keyRaw.applyDefaults.GuardApart [] ∧
      ¬ keyRaw.applyDefaults.KeyApart [] ∧
      (keyDaemon.machine.run
          (keyDaemon.initial (freshFiles keyDaemon))
          (sharedRun.take 10)).map
          (fun s =>
            (s.pv.fresh,
              Consensus.loadCometFilePV sharedComet
                keyDaemon.sys.keyFilePath
                (entry (s.files keyDaemon.keyPlace))
                (entry (s.files keyDaemon.statePlace)))) =
        some ([Consensus.DialRun.sampleSigned],
          .error
            ⟨"missing priv_key in %s",
              [.text keyDaemon.sys.keyFilePath]⟩) := by
  refine ⟨by rfl, ?_, ?_, ?_⟩
  · decide +kernel
  · decide +kernel
  · decide +kernel

end Daemon

end BridgeSigner
