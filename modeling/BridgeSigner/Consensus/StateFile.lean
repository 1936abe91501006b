import BridgeSigner.Consensus.Handler

/-
  The last-sign state file (consensus/statefile.go,
  consensus/loadpv.go).

  Key definitions include:
    * `requireStateFile`
    * `initStateFile`
    * `loadCometFilePV`
    * `startPV`

  Main results:
    * `startPV_saved`
-/

------------------------------------------------------------
-- Files
------------------------------------------------------------

namespace BridgeSigner

namespace Consensus

/- What stands at a path, as `Stat` and `ReadFile` see it. -/
inductive PathEntry where
| missing
| statFails (e : Bytes)
| directory
| unreadable (e : Bytes)
| file (data : Bytes)
  deriving DecidableEq, Repr

/- Why a file could not be read. -/
inductive ReadError where
| notExist
| failed (e : Bytes)

def ReadError.text : ReadError → Bytes
| .notExist => ascii "no such file or directory"
| .failed e => e

def PathEntry.readFile :
    PathEntry → Except ReadError Bytes
| .missing => .error .notExist
| .statFails e => .error (.failed e)
| .directory => .error (.failed (ascii "is a directory"))
| .unreadable e => .error (.failed e)
| .file data => .ok data

/- The state file must exist before the signer starts. -/
def requireStateFile
    (path : Bytes) :
    PathEntry → Except Err Unit
| .missing =>
    .error
      ⟨"state file %s not found: refusing to start without " ++
        "a last-sign state; bootstrap a new signer once " ++
        "with 'init-state'", [.text path]⟩
| .statFails e =>
    .error
      ⟨"stat state file %s: %w", [.text path, .library e]⟩
| .directory =>
    .error
      ⟨"state file path %s is a directory", [.text path]⟩
| .unreadable _ => .ok ()
| .file _ => .ok ()

/- The zero state, as the node library writes it. -/
def freshStateJSON : Bytes :=
  ascii
    "\x7b\"height\":\"0\",\"round\":0,\"step\":0\x7d\n"

/- Bootstrap the state file, where there is none. -/
def initStateFile
    (path : Bytes)
    (writeError : Option Bytes) :
    PathEntry → Except Err PathEntry
| .missing =>
    match writeError with
    | some e =>
        .error
          ⟨"create state file %s: %w",
            [.text path, .library e]⟩
    | none => .ok (.file freshStateJSON)
| .statFails e =>
    .error
      ⟨"stat state file %s: %w", [.text path, .library e]⟩
| .directory =>
    .error
      ⟨"state file path %s is a directory", [.text path]⟩
| _ =>
    .error
      ⟨"state file %s already exists: refusing to " ++
        "overwrite an existing last-sign state",
        [.text path]⟩

/- The last-sign state read from a state file's JSON. -/
def restoreState
    (lib : Comet)
    (stateJSON : Bytes) : Except Err LastSignState :=
  match lib.unmarshalState stateJSON with
  | .error e =>
      .error ⟨"parse state file: %w", [.library e]⟩
  | .ok st =>
      .ok
        { height := st.height
          round := st.round
          step := st.step
          signature := st.signature
          signBytes := st.signBytes }

/- Load the key, then the last-sign state if there is one. -/
def loadCometFilePV
    (lib : Comet)
    (keyFilePath : Bytes)
    (keyFile stateFile : PathEntry) :
    Except Err LastSignState :=
  match keyFile.readFile with
  | .error e =>
      .error ⟨"read key file: %w", [.library e.text]⟩
  | .ok keyJSON =>
      match lib.unmarshalKey keyJSON with
      | .error e =>
          .error ⟨"parse key file: %w", [.library e]⟩
      | .ok none =>
          .error
            ⟨"missing priv_key in %s", [.text keyFilePath]⟩
      | .ok (some _) =>
          match stateFile.readFile with
          | .error .notExist => .ok lib.newState
          | .error (.failed e) =>
              .error
                ⟨"read state file: %w", [.library e]⟩
          | .ok stateJSON => restoreState lib stateJSON

/- The start of the signer on its two files. -/
def startPV
    (lib : Comet)
    (keyFilePath stateFilePath : Bytes)
    (keyFile stateFile : PathEntry) :
    Except Err LastSignState := do
  requireStateFile stateFilePath stateFile
  loadCometFilePV lib keyFilePath keyFile stateFile

end Consensus

end BridgeSigner

------------------------------------------------------------
-- The State File Reads Back
------------------------------------------------------------

namespace BridgeSigner

namespace Consensus

variable {lib : Comet}

theorem restoreState_marshalState
    (hRestored : lib.StateRestored)
    {x : Signed}
    (hBytes : x.signBytes ≠ [])
    (hSignature : x.signature ≠ []) :
    restoreState lib (lib.marshalState x.state) =
      .ok x.state := by
  rw [restoreState, hRestored x hBytes hSignature]
  rfl

/- A start needs a state file, and reads the state from it. -/
theorem startPV_ok
    {keyPath statePath : Bytes}
    {keyFile stateFile : PathEntry}
    {st : LastSignState}
    (hStart :
      startPV lib keyPath statePath keyFile stateFile =
        .ok st) :
    ∃ data, stateFile = .file data ∧
      restoreState lib data = .ok st := by
  rw [startPV, except_bind_ok_iff] at hStart
  rcases hStart with ⟨_, hRequire, hLoad⟩
  unfold loadCometFilePV at hLoad
  split at hLoad
  · cases hLoad
  · split at hLoad
    · cases hLoad
    · cases hLoad
    · cases stateFile with
      | file data => exact ⟨data, rfl, hLoad⟩
      | unreadable e => cases hLoad
      | _ => cases hRequire

/- A start on a saved state gives that state. -/
theorem startPV_saved
    (hRestored : lib.StateRestored)
    {x : Signed}
    (hBytes : x.signBytes ≠ [])
    (hSignature : x.signature ≠ [])
    {keyPath statePath : Bytes}
    {keyFile : PathEntry}
    {st : LastSignState}
    (hStart :
      startPV lib keyPath statePath keyFile
          (.file (lib.marshalState x.state)) =
        .ok st) :
    st = x.state := by
  rcases startPV_ok hStart with ⟨data, hData, hRestore⟩
  cases hData
  rw [restoreState_marshalState hRestored hBytes hSignature]
    at hRestore
  exact (Except.ok.inj hRestore).symm

end Consensus

end BridgeSigner
