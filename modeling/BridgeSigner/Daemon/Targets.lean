import BridgeSigner.Daemon.StateFiles

/-
  Where the daemon dials (config/config.go,
  cmd/bridge-signer/cmd_start.go).

  The targets are one text, with commas between them. The
  configuration is checked on the text; the dial loops are
  started for the pieces of the text that are not blank.

  Key definitions include:
    * `ConsensusConfig.targetList`
    * `Config.dialClients`

  Main results:
    * `ConsensusConfig.targetList_eq`
    * `Config.dials_somewhere_iff`
-/

------------------------------------------------------------
-- The Target List
------------------------------------------------------------

namespace BridgeSigner

/- Append the trimmed pieces that are not empty. -/
def ConsensusConfig.collectTargets :
    List Bytes → List Bytes → List Bytes
| targets, [] => targets
| targets, raw :: rest =>
    let target := trimSpace raw
    if target = [] then
      collectTargets targets rest
    else
      collectTargets (targets ++ [target]) rest

def ConsensusConfig.targetList
    (c : ConsensusConfig) : List Bytes :=
  collectTargets [] (c.targets.splitOn 44)

/- The targets that `runDaemon` starts a dial loop for. -/
def Config.dialClients
    (c : Config) : List Bytes :=
  if c.consensus.enabled then
    c.consensus.targetList
  else
    []

/- The pieces between commas that are not blank, trimmed. -/
def trimmedPieces
    (s : Bytes) : List Bytes :=
  ((s.splitOn 44).map trimSpace).filter
    (fun piece => piece ≠ [])

theorem ConsensusConfig.collectTargets_eq
    (targets pieces : List Bytes) :
    collectTargets targets pieces =
      targets ++
        (pieces.map trimSpace).filter
          (fun piece => piece ≠ []) := by
  induction pieces generalizing targets with
  | nil => simp [collectTargets]
  | cons raw pieces ih =>
      by_cases hBlank : trimSpace raw = []
      · simp [collectTargets, hBlank, ih]
      · simp [collectTargets, hBlank, ih]

/- The list has the pieces that are not blank, in order. -/
theorem ConsensusConfig.targetList_eq
    (c : ConsensusConfig) :
    c.targetList = trimmedPieces c.targets := by
  rw [targetList, collectTargets_eq, List.nil_append,
    trimmedPieces]

theorem trimmedPieces_ne_nil_iff
    (s : Bytes) :
    trimmedPieces s ≠ [] ↔
      ∃ piece ∈ s.splitOn 44, trimSpace piece ≠ [] := by
  simp [trimmedPieces]

end BridgeSigner

------------------------------------------------------------
-- Accepted Configurations
------------------------------------------------------------

namespace BridgeSigner

/- The targets have a piece to dial, or take the default. -/
def ConsensusConfig.NamesTarget
    (c : ConsensusConfig) : Prop :=
  c.targets = [] ∨
    ∃ piece ∈ c.targets.splitOn 44, trimSpace piece ≠ []

/- The default names two targets. -/
theorem trimmedPieces_default :
    trimmedPieces
        (ascii
          "tcp://layer:26659,tcp://layer-backup:26659") =
      [ascii "tcp://layer:26659",
        ascii "tcp://layer-backup:26659"] := by
  decide +kernel

/- Defaults replace a text of targets that is empty. -/
theorem ConsensusConfig.applyDefaults_names_iff
    (c : ConsensusConfig)
    (hEnabled : c.enabled = true) :
    trimmedPieces c.applyDefaults.targets ≠ [] ↔
      c.NamesTarget := by
  rw [applyDefaults, if_pos hEnabled, NamesTarget]
  by_cases hEmpty : c.targets = []
  · simp only [Config.orDefault, hEmpty, if_true,
      trimmedPieces_default]
    simp
  · simp only [Config.orDefault, hEmpty, if_false,
      false_or]
    exact trimmedPieces_ne_nil_iff c.targets

theorem ConsensusConfig.enabled_applyDefaults
    (c : ConsensusConfig) :
    c.applyDefaults.enabled = c.enabled := by
  unfold applyDefaults
  split
  · rfl
  · rfl

/-
  An accepted configuration with consensus signing dials
  somewhere exactly if its targets are not all blank.
-/
theorem Config.dials_somewhere_iff
    (host : Config.Host)
    (raw cfg : Config)
    (hLoad : Config.load host raw = .ok cfg)
    (hKey : raw.consensus.keyFile ≠ []) :
    cfg.consensus.targetList ≠ [] ∧
        cfg.consensus.targetList =
          trimmedPieces cfg.consensus.targets ∧
        cfg.dialClients ≠ [] ↔
      raw.consensus.NamesTarget := by
  rcases except_bind_ok_iff.mp hLoad with ⟨_, -, hDone⟩
  cases hDone
  have hEnabled : raw.consensus.enabled = true := by
    simp [ConsensusConfig.enabled, hKey]
  have hLater :
      raw.applyDefaults.consensus.enabled = true :=
    (raw.consensus.enabled_applyDefaults).trans hEnabled
  have hNames :=
    raw.consensus.applyDefaults_names_iff hEnabled
  rw [Config.dialClients, if_pos hLater,
    ConsensusConfig.targetList_eq]
  constructor
  · rintro ⟨hSome, -, -⟩
    exact hNames.mp hSome
  · intro hTarget
    have hSome := hNames.mpr hTarget
    exact ⟨hSome, rfl, hSome⟩

/- The targets of the sample configuration are dialled. -/
theorem Config.dials_two_nodes :
    let raw := Daemon.sampleRaw (ascii "/state/pv.json")
    let cfg := raw.applyDefaults
    cfg.consensus.targetList ≠ [] ∧
        cfg.consensus.targetList =
          trimmedPieces cfg.consensus.targets ∧
        cfg.dialClients ≠ [] ↔
      raw.consensus.NamesTarget :=
  Config.dials_somewhere_iff Daemon.sampleHost
    (Daemon.sampleRaw (ascii "/state/pv.json")) _ (by rfl)
    (by decide +kernel)

/- Consensus signing with a comma for its targets. -/
def Config.commaRaw : Config :=
  let raw := Daemon.sampleRaw (ascii "/state/pv.json")
  { raw with
    consensus :=
      { raw.consensus with targets := ascii " , " } }

/- It is accepted, and no dial loop is started. -/
theorem Config.comma_dials_nowhere :
    Config.load Daemon.sampleHost commaRaw =
        .ok commaRaw.applyDefaults ∧
      commaRaw.consensus.keyFile ≠ [] ∧
      commaRaw.applyDefaults.consensus.targets ≠ [] ∧
      commaRaw.applyDefaults.consensus.targetList = [] ∧
      commaRaw.applyDefaults.dialClients = [] := by
  refine ⟨by rfl, ?_, ?_, ?_, ?_⟩ <;> decide +kernel

end BridgeSigner
