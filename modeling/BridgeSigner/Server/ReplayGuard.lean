import BridgeSigner.Foundation.Json

/-
  The checkpoint replay guard and its state file
  (server/replay_guard.go).

  The guard keeps the high-water mark of signed checkpoint
  timestamps with the checkpoint and signature made at that
  mark. `writeBytesAtomic` is a list of file operations, any
  of which may fail; the file at the guard's path changes
  at the rename only.

  Key definitions include:
    * `CheckpointReplayGuard`
    * `newCheckpointReplayGuard`
    * `CheckpointReplayGuard.cachedSignature`
    * `CheckpointReplayGuard.recordSignature`
    * `CheckpointReplayGuard.checkAndAdvance`
    * `writeBytesAtomic`

  Main results:
    * `newCheckpointReplayGuard_blob`
    * `CheckpointReplayGuard.checkAndAdvance_cases`
    * `CheckpointReplayGuard.recordSignature_cases`
-/

------------------------------------------------------------
-- Atomic File Replacement
------------------------------------------------------------

namespace BridgeSigner

namespace Server

/- The operations of `writeBytesAtomic`, in order. -/
inductive FileOp where
| mkdirAll
| createTemp
| write
| chmod
| fsync
| close
| rename
| openDir
| fsyncDir
  deriving DecidableEq, Repr

/- The state file and the temporary file beside it. -/
structure Disk where
  file : Option Bytes
  temp : Option Bytes
  deriving DecidableEq, Repr

/- What an operation does when it succeeds. -/
def FileOp.apply
    (b : Bytes)
    (d : Disk) :
    FileOp → Disk
| .createTemp => { d with temp := some [] }
| .write => { d with temp := some b }
| .rename => { file := d.temp, temp := none }
| _ => d

def fileOps : List FileOp :=
  [.mkdirAll, .createTemp, .write, .chmod, .fsync, .close,
    .rename, .openDir, .fsyncDir]

/- Perform operations up to the first that is at fault. -/
def performOps
    (b : Bytes)
    (fault : Option FileOp) :
    List FileOp → Disk → Option FileOp × Disk
| [], d => (none, d)
| op :: ops, d =>
    if fault = some op then
      (some op, d)
    else
      performOps b fault ops (op.apply b d)

/-
  Replace the state file. The deferred removal of the
  temporary file runs on every return.
-/
def writeBytesAtomic
    (b : Bytes)
    (d : Disk)
    (fault : Option FileOp) :
    Option FileOp × Disk :=
  let r := performOps b fault fileOps d
  (r.1, { r.2 with temp := none })

/-
  What a crash leaves when it strikes just before `op`: no
  deferred call runs.
-/
def crashBytesAtomic
    (b : Bytes)
    (d : Disk)
    (op : FileOp) : Disk :=
  (performOps b (some op) fileOps d).2

/- The operations at which the new content is in place. -/
def FileOp.Landed : FileOp → Prop
| .openDir => True
| .fsyncDir => True
| _ => False

instance : DecidablePred FileOp.Landed := fun op => by
  cases op <;> unfold FileOp.Landed <;> infer_instance

/- Whether a persist with this outcome is in place. -/
def Lands : Option FileOp → Prop
| none => True
| some op => op.Landed

instance : DecidablePred Lands := fun fault => by
  cases fault <;> unfold Lands <;> infer_instance

@[simp] theorem writeBytesAtomic_ok
    (b : Bytes)
    (d : Disk) :
    writeBytesAtomic b d none = (none, ⟨some b, none⟩) :=
  rfl

theorem writeBytesAtomic_fault
    (b : Bytes)
    (d : Disk)
    (op : FileOp) :
    writeBytesAtomic b d (some op) =
      (some op,
        ⟨if op.Landed then some b else d.file, none⟩) := by
  cases op <;> rfl

theorem crashBytesAtomic_file
    (b : Bytes)
    (d : Disk)
    (op : FileOp) :
    (crashBytesAtomic b d op).file =
      if op.Landed then some b else d.file := by
  cases op <;> rfl

end Server

end BridgeSigner

------------------------------------------------------------
-- The Guard
------------------------------------------------------------

namespace BridgeSigner

namespace Server

/-
  The guard. `none` is a nil slice; a guard without a state
  path lives in memory only.
-/
structure CheckpointReplayGuard where
  statePath : Bytes
  highWater : UInt64
  loaded : Bool
  signedCheckpoint : Option Bytes
  signedSignature : Option Bytes
  deriving DecidableEq, Repr

/- The content of the state file, before it is written. -/
structure GuardState where
  highWater : UInt64
  checkpoint : Bytes
  signature : Bytes
  deriving DecidableEq, Repr

/- Why `CheckAndAdvance` refused. -/
inductive GuardError where
| rejected (ts highWater : UInt64)
| persist (op : FileOp)
  deriving DecidableEq, Repr

/- A string member, left out when it is empty. -/
def optionalMember
    (name s : Bytes) :
    List (Bytes × Json.Scalar) :=
  if s = [] then [] else [(name, .text s)]

/- The JSON text of the state. -/
def GuardState.marshal
    (st : GuardState) : Bytes :=
  Json.renderFlat
    ((ascii "high_water", .uint st.highWater.toNat) ::
      (optionalMember (ascii "checkpoint") st.checkpoint ++
        optionalMember (ascii "signature") st.signature))

namespace CheckpointReplayGuard

/- What `persistLocked` writes. -/
def guardState
    (g : CheckpointReplayGuard) : GuardState :=
  match g.signedCheckpoint, g.signedSignature with
  | some c, some s =>
      ⟨g.highWater, encodeHex c, encodeHex s⟩
  | _, _ => ⟨g.highWater, [], []⟩

/- The bytes `persistLocked` writes. -/
def blob
    (g : CheckpointReplayGuard) : Bytes :=
  g.guardState.marshal

def persistLocked
    (g : CheckpointReplayGuard)
    (d : Disk)
    (fault : Option FileOp) :
    Option FileOp × Disk :=
  writeBytesAtomic g.blob d fault

/-
  The signature made for exactly this checkpoint at exactly
  this timestamp, if the guard holds it.
-/
def cachedSignature
    (g : CheckpointReplayGuard)
    (ts : UInt64)
    (checkpoint : Bytes) : Option Bytes :=
  if !g.loaded || ts != g.highWater then
    none
  else
    match g.signedCheckpoint, g.signedSignature with
    | some c, some s => if c = checkpoint then some s else none
    | _, _ => none

/- Append to a nil slice: nothing leaves it nil. -/
def appendNil
    (b : Bytes) : Option Bytes :=
  if b = [] then none else some b

/-
  Remember the signature made at `ts`; left alone when the
  mark has moved on meanwhile. `persist` is what
  `persistLocked` comes to for the guard it is called on.
-/
def recordSignatureBy
    (g : CheckpointReplayGuard)
    (ts : UInt64)
    (checkpoint sig : Bytes)
    (d : Disk)
    (persist :
      CheckpointReplayGuard → Option FileOp × Disk) :
    Option FileOp × CheckpointReplayGuard × Disk :=
  if ts ≠ g.highWater then
    (none, g, d)
  else
    let g' := { g with
      signedCheckpoint := appendNil checkpoint
      signedSignature := appendNil sig }
    if g.statePath = [] then
      (none, g', d)
    else
      let r := persist g'
      (r.1, g', r.2)

def recordSignature
    (g : CheckpointReplayGuard)
    (ts : UInt64)
    (checkpoint sig : Bytes)
    (d : Disk)
    (fault : Option FileOp) :
    Option FileOp × CheckpointReplayGuard × Disk :=
  g.recordSignatureBy ts checkpoint sig d
    (fun g' => g'.persistLocked d fault)

/- The guard that `CheckAndAdvance` tries to persist. -/
def advanceTo
    (g : CheckpointReplayGuard)
    (ts : UInt64) : CheckpointReplayGuard :=
  { g with
    highWater := ts
    signedCheckpoint := none
    signedSignature := none }

/-
  Reject a timestamp at or below the mark, else move the mark
  and persist it; a failed persist rolls the memory back.
-/
def checkAndAdvanceBy
    (g : CheckpointReplayGuard)
    (ts : UInt64)
    (d : Disk)
    (persist :
      CheckpointReplayGuard → Option FileOp × Disk) :
    Option GuardError × CheckpointReplayGuard × Disk :=
  if g.loaded && ts ≤ g.highWater then
    (some (.rejected ts g.highWater), g, d)
  else if g.statePath = [] then
    (none, g.advanceTo ts, d)
  else
    match persist (g.advanceTo ts) with
    | (some op, d') => (some (.persist op), g, d')
    | (none, d') => (none, g.advanceTo ts, d')

def checkAndAdvance
    (g : CheckpointReplayGuard)
    (ts : UInt64)
    (d : Disk)
    (fault : Option FileOp) :
    Option GuardError × CheckpointReplayGuard × Disk :=
  g.checkAndAdvanceBy ts d
    (fun g' => g'.persistLocked d fault)

end CheckpointReplayGuard

end Server

end BridgeSigner

------------------------------------------------------------
-- Loading The State File
------------------------------------------------------------

namespace BridgeSigner

namespace Server

/- What reading the state file can give. -/
inductive ReadResult where
| content (data : Bytes)
| notExist
| failed
  deriving DecidableEq, Repr

/- Why the guard could not be built. -/
inductive LoadError where
| read
| parseJson
| parseUint
| hexText (field : String)
| length (field : String) (want got : Nat)
  deriving DecidableEq, Repr

/-
  Case folding of a member name, as far as an ASCII name can
  be met by it: the Kelvin sign and the long s fold to ASCII.
-/
def foldName : Bytes → Bytes
| [] => []
| 0xE2 :: 0x84 :: 0xAA :: rest => 75 :: foldName rest
| 0xC5 :: 0xBF :: rest => 83 :: foldName rest
| c :: rest =>
    (if 97 ≤ c && c ≤ 122 then c - 32 else c) ::
      foldName rest

/- Store one string member; null stores nothing. -/
def setText
    (set : Bytes → GuardState)
    (st : GuardState) :
    Json.Value → Option GuardState
| .null => some st
| .string s => some (set s)
| _ => none

/- Store one member of the object into the state. -/
def GuardState.setMember
    (st : GuardState)
    (m : Bytes × Json.Value) : Option GuardState :=
  let name := foldName m.1
  if name = foldName (ascii "high_water") then
    match m.2 with
    | .null => some st
    | .number literal =>
        (parseUint64 literal).map
          (fun v => { st with highWater := v })
    | _ => none
  else if name = foldName (ascii "checkpoint") then
    setText (fun s => { st with checkpoint := s }) st m.2
  else if name = foldName (ascii "signature") then
    setText (fun s => { st with signature := s }) st m.2
  else
    some st

/- Store members one after the other. -/
def GuardState.setMembers :
    GuardState → List (Bytes × Json.Value) →
      Option GuardState
| st, [] => some st
| st, m :: ms =>
    match st.setMember m with
    | none => none
    | some st' => setMembers st' ms

/- `json.Unmarshal` into a zero state. -/
def GuardState.unmarshal
    (raw : Bytes) : Option GuardState :=
  match Json.parse raw with
  | some (.object ms) => GuardState.setMembers ⟨0, [], []⟩ ms
  | some .null => some ⟨0, [], []⟩
  | _ => none

/- Decode hexadecimal text of `want` bytes; "" is absent. -/
def decodeOptionalHex
    (s : Bytes)
    (want : Nat)
    (field : String) :
    Except LoadError (Option Bytes) :=
  if s = [] then
    .ok none
  else
    match decodeHex s with
    | none => .error (.hexText field)
    | some b =>
        if b.length ≠ want then
          .error (.length field want b.length)
        else
          .ok (some b)

/- A guard without a memo. -/
def bareGuard
    (statePath : Bytes)
    (highWater : UInt64) : CheckpointReplayGuard :=
  ⟨statePath, highWater, true, none, none⟩

/- The guard built from a decoded state. -/
def guardOfState
    (statePath : Bytes)
    (st : GuardState) :
    Except LoadError CheckpointReplayGuard :=
  match decodeOptionalHex st.checkpoint 32 "checkpoint" with
  | .error e => .error e
  | .ok ckpt =>
      match decodeOptionalHex st.signature 64 "signature" with
      | .error e => .error e
      | .ok sig =>
          match ckpt, sig with
          | some c, some s =>
              .ok ⟨statePath, st.highWater, true, some c,
                some s⟩
          | _, _ => .ok (bareGuard statePath st.highWater)

/- Build the guard from what its state file holds. -/
def newCheckpointReplayGuard
    (statePath : Bytes)
    (file : ReadResult) :
    Except LoadError CheckpointReplayGuard :=
  if statePath = [] then
    .ok (bareGuard statePath 0)
  else
    match file with
    | .notExist => .ok (bareGuard statePath 0)
    | .failed => .error .read
    | .content data =>
        let raw := trimSpace data
        if [123].isPrefixOf raw then
          match GuardState.unmarshal raw with
          | none => .error .parseJson
          | some st => guardOfState statePath st
        else
          match parseUint64 raw with
          | none => .error .parseUint
          | some v => .ok (bareGuard statePath v)

theorem guardOfState_loaded
    {statePath : Bytes}
    {st : GuardState}
    {g : CheckpointReplayGuard}
    (h : guardOfState statePath st = .ok g) :
    g.loaded = true := by
  unfold guardOfState at h
  split at h
  · cases h
  · split at h
    · cases h
    · split at h
      · cases h
        rfl
      · cases h
        rfl

/- A new guard is loaded, whatever its file holds. -/
theorem newCheckpointReplayGuard_loaded
    {statePath : Bytes}
    {file : ReadResult}
    {g : CheckpointReplayGuard}
    (h : newCheckpointReplayGuard statePath file = .ok g) :
    g.loaded = true := by
  unfold newCheckpointReplayGuard at h
  split at h
  · cases h
    rfl
  · split at h
    · cases h
      rfl
    · cases h
    · simp only at h
      split at h
      · split at h
        · cases h
        · exact guardOfState_loaded h
      · split at h
        · cases h
        · cases h
          rfl

/- Read the state file of a disk that works. -/
def Disk.read
    (d : Disk) : ReadResult :=
  match d.file with
  | none => .notExist
  | some data => .content data

end Server

end BridgeSigner

------------------------------------------------------------
-- The State File Reads Back
------------------------------------------------------------

namespace BridgeSigner

namespace Server

/- The memo of a guard: checkpoint and signature together. -/
def CheckpointReplayGuard.memo
    (g : CheckpointReplayGuard) :
    Option (Bytes × Bytes) :=
  match g.signedCheckpoint, g.signedSignature with
  | some c, some s => some (c, s)
  | _, _ => none

/-
  A guard as the server keeps it: loaded, with a state path,
  and with a whole memo of the right lengths or none at all.
-/
structure CheckpointReplayGuard.WellFormed
    (g : CheckpointReplayGuard) : Prop where
  loaded : g.loaded = true
  path : g.statePath ≠ []
  memo :
    (g.signedCheckpoint = none ∧
        g.signedSignature = none) ∨
      ∃ c s, g.signedCheckpoint = some c ∧
        g.signedSignature = some s ∧
        c.length = 32 ∧ s.length = 64

theorem decodeOptionalHex_encodeHex
    {b : Bytes}
    {want : Nat}
    (hWant : b.length = want)
    (hPos : 0 < want)
    (field : String) :
    decodeOptionalHex (encodeHex b) want field =
      .ok (some b) := by
  have hNe : encodeHex b ≠ [] := by
    rw [ne_eq, encodeHex_eq_nil_iff]
    intro hNil
    rw [hNil] at hWant
    simp at hWant
    omega
  simp [decodeOptionalHex, hNe, decodeHex_encodeHex, hWant]

/- The members of the written object, as they parse. -/
theorem GuardState.parse_marshal
    {st : GuardState}
    (hCheckpoint : Json.Plain st.checkpoint)
    (hSignature : Json.Plain st.signature) :
    Json.parse st.marshal =
      some (.object
        (((ascii "high_water",
              Json.Scalar.uint st.highWater.toNat) ::
            (optionalMember (ascii "checkpoint")
                st.checkpoint ++
              optionalMember (ascii "signature")
                st.signature)).map
          (fun m => (m.1, m.2.value)))) := by
  apply Json.parse_renderFlat (by simp)
  intro m hm
  have hNames :
      Json.Plain (ascii "high_water") ∧
        Json.Plain (ascii "checkpoint") ∧
          Json.Plain (ascii "signature") := by
    decide
  simp only [optionalMember, List.mem_cons,
    List.mem_append] at hm
  rcases hm with rfl | hm | hm
  · exact ⟨hNames.1, trivial⟩
  · split at hm
    · cases hm
    · rw [List.mem_singleton] at hm
      subst hm
      exact ⟨hNames.2.1, hCheckpoint⟩
  · split at hm
    · cases hm
    · rw [List.mem_singleton] at hm
      subst hm
      exact ⟨hNames.2.2, hSignature⟩

/- What was marshalled from hexadecimal text reads back. -/
theorem GuardState.unmarshal_marshal
    {st : GuardState}
    (hCheckpoint : Json.Plain st.checkpoint)
    (hSignature : Json.Plain st.signature) :
    GuardState.unmarshal st.marshal = some st := by
  rcases st with ⟨highWater, checkpoint, signature⟩
  have hSet1 :
      ∀ st : GuardState,
        st.setMember
            (ascii "high_water",
              (Json.Scalar.uint highWater.toNat).value) =
          some { st with highWater := highWater } := by
    intro st
    simp [GuardState.setMember, Json.Scalar.value,
      parseUint64_formatUint]
  have hSet2 :
      ∀ (st : GuardState) (s : Bytes),
        st.setMember
            (ascii "checkpoint",
              (Json.Scalar.text s).value) =
          some { st with checkpoint := s } := by
    intro st s
    have hOther :
        foldName (ascii "checkpoint") ≠
          foldName (ascii "high_water") := by
      decide
    simp [GuardState.setMember, Json.Scalar.value, hOther,
      setText]
  have hSet3 :
      ∀ (st : GuardState) (s : Bytes),
        st.setMember
            (ascii "signature",
              (Json.Scalar.text s).value) =
          some { st with signature := s } := by
    intro st s
    have hOther :
        foldName (ascii "signature") ≠
            foldName (ascii "high_water") ∧
          foldName (ascii "signature") ≠
            foldName (ascii "checkpoint") := by
      decide
    simp [GuardState.setMember, Json.Scalar.value, hOther,
      setText]
  rw [GuardState.unmarshal,
    GuardState.parse_marshal hCheckpoint hSignature]
  simp only [optionalMember]
  by_cases hc : checkpoint = [] <;>
    by_cases hs : signature = [] <;>
    simp [hc, hs, GuardState.setMembers, hSet1, hSet2,
      hSet3]

theorem GuardState.marshal_braces
    (st : GuardState) :
    ∃ s, st.marshal = 123 :: (s ++ [125]) :=
  ⟨_, rfl⟩

/- Loading what the guard wrote gives the guard back. -/
theorem newCheckpointReplayGuard_blob
    {g : CheckpointReplayGuard}
    (hg : g.WellFormed) :
    newCheckpointReplayGuard g.statePath
        (.content g.blob) =
      .ok g := by
  have hPlain :
      Json.Plain g.guardState.checkpoint ∧
        Json.Plain g.guardState.signature := by
    rcases hg.memo with ⟨hc, hs⟩ | ⟨c, s, hc, hs, -, -⟩
    · simp [CheckpointReplayGuard.guardState, hc, hs,
        Json.Plain]
    · simp only [CheckpointReplayGuard.guardState, hc, hs]
      exact ⟨fun _ h => encodeHex_plain h,
        fun _ h => encodeHex_plain h⟩
  rcases g.guardState.marshal_braces with ⟨s, hBraces⟩
  have hTrim : trimSpace g.blob = g.blob := by
    rw [CheckpointReplayGuard.blob, hBraces,
      trimSpace_braces]
  have hOpen : [123].isPrefixOf g.blob = true := by
    rw [CheckpointReplayGuard.blob, hBraces]
    rfl
  rw [newCheckpointReplayGuard, if_neg hg.path]
  simp only [hTrim, hOpen, if_true]
  rw [CheckpointReplayGuard.blob,
    GuardState.unmarshal_marshal hPlain.1 hPlain.2]
  rcases g with ⟨path, highWater, loaded, ckpt, sig⟩
  have hLoaded : loaded = true := hg.loaded
  subst hLoaded
  rcases hg.memo with
    ⟨hc, hs⟩ | ⟨c, s, hc, hs, hcLength, hsLength⟩
  · cases hc
    cases hs
    rfl
  · cases hc
    cases hs
    simp [CheckpointReplayGuard.guardState, guardOfState,
      decodeOptionalHex_encodeHex hcLength,
      decodeOptionalHex_encodeHex hsLength]

end Server

end BridgeSigner

------------------------------------------------------------
-- What The Operations Do
------------------------------------------------------------

namespace BridgeSigner

namespace Server

namespace CheckpointReplayGuard

/- The file after a persist of `g`, by its outcome. -/
def persistedFile
    (g : CheckpointReplayGuard)
    (d : Disk)
    (fault : Option FileOp) : Option Bytes :=
  if Lands fault then some g.blob else d.file

theorem persistLocked_eq
    (g : CheckpointReplayGuard)
    (d : Disk)
    (fault : Option FileOp) :
    g.persistLocked d fault =
      (fault, ⟨g.persistedFile d fault, none⟩) := by
  cases fault with
  | none => rfl
  | some op => exact writeBytesAtomic_fault g.blob d op

variable {g : CheckpointReplayGuard}

theorem WellFormed.advanceTo
    (hg : g.WellFormed)
    (ts : UInt64) :
    (g.advanceTo ts).WellFormed where
  loaded := hg.loaded
  path := hg.path
  memo := Or.inl ⟨rfl, rfl⟩

/-
  A timestamp at or below the mark is rejected and nothing
  changes; a higher one is persisted, and stays in memory
  exactly when the persist succeeded.
-/
theorem checkAndAdvance_cases
    (hg : g.WellFormed)
    (ts : UInt64)
    (d : Disk)
    (fault : Option FileOp) :
    (ts ≤ g.highWater ∧
        g.checkAndAdvance ts d fault =
          (some (.rejected ts g.highWater), g, d)) ∨
      (g.highWater < ts ∧ fault = none ∧
        g.checkAndAdvance ts d fault =
          (none, g.advanceTo ts,
            ⟨some (g.advanceTo ts).blob, none⟩)) ∨
      ∃ op, g.highWater < ts ∧ fault = some op ∧
        g.checkAndAdvance ts d fault =
          (some (.persist op), g,
            ⟨(g.advanceTo ts).persistedFile d (some op),
              none⟩) := by
  by_cases hTs : ts ≤ g.highWater
  · left
    exact ⟨hTs, by simp [checkAndAdvance,
      checkAndAdvanceBy, hg.loaded, hTs]⟩
  · right
    have hLt : g.highWater < ts := UInt64.not_le.mp hTs
    cases fault with
    | none =>
        left
        refine ⟨hLt, rfl, ?_⟩
        simp [checkAndAdvance, checkAndAdvanceBy, hTs, hg.path,
          persistLocked_eq, persistedFile, Lands]
    | some op =>
        right
        refine ⟨op, hLt, rfl, ?_⟩
        simp [checkAndAdvance, checkAndAdvanceBy, hTs, hg.path,
          persistLocked_eq]

/- The guard after a signature was recorded. -/
def withMemo
    (g : CheckpointReplayGuard)
    (c s : Bytes) : CheckpointReplayGuard :=
  { g with
    signedCheckpoint := some c
    signedSignature := some s }

theorem WellFormed.withMemo
    (hg : g.WellFormed)
    {c s : Bytes}
    (hc : c.length = 32)
    (hs : s.length = 64) :
    (g.withMemo c s).WellFormed where
  loaded := hg.loaded
  path := hg.path
  memo := Or.inr ⟨c, s, rfl, rfl, hc, hs⟩

/-
  A record for another mark changes nothing; a record for the
  current one is kept in memory whatever the persist does.
-/
theorem recordSignature_cases
    (hg : g.WellFormed)
    (ts : UInt64)
    {c s : Bytes}
    (hc : c.length = 32)
    (hs : s.length = 64)
    (d : Disk)
    (fault : Option FileOp) :
    (ts ≠ g.highWater ∧
        g.recordSignature ts c s d fault = (none, g, d)) ∨
      (ts = g.highWater ∧
        g.recordSignature ts c s d fault =
          (fault, g.withMemo c s,
            ⟨(g.withMemo c s).persistedFile d fault,
              none⟩)) := by
  have hCopy : appendNil c = some c := by
    rw [appendNil, if_neg (List.ne_nil_of_length_pos ?_)]
    omega
  have hCopy' : appendNil s = some s := by
    rw [appendNil, if_neg (List.ne_nil_of_length_pos ?_)]
    omega
  by_cases hTs : ts = g.highWater
  · right
    refine ⟨hTs, ?_⟩
    simp [recordSignature, recordSignatureBy, hTs, hg.path,
      persistLocked_eq,
      withMemo, hCopy, hCopy']
  · left
    exact ⟨hTs, by simp [recordSignature,
      recordSignatureBy, hTs]⟩

/- A cached signature is the memo at the mark. -/
theorem cachedSignature_eq_some
    (hg : g.WellFormed)
    (ts : UInt64)
    (c s : Bytes) :
    g.cachedSignature ts c = some s ↔
      ts = g.highWater ∧ g.memo = some (c, s) := by
  rcases hg.memo with
    ⟨hc, hs⟩ | ⟨c', s', hc, hs, -, -⟩
  · simp [cachedSignature, memo, hc, hs]
  · by_cases hTs : ts = g.highWater
    · simp [cachedSignature, memo, hg.loaded, hc, hs, hTs]
    · simp [cachedSignature, memo, hTs]

end CheckpointReplayGuard

end Server

end BridgeSigner
