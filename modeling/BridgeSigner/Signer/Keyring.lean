import Mathlib.Data.List.DropRight
import BridgeSigner.Foundation.LineReader
import BridgeSigner.Foundation.Gates
import BridgeSigner.Foundation.Text
import BridgeSigner.Consensus.Messages

/-
  The source of the keyring's passphrase, and the private key
  of a record (signer/keyring.go).

  A password file is read once and then served as a line over
  and over: the keyring asks for the passphrase as often as
  it needs it, and each prompt reads a line through a buffer
  that may be its own.

  Key definitions include:
    * `buildFilePasswordReader`
    * `RepeatingReader.read`
    * `extractSecpPrivKeyBytes`

  Main results:
    * `RepeatingReader.serves`
    * `every_prompt_gets_password_iff`
-/

------------------------------------------------------------
-- The Reader
------------------------------------------------------------

namespace BridgeSigner

namespace Signer

open Consensus (Err)

/- The line and how much of it has been read. -/
structure RepeatingReader where
  line : Bytes
  off : Nat
  deriving DecidableEq, Repr

namespace RepeatingReader

/- `Read` into a buffer of `n` bytes. -/
def read
    (r : RepeatingReader)
    (n : Nat) : Bytes × RepeatingReader :=
  let off := if r.line.length ≤ r.off then 0 else r.off
  let chunk := (r.line.drop off).take n
  (chunk, { r with off := off + chunk.length })

def source : Source RepeatingReader where
  read := read

end RepeatingReader

def newline : UInt8 := 10

/- `bytes.TrimRight` of carriage returns and newlines. -/
def trimLineEnds
    (data : Bytes) : Bytes :=
  data.rdropWhile [13, newline].contains

/-
  What the system says about a password file: its permission
  bits, its content, and whether stdin is a terminal.
-/
structure PasswordHost where
  stat : Bytes → Fallible UInt32
  readFile : Bytes → Fallible Bytes
  stdinIsTerminal : Bool

/- Where the passphrase comes from. -/
inductive PasswordReader where
| stdin
| file (r : RepeatingReader)
  deriving DecidableEq, Repr

def buildFilePasswordReader
    (host : PasswordHost)
    (path : Bytes) : Except Err RepeatingReader := do
  let perm ← (host.stat path).mapError
    (fun e =>
      ⟨"stat password file %q: %w",
        [.text path, .library e]⟩)
  ensure (perm &&& 0o077 = 0)
    ⟨"password file %q has permissions %04o; expected 0600",
      [.text path, .num perm.toNat]⟩
  let data ← (host.readFile path).mapError
    (fun e =>
      ⟨"read password file %q: %w",
        [.text path, .library e]⟩)
  ensure (trimLineEnds data ≠ [])
    ⟨"password file %q is empty", [.text path]⟩
  .ok ⟨trimLineEnds data ++ [newline], 0⟩

def buildPasswordReader
    (host : PasswordHost)
    (passwordFile : Bytes) : Except Err PasswordReader :=
  if passwordFile ≠ [] then
    (buildFilePasswordReader host passwordFile).map .file
  else do
    ensure (host.stdinIsTerminal = true)
      ⟨"stdin is not a terminal; " ++
        "set the password file option", []⟩
    .ok .stdin

end Signer

end BridgeSigner

------------------------------------------------------------
-- The Private Key Of A Record
------------------------------------------------------------

namespace BridgeSigner

namespace Signer

open Consensus (Err)

/- A private key, unpacked: its bytes or its other type. -/
inductive PrivKey where
| secp256k1 (key : Bytes)
| other (typeName : Bytes)
  deriving DecidableEq, Repr

/- A record; `localKey` is none for other kinds of keys. -/
structure Record where
  name : Bytes
  localKey : Option (Fallible PrivKey)

def secp256k1KeyLen : Nat := 32

def extractSecpPrivKeyBytes :
    Option Record → Except Err Bytes
| none => .error ⟨"nil keyring record", []⟩
| some record =>
    match record.localKey with
    | none =>
        .error
          ⟨"key %q is not a local key (ledger and " ++
            "multisig keys not supported)",
            [.text record.name]⟩
    | some (.error e) =>
        .error
          ⟨"unpack private key for %q: %w",
            [.text record.name, .library e]⟩
    | some (.ok (.other typeName)) =>
        .error
          ⟨"key %q is %T, want *secp256k1.PrivKey",
            [.text record.name, .text typeName]⟩
    | some (.ok (.secp256k1 key)) => do
        ensure (key.length = secp256k1KeyLen)
          ⟨"key %q has length %d, want %d",
            [.text record.name, .num key.length,
              .num secp256k1KeyLen]⟩
        .ok key

theorem length_of_extract
    {record : Option Record}
    {key : Bytes}
    (hKey : extractSecpPrivKeyBytes record = .ok key) :
    key.length = 32 := by
  unfold extractSecpPrivKeyBytes at hKey
  split at hKey
  · cases hKey
  · split at hKey
    · cases hKey
    · cases hKey
    · cases hKey
    · simp only [except_bind_ok_iff, ensure_ok_iff] at hKey
      rcases hKey with ⟨-, hLength, hSame⟩
      cases hSame
      exact hLength

end Signer

end BridgeSigner

------------------------------------------------------------
-- Every Prompt
------------------------------------------------------------

namespace BridgeSigner

namespace Signer

open Consensus (Err)

/- What is left of the line; a line that is over is whole. -/
def RepeatingReader.Left
    (line : Bytes)
    (r : RepeatingReader)
    (w : Bytes) : Prop :=
  r.line = line ∧
    (r.line.drop r.off = w ∨
      r.line.length ≤ r.off ∧ w = line)

theorem RepeatingReader.serves
    (line : Bytes) :
    RepeatingReader.source.Serves line
      (RepeatingReader.Left line) := by
  constructor
  · rintro r w n ⟨rfl, hLeft⟩ hw
    have hRest :
        r.line.drop
            (if r.line.length ≤ r.off then 0 else r.off) =
          w := by
      rcases hLeft with hLeft | ⟨hOver, rfl⟩
      · have hInside : ¬r.line.length ≤ r.off := by
          intro hOver
          rw [List.drop_eq_nil_of_le hOver] at hLeft
          exact hw hLeft.symm
        rw [if_neg hInside, hLeft]
      · rw [if_pos hOver, List.drop_zero]
    refine ⟨?_, ?_⟩
    · simp only [source, read, hRest]
    · refine ⟨rfl, Or.inl ?_⟩
      simp only [source, read, hRest]
      rw [← List.drop_drop, hRest, List.length_take]
      by_cases hLong : n ≤ w.length
      · rw [Nat.min_eq_left hLong]
      · rw [Nat.min_eq_right (by omega), List.drop_length,
          List.drop_eq_nil_of_le (by omega)]
  · rintro r ⟨hLine, hLeft⟩
    refine ⟨hLine, Or.inr ⟨?_, rfl⟩⟩
    rcases hLeft with hNil | ⟨hOver, -⟩
    · exact List.drop_eq_nil_iff.mp hNil
    · exact hOver

theorem buildFilePasswordReader_ok_iff
    {host : PasswordHost}
    {path : Bytes}
    {r : RepeatingReader} :
    buildFilePasswordReader host path = .ok r ↔
      ∃ perm data,
        host.stat path = .ok perm ∧ perm &&& 0o077 = 0 ∧
          host.readFile path = .ok data ∧
          trimLineEnds data ≠ [] ∧
          r = ⟨trimLineEnds data ++ [newline], 0⟩ := by
  simp only [buildFilePasswordReader, except_bind_ok_iff,
    mapError_ok_iff, ensure_ok_iff]
  constructor
  · rintro ⟨perm, hStat, -, hPerm, data, hRead, -, hSome, h⟩
    cases h
    exact ⟨perm, data, hStat, hPerm, hRead, hSome, rfl⟩
  · rintro ⟨perm, data, hStat, hPerm, hRead, hSome, rfl⟩
    exact
      ⟨perm, hStat, (), hPerm, data, hRead, (), hSome, rfl⟩

/- A prompt with room for the whole line stops at its end. -/
theorem session_of_room
    {line : Bytes}
    (hMem : newline ∈ line) :
    LineReader.session RepeatingReader.source newline
        ⟨line, 0⟩ [] [⟨true, [line.length]⟩] =
      some
        [line.takeWhile (· != newline) ++ [newline]] := by
  have hRead :
      RepeatingReader.source.read ⟨line, 0⟩ line.length =
        (line, ⟨line, line.length⟩) := by
    simp [RepeatingReader.source, RepeatingReader.read]
  rw [LineReader.session, if_pos rfl, LineReader.readLine,
    if_neg List.not_mem_nil, hRead, List.nil_append,
    LineReader.readLine, if_pos hMem]
  rfl

/-
  The passphrase is what the file has without its line ends.
  Every prompt gets it, whatever the sizes of the buffers and
  whoever starts with a new one, exactly if the file has one
  line.
-/
theorem every_prompt_gets_password_iff
    (host : PasswordHost)
    (path : Bytes)
    (r : RepeatingReader)
    (hOpen : buildFilePasswordReader host path = .ok r)
    (data : Bytes)
    (hData : host.readFile path = .ok data) :
    ((∀ prompts lines,
        LineReader.session RepeatingReader.source newline r
            [] prompts =
          some lines →
        lines =
          List.replicate prompts.length
            (trimLineEnds data ++ [newline])) ∧
      ∀ prompts : List LineReader.Prompt,
        (∀ p ∈ prompts,
          (∀ n ∈ p.sizes, 0 < n) ∧
            (trimLineEnds data).length + 1 ≤
              p.sizes.length) →
        (LineReader.session RepeatingReader.source newline r
          [] prompts).isSome = true) ↔
      newline ∉ trimLineEnds data := by
  rcases buildFilePasswordReader_ok_iff.mp hOpen with
    ⟨perm, data', -, -, hRead, -, rfl⟩
  rw [hData] at hRead
  cases hRead
  have hServes :=
    RepeatingReader.serves (trimLineEnds data ++ [newline])
  have hLeft :
      RepeatingReader.Left (trimLineEnds data ++ [newline])
        ⟨trimLineEnds data ++ [newline], 0⟩
        (trimLineEnds data ++ [newline]) :=
    ⟨rfl, Or.inl rfl⟩
  constructor
  · rintro ⟨hAll, -⟩
    have hOne := hAll _ _
      (session_of_room
        (List.mem_append_right (trimLineEnds data)
          List.mem_cons_self))
    have hLine :
        (trimLineEnds data ++ [newline]).takeWhile
              (· != newline) ++ [newline] =
          trimLineEnds data ++ [newline] := by
      simpa using hOne
    rw [← List.append_cancel_right hLine]
    intro hMem
    have hNot := List.mem_takeWhile_imp hMem
    simp at hNot
  · intro hOneLine
    refine ⟨?_, ?_⟩
    · intro prompts lines hSession
      exact LineReader.session_served hServes hOneLine hLeft
        hSession
    · intro prompts hReads
      exact LineReader.session_returns hServes hOneLine
        hReads hLeft

/- A file that an editor of another system has saved. -/
def sampleHost : PasswordHost where
  stat := fun _ => .ok 0o600
  readFile := fun _ => .ok (ascii "secret\r\n")
  stdinIsTerminal := false

theorem sample_prompts_get_password :
    buildFilePasswordReader sampleHost (ascii "pw") =
        .ok ⟨ascii "secret\n", 0⟩ ∧
      LineReader.session RepeatingReader.source newline
          ⟨ascii "secret\n", 0⟩ []
          [⟨true, [3, 3, 3, 3, 3, 3, 3]⟩,
            ⟨false, [4096, 1, 1, 1, 1, 1, 1]⟩] =
        some [ascii "secret\n", ascii "secret\n"] := by
  have hOpen :
      buildFilePasswordReader sampleHost (ascii "pw") =
        .ok ⟨ascii "secret\n", 0⟩ := by
    decide +kernel
  have hTrim :
      trimLineEnds (ascii "secret\r\n") = ascii "secret" := by
    decide +kernel
  have hOneLine :
      newline ∉ trimLineEnds (ascii "secret\r\n") := by
    rw [hTrim]
    decide +kernel
  have hAll :=
    (every_prompt_gets_password_iff sampleHost (ascii "pw")
      ⟨ascii "secret\n", 0⟩ hOpen (ascii "secret\r\n")
      rfl).mpr hOneLine
  refine ⟨hOpen, ?_⟩
  rcases Option.isSome_iff_exists.mp
      (hAll.2
        [⟨true, [3, 3, 3, 3, 3, 3, 3]⟩,
          ⟨false, [4096, 1, 1, 1, 1, 1, 1]⟩]
        (by rw [hTrim]; decide +kernel)) with
    ⟨lines, hLines⟩
  rw [hLines, hAll.1 _ _ hLines, hTrim]
  rfl

end Signer

end BridgeSigner
