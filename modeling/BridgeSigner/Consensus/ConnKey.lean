import BridgeSigner.Foundation.Base64
import BridgeSigner.Foundation.Execution
import BridgeSigner.Foundation.JsonTorn
import BridgeSigner.Consensus.StateFile

/-
  The key of the connections to the nodes
  (consensus/connkey.go).

  The daemon makes a key when there is no file, and writes it
  with a plain `os.WriteFile`; later starts load it. A start
  may be cut off anywhere in the write. The file is then torn
  and no later start takes a key from it, so a node never
  sees the signer under two keys.

  Key definitions include:
    * `CmtJSON.Decodes`
    * `loadEd25519PrivKey`
    * `genOrLoadConnKey`
    * `ConnKey.machine`

  Main results:
    * `loadEd25519PrivKey_nodeKeyText`
    * `loadEd25519PrivKey_torn`
    * `ConnKey.connection_identity_stable`
-/

------------------------------------------------------------
-- Key Files
------------------------------------------------------------

namespace BridgeSigner

namespace Consensus

/- A key and its type, as a key file has them. -/
structure CryptoKeyJSON where
  type : Bytes
  value : Bytes
  deriving DecidableEq, Repr

/-
  The two calls of `cmtjson.Unmarshal`, of the library whose
  code is not here: the `priv_key` of a `nodeKeyJSON` and of
  a `privValidatorKeyJSON`.
-/
structure CmtJSON where
  nodeKey : Bytes → Option CryptoKeyJSON
  privValidatorKey : Bytes → Option CryptoKeyJSON

/- What a text says that has a key and nothing else. -/
def keyValue
    (k : CryptoKeyJSON) : Json.Value :=
  .object
    [(ascii "priv_key",
      .object
        [(ascii "type", .string k.type),
          (ascii "value", .string k.value)])]

/-
  What is asked of a decoder: a text that is no JSON fails,
  and the fields of an object are taken by their names.
-/
structure DecodesKeys
    (unmarshal : Bytes → Option CryptoKeyJSON) : Prop where
  invalid : ∀ b, Json.parse b = none → unmarshal b = none
  fields :
    ∀ b k, Json.parse b = some (keyValue k) →
      unmarshal b = some k

structure CmtJSON.Decodes
    (cmtjson : CmtJSON) : Prop where
  nodeKey : DecodesKeys cmtjson.nodeKey
  privValidatorKey : DecodesKeys cmtjson.privValidatorKey

/- Why there is no key. -/
inductive KeyError where
| read (e : ReadError)
| unrecognized (path : Bytes)
| expected (path : Bytes)
| corrupt
| unsupported (type : Bytes)
| write (e : Bytes)

/- The length of the decoded key is not looked at. -/
def decodeKeyJSON
    (k : CryptoKeyJSON) : Except KeyError Bytes :=
  if k.type = ascii "tendermint/PrivKeyEd25519" ∨
      k.type = ascii "comet/PrivKeyEd25519" then
    match Base64.decode k.value with
    | none => .error .corrupt
    | some raw => .ok raw
  else
    .error (.unsupported k.type)

def ed25519PrivateKeySize : Nat := 64

def loadEd25519PrivKey
    (cmtjson : CmtJSON)
    (path : Bytes)
    (entry : PathEntry) : Except KeyError Bytes :=
  match entry.readFile with
  | .error e => .error (.read e)
  | .ok data =>
      let b := trimSpace data
      if b.head? = some 123 then
        match (cmtjson.nodeKey b).filter (·.type ≠ []) with
        | some k => decodeKeyJSON k
        | none =>
            match
              (cmtjson.privValidatorKey b).filter
                (·.type ≠ [])
            with
            | some k => decodeKeyJSON k
            | none => .error (.unrecognized path)
      else
        match Base64.decode b with
        | none => .error (.expected path)
        | some raw =>
            if raw.length ≠ ed25519PrivateKeySize then
              .error (.expected path)
            else
              .ok raw

/- The members of a key. -/
def keyMembers
    (pk : Bytes) : List Json.Member :=
  let type := ascii "tendermint/PrivKeyEd25519"
  let value := Base64.encode pk
  [⟨ascii "type", Json.quoted type, .string type⟩,
    ⟨ascii "value", Json.quoted value, .string value⟩]

def nodeKeyMembers
    (pk : Bytes) : List Json.Member :=
  [⟨ascii "priv_key", Json.indentObject 1 (keyMembers pk),
    .object
      ((keyMembers pk).map (fun m => (m.key, m.value)))⟩]

/- The text of a new key file, `json.MarshalIndent`. -/
def nodeKeyText
    (pk : Bytes) : Bytes :=
  Json.indentObject 0 (nodeKeyMembers pk)

/-
  What becomes of `os.WriteFile`: it fails before there is a
  file, or it stops or is stopped after some bytes.
-/
inductive WriteOutcome where
| done
| unopened (e : Bytes)
| stopped (n : Nat) (e : Bytes)

/- The file afterwards and the key, `pk` being a new one. -/
def genOrLoadConnKey
    (cmtjson : CmtJSON)
    (path : Bytes)
    (pk : Bytes)
    (write : WriteOutcome) :
    PathEntry → PathEntry × Except KeyError Bytes
| .missing =>
    match write with
    | .done => (.file (nodeKeyText pk), .ok pk)
    | .unopened e => (.missing, .error (.write e))
    | .stopped n e =>
        (.file ((nodeKeyText pk).take n), .error (.write e))
| entry => (entry, loadEd25519PrivKey cmtjson path entry)

end Consensus

end BridgeSigner

------------------------------------------------------------
-- Whole And Torn Files
------------------------------------------------------------

namespace BridgeSigner

namespace Consensus

theorem encode_plain
    (pk : Bytes) :
    Json.Plain (Base64.encode pk) := by
  have hAll :
      Json.Plain (Base64.pad :: Base64.alphabet) := by
    decide +kernel
  intro c hc
  rcases Base64.mem_encode hc with hc | rfl
  · exact hAll c (List.mem_cons_of_mem _ hc)
  · exact hAll _ List.mem_cons_self

/- The text around the encoded key. -/
theorem nodeKeyText_eq
    (pk : Bytes) :
    nodeKeyText pk =
      123 ::
        (ascii
            ("\n  \"priv_key\": \x7b\n    \"type\": " ++
              "\"tendermint/PrivKeyEd25519\",\n" ++
              "    \"value\": \"") ++
          Base64.encode pk ++ ascii "\"\n  \x7d\n" ++
          [125]) := by
  simp [nodeKeyText, nodeKeyMembers, keyMembers,
    Json.indentObject, Json.indentMembers,
    Json.indentMember, Json.newLine, Json.quoted, ascii]

theorem nodeKeyText_unescaped
    (pk : Bytes) :
    Json.Unescaped (nodeKeyText pk) := by
  have hAround :
      Json.Unescaped
        (ascii
          ("\n  \"priv_key\": \x7b\n    \"type\": " ++
            "\"tendermint/PrivKeyEd25519\",\n" ++
            "    \"value\": \"")) ∧
        Json.Unescaped (ascii "\"\n  \x7d\n") := by
    unfold Json.Unescaped
    decide +kernel
  intro c hc
  rw [nodeKeyText_eq] at hc
  simp only [List.mem_cons, List.mem_append,
    List.not_mem_nil, or_false] at hc
  rcases hc with rfl | ((hc | hc) | hc) | rfl
  · decide
  · exact hAround.1 c hc
  · rcases encode_plain pk c hc with ⟨-, hAscii, -, hNe⟩
    exact ⟨UInt8.lt_iff_toNat_lt.mpr hAscii, hNe⟩
  · exact hAround.2 c hc
  · decide

theorem keyMembers_parse
    (pk : Bytes)
    (depth : Nat) :
    ∀ m ∈ keyMembers pk,
      Json.Plain m.key ∧
        Json.Parses 1 depth m.text m.value := by
  have hPlain :
      Json.Plain (ascii "type") ∧
        Json.Plain (ascii "value") ∧
        Json.Plain (ascii "tendermint/PrivKeyEd25519") := by
    decide +kernel
  rcases hPlain with ⟨hType, hValue, hName⟩
  intro m hm
  rcases List.mem_cons.mp hm with rfl | hm
  · exact ⟨hType, Json.parses_quoted hName depth⟩
  · rw [List.mem_singleton.mp hm]
    exact ⟨hValue,
      Json.parses_quoted (encode_plain pk) depth⟩

theorem parse_nodeKeyText
    (pk : Bytes) :
    Json.parse (nodeKeyText pk) =
      some
        (keyValue
          ⟨ascii "tendermint/PrivKeyEd25519",
            Base64.encode pk⟩) := by
  have hPlain : Json.Plain (ascii "priv_key") := by
    decide +kernel
  have hMembers :
      ∀ m ∈ nodeKeyMembers pk,
        Json.Plain m.key ∧
          Json.Parses 4 (Json.maxNestingDepth - 1) m.text
            m.value := by
    intro m hm
    rw [List.mem_singleton.mp hm]
    exact ⟨hPlain,
      Json.parses_indentObject (List.cons_ne_nil _ _)
        (keyMembers_parse pk (Json.maxNestingDepth - 2)) 1⟩
  have hParses :
      Json.Parses 6 Json.maxNestingDepth (nodeKeyText pk)
        (.object
          ((nodeKeyMembers pk).map
            (fun m => (m.key, m.value)))) :=
    Json.parses_indentObject (List.cons_ne_nil _ _) hMembers
      0
  refine hParses.parse ?_
  rw [nodeKeyText_eq, List.length_cons, List.length_append,
    List.length_append, List.length_append]
  have hFront :
      6 ≤
        (ascii
          ("\n  \"priv_key\": \x7b\n    \"type\": " ++
            "\"tendermint/PrivKeyEd25519\",\n" ++
            "    \"value\": \"")).length := by
    decide +kernel
  omega

variable {cmtjson : CmtJSON}

/- A file that was written to its end is loaded. -/
theorem loadEd25519PrivKey_nodeKeyText
    (hDecodes : cmtjson.Decodes)
    (path pk : Bytes) :
    loadEd25519PrivKey cmtjson path
        (.file (nodeKeyText pk)) =
      .ok pk := by
  have hTrim : trimSpace (nodeKeyText pk) = nodeKeyText pk := by
    rw [nodeKeyText_eq]
    exact trimSpace_braces _
  have hHead : (nodeKeyText pk).head? = some 123 := rfl
  have hTyped :
      ascii "tendermint/PrivKeyEd25519" ≠ [] := by
    decide +kernel
  have hKey :
      (cmtjson.nodeKey (nodeKeyText pk)).filter
          (·.type ≠ []) =
        some
          ⟨ascii "tendermint/PrivKeyEd25519",
            Base64.encode pk⟩ := by
    rw [hDecodes.nodeKey.fields _ _ (parse_nodeKeyText pk),
      Option.filter_some, if_pos]
    simpa using hTyped
  simp only [loadEd25519PrivKey, PathEntry.readFile, hTrim,
    hHead, if_true, hKey, decodeKeyJSON, true_or,
    Base64.decode_encode]

/-
  Where the end of the text is missing, there is no key: the
  part is no JSON, and if nothing was written it is a base64
  text of no bytes.
-/
theorem loadEd25519PrivKey_torn
    (hDecodes : cmtjson.Decodes)
    (path pk : Bytes)
    {n : Nat}
    (hn : n < (nodeKeyText pk).length)
    (k : Bytes) :
    loadEd25519PrivKey cmtjson path
        (.file ((nodeKeyText pk).take n)) ≠
      .ok k := by
  have hFront :
      trimSpace ((nodeKeyText pk).take n) <+:
        (nodeKeyText pk).take n := by
    cases n with
    | zero => exact List.prefix_refl []
    | succ n =>
        rw [nodeKeyText_eq, List.take_succ_cons]
        exact trimSpace_front _
  rcases hFront.trans (List.take_prefix n _) with ⟨q, hq⟩
  have hMissing : q ≠ [] := by
    rintro rfl
    have hLength := hFront.length_le
    rw [List.append_nil] at hq
    rw [hq, List.length_take] at hLength
    omega
  have hText := nodeKeyText_unescaped pk
  have hParse := parse_nodeKeyText pk
  have hLast : (nodeKeyText pk).getLast? = some 125 := by
    rw [nodeKeyText_eq, ← List.cons_append,
      List.getLast?_append_of_ne_nil _ (by simp)]
    rfl
  have hHead : (nodeKeyText pk).head? = some 123 := rfl
  rw [← hq] at hText hParse hLast hHead
  have hNone := Json.parse_torn hText hHead hLast hMissing
    hParse
  simp only [loadEd25519PrivKey, PathEntry.readFile,
    hDecodes.nodeKey.invalid _ hNone,
    hDecodes.privValidatorKey.invalid _ hNone,
    Option.filter_none]
  cases hTrim : trimSpace ((nodeKeyText pk).take n) with
  | nil => simp [Base64.decode, Base64.decodeGroups,
      ed25519PrivateKeySize]
  | cons b p =>
      rw [hTrim] at hHead
      have hBrace : (b :: p).head? = some 123 := hHead
      rw [if_pos hBrace]
      simp

end Consensus

end BridgeSigner

------------------------------------------------------------
-- One Start After Another
------------------------------------------------------------

namespace BridgeSigner

namespace Consensus

namespace ConnKey

/- The file, and the keys that starts went on with. -/
structure State where
  entry : PathEntry
  used : List Bytes
  deriving DecidableEq

/- A start, with the key that it makes if it makes one. -/
structure Start where
  pk : Bytes
  write : WriteOutcome

def step
    (cmtjson : CmtJSON)
    (path : Bytes)
    (s : State)
    (e : Start) : State :=
  let r :=
    genOrLoadConnKey cmtjson path e.pk e.write s.entry
  { entry := r.1
    used :=
      match r.2 with
      | .ok k => k :: s.used
      | .error _ => s.used }

def machine
    (cmtjson : CmtJSON)
    (path : Bytes) : Machine State Start where
  step := fun s e => some (step cmtjson path s e)

/-
  There is no file; or the file is torn; or it has a key, and
  no start has gone on with another one.
-/
def Sound
    (s : State) : Prop :=
  s.entry = .missing ∧ s.used = [] ∨
    (∃ pk n,
      n < (nodeKeyText pk).length ∧
        s.entry = .file ((nodeKeyText pk).take n) ∧
        s.used = []) ∨
    ∃ pk,
      s.entry = .file (nodeKeyText pk) ∧
        ∀ k ∈ s.used, k = pk

theorem step_sound
    {cmtjson : CmtJSON}
    (hDecodes : cmtjson.Decodes)
    {path : Bytes}
    {s : State}
    (h : Sound s)
    (e : Start) :
    Sound (step cmtjson path s e) := by
  rcases h with ⟨hEntry, hUsed⟩ |
    ⟨pk, n, hn, hEntry, hUsed⟩ | ⟨pk, hEntry, hUsed⟩
  · rcases e with ⟨pk, write⟩
    cases write with
    | done =>
        right; right
        refine ⟨pk, ?_, ?_⟩
        · simp [step, hEntry, genOrLoadConnKey]
        · simp [step, hEntry, hUsed, genOrLoadConnKey]
    | unopened err =>
        left
        simp [step, hEntry, hUsed, genOrLoadConnKey]
    | stopped n err =>
        right
        by_cases hn : n < (nodeKeyText pk).length
        · left
          refine ⟨pk, n, hn, ?_, ?_⟩
          · simp [step, hEntry, genOrLoadConnKey]
          · simp [step, hEntry, hUsed, genOrLoadConnKey]
        · -- All of it was written, but the start was stopped.
          right
          refine ⟨pk, ?_, ?_⟩
          · simp [step, hEntry, genOrLoadConnKey,
              List.take_of_length_le (Nat.le_of_not_lt hn)]
          · simp [step, hEntry, hUsed, genOrLoadConnKey]
  · right; left
    refine ⟨pk, n, hn, ?_, ?_⟩
    · simp [step, hEntry, genOrLoadConnKey]
    · have hTorn := loadEd25519PrivKey_torn hDecodes path pk hn
      cases hLoad :
          loadEd25519PrivKey cmtjson path
            (.file ((nodeKeyText pk).take n)) with
      | ok k => exact absurd hLoad (hTorn k)
      | error err =>
          simp [step, hEntry, hUsed, genOrLoadConnKey, hLoad]
  · right; right
    refine ⟨pk, ?_, ?_⟩
    · simp [step, hEntry, genOrLoadConnKey]
    · intro k hk
      simp only [step, hEntry, genOrLoadConnKey,
        loadEd25519PrivKey_nodeKeyText hDecodes,
        List.mem_cons] at hk
      rcases hk with rfl | hk
      · rfl
      · exact hUsed k hk

/-
  From a directory without the file, over any starts with any
  new keys, each of them cut off anywhere or not: if a start
  went on with a key, the file has the key, every other start
  went on with it, and every later one does.
-/
theorem connection_identity_stable
    (cmtjson : CmtJSON)
    (hDecodes : cmtjson.Decodes)
    (path : Bytes)
    (es : List Start)
    (t : State)
    (hRun :
      (machine cmtjson path).run ⟨.missing, []⟩ es =
        some t)
    (k : Bytes)
    (hUsed : k ∈ t.used) :
    t.entry = .file (nodeKeyText k) ∧
      (∀ k' ∈ t.used, k' = k) ∧
      ∀ pk write,
        genOrLoadConnKey cmtjson path pk write t.entry =
          (t.entry, .ok k) := by
  have hSound : Sound t := by
    refine Machine.run_invariant (P := Sound) ?_ hRun
      (Or.inl ⟨rfl, rfl⟩)
    intro s e t hStep h
    cases hStep
    exact step_sound hDecodes h e
  rcases hSound with ⟨-, hNone⟩ | ⟨pk, n, -, -, hNone⟩ |
    ⟨pk, hEntry, hAll⟩
  · rw [hNone] at hUsed
    cases hUsed
  · rw [hNone] at hUsed
    cases hUsed
  · rw [hAll k hUsed, hEntry]
    refine ⟨rfl, hAll, ?_⟩
    intro pk' write
    rw [genOrLoadConnKey,
      loadEd25519PrivKey_nodeKeyText hDecodes]
    intro hMissing
    cases hMissing

/- A decoder for the texts with a key and nothing else. -/
def unmarshalKey
    (b : Bytes) : Option CryptoKeyJSON :=
  match Json.parse b with
  | some
      (.object
        [(name,
          .object
            [(first, .string type),
              (second, .string value)])]) =>
      if name = ascii "priv_key" ∧ first = ascii "type" ∧
          second = ascii "value" then
        some ⟨type, value⟩
      else
        none
  | _ => none

theorem unmarshalKey_decodes :
    DecodesKeys unmarshalKey := by
  constructor
  · intro b hInvalid
    rw [unmarshalKey, hInvalid]
  · intro b k hParse
    rw [unmarshalKey, hParse]
    exact if_pos ⟨rfl, rfl, rfl⟩

def sampleDecoder : CmtJSON :=
  ⟨unmarshalKey, unmarshalKey⟩

/-
  The first start cannot open the file, the second is stopped
  once all is written, and the third loads what it wrote.
-/
def sampleStarts : List Start :=
  [⟨[7], .unopened (ascii "permission denied")⟩,
    ⟨[1, 2, 3], .stopped 4096 (ascii "killed")⟩,
    ⟨[9], .done⟩]

theorem sample_identity_stable :
    (machine sampleDecoder (ascii "k")).run ⟨.missing, []⟩
          sampleStarts =
        some ⟨.file (nodeKeyText [1, 2, 3]), [[1, 2, 3]]⟩ ∧
      genOrLoadConnKey sampleDecoder (ascii "k") [5] .done
          (.file (nodeKeyText [1, 2, 3])) =
        (.file (nodeKeyText [1, 2, 3]), .ok [1, 2, 3]) := by
  have hRun :
      (machine sampleDecoder (ascii "k")).run ⟨.missing, []⟩
          sampleStarts =
        some
          ⟨.file (nodeKeyText [1, 2, 3]), [[1, 2, 3]]⟩ := by
    decide +kernel
  exact ⟨hRun,
    (connection_identity_stable sampleDecoder
      ⟨unmarshalKey_decodes, unmarshalKey_decodes⟩
      (ascii "k") sampleStarts _ hRun [1, 2, 3]
      List.mem_cons_self).2.2 [5] .done⟩

end ConnKey

end Consensus

end BridgeSigner
