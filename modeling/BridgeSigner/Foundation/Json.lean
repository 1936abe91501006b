import Mathlib.Data.List.TakeWhile
import BridgeSigner.Foundation.Text

/-
  JSON text: the parser of a decoder that first checks the
  whole text, and the compact rendering of flat objects.

  A number keeps its literal, so a reader decides what it
  means. A string holds the bytes after unquoting: escapes
  are resolved and a broken UTF-8 byte becomes the encoding
  of the replacement character. Objects keep their members
  in text order, repeated keys included.

  Main declarations:
    * `Json.Value`
    * `Json.parse`
    * `Json.renderFlat`
    * `Json.parse_renderFlat`
-/

------------------------------------------------------------
-- Unicode
------------------------------------------------------------

namespace BridgeSigner

namespace Json

/- The UTF-8 encoding of the replacement character. -/
def replacement : Bytes :=
  [0xEF, 0xBF, 0xBD]

/- UTF-8 encoding of a code point. -/
def encodeRune
    (r : Nat) : Bytes :=
  if r < 0x80 then
    [UInt8.ofNat r]
  else if r < 0x800 then
    [UInt8.ofNat (0xC0 + r / 64),
      UInt8.ofNat (0x80 + r % 64)]
  else if 0xD800 ≤ r && r < 0xE000 then
    replacement
  else if r < 0x10000 then
    [UInt8.ofNat (0xE0 + r / 4096),
      UInt8.ofNat (0x80 + r / 64 % 64),
      UInt8.ofNat (0x80 + r % 64)]
  else if r < 0x110000 then
    [UInt8.ofNat (0xF0 + r / 262144),
      UInt8.ofNat (0x80 + r / 4096 % 64),
      UInt8.ofNat (0x80 + r / 64 % 64),
      UInt8.ofNat (0x80 + r % 64)]
  else
    replacement

/- A continuation byte inside a range. -/
def within
    (low high : UInt8) :
    Option UInt8 → Bool
| none => false
| some b => low ≤ b && b ≤ high

/-
  Length of the well-formed UTF-8 sequence at the front of a
  text that starts with a byte above ASCII; 0 if it is broken.
-/
def runeLength
    (s : Bytes) : Nat :=
  let tail := fun i => within 0x80 0xBF s[i]?
  match s[0]? with
  | none => 0
  | some b =>
      if 0xC2 ≤ b && b ≤ 0xDF then
        if tail 1 then 2 else 0
      else if b = 0xE0 then
        if within 0xA0 0xBF s[1]? && tail 2 then 3 else 0
      else if b = 0xED then
        if within 0x80 0x9F s[1]? && tail 2 then 3 else 0
      else if 0xE1 ≤ b && b ≤ 0xEF then
        if tail 1 && tail 2 then 3 else 0
      else if b = 0xF0 then
        if within 0x90 0xBF s[1]? && tail 2 && tail 3 then
          4
        else
          0
      else if 0xF1 ≤ b && b ≤ 0xF3 then
        if tail 1 && tail 2 && tail 3 then 4 else 0
      else if b = 0xF4 then
        if within 0x80 0x8F s[1]? && tail 2 && tail 3 then
          4
        else
          0
      else
        0

end Json

end BridgeSigner

------------------------------------------------------------
-- Scanning
------------------------------------------------------------

namespace BridgeSigner

namespace Json

/- White space between tokens. -/
def isWs
    (b : UInt8) : Bool :=
  b = 32 || b = 9 || b = 10 || b = 13

def skipWs
    (s : Bytes) : Bytes :=
  s.dropWhile isWs

/- The value of four hexadecimal digits. -/
def hex4 : Bytes → Option (Nat × Bytes)
| a :: b :: c :: d :: rest =>
    match hexValue a, hexValue b, hexValue c, hexValue d with
    | some w, some x, some y, some z =>
        some (((w * 16 + x) * 16 + y) * 16 + z, rest)
    | _, _, _, _ => none
| _ => none

/- What a one-letter escape stands for. -/
def simpleEscape
    (b : UInt8) : Option UInt8 :=
  if b = 34 || b = 92 || b = 47 then some b
  else if b = 98 then some 8
  else if b = 102 then some 12
  else if b = 110 then some 10
  else if b = 114 then some 13
  else if b = 116 then some 9
  else none

/-
  The escape `\u` with its digits still ahead. A surrogate
  that is not half of a pair becomes the replacement.
-/
def unicodeEscape
    (s : Bytes) : Option (Bytes × Bytes) :=
  match hex4 s with
  | none => none
  | some (r, rest) =>
      if 0xD800 ≤ r && r < 0xE000 then
        let low :=
          if [92, 117].isPrefixOf rest then
            hex4 (rest.drop 2)
          else
            none
        match low with
        | some (r', rest') =>
            if r < 0xDC00 && 0xDC00 ≤ r' && r' < 0xE000 then
              some (encodeRune
                (0x10000 + (r - 0xD800) * 1024 +
                  (r' - 0xDC00)), rest')
            else
              some (replacement, rest)
        | none => some (replacement, rest)
      else
        some (encodeRune r, rest)

/- Scan and unquote a string after its opening quote. -/
def scanString : Nat → Bytes → Option (Bytes × Bytes)
| 0, _ => none
| _ + 1, [] => none
| fuel + 1, b :: rest =>
    if b = 34 then
      some ([], rest)
    else if b = 92 then
      match rest with
      | [] => none
      | e :: rest' =>
          let unit :=
            if e = 117 then
              unicodeEscape rest'
            else
              (simpleEscape e).map (fun c => ([c], rest'))
          match unit with
          | none => none
          | some (c, rest'') =>
              (scanString fuel rest'').map
                (fun p => (c ++ p.1, p.2))
    else if b < 32 then
      none
    else if b < 128 then
      (scanString fuel rest).map
        (fun p => (b :: p.1, p.2))
    else
      let n := runeLength (b :: rest)
      if n = 0 then
        (scanString fuel rest).map
          (fun p => (replacement ++ p.1, p.2))
      else
        (scanString fuel (rest.drop (n - 1))).map
          (fun p => ((b :: rest).take n ++ p.1, p.2))

/- A byte of a number literal. -/
def isNumberByte
    (b : UInt8) : Bool :=
  isDigit b || b = 43 || b = 45 || b = 46 ||
    b = 69 || b = 101

/- The rest of a literal after its integer and fraction. -/
def validExponent : Bytes → Bool
| [] => true
| e :: rest =>
    let digits :=
      if rest.head? = some 43 || rest.head? = some 45 then
        rest.tail
      else
        rest
    (e = 69 || e = 101) && digits ≠ [] &&
      digits.all isDigit

/- The rest of a literal after its integer part. -/
def validFraction : Bytes → Bool
| 46 :: b :: rest =>
    isDigit b && validExponent (rest.dropWhile isDigit)
| [46] => false
| rest => validExponent rest

/- The number grammar: no leading zeros, no leading plus. -/
def validNumber
    (s : Bytes) : Bool :=
  let digits := if s.head? = some 45 then s.tail else s
  match digits with
  | [] => false
  | b :: rest =>
      if b = 48 then
        validFraction rest
      else
        isDigit b && validFraction (rest.dropWhile isDigit)

end Json

end BridgeSigner

------------------------------------------------------------
-- Parsing
------------------------------------------------------------

namespace BridgeSigner

namespace Json

/- A JSON value. -/
inductive Value where
| null
| bool (b : Bool)
| number (literal : Bytes)
| string (s : Bytes)
| array (items : List Value)
| object (members : List (Bytes × Value))

/- A literal name at the front of a text. -/
def parseName
    (name : Bytes)
    (v : Value)
    (s : Bytes) : Option (Value × Bytes) :=
  if name.isPrefixOf s then
    some (v, s.drop name.length)
  else
    none

mutual

/- Parse one value; `depth` bounds the nesting. -/
def parseValue :
    Nat → Nat → Bytes → Option (Value × Bytes)
| 0, _, _ => none
| fuel + 1, depth, s =>
    match skipWs s with
    | [] => none
    | b :: rest =>
        if b = 123 then
          if depth = 0 then
            none
          else
            match skipWs rest with
            | 125 :: rest' => some (.object [], rest')
            | rest' =>
                (parseMembers fuel (depth - 1) rest').map
                  (fun p => (.object p.1, p.2))
        else if b = 91 then
          if depth = 0 then
            none
          else
            match skipWs rest with
            | 93 :: rest' => some (.array [], rest')
            | rest' =>
                (parseItems fuel (depth - 1) rest').map
                  (fun p => (.array p.1, p.2))
        else if b = 34 then
          (scanString (rest.length + 1) rest).map
            (fun p => (.string p.1, p.2))
        else if b = 116 then
          parseName (ascii "true") (.bool true) (b :: rest)
        else if b = 102 then
          parseName (ascii "false") (.bool false) (b :: rest)
        else if b = 110 then
          parseName (ascii "null") .null (b :: rest)
        else
          let literal := (b :: rest).takeWhile isNumberByte
          if validNumber literal then
            some (.number literal,
              (b :: rest).dropWhile isNumberByte)
          else
            none

/- Parse the items of a non-empty array to its bracket. -/
def parseItems :
    Nat → Nat → Bytes → Option (List Value × Bytes)
| 0, _, _ => none
| fuel + 1, depth, s =>
    match parseValue fuel depth s with
    | none => none
    | some (v, rest) =>
        match skipWs rest with
        | 44 :: rest' =>
            (parseItems fuel depth rest').map
              (fun p => (v :: p.1, p.2))
        | 93 :: rest' => some ([v], rest')
        | _ => none

/- Parse the members of a non-empty object to its brace. -/
def parseMembers :
    Nat → Nat → Bytes →
      Option (List (Bytes × Value) × Bytes)
| 0, _, _ => none
| fuel + 1, depth, s =>
    match skipWs s with
    | 34 :: rest =>
        match scanString (rest.length + 1) rest with
        | none => none
        | some (key, rest) =>
            match skipWs rest with
            | 58 :: rest =>
                match parseValue fuel depth rest with
                | none => none
                | some (v, rest) =>
                    match skipWs rest with
                    | 44 :: rest =>
                        (parseMembers fuel depth rest).map
                          (fun p => ((key, v) :: p.1, p.2))
                    | 125 :: rest => some ([(key, v)], rest)
                    | _ => none
            | _ => none
    | _ => none

end

/- The deepest nesting that is accepted. -/
def maxNestingDepth : Nat :=
  10000

/- Parse a text that holds exactly one value. -/
def parse
    (s : Bytes) : Option Value :=
  match parseValue (2 * s.length + 2) maxNestingDepth s with
  | none => none
  | some (v, rest) =>
      if skipWs rest = [] then some v else none

end Json

end BridgeSigner

------------------------------------------------------------
-- Flat Objects
------------------------------------------------------------

namespace BridgeSigner

namespace Json

/- A member of a flat object: a number or a plain text. -/
inductive Scalar where
| uint (n : Nat)
| text (s : Bytes)

/- Text that is written without an escape. -/
def Plain
    (s : Bytes) : Prop :=
  ∀ c ∈ s, 32 ≤ c.toNat ∧ c.toNat < 128 ∧ c ≠ 34 ∧ c ≠ 92

instance
    (s : Bytes) :
    Decidable (Plain s) :=
  List.decidableBAll _ s

/- A string between its quotes. -/
def quoted
    (s : Bytes) : Bytes :=
  34 :: (s ++ [34])

namespace Scalar

def value : Scalar → Value
| .uint n => .number (formatUint n)
| .text s => .string s

def render : Scalar → Bytes
| .uint n => formatUint n
| .text s => quoted s

def IsPlain : Scalar → Prop
| .uint _ => True
| .text s => Plain s

end Scalar

/- One member, compact. -/
def renderMember
    (m : Bytes × Scalar) : Bytes :=
  quoted m.1 ++ 58 :: m.2.render

def renderMembers : List (Bytes × Scalar) → Bytes
| [] => []
| [m] => renderMember m
| m :: m' :: ms =>
    renderMember m ++ 44 :: renderMembers (m' :: ms)

/- The compact text of a flat object. -/
def renderFlat
    (ms : List (Bytes × Scalar)) : Bytes :=
  123 :: (renderMembers ms ++ [125])

end Json

end BridgeSigner

------------------------------------------------------------
-- Flat Objects Parse Back
------------------------------------------------------------

namespace BridgeSigner

namespace Json

theorem skipWs_cons
    {b : UInt8}
    (hb : isWs b = false)
    (rest : Bytes) :
    skipWs (b :: rest) = b :: rest := by
  simp [skipWs, hb]

theorem scanString_plain
    {s : Bytes}
    (hs : Plain s)
    (rest : Bytes)
    {fuel : Nat}
    (hFuel : s.length < fuel) :
    scanString fuel (s ++ 34 :: rest) = some (s, rest) := by
  induction s generalizing fuel with
  | nil =>
      cases fuel with
      | zero => cases hFuel
      | succ fuel => simp [scanString]
  | cons c s ih =>
      cases fuel with
      | zero => cases hFuel
      | succ fuel =>
          have hc := hs c List.mem_cons_self
          have hRest : Plain s := fun d hd =>
            hs d (List.mem_cons_of_mem c hd)
          have hLow : ¬ c < 32 := by
            rw [UInt8.lt_iff_toNat_lt]
            exact Nat.not_lt.mpr hc.1
          have hHigh : c < 128 := by
            rw [UInt8.lt_iff_toNat_lt]
            exact hc.2.1
          have hTail :=
            ih hRest (Nat.lt_of_succ_lt_succ hFuel)
          simp [scanString, hc.2.2.1, hc.2.2.2, hLow, hHigh,
            hTail]

theorem scanString_quoted
    {s : Bytes}
    (hs : Plain s)
    (rest : Bytes) :
    scanString ((s ++ 34 :: rest).length + 1)
        (s ++ 34 :: rest) =
      some (s, rest) := by
  apply scanString_plain hs
  simp only [List.length_append]
  omega

theorem isNumberByte_of_isDigit
    {b : UInt8}
    (hb : isDigit b = true) :
    isNumberByte b = true := by
  simp [isNumberByte, hb]

private theorem dropWhile_digits
    {ds : Bytes}
    (hDigits : ∀ d ∈ ds, isDigit d = true) :
    ds.dropWhile isDigit = [] :=
  List.dropWhile_eq_nil_iff.mpr hDigits

theorem validNumber_formatUint
    (n : Nat) :
    validNumber (formatUint n) = true := by
  by_cases hn : n = 0
  · subst hn
    decide
  · rcases formatUint_head hn with
      ⟨b, bs, hFormat, hDigit, hNe⟩
    have hDigits : ∀ d ∈ bs, isDigit d = true := by
      intro d hd
      apply isDigit_of_mem_formatUint (n := n)
      rw [hFormat]
      exact List.mem_cons_of_mem b hd
    have hMinus : b ≠ 45 := by
      intro hEq
      subst hEq
      simp [isDigit] at hDigit
    rw [hFormat]
    simp [validNumber, hMinus, hNe, hDigit,
      dropWhile_digits hDigits, validFraction,
      validExponent]

private theorem takeWhile_formatUint
    (n : Nat)
    {c : UInt8}
    (hc : isNumberByte c = false)
    (rest : Bytes) :
    (formatUint n ++ c :: rest).takeWhile isNumberByte =
      formatUint n := by
  rw [List.takeWhile_append_of_pos]
  · simp [hc]
  · intro d hd
    exact isNumberByte_of_isDigit
      (isDigit_of_mem_formatUint hd)

private theorem dropWhile_formatUint
    (n : Nat)
    {c : UInt8}
    (hc : isNumberByte c = false)
    (rest : Bytes) :
    (formatUint n ++ c :: rest).dropWhile isNumberByte =
      c :: rest := by
  rw [List.dropWhile_append_of_pos]
  · simp [hc]
  · intro d hd
    exact isNumberByte_of_isDigit
      (isDigit_of_mem_formatUint hd)

private theorem isWs_of_isDigit
    {b : UInt8}
    (hb : isDigit b = true) :
    isWs b = false := by
  simp [isWs, ne_of_isDigit hb (c := 32) (by decide),
    ne_of_isDigit hb (c := 9) (by decide),
    ne_of_isDigit hb (c := 10) (by decide),
    ne_of_isDigit hb (c := 13) (by decide)]

/- A rendered scalar parses back before `,` or a brace. -/
theorem parseValue_render
    {v : Scalar}
    (hv : v.IsPlain)
    {c : UInt8}
    (hc : isNumberByte c = false)
    (rest : Bytes)
    (fuel depth : Nat) :
    parseValue (fuel + 1) depth (v.render ++ c :: rest) =
      some (v.value, c :: rest) := by
  cases v with
  | uint n =>
      rcases hFormat : formatUint n with _ | ⟨b, bs⟩
      · exact absurd hFormat (formatUint_ne_nil n)
      · have hDigit : isDigit b = true := by
          apply isDigit_of_mem_formatUint (n := n)
          rw [hFormat]
          exact List.mem_cons_self
        have hOther :
            b ≠ 123 ∧ b ≠ 91 ∧ b ≠ 34 ∧ b ≠ 116 ∧
              b ≠ 102 ∧ b ≠ 110 := by
          refine ⟨?_, ?_, ?_, ?_, ?_, ?_⟩ <;>
            exact ne_of_isDigit hDigit (by decide)
        rcases hOther with ⟨h1, h2, h3, h4, h5, h6⟩
        have hTake := takeWhile_formatUint n hc rest
        have hDrop := dropWhile_formatUint n hc rest
        have hValid := validNumber_formatUint n
        rw [hFormat, List.cons_append] at hTake hDrop
        rw [hFormat] at hValid
        simp only [Scalar.render, Scalar.value, hFormat,
          List.cons_append, parseValue,
          skipWs_cons (isWs_of_isDigit hDigit),
          h1, h2, h3, h4, h5, h6, if_false, hTake, hDrop,
          hValid, if_true]
  | text s =>
      have hQuote : isWs 34 = false := by decide
      have hText :
          (Scalar.text s).render ++ c :: rest =
            34 :: (s ++ 34 :: (c :: rest)) := by
        simp [Scalar.render, quoted]
      rw [hText, parseValue, skipWs_cons hQuote]
      simp only [scanString_quoted hv]
      rfl

/- One member, up to what follows its value. -/
private theorem parseMembers_member
    {key : Bytes}
    (hKey : Plain key)
    {v : Scalar}
    (hv : v.IsPlain)
    {c : UInt8}
    (hc : isNumberByte c = false)
    (hWs : isWs c = false)
    (rest : Bytes)
    (fuel depth : Nat) :
    parseMembers (fuel + 2) depth
        (renderMember (key, v) ++ c :: rest) =
      match c :: rest with
      | 44 :: rest =>
          (parseMembers (fuel + 1) depth rest).map
            (fun p => ((key, v.value) :: p.1, p.2))
      | 125 :: rest => some ([(key, v.value)], rest)
      | _ => none := by
  have hQuote : isWs 34 = false := by decide
  have hColon : isWs 58 = false := by decide
  have hText :
      renderMember (key, v) ++ c :: rest =
        34 :: (key ++ 34 ::
          (58 :: (v.render ++ c :: rest))) := by
    simp [renderMember, quoted]
  rw [hText, parseMembers, skipWs_cons hQuote]
  simp only [scanString_quoted hKey, skipWs_cons hColon,
    parseValue_render hv hc, skipWs_cons hWs]
  rfl

/- Rendered members parse back to the closing brace. -/
theorem parseMembers_render
    {ms : List (Bytes × Scalar)}
    (hNonempty : ms ≠ [])
    (hPlain : ∀ m ∈ ms, Plain m.1 ∧ m.2.IsPlain)
    (rest : Bytes)
    {fuel : Nat}
    (hFuel : ms.length < fuel)
    (depth : Nat) :
    parseMembers fuel depth
        (renderMembers ms ++ 125 :: rest) =
      some (ms.map (fun m => (m.1, m.2.value)), rest) := by
  induction ms generalizing fuel with
  | nil => exact absurd rfl hNonempty
  | cons m ms ih =>
      rcases m with ⟨key, v⟩
      have hHead := hPlain (key, v) List.mem_cons_self
      obtain ⟨fuel, rfl⟩ : ∃ k, fuel = k + 2 := by
        refine ⟨fuel - 2, ?_⟩
        simp only [List.length_cons] at hFuel
        omega
      cases ms with
      | nil =>
          rw [renderMembers,
            parseMembers_member hHead.1 hHead.2
              (by decide) (by decide)]
          rfl
      | cons m' ms =>
          have hFuel' :
              (m' :: ms).length < fuel + 1 := by
            simp only [List.length_cons] at hFuel ⊢
            omega
          have hTail :=
            ih (by simp)
              (fun m hm =>
                hPlain m (List.mem_cons_of_mem _ hm))
              hFuel'
          rw [renderMembers, List.append_assoc,
            List.cons_append,
            parseMembers_member hHead.1 hHead.2
              (by decide) (by decide)]
          simp [hTail]

theorem length_le_renderMembers
    (ms : List (Bytes × Scalar)) :
    ms.length ≤ (renderMembers ms).length := by
  induction ms with
  | nil => simp
  | cons m ms ih =>
      cases ms with
      | nil =>
          simp [renderMembers, renderMember, quoted]
      | cons m' ms =>
          simp only [renderMembers, List.length_append,
            List.length_cons] at ih ⊢
          omega

/- The compact text of a flat object parses back. -/
theorem parse_renderFlat
    {ms : List (Bytes × Scalar)}
    (hNonempty : ms ≠ [])
    (hPlain : ∀ m ∈ ms, Plain m.1 ∧ m.2.IsPlain) :
    parse (renderFlat ms) =
      some (.object
        (ms.map (fun m => (m.1, m.2.value)))) := by
  have hBrace : isWs 123 = false := by decide
  have hLength := length_le_renderMembers ms
  have hFuel :
      ms.length < 2 * (renderFlat ms).length + 1 := by
    simp only [renderFlat, List.length_cons,
      List.length_append]
    omega
  have hMembers :=
    parseMembers_render hNonempty hPlain [] hFuel
      (maxNestingDepth - 1)
  -- The first member's quote is not the closing brace.
  obtain ⟨body, hBody⟩ :
      ∃ body, renderMembers ms ++ [125] = 34 :: body := by
    rcases ms with _ | ⟨m, _ | ⟨m', ms⟩⟩
    · exact absurd rfl hNonempty
    · exact ⟨_, rfl⟩
    · exact ⟨_, rfl⟩
  have hValue :
      parseValue (2 * (renderFlat ms).length + 2)
          maxNestingDepth (renderFlat ms) =
        some (.object
          (ms.map (fun m => (m.1, m.2.value))), []) := by
    rw [hBody] at hMembers
    rw [parseValue]
    simp only [renderFlat, hBody] at hMembers ⊢
    rw [skipWs_cons hBrace]
    dsimp only
    rw [if_pos rfl, if_neg (by decide),
      skipWs_cons (by decide)]
    simpa using hMembers
  rw [parse, hValue]
  rfl

end Json

end BridgeSigner
