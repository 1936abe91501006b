import Mathlib.Data.List.Basic
import Mathlib.Tactic.IntervalCases
import BridgeSigner.Foundation.Bytes

/-
  Numbers, hexadecimal text and white space in byte strings.

  `formatUint` and `parseUint64` are base-10 formatting and
  64-bit parsing; `encodeHex` writes lower-case digits and
  `decodeHex` reads either case; `trimSpace` strips the UTF-8
  encodings of the white space code points from both ends.

  Main declarations:
    * `formatUint`, `parseUint64`
    * `parseUint64_formatUint`
    * `encodeHex`, `decodeHex`
    * `decodeHex_encodeHex`
    * `trimSpace`
    * `trimSpace_padded`
-/

------------------------------------------------------------
-- Decimal Numbers
------------------------------------------------------------

namespace BridgeSigner

/- A decimal digit. -/
def isDigit
    (b : UInt8) : Bool :=
  48 ≤ b && b ≤ 57

/- The byte of a decimal digit. -/
def digitByte
    (d : Nat) : UInt8 :=
  UInt8.ofNat (48 + d)

/- Base-10 text of a number, without leading zeros. -/
def formatUint
    (n : Nat) : Bytes :=
  (Nat.toDigits 10 n).map (fun c => UInt8.ofNat c.toNat)

/- The value of a run of digits, continuing from `acc`. -/
def digitsValue : Nat → Bytes → Option Nat
| acc, [] => some acc
| acc, b :: bs =>
    if isDigit b then
      digitsValue (acc * 10 + (b.toNat - 48)) bs
    else
      none

/- Parse a base-10 number that fits into 64 bits. -/
def parseUint64
    (s : Bytes) : Option UInt64 :=
  if s = [] then
    none
  else
    match digitsValue 0 s with
    | none => none
    | some n =>
        if n < 2 ^ 64 then some (UInt64.ofNat n) else none

private theorem digitChar_byte
    {d : Nat}
    (hd : d < 10) :
    UInt8.ofNat (Nat.digitChar d).toNat = digitByte d := by
  interval_cases d <;> rfl

@[simp] theorem isDigit_digitByte
    {d : Nat}
    (hd : d < 10) :
    isDigit (digitByte d) = true := by
  interval_cases d <;> rfl

private theorem toNat_digitByte
    {d : Nat}
    (hd : d < 10) :
    (digitByte d).toNat - 48 = d := by
  interval_cases d <;> rfl

theorem formatUint_of_lt
    {n : Nat}
    (hn : n < 10) :
    formatUint n = [digitByte n] := by
  rw [formatUint, Nat.toDigits_of_lt_base hn]
  simp [digitChar_byte hn]

theorem formatUint_of_le
    {n : Nat}
    (hn : 10 ≤ n) :
    formatUint n =
      formatUint (n / 10) ++ [digitByte (n % 10)] := by
  have hMod : n % 10 < 10 := Nat.mod_lt n (by omega)
  rw [formatUint, Nat.toDigits_of_base_le (by omega) hn]
  simp [formatUint, digitChar_byte hMod]

theorem formatUint_ne_nil
    (n : Nat) :
    formatUint n ≠ [] := by
  by_cases hn : n < 10
  · simp [formatUint_of_lt hn]
  · simp [formatUint_of_le (Nat.le_of_not_lt hn)]

/- A digit is none of the bytes that mean something else. -/
theorem ne_of_isDigit
    {b c : UInt8}
    (hb : isDigit b = true)
    (hc : isDigit c = false) :
    b ≠ c := by
  intro hEq
  rw [hEq, hc] at hb
  cases hb

theorem isDigit_of_mem_formatUint
    {n : Nat}
    {b : UInt8}
    (hb : b ∈ formatUint n) :
    isDigit b = true := by
  induction n using Nat.strongRecOn with
  | ind n ih =>
      by_cases hn : n < 10
      · rw [formatUint_of_lt hn] at hb
        rw [List.mem_singleton.mp hb]
        exact isDigit_digitByte hn
      · have hLe : 10 ≤ n := Nat.le_of_not_lt hn
        rw [formatUint_of_le hLe, List.mem_append] at hb
        rcases hb with hb | hb
        · exact ih (n / 10) (by omega) hb
        · rw [List.mem_singleton.mp hb]
          exact isDigit_digitByte
            (Nat.mod_lt n (by omega))

/- Only zero starts with a zero digit. -/
theorem formatUint_head
    {n : Nat}
    (hn : n ≠ 0) :
    ∃ b bs, formatUint n = b :: bs ∧
      isDigit b = true ∧ b ≠ 48 := by
  induction n using Nat.strongRecOn with
  | ind n ih =>
      by_cases hLt : n < 10
      · refine ⟨digitByte n, [], formatUint_of_lt hLt,
          isDigit_digitByte hLt, ?_⟩
        interval_cases n <;> first | omega | decide
      · have hLe : 10 ≤ n := Nat.le_of_not_lt hLt
        rcases ih (n / 10) (by omega) (by omega) with
          ⟨b, bs, hFormat, hDigit, hNe⟩
        refine ⟨b, bs ++ [digitByte (n % 10)], ?_,
          hDigit, hNe⟩
        rw [formatUint_of_le hLe, hFormat, List.cons_append]

theorem digitsValue_append
    (acc : Nat)
    (xs ys : Bytes) :
    digitsValue acc (xs ++ ys) =
      (digitsValue acc xs).bind
        (fun v => digitsValue v ys) := by
  induction xs generalizing acc with
  | nil => rfl
  | cons x xs ih =>
      by_cases hx : isDigit x = true
      · simp [digitsValue, hx, ih]
      · simp [digitsValue, hx]

theorem digitsValue_formatUint
    (n : Nat) :
    digitsValue 0 (formatUint n) = some n := by
  induction n using Nat.strongRecOn with
  | ind n ih =>
      by_cases hn : n < 10
      · rw [formatUint_of_lt hn]
        simp [digitsValue, isDigit_digitByte hn,
          toNat_digitByte hn]
      · have hLe : 10 ≤ n := Nat.le_of_not_lt hn
        have hMod : n % 10 < 10 :=
          Nat.mod_lt n (by omega)
        rw [formatUint_of_le hLe, digitsValue_append,
          ih (n / 10) (by omega)]
        simp only [Option.bind_some, digitsValue,
          isDigit_digitByte hMod, toNat_digitByte hMod,
          if_true]
        congr 1
        omega

/- A formatted 64-bit number parses back. -/
theorem parseUint64_formatUint
    (v : UInt64) :
    parseUint64 (formatUint v.toNat) = some v := by
  have hBound : v.toNat < 2 ^ 64 := v.toNat_lt
  rw [parseUint64, if_neg (formatUint_ne_nil _),
    digitsValue_formatUint]
  simp only [hBound, if_true, UInt64.ofNat_toNat]

end BridgeSigner

------------------------------------------------------------
-- Hexadecimal Text
------------------------------------------------------------

namespace BridgeSigner

/- The lower-case digit of a nibble. -/
def hexDigit
    (n : Nat) : UInt8 :=
  if n < 10 then
    UInt8.ofNat (48 + n)
  else
    UInt8.ofNat (87 + n)

/- The nibble of a hexadecimal digit of either case. -/
def hexValue
    (b : UInt8) : Option Nat :=
  if isDigit b then
    some (b.toNat - 48)
  else if 97 ≤ b && b ≤ 102 then
    some (b.toNat - 87)
  else if 65 ≤ b && b ≤ 70 then
    some (b.toNat - 55)
  else
    none

/- Two digits for every byte. -/
def encodeHex : Bytes → Bytes
| [] => []
| b :: bs =>
    hexDigit (b.toNat / 16) :: hexDigit (b.toNat % 16) ::
      encodeHex bs

/- Decode text of even length that holds only digits. -/
def decodeHex : Bytes → Option Bytes
| [] => some []
| [_] => none
| a :: b :: rest =>
    match hexValue a, hexValue b, decodeHex rest with
    | some x, some y, some bs =>
        some (UInt8.ofNat (x * 16 + y) :: bs)
    | _, _, _ => none

theorem hexValue_hexDigit
    {n : Nat}
    (hn : n < 16) :
    hexValue (hexDigit n) = some n := by
  interval_cases n <;> rfl

theorem decodeHex_encodeHex
    (bs : Bytes) :
    decodeHex (encodeHex bs) = some bs := by
  induction bs with
  | nil => rfl
  | cons b bs ih =>
      have hBound : b.toNat < 256 := b.toNat_lt
      have hHigh : b.toNat / 16 < 16 := by omega
      have hLow : b.toNat % 16 < 16 := by omega
      have hJoin :
          b.toNat / 16 * 16 + b.toNat % 16 = b.toNat := by
        omega
      simp [encodeHex, decodeHex, hexValue_hexDigit hHigh,
        hexValue_hexDigit hLow, ih, hJoin]

theorem length_encodeHex
    (bs : Bytes) :
    (encodeHex bs).length = 2 * bs.length := by
  induction bs with
  | nil => rfl
  | cons b bs ih =>
      simp only [encodeHex, List.length_cons, ih]
      omega

theorem encodeHex_eq_nil_iff
    (bs : Bytes) :
    encodeHex bs = [] ↔ bs = [] := by
  cases bs with
  | nil => simp [encodeHex]
  | cons b bs => simp [encodeHex]

/- Hexadecimal text has letters and digits only. -/
theorem encodeHex_plain
    {bs : Bytes}
    {c : UInt8}
    (hc : c ∈ encodeHex bs) :
    32 ≤ c.toNat ∧ c.toNat < 128 ∧ c ≠ 34 ∧ c ≠ 92 := by
  have hDigit :
      ∀ n, n < 16 →
        32 ≤ (hexDigit n).toNat ∧
          (hexDigit n).toNat < 128 ∧
            hexDigit n ≠ 34 ∧ hexDigit n ≠ 92 := by
    decide
  induction bs with
  | nil => cases hc
  | cons b bs ih =>
      have hBound : b.toNat < 256 := b.toNat_lt
      simp only [encodeHex, List.mem_cons] at hc
      rcases hc with rfl | rfl | hc
      · exact hDigit _ (by omega)
      · exact hDigit _ (by omega)
      · exact ih hc

end BridgeSigner

------------------------------------------------------------
-- White Space
------------------------------------------------------------

namespace BridgeSigner

/- UTF-8 encodings of the white space code points. -/
def spaceEncodings : List Bytes :=
  [[9], [10], [11], [12], [13], [32],
   [0xC2, 0x85], [0xC2, 0xA0], [0xE1, 0x9A, 0x80],
   [0xE2, 0x80, 0x80], [0xE2, 0x80, 0x81],
   [0xE2, 0x80, 0x82], [0xE2, 0x80, 0x83],
   [0xE2, 0x80, 0x84], [0xE2, 0x80, 0x85],
   [0xE2, 0x80, 0x86], [0xE2, 0x80, 0x87],
   [0xE2, 0x80, 0x88], [0xE2, 0x80, 0x89],
   [0xE2, 0x80, 0x8A], [0xE2, 0x80, 0xA8],
   [0xE2, 0x80, 0xA9], [0xE2, 0x80, 0xAF],
   [0xE2, 0x81, 0x9F], [0xE3, 0x80, 0x80]]

/- Strip encodings from the front, at most `fuel` of them. -/
def stripFront
    (encodings : List Bytes) :
    Nat → Bytes → Bytes
| 0, s => s
| fuel + 1, s =>
    match encodings.find? (fun e => e.isPrefixOf s) with
    | none => s
    | some e => stripFront encodings fuel (s.drop e.length)

/- Strip white space from both ends. -/
def trimSpace
    (s : Bytes) : Bytes :=
  let front := stripFront spaceEncodings s.length s
  (stripFront (spaceEncodings.map List.reverse)
    front.length front.reverse).reverse

theorem stripFront_of_none
    {encodings : List Bytes}
    {s : Bytes}
    (hNone :
      encodings.find? (fun e => e.isPrefixOf s) = none)
    (fuel : Nat) :
    stripFront encodings fuel s = s := by
  cases fuel with
  | zero => rfl
  | succ fuel => simp [stripFront, hNone]

/- Text between two braces has no white space to strip. -/
theorem trimSpace_braces
    (s : Bytes) :
    trimSpace (123 :: (s ++ [125])) =
      123 :: (s ++ [125]) := by
  have hFront :
      spaceEncodings.find?
          (fun e => e.isPrefixOf (123 :: (s ++ [125]))) =
        none := by
    simp [spaceEncodings]
  have hBack :
      (spaceEncodings.map List.reverse).find?
          (fun e =>
            e.isPrefixOf (123 :: (s ++ [125])).reverse) =
        none := by
    simp [spaceEncodings]
  simp only [trimSpace, stripFront_of_none hFront,
    stripFront_of_none hBack, List.reverse_reverse]

/- No encoding is the front of another. -/
def FrontFree
    (encodings : List Bytes) : Prop :=
  ∀ e ∈ encodings,
    e ≠ [] ∧ ∀ w ∈ encodings, e <+: w → e = w

instance
    (encodings : List Bytes) :
    Decidable (FrontFree encodings) := by
  unfold FrontFree
  infer_instance

/- The encoding that a text starts with is found. -/
theorem FrontFree.find_append
    {encodings : List Bytes}
    (hFree : FrontFree encodings)
    {w : Bytes}
    (hw : w ∈ encodings)
    (s : Bytes) :
    encodings.find? (fun e => e.isPrefixOf (w ++ s)) =
      some w := by
  cases hFind :
      encodings.find? (fun e => e.isPrefixOf (w ++ s)) with
  | none =>
      rw [List.find?_eq_none] at hFind
      exact absurd
        (List.isPrefixOf_iff_prefix.mpr
          (List.prefix_append w s))
        (hFind w hw)
  | some e =>
      have he := List.mem_of_find?_eq_some hFind
      have hFound : e.isPrefixOf (w ++ s) = true := by
        simpa using List.find?_some hFind
      have hPrefix := List.isPrefixOf_iff_prefix.mp hFound
      -- Both start the text, so one starts the other.
      rcases List.prefix_or_prefix_of_prefix hPrefix
          (List.prefix_append w s) with hFront | hFront
      · rw [(hFree e he).2 w hw hFront]
      · rw [(hFree w hw).2 e he hFront]

/- Encodings in front of other text are all stripped. -/
theorem stripFront_flatten
    {encodings : List Bytes}
    (hFree : FrontFree encodings)
    {ws : List Bytes}
    (hws : ∀ w ∈ ws, w ∈ encodings)
    {rest : Bytes}
    (hRest :
      encodings.find? (fun e => e.isPrefixOf rest) = none)
    {fuel : Nat}
    (hFuel : (ws.flatten ++ rest).length ≤ fuel) :
    stripFront encodings fuel (ws.flatten ++ rest) =
      rest := by
  induction ws generalizing fuel with
  | nil => exact stripFront_of_none hRest fuel
  | cons w ws ih =>
      rw [List.forall_mem_cons] at hws
      have hPos : 0 < w.length :=
        List.length_pos_iff.mpr (hFree w hws.1).1
      rw [List.flatten_cons, List.append_assoc] at hFuel ⊢
      rw [List.length_append] at hFuel
      cases fuel with
      | zero => omega
      | succ fuel =>
          simp only [stripFront, hFree.find_append hws.1,
            List.drop_left]
          exact ih hws.2 (by omega)

/- White space: encodings one after the other. -/
def WhiteSpace
    (s : Bytes) : Prop :=
  ∃ ws : List Bytes,
    (∀ w ∈ ws, w ∈ spaceEncodings) ∧ s = ws.flatten

/- A byte that no encoding starts or ends with. -/
def Visible
    (b : UInt8) : Prop :=
  ∀ e ∈ spaceEncodings,
    e.head? ≠ some b ∧ e.reverse.head? ≠ some b

theorem find_visible
    {encodings : List Bytes}
    (hNe : ∀ e ∈ encodings, e ≠ [])
    {b : UInt8}
    (hHead : ∀ e ∈ encodings, e.head? ≠ some b)
    (s : Bytes) :
    encodings.find? (fun e => e.isPrefixOf (b :: s)) =
      none := by
  rw [List.find?_eq_none]
  intro e he hPrefix
  have hNotNil := hNe e he
  have hOther := hHead e he
  cases e with
  | nil => exact hNotNil rfl
  | cons c e =>
      rw [List.isPrefixOf_iff_prefix,
        List.cons_prefix_cons] at hPrefix
      exact hOther (by rw [hPrefix.1]; rfl)

theorem spaceEncodings_free :
    FrontFree spaceEncodings ∧
      FrontFree (spaceEncodings.map List.reverse) := by
  decide +kernel

/- White space around a text is stripped, and no more. -/
theorem trimSpace_padded
    {front core back : Bytes}
    (hFront : WhiteSpace front)
    (hBack : WhiteSpace back)
    (hNe : core ≠ [])
    (hCore : ∀ b ∈ core, Visible b) :
    trimSpace (front ++ (core ++ back)) = core := by
  rcases hFront with ⟨ws, hws, rfl⟩
  rcases hBack with ⟨vs, hvs, rfl⟩
  have hFindFront :
      spaceEncodings.find?
          (fun e => e.isPrefixOf (core ++ vs.flatten)) =
        none := by
    cases core with
    | nil => exact absurd rfl hNe
    | cons b core =>
        apply find_visible
        · exact fun e he => (spaceEncodings_free.1 e he).1
        · exact fun e he => (hCore b (by simp) e he).1
  have hFindBack :
      (spaceEncodings.map List.reverse).find?
          (fun e => e.isPrefixOf core.reverse) =
        none := by
    cases hRev : core.reverse with
    | nil => exact absurd (List.reverse_eq_nil_iff.mp hRev) hNe
    | cons b rest =>
        have hb : b ∈ core := by
          rw [← List.mem_reverse, hRev]
          simp
        apply find_visible
        · exact fun e he => (spaceEncodings_free.2 e he).1
        · intro e he
          rcases List.mem_map.mp he with ⟨w, hw, rfl⟩
          exact (hCore b hb w hw).2
  have hStrip :
      stripFront spaceEncodings
          (ws.flatten ++ (core ++ vs.flatten)).length
          (ws.flatten ++ (core ++ vs.flatten)) =
        core ++ vs.flatten :=
    stripFront_flatten spaceEncodings_free.1 hws hFindFront
      le_rfl
  have hReverse :
      (core ++ vs.flatten).reverse =
        (vs.reverse.map List.reverse).flatten ++
          core.reverse := by
    rw [List.reverse_append, List.reverse_flatten,
      List.map_reverse]
  have hStripBack :
      stripFront (spaceEncodings.map List.reverse)
          (core ++ vs.flatten).length
          (core ++ vs.flatten).reverse =
        core.reverse := by
    rw [hReverse]
    apply stripFront_flatten spaceEncodings_free.2 _ hFindBack
    · rw [← hReverse, List.length_reverse]
    · intro w hw
      rcases List.mem_map.mp hw with ⟨v, hv, rfl⟩
      exact List.mem_map_of_mem
        (hvs v (List.mem_reverse.mp hv))
  simp only [trimSpace, hStrip, hStripBack,
    List.reverse_reverse]

theorem visible_of_isDigit
    {b : UInt8}
    (hb : isDigit b = true) :
    Visible b := by
  have hEdges :
      ∀ e ∈ spaceEncodings,
        (∀ c ∈ e.head?, isDigit c = false) ∧
          ∀ c ∈ e.reverse.head?, isDigit c = false := by
    decide +kernel
  intro e he
  constructor
  · intro hHead
    have hOther := (hEdges e he).1 b hHead
    rw [hb] at hOther
    cases hOther
  · intro hLast
    have hOther := (hEdges e he).2 b hLast
    rw [hb] at hOther
    cases hOther

end BridgeSigner
