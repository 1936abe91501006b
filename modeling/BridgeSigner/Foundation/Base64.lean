import BridgeSigner.Foundation.Bytes

/-
  The standard base64 encoding with padding.

  The decoder skips line ends wherever they stand, and it
  does not look at the bits that padding leaves over.

  Main declarations:
    * `Base64.encode`, `Base64.decode`
    * `Base64.decode_encode`
    * `Base64.mem_encode`
-/

------------------------------------------------------------
-- The Code
------------------------------------------------------------

namespace BridgeSigner

namespace Base64

def alphabet : Bytes :=
  ascii
    ("ABCDEFGHIJKLMNOPQRSTUVWXYZ" ++
      "abcdefghijklmnopqrstuvwxyz0123456789+/")

/- The character of six bits. -/
def digit
    (n : Nat) : UInt8 :=
  alphabet.getD n 0

/- The six bits of a character. -/
def value
    (c : UInt8) : Option Nat :=
  if alphabet.idxOf c < 64 then
    some (alphabet.idxOf c)
  else
    none

/- The character of the padding, "=". -/
def pad : UInt8 := 61

/- The six bits of each character, from the bytes. -/
def bits1
    (a : UInt8) : Nat :=
  a.toNat / 4

def bits2
    (a b : UInt8) : Nat :=
  a.toNat % 4 * 16 + b.toNat / 16

def bits3
    (b c : UInt8) : Nat :=
  b.toNat % 16 * 4 + c.toNat / 64

def bits4
    (c : UInt8) : Nat :=
  c.toNat % 64

/- Three bytes at a time; the bits that lack are zero. -/
def encode : Bytes → Bytes
| [] => []
| [a] => [digit (bits1 a), digit (bits2 a 0), pad, pad]
| [a, b] =>
    [digit (bits1 a), digit (bits2 a b), digit (bits3 b 0),
      pad]
| a :: b :: c :: rest =>
    digit (bits1 a) :: digit (bits2 a b) ::
      digit (bits3 b c) :: digit (bits4 c) :: encode rest

/- The bytes of four characters, the first to the third. -/
def first
    (x y : Nat) : UInt8 :=
  UInt8.ofNat (x * 4 + y / 16)

def second
    (y z : Nat) : UInt8 :=
  UInt8.ofNat (y % 16 * 16 + z / 4)

def third
    (z w : Nat) : UInt8 :=
  UInt8.ofNat (z % 4 * 64 + w)

/- Four characters at a time; padding ends the text. -/
def decodeGroups : Bytes → Option Bytes
| [] => some []
| a :: b :: c :: d :: rest =>
    match value a, value b with
    | some x, some y =>
        if c = pad then
          if d = pad ∧ rest = [] then
            some [first x y]
          else
            none
        else
          match value c with
          | none => none
          | some z =>
              if d = pad then
                if rest = [] then
                  some [first x y, second y z]
                else
                  none
              else
                match value d with
                | none => none
                | some w =>
                    (decodeGroups rest).map
                      (fun bs =>
                        first x y :: second y z ::
                          third z w :: bs)
    | _, _ => none
| _ => none

def decode
    (s : Bytes) : Option Bytes :=
  decodeGroups (s.filter (fun c => c ≠ 10 ∧ c ≠ 13))

example :
    decode (ascii "Zm9vYg==\n") = some (ascii "foob") := by
  decide +kernel

end Base64

end BridgeSigner

------------------------------------------------------------
-- Round Trip
------------------------------------------------------------

namespace BridgeSigner

namespace Base64

theorem value_digit
    {n : Nat}
    (hn : n < 64) :
    value (digit n) = some n ∧ digit n ≠ pad ∧
      digit n ∈ alphabet := by
  have hAll :
      ∀ n < 64,
        value (digit n) = some n ∧ digit n ≠ pad ∧
          digit n ∈ alphabet := by
    decide +kernel
  exact hAll n hn

theorem bits1_lt
    (a : UInt8) :
    bits1 a < 64 := by
  have ha := a.toNat_lt
  unfold bits1
  omega

theorem bits2_lt
    (a b : UInt8) :
    bits2 a b < 64 := by
  have hb := b.toNat_lt
  unfold bits2
  omega

theorem bits3_lt
    (b c : UInt8) :
    bits3 b c < 64 := by
  have hc := c.toNat_lt
  unfold bits3
  omega

theorem bits4_lt
    (c : UInt8) :
    bits4 c < 64 := by
  unfold bits4
  omega

theorem first_bits
    (a b : UInt8) :
    first (bits1 a) (bits2 a b) = a := by
  have ha := a.toNat_lt
  have hb := b.toNat_lt
  apply UInt8.toNat_inj.mp
  simp only [first, bits1, bits2, UInt8.toNat_ofNat']
  omega

theorem second_bits
    (a b c : UInt8) :
    second (bits2 a b) (bits3 b c) = b := by
  have hb := b.toNat_lt
  have hc := c.toNat_lt
  apply UInt8.toNat_inj.mp
  simp only [second, bits2, bits3, UInt8.toNat_ofNat']
  omega

theorem third_bits
    (b c : UInt8) :
    third (bits3 b c) (bits4 c) = c := by
  have hc := c.toNat_lt
  apply UInt8.toNat_inj.mp
  simp only [third, bits3, bits4, UInt8.toNat_ofNat']
  omega

theorem mem_encode
    {bs : Bytes}
    {x : UInt8}
    (hx : x ∈ encode bs) :
    x ∈ alphabet ∨ x = pad := by
  fun_induction encode bs with
  | case1 => cases hx
  | case2 a =>
      have h1 := (value_digit (bits1_lt a)).2.2
      have h2 := (value_digit (bits2_lt a 0)).2.2
      simp only [List.mem_cons, List.not_mem_nil] at hx
      grind
  | case3 a b =>
      have h1 := (value_digit (bits1_lt a)).2.2
      have h2 := (value_digit (bits2_lt a b)).2.2
      have h3 := (value_digit (bits3_lt b 0)).2.2
      simp only [List.mem_cons, List.not_mem_nil] at hx
      grind
  | case4 a b c rest ih =>
      have h1 := (value_digit (bits1_lt a)).2.2
      have h2 := (value_digit (bits2_lt a b)).2.2
      have h3 := (value_digit (bits3_lt b c)).2.2
      have h4 := (value_digit (bits4_lt c)).2.2
      simp only [List.mem_cons] at hx
      grind

theorem decodeGroups_encode
    (bs : Bytes) :
    decodeGroups (encode bs) = some bs := by
  fun_induction encode bs with
  | case1 => rfl
  | case2 a =>
      simp [decodeGroups, value_digit (bits1_lt a),
        value_digit (bits2_lt a 0), first_bits]
  | case3 a b =>
      simp [decodeGroups, value_digit (bits1_lt a),
        value_digit (bits2_lt a b),
        value_digit (bits3_lt b 0), first_bits, second_bits]
  | case4 a b c rest ih =>
      simp [decodeGroups, value_digit (bits1_lt a),
        value_digit (bits2_lt a b),
        value_digit (bits3_lt b c),
        value_digit (bits4_lt c), ih, first_bits,
        second_bits, third_bits]

/- No character of the code is skipped. -/
theorem filter_encode
    (bs : Bytes) :
    (encode bs).filter (fun c => c ≠ 10 ∧ c ≠ 13) =
      encode bs := by
  have hKept :
      ∀ c ∈ pad :: alphabet, c ≠ 10 ∧ c ≠ 13 := by
    decide +kernel
  rw [List.filter_eq_self]
  intro c hc
  have hMem : c ∈ pad :: alphabet := by
    rcases mem_encode hc with hc | rfl
    · exact List.mem_cons_of_mem pad hc
    · exact List.mem_cons_self
  exact decide_eq_true (hKept c hMem)

theorem decode_encode
    (bs : Bytes) :
    decode (encode bs) = some bs := by
  rw [decode, filter_encode, decodeGroups_encode]

end Base64

end BridgeSigner
