import Mathlib.Data.List.Induction
import Mathlib.Data.List.Basic
import Mathlib.Tactic.Ring

/-
  Byte strings, big-endian words and zero padding.

  Byte strings are lists of octets. A string of the modelled
  language is a byte string too, and `ascii` writes its
  literals.

  Main declarations:
    * `Bytes`
    * `ascii`
    * `beBytes`, `beNat`
    * `beNat_beBytes`
    * `beBytes_inj`
    * `minBytes`
    * `zeros_append_minBytes`
    * `padRight`
    * `flatten_blocks_inj`
-/

------------------------------------------------------------
-- Byte Strings
------------------------------------------------------------

namespace BridgeSigner

/- A byte string. -/
abbrev Bytes :=
  List UInt8

/- The bytes of an ASCII literal. -/
def ascii
    (s : String) : Bytes :=
  s.toList.map (fun c => UInt8.ofNat c.toNat)

/- A run of zero bytes. -/
def zeros
    (n : Nat) : Bytes :=
  List.replicate n 0

@[simp] theorem length_zeros
    (n : Nat) :
    (zeros n).length = n := by
  simp [zeros]

end BridgeSigner

------------------------------------------------------------
-- Big-Endian Words
------------------------------------------------------------

namespace BridgeSigner

/- The low `w` bytes of `n`, most significant byte first. -/
def beBytes : Nat → Nat → Bytes
| 0, _ => []
| w + 1, n => beBytes w (n / 256) ++ [UInt8.ofNat n]

/- The number that big-endian bytes spell. -/
def beNat
    (b : Bytes) : Nat :=
  b.foldl (fun acc x => acc * 256 + x.toNat) 0

@[simp] theorem length_beBytes
    (w n : Nat) :
    (beBytes w n).length = w := by
  induction w generalizing n with
  | zero => rfl
  | succ w ih => simp [beBytes, ih]

theorem beNat_concat
    (b : Bytes)
    (x : UInt8) :
    beNat (b ++ [x]) = beNat b * 256 + x.toNat := by
  simp [beNat, List.foldl_append]

/- Reading a word back reduces it to the word's width. -/
theorem beNat_beBytes
    (w n : Nat) :
    beNat (beBytes w n) = n % 256 ^ w := by
  induction w generalizing n with
  | zero => simp [beBytes, beNat, Nat.mod_one]
  | succ w ih =>
      have hByte : (UInt8.ofNat n).toNat = n % 256 := by
        simp
      rw [beBytes, beNat_concat, ih, hByte, Nat.pow_succ,
        Nat.mul_comm (256 ^ w) 256, Nat.mod_mul]
      ring

/- Bytes are the word of the number they spell. -/
theorem beBytes_beNat
    (b : Bytes) :
    beBytes b.length (beNat b) = b := by
  induction b using List.reverseRecOn with
  | nil => rfl
  | append_singleton b x ih =>
      have hByte := x.toNat_lt
      have hHigh : (beNat b * 256 + x.toNat) / 256 = beNat b := by
        omega
      have hLow :
          UInt8.ofNat (beNat b * 256 + x.toNat) = x := by
        apply UInt8.toNat_inj.mp
        have hMod :
            (UInt8.ofNat (beNat b * 256 + x.toNat)).toNat =
              (beNat b * 256 + x.toNat) % 256 := by
          simp
        omega
      rw [List.length_append, List.length_singleton, beBytes,
        beNat_concat, hHigh, hLow, ih]

theorem beNat_lt
    (b : Bytes) :
    beNat b < 256 ^ b.length := by
  have hMod := beNat_beBytes b.length (beNat b)
  rw [beBytes_beNat] at hMod
  rw [hMod]
  exact Nat.mod_lt _ (Nat.pow_pos (by decide))

/- Words of one width agree only on congruent numbers. -/
theorem mod_eq_of_beBytes_eq
    {w m n : Nat}
    (hEq : beBytes w m = beBytes w n) :
    m % 256 ^ w = n % 256 ^ w := by
  rw [← beNat_beBytes, ← beNat_beBytes, hEq]

theorem beBytes_inj
    {w m n : Nat}
    (hm : m < 256 ^ w)
    (hn : n < 256 ^ w)
    (hEq : beBytes w m = beBytes w n) :
    m = n := by
  have hMod := mod_eq_of_beBytes_eq hEq
  rwa [Nat.mod_eq_of_lt hm, Nat.mod_eq_of_lt hn] at hMod

end BridgeSigner

------------------------------------------------------------
-- Numbers Without Leading Zeros
------------------------------------------------------------

namespace BridgeSigner

/- How many bytes a number takes; zero takes none. -/
def byteLength
    (n : Nat) : Nat :=
  if n = 0 then 0 else n.log2 / 8 + 1

/- The bytes of a number, with no leading zero byte. -/
def minBytes
    (n : Nat) : Bytes :=
  beBytes (byteLength n) n

theorem byteLength_le_iff
    (n w : Nat) :
    byteLength n ≤ w ↔ n < 256 ^ w := by
  have hPow : 256 ^ w = 2 ^ (8 * w) := by
    rw [Nat.pow_mul]
  by_cases hZero : n = 0
  · simp [byteLength, hZero]
  · rw [byteLength, if_neg hZero, hPow,
      ← Nat.log2_lt hZero]
    omega

@[simp] theorem length_minBytes
    (n : Nat) :
    (minBytes n).length = byteLength n :=
  length_beBytes _ n

@[simp] theorem beBytes_zero
    (w : Nat) :
    beBytes w 0 = zeros w := by
  induction w with
  | zero => rfl
  | succ w ih =>
      simp [beBytes, ih, zeros, ← List.replicate_succ']

/- The bytes above a number that fits are zero. -/
theorem beBytes_add
    (k w n : Nat) :
    beBytes (k + w) n =
      beBytes k (n / 256 ^ w) ++ beBytes w n := by
  induction w generalizing n with
  | zero => simp [beBytes]
  | succ w ih =>
      rw [← Nat.add_assoc, beBytes, ih, beBytes,
        Nat.div_div_eq_div_mul, ← Nat.pow_succ',
        List.append_assoc]

/- Left-padding a number gives its word. -/
theorem zeros_append_minBytes
    {w n : Nat}
    (hn : n < 256 ^ w) :
    zeros (w - byteLength n) ++ minBytes n =
      beBytes w n := by
  have hLe := (byteLength_le_iff n w).mpr hn
  have hFits : n < 256 ^ byteLength n :=
    (byteLength_le_iff n _).mp le_rfl
  have hSplit := beBytes_add (w - byteLength n)
    (byteLength n) n
  rw [Nat.sub_add_cancel hLe, Nat.div_eq_of_lt hFits,
    beBytes_zero] at hSplit
  exact hSplit.symm

end BridgeSigner

------------------------------------------------------------
-- Padding
------------------------------------------------------------

namespace BridgeSigner

/- Copy into a zeroed buffer of `w` bytes from its front. -/
def padRight
    (w : Nat)
    (b : Bytes) : Bytes :=
  b.take w ++ zeros (w - b.length)

@[simp] theorem length_padRight
    (w : Nat)
    (b : Bytes) :
    (padRight w b).length = w := by
  simp only [padRight, List.length_append,
    List.length_take, length_zeros]
  omega

theorem padRight_of_length
    {w : Nat}
    {b : Bytes}
    (hLength : b.length = w) :
    padRight w b = b := by
  subst hLength
  simp [padRight, zeros]

end BridgeSigner

------------------------------------------------------------
-- Blocks Of One Width
------------------------------------------------------------

namespace BridgeSigner

/- Concatenated blocks of one width are told apart. -/
theorem flatten_blocks_inj
    {w : Nat}
    (hWidth : 0 < w)
    {as bs : List Bytes}
    (ha : ∀ a ∈ as, a.length = w)
    (hb : ∀ b ∈ bs, b.length = w)
    (hEq : as.flatten = bs.flatten) :
    as = bs := by
  induction as generalizing bs with
  | nil =>
      cases bs with
      | nil => rfl
      | cons b bs =>
          have hLength := hb b (by simp)
          have hNil := congrArg List.length hEq
          simp only [List.flatten_nil, List.flatten_cons,
            List.length_nil, List.length_append] at hNil
          omega
  | cons a as ih =>
      cases bs with
      | nil =>
          have hLength := ha a (by simp)
          have hNil := congrArg List.length hEq
          simp only [List.flatten_nil, List.flatten_cons,
            List.length_nil, List.length_append] at hNil
          omega
      | cons b bs =>
          rw [List.forall_mem_cons] at ha hb
          rcases List.append_inj hEq (ha.1.trans hb.1.symm) with
            ⟨hHead, hTail⟩
          rw [hHead, ih ha.2 hb.2 hTail]

end BridgeSigner
