import BridgeSigner.Foundation.Der

/-
  More of DER: object identifiers, bit strings and elements of
  any kind, and the writing of elements.

  An object identifier is a sequence of integers in base 128,
  each in its shortest form and below 2^31.

  Key definitions include:
    * `Der.checkObjectIdentifier`
    * `Der.readBits`
    * `Der.readAny`
    * `Der.element`

  Main results:
    * `Der.readElement_element`
    * `Der.readAny_element`
-/

------------------------------------------------------------
-- Values
------------------------------------------------------------

namespace BridgeSigner

namespace Der

/- Why a value was not read. -/
inductive ValueError where
| element (e : Error)
| nonMinimalTag
| emptyOID
| base128Truncated
| base128TooLarge
| base128NotMinimal
| emptyBits
| paddingBits
  deriving DecidableEq, Repr

/-
  One more byte of a base 128 integer, `shifted` bytes into
  it: the integer so far, and whether it ends here.
-/
def base128Byte
    (shifted n : Nat)
    (b : UInt8) : Except ValueError (Nat × Bool) :=
  if shifted = 5 then
    .error .base128TooLarge
  else if shifted = 0 ∧ b = 0x80 then
    .error .base128NotMinimal
  else if 0x80 ≤ b then
    .ok (n * 128 + (b.toNat - 128), false)
  else if 2 ^ 31 ≤ n * 128 + b.toNat then
    .error .base128TooLarge
  else
    .ok (n * 128 + b.toNat, true)

/- A base 128 integer, and what follows it. -/
def readBase128 :
    Nat → Nat → Bytes → Except ValueError (Nat × Bytes)
| _, _, [] => .error .base128Truncated
| shifted, n, b :: rest => do
    let (n, last) ← base128Byte shifted n b
    if last then .ok (n, rest)
    else readBase128 (shifted + 1) n rest

/- Base 128 integers up to the end. -/
def checkArcs :
    Nat → Nat → Bytes → Except ValueError Unit
| 0, _, [] => .ok ()
| _ + 1, _, [] => .error .base128Truncated
| shifted, n, b :: rest => do
    let (n, last) ← base128Byte shifted n b
    if last then checkArcs 0 0 rest
    else checkArcs (shifted + 1) n rest

def checkObjectIdentifier
    (b : Bytes) : Except ValueError Unit :=
  if b = [] then .error .emptyOID
  else checkArcs 0 0 b

/- The bytes of a bit string; the bits left over are zero. -/
def readBits : Bytes → Except ValueError Bytes
| [] => .error .emptyBits
| padding :: bits => do
    ensure
      (padding ≤ 7 ∧ (bits = [] → padding = 0) ∧
        ((padding :: bits).getLastD 0).toNat %
          2 ^ padding.toNat = 0)
      .paddingBits
    .ok bits

/- What follows the tag, which may take several bytes. -/
def readTag : Bytes → Except ValueError Bytes
| [] => .error (.element .sequenceTruncated)
| b :: rest =>
    if b &&& 0x1f = 0x1f then do
      let (tag, rest) ← readBase128 0 0 rest
      ensure (0x1f ≤ tag) .nonMinimalTag
      .ok rest
    else
      .ok rest

/- The content of the element at the front, whatever it is. -/
def readAny
    (b : Bytes) : Except ValueError (Bytes × Bytes) := do
  let rest ← readTag b
  let (n, rest) ← (readLength rest).mapError .element
  ensure (n ≤ rest.length) (.element .dataTruncated)
  .ok (rest.take n, rest.drop n)

end Der

end BridgeSigner

------------------------------------------------------------
-- Writing
------------------------------------------------------------

namespace BridgeSigner

namespace Der

/- A length in its shortest form. -/
def encodeLength
    (n : Nat) : Bytes :=
  if n < 128 then
    [UInt8.ofNat n]
  else
    UInt8.ofNat (128 + byteLength n) :: minBytes n

/- An element with a tag of one byte. -/
def element
    (tag : UInt8)
    (content : Bytes) : Bytes :=
  tag :: (encodeLength content.length ++ content)

theorem le_foldl_bytes
    (bs : Bytes)
    (n : Nat) :
    n ≤ bs.foldl (fun acc x => acc * 256 + x.toNat) n := by
  induction bs generalizing n with
  | nil => exact le_rfl
  | cons b bs ih =>
      have hTail := ih (n * 256 + b.toNat)
      simp only [List.foldl_cons]
      omega

/-
  A long length without a leading zero is read as it stands,
  while it stays below 2^31.
-/
theorem longLength_append
    (bs rest : Bytes)
    {n : Nat}
    (hStart : n ≠ 0 ∨ bs.headD 1 ≠ 0)
    (hSmall :
      bs.foldl (fun acc x => acc * 256 + x.toNat) n <
        2 ^ 31) :
    longLength bs.length n (bs ++ rest) =
      .ok (bs.foldl (fun acc x => acc * 256 + x.toNat) n,
        rest) := by
  induction bs generalizing n with
  | nil => rfl
  | cons b bs ih =>
      simp only [List.foldl_cons] at hSmall
      have hNext :=
        le_foldl_bytes bs (n * 256 + b.toNat)
      have hPos : n * 256 + b.toNat ≠ 0 := by
        rcases hStart with hn | hb
        · omega
        · have hByte : b.toNat ≠ 0 := by
            intro hZero
            exact hb (UInt8.toNat_inj.mp hZero)
          omega
      simp only [List.length_cons, List.cons_append,
        longLength, List.foldl_cons]
      rw [if_neg (by omega), if_neg hPos]
      exact ih (Or.inl hPos) hSmall

theorem beNat_minBytes
    (n : Nat) :
    beNat (minBytes n) = n := by
  rw [minBytes, beNat_beBytes, Nat.mod_eq_of_lt]
  exact (byteLength_le_iff n _).mp le_rfl

theorem minBytes_headD
    {n : Nat}
    (hn : n ≠ 0) :
    (minBytes n).headD 1 ≠ 0 := by
  have hFits : n < 256 ^ byteLength n :=
    (byteLength_le_iff n _).mp le_rfl
  cases hLength : byteLength n with
  | zero =>
      rw [hLength, pow_zero] at hFits
      omega
  | succ w =>
      have hHigh : 256 ^ w ≤ n := by
        by_contra hLow
        have hLe :=
          (byteLength_le_iff n w).mpr (not_le.mp hLow)
        omega
      have hSplit := beBytes_add 1 w n
      rw [Nat.add_comm 1 w, ← hLength] at hSplit
      rw [minBytes, hSplit]
      have hTop : n / 256 ^ w < 256 := by
        rw [Nat.div_lt_iff_lt_mul (Nat.pow_pos (by decide))]
        rw [hLength, pow_succ] at hFits
        omega
      have hTopPos : 0 < n / 256 ^ w :=
        Nat.div_pos hHigh (Nat.pow_pos (by decide))
      intro hZero
      have hByte : UInt8.ofNat (n / 256 ^ w) = 0 := by
        simpa [beBytes] using hZero
      have hNat := congrArg UInt8.toNat hByte
      rw [UInt8.toNat_ofNat_of_lt' hTop] at hNat
      simp at hNat
      omega

theorem readLength_encodeLength
    {n : Nat}
    (hn : n < 2 ^ 31)
    (rest : Bytes) :
    readLength (encodeLength n ++ rest) = .ok (n, rest) := by
  unfold encodeLength
  split
  · rename_i hShort
    have hByte : (UInt8.ofNat n).toNat = n :=
      UInt8.toNat_ofNat_of_lt' (hShort.trans (by decide))
    have hLow : UInt8.ofNat n < 0x80 := by
      rw [UInt8.lt_iff_toNat_lt, hByte]
      exact hShort
    simp [readLength, hLow, hByte]
  · rename_i hLong
    have hBytes : byteLength n ≤ 4 := by
      rw [byteLength_le_iff]
      omega
    have hSome : byteLength n ≠ 0 := by
      intro hNone
      have hLe := (byteLength_le_iff n 0).mp hNone.le
      omega
    have hByte :
        (UInt8.ofNat (128 + byteLength n)).toNat =
          128 + byteLength n := by
      apply UInt8.toNat_ofNat_of_lt'
      have hSize : UInt8.size = 256 := rfl
      omega
    have hHigh :
        ¬UInt8.ofNat (128 + byteLength n) < 0x80 := by
      rw [UInt8.lt_iff_toNat_lt, hByte]
      simp
    have hDefinite :
        UInt8.ofNat (128 + byteLength n) ≠ 0x80 := by
      intro hEq
      have hNat := congrArg UInt8.toNat hEq
      rw [hByte] at hNat
      simp at hNat
      omega
    have hValue : beNat (minBytes n) = n := beNat_minBytes n
    have hRead :
        longLength (byteLength n) 0 (minBytes n ++ rest) =
          .ok (n, rest) := by
      have h :=
        longLength_append (minBytes n) rest (n := 0)
          (Or.inr (minBytes_headD (by omega)))
          (by rw [← beNat, hValue]; exact hn)
      rw [length_minBytes, ← beNat, hValue] at h
      exact h
    rw [List.cons_append, readLength, if_neg hHigh,
      if_neg hDefinite, hByte, Nat.add_sub_cancel_left,
      hRead, ok_bind]
    simp only
    rw [ensure_pos (by omega)]

theorem readElement_element
    {tag : UInt8}
    (hTag : tag &&& 0x1f ≠ 0x1f)
    {content : Bytes}
    (hLength : content.length < 2 ^ 31)
    (rest : Bytes) :
    readElement tag (element tag content ++ rest) =
      .ok (content, rest) := by
  rw [element, List.cons_append, List.append_assoc,
    readElement, ensure_pos hTag,
    readLength_encodeLength hLength, ok_bind]
  simp only
  rw [ensure_pos trivial, ensure_pos (by simp)]
  simp

theorem readAny_element
    {tag : UInt8}
    (hTag : tag &&& 0x1f ≠ 0x1f)
    {content : Bytes}
    (hLength : content.length < 2 ^ 31)
    (rest : Bytes) :
    readAny (element tag content ++ rest) =
      .ok (content, rest) := by
  have hRest :
      readTag (element tag content ++ rest) =
        .ok (encodeLength content.length ++
          (content ++ rest)) := by
    rw [element, List.cons_append, List.append_assoc,
      readTag, if_neg hTag]
  rw [readAny, hRest, ok_bind,
    readLength_encodeLength hLength, mapError_ok, ok_bind]
  simp only
  rw [ensure_pos (by simp)]
  simp

end Der

end BridgeSigner
