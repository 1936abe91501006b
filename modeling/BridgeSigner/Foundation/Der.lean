import BridgeSigner.Foundation.Gates

/-
  Reading DER: elements with their tag and length, and
  integers of any size.

  An element is read from the front of a byte string; what
  follows it is returned. Lengths and integers must be in
  their shortest form.

  Main declarations:
    * `Der.Error`
    * `Der.readLength`
    * `Der.readElement`
    * `Der.readInteger`
-/

------------------------------------------------------------
-- Tags And Lengths
------------------------------------------------------------

namespace BridgeSigner

namespace Der

/- Why a byte string was not read. -/
inductive Error where
| sequenceTruncated
| truncatedTagOrLength
| highTag
| indefiniteLength
| lengthTooLarge
| leadingZeros
| nonMinimalLength
| tagsDontMatch
| dataTruncated
| emptyInteger
| nonMinimalInteger
  deriving DecidableEq, Repr

/-
  The value of a long length. It is read while it stays
  below 2^23, so that it never leaves 31 bits.
-/
def longLength :
    Nat → Nat → Bytes → Except Error (Nat × Bytes)
| 0, n, rest => .ok (n, rest)
| _ + 1, _, [] => .error .truncatedTagOrLength
| k + 1, n, b :: rest =>
    if 2 ^ 23 ≤ n then
      .error .lengthTooLarge
    else if n * 256 + b.toNat = 0 then
      .error .leadingZeros
    else
      longLength k (n * 256 + b.toNat) rest

/- A length in its short or in its long form. -/
def readLength :
    Bytes → Except Error (Nat × Bytes)
| [] => .error .truncatedTagOrLength
| b :: rest =>
    if b < 0x80 then
      .ok (b.toNat, rest)
    else if b = 0x80 then
      .error .indefiniteLength
    else do
      let (n, rest) ← longLength (b.toNat - 0x80) 0 rest
      ensure (0x80 ≤ n) .nonMinimalLength
      .ok (n, rest)

/-
  The content of the element with this tag, and what follows
  it. A tag number of several bytes is never the one asked
  for.
-/
def readElement
    (tag : UInt8) :
    Bytes → Except Error (Bytes × Bytes)
| [] => .error .sequenceTruncated
| b :: rest => do
    ensure (b &&& 0x1f ≠ 0x1f) .highTag
    let (n, rest) ← readLength rest
    ensure (b = tag) .tagsDontMatch
    ensure (n ≤ rest.length) .dataTruncated
    .ok (rest.take n, rest.drop n)

end Der

end BridgeSigner

------------------------------------------------------------
-- Integers
------------------------------------------------------------

namespace BridgeSigner

namespace Der

/- The number that two's complement bytes spell. -/
def signedInt
    (b : Bytes) : Int :=
  if 0x80 ≤ b.headD 0 then
    -((beNat (b.map (fun x => ~~~x)) : Int) + 1)
  else
    beNat b

/- Not empty, and no shorter form of the same number. -/
def checkInteger : Bytes → Except Error Unit
| [] => .error .emptyInteger
| [_] => .ok ()
| x :: y :: _ =>
    ensure
      (¬((x = 0 ∧ y < 0x80) ∨ (x = 0xff ∧ 0x80 ≤ y)))
      .nonMinimalInteger

/- The INTEGER at the front, and what follows it. -/
def readInteger
    (b : Bytes) : Except Error (Int × Bytes) := do
  let (content, rest) ← readElement 0x02 b
  checkInteger content
  .ok (signedInt content, rest)

end Der

end BridgeSigner
