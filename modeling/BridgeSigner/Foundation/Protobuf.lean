import BridgeSigner.Foundation.Bytes

/-
  The protobuf wire format.

  A message is a sequence of fields, each with a number and a
  payload whose form the wire type tells. Varints may be
  longer than necessary, up to ten bytes. Groups are skipped
  as a whole.

  Main declarations:
    * `Protobuf.readVarint`
    * `Protobuf.readField`
    * `Protobuf.decode`
    * `Protobuf.lastBytes`
    * `Protobuf.length_of_mem_decode`
-/

------------------------------------------------------------
-- Varints
------------------------------------------------------------

namespace BridgeSigner

namespace Protobuf

/- The rest of a varint of which `k` bytes may follow. -/
def varintFrom :
    Nat → Nat → Nat → Bytes → Option (Nat × Bytes)
| 0, _, _, _ => none
| _ + 1, _, _, [] => none
| k + 1, shift, n, b :: rest =>
    let n := n + b.toNat % 128 * 2 ^ shift
    if b < 0x80 then
      some (n % 2 ^ 64, rest)
    else
      varintFrom k (shift + 7) n rest

/- A varint of at most ten bytes, in 64 bits. -/
def readVarint
    (b : Bytes) : Option (Nat × Bytes) :=
  varintFrom 10 0 0 b

/- A varint takes at least one byte. -/
theorem varintFrom_length
    {k shift n m : Nat}
    {b rest : Bytes}
    (hRead : varintFrom k shift n b = some (m, rest)) :
    rest.length + 1 ≤ b.length := by
  induction k generalizing shift n b with
  | zero => simp [varintFrom] at hRead
  | succ k ih =>
      cases b with
      | nil => simp [varintFrom] at hRead
      | cons x b =>
          simp only [varintFrom] at hRead
          split at hRead
          · cases hRead
            simp
          · have hRest := ih hRead
            rw [List.length_cons]
            omega

theorem readVarint_length
    {n : Nat}
    {b rest : Bytes}
    (hRead : readVarint b = some (n, rest)) :
    rest.length + 1 ≤ b.length :=
  varintFrom_length hRead

end Protobuf

end BridgeSigner

------------------------------------------------------------
-- Fields
------------------------------------------------------------

namespace BridgeSigner

namespace Protobuf

/- What a field carries. -/
inductive Payload where
| varint (n : Nat)
| fixed64 (b : Bytes)
| bytes (b : Bytes)
| group
| fixed32 (b : Bytes)
  deriving DecidableEq, Repr

/- A field: its number and its payload. -/
structure Field where
  number : Nat
  payload : Payload
  deriving DecidableEq, Repr

/- The first `n` bytes and the rest, if there are so many. -/
def readBytes
    (n : Nat)
    (b : Bytes) : Option (Bytes × Bytes) :=
  if n ≤ b.length then some (b.take n, b.drop n) else none

/- A length and so many bytes. -/
def readDelimited
    (b : Bytes) : Option (Bytes × Bytes) := do
  let (n, b) ← readVarint b
  readBytes n b

/-
  Skip to the end of the group that is `depth` groups further
  out. The end tags are counted, not compared.
-/
def skipGroup :
    Nat → Nat → Bytes → Option Bytes
| 0, _, _ => none
| fuel + 1, depth, b => do
    let (tag, b) ← readVarint b
    match tag % 8 with
    | 0 =>
        let (_, b) ← readVarint b
        skipGroup fuel depth b
    | 1 =>
        let (_, b) ← readBytes 8 b
        skipGroup fuel depth b
    | 2 =>
        let (_, b) ← readDelimited b
        skipGroup fuel depth b
    | 3 => skipGroup fuel (depth + 1) b
    | 4 =>
        if depth = 0 then some b
        else skipGroup fuel (depth - 1) b
    | 5 =>
        let (_, b) ← readBytes 4 b
        skipGroup fuel depth b
    | _ => none

/- The number of a tag: 32 bits, signed, and positive. -/
def fieldNumber
    (tag : Nat) : Option Nat :=
  let n := tag / 8 % 2 ^ 32
  if 0 < n ∧ n < 2 ^ 31 then some n else none

/- The payload of the given wire type. -/
def readPayload
    (wireType : Nat)
    (b : Bytes) : Option (Payload × Bytes) :=
  match wireType with
  | 0 => do
      let (n, b) ← readVarint b
      some (.varint n, b)
  | 1 => do
      let (x, b) ← readBytes 8 b
      some (.fixed64 x, b)
  | 2 => do
      let (x, b) ← readDelimited b
      some (.bytes x, b)
  | 3 => do
      let b ← skipGroup b.length 0 b
      some (.group, b)
  | 5 => do
      let (x, b) ← readBytes 4 b
      some (.fixed32 x, b)
  | _ => none

def readField
    (b : Bytes) : Option (Field × Bytes) := do
  let (tag, b) ← readVarint b
  let number ← fieldNumber tag
  let (payload, b) ← readPayload (tag % 8) b
  some (⟨number, payload⟩, b)

/- Fields up to the end; every field takes a byte. -/
def fieldsFrom :
    Nat → Bytes → Option (List Field)
| _, [] => some []
| 0, _ :: _ => none
| fuel + 1, x :: b => do
    let (f, b) ← readField (x :: b)
    let fs ← fieldsFrom fuel b
    some (f :: fs)

/- The fields of a message. -/
def decode
    (b : Bytes) : Option (List Field) :=
  fieldsFrom b.length b

/- The byte strings of one field number, in order. -/
def bytesFields
    (number : Nat)
    (fs : List Field) : List Bytes :=
  fs.filterMap (fun f =>
    match f.payload with
    | .bytes b => if f.number = number then some b else none
    | _ => none)

/- A singular byte string: the last one wins, or none. -/
def lastBytes
    (number : Nat)
    (fs : List Field) : Bytes :=
  ((bytesFields number fs).getLast?).getD []

end Protobuf

end BridgeSigner

------------------------------------------------------------
-- A Byte String Takes Two Bytes More
------------------------------------------------------------

namespace BridgeSigner

namespace Protobuf

theorem readBytes_length
    {n : Nat}
    {b x rest : Bytes}
    (hRead : readBytes n b = some (x, rest)) :
    x.length + rest.length = b.length := by
  unfold readBytes at hRead
  split at hRead
  · cases hRead
    simp
    omega
  · cases hRead

theorem readDelimited_length
    {b x rest : Bytes}
    (hRead : readDelimited b = some (x, rest)) :
    x.length + rest.length + 1 ≤ b.length := by
  rcases Option.bind_eq_some_iff.mp hRead with
    ⟨⟨n, b'⟩, hVarint, hBytes⟩
  have hFirst := readVarint_length hVarint
  have hSecond := readBytes_length hBytes
  omega

/- Skipping on after a read that shortens the input. -/
theorem length_of_read_skip
    {α : Type}
    {read : Option (α × Bytes)}
    {skip : Bytes → Option Bytes}
    {b rest : Bytes}
    (hRead :
      ∀ x c, read = some (x, c) → c.length ≤ b.length)
    (hSkip :
      ∀ c, skip c = some rest → rest.length ≤ c.length)
    (hEq : (read.bind fun r => skip r.2) = some rest) :
    rest.length ≤ b.length := by
  rcases Option.bind_eq_some_iff.mp hEq with
    ⟨⟨x, c⟩, hSome, hRest⟩
  exact (hSkip c hRest).trans (hRead x c hSome)

theorem skipGroup_length
    {fuel depth : Nat}
    {b rest : Bytes}
    (hSkip : skipGroup fuel depth b = some rest) :
    rest.length ≤ b.length := by
  induction fuel generalizing depth b with
  | zero => simp [skipGroup] at hSkip
  | succ fuel ih =>
      rcases Option.bind_eq_some_iff.mp hSkip with
        ⟨⟨tag, c⟩, hTag, hSkip⟩
      have hFirst := readVarint_length hTag
      have hBytes :
          ∀ n x d, readBytes n c = some (x, d) →
            d.length ≤ c.length := by
        intro n x d hRead
        have hLength := readBytes_length hRead
        omega
      have hRest : rest.length ≤ c.length := by
        simp only at hSkip
        split at hSkip
        · apply length_of_read_skip _ (fun _ => ih) hSkip
          intro n d hRead
          exact Nat.le_of_succ_le (readVarint_length hRead)
        · exact length_of_read_skip (hBytes 8) (fun _ => ih)
            hSkip
        · apply length_of_read_skip _ (fun _ => ih) hSkip
          intro x d hRead
          have hLength := readDelimited_length hRead
          omega
        · exact ih hSkip
        · split at hSkip
          · cases hSkip
            exact le_rfl
          · exact ih hSkip
        · exact length_of_read_skip (hBytes 4) (fun _ => ih)
            hSkip
        · cases hSkip
      omega

/- How many bytes a payload needs at least. -/
def Payload.weight : Payload → Nat
| .bytes b => b.length + 1
| _ => 0

/- A payload made from what a read has taken off. -/
theorem weight_of_read
    {α : Type}
    {read : Option (α × Bytes)}
    {make : α → Payload}
    {b rest : Bytes}
    {payload : Payload}
    (hRead :
      ∀ x c, read = some (x, c) →
        (make x).weight + c.length ≤ b.length)
    (hEq :
      (read.bind fun r => some (make r.1, r.2)) =
        some (payload, rest)) :
    payload.weight + rest.length ≤ b.length := by
  rcases Option.bind_eq_some_iff.mp hEq with
    ⟨⟨x, c⟩, hSome, hMade⟩
  cases hMade
  exact hRead x c hSome

theorem readPayload_length
    {wireType : Nat}
    {b rest : Bytes}
    {payload : Payload}
    (hRead : readPayload wireType b = some (payload, rest)) :
    payload.weight + rest.length ≤ b.length := by
  unfold readPayload at hRead
  split at hRead
  · apply weight_of_read _ hRead
    intro n c hVarint
    have hLength := readVarint_length hVarint
    simp only [Payload.weight]
    omega
  · apply weight_of_read _ hRead
    intro x c hBytes
    have hLength := readBytes_length hBytes
    simp only [Payload.weight]
    omega
  · apply weight_of_read _ hRead
    intro x c hBytes
    have hLength := readDelimited_length hBytes
    simp only [Payload.weight]
    omega
  · rcases Option.bind_eq_some_iff.mp hRead with
      ⟨c, hSkip, hSome⟩
    cases hSome
    have hLength := skipGroup_length hSkip
    simp only [Payload.weight]
    omega
  · apply weight_of_read _ hRead
    intro x c hBytes
    have hLength := readBytes_length hBytes
    simp only [Payload.weight]
    omega
  · cases hRead

/- The tag takes one byte more. -/
theorem readField_length
    {b rest : Bytes}
    {f : Field}
    (hRead : readField b = some (f, rest)) :
    f.payload.weight + rest.length + 1 ≤ b.length := by
  rcases Option.bind_eq_some_iff.mp hRead with
    ⟨⟨tag, c⟩, hTag, hRead⟩
  rcases Option.bind_eq_some_iff.mp hRead with
    ⟨number, -, hRead⟩
  rcases Option.bind_eq_some_iff.mp hRead with
    ⟨⟨payload, d⟩, hPayload, hSome⟩
  cases hSome
  have hFirst := readVarint_length hTag
  have hSecond := readPayload_length hPayload
  simp only at hSecond ⊢
  omega

theorem length_of_mem_fieldsFrom
    {fuel : Nat}
    {b : Bytes}
    {fs : List Field}
    (hFields : fieldsFrom fuel b = some fs)
    {f : Field}
    (hf : f ∈ fs) :
    f.payload.weight + 1 ≤ b.length := by
  induction fuel generalizing b fs with
  | zero =>
      cases b with
      | nil =>
          cases hFields
          cases hf
      | cons x b => cases hFields
  | succ fuel ih =>
      cases b with
      | nil =>
          cases hFields
          cases hf
      | cons x b =>
          rcases Option.bind_eq_some_iff.mp hFields with
            ⟨⟨g, c⟩, hRead, hFields⟩
          rcases Option.bind_eq_some_iff.mp hFields with
            ⟨gs, hRest, hSome⟩
          cases hSome
          have hLength := readField_length hRead
          rcases List.mem_cons.mp hf with rfl | hf
          · omega
          · have hTail := ih hRest hf
            omega

/- A byte string of a message leaves two bytes to its field. -/
theorem length_of_mem_decode
    {b x : Bytes}
    {fs : List Field}
    {number : Nat}
    (hDecode : decode b = some fs)
    (hx : x ∈ bytesFields number fs) :
    x.length + 2 ≤ b.length := by
  rcases List.mem_filterMap.mp hx with ⟨f, hf, hBytes⟩
  have hLength := length_of_mem_fieldsFrom hDecode hf
  split at hBytes
  · rename_i y hPayload
    rw [hPayload] at hLength
    split at hBytes
    · cases hBytes
      exact hLength
    · cases hBytes
  · cases hBytes

/- A singular byte string that is there, likewise. -/
theorem length_lastBytes
    {b : Bytes}
    {fs : List Field}
    {number : Nat}
    (hDecode : decode b = some fs)
    (hNe : lastBytes number fs ≠ []) :
    (lastBytes number fs).length + 2 ≤ b.length := by
  unfold lastBytes at hNe ⊢
  cases hLast : (bytesFields number fs).getLast? with
  | none => simp [hLast] at hNe
  | some x =>
      exact length_of_mem_decode hDecode
        (List.mem_of_getLast? hLast)

end Protobuf

end BridgeSigner
