import BridgeSigner.Foundation.Abi

/-
  The Solidity ABI by its recursive rules: data of any type
  built from words, byte strings, tuples and arrays.

  A sequence of data is the heads of all of them followed by
  the tails. A static datum is its own head. A dynamic one
  has the offset of its tail for a head, counted from the
  start of the sequence. Decoding follows the type, and gives
  back what was encoded.

  Main declarations:
    * `Datum`, `encodeArguments`
    * `Ty`, `decodeArguments`
    * `Part.join_static`
    * `decodeArguments_encodeArguments`
-/

------------------------------------------------------------
-- Encoding
------------------------------------------------------------

namespace BridgeSigner

namespace Abi

/- A value, of a type that is built in the same way. -/
inductive Datum where
| address (a : Bytes)
| uint256 (n : Nat)
| bytes32 (w : Bytes)
| bytes (b : Bytes)
| tuple (items : List Datum)
| array (items : List Datum)

/- An encoded datum, as a sequence holds it. -/
structure Part where
  dynamic : Bool
  bytes : Bytes

namespace Part

/- The length of the head. -/
def headLength
    (p : Part) : Nat :=
  if p.dynamic then 32 else p.bytes.length

/- The heads of parts whose tails start at `offset`. -/
def heads : Nat → List Part → Bytes
| _, [] => []
| offset, p :: ps =>
    if p.dynamic then
      Abi.uint256 offset ++
        heads (offset + p.bytes.length) ps
    else
      p.bytes ++ heads offset ps

/- The tails of parts, in order. -/
def tails : List Part → Bytes
| [] => []
| p :: ps =>
    if p.dynamic then p.bytes ++ tails ps else tails ps

/- A sequence: the heads, and the tails behind them. -/
def join
    (ps : List Part) : Bytes :=
  heads (ps.map headLength).sum ps ++ tails ps

end Part

mutual

/- The encoding of a datum, and whether it is dynamic. -/
def Datum.part : Datum → Part
| .address a => ⟨false, Abi.address a⟩
| .uint256 n => ⟨false, Abi.uint256 n⟩
| .bytes32 w => ⟨false, w⟩
| .bytes b => ⟨true, tail b⟩
| .tuple items =>
    ⟨(Datum.parts items).any Part.dynamic,
      Part.join (Datum.parts items)⟩
| .array items =>
    ⟨true,
      Abi.uint256 items.length ++
        Part.join (Datum.parts items)⟩

def Datum.parts : List Datum → List Part
| [] => []
| d :: ds => d.part :: Datum.parts ds

end

def Datum.encode
    (d : Datum) : Bytes :=
  d.part.bytes

/- The encoding of a list of arguments. -/
def encodeArguments
    (args : List Datum) : Bytes :=
  Datum.encode (.tuple args)

theorem Datum.parts_eq_map
    (ds : List Datum) :
    Datum.parts ds = ds.map Datum.part := by
  induction ds with
  | nil => simp [Datum.parts]
  | cons d ds ih => simp [Datum.parts, ih]

theorem encodeArguments_eq
    (ds : List Datum) :
    encodeArguments ds = Part.join (ds.map Datum.part) := by
  simp only [encodeArguments, Datum.encode, Datum.part,
    Datum.parts_eq_map]

/- One dynamic argument comes after the word for 32. -/
theorem encodeArguments_dynamic
    {d : Datum}
    (hDynamic : d.part.dynamic = true) :
    encodeArguments [d] = Abi.uint256 32 ++ d.encode := by
  rw [encodeArguments_eq, Datum.encode]
  simp [Part.join, Part.heads, Part.tails, Part.headLength,
    hDynamic]

namespace Part

theorem length_heads
    (offset : Nat)
    (ps : List Part) :
    (heads offset ps).length =
      (ps.map headLength).sum := by
  induction ps generalizing offset with
  | nil => rfl
  | cons p ps ih =>
      rw [heads]
      split
      · rename_i hDynamic
        simp [headLength, hDynamic, ih]
      · rename_i hStatic
        simp [headLength, hStatic, ih]

theorem tails_static
    {ps : List Part}
    (hStatic : ∀ p ∈ ps, p.dynamic = false) :
    tails ps = [] := by
  induction ps with
  | nil => rfl
  | cons p ps ih =>
      rw [List.forall_mem_cons] at hStatic
      simp [tails, hStatic.1, ih hStatic.2]

theorem heads_static
    {ps : List Part}
    (hStatic : ∀ p ∈ ps, p.dynamic = false)
    (offset : Nat) :
    heads offset ps = (ps.map Part.bytes).flatten := by
  induction ps with
  | nil => rfl
  | cons p ps ih =>
      rw [List.forall_mem_cons] at hStatic
      simp [heads, hStatic.1, ih hStatic.2]

/- Static parts are joined one after the other. -/
theorem join_static
    {ps : List Part}
    (hStatic : ∀ p ∈ ps, p.dynamic = false) :
    join ps = (ps.map Part.bytes).flatten := by
  rw [join, heads_static hStatic, tails_static hStatic,
    List.append_nil]

/- Without tails a sequence is as long as its heads. -/
theorem length_join_static
    {ps : List Part}
    (hStatic : ∀ p ∈ ps, p.dynamic = false) :
    (join ps).length = (ps.map headLength).sum := by
  rw [join, tails_static hStatic, List.append_nil,
    length_heads]

end Part

end Abi

end BridgeSigner

------------------------------------------------------------
-- Decoding
------------------------------------------------------------

namespace BridgeSigner

namespace Abi

/- A type. -/
inductive Ty where
| address
| uint256
| bytes32
| bytes
| tuple (items : List Ty)
| array (item : Ty)

/- The word at the front of a text. -/
def readWord
    (s : Bytes) : Option Bytes :=
  if 32 ≤ s.length then some (s.take 32) else none

def readUint
    (s : Bytes) : Option Nat :=
  (readWord s).map beNat

/- An address is a word that starts with twelve zeros. -/
def readAddress
    (s : Bytes) : Option Datum :=
  match readWord s with
  | none => none
  | some w =>
      if w.take 12 = zeros 12 then
        some (.address (w.drop 12))
      else
        none

/- A byte string: its length, and that many bytes. -/
def readBytes
    (s : Bytes) : Option Datum :=
  match readUint s with
  | none => none
  | some n =>
      if n ≤ (s.drop 32).length then
        some (.bytes ((s.drop 32).take n))
      else
        none

/- How to read a datum of one type. -/
structure Reader where
  dynamic : Bool
  headLength : Nat
  read : Bytes → Option Datum

/-
  Read a sequence that starts at the front of `base`, from
  the heads at `pos` on. Offsets count from the front.
-/
def readSequence
    (base : Bytes) :
    Nat → List Reader → Option (List Datum)
| _, [] => some []
| pos, r :: rs =>
    let start :=
      if r.dynamic then
        readUint (base.drop pos)
      else
        some pos
    match start with
    | none => none
    | some start =>
        match r.read (base.drop start) with
        | none => none
        | some d =>
            (readSequence base (pos + r.headLength) rs).map
              (fun ds => d :: ds)

/- An array: its length, and a sequence of so many items. -/
def readArray
    (r : Reader)
    (s : Bytes) : Option Datum :=
  match readUint s with
  | none => none
  | some n =>
      (readSequence (s.drop 32) 0 (List.replicate n r)).map
        Datum.array

mutual

def Ty.reader : Ty → Reader
| .address => ⟨false, 32, readAddress⟩
| .uint256 =>
    ⟨false, 32, fun s => (readUint s).map Datum.uint256⟩
| .bytes32 =>
    ⟨false, 32, fun s => (readWord s).map Datum.bytes32⟩
| .bytes => ⟨true, 32, readBytes⟩
| .tuple items =>
    let rs := Ty.readers items
    let dynamic := rs.any Reader.dynamic
    ⟨dynamic,
      if dynamic then 32 else (rs.map Reader.headLength).sum,
      fun s => (readSequence s 0 rs).map Datum.tuple⟩
| .array item => ⟨true, 32, readArray item.reader⟩

def Ty.readers : List Ty → List Reader
| [] => []
| t :: ts => t.reader :: Ty.readers ts

end

/- Decode a list of arguments. -/
def decodeArguments
    (ts : List Ty)
    (s : Bytes) : Option (List Datum) :=
  readSequence s 0 (Ty.readers ts)

mutual

/- The data of a type. -/
def Ty.Has : Ty → Datum → Prop
| .address, .address a => a.length = 20
| .uint256, .uint256 n => n < 2 ^ 256
| .bytes32, .bytes32 w => w.length = 32
| .bytes, .bytes _ => True
| .tuple ts, .tuple ds => Ty.HasAll ts ds
| .array t, .array ds =>
    ds.length < 2 ^ 256 ∧ ∀ d ∈ ds, t.Has d
| _, _ => False

def Ty.HasAll : List Ty → List Datum → Prop
| [], [] => True
| t :: ts, d :: ds => t.Has d ∧ Ty.HasAll ts ds
| _, _ => False

end

end Abi

end BridgeSigner

------------------------------------------------------------
-- Round Trip
------------------------------------------------------------

namespace BridgeSigner

namespace Abi

theorem readWord_append
    {w : Bytes}
    (hw : w.length = 32)
    (rest : Bytes) :
    readWord (w ++ rest) = some w := by
  simp [readWord, hw, List.take_left' hw]

theorem readUint_append
    {n : Nat}
    (hn : n < 2 ^ 256)
    (rest : Bytes) :
    readUint (Abi.uint256 n ++ rest) = some n := by
  have hPow : (256 : Nat) ^ 32 = 2 ^ 256 := by norm_num
  rw [readUint, readWord_append (length_uint256 n),
    Option.map_some, Abi.uint256, beNat_beBytes, hPow,
    Nat.mod_eq_of_lt hn]

theorem readAddress_append
    {a : Bytes}
    (ha : a.length = 20)
    (rest : Bytes) :
    readAddress (Abi.address a ++ rest) =
      some (.address a) := by
  have hLength : (Abi.address a).length = 32 := by
    simp [Abi.address, ha]
  have hTake : (Abi.address a).take 12 = zeros 12 :=
    List.take_left' (length_zeros 12)
  have hDrop : (Abi.address a).drop 12 = a :=
    List.drop_left' (length_zeros 12)
  simp [readAddress, readWord_append hLength, hTake, hDrop]

theorem readBytes_append
    {b : Bytes}
    (hb : b.length < 2 ^ 256)
    (rest : Bytes) :
    readBytes (tail b ++ rest) = some (.bytes b) := by
  have hDrop :
      (tail b ++ rest).drop 32 =
        b ++ (zeros (paddedLength b.length - b.length) ++
          rest) := by
    rw [tail, List.append_assoc, List.append_assoc]
    exact List.drop_left' (length_uint256 b.length)
  have hUint : readUint (tail b ++ rest) = some b.length := by
    rw [tail, List.append_assoc]
    exact readUint_append hb _
  simp only [readBytes, hUint, hDrop]
  rw [if_pos (by simp), List.take_left' rfl]

/-
  A reader for a datum. It agrees with the encoding on where
  the datum is found, and reads it off the front of a text.
-/
structure Reader.Reads
    (r : Reader)
    (d : Datum) : Prop where
  dynamic : r.dynamic = d.part.dynamic
  headLength : r.headLength = d.part.headLength
  read :
    d.encode.length < 2 ^ 256 →
      ∀ rest, r.read (d.encode ++ rest) = some d

/-
  The parts of a sequence that are still to be read: `front`
  has the heads that were read and `mid` the tails, so that
  `offset` is where the tails of the others start.
-/
structure Unread
    (base front mid rest : Bytes)
    (offset : Nat)
    (ps : List Part) : Prop where
  base_eq :
    base =
      front ++
        (Part.heads offset ps ++
          (mid ++ (Part.tails ps ++ rest)))
  offset_eq :
    offset =
      front.length + (Part.heads offset ps).length +
        mid.length
  small : offset + (Part.tails ps).length < 2 ^ 256

namespace Unread

variable {base front mid rest : Bytes}
variable {offset : Nat}
variable {p : Part}
variable {ps : List Part}

/- A dynamic part is found through the offset in its head. -/
theorem dynamic
    (h : Unread base front mid rest offset (p :: ps))
    (hDynamic : p.dynamic = true) :
    readUint (base.drop front.length) = some offset ∧
      base.drop offset =
        p.bytes ++ (Part.tails ps ++ rest) ∧
      p.bytes.length < 2 ^ 256 ∧
      Unread base (front ++ Abi.uint256 offset)
        (mid ++ p.bytes) rest (offset + p.bytes.length)
        ps := by
  rcases h with ⟨hBase, hOffset, hSmall⟩
  simp only [Part.heads, Part.tails, hDynamic, if_true]
    at hBase hOffset hSmall
  simp only [List.length_append, length_uint256]
    at hOffset hSmall
  refine ⟨?_, ?_, by omega, ?_, ?_, by omega⟩
  · rw [hBase, List.drop_left, List.append_assoc]
    exact readUint_append (by omega) _
  · have hTail :
        base =
          (front ++
            (Abi.uint256 offset ++
              (Part.heads (offset + p.bytes.length) ps ++
                mid))) ++
            (p.bytes ++ (Part.tails ps ++ rest)) := by
      simp [hBase]
    rw [hTail, List.drop_left']
    simp only [List.length_append, length_uint256]
    omega
  · rw [hBase]
    simp only [List.append_assoc]
  · simp only [List.length_append, length_uint256]
    omega

/- A static part is found in place of its head. -/
theorem static
    (h : Unread base front mid rest offset (p :: ps))
    (hStatic : p.dynamic = false) :
    (∃ s, base.drop front.length = p.bytes ++ s) ∧
      p.bytes.length < 2 ^ 256 ∧
      Unread base (front ++ p.bytes) mid rest offset ps := by
  rcases h with ⟨hBase, hOffset, hSmall⟩
  simp only [Part.heads, Part.tails, hStatic,
    Bool.false_eq_true, if_false] at hBase hOffset hSmall
  simp only [List.length_append] at hOffset
  refine
    ⟨⟨Part.heads offset ps ++
        (mid ++ (Part.tails ps ++ rest)), ?_⟩,
      by omega, ?_, ?_, hSmall⟩
  · rw [hBase, List.drop_left, List.append_assoc]
  · rw [hBase]
    simp only [List.append_assoc]
  · simp only [List.length_append]
    omega

end Unread

theorem readSequence_cons
    {base : Bytes}
    {pos start : Nat}
    {r : Reader}
    {rs : List Reader}
    {d : Datum}
    {ds : List Datum}
    (hStart :
      (if r.dynamic then
        readUint (base.drop pos)
      else
        some pos) = some start)
    (hRead : r.read (base.drop start) = some d)
    (hRest :
      readSequence base (pos + r.headLength) rs = some ds) :
    readSequence base pos (r :: rs) = some (d :: ds) := by
  simp only [readSequence, hStart, hRead, hRest,
    Option.map_some]

/- Reading goes on from any place between two heads. -/
theorem readSequence_unread
    {rs : List Reader}
    {ds : List Datum}
    (hReads : List.Forall₂ Reader.Reads rs ds)
    {base front mid rest : Bytes}
    {offset : Nat}
    (hUnread :
      Unread base front mid rest offset
        (ds.map Datum.part)) :
    readSequence base front.length rs = some ds := by
  induction hReads generalizing front mid offset with
  | nil => rfl
  | @cons r d rs ds hRead hRest ih =>
      have hLength := hRead.headLength
      have hKind := hRead.dynamic
      cases hDynamic : d.part.dynamic with
      | true =>
          rcases hUnread.dynamic hDynamic with
            ⟨hStart, hData, hSize, hNext⟩
          rw [Part.headLength, if_pos hDynamic] at hLength
          have hLater := ih hNext
          rw [List.length_append, length_uint256] at hLater
          apply readSequence_cons
          · rw [if_pos (hKind.trans hDynamic)]
            exact hStart
          · rw [hData]
            exact hRead.read hSize _
          · rw [hLength]
            exact hLater
      | false =>
          rcases hUnread.static hDynamic with
            ⟨⟨s, hData⟩, hSize, hNext⟩
          rw [Part.headLength,
            if_neg (by simp [hDynamic])] at hLength
          have hLater := ih hNext
          rw [List.length_append] at hLater
          apply readSequence_cons
          · rw [if_neg]
            simp [hKind, hDynamic]
          · rw [hData]
            exact hRead.read hSize s
          · rw [hLength]
            exact hLater

/- A whole sequence is read from its front. -/
theorem readSequence_join
    {rs : List Reader}
    {ds : List Datum}
    (hReads : List.Forall₂ Reader.Reads rs ds)
    (hSize :
      (Part.join (ds.map Datum.part)).length < 2 ^ 256)
    (rest : Bytes) :
    readSequence
        (Part.join (ds.map Datum.part) ++ rest) 0 rs =
      some ds := by
  rw [Part.join, List.length_append, Part.length_heads]
    at hSize
  have hUnread :
      Unread (Part.join (ds.map Datum.part) ++ rest) [] []
        rest ((ds.map Datum.part).map Part.headLength).sum
        (ds.map Datum.part) := by
    constructor
    · rw [Part.join, List.append_assoc]
      rfl
    · rw [Part.length_heads]
      simp
    · exact hSize
  exact readSequence_unread hReads hUnread

theorem forall₂_replicate
    {r : Reader}
    {ds : List Datum}
    (hReads : ∀ d ∈ ds, r.Reads d) :
    List.Forall₂ Reader.Reads (List.replicate ds.length r)
      ds := by
  induction ds with
  | nil => exact .nil
  | cons d ds ih =>
      rw [List.forall_mem_cons] at hReads
      exact .cons hReads.1 (ih hReads.2)

/- Readers and data agree on what is dynamic. -/
theorem any_dynamic_eq
    {rs : List Reader}
    {ds : List Datum}
    (hReads : List.Forall₂ Reader.Reads rs ds) :
    rs.any Reader.dynamic =
      (ds.map Datum.part).any Part.dynamic := by
  induction hReads with
  | nil => rfl
  | cons hRead hRest ih => simp [hRead.dynamic, ih]

theorem sum_headLength_eq
    {rs : List Reader}
    {ds : List Datum}
    (hReads : List.Forall₂ Reader.Reads rs ds) :
    (rs.map Reader.headLength).sum =
      ((ds.map Datum.part).map Part.headLength).sum := by
  induction hReads with
  | nil => rfl
  | cons hRead hRest ih => simp [hRead.headLength, ih]

theorem reads_tuple
    {ts : List Ty}
    {ds : List Datum}
    (hReads :
      List.Forall₂ Reader.Reads (Ty.readers ts) ds) :
    (Ty.reader (.tuple ts)).Reads (.tuple ds) := by
  have hAny := any_dynamic_eq hReads
  constructor
  · simp only [Ty.reader, Datum.part, Datum.parts_eq_map]
    exact hAny
  · simp only [Ty.reader, Datum.part, Datum.parts_eq_map,
      Part.headLength, hAny, sum_headLength_eq hReads]
    split
    · rfl
    · rename_i hStatic
      rw [Part.length_join_static]
      intro p hp
      by_contra hDynamic
      exact hStatic
        (List.any_eq_true.mpr
          ⟨p, hp, by simpa using hDynamic⟩)
  · intro hSize rest
    simp only [Datum.encode, Datum.part,
      Datum.parts_eq_map] at hSize ⊢
    simp only [Ty.reader]
    rw [readSequence_join hReads hSize]
    rfl

theorem reads_array
    {t : Ty}
    {ds : List Datum}
    (hLength : ds.length < 2 ^ 256)
    (hReads : ∀ d ∈ ds, t.reader.Reads d) :
    (Ty.reader (.array t)).Reads (.array ds) := by
  constructor
  · simp only [Ty.reader, Datum.part]
  · simp only [Ty.reader, Datum.part, Part.headLength,
      if_true]
  · intro hSize rest
    simp only [Datum.encode, Datum.part,
      Datum.parts_eq_map, List.length_append] at hSize ⊢
    have hDrop :
        (Abi.uint256 ds.length ++
            Part.join (ds.map Datum.part) ++ rest).drop 32 =
          Part.join (ds.map Datum.part) ++ rest := by
      rw [List.append_assoc]
      exact List.drop_left' (length_uint256 ds.length)
    have hUint :
        readUint
            (Abi.uint256 ds.length ++
              Part.join (ds.map Datum.part) ++ rest) =
          some ds.length := by
      rw [List.append_assoc]
      exact readUint_append hLength _
    simp only [Ty.reader, readArray, hUint, hDrop]
    rw [readSequence_join (forall₂_replicate hReads)
      (by omega)]
    rfl

theorem reads_address
    {a : Bytes}
    (ha : a.length = 20) :
    (Ty.reader .address).Reads (.address a) := by
  constructor
  · simp only [Ty.reader, Datum.part]
  · simp [Ty.reader, Datum.part, Part.headLength,
      Abi.address, ha]
  · intro _ rest
    simp only [Ty.reader, Datum.encode, Datum.part]
    exact readAddress_append ha rest

theorem reads_uint256
    {n : Nat}
    (hn : n < 2 ^ 256) :
    (Ty.reader .uint256).Reads (.uint256 n) := by
  constructor
  · simp only [Ty.reader, Datum.part]
  · simp [Ty.reader, Datum.part, Part.headLength]
  · intro _ rest
    simp only [Ty.reader, Datum.encode, Datum.part,
      readUint_append hn, Option.map_some]

theorem reads_bytes32
    {w : Bytes}
    (hw : w.length = 32) :
    (Ty.reader .bytes32).Reads (.bytes32 w) := by
  constructor
  · simp only [Ty.reader, Datum.part]
  · simp [Ty.reader, Datum.part, Part.headLength, hw]
  · intro _ rest
    simp only [Ty.reader, Datum.encode, Datum.part,
      readWord_append hw, Option.map_some]

theorem reads_bytes
    (b : Bytes) :
    (Ty.reader .bytes).Reads (.bytes b) := by
  constructor
  · simp only [Ty.reader, Datum.part]
  · simp [Ty.reader, Datum.part, Part.headLength]
  · intro hSize rest
    simp only [Ty.reader, Datum.encode, Datum.part]
      at hSize ⊢
    apply readBytes_append
    simp only [tail, List.length_append] at hSize
    omega

mutual

/- Every type reads its data. -/
theorem Ty.reads :
    ∀ (t : Ty) (d : Datum), t.Has d → t.reader.Reads d
| .address, .address a, hHas => by
    simp only [Ty.Has] at hHas
    exact reads_address hHas
| .uint256, .uint256 n, hHas => by
    simp only [Ty.Has] at hHas
    exact reads_uint256 hHas
| .bytes32, .bytes32 w, hHas => by
    simp only [Ty.Has] at hHas
    exact reads_bytes32 hHas
| .bytes, .bytes b, _ => reads_bytes b
| .tuple ts, .tuple ds, hHas => by
    simp only [Ty.Has] at hHas
    exact reads_tuple (Ty.readers_read ts ds hHas)
| .array t, .array ds, hHas => by
    simp only [Ty.Has] at hHas
    apply reads_array hHas.1
    intro d hd
    exact Ty.reads t d (hHas.2 d hd)

theorem Ty.readers_read :
    ∀ (ts : List Ty) (ds : List Datum),
      Ty.HasAll ts ds →
        List.Forall₂ Reader.Reads (Ty.readers ts) ds
| [], [], _ => by
    simp only [Ty.readers]
    exact .nil
| t :: ts, d :: ds, hHas => by
    simp only [Ty.HasAll] at hHas
    simp only [Ty.readers]
    exact .cons (Ty.reads t d hHas.1)
      (Ty.readers_read ts ds hHas.2)

end

/- Decoding by the type gives back what was encoded. -/
theorem decodeArguments_encodeArguments
    {ts : List Ty}
    {ds : List Datum}
    (hHas : Ty.HasAll ts ds)
    (hSize : (encodeArguments ds).length < 2 ^ 256) :
    decodeArguments ts (encodeArguments ds) = some ds := by
  rw [encodeArguments_eq] at hSize ⊢
  have hRead :=
    readSequence_join (Ty.readers_read ts ds hHas) hSize []
  rwa [List.append_nil] at hRead

end Abi

end BridgeSigner
