import BridgeSigner.Foundation.Bytes

/-
  The Solidity ABI encoding of an argument list made of
  static words and dynamic byte strings.

  Every argument has a head of one word: the word itself, or
  the offset of the argument's tail. A tail is the length of
  the byte string and its bytes, padded with zeros to words.

  Main declarations:
    * `Abi.pack`
    * `Abi.pack_words`
    * `Abi.tail_injective`
    * `Abi.pack_last_injective`
    * `Abi.pack_one_bytes_injective`
    * `Abi.le_length_pack`
-/

------------------------------------------------------------
-- Encoding
------------------------------------------------------------

namespace BridgeSigner

namespace Abi

/- An argument: a static word or a dynamic byte string. -/
inductive Value where
| word (w : Bytes)
| bytes (b : Bytes)

/- A number as one word. -/
def uint256
    (n : Nat) : Bytes :=
  beBytes 32 n

/- A 20-byte address as one word. -/
def address
    (a : Bytes) : Bytes :=
  zeros 12 ++ a

/- A length rounded up to whole words. -/
def paddedLength
    (n : Nat) : Nat :=
  (n + 31) / 32 * 32

/- The tail of a dynamic byte string. -/
def tail
    (b : Bytes) : Bytes :=
  uint256 b.length ++
    (b ++ zeros (paddedLength b.length - b.length))

/- The heads of arguments whose tails start at `offset`. -/
def heads : Nat → List Value → Bytes
| _, [] => []
| offset, .word w :: vs => w ++ heads offset vs
| offset, .bytes b :: vs =>
    uint256 offset ++ heads (offset + (tail b).length) vs

/- The tails of arguments, in order. -/
def tails : List Value → Bytes
| [] => []
| .word _ :: vs => tails vs
| .bytes b :: vs => tail b ++ tails vs

/- Pack an argument list. -/
def pack
    (vs : List Value) : Bytes :=
  heads (32 * vs.length) vs ++ tails vs

end Abi

end BridgeSigner

------------------------------------------------------------
-- Injectivity
------------------------------------------------------------

namespace BridgeSigner

namespace Abi

theorem le_paddedLength
    (n : Nat) :
    n ≤ paddedLength n := by
  unfold paddedLength
  omega

theorem paddedLength_lt
    (n : Nat) :
    paddedLength n < n + 32 := by
  unfold paddedLength
  omega

@[simp] theorem length_uint256
    (n : Nat) :
    (uint256 n).length = 32 := by
  simp [uint256]

theorem uint256_injective
    {m n : Nat}
    (hm : m < 2 ^ 256)
    (hn : n < 2 ^ 256)
    (hEq : uint256 m = uint256 n) :
    m = n := by
  have hPow : (256 : Nat) ^ 32 = 2 ^ 256 := by norm_num
  exact beBytes_inj (hPow ▸ hm) (hPow ▸ hn) hEq

theorem address_injective
    {a b : Bytes}
    (hEq : address a = address b) :
    a = b :=
  List.append_cancel_left hEq

/- A tail determines its byte string, at every length. -/
theorem tail_injective
    {a b : Bytes}
    (hEq : tail a = tail b) :
    a = b := by
  obtain ⟨hWord, hPayload⟩ :=
    List.append_inj hEq (by simp)
  -- Equal payload lengths leave less than a word between
  -- the two lengths, and the length words close the gap.
  have hPadded :
      paddedLength a.length = paddedLength b.length := by
    have hLengths := congrArg List.length hPayload
    simp only [List.length_append, length_zeros] at hLengths
    have ha := le_paddedLength a.length
    have hb := le_paddedLength b.length
    omega
  have hMod := mod_eq_of_beBytes_eq hWord
  have hLength : a.length = b.length := by
    have ha := le_paddedLength a.length
    have hb := le_paddedLength b.length
    have ha' := paddedLength_lt a.length
    have hb' := paddedLength_lt b.length
    norm_num at hMod
    omega
  exact (List.append_inj hPayload hLength).1

theorem heads_words
    (offset : Nat)
    (ws : List Bytes) :
    heads offset (ws.map Value.word) = ws.flatten := by
  induction ws with
  | nil => rfl
  | cons w ws ih => simp [heads, ih]

theorem tails_words
    (ws : List Bytes) :
    tails (ws.map Value.word) = [] := by
  induction ws with
  | nil => rfl
  | cons w ws ih => simpa [tails] using ih

/- Static words are packed one after the other. -/
theorem pack_words
    (ws : List Bytes) :
    pack (ws.map Value.word) = ws.flatten := by
  rw [pack, heads_words, tails_words, List.append_nil]

/- The heads do not depend on a dynamic last argument. -/
theorem heads_concat_bytes
    (offset : Nat)
    (vs : List Value) :
    ∃ start, ∀ b,
      heads offset (vs ++ [.bytes b]) =
        heads offset vs ++ uint256 start := by
  induction vs generalizing offset with
  | nil => exact ⟨offset, fun b => by simp [heads]⟩
  | cons v vs ih =>
      cases v with
      | word w =>
          rcases ih offset with ⟨start, hStart⟩
          exact ⟨start, fun b => by simp [heads, hStart]⟩
      | bytes c =>
          rcases ih (offset + (tail c).length) with
            ⟨start, hStart⟩
          exact ⟨start, fun b => by simp [heads, hStart]⟩

theorem tails_append
    (vs vs' : List Value) :
    tails (vs ++ vs') = tails vs ++ tails vs' := by
  induction vs with
  | nil => rfl
  | cons v vs ih =>
      cases v with
      | word w => simpa [tails] using ih
      | bytes b => simp [tails, ih]

/- A dynamic last argument is determined by the packing. -/
theorem pack_last_injective
    {vs : List Value}
    {a b : Bytes}
    (hEq :
      pack (vs ++ [.bytes a]) = pack (vs ++ [.bytes b])) :
    a = b := by
  rcases heads_concat_bytes (32 * (vs.length + 1)) vs with
    ⟨start, hStart⟩
  have hTails : tail a = tail b := by
    simpa [pack, hStart, tails_append, tails] using hEq
  exact tail_injective hTails

end Abi

end BridgeSigner

------------------------------------------------------------
-- Lengths
------------------------------------------------------------

namespace BridgeSigner

namespace Abi

/- A static argument has exactly one word. -/
def Value.Sized : Value → Prop
| .word w => w.length = 32
| .bytes _ => True

theorem length_heads
    (offset : Nat)
    {vs : List Value}
    (hSized : ∀ v ∈ vs, v.Sized) :
    (heads offset vs).length = 32 * vs.length := by
  induction vs generalizing offset with
  | nil => rfl
  | cons v vs ih =>
      rw [List.forall_mem_cons] at hSized
      cases v with
      | word w =>
          have hWord : w.length = 32 := hSized.1
          simp only [heads, List.length_append, hWord,
            ih offset hSized.2, List.length_cons]
          omega
      | bytes b =>
          simp only [heads, List.length_append,
            length_uint256, ih _ hSized.2, List.length_cons]
          omega

/- Every argument takes its head at least. -/
theorem le_length_pack
    {vs : List Value}
    (hSized : ∀ v ∈ vs, v.Sized) :
    32 * vs.length ≤ (pack vs).length := by
  rw [pack, List.length_append, length_heads _ hSized]
  omega

theorem length_flatten_words
    {ws : List Bytes}
    (hws : ∀ w ∈ ws, w.length = 32) :
    ws.flatten.length = 32 * ws.length := by
  induction ws with
  | nil => rfl
  | cons w ws ih =>
      rw [List.forall_mem_cons] at hws
      simp only [List.flatten_cons, List.length_append,
        hws.1, ih hws.2, List.length_cons]
      omega

end Abi

end BridgeSigner

------------------------------------------------------------
-- One Byte String Among Words
------------------------------------------------------------

namespace BridgeSigner

namespace Abi

theorem heads_words_append
    (offset : Nat)
    (ws : List Bytes)
    (vs : List Value) :
    heads offset (ws.map Value.word ++ vs) =
      ws.flatten ++ heads offset vs := by
  induction ws with
  | nil => rfl
  | cons w ws ih => simp [heads, ih]

/- The byte string's tail comes after all the words. -/
theorem pack_one_bytes
    (ws vs : List Bytes)
    (b : Bytes) :
    pack (ws.map Value.word ++
        .bytes b :: vs.map Value.word) =
      (ws ++
          uint256 (32 * (ws.length + (vs.length + 1))) ::
            vs).flatten ++ tail b := by
  simp [pack, heads_words_append, heads, heads_words,
    tails_append, tails_words, tails]

theorem words_around_offset
    {ws vs : List Bytes}
    (n : Nat)
    (hws : ∀ w ∈ ws, w.length = 32)
    (hvs : ∀ v ∈ vs, v.length = 32) :
    ∀ w ∈ ws ++ uint256 n :: vs, w.length = 32 := by
  rw [List.forall_mem_append, List.forall_mem_cons]
  exact ⟨hws, length_uint256 n, hvs⟩

/- Such a packing determines every argument. -/
theorem pack_one_bytes_injective
    {ws ws' vs vs' : List Bytes}
    {b b' : Bytes}
    (hws : ∀ w ∈ ws, w.length = 32)
    (hws' : ∀ w ∈ ws', w.length = 32)
    (hvs : ∀ v ∈ vs, v.length = 32)
    (hvs' : ∀ v ∈ vs', v.length = 32)
    (hFront : ws.length = ws'.length)
    (hBack : vs.length = vs'.length)
    (hEq :
      pack (ws.map Value.word ++
          .bytes b :: vs.map Value.word) =
        pack (ws'.map Value.word ++
          .bytes b' :: vs'.map Value.word)) :
    ws = ws' ∧ b = b' ∧ vs = vs' := by
  rw [pack_one_bytes, pack_one_bytes, hFront, hBack] at hEq
  have hAll := words_around_offset
    (32 * (ws'.length + (vs'.length + 1))) hws hvs
  have hAll' := words_around_offset
    (32 * (ws'.length + (vs'.length + 1))) hws' hvs'
  rcases List.append_inj hEq (by
      rw [length_flatten_words hAll,
        length_flatten_words hAll']
      simp [hFront, hBack]) with ⟨hHeads, hTail⟩
  have hBlocks :=
    flatten_blocks_inj (w := 32) (by decide) hAll hAll'
      hHeads
  rcases List.append_inj hBlocks hFront with ⟨hFirst, hRest⟩
  exact ⟨hFirst, tail_injective hTail,
    (List.cons.inj hRest).2⟩

end Abi

end BridgeSigner
