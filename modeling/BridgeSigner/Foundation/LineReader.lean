import BridgeSigner.Foundation.Bytes

/-
  Lines read through a buffer.

  A source answers `Read` with some bytes, at most as many as
  the buffer takes. A line reader asks for more as long as
  its buffer has no end of line, and keeps what comes after
  the end for the next line. Lines are asked for one after
  the other; any of the askers may start with a buffer of its
  own, and what the one before had in its buffer is lost.

  Key definitions include:
    * `Source`, `Source.Serves`
    * `LineReader.readLine`
    * `LineReader.session`

  Main results:
    * `LineReader.session_served`
    * `LineReader.session_returns`
-/

------------------------------------------------------------
-- Sources And Readers
------------------------------------------------------------

namespace BridgeSigner

/- What `Read` with a buffer of some length returns. -/
structure Source (σ : Type) where
  read : σ → Nat → Bytes × σ

namespace LineReader

variable {σ : Type}

/-
  The buffer up to the end of a line, which the line keeps,
  or the next bytes; `sizes` are those of the free part of
  the buffer in the calls of `Read`.
-/
def readLine
    (src : Source σ)
    (delim : UInt8)
    (s : σ)
    (buf : Bytes) :
    List Nat → Option (Bytes × Bytes × σ)
| [] =>
    if delim ∈ buf then
      some
        (buf.takeWhile (· != delim) ++ [delim],
          (buf.dropWhile (· != delim)).tail, s)
    else
      none
| n :: sizes =>
    if delim ∈ buf then
      some
        (buf.takeWhile (· != delim) ++ [delim],
          (buf.dropWhile (· != delim)).tail, s)
    else
      readLine src delim (src.read s n).2
        (buf ++ (src.read s n).1) sizes

/- One line is asked for, with a new buffer or the old. -/
structure Prompt where
  fresh : Bool
  sizes : List Nat
  deriving DecidableEq, Repr

/- The lines of one prompt after the other. -/
def session
    (src : Source σ)
    (delim : UInt8)
    (s : σ)
    (buf : Bytes) :
    List Prompt → Option (List Bytes)
| [] => some []
| p :: ps =>
    match readLine src delim s
        (if p.fresh then [] else buf) p.sizes with
    | none => none
    | some (line, rest, s') =>
        (session src delim s' rest ps).map (line :: ·)

end LineReader

end BridgeSigner

------------------------------------------------------------
-- A Source Of One Line
------------------------------------------------------------

namespace BridgeSigner

/-
  A source of one line over and over: `Left s w` says that
  `w` is left of the line. No `Read` goes past the end of the
  line, and only then does the line start again.
-/
structure Source.Serves {σ : Type}
    (src : Source σ)
    (line : Bytes)
    (Left : σ → Bytes → Prop) : Prop where
  read :
    ∀ s w n, Left s w → w ≠ [] →
      (src.read s n).1 = w.take n ∧
        Left (src.read s n).2 (w.drop n)
  again : ∀ s, Left s [] → Left s line

namespace LineReader

variable {σ : Type}
variable {src : Source σ}
variable {delim : UInt8}

/- The line is in the buffer. -/
theorem readLine_ended
    {buf : Bytes}
    (hFree : delim ∉ buf)
    (s : σ)
    (sizes : List Nat) :
    readLine src delim s (buf ++ [delim]) sizes =
      some (buf ++ [delim], [], s) := by
  have hMem : delim ∈ buf ++ [delim] := by
    simp
  have hNone : ∀ x ∈ buf, (x != delim) = true := by
    intro x hx
    refine bne_iff_ne.mpr ?_
    rintro rfl
    exact hFree hx
  have hTake :
      (buf ++ [delim]).takeWhile (· != delim) = buf := by
    rw [List.takeWhile_append_of_pos hNone]
    simp
  have hDrop :
      (buf ++ [delim]).dropWhile (· != delim) = [delim] := by
    rw [List.dropWhile_append_of_pos hNone]
    simp
  cases sizes <;> simp [readLine, hTake, hDrop]

/- A part of a line that is not over has no end. -/
theorem free_of_part
    {body buf w : Bytes}
    (hBody : delim ∉ body)
    (hLine : buf ++ w = body ++ [delim])
    (hw : w ≠ []) :
    delim ∉ buf := by
  have hLength := congrArg List.length hLine
  have hPos := List.length_pos_iff.mpr hw
  rw [List.length_append, List.length_append,
    List.length_singleton] at hLength
  have hPrefix : buf <+: body :=
    List.prefix_of_prefix_length_le
      ⟨w, hLine⟩ ⟨[delim], rfl⟩ (by omega)
  intro hMem
  exact hBody (hPrefix.subset hMem)

section

variable {body : Bytes}
variable {Left : σ → Bytes → Prop}

/-
  A part of the line is in the buffer and the rest is left:
  if a line is read, it is this line, and nothing stays
  behind in the buffer.
-/
theorem readLine_served
    (hServes : src.Serves (body ++ [delim]) Left)
    (hBody : delim ∉ body)
    {sizes : List Nat}
    {s t : σ}
    {buf w line rest : Bytes}
    (hLine : buf ++ w = body ++ [delim])
    (hLeft : Left s w)
    (hw : w ≠ [])
    (hRead :
      readLine src delim s buf sizes = some (line, rest, t)) :
    line = body ++ [delim] ∧ rest = [] ∧ Left t [] := by
  induction sizes generalizing s buf w with
  | nil =>
      rw [readLine, if_neg (free_of_part hBody hLine hw)]
        at hRead
      cases hRead
  | cons n sizes ih =>
      rcases hServes.read s w n hLeft hw with
        ⟨hChunk, hNext⟩
      rw [readLine, if_neg (free_of_part hBody hLine hw),
        hChunk] at hRead
      have hTogether :
          buf ++ w.take n ++ w.drop n = body ++ [delim] := by
        rw [List.append_assoc, List.take_append_drop, hLine]
      by_cases hDone : w.drop n = []
      · -- The rest of the line has come.
        rw [hDone, List.append_nil] at hTogether
        rw [hDone] at hNext
        rw [hTogether, readLine_ended hBody] at hRead
        cases hRead
        exact ⟨rfl, rfl, hNext⟩
      · exact ih hTogether hNext hDone hRead

/- As many calls of `Read` as the line has bytes will do. -/
theorem readLine_returns
    (hServes : src.Serves (body ++ [delim]) Left)
    (hBody : delim ∉ body)
    {sizes : List Nat}
    (hSizes : ∀ n ∈ sizes, 0 < n)
    {s : σ}
    {buf w : Bytes}
    (hLine : buf ++ w = body ++ [delim])
    (hLeft : Left s w)
    (hw : w ≠ [])
    (hEnough : w.length ≤ sizes.length) :
    (readLine src delim s buf sizes).isSome = true := by
  induction sizes generalizing s buf w with
  | nil =>
      have hPos := List.length_pos_iff.mpr hw
      rw [List.length_nil] at hEnough
      omega
  | cons n sizes ih =>
      rcases hServes.read s w n hLeft hw with
        ⟨hChunk, hNext⟩
      have hn : 0 < n := hSizes n List.mem_cons_self
      have hTogether :
          buf ++ w.take n ++ w.drop n = body ++ [delim] := by
        rw [List.append_assoc, List.take_append_drop, hLine]
      rw [readLine, if_neg (free_of_part hBody hLine hw),
        hChunk]
      by_cases hDone : w.drop n = []
      · rw [hDone, List.append_nil] at hTogether
        rw [hTogether, readLine_ended hBody]
        rfl
      · refine ih
          (fun m hm => hSizes m (List.mem_cons_of_mem _ hm))
          hTogether hNext hDone ?_
        rw [List.length_drop]
        rw [List.length_cons] at hEnough
        omega

/-
  Whoever asks gets the line, with a buffer of its own or
  not: no buffer that is dropped has a byte in it.
-/
theorem session_served
    (hServes : src.Serves (body ++ [delim]) Left)
    (hBody : delim ∉ body)
    {prompts : List Prompt}
    {s : σ}
    (hLeft : Left s (body ++ [delim]))
    {lines : List Bytes}
    (hSession :
      session src delim s [] prompts = some lines) :
    lines =
      List.replicate prompts.length (body ++ [delim]) := by
  induction prompts generalizing s lines with
  | nil =>
      cases hSession
      rfl
  | cons p ps ih =>
      rw [session, ite_self] at hSession
      split at hSession
      · cases hSession
      · rename_i line rest t hRead
        rcases readLine_served hServes hBody
            (List.nil_append _) hLeft (by simp) hRead with
          ⟨rfl, rfl, hNext⟩
        rcases Option.map_eq_some_iff.mp hSession with
          ⟨more, hMore, rfl⟩
        rw [ih (hServes.again t hNext) hMore]
        rfl

/- And gets it, if every prompt goes on reading. -/
theorem session_returns
    (hServes : src.Serves (body ++ [delim]) Left)
    (hBody : delim ∉ body)
    {prompts : List Prompt}
    (hReads :
      ∀ p ∈ prompts,
        (∀ n ∈ p.sizes, 0 < n) ∧
          body.length + 1 ≤ p.sizes.length)
    {s : σ}
    (hLeft : Left s (body ++ [delim])) :
    (session src delim s [] prompts).isSome = true := by
  induction prompts generalizing s with
  | nil => rfl
  | cons p ps ih =>
      rcases hReads p List.mem_cons_self with
        ⟨hPositive, hEnough⟩
      have hSome := readLine_returns hServes hBody hPositive
        (List.nil_append _) hLeft (by simp) (by simpa)
      rcases Option.isSome_iff_exists.mp hSome with
        ⟨⟨line, rest, t⟩, hRead⟩
      rcases readLine_served hServes hBody
          (List.nil_append _) hLeft (by simp) hRead with
        ⟨-, rfl, hNext⟩
      rw [session, ite_self, hRead, Option.isSome_map]
      exact ih
        (fun q hq => hReads q (List.mem_cons_of_mem _ hq))
        (hServes.again t hNext)

end

end LineReader

end BridgeSigner
