import BridgeSigner.Foundation.Json

/-
  JSON text that was cut off.

  A value that was read up to its end is read the same when
  more text follows it; a number is the exception, since more
  digits may follow. So a text that opens with a brace and is
  cut off before its last brace holds no value.

  The strings are taken to be ASCII without escapes, as the
  writer of such a text leaves them.

  Key definitions include:
    * `Json.Unescaped`
    * `Json.Parses`
    * `Json.indentObject`

  Main results:
    * `Json.parse_torn`
    * `trimSpace_front`
    * `Json.parses_indentObject`
-/

------------------------------------------------------------
-- More Text
------------------------------------------------------------

namespace BridgeSigner

namespace Json

/- ASCII without a backslash. -/
def Unescaped
    (s : Bytes) : Prop :=
  ∀ c ∈ s, c < 128 ∧ c ≠ 92

theorem Unescaped.tail
    {b : UInt8}
    {s : Bytes}
    (h : Unescaped (b :: s)) :
    Unescaped s :=
  fun c hc => h c (List.mem_cons_of_mem b hc)

theorem Unescaped.of_append
    {s q : Bytes}
    (h : Unescaped (s ++ q)) :
    Unescaped s :=
  fun c hc => h c (List.mem_append_left q hc)

theorem Unescaped.skipWs
    {s : Bytes}
    (h : Unescaped s) :
    Unescaped (skipWs s) :=
  fun c hc => h c ((List.dropWhile_suffix isWs).subset hc)

theorem skipWs_append
    {s r : Bytes}
    {c : UInt8}
    (h : skipWs s = c :: r)
    (q : Bytes) :
    skipWs (s ++ q) = c :: (r ++ q) := by
  have hNe : s.dropWhile isWs ≠ [] := by
    rw [skipWs] at h
    rw [h]
    exact List.cons_ne_nil c r
  rw [skipWs, List.dropWhile_append, if_neg]
  · rw [← List.cons_append, ← h]
    rfl
  · rw [List.isEmpty_iff]
    exact hNe

/- What was read of `s`, and what is left of it. -/
structure Stable {α : Type}
    (read : Nat → Bytes → Option (α × Bytes))
    (fuel : Nat)
    (s : Bytes)
    (a : α)
    (rest : Bytes) : Prop where
  unescaped : Unescaped rest
  extend :
    ∀ fuel', fuel ≤ fuel' → ∀ q,
      read fuel' (s ++ q) = some (a, rest ++ q)

theorem scanString_cons
    {b : UInt8}
    (hb : b < 128 ∧ b ≠ 92)
    (fuel : Nat)
    (s : Bytes) :
    scanString (fuel + 1) (b :: s) =
      if b = 34 then
        some ([], s)
      else if b < 32 then
        none
      else
        (scanString fuel s).map (fun p => (b :: p.1, p.2)) := by
  simp [scanString, hb.1, hb.2]

theorem scanString_stable
    {fuel : Nat}
    {s x rest : Bytes}
    (hs : Unescaped s)
    (hScan : scanString fuel s = some (x, rest)) :
    Stable scanString fuel s x rest := by
  induction fuel generalizing s x rest with
  | zero => cases hScan
  | succ fuel ih =>
      cases s with
      | nil => cases hScan
      | cons b s =>
          have hb := hs b List.mem_cons_self
          rw [scanString_cons hb] at hScan
          split at hScan
          · rename_i hQuote
            cases hScan
            refine ⟨hs.tail, ?_⟩
            intro fuel' hFuel q
            obtain ⟨k, rfl⟩ : ∃ k, fuel' = k + 1 :=
              ⟨fuel' - 1, by omega⟩
            rw [List.cons_append, scanString_cons hb,
              if_pos hQuote]
          · rename_i hQuote
            split at hScan
            · cases hScan
            · rename_i hControl
              rcases Option.map_eq_some_iff.mp hScan with
                ⟨⟨y, r⟩, hRest, hEq⟩
              cases hEq
              have hStable := ih hs.tail hRest
              refine ⟨hStable.unescaped, ?_⟩
              intro fuel' hFuel q
              obtain ⟨k, rfl⟩ : ∃ k, fuel' = k + 1 :=
                ⟨fuel' - 1, by omega⟩
              rw [List.cons_append, scanString_cons hb,
                if_neg hQuote, if_neg hControl,
                hStable.extend k (by omega) q]
              rfl

/- The scan of a string with what follows it as fuel. -/
theorem scanString_append
    {s x rest : Bytes}
    (hs : Unescaped s)
    (hScan :
      scanString (s.length + 1) s = some (x, rest))
    (q : Bytes) :
    scanString ((s ++ q).length + 1) (s ++ q) =
      some (x, rest ++ q) := by
  apply (scanString_stable hs hScan).extend
  rw [List.length_append]
  omega

end Json

end BridgeSigner

------------------------------------------------------------
-- Values With More Text
------------------------------------------------------------

namespace BridgeSigner

namespace Json

def Value.isNumber : Value → Bool
| .number _ => true
| _ => false

/- A value is stable, and so is a number before something. -/
def ValueStable
    (fuel : Nat) : Prop :=
  ∀ depth s v rest,
    Unescaped s →
    parseValue fuel depth s = some (v, rest) →
    Unescaped rest ∧
      (v.isNumber = false ∨ rest ≠ [] →
        ∀ fuel', fuel ≤ fuel' → ∀ q,
          parseValue fuel' depth (s ++ q) =
            some (v, rest ++ q))

def ItemsStable
    (fuel : Nat) : Prop :=
  ∀ depth s vs rest,
    Unescaped s →
    parseItems fuel depth s = some (vs, rest) →
    Stable (fun f s => parseItems f depth s) fuel s vs rest

def MembersStable
    (fuel : Nat) : Prop :=
  ∀ depth s ms rest,
    Unescaped s →
    parseMembers fuel depth s = some (ms, rest) →
    Stable (fun f s => parseMembers f depth s) fuel s ms rest

variable {fuel depth : Nat}
variable {s rest : Bytes}

theorem parseName_stable
    {name : Bytes}
    {v w : Value}
    (hs : Unescaped s)
    (hParse : parseName name w s = some (v, rest))
    (q : Bytes) :
    Unescaped rest ∧
      parseName name w (s ++ q) = some (v, rest ++ q) := by
  rw [parseName] at hParse
  split at hParse
  · rename_i hFront
    cases hParse
    have hFront := List.isPrefixOf_iff_prefix.mp hFront
    refine ⟨?_, ?_⟩
    · intro c hc
      exact hs c (List.mem_of_mem_drop hc)
    · rw [parseName, if_pos, List.drop_append_of_le_length
        hFront.length_le]
      exact List.isPrefixOf_iff_prefix.mpr
        (hFront.trans (List.prefix_append s q))
  · cases hParse

theorem parseNumber_stable
    (hNe : s.dropWhile isNumberByte ≠ [])
    (q : Bytes) :
    (s ++ q).takeWhile isNumberByte =
        s.takeWhile isNumberByte ∧
      (s ++ q).dropWhile isNumberByte =
        s.dropWhile isNumberByte ++ q := by
  have hLess :
      ¬(s.takeWhile isNumberByte).length = s.length := by
    intro hAll
    apply hNe
    have hSplit := congrArg List.length
      (List.takeWhile_append_dropWhile (p := isNumberByte) (l := s))
    rw [List.length_append] at hSplit
    exact List.length_eq_zero_iff.mp (by omega)
  refine ⟨?_, ?_⟩
  · rw [List.takeWhile_append, if_neg hLess]
  · rw [List.dropWhile_append, if_neg]
    rw [List.isEmpty_iff]
    exact hNe

end Json

end BridgeSigner

------------------------------------------------------------
-- Brackets And Tokens
------------------------------------------------------------

namespace BridgeSigner

namespace Json

variable {fuel depth : Nat}
variable {s rest : Bytes}

/-
  After the bracket of an object or an array: the closing
  bracket, or what is inside.
-/
def parseInside
    {α : Type}
    (close : UInt8)
    (read : Bytes → Option (List α × Bytes))
    (s : Bytes) : Option (List α × Bytes) :=
  if (skipWs s).head? = some close then
    some ([], (skipWs s).tail)
  else
    read (skipWs s)

theorem parseInside_stable
    {α : Type}
    (read : Nat → Bytes → Option (List α × Bytes))
    {close : UInt8}
    (hRead :
      ∀ s a rest, Unescaped s →
        read fuel s = some (a, rest) →
        Stable read fuel s a rest)
    (hNil : read fuel [] = none)
    (hs : Unescaped s)
    {a : List α}
    (hParse :
      parseInside close (read fuel) s = some (a, rest)) :
    Unescaped rest ∧
      ∀ fuel', fuel ≤ fuel' → ∀ q,
        parseInside close (read fuel') (s ++ q) =
          some (a, rest ++ q) := by
  unfold parseInside at hParse ⊢
  cases hSkip : skipWs s with
  | nil =>
      rw [hSkip, List.head?_nil, if_neg (by simp), hNil]
        at hParse
      cases hParse
  | cons c r =>
      have hFree : Unescaped (c :: r) := hSkip ▸ hs.skipWs
      rw [hSkip] at hParse
      by_cases hClose : c = close
      · rw [List.head?_cons, hClose, if_pos rfl] at hParse
        cases hParse
        refine ⟨hFree.tail, ?_⟩
        intro fuel' _ q
        rw [skipWs_append hSkip, List.head?_cons, hClose,
          if_pos rfl]
        rfl
      · have hOther :
            ¬(c :: r).head? = some close := by
          simpa using hClose
        rw [if_neg hOther] at hParse
        have hStable := hRead _ _ _ hFree hParse
        refine ⟨hStable.unescaped, ?_⟩
        intro fuel' hFuel q
        rw [skipWs_append hSkip, List.head?_cons,
          if_neg (by simpa using hClose),
          ← List.cons_append]
        exact hStable.extend fuel' hFuel q

/- A value other than an object or an array, at its front. -/
def parseToken
    (b : UInt8)
    (r : Bytes) : Option (Value × Bytes) :=
  if b = 34 then
    (scanString (r.length + 1) r).map
      (fun p => (.string p.1, p.2))
  else if b = 116 then
    parseName (ascii "true") (.bool true) (b :: r)
  else if b = 102 then
    parseName (ascii "false") (.bool false) (b :: r)
  else if b = 110 then
    parseName (ascii "null") .null (b :: r)
  else if
    validNumber ((b :: r).takeWhile isNumberByte)
  then
    some (.number ((b :: r).takeWhile isNumberByte),
      (b :: r).dropWhile isNumberByte)
  else
    none

theorem parseToken_stable
    {b : UInt8}
    {r : Bytes}
    (hFree : Unescaped (b :: r))
    {v : Value}
    (hParse : parseToken b r = some (v, rest)) :
    Unescaped rest ∧
      (v.isNumber = false ∨ rest ≠ [] → ∀ q,
        parseToken b (r ++ q) = some (v, rest ++ q)) := by
  unfold parseToken at hParse ⊢
  split_ifs at hParse ⊢ with hQuote hT hF hN hValid
  · rcases Option.map_eq_some_iff.mp hParse with
      ⟨⟨x, r'⟩, hScan, hEq⟩
    cases hEq
    refine
      ⟨(scanString_stable hFree.tail hScan).unescaped, ?_⟩
    intro _ q
    rw [scanString_append hFree.tail hScan q]
    rfl
  · exact ⟨(parseName_stable hFree hParse []).1,
      fun _ q => (parseName_stable hFree hParse q).2⟩
  · exact ⟨(parseName_stable hFree hParse []).1,
      fun _ q => (parseName_stable hFree hParse q).2⟩
  · exact ⟨(parseName_stable hFree hParse []).1,
      fun _ q => (parseName_stable hFree hParse q).2⟩
  · cases hParse
    refine ⟨?_, ?_⟩
    · intro c hc
      exact hFree c ((List.dropWhile_suffix _).subset hc)
    · intro hEnd q
      have hNe : (b :: r).dropWhile isNumberByte ≠ [] := by
        rcases hEnd with hEnd | hEnd
        · cases hEnd
        · exact hEnd
      rcases parseNumber_stable hNe q with ⟨hTake, hDrop⟩
      rw [← List.cons_append, hTake, hDrop, if_pos hValid]

/- A value after its white space. -/
theorem parseValue_cons
    {b : UInt8}
    {r : Bytes}
    (hSkip : skipWs s = b :: r) :
    parseValue (fuel + 1) depth s =
      if b = 123 then
        if depth = 0 then none
        else
          (parseInside 125 (parseMembers fuel (depth - 1))
            r).map (fun p => (.object p.1, p.2))
      else if b = 91 then
        if depth = 0 then none
        else
          (parseInside 93 (parseItems fuel (depth - 1))
            r).map (fun p => (.array p.1, p.2))
      else
        parseToken b r := by
  rw [parseValue, hSkip]
  simp only [parseInside]
  split
  · split
    · rfl
    · cases skipWs r with
      | nil => rfl
      | cons c r =>
          by_cases hClose : c = 125
          · subst hClose
            rfl
          · simp [hClose]
  · split
    · split
      · rfl
      · cases skipWs r with
        | nil => rfl
        | cons c r =>
            by_cases hClose : c = 93
            · subst hClose
              rfl
            · simp [hClose]
    · rfl

end Json

end BridgeSigner

------------------------------------------------------------
-- Values Inside Values
------------------------------------------------------------

namespace BridgeSigner

namespace Json

variable {fuel : Nat}

/- More text, and the same branch is taken. -/
theorem more_text
    {s r : Bytes}
    {b : UInt8}
    (hSkip : skipWs s = b :: r)
    {fuel' : Nat}
    (hFuel : fuel + 1 ≤ fuel')
    (q : Bytes) :
    ∃ k, fuel' = k + 1 ∧ fuel ≤ k ∧
      skipWs (s ++ q) = b :: (r ++ q) :=
  ⟨fuel' - 1, by omega, by omega, skipWs_append hSkip q⟩

theorem valueStable_succ
    (hItems : ItemsStable fuel)
    (hMembers : MembersStable fuel)
    (hItemsNil :
      ∀ depth, parseItems fuel depth [] = none)
    (hMembersNil :
      ∀ depth, parseMembers fuel depth [] = none) :
    ValueStable (fuel + 1) := by
  intro depth s v rest hs hParse
  cases hSkip : skipWs s with
  | nil =>
      rw [parseValue, hSkip] at hParse
      cases hParse
  | cons b r =>
      have hFree : Unescaped (b :: r) := hSkip ▸ hs.skipWs
      rw [parseValue_cons hSkip] at hParse
      split_ifs at hParse with hBrace hDepth hBracket hDepth
      · rcases Option.map_eq_some_iff.mp hParse with
          ⟨⟨ms, r'⟩, hInside, hEq⟩
        cases hEq
        rcases parseInside_stable
            (fun f => parseMembers f (depth - 1))
            (fun s a rest => hMembers _ s a rest)
            (hMembersNil _) hFree.tail hInside with
          ⟨hRest, hExtend⟩
        refine ⟨hRest, ?_⟩
        intro _ fuel' hFuel q
        rcases more_text hSkip hFuel q with
          ⟨k, rfl, hk, hSkip'⟩
        rw [parseValue_cons hSkip', if_pos hBrace,
          if_neg hDepth, hExtend k hk q]
        rfl
      · rcases Option.map_eq_some_iff.mp hParse with
          ⟨⟨vs, r'⟩, hInside, hEq⟩
        cases hEq
        rcases parseInside_stable
            (fun f => parseItems f (depth - 1))
            (fun s a rest => hItems _ s a rest)
            (hItemsNil _) hFree.tail hInside with
          ⟨hRest, hExtend⟩
        refine ⟨hRest, ?_⟩
        intro _ fuel' hFuel q
        rcases more_text hSkip hFuel q with
          ⟨k, rfl, hk, hSkip'⟩
        rw [parseValue_cons hSkip', if_neg hBrace,
          if_pos hBracket, if_neg hDepth, hExtend k hk q]
        rfl
      · rcases parseToken_stable hFree hParse with
          ⟨hRest, hExtend⟩
        refine ⟨hRest, ?_⟩
        intro hEnd fuel' hFuel q
        rcases more_text hSkip hFuel q with
          ⟨k, rfl, hk, hSkip'⟩
        rw [parseValue_cons hSkip', if_neg hBrace,
          if_neg hBracket, hExtend hEnd q]

/- After a value stands a comma or a closing bracket. -/
theorem ne_nil_of_skipWs
    {s r : Bytes}
    {c : UInt8}
    (h : skipWs s = c :: r) :
    s ≠ [] := by
  rintro rfl
  cases h

theorem itemsStable_succ
    (hValue : ValueStable fuel)
    (hItems : ItemsStable fuel) :
    ItemsStable (fuel + 1) := by
  intro depth s vs rest hs hParse
  rw [parseItems] at hParse
  split at hParse
  · cases hParse
  · rename_i v r hFirst
    rcases hValue depth s v r hs hFirst with
      ⟨hFree, hExtend⟩
    split at hParse
    · rename_i r' hSkip
      rcases Option.map_eq_some_iff.mp hParse with
        ⟨⟨vs', r''⟩, hMore, hEq⟩
      cases hEq
      have hTail : Unescaped (44 :: r') :=
        hSkip ▸ hFree.skipWs
      have hStable := hItems depth r' vs' r'' hTail.tail hMore
      refine ⟨hStable.unescaped, ?_⟩
      intro fuel' hFuel q
      rcases more_text hSkip hFuel q with
        ⟨k, rfl, hk, hSkip'⟩
      simp only [parseItems,
        hExtend (Or.inr (ne_nil_of_skipWs hSkip)) k hk q,
        hSkip', hStable.extend k hk q, Option.map_some]
    · rename_i r' hSkip
      cases hParse
      have hTail : Unescaped (93 :: rest) :=
        hSkip ▸ hFree.skipWs
      refine ⟨hTail.tail, ?_⟩
      intro fuel' hFuel q
      rcases more_text hSkip hFuel q with
        ⟨k, rfl, hk, hSkip'⟩
      simp only [parseItems,
        hExtend (Or.inr (ne_nil_of_skipWs hSkip)) k hk q,
        hSkip']
    · cases hParse

theorem membersStable_succ
    (hValue : ValueStable fuel)
    (hMembers : MembersStable fuel) :
    MembersStable (fuel + 1) := by
  intro depth s ms rest hs hParse
  rw [parseMembers] at hParse
  split at hParse
  · rename_i r hOpen
    have hKeyFree : Unescaped (34 :: r) := hOpen ▸ hs.skipWs
    split at hParse
    · cases hParse
    · rename_i key r1 hKey
      have hScanned := scanString_stable hKeyFree.tail hKey
      split at hParse
      · rename_i r2 hColon
        have hColonFree : Unescaped (58 :: r2) :=
          hColon ▸ hScanned.unescaped.skipWs
        split at hParse
        · cases hParse
        · rename_i v r3 hFirst
          rcases hValue depth r2 v r3 hColonFree.tail
              hFirst with
            ⟨hFree, hExtend⟩
          split at hParse
          · rename_i r4 hSkip
            rcases Option.map_eq_some_iff.mp hParse with
              ⟨⟨ms', r'⟩, hMore, hEq⟩
            cases hEq
            have hTail : Unescaped (44 :: r4) :=
              hSkip ▸ hFree.skipWs
            have hStable :=
              hMembers depth r4 ms' r' hTail.tail hMore
            refine ⟨hStable.unescaped, ?_⟩
            intro fuel' hFuel q
            rcases more_text hSkip hFuel q with
              ⟨k, rfl, hk, hSkip'⟩
            simp only [parseMembers, skipWs_append hOpen q,
              scanString_append hKeyFree.tail hKey q,
              skipWs_append hColon q,
              hExtend (Or.inr (ne_nil_of_skipWs hSkip)) k hk
                q,
              hSkip', hStable.extend k hk q, Option.map_some]
          · rename_i r4 hSkip
            cases hParse
            have hTail : Unescaped (125 :: rest) :=
              hSkip ▸ hFree.skipWs
            refine ⟨hTail.tail, ?_⟩
            intro fuel' hFuel q
            rcases more_text hSkip hFuel q with
              ⟨k, rfl, hk, hSkip'⟩
            simp only [parseMembers, skipWs_append hOpen q,
              scanString_append hKeyFree.tail hKey q,
              skipWs_append hColon q,
              hExtend (Or.inr (ne_nil_of_skipWs hSkip)) k hk
                q,
              hSkip']
          · cases hParse
      · cases hParse
  · cases hParse

theorem parseItems_nil
    (fuel depth : Nat) :
    parseItems fuel depth [] = none := by
  rcases fuel with _ | _ | fuel <;> rfl

theorem parseMembers_nil
    (fuel depth : Nat) :
    parseMembers fuel depth [] = none := by
  rcases fuel with _ | fuel <;> rfl

theorem all_stable
    (fuel : Nat) :
    ValueStable fuel ∧ ItemsStable fuel ∧
      MembersStable fuel := by
  induction fuel with
  | zero =>
      refine ⟨?_, ?_, ?_⟩
      · intro depth s v rest _ hParse
        cases hParse
      · intro depth s vs rest _ hParse
        cases hParse
      · intro depth s ms rest _ hParse
        cases hParse
  | succ fuel ih =>
      rcases ih with ⟨hValue, hItems, hMembers⟩
      exact
        ⟨valueStable_succ hItems hMembers
            (parseItems_nil fuel) (parseMembers_nil fuel),
          itemsStable_succ hValue hItems,
          membersStable_succ hValue hMembers⟩

end Json

end BridgeSigner

------------------------------------------------------------
-- Text Cut Off
------------------------------------------------------------

namespace BridgeSigner

namespace Json

theorem parse_eq_some_iff
    {s : Bytes}
    {v : Value} :
    parse s = some v ↔
      ∃ rest,
        parseValue (2 * s.length + 2) maxNestingDepth s =
            some (v, rest) ∧
          skipWs rest = [] := by
  unfold parse
  constructor
  · intro h
    split at h
    · cases h
    · rename_i w rest hParse
      split at h
      · cases h
        exact ⟨rest, hParse, ‹_›⟩
      · cases h
  · rintro ⟨rest, hParse, hEnd⟩
    rw [hParse]
    simp only [hEnd, if_true]

/- What opens with a brace is no number. -/
theorem isNumber_of_brace
    {fuel depth : Nat}
    {s rest : Bytes}
    {v : Value}
    (hParse :
      parseValue fuel depth (123 :: s) = some (v, rest)) :
    v.isNumber = false := by
  cases fuel with
  | zero => cases hParse
  | succ fuel =>
      rw [parseValue_cons (skipWs_cons (by decide) s),
        if_pos rfl] at hParse
      split at hParse
      · cases hParse
      · rcases Option.map_eq_some_iff.mp hParse with
          ⟨p, -, hEq⟩
        cases hEq
        rfl

/-
  The text of an object, from its brace to its last brace,
  holds nothing if the end is missing.
-/
theorem parse_torn
    {p q : Bytes}
    (hText : Unescaped (p ++ q))
    (hFirst : (p ++ q).head? = some 123)
    (hLast : (p ++ q).getLast? = some 125)
    (hq : q ≠ [])
    {v : Value}
    (hParse : parse (p ++ q) = some v) :
    parse p = none := by
  cases p with
  | nil => rfl
  | cons b p =>
      have hBrace : b = 123 := by
        simpa using hFirst
      subst hBrace
      by_contra hSome
      rcases Option.ne_none_iff_exists'.mp hSome with
        ⟨w, hw⟩
      rcases parse_eq_some_iff.mp hw with ⟨rest, hRead, -⟩
      rcases parse_eq_some_iff.mp hParse with
        ⟨rest', hRead', hEnd'⟩
      have hExtend :=
        ((all_stable _).1 _ _ _ _ hText.of_append hRead).2
          (Or.inl (isNumber_of_brace hRead))
          (2 * (123 :: p ++ q).length + 2)
          (by rw [List.length_append]; omega) q
      rw [hRead'] at hExtend
      cases hExtend
      -- The missing end is white space, but for the brace.
      have hEndsSo : q.getLast? = some 125 := by
        rw [List.getLast?_append_of_ne_nil _ hq] at hLast
        exact hLast
      have hMem : (125 : UInt8) ∈ rest ++ q :=
        List.mem_append_right rest
          (List.mem_of_getLast? hEndsSo)
      have hWs :=
        List.dropWhile_eq_nil_iff.mp hEnd' 125 hMem
      exact absurd hWs (by decide)

end Json

end BridgeSigner

------------------------------------------------------------
-- White Space Around The Text
------------------------------------------------------------

namespace BridgeSigner

theorem stripFront_suffix
    (encodings : List Bytes)
    (fuel : Nat)
    (s : Bytes) :
    stripFront encodings fuel s <:+ s := by
  induction fuel generalizing s with
  | zero => exact List.suffix_refl s
  | succ fuel ih =>
      rw [stripFront]
      split
      · exact List.suffix_refl s
      · exact (ih _).trans (List.drop_suffix _ s)

/- Trimmed, a text that opens with a brace is its front. -/
theorem trimSpace_front
    (s : Bytes) :
    trimSpace (123 :: s) <+: 123 :: s := by
  have hFront :
      spaceEncodings.find?
          (fun e => e.isPrefixOf (123 :: s)) = none := by
    simp [spaceEncodings]
  rw [trimSpace, stripFront_of_none hFront,
    ← List.reverse_suffix, List.reverse_reverse]
  exact stripFront_suffix _ _ _

end BridgeSigner

------------------------------------------------------------
-- Indented Objects
------------------------------------------------------------

namespace BridgeSigner

namespace Json

/- The text is read as this value, whatever follows it. -/
def Parses
    (least depth : Nat)
    (text : Bytes)
    (v : Value) : Prop :=
  ∀ fuel, least ≤ fuel → ∀ rest,
    parseValue fuel depth (text ++ rest) = some (v, rest)

theorem parses_quoted
    {s : Bytes}
    (hs : Plain s)
    (depth : Nat) :
    Parses 1 depth (quoted s) (.string s) := by
  intro fuel hFuel rest
  obtain ⟨k, rfl⟩ : ∃ k, fuel = k + 1 :=
    ⟨fuel - 1, by omega⟩
  have hText :
      quoted s ++ rest = 34 :: (s ++ 34 :: rest) := by
    simp [quoted]
  rw [hText, parseValue_cons (skipWs_cons (by decide) _),
    if_neg (by decide), if_neg (by decide), parseToken,
    if_pos rfl, scanString_quoted hs]
  rfl

/- A member with the text of its value. -/
structure Member where
  key : Bytes
  text : Bytes
  value : Value

/- A new line with two blanks for each level. -/
def newLine
    (level : Nat) : Bytes :=
  10 :: List.replicate (2 * level) 32

def indentMember
    (m : Member) : Bytes :=
  quoted m.key ++ 58 :: 32 :: m.text

/- The members, each on a line of its own. -/
def indentMembers
    (level : Nat) : List Member → Bytes
| [] => []
| [m] => newLine level ++ indentMember m
| m :: m' :: ms =>
    newLine level ++ indentMember m ++
      44 :: indentMembers level (m' :: ms)

/- The text of an object as `MarshalIndent` writes it. -/
def indentObject
    (level : Nat)
    (ms : List Member) : Bytes :=
  123 ::
    (indentMembers (level + 1) ms ++ newLine level ++ [125])

theorem skipWs_newLine
    (level : Nat)
    {b : UInt8}
    (hb : isWs b = false)
    (rest : Bytes) :
    skipWs (newLine level ++ b :: rest) = b :: rest := by
  rw [skipWs, List.dropWhile_append_of_pos]
  · simp [hb]
  · intro c hc
    rcases List.mem_cons.mp hc with rfl | hc
    · rfl
    · rw [List.eq_of_mem_replicate hc]
      rfl

/- What the members are, by what follows the first one. -/
def membersAfter
    (fuel depth : Nat)
    (m : Member)
    (rest : Bytes) :
    Option (List (Bytes × Value) × Bytes) :=
  match skipWs rest with
  | 44 :: rest =>
      (parseMembers fuel depth rest).map
        (fun p => ((m.key, m.value) :: p.1, p.2))
  | 125 :: rest => some ([(m.key, m.value)], rest)
  | _ => none

/- One member, up to what follows its value. -/
theorem parseMembers_indent
    {m : Member}
    {least depth fuel : Nat}
    (hKey : Plain m.key)
    (hValue : Parses least depth m.text m.value)
    (hFuel : least ≤ fuel)
    (level : Nat)
    (rest : Bytes) :
    parseMembers (fuel + 1) depth
        (newLine level ++ indentMember m ++ rest) =
      membersAfter fuel depth m rest := by
  have hText :
      newLine level ++ indentMember m ++ rest =
        newLine level ++
          34 :: (m.key ++
            34 :: (58 :: (32 :: (m.text ++ rest)))) := by
    simp [indentMember, quoted]
  have hBlank :
      parseValue fuel depth (32 :: (m.text ++ rest)) =
        parseValue fuel depth (m.text ++ rest) := by
    cases fuel with
    | zero => rfl
    | succ fuel =>
        have hSkip :
            skipWs (32 :: (m.text ++ rest)) =
              skipWs (m.text ++ rest) :=
          rfl
        rw [parseValue, parseValue, hSkip]
  rw [hText, parseMembers,
    skipWs_newLine level (by decide)]
  simp only [scanString_quoted hKey,
    skipWs_cons (b := 58) (by decide), hBlank,
    hValue fuel hFuel rest]
  rfl

theorem parseMembers_indentMembers
    {least depth : Nat}
    {ms : List Member}
    (hNonempty : ms ≠ [])
    (hMembers :
      ∀ m ∈ ms,
        Plain m.key ∧ Parses least depth m.text m.value)
    (level level' : Nat)
    (rest : Bytes)
    {fuel : Nat}
    (hFuel : least + ms.length ≤ fuel) :
    parseMembers fuel depth
        (indentMembers level ms ++ newLine level' ++
          125 :: rest) =
      some (ms.map (fun m => (m.key, m.value)), rest) := by
  induction ms generalizing fuel with
  | nil => exact absurd rfl hNonempty
  | cons m ms ih =>
      have hHead := hMembers m List.mem_cons_self
      rw [List.length_cons] at hFuel
      obtain ⟨k, rfl⟩ : ∃ k, fuel = k + 1 :=
        ⟨fuel - 1, by omega⟩
      cases ms with
      | nil =>
          rw [indentMembers, List.append_assoc,
            parseMembers_indent hHead.1 hHead.2 (by omega),
            membersAfter, skipWs_newLine level' (by decide)]
          rfl
      | cons m' ms =>
          have hLess : least + (m' :: ms).length ≤ k := by
            omega
          have hTail :=
            ih (List.cons_ne_nil m' ms)
              (fun x hx =>
                hMembers x (List.mem_cons_of_mem m hx))
              hLess
          have hText :
              indentMembers level (m :: m' :: ms) ++
                  newLine level' ++ 125 :: rest =
                newLine level ++ indentMember m ++
                  44 :: (indentMembers level (m' :: ms) ++
                    newLine level' ++ 125 :: rest) := by
            simp [indentMembers]
          rw [hText,
            parseMembers_indent hHead.1 hHead.2 (by omega),
            membersAfter, skipWs_cons (by decide)]
          simp only [hTail, Option.map_some, List.map_cons]

/- An object is read as its members are. -/
theorem parses_indentObject
    {least depth : Nat}
    {ms : List Member}
    (hNonempty : ms ≠ [])
    (hMembers :
      ∀ m ∈ ms,
        Plain m.key ∧ Parses least depth m.text m.value)
    (level : Nat) :
    Parses (least + ms.length + 1) (depth + 1)
      (indentObject level ms)
      (.object (ms.map (fun m => (m.key, m.value)))) := by
  intro fuel hFuel rest
  obtain ⟨k, rfl⟩ : ∃ k, fuel = k + 1 :=
    ⟨fuel - 1, by omega⟩
  have hText :
      indentObject level ms ++ rest =
        123 :: (indentMembers (level + 1) ms ++
          newLine level ++ 125 :: rest) := by
    simp [indentObject]
  -- The first member's quote is not the closing brace.
  obtain ⟨body, hBody⟩ :
      ∃ body,
        indentMembers (level + 1) ms ++ newLine level ++
            125 :: rest =
          newLine (level + 1) ++ 34 :: body := by
    rcases ms with _ | ⟨m, _ | ⟨m', ms⟩⟩
    · exact absurd rfl hNonempty
    · exact ⟨m.key ++ 34 :: (58 :: 32 :: (m.text ++
        (newLine level ++ 125 :: rest))),
        by simp [indentMembers, indentMember, quoted]⟩
    · exact ⟨m.key ++ 34 :: (58 :: 32 :: (m.text ++
        44 :: (indentMembers (level + 1) (m' :: ms) ++
          (newLine level ++ 125 :: rest)))),
        by simp [indentMembers, indentMember, quoted]⟩
  have hSkip := skipWs_newLine (level + 1)
    (b := 34) (by decide) body
  have hEnough : least + ms.length ≤ k := by
    omega
  have hAll :=
    parseMembers_indentMembers hNonempty hMembers
      (level + 1) level rest hEnough
  have hBlank :
      parseMembers k depth
          (newLine (level + 1) ++ 34 :: body) =
        parseMembers k depth (34 :: body) := by
    cases k with
    | zero => rfl
    | succ k =>
        rw [parseMembers, parseMembers, hSkip,
          skipWs_cons (by decide)]
  rw [hText, parseValue_cons (skipWs_cons (by decide) _),
    if_pos rfl, if_neg (Nat.succ_ne_zero depth),
    parseInside, hBody, hSkip, List.head?_cons,
    if_neg (by decide), Nat.add_sub_cancel, ← hBlank,
    ← hBody, hAll]
  rfl

theorem Parses.parse
    {least : Nat}
    {text : Bytes}
    {v : Value}
    (h : Parses least maxNestingDepth text v)
    (hLong : least ≤ text.length) :
    parse text = some v := by
  have hRead := h (2 * text.length + 2) (by omega) []
  rw [List.append_nil] at hRead
  exact parse_eq_some_iff.mpr ⟨[], hRead, rfl⟩

end Json

end BridgeSigner
