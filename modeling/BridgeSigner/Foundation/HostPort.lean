import BridgeSigner.Foundation.Text

/-
  Texts of network addresses: hosts with ports, and the
  canonical text of an IP address.

  `splitHostPort` and `joinHostPort` put a host with colons
  in brackets. An IP address is held in its 16-byte form; an
  IPv4 address, also one mapped into IPv6, is printed in
  dotted form, and any other with its longest run of zero
  groups compressed.

  Main declarations:
    * `afterFirst`
    * `splitHostPort`, `joinHostPort`
    * `afterFirst_append`
    * `splitHostPort_joinHostPort`
    * `IP.text`
    * `TCPAddr.text`
    * `TCPAddr.splitHostPort_text`
-/

------------------------------------------------------------
-- Splitting
------------------------------------------------------------

namespace BridgeSigner

/- What follows the first occurrence of a separator. -/
def afterFirst
    (sep : Bytes) :
    Bytes → Option Bytes
| [] => if sep.isPrefixOf [] then some [] else none
| c :: s =>
    if sep.isPrefixOf (c :: s) then
      some ((c :: s).drop sep.length)
    else
      afterFirst sep s

/- The parts before and after the last occurrence of `c`. -/
def splitLast
    (c : UInt8) :
    Bytes → Option (Bytes × Bytes)
| [] => none
| x :: s =>
    match splitLast c s with
    | some (front, back) => some (x :: front, back)
    | none => if x = c then some ([], s) else none

/- Why a text is not a host with a port. -/
inductive AddrError where
| missingPort
| tooManyColons
| missingClose
| unexpectedOpen
| unexpectedClose
  deriving DecidableEq, Repr

/- Neither bracket stands where it may not. -/
def checkBrackets
    (openPart closePart : Bytes)
    (r : Bytes × Bytes) :
    Except AddrError (Bytes × Bytes) :=
  if 91 ∈ openPart then
    .error .unexpectedOpen
  else if 93 ∈ closePart then
    .error .unexpectedClose
  else
    .ok r

/-
  Split a text into its host and its port. The port starts
  after the last colon; a host in brackets may have colons.
-/
def splitHostPort
    (s : Bytes) : Except AddrError (Bytes × Bytes) :=
  match splitLast 58 s with
  | none => .error .missingPort
  | some (front, port) =>
      if s.head? = some 91 then
        let close := s.idxOf 93
        if close = s.length then
          .error .missingClose
        else if close + 1 = s.length then
          .error .missingPort
        else if close + 1 = front.length then
          checkBrackets (s.drop 1) (s.drop (close + 1))
            ((s.take close).drop 1, port)
        else if s[close + 1]? = some 58 then
          .error .tooManyColons
        else
          .error .missingPort
      else if 58 ∈ front then
        .error .tooManyColons
      else
        checkBrackets s s (front, port)

/- Join a host and a port; colons call for brackets. -/
def joinHostPort
    (host port : Bytes) : Bytes :=
  if 58 ∈ host then
    91 :: (host ++ 93 :: 58 :: port)
  else
    host ++ 58 :: port

end BridgeSigner

------------------------------------------------------------
-- Round Trip
------------------------------------------------------------

namespace BridgeSigner

theorem splitLast_of_not_mem
    {c : UInt8}
    {s : Bytes}
    (hs : c ∉ s) :
    splitLast c s = none := by
  induction s with
  | nil => rfl
  | cons x s ih =>
      rw [List.mem_cons, not_or] at hs
      simp [splitLast, ih hs.2, Ne.symm hs.1]

theorem not_mem_of_splitLast
    {c : UInt8}
    {s : Bytes}
    (hNone : splitLast c s = none) :
    c ∉ s := by
  induction s with
  | nil => simp
  | cons x s ih =>
      simp only [splitLast] at hNone
      split at hNone
      · cases hNone
      · rename_i hTail
        split at hNone
        · cases hNone
        · rename_i hx
          rw [List.mem_cons, not_or]
          exact ⟨Ne.symm hx, ih hTail⟩

theorem splitLast_eq_some
    {c : UInt8}
    {s front back : Bytes}
    (hSplit : splitLast c s = some (front, back)) :
    s = front ++ c :: back ∧ c ∉ back := by
  induction s generalizing front with
  | nil => cases hSplit
  | cons x s ih =>
      simp only [splitLast] at hSplit
      split at hSplit
      · rename_i front' back' hTail
        cases hSplit
        rcases ih hTail with ⟨rfl, hBack⟩
        exact ⟨rfl, hBack⟩
      · rename_i hTail
        split at hSplit
        · rename_i hx
          cases hSplit
          exact ⟨by rw [hx]; rfl, not_mem_of_splitLast hTail⟩
        · cases hSplit

theorem splitLast_append
    {c : UInt8}
    {back : Bytes}
    (hBack : c ∉ back)
    (front : Bytes) :
    splitLast c (front ++ c :: back) =
      some (front, back) := by
  induction front with
  | nil => simp [splitLast, splitLast_of_not_mem hBack]
  | cons x front ih => simp [splitLast, ih]

/- Two texts with one last `c` have the same parts. -/
theorem append_cons_last_inj
    {c : UInt8}
    {front back front' back' : Bytes}
    (hBack : c ∉ back)
    (hBack' : c ∉ back')
    (hEq : front ++ c :: back = front' ++ c :: back') :
    front = front' ∧ back = back' := by
  have hSplit := splitLast_append hBack front
  rw [hEq, splitLast_append hBack' front'] at hSplit
  cases hSplit
  exact ⟨rfl, rfl⟩

theorem afterFirst_of_not_mem
    {sep s : Bytes}
    {c : UInt8}
    (hSep : c ∈ sep)
    (hs : c ∉ s) :
    afterFirst sep s = none := by
  -- A separator with `c` in it starts no text without `c`.
  have hNotPrefix :
      ∀ t : Bytes, c ∉ t → sep.isPrefixOf t = false := by
    intro t ht
    rw [Bool.eq_false_iff, ne_eq, List.isPrefixOf_iff_prefix]
    intro hPrefix
    exact ht (hPrefix.subset hSep)
  induction s with
  | nil => simp [afterFirst, hNotPrefix [] (by simp)]
  | cons x s ih =>
      rw [afterFirst, hNotPrefix _ hs, if_neg (by simp)]
      exact ih (fun hMem => hs (List.mem_cons_of_mem _ hMem))

/-
  A separator in front of a joined text is in front of its
  first part, or reaches over the byte where the second part
  starts.
-/
theorem prefix_append_cons
    {sep s u : Bytes}
    {y : UInt8}
    (hs : s ≠ [])
    (hPrefix : sep <+: s ++ y :: u) :
    sep <+: s ∨ y ∈ sep.tail := by
  rcases hPrefix with ⟨rest, hRest⟩
  rcases List.append_eq_append_iff.mp hRest with
    ⟨v, hFront, -⟩ | ⟨v, hFront, hBack⟩
  · left
    exact ⟨v, hFront.symm⟩
  · cases v with
    | nil =>
        left
        rw [List.append_nil] at hFront
        exact hFront ▸ List.prefix_refl sep
    | cons z v =>
        right
        cases hBack
        rw [hFront, List.tail_append_of_ne_nil hs]
        simp

/-
  A search goes past a text without the separator, if no
  separator can reach over its end.
-/
theorem afterFirst_append_cons
    {sep s u : Bytes}
    {y : UInt8}
    (hNone : afterFirst sep s = none)
    (hy : y ∉ sep.tail) :
    afterFirst sep (s ++ y :: u) =
      afterFirst sep (y :: u) := by
  induction s with
  | nil => rfl
  | cons x s ih =>
      rw [afterFirst] at hNone
      split at hNone
      · cases hNone
      · rename_i hNot
        have hOver :
            ¬ sep.isPrefixOf (x :: (s ++ y :: u)) = true := by
          intro hPrefix
          rw [List.isPrefixOf_iff_prefix] at hNot hPrefix
          rcases prefix_append_cons (List.cons_ne_nil x s)
              hPrefix with hFront | hTail
          · exact hNot hFront
          · exact hy hTail
        rw [List.cons_append, afterFirst, if_neg hOver]
        exact ih hNone

/- The first separator is found right where a text ends. -/
theorem afterFirst_append
    {c : UInt8}
    {sep s : Bytes}
    (hNone : afterFirst (c :: sep) s = none)
    (hc : c ∉ sep)
    (rest : Bytes) :
    afterFirst (c :: sep) (s ++ (c :: sep ++ rest)) =
      some rest := by
  have hPrefix :
      (c :: sep).isPrefixOf (c :: (sep ++ rest)) = true := by
    rw [List.isPrefixOf_iff_prefix]
    exact ⟨rest, rfl⟩
  rw [List.cons_append,
    afterFirst_append_cons hNone hc, afterFirst,
    if_pos hPrefix]
  simp

/- The search fails on the texts without the separator. -/
theorem afterFirst_eq_none_iff
    {sep s : Bytes} :
    afterFirst sep s = none ↔ ¬ sep <:+: s := by
  induction s with
  | nil =>
      cases sep with
      | nil => simp [afterFirst]
      | cons c sep => simp [afterFirst]
  | cons x s ih =>
      rw [afterFirst, List.infix_cons_iff, not_or, ← ih]
      split
      · rename_i hPrefix
        rw [List.isPrefixOf_iff_prefix] at hPrefix
        simp [hPrefix]
      · rename_i hPrefix
        rw [List.isPrefixOf_iff_prefix] at hPrefix
        simp [hPrefix]

/- What is found follows the separator. -/
theorem afterFirst_eq_some
    {sep s rest : Bytes}
    (hAfter : afterFirst sep s = some rest) :
    ∃ front, s = front ++ (sep ++ rest) := by
  induction s with
  | nil =>
      rw [afterFirst] at hAfter
      split at hAfter
      · rename_i hPrefix
        cases hAfter
        refine ⟨[], ?_⟩
        have hSep : sep = [] := by
          simpa using hPrefix
        rw [hSep]
        rfl
      · cases hAfter
  | cons x s ih =>
      rw [afterFirst] at hAfter
      split at hAfter
      · rename_i hPrefix
        cases hAfter
        rw [List.isPrefixOf_iff_prefix] at hPrefix
        rcases hPrefix with ⟨tail, hTail⟩
        refine ⟨[], ?_⟩
        rw [← hTail]
        simp
      · rcases ih hAfter with ⟨front, rfl⟩
        exact ⟨x :: front, rfl⟩

/- The bytes a port may not have. -/
def PortText
    (port : Bytes) : Prop :=
  ∀ b ∈ port, b ≠ 58 ∧ b ≠ 91 ∧ b ≠ 93

namespace PortText

variable {port : Bytes}

theorem no_colon
    (hPort : PortText port) :
    58 ∉ port :=
  fun hMem => (hPort 58 hMem).1 rfl

theorem no_open
    (hPort : PortText port) :
    91 ∉ port :=
  fun hMem => (hPort 91 hMem).2.1 rfl

theorem no_close
    (hPort : PortText port) :
    93 ∉ port :=
  fun hMem => (hPort 93 hMem).2.2 rfl

theorem of_absent
    (hColon : 58 ∉ port)
    (hOpen : 91 ∉ port)
    (hClose : 93 ∉ port) :
    PortText port := by
  intro b hb
  refine ⟨?_, ?_, ?_⟩
  · rintro rfl
    exact hColon hb
  · rintro rfl
    exact hOpen hb
  · rintro rfl
    exact hClose hb

end PortText

/- A host in brackets splits from its port. -/
theorem splitHostPort_bracketed
    {host port : Bytes}
    (hOpen : 91 ∉ host)
    (hClose : 93 ∉ host)
    (hPort : PortText port) :
    splitHostPort (91 :: (host ++ 93 :: 58 :: port)) =
      .ok (host, port) := by
  have hLast :
      splitLast 58 (91 :: (host ++ 93 :: 58 :: port)) =
        some (91 :: (host ++ [93]), port) := by
    have hText :
        91 :: (host ++ 93 :: 58 :: port) =
          (91 :: (host ++ [93])) ++ 58 :: port := by
      simp
    rw [hText, splitLast_append hPort.no_colon]
  have hIndex :
      (91 :: (host ++ 93 :: 58 :: port)).idxOf
          (93 : UInt8) =
        host.length + 1 := by
    rw [List.idxOf_cons_ne _ (by decide),
      List.idxOf_append_of_notMem hClose]
    simp
  rw [splitHostPort, hLast]
  simp [hIndex, checkBrackets, hOpen, hPort.no_open,
    hPort.no_close]

/- A host without colons splits from its port. -/
theorem splitHostPort_bare
    {host port : Bytes}
    (hColon : 58 ∉ host)
    (hOpen : 91 ∉ host)
    (hClose : 93 ∉ host)
    (hPort : PortText port) :
    splitHostPort (host ++ 58 :: port) =
      .ok (host, port) := by
  have hLast := splitLast_append hPort.no_colon host
  have hHead : (host ++ 58 :: port).head? ≠ some 91 := by
    cases host with
    | nil => simp
    | cons x host =>
        intro hEq
        have hx : x = 91 := by simpa using hEq
        exact hOpen (by simp [hx])
  simp only [splitHostPort, hLast]
  rw [if_neg hHead, if_neg hColon]
  simp [checkBrackets, hOpen, hClose, hPort.no_open,
    hPort.no_close]

/- A joined host and port split again. -/
theorem splitHostPort_joinHostPort
    {host port : Bytes}
    (hOpen : 91 ∉ host)
    (hClose : 93 ∉ host)
    (hPort : PortText port) :
    splitHostPort (joinHostPort host port) =
      .ok (host, port) := by
  unfold joinHostPort
  split
  · exact splitHostPort_bracketed hOpen hClose hPort
  · rename_i hHost
    exact splitHostPort_bare hHost hOpen hClose hPort

end BridgeSigner

------------------------------------------------------------
-- The Texts That Split
------------------------------------------------------------

namespace BridgeSigner

/-
  The texts of a host with a port: without brackets the host
  has no colon, and no bracket stands inside another.
-/
inductive HostPortText : Bytes → Bytes → Bytes → Prop where
| bare {host port : Bytes}
    (hHost : PortText host)
    (hPort : PortText port) :
    HostPortText (host ++ 58 :: port) host port
| bracketed {host port : Bytes}
    (hOpen : 91 ∉ host)
    (hClose : 93 ∉ host)
    (hPort : PortText port) :
    HostPortText (91 :: (host ++ 93 :: 58 :: port)) host port

theorem checkBrackets_ok
    {openPart closePart : Bytes}
    {r r' : Bytes × Bytes}
    (hOk : checkBrackets openPart closePart r = .ok r') :
    91 ∉ openPart ∧ 93 ∉ closePart ∧ r = r' := by
  unfold checkBrackets at hOk
  split at hOk
  · cases hOk
  · rename_i hOpen
    split at hOk
    · cases hOk
    · rename_i hClose
      cases hOk
      exact ⟨hOpen, hClose, rfl⟩

/- A text that starts with a bracket and is closed. -/
theorem bracketed_parts
    {s : Bytes}
    (hHead : s.head? = some 91)
    (hClosed : s.idxOf 93 ≠ s.length) :
    ∃ host back, s = 91 :: (host ++ 93 :: back) ∧
      93 ∉ host ∧ s.idxOf 93 = host.length + 1 := by
  have hMem : 93 ∈ s := by
    rw [← List.idxOf_lt_length_iff]
    exact lt_of_le_of_ne List.idxOf_le_length hClosed
  rcases List.eq_append_cons_of_mem hMem with
    ⟨front, back, rfl, hFront⟩
  cases front with
  | nil => cases hHead
  | cons x host =>
      have hx : x = 91 := by simpa using hHead
      subst hx
      refine ⟨host, back, rfl, ?_, ?_⟩
      · exact fun hHost => hFront (List.mem_cons_of_mem _ hHost)
      · rw [List.idxOf_append_of_notMem hFront]
        simp

/- The brackets close where the last colon stands. -/
theorem bracketed_sound
    {s front back host port : Bytes}
    (hText : s = front ++ 58 :: back)
    (hBack : 58 ∉ back)
    (hHead : s.head? = some 91)
    (hClosed : s.idxOf 93 ≠ s.length)
    (hLength : s.idxOf 93 + 1 = front.length)
    (hOk :
      checkBrackets (s.drop 1) (s.drop (s.idxOf 93 + 1))
          ((s.take (s.idxOf 93)).drop 1, back) =
        .ok (host, port)) :
    HostPortText s host port := by
  rcases bracketed_parts hHead hClosed with
    ⟨inner, after, rfl, hInner, hIndex⟩
  rcases checkBrackets_ok hOk with ⟨hOpen, hClose, hParts⟩
  rw [hIndex] at hLength hClose hParts
  have hFront :
      (91 :: (inner ++ [93])) ++ after =
        front ++ 58 :: back := by
    simpa using hText
  rcases List.append_inj hFront (by simp [← hLength]) with
    ⟨-, rfl⟩
  have hPort : host = inner ∧ port = back := by
    cases hParts
    simp
  rcases hPort with ⟨rfl, rfl⟩
  simp only [List.drop_succ_cons, List.drop_zero,
    List.mem_append, List.mem_cons, not_or] at hOpen
  have hDrop :
      (91 :: (host ++ 93 :: 58 :: port)).drop
          (host.length + 1 + 1) =
        58 :: port := by
    simp [List.drop_append]
  rw [hDrop, List.mem_cons, not_or] at hClose
  exact .bracketed hOpen.1 hInner
    (.of_absent hBack hOpen.2.2.2 hClose.2)

theorem bare_sound
    {front back host port : Bytes}
    (hBack : 58 ∉ back)
    (hColon : 58 ∉ front)
    (hOk :
      checkBrackets (front ++ 58 :: back)
          (front ++ 58 :: back) (front, back) =
        .ok (host, port)) :
    HostPortText (front ++ 58 :: back) host port := by
  rcases checkBrackets_ok hOk with ⟨hOpen, hClose, hParts⟩
  cases hParts
  simp only [List.mem_append, List.mem_cons, not_or]
    at hOpen hClose
  exact .bare
    (.of_absent hColon hOpen.1 hClose.1)
    (.of_absent hBack hOpen.2.2 hClose.2.2)

/- What is split is a host with a port. -/
theorem splitHostPort_sound
    {s host port : Bytes}
    (hOk : splitHostPort s = .ok (host, port)) :
    HostPortText s host port := by
  unfold splitHostPort at hOk
  split at hOk
  · cases hOk
  rename_i front back hLast
  rcases splitLast_eq_some hLast with ⟨hText, hBack⟩
  split at hOk
  · rename_i hHead
    -- Only one of the tests on the closing bracket goes on.
    simp only at hOk
    split at hOk
    · cases hOk
    rename_i hClosed
    split at hOk
    · cases hOk
    split at hOk
    · rename_i hLength
      exact bracketed_sound hText hBack hHead hClosed
        hLength hOk
    · split at hOk
      · cases hOk
      · cases hOk
  · split at hOk
    · cases hOk
    · rename_i hColon
      subst hText
      exact bare_sound hBack hColon hOk

theorem HostPortText.splits
    {s host port : Bytes}
    (hText : HostPortText s host port) :
    splitHostPort s = .ok (host, port) := by
  cases hText with
  | bare hHost hPort =>
      exact splitHostPort_bare hHost.no_colon hHost.no_open
        hHost.no_close hPort
  | bracketed hOpen hClose hPort =>
      exact splitHostPort_bracketed hOpen hClose hPort

/- What is before the last colon is the host or longer. -/
theorem HostPortText.front
    {s host port : Bytes}
    (hText : HostPortText s host port) :
    ∃ front, s = front ++ 58 :: port ∧
      host.length ≤ front.length ∧ 58 ∉ port := by
  cases hText with
  | bare hHost hPort =>
      exact ⟨host, rfl, le_refl _, hPort.no_colon⟩
  | bracketed hOpen hClose hPort =>
      refine ⟨91 :: (host ++ [93]), by simp, ?_,
        hPort.no_colon⟩
      simp
      omega

end BridgeSigner

------------------------------------------------------------
-- IP Addresses
------------------------------------------------------------

namespace BridgeSigner

/- An IP address in its 16-byte form. -/
structure IP where
  bytes : Bytes
  length_eq : bytes.length = 16

/- The four bytes behind the mapping prefix, if it is there. -/
def IP.to4
    (ip : IP) : Option Bytes :=
  if ip.bytes.take 12 = zeros 10 ++ [255, 255] then
    some (ip.bytes.drop 12)
  else
    none

/- An IPv4 address in 16-byte form. -/
def IP.v4
    (a b c d : UInt8) : IP :=
  ⟨zeros 10 ++ [255, 255, a, b, c, d], rfl⟩

/- The numbers of a list, joined by a separator. -/
def joinTexts
    (sep : UInt8) :
    List Bytes → Bytes
| [] => []
| [t] => t
| t :: ts => t ++ sep :: joinTexts sep ts

/- The 16-bit groups of an address. -/
def groups : Bytes → List Nat
| a :: b :: rest => (a.toNat * 256 + b.toNat) :: groups rest
| _ => []

/- A group in hexadecimal, without leading zeros. -/
def groupText
    (n : Nat) : Bytes :=
  let nibbles :=
    [n / 4096 % 16, n / 256 % 16, n / 16 % 16]
  (nibbles.dropWhile (· == 0) ++ [n % 16]).map hexDigit

/- The length of the run of zeros at the front. -/
def zeroRun
    (gs : List Nat) : Nat :=
  (gs.takeWhile (· == 0)).length

/-
  Start and length of the longest run of at least two zero
  groups, the first one of its length.
-/
def longestRun :
    Nat → List Nat → Option (Nat × Nat)
| _, [] => none
| i, g :: gs =>
    let here := zeroRun (g :: gs)
    match longestRun (i + 1) gs with
    | some (j, n) =>
        if n ≤ here then some (i, here) else some (j, n)
    | none => if 2 ≤ here then some (i, here) else none

/- The text of an address that is not an IPv4 address. -/
def text6
    (gs : List Nat) : Bytes :=
  match longestRun 0 gs with
  | none => joinTexts 58 (gs.map groupText)
  | some (i, n) =>
      joinTexts 58 ((gs.take i).map groupText) ++
        58 :: 58 ::
          joinTexts 58 ((gs.drop (i + n)).map groupText)

/- The canonical text of an address. -/
def IP.text
    (ip : IP) : Bytes :=
  match ip.to4 with
  | some b =>
      joinTexts 46 (b.map (fun x => formatUint x.toNat))
  | none => text6 (groups ip.bytes)

/- A byte that stands in no bracket and in no scheme. -/
def HostByte
    (b : UInt8) : Prop :=
  b ≠ 91 ∧ b ≠ 93 ∧ b ≠ 47

instance : DecidablePred HostByte := fun b =>
  inferInstanceAs (Decidable (b ≠ 91 ∧ b ≠ 93 ∧ b ≠ 47))

/- The end of a TCP connection. -/
structure TCPAddr where
  ip : IP
  zone : Bytes
  port : UInt16
  zone_plain : zone.all (fun b => decide (HostByte b)) = true

/- An address with its zone, if it has one. -/
def IP.zoned
    (ip : IP)
    (zone : Bytes) : Bytes :=
  if zone = [] then
    ip.text
  else
    ip.text ++ 37 :: zone

def TCPAddr.host
    (a : TCPAddr) : Bytes :=
  a.ip.zoned a.zone

def TCPAddr.text
    (a : TCPAddr) : Bytes :=
  joinHostPort a.host (formatUint a.port.toNat)

end BridgeSigner

------------------------------------------------------------
-- Address Texts Split
------------------------------------------------------------

namespace BridgeSigner

theorem mem_joinTexts
    {sep b : UInt8}
    {ts : List Bytes}
    (hb : b ∈ joinTexts sep ts) :
    b = sep ∨ ∃ t ∈ ts, b ∈ t := by
  induction ts with
  | nil => cases hb
  | cons t ts ih =>
      cases ts with
      | nil => exact Or.inr ⟨t, by simp, hb⟩
      | cons t' ts =>
          simp only [joinTexts, List.mem_append,
            List.mem_cons] at hb
          rcases hb with hb | rfl | hb
          · exact Or.inr ⟨t, by simp, hb⟩
          · exact Or.inl rfl
          · rcases ih hb with rfl | ⟨u, hu, hbu⟩
            · exact Or.inl rfl
            · exact Or.inr
                ⟨u, List.mem_cons_of_mem _ hu, hbu⟩

theorem hostByte_hexDigit
    {n : Nat}
    (hn : n < 16) :
    HostByte (hexDigit n) := by
  interval_cases n <;> decide

theorem hostByte_groupText
    {n : Nat}
    {b : UInt8}
    (hb : b ∈ groupText n) :
    HostByte b := by
  simp only [groupText, List.mem_map, List.mem_append,
    List.mem_singleton] at hb
  rcases hb with ⟨k, hk | rfl, rfl⟩
  · have hMem := (List.dropWhile_suffix _).subset hk
    simp only [List.mem_cons, List.not_mem_nil,
      or_false] at hMem
    apply hostByte_hexDigit
    rcases hMem with rfl | rfl | rfl
    · exact Nat.mod_lt _ (by decide)
    · exact Nat.mod_lt _ (by decide)
    · exact Nat.mod_lt _ (by decide)
  · exact hostByte_hexDigit (Nat.mod_lt _ (by decide))

theorem hostByte_of_isDigit
    {b : UInt8}
    (hb : isDigit b = true) :
    HostByte b :=
  ⟨ne_of_isDigit hb (by decide),
    ne_of_isDigit hb (by decide),
    ne_of_isDigit hb (by decide)⟩

theorem hostByte_joinGroups
    {gs : List Nat}
    {b : UInt8}
    (hb : b ∈ joinTexts 58 (gs.map groupText)) :
    HostByte b := by
  rcases mem_joinTexts hb with rfl | ⟨t, ht, hbt⟩
  · decide
  · rcases List.mem_map.mp ht with ⟨n, -, rfl⟩
    exact hostByte_groupText hbt

theorem hostByte_text6
    {gs : List Nat}
    {b : UInt8}
    (hb : b ∈ text6 gs) :
    HostByte b := by
  unfold text6 at hb
  split at hb
  · exact hostByte_joinGroups hb
  · simp only [List.mem_append, List.mem_cons] at hb
    rcases hb with hb | rfl | rfl | hb
    · exact hostByte_joinGroups hb
    · decide
    · decide
    · exact hostByte_joinGroups hb

/- No address text has a bracket or a slash. -/
theorem IP.hostByte_text
    {ip : IP}
    {b : UInt8}
    (hb : b ∈ ip.text) :
    HostByte b := by
  unfold IP.text at hb
  split at hb
  · rcases mem_joinTexts hb with rfl | ⟨t, ht, hbt⟩
    · decide
    · rcases List.mem_map.mp ht with ⟨x, -, rfl⟩
      exact hostByte_of_isDigit
        (isDigit_of_mem_formatUint hbt)
  · exact hostByte_text6 hb

namespace TCPAddr

theorem hostByte_host
    {a : TCPAddr}
    {b : UInt8}
    (hb : b ∈ a.host) :
    HostByte b := by
  unfold host IP.zoned at hb
  split at hb
  · exact IP.hostByte_text hb
  · simp only [List.mem_append, List.mem_cons] at hb
    rcases hb with hb | rfl | hb
    · exact IP.hostByte_text hb
    · decide
    · have hAll := List.all_eq_true.mp a.zone_plain b hb
      exact of_decide_eq_true hAll

/- The text of an end point splits into address and port. -/
theorem splitHostPort_text
    (a : TCPAddr) :
    splitHostPort a.text =
      .ok (a.host, formatUint a.port.toNat) := by
  refine splitHostPort_joinHostPort ?_ ?_ ?_
  · intro hMem
    exact (hostByte_host hMem).1 rfl
  · intro hMem
    exact (hostByte_host hMem).2.1 rfl
  · intro b hb
    have hDigit := isDigit_of_mem_formatUint hb
    exact ⟨ne_of_isDigit hDigit (by decide),
      (hostByte_of_isDigit hDigit).1,
      (hostByte_of_isDigit hDigit).2.1⟩

/- The text of an end point has no slash. -/
theorem slash_not_mem_text
    (a : TCPAddr) :
    47 ∉ a.text := by
  intro hMem
  have hPort :
      (47 : UInt8) ∉ formatUint a.port.toNat := by
    intro hDigit
    exact (hostByte_of_isDigit
      (isDigit_of_mem_formatUint hDigit)).2.2 rfl
  have hHost : (47 : UInt8) ∉ a.host :=
    fun hMem => (hostByte_host hMem).2.2 rfl
  unfold text joinHostPort at hMem
  split at hMem
  · simp [hPort, hHost] at hMem
  · simp [hPort, hHost] at hMem

end TCPAddr

example : (IP.v4 172 18 0 2).text = ascii "172.18.0.2" := by
  decide

example :
    (IP.mk (beBytes 16 0x20010db8000000000000ff0000428329)
        rfl).text =
      ascii "2001:db8::ff00:42:8329" := by
  decide

end BridgeSigner
