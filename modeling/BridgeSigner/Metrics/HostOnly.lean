import BridgeSigner.Consensus.Primary

/-
  The two ways to the host of a dial target
  (metrics/metrics.go, consensus/primary.go).

  The metric cuts the host out of a target with `hostOnly`,
  the arbiter with `hostOf`. Only the second one takes a
  scheme away, and the texts where both come to the same
  host are told here by how they are written.

  Key definitions include:
    * `hostOnly`
    * `PlainTarget`
    * `EchoTarget`

  Main results:
    * `hostsAgree_iff`
-/

------------------------------------------------------------
-- The Port
------------------------------------------------------------

namespace BridgeSigner

namespace Metrics

/- Strip the port from a peer address. -/
def hostOnly
    (remoteAddr : Bytes) : Bytes :=
  match splitHostPort remoteAddr with
  | .ok (host, _) => host
  | .error _ => remoteAddr

theorem hostOnly_of_text
    {s host port : Bytes}
    (hText : HostPortText s host port) :
    hostOnly s = host := by
  rw [hostOnly, hText.splits]

/- A target loses its port, or is taken as it is. -/
theorem hostOnly_cases
    (s : Bytes) :
    (∃ port, HostPortText s (hostOnly s) port) ∨
      hostOnly s = s := by
  cases hSplit : splitHostPort s with
  | error e =>
      right
      rw [hostOnly, hSplit]
  | ok hp =>
      left
      have hText := splitHostPort_sound hSplit
      rw [hostOnly_of_text hText]
      exact ⟨hp.2, hText⟩

theorem hostOnly_length_le
    (s : Bytes) :
    (hostOnly s).length ≤ s.length := by
  rcases hostOnly_cases s with ⟨port, hText⟩ | hSame
  · rcases hText.front with ⟨front, hs, hLe, -⟩
    have hLength := congrArg List.length hs
    rw [List.length_append] at hLength
    omega
  · rw [hSame]

theorem hostOnly_of_no_colon
    {s : Bytes}
    (hColon : 58 ∉ s) :
    hostOnly s = s := by
  rw [hostOnly, splitHostPort, splitLast_of_not_mem hColon]

/- The targets without a host: an empty one, or a port. -/
theorem hostOnly_eq_nil_iff
    {s : Bytes} :
    hostOnly s = [] ↔
      s = [] ∨ ∃ port, PortText port ∧
        (s = 58 :: port ∨ s = 91 :: 93 :: 58 :: port) := by
  constructor
  · intro hNil
    rcases hostOnly_cases s with ⟨port, hText⟩ | hSame
    · right
      rw [hNil] at hText
      cases hText with
      | bare hHost hPort => exact ⟨port, hPort, .inl rfl⟩
      | bracketed hOpen hClose hPort =>
          exact ⟨port, hPort, .inr rfl⟩
    · left
      rw [← hSame, hNil]
  · rintro (rfl | ⟨port, hPort, rfl | rfl⟩)
    · rfl
    · have hText : HostPortText ([] ++ 58 :: port) [] port :=
        .bare (by simp [PortText]) hPort
      exact hostOnly_of_text hText
    · have hText :
          HostPortText (91 :: ([] ++ 93 :: 58 :: port)) []
            port :=
        .bracketed (by simp) (by simp) hPort
      exact hostOnly_of_text hText

/- The arbiter strips the scheme, and then the port. -/
theorem hostOf_eq_hostOnly
    (id : Bytes) :
    Consensus.hostOf id =
      hostOnly ((afterFirst (ascii "://") id).getD id) := by
  unfold Consensus.hostOf hostOnly
  split
  · rename_i hEmpty
    subst hEmpty
    rfl
  · rfl

end Metrics

end BridgeSigner

------------------------------------------------------------
-- The Scheme
------------------------------------------------------------

namespace BridgeSigner

theorem PortText.of_slashes
    {rest : Bytes}
    (hPort : PortText (47 :: 47 :: rest)) :
    PortText rest :=
  fun b hb => hPort b (by simp [hb])

theorem PortText.slashes
    {host : Bytes}
    (hHost : PortText host) :
    PortText (47 :: 47 :: host) := by
  intro b hb
  simp only [List.mem_cons] at hb
  rcases hb with rfl | rfl | hb
  · decide
  · decide
  · exact hHost b hb

namespace Metrics

open Consensus

/- Both ways to cut the host out of a target agree on it. -/
def HostsAgree
    (id : Bytes) : Prop :=
  hostOnly id = hostOf id ∧ hostOf id ≠ []

/- No scheme, and a host in front of the port. -/
structure PlainTarget
    (id : Bytes) : Prop where
  no_scheme : ¬ ascii "://" <:+: id
  not_empty : id ≠ []
  not_port :
    ∀ port, PortText port →
      id ≠ 58 :: port ∧ id ≠ 91 :: 93 :: 58 :: port

/- A scheme that is repeated as the host, without a port. -/
def EchoTarget
    (id : Bytes) : Prop :=
  ∃ host, host ≠ [] ∧ PortText host ∧
    (id = host ++ (ascii "://" ++ host) ∨
      id = 91 :: (host ++ 93 :: (ascii "://" ++ host)))

/- Without brackets the scheme's colon is the only one. -/
theorem bare_scheme_parts
    {scheme rest host port : Bytes}
    (hHost : PortText host)
    (hPort : PortText port)
    (hText :
      host ++ 58 :: port = scheme ++ (ascii "://" ++ rest)) :
    scheme = host ∧ port = 47 :: 47 :: rest := by
  have hParts :=
    (List.append_cons_inj_of_notMem hHost.no_colon
      hPort.no_colon).mp hText
  exact ⟨hParts.1.symm, hParts.2.2⟩

/-
  In brackets the scheme's colon is the one of the port, if
  what follows the scheme has no closing bracket.
-/
theorem bracketed_scheme_parts
    {scheme rest host port : Bytes}
    (hRest : 93 ∉ rest)
    (hPort : PortText port)
    (hText :
      91 :: (host ++ 93 :: 58 :: port) =
        scheme ++ (ascii "://" ++ rest)) :
    port = 47 :: 47 :: rest := by
  have hSplit :
      (91 :: host) ++ 93 :: 58 :: port =
        scheme ++ (58 :: 47 :: 47 :: rest) :=
    hText
  rcases List.append_eq_append_iff.mp hSplit with
    ⟨between, hScheme, hBack⟩ | ⟨between, hHost, hBack⟩
  · cases between with
    | nil => cases hBack
    | cons x between =>
        cases between with
        | nil =>
            cases hBack
            rfl
        | cons y between =>
            -- A colon after the port's would be in the port.
            cases hBack
            exact absurd (by simp) hPort.no_colon
  · have hMem : 93 ∈ 58 :: 47 :: 47 :: rest := by
      rw [hBack]
      simp
    simp [hRest] at hMem

theorem echo_of_agree
    {scheme rest id : Bytes}
    (hText : id = scheme ++ (ascii "://" ++ rest))
    (hAgree : hostOnly id = hostOnly rest)
    (hHost : hostOnly id ≠ []) :
    EchoTarget id := by
  rcases hostOnly_cases id with ⟨port, hSplits⟩ | hSame
  · generalize hostOnly id = host at hAgree hHost hSplits
    cases hSplits with
    | bare hBare hPort =>
        rcases bare_scheme_parts hBare hPort hText with
          ⟨-, rfl⟩
        rw [hostOnly_of_no_colon hPort.of_slashes.no_colon]
          at hAgree
        subst hAgree
        exact ⟨host, hHost, hBare, .inl rfl⟩
    | bracketed hOpen hClose hPort =>
        rcases hostOnly_cases rest with
          ⟨port', hRest⟩ | hRest
        · -- The host ends further from the end than it may.
          rcases hRest.front with
            ⟨front, hEq, hLe, hColon⟩
          rw [← hAgree] at hLe
          rw [hEq] at hText
          have hLast :
              91 :: (host ++ [93]) ++ 58 :: port =
                scheme ++ ascii "://" ++ front ++
                  58 :: port' := by
            simpa using hText
          have hLength :=
            congrArg List.length
              (append_cons_last_inj hPort.no_colon hColon
                hLast).1
          simp [ascii] at hLength
          omega
        · rw [hRest] at hAgree
          subst hAgree
          have hParts :=
            bracketed_scheme_parts hClose hPort hText
          subst hParts
          exact ⟨host, hHost, hPort.of_slashes, .inr rfl⟩
  · -- What is taken as it is keeps its scheme.
    have hLe := hostOnly_length_le rest
    rw [← hAgree, hSame, hText] at hLe
    simp [ascii] at hLe
    omega

/- The scheme that is the host is not taken for one. -/
theorem EchoTarget.agree
    {id : Bytes}
    (hEcho : EchoTarget id) :
    HostsAgree id := by
  rcases hEcho with ⟨host, hNe, hHost, hText⟩
  have hOnly : hostOnly id = host := by
    rcases hText with rfl | rfl
    · exact hostOnly_of_text (.bare hHost hHost.slashes)
    · exact hostOnly_of_text
        (.bracketed hHost.no_open hHost.no_close
          hHost.slashes)
  have hAfter : afterFirst (ascii "://") id = some host := by
    rcases hText with rfl | rfl
    · exact afterFirst_append (c := 58)
        (afterFirst_of_not_mem (by decide) hHost.no_colon)
        (by decide) host
    · have hFront : 58 ∉ 91 :: (host ++ [93]) := by
        simp [hHost.no_colon]
      have hNone :
          afterFirst [58, 47, 47] (91 :: (host ++ [93])) =
            none :=
        afterFirst_of_not_mem (by decide) hFront
      have hFound :=
        afterFirst_append hNone (by decide) host
      simpa [ascii] using hFound
  have hOf : hostOf id = host := by
    rw [hostOf_eq_hostOnly, hAfter]
    exact hostOnly_of_no_colon hHost.no_colon
  exact ⟨hOnly.trans hOf.symm, hOf ▸ hNe⟩

/-
  Both ways come to the same host exactly on the targets
  without a scheme that have a host, and on those whose
  scheme is their host.
-/
theorem hostsAgree_iff
    {id : Bytes} :
    HostsAgree id ↔ PlainTarget id ∨ EchoTarget id := by
  constructor
  · rintro ⟨hAgree, hNe⟩
    rw [← hAgree] at hNe
    cases hAfter : afterFirst (ascii "://") id with
    | none =>
        left
        rw [ne_eq, hostOnly_eq_nil_iff, not_or] at hNe
        refine ⟨afterFirst_eq_none_iff.mp hAfter, hNe.1, ?_⟩
        intro port hPort
        refine ⟨?_, ?_⟩
        · exact fun hId => hNe.2 ⟨port, hPort, .inl hId⟩
        · exact fun hId => hNe.2 ⟨port, hPort, .inr hId⟩
    | some rest =>
        right
        rcases afterFirst_eq_some hAfter with
          ⟨scheme, hText⟩
        rw [hostOf_eq_hostOnly, hAfter] at hAgree
        exact echo_of_agree hText hAgree hNe
  · rintro (hPlain | hEcho)
    · have hAfter : afterFirst (ascii "://") id = none :=
        afterFirst_eq_none_iff.mpr hPlain.no_scheme
      have hOf : hostOf id = hostOnly id := by
        rw [hostOf_eq_hostOnly, hAfter]
        rfl
      refine ⟨hOf.symm, ?_⟩
      rw [hOf, ne_eq, hostOnly_eq_nil_iff]
      rintro (hEmpty | ⟨port, hPort, hId⟩)
      · exact hPlain.not_empty hEmpty
      · rcases hPlain.not_port port hPort with ⟨hBare, hBoth⟩
        exact hId.elim hBare hBoth
    · exact hEcho.agree

end Metrics

end BridgeSigner
