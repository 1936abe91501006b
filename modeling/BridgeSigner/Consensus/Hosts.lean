import BridgeSigner.Consensus.Primary

/-
  The host behind an address (consensus/primary.go).

  Dial targets and peers are written with different ports,
  and with or without a scheme. `hostOf` takes both away and
  leaves the host as it was, so that the hosts of two
  addresses can be compared.

  Key definitions include:
    * `joinZonedHostPort`
    * `HostText`

  Main results:
    * `hostOf_ignores_scheme_and_port`
-/

------------------------------------------------------------
-- Addresses
------------------------------------------------------------

namespace BridgeSigner

namespace Consensus

/-
  Join a host and a port. A literal address, with colons or
  with a zone, is put in brackets.
-/
def joinZonedHostPort
    (host port : Bytes) : Bytes :=
  if 58 ∈ host ∨ 37 ∈ host then
    91 :: (host ++ 93 :: 58 :: port)
  else
    host ++ 58 :: port

/- A host without brackets and without a scheme's end. -/
structure HostText
    (host : Bytes) : Prop where
  no_open : 91 ∉ host
  no_close : 93 ∉ host
  no_scheme : ¬ ascii "://" <:+: host

/- A port of decimal digits, also an empty one. -/
def DigitPort
    (port : Bytes) : Prop :=
  ∀ b ∈ port, isDigit b = true

theorem DigitPort.portText
    {port : Bytes}
    (hPort : DigitPort port) :
    PortText port := by
  intro b hb
  have hDigit := hPort b hb
  refine ⟨?_, ?_, ?_⟩ <;>
    · rintro rfl
      exact absurd hDigit (by decide)

theorem DigitPort.no_slash
    {port : Bytes}
    (hPort : DigitPort port) :
    47 ∉ port := by
  intro hMem
  exact absurd (hPort 47 hMem) (by decide)

variable {host port : Bytes}

theorem joinZonedHostPort_ne_nil :
    joinZonedHostPort host port ≠ [] := by
  unfold joinZonedHostPort
  split
  · simp
  · simp

theorem splitHostPort_joinZoned
    (hHost : HostText host)
    (hPort : DigitPort port) :
    splitHostPort (joinZonedHostPort host port) =
      .ok (host, port) := by
  unfold joinZonedHostPort
  split
  · exact splitHostPort_bracketed hHost.no_open
      hHost.no_close hPort.portText
  · rename_i hBare
    rw [not_or] at hBare
    exact splitHostPort_bare hBare.1 hHost.no_open
      hHost.no_close hPort.portText

/- The colon in front of a port ends no scheme. -/
theorem afterFirst_port
    (hPort : DigitPort port) :
    afterFirst (ascii "://") (58 :: port) = none := by
  apply afterFirst_of_not_mem (c := 47) (by decide)
  simpa using hPort.no_slash

/- A joined host and port have no scheme's end in them. -/
theorem afterFirst_joinZoned
    (hHost : HostText host)
    (hPort : DigitPort port) :
    afterFirst (ascii "://") (joinZonedHostPort host port) =
      none := by
  have hNone : afterFirst (ascii "://") host = none :=
    afterFirst_eq_none_iff.mpr hHost.no_scheme
  unfold joinZonedHostPort
  split
  · -- No separator reaches over either bracket.
    have hOpen :
        afterFirst (ascii "://")
            (91 :: (host ++ 93 :: 58 :: port)) =
          afterFirst (ascii "://")
            (host ++ 93 :: 58 :: port) := by
      simp [afterFirst, ascii]
    have hClose :
        afterFirst (ascii "://") (93 :: 58 :: port) =
          afterFirst (ascii "://") (58 :: port) := by
      simp [afterFirst, ascii]
    rw [hOpen, afterFirst_append_cons hNone (by decide),
      hClose]
    exact afterFirst_port hPort
  · rw [afterFirst_append_cons hNone (by decide)]
    exact afterFirst_port hPort

end Consensus

end BridgeSigner

------------------------------------------------------------
-- Scheme And Port Are Ignored
------------------------------------------------------------

namespace BridgeSigner

namespace Consensus

/- The addresses of a host on a port, by their schemes. -/
def addressTexts
    (scheme host port : Bytes) : List Bytes :=
  [joinZonedHostPort host port,
    scheme ++ (ascii "://" ++ joinZonedHostPort host port)]

theorem hostOf_addressTexts
    {scheme host port : Bytes}
    (hScheme : ¬ ascii "://" <:+: scheme)
    (hHost : HostText host)
    (hPort : DigitPort port) :
    ∀ a ∈ addressTexts scheme host port,
      hostOf a = host := by
  intro a ha
  have hSplits := splitHostPort_joinZoned hHost hPort
  simp only [addressTexts, List.mem_cons,
    List.not_mem_nil, or_false] at ha
  rcases ha with rfl | rfl
  · apply hostOf_of_splits joinZonedHostPort_ne_nil
      (afterFirst_joinZoned hHost hPort) hSplits
  · exact hostOf_of_scheme
      (afterFirst_eq_none_iff.mpr hScheme) hSplits

/-
  The host of an address is the host it was written with,
  and two addresses have one host exactly if they were
  written with one.
-/
theorem hostOf_ignores_scheme_and_port
    {scheme host port scheme' host' port' : Bytes}
    (hScheme : ¬ ascii "://" <:+: scheme)
    (hHost : HostText host)
    (hPort : DigitPort port)
    (hScheme' : ¬ ascii "://" <:+: scheme')
    (hHost' : HostText host')
    (hPort' : DigitPort port') :
    hostOf (joinZonedHostPort host port) = host ∧
      hostOf
          (scheme ++
            (ascii "://" ++ joinZonedHostPort host port)) =
        host ∧
      ∀ a ∈ addressTexts scheme host port,
        ∀ a' ∈ addressTexts scheme' host' port',
          hostOf a = hostOf a' ↔ host = host' := by
  have hTexts := hostOf_addressTexts hScheme hHost hPort
  have hTexts' := hostOf_addressTexts hScheme' hHost' hPort'
  refine ⟨?_, ?_, ?_⟩
  · apply hTexts
    simp [addressTexts]
  · apply hTexts
    simp [addressTexts]
  · intro a ha a' ha'
    rw [hTexts a ha, hTexts' a' ha']

/- An IPv6 literal with a zone, and a name. -/
theorem hostOf_ignores_scheme_and_port_literal :
    let six := ascii "fe80::1%eth0"
    let name := ascii "layer"
    hostOf (joinZonedHostPort six (ascii "26659")) = six ∧
      hostOf
          (ascii "tcp" ++
            (ascii "://" ++
              joinZonedHostPort six (ascii "26659"))) =
        six ∧
      ∀ a ∈ addressTexts (ascii "tcp") six (ascii "26659"),
        ∀ a' ∈ addressTexts (ascii "a:") name (ascii "80"),
          hostOf a = hostOf a' ↔ six = name :=
  hostOf_ignores_scheme_and_port
    (afterFirst_eq_none_iff.mp (by decide))
    ⟨by decide, by decide,
      afterFirst_eq_none_iff.mp (by decide)⟩
    (by unfold DigitPort; decide +kernel)
    (afterFirst_eq_none_iff.mp (by decide))
    ⟨by decide, by decide,
      afterFirst_eq_none_iff.mp (by decide)⟩
    (by unfold DigitPort; decide +kernel)

end Consensus

end BridgeSigner
