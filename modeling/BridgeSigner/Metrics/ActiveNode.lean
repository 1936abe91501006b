import Mathlib.Logic.Function.Basic
import BridgeSigner.Consensus.Handler
import BridgeSigner.Metrics.HostOnly

/-
  The metric of the active node (metrics/metrics.go,
  consensus/server.go).

  A granted sign request marks its target as the node that
  is signing: the series of the target's host is set to 1,
  and every series seen before to 0. The host is cut out of
  the target by `hostOnly`, which takes a port away but
  leaves a scheme; the arbiter's `hostOf` takes both away.

  Key definitions include:
    * `ActiveNode.recordSign`
    * `recordingHandler`
    * `State.NamesPrimary`

  Main results:
    * `recordingHandler_gated`
    * `names_primary_iff`
-/

------------------------------------------------------------
-- The Gauges
------------------------------------------------------------

namespace BridgeSigner

namespace Metrics

/- The values of a metric by label; `none` is no series. -/
abbrev GaugeVec :=
  Bytes → Option Nat

/- The labels seen so far, and their gauges. -/
structure ActiveNode where
  seen : List Bytes
  gauge : GaugeVec

def ActiveNode.initial : ActiveNode :=
  ⟨[], fun _ => none⟩

/- Set the gauges of labels, in any order they come in. -/
def setGauges
    (ip : Bytes)
    (labels : List Bytes)
    (g : GaugeVec) : GaugeVec :=
  labels.foldl
    (fun g s =>
      Function.update g s (some (if s = ip then 1 else 0)))
    g

/- A label not seen before is added. -/
def addLabel
    (ip : Bytes)
    (seen : List Bytes) : List Bytes :=
  if seen.contains ip then seen else ip :: seen

namespace ActiveNode

def recordSign
    (m : ActiveNode)
    (remoteAddr : Bytes) : ActiveNode :=
  let ip := hostOnly remoteAddr
  if ip = [] then
    m
  else
    let seen := addLabel ip m.seen
    ⟨seen, setGauges ip seen m.gauge⟩

end ActiveNode

theorem mem_addLabel
    {ip s : Bytes}
    {seen : List Bytes} :
    s ∈ addLabel ip seen ↔ s = ip ∨ s ∈ seen := by
  unfold addLabel
  split
  · rename_i hSeen
    rw [List.contains_iff_mem] at hSeen
    constructor
    · exact Or.inr
    · rintro (rfl | hMem)
      · exact hSeen
      · exact hMem
  · exact List.mem_cons

/- The order of the labels makes no difference. -/
theorem setGauges_apply
    (ip : Bytes)
    (labels : List Bytes)
    (g : GaugeVec)
    (s : Bytes) :
    setGauges ip labels g s =
      if s ∈ labels then
        some (if s = ip then 1 else 0)
      else
        g s := by
  unfold setGauges
  induction labels generalizing g with
  | nil => simp
  | cons l labels ih =>
      rw [List.foldl_cons, ih]
      by_cases hMem : s ∈ labels
      · simp [hMem]
      · by_cases hEq : s = l
        · simp [hEq]
        · simp [hMem, hEq]

end Metrics

end BridgeSigner

------------------------------------------------------------
-- What A Recorded Target Shows
------------------------------------------------------------

namespace BridgeSigner

namespace Metrics

namespace ActiveNode

/- Exactly the labels seen have a series. -/
def Accounted
    (m : ActiveNode) : Prop :=
  ∀ s, m.gauge s ≠ none ↔ s ∈ m.seen

/- The series of one label is 1, the others seen are 0. -/
structure Shows
    (m : ActiveNode)
    (ip : Bytes) : Prop where
  active : ∀ s, m.gauge s = some 1 ↔ s = ip
  others : ∀ s ∈ m.seen, s ≠ ip → m.gauge s = some 0

variable {m : ActiveNode}
variable {remoteAddr : Bytes}

theorem initial_accounted :
    initial.Accounted := by
  intro s
  simp [initial]

theorem recordSign_of_empty
    (hEmpty : hostOnly remoteAddr = []) :
    m.recordSign remoteAddr = m := by
  simp [recordSign, hEmpty]

theorem recordSign_seen
    (hHost : hostOnly remoteAddr ≠ [])
    (s : Bytes) :
    s ∈ (m.recordSign remoteAddr).seen ↔
      s = hostOnly remoteAddr ∨ s ∈ m.seen := by
  simp only [recordSign, if_neg hHost]
  exact mem_addLabel

theorem recordSign_gauge
    (hHost : hostOnly remoteAddr ≠ [])
    (s : Bytes) :
    (m.recordSign remoteAddr).gauge s =
      if s = hostOnly remoteAddr ∨ s ∈ m.seen then
        some (if s = hostOnly remoteAddr then 1 else 0)
      else
        m.gauge s := by
  simp only [recordSign, if_neg hHost, setGauges_apply,
    mem_addLabel]

theorem Accounted.recordSign
    (hAccounted : m.Accounted)
    (remoteAddr : Bytes) :
    (m.recordSign remoteAddr).Accounted := by
  by_cases hHost : hostOnly remoteAddr = []
  · rw [recordSign_of_empty hHost]
    exact hAccounted
  · intro s
    rw [recordSign_gauge hHost, recordSign_seen hHost]
    split
    · rename_i hMem
      simp [hMem]
    · rename_i hMem
      rw [hAccounted s]
      rw [not_or] at hMem
      simp [hMem]

/- A recorded target's host is shown, whatever came before. -/
theorem Accounted.shows
    (hAccounted : m.Accounted)
    (hHost : hostOnly remoteAddr ≠ []) :
    (m.recordSign remoteAddr).Shows
      (hostOnly remoteAddr) := by
  constructor
  · intro s
    rw [recordSign_gauge hHost]
    split
    · simp
    · rename_i hMem
      rw [not_or] at hMem
      have hNone : m.gauge s = none := by
        by_contra hSome
        exact hMem.2 ((hAccounted s).mp hSome)
      simp [hNone, hMem.1]
  · intro s hSeen hOther
    rw [recordSign_seen hHost] at hSeen
    rw [recordSign_gauge hHost, if_pos hSeen,
      if_neg hOther]

end ActiveNode

end Metrics

end BridgeSigner

------------------------------------------------------------
-- The Handler That Records
------------------------------------------------------------

namespace BridgeSigner

namespace Metrics

open Consensus

/-
  The gated handler with the metric it updates: a request
  that the arbiter grants is recorded before it goes on.
-/
def recordingHandler
    {σ : Type}
    (arbiter : Arbiter σ)
    (a : σ)
    (m : ActiveNode)
    (id : Bytes)
    (now : Instant)
    (next : Message → Bytes → Plan)
    (req : Message)
    (chainID : Bytes) : Option Plan × σ × ActiveNode :=
  match notPrimaryResponse req with
  | .panic => (none, a, m)
  | .other => (some (next req chainID), a, m)
  | .sign refusal height =>
      match arbiter.acquire a id height now with
      | (false, a') =>
          (some (.answer (refusal, none)), a', m)
      | (true, a') =>
          (some (next req chainID), a', m.recordSign id)

/- Without the metric it is the gated handler. -/
theorem recordingHandler_gated
    {σ : Type}
    (arbiter : Arbiter σ)
    (a : σ)
    (m : ActiveNode)
    (id : Bytes)
    (now : Instant)
    (next : Message → Bytes → Plan)
    (req : Message)
    (chainID : Bytes) :
    let r :=
      recordingHandler arbiter a m id now next req chainID
    (r.1, r.2.1) =
      gatedHandler arbiter a id now next req chainID := by
  cases hReq : notPrimaryResponse req with
  | panic => simp [recordingHandler, gatedHandler, hReq]
  | other => simp [recordingHandler, gatedHandler, hReq]
  | sign refusal height =>
      simp only [recordingHandler, gatedHandler, hReq]
      rcases arbiter.acquire a id height now with ⟨ok, a'⟩
      cases ok with
      | false => rfl
      | true => rfl

/-
  The arbiter and the metric of a running signer, and the
  targets granted so far.
-/
structure State where
  arbiter : PrimaryArbiter
  metrics : ActiveNode
  granted : List Bytes

def State.initial
    (a : PrimaryArbiter) : State :=
  ⟨a, .initial, []⟩

/- A request of a target, or the end of its connection. -/
inductive Event where
| request (id : Bytes) (req : Message) (now : Instant)
| release (id : Bytes)

def Event.id : Event → Bytes
| .request id _ _ => id
| .release id => id

/- Whether the arbiter grants a sign request. -/
def State.grants
    (s : State)
    (id : Bytes)
    (req : Message)
    (now : Instant) : Bool :=
  match notPrimaryResponse req with
  | .sign _ height => (s.arbiter.acquire id height now).1
  | _ => false

/- Handle one event; a handler that panics ends the run. -/
def machine
    (next : Message → Bytes → Plan)
    (chainID : Bytes) :
    Machine State Event where
  step := fun s e =>
    match e with
    | .release id =>
        some { s with arbiter := (s.arbiter.release id).2 }
    | .request id req now =>
        match
          recordingHandler primaryArbiter s.arbiter
            s.metrics id now next req chainID
        with
        | (none, _, _) => none
        | (some _, a, m) =>
            some
              ⟨a, m,
                if s.grants id req now then
                  id :: s.granted
                else
                  s.granted⟩

/-
  The metric names the primary: its host has the one series
  that is 1, every other series seen is 0, and there is one
  series for every host that was granted a request.
-/
structure State.NamesPrimary
    (s : State) : Prop where
  shows : s.metrics.Shows s.arbiter.primaryHost
  series :
    ∀ l, s.metrics.gauge l ≠ none ↔
      ∃ id ∈ s.granted, hostOf id = l

end Metrics

end BridgeSigner

------------------------------------------------------------
-- The Metric And The Primary
------------------------------------------------------------

namespace BridgeSigner

namespace Metrics

open Consensus

variable {next : Message → Bytes → Plan}
variable {chainID : Bytes}
variable {s t : State}
variable {id : Bytes}
variable {req : Message}
variable {now : Instant}

/- A granted request elects its target and records it. -/
theorem step_granted
    (next : Message → Bytes → Plan)
    (chainID : Bytes)
    (hGrants : s.grants id req now = true) :
    ∃ height,
      (machine next chainID).step s (.request id req now) =
        some
          ⟨s.arbiter.elect id height now,
            s.metrics.recordSign id, id :: s.granted⟩ := by
  unfold State.grants at hGrants
  cases hReq : notPrimaryResponse req with
  | panic =>
      rw [hReq] at hGrants
      cases hGrants
  | other =>
      rw [hReq] at hGrants
      cases hGrants
  | sign refusal height =>
      simp only [hReq] at hGrants
      refine ⟨height, ?_⟩
      rcases s.arbiter.acquire_cases id height now with
        hAcquire | hAcquire
      · simp [machine, recordingHandler, hReq,
          primaryArbiter, hAcquire, State.grants]
      · rw [hAcquire] at hGrants
        cases hGrants

/- A request that is not granted records nothing. -/
theorem step_not_granted
    (hGrants : s.grants id req now = false)
    (hStep :
      (machine next chainID).step s (.request id req now) =
        some t) :
    t.metrics = s.metrics ∧ t.granted = s.granted := by
  simp only [machine, hGrants, recordingHandler] at hStep
  simp only [State.grants] at hGrants
  cases hReq : notPrimaryResponse req with
  | panic => simp [hReq] at hStep
  | other =>
      simp only [hReq] at hStep
      cases hStep
      exact ⟨rfl, rfl⟩
  | sign refusal height =>
      simp only [hReq] at hGrants hStep
      rcases s.arbiter.acquire_cases id height now with
        hAcquire | hAcquire
      · rw [hAcquire] at hGrants
        cases hGrants
      · simp only [primaryArbiter, hAcquire] at hStep
        cases hStep
        exact ⟨rfl, rfl⟩

/- The series are those of the hosts granted so far. -/
structure State.Recorded
    (s : State) : Prop where
  accounted : s.metrics.Accounted
  seen :
    ∀ l, l ∈ s.metrics.seen ↔
      ∃ id ∈ s.granted, hostOf id = l

theorem State.Recorded.initial
    (a : PrimaryArbiter) :
    (State.initial a).Recorded := by
  constructor
  · exact ActiveNode.initial_accounted
  · intro l
    simp [State.initial, ActiveNode.initial]

theorem State.Recorded.record
    (hRecorded : s.Recorded)
    (hAgree : HostsAgree id)
    (a : PrimaryArbiter) :
    State.Recorded
      ⟨a, s.metrics.recordSign id, id :: s.granted⟩ := by
  have hHost : hostOnly id ≠ [] := by
    rw [hAgree.1]
    exact hAgree.2
  constructor
  · exact hRecorded.accounted.recordSign id
  · intro l
    rw [ActiveNode.recordSign_seen hHost, hAgree.1,
      hRecorded.seen]
    simp [eq_comm]

theorem State.Recorded.step
    {e : Event}
    (hAgree : HostsAgree e.id)
    (hRecorded : s.Recorded)
    (hStep : (machine next chainID).step s e = some t) :
    t.Recorded := by
  cases e with
  | release id =>
      cases hStep
      exact ⟨hRecorded.accounted, hRecorded.seen⟩
  | request id req now =>
      cases hGrants : s.grants id req now with
      | true =>
          rcases step_granted next chainID hGrants with
            ⟨height, hEq⟩
          rw [hEq] at hStep
          cases hStep
          exact hRecorded.record hAgree _
      | false =>
          rcases step_not_granted hGrants hStep with
            ⟨hMetrics, hGranted⟩
          constructor
          · rw [hMetrics]
            exact hRecorded.accounted
          · rw [hMetrics, hGranted]
            exact hRecorded.seen

/- The primary after a grant is the one that is recorded. -/
theorem State.Recorded.names_primary
    (hAgree : HostsAgree id)
    (hRecorded : s.Recorded)
    (hGrants : s.grants id req now = true)
    (hStep :
      (machine next chainID).step s (.request id req now) =
        some t) :
    t.NamesPrimary := by
  rcases step_granted next chainID hGrants with
    ⟨height, hEq⟩
  rw [hEq] at hStep
  cases hStep
  have hAfter :=
    hRecorded.record hAgree (s.arbiter.elect id height now)
  have hPrimary :
      (s.arbiter.elect id height now).primaryHost =
        hostOnly id := by
    rw [PrimaryArbiter.primaryHost, hAgree.1,
      PrimaryArbiter.elect, PrimaryArbiter.grant_eq]
  constructor
  · rw [hPrimary]
    apply hRecorded.accounted.shows
    rw [hAgree.1]
    exact hAgree.2
  · intro l
    rw [hAfter.accounted l, hAfter.seen l]

theorem State.Recorded.run
    {a : PrimaryArbiter}
    {es : List Event}
    (hAgree : ∀ e ∈ es, HostsAgree e.id)
    (hRun :
      (machine next chainID).run (.initial a) es = some s) :
    s.Recorded := by
  apply Machine.run_invariant_within _ hRun
    (Machine.within_of_forall hAgree _)
    (State.Recorded.initial a)
  intro s e t hStep hEvent hRecorded
  exact hRecorded.step hEvent hStep

/- A vote, for the height the arbiter is asked about. -/
def firstVote : Message :=
  .signVoteRequest (some { Vote.zero with height := 1 }) []

/- The clock at the first request. -/
def firstInstant : Instant where
  ns := 0
  bound := Nat.pow_pos Nat.two_pos

/- The first target that asks an idle arbiter is granted. -/
theorem grants_first
    (id : Bytes) :
    (State.initial
      (newPreferringPrimaryArbiter 1 [])).grants id
        firstVote firstInstant = true :=
  (PrimaryArbiter.acquire_granted_iff _ id 1 _).mpr
    (Or.inl rfl)

/- A first grant is named only where the hosts agree. -/
theorem hosts_agree_of_first
    {height : Int}
    (hNames :
      State.NamesPrimary
        ⟨(newPreferringPrimaryArbiter 1 []).elect id height
            firstInstant,
          ActiveNode.initial.recordSign id, [id]⟩) :
    HostsAgree id := by
  have hActive := (hNames.shows.active (hostOf id)).mpr
  rw [PrimaryArbiter.primaryHost, PrimaryArbiter.elect,
    PrimaryArbiter.grant_eq] at hActive
  have hGauge :
      (ActiveNode.initial.recordSign id).gauge (hostOf id) =
        some 1 :=
    hActive rfl
  by_cases hHost : hostOnly id = []
  · rw [ActiveNode.recordSign_of_empty hHost] at hGauge
    cases hGauge
  · rw [ActiveNode.recordSign_gauge hHost] at hGauge
    split at hGauge
    · rename_i hMem
      rcases hMem with hEq | hSeen
      · rw [HostsAgree, hEq]
        exact ⟨rfl, hHost⟩
      · cases hSeen
    · cases hGauge

/-
  The metric names the primary after every granted request,
  in every run, exactly if every target has a host and no
  scheme, or a scheme that is the host.
-/
theorem names_primary_iff
    (next : Message → Bytes → Plan)
    (chainID : Bytes)
    (targets : List Bytes) :
    (∀ a es s t id req now,
        (∀ e ∈ es, e.id ∈ targets) → id ∈ targets →
        (machine next chainID).run (.initial a) es =
          some s →
        s.grants id req now = true →
        (machine next chainID).step s
            (.request id req now) =
          some t →
        t.NamesPrimary) ↔
      ∀ id ∈ targets, PlainTarget id ∨ EchoTarget id := by
  simp only [← hostsAgree_iff]
  constructor
  · intro hNames id hId
    rcases step_granted next chainID (grants_first id) with
      ⟨height, hStep⟩
    have hFirst :=
      hNames (newPreferringPrimaryArbiter 1 []) [] _ _ id
        firstVote firstInstant (by simp) hId rfl
        (grants_first id) hStep
    exact hosts_agree_of_first hFirst
  · intro hAgree a es s t id req now hEvents hId hRun
      hGrants hStep
    have hRecorded : s.Recorded :=
      State.Recorded.run
        (fun e he => hAgree e.id (hEvents e he)) hRun
    exact hRecorded.names_primary (hAgree id hId) hGrants
      hStep

/- A target as the configuration's default has them. -/
def schemeTarget : Bytes :=
  ascii "tcp://1.2.3.4:26659"

/- Its first vote. -/
def schemeRun : Option State :=
  (machine (fun _ _ => .answer (.empty, none)) []).run
    (.initial (newPreferringPrimaryArbiter 1 []))
    [.request schemeTarget firstVote firstInstant]

/- The primary's host has no series, its target has one. -/
theorem scheme_has_own_series :
    schemeRun.map
        (fun s => (s.granted, s.arbiter.primaryHost)) =
      some ([schemeTarget], ascii "1.2.3.4") ∧
    schemeRun.map
        (fun s =>
          (s.metrics.gauge s.arbiter.primaryHost,
            s.metrics.gauge schemeTarget)) =
      some (none, some 1) := by
  decide +kernel

end Metrics

end BridgeSigner
