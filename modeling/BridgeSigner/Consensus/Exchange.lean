import BridgeSigner.Consensus.Drain

/-
  Requests and responses on the connections
  (consensus/server.go).

  `serveConn` reads a request, waits for the handler and
  writes what the handler returned; then it reads the next
  one. The clients share one private validator, and their
  requests wait for its mutex side by side. The requests are
  numbered here as they are read, and every response that is
  written is kept with the request of its client.

  Key definitions include:
    * `Exchange.step`
    * `Exchange.Answers`, `Exchange.Asked`

  Main results:
    * `Exchange.Answers.asked`
    * `Exchange.transition_paired`
    * `Exchange.responses_answer_requests`
-/

------------------------------------------------------------
-- The Machine
------------------------------------------------------------

namespace BridgeSigner

namespace Consensus

namespace Exchange

/- A response that a client has written, with its request. -/
structure Delivery where
  client : Nat
  number : Nat
  request : Message
  response : Message
  deriving DecidableEq

/-
  The dial loops; the request that a client has read last,
  with its number; what its handler has returned; and the
  responses written, the newest first.
-/
structure State (σ : Type) where
  loop : DialLoop.State σ
  count : Nat
  read : Nat → Option (Nat × Message)
  ready : Nat → Option Message
  delivered : List Delivery

variable {σ : Type}

def State.initial
    (loop : DialLoop.State σ) : State σ where
  loop := loop
  count := 0
  read := fun _ => none
  ready := fun _ => none
  delivered := []

/- The handler of a client has returned, or not yet. -/
def returned
    (loop : DialLoop.State σ)
    (i : Nat)
    (ready : Nat → Option Message) : Nat → Option Message :=
  if (loop.clients[i]?).map (·.phase) = some .writing then
    Function.update ready i loop.core.responses.head?
  else
    ready

/- The response of a client and its request. -/
def State.delivery
    (s : State σ)
    (i : Nat) : Option Delivery :=
  match s.read i, s.ready i with
  | some (n, req), some res => some ⟨i, n, req, res⟩
  | _, _ => none

/- What is kept when the loops have taken a step. -/
def State.after
    (s : State σ)
    (loop : DialLoop.State σ) :
    DialLoop.Event → State σ
| .move i (.read req) =>
    { s with
      loop := loop
      count := s.count + 1
      read := Function.update s.read i (some (s.count, req)) }
| .move i .written =>
    { s with
      loop := loop
      delivered := (s.delivery i).toList ++ s.delivered }
| .gate i _ =>
    { s with loop := loop, ready := returned loop i s.ready }
| .enter i =>
    { s with loop := loop, ready := returned loop i s.ready }
| .save i =>
    { s with loop := loop, ready := returned loop i s.ready }
| _ => { s with loop := loop }

def step
    (sys : System σ)
    (s : State σ)
    (e : DialLoop.Event) : Option (State σ) :=
  (DialLoop.step sys s.loop e).map (fun loop => s.after loop e)

def machine
    (sys : System σ) :
    Machine (State σ) DialLoop.Event where
  step := step sys

end Exchange

end Consensus

end BridgeSigner

------------------------------------------------------------
-- Answers
------------------------------------------------------------

namespace BridgeSigner

namespace Consensus

namespace Exchange

variable {σ : Type}

/-
  The response is what the handler makes of the request, at
  the gate or in the private validator, in some state.
-/
inductive Answers
    (sys : System σ)
    (req : Message) :
    Message → Prop where
| gate
    {a : σ}
    {id : Bytes}
    {now : Instant}
    {reply : Reply}
    (hGate :
      (sys.handle a id now req).1 = some (.answer reply)) :
    Answers sys req reply.1
| done
    {st : LastSignState}
    {reply : Reply}
    (hEnter :
      (sys.handler req).enter sys.lib sys.chainID st =
        .done reply) :
    Answers sys req reply.1
| saving
    {st st' : LastSignState}
    {reply : Reply}
    (hEnter :
      (sys.handler req).enter sys.lib sys.chainID st =
        .saving st' reply) :
    Answers sys req reply.1

/-
  The request is a valid one for the configured chain, at the
  height, round and step of the signature.
-/
inductive Asked
    (sys : System σ)
    (x : Signed) :
    Message → Prop where
| vote
    {v : Vote}
    (hValid : ValidVote sys.lib sys.valAddr v)
    (hPlace : v.hrs sys.lib = some x.hrs) :
    Asked sys x (.signVoteRequest (some v) sys.chainID)
| proposal
    {p : Proposal}
    (hValid :
      validateSignProposalRequest sys.lib (some p) = .ok ())
    (hPlace : p.hrs sys.lib = some x.hrs) :
    Asked sys x (.signProposalRequest (some p) sys.chainID)

/- A request at a place, among those that are signed. -/
theorem Asked.of_served
    {sys : System σ}
    {req : Message}
    {plan : Plan}
    (hServed :
      Plan.Served sys.lib sys.valAddr sys.chainID req plan)
    {x : Signed}
    (hPlace : req.hrs sys.lib = some x.hrs)
    (hSigns : ∀ reply, plan ≠ .answer reply) :
    Asked sys x req := by
  cases hServed with
  | answer hUnsigned hKind => exact absurd rfl (hSigns _)
  | getPubKey hReq =>
      rw [hReq] at hPlace
      cases hPlace
  | vote hReq hChain hValid =>
      subst hReq
      exact .vote hValid hPlace
  | proposal hReq hChain hValid =>
      subst hReq
      exact .proposal hValid hPlace

/- A signature goes to a request that asked for it. -/
theorem Answers.asked
    {sys : System σ}
    (hDefault : sys.lib.DefaultPublished)
    (hOnce : sys.lib.SignsOnce)
    {req res : Message}
    (hAnswers : Answers sys req res)
    {x : Signed}
    (hSigned : sys.signed res = some x) :
    Asked sys x req := by
  have hServed := sys.handler_served hDefault req
  cases hAnswers with
  | @gate a id now reply hGate =>
      have hNone :=
        System.handle_answer_unsigned hDefault
          (Prod.ext hGate
            (rfl : _ = (sys.handle a id now req).2))
      rw [hNone] at hSigned
      cases hSigned
  | @done st reply hEnter =>
      rcases hServed.done hOnce hEnter with
        hNone | ⟨y, hy, -, hPlace⟩
      · rw [System.signed, hNone] at hSigned
        cases hSigned
      · cases hy.symm.trans hSigned
        refine Asked.of_served hServed hPlace ?_
        intro reply' hAnswer
        rw [hAnswer] at hServed hEnter
        cases hEnter
        rw [System.signed, hServed.answer_unsigned]
          at hSigned
        cases hSigned
  | saving hEnter =>
      rcases hServed.saving hOnce hEnter with
        ⟨y, hy, -, -, hPlace, -⟩
      cases hy.symm.trans hSigned
      refine Asked.of_served hServed hPlace ?_
      intro reply hAnswer
      rw [hAnswer] at hEnter
      cases hEnter

/- The refusal of the gate is of the request's kind. -/
theorem notPrimaryResponse_kind
    {req refusal : Message}
    {height : Int}
    (hSign : notPrimaryResponse req = .sign refusal height) :
    req.AnsweredBy refusal := by
  unfold notPrimaryResponse at hSign
  split at hSign
  · cases hSign
    trivial
  · cases hSign
  · cases hSign
    trivial
  · cases hSign
  · cases hSign

theorem handle_answer_kind
    {sys : System σ}
    (hDefault : sys.lib.DefaultPublished)
    {a : σ}
    {id : Bytes}
    {now : Instant}
    {req : Message}
    {reply : Reply}
    (hGate :
      (sys.handle a id now req).1 = some (.answer reply)) :
    req.AnsweredBy reply.1 := by
  have hServed := sys.handler_served hDefault req
  have hPassed :
      sys.handler req = .answer reply →
        req.AnsweredBy reply.1 := by
    intro hPlan
    rw [hPlan] at hServed
    exact hServed.answer_kind
  unfold System.handle at hGate
  split at hGate
  · exact hPassed (Option.some.inj hGate)
  · unfold gatedHandler at hGate
    split at hGate
    · cases hGate
    · exact hPassed (Option.some.inj hGate)
    · rename_i hSign
      split at hGate
      · cases hGate
        exact notPrimaryResponse_kind hSign
      · exact hPassed (Option.some.inj hGate)

/- An answer is of its request's kind. -/
theorem Answers.kind
    {sys : System σ}
    (hDefault : sys.lib.DefaultPublished)
    {req res : Message}
    (hAnswers : Answers sys req res) :
    req.AnsweredBy res := by
  have hServed := sys.handler_served hDefault req
  cases hAnswers with
  | gate hGate => exact handle_answer_kind hDefault hGate
  | done hEnter =>
      exact hServed.enter_kind (Or.inl hEnter)
  | saving hEnter =>
      exact hServed.enter_kind (Or.inr ⟨_, hEnter⟩)

end Exchange

end Consensus

end BridgeSigner

------------------------------------------------------------
-- Requests In Hand
------------------------------------------------------------

namespace BridgeSigner

namespace Consensus

/- A request has been read, and its response not written. -/
def Phase.busy : Phase → Bool
| .handling _ => true
| .waiting _ => true
| .saving => true
| .writing => true
| _ => false

namespace Exchange

variable {σ : Type}

/- What is known of the request that a client is on. -/
def OnRequest
    (sys : System σ)
    (read : Option (Nat × Message))
    (ready : Option Message)
    (critical : Option Reply) :
    Phase → Prop
| .handling req => ∃ n, read = some (n, req)
| .waiting req => ∃ n, read = some (n, req)
| .saving =>
    ∃ n req reply,
      read = some (n, req) ∧ critical = some reply ∧
        Answers sys req reply.1
| .writing =>
    ∃ n req res,
      read = some (n, req) ∧ ready = some res ∧
        Answers sys req res
| _ => True

/- The mutex matters only to the client that saves. -/
theorem OnRequest.free
    {sys : System σ}
    {read : Option (Nat × Message)}
    {ready : Option Message}
    {critical critical' : Option Reply}
    {phase : Phase}
    (h : OnRequest sys read ready critical phase)
    (hSaving : phase = .saving → critical' = critical) :
    OnRequest sys read ready critical' phase := by
  cases phase with
  | saving =>
      rw [hSaving rfl]
      exact h
  | _ => exact h

theorem onRequest_of_not_busy
    {sys : System σ}
    {read : Option (Nat × Message)}
    {ready : Option Message}
    {critical : Option Reply}
    {phase : Phase}
    (hIdle : phase.busy = false) :
    OnRequest sys read ready critical phase := by
  cases phase <;> trivial

/-
  Every client is on the request it has read last, and the
  responses written so far answer earlier requests.
-/
structure Paired
    (sys : System σ)
    (s : State σ) : Prop where
  request :
    ∀ p, s.loop.core.process = some p →
      ∀ i c, s.loop.clients[i]? = some c →
        OnRequest sys (s.read i) (s.ready i) p.critical
          c.phase
  number : ∀ i n req, s.read i = some (n, req) → n < s.count
  past : ∀ d ∈ s.delivered, d.number < s.count
  newer :
    ∀ i c, s.loop.clients[i]? = some c →
      c.phase.busy = true →
      ∀ n req, s.read i = some (n, req) →
        ∀ d ∈ s.delivered, d.client = i → d.number < n
  order :
    s.delivered.Pairwise
      (fun d d' => d.client = d'.client →
        d'.number < d.number)
  answers :
    ∀ d ∈ s.delivered, Answers sys d.request d.response

theorem paired_initial
    {sys : System σ}
    {loop : DialLoop.State σ}
    (hIdle : ∀ c ∈ loop.clients, c.phase = .idle) :
    Paired sys (State.initial loop) where
  request := by
    intro p _ i c hc
    rw [hIdle c (List.mem_of_getElem? hc)]
    trivial
  number := by
    intro i n req hRead
    cases hRead
  past := by
    intro d hd
    cases hd
  newer := by
    intro i c hc hBusy
    rw [hIdle c (List.mem_of_getElem? hc)] at hBusy
    cases hBusy
  order := List.Pairwise.nil
  answers := by
    intro d hd
    cases hd

/- Nobody saves while the mutex is free. -/
theorem nobody_saves
    {clients : List DialLoop.Client}
    {p : DialRun.Process σ}
    (h : DialLoop.Linked clients p)
    (hFree : p.critical = none)
    {i : Nat}
    {c : DialLoop.Client}
    (hi : clients[i]? = some c) :
    c.phase ≠ .saving := by
  intro hSaving
  have hMem :
      () ∈ (clients.filterMap DialLoop.Client.saves :
        Multiset Unit) := by
    rw [Multiset.mem_coe, List.mem_filterMap]
    refine ⟨c, List.mem_of_getElem? hi, ?_⟩
    simp [DialLoop.Client.saves, hSaving]
  rw [h.saving, hFree] at hMem
  simp at hMem

end Exchange

end Consensus

end BridgeSigner

------------------------------------------------------------
-- Every Step Keeps The Pairs
------------------------------------------------------------

namespace BridgeSigner

namespace Consensus

namespace Exchange

variable {σ : Type}
variable {sys : System σ}
variable {s t : State σ}

/- The client that moved, and the others. -/
theorem moved_cases
    {i j : Nat}
    {c d : DialLoop.Client}
    {phase : Phase}
    (hi : s.loop.clients[i]? = some c)
    (hClients :
      t.loop.clients = (s.loop.moved i c phase).clients)
    (hj : t.loop.clients[j]? = some d) :
    i = j ∧ d = ⟨c.target, phase⟩ ∨
      i ≠ j ∧ s.loop.clients[j]? = some d := by
  rw [hClients, DialLoop.moved_getElem? hi] at hj
  split at hj
  · cases hj
    exact Or.inl ⟨‹_›, rfl⟩
  · exact Or.inr ⟨‹_›, hj⟩

/-
  One client moves. The others are where they were, and none
  of them holds the mutex if it changes hands.
-/
theorem Paired.request_moved
    (h : Paired sys s)
    {i : Nat}
    {c : DialLoop.Client}
    {phase : Phase}
    {p : DialRun.Process σ}
    (hProcess : s.loop.core.process = some p)
    (hi : s.loop.clients[i]? = some c)
    (hClients :
      t.loop.clients = (s.loop.moved i c phase).clients)
    (hRead : ∀ j, i ≠ j → t.read j = s.read j)
    (hReady : ∀ j, i ≠ j → t.ready j = s.ready j)
    (hMutex :
      ∀ q, t.loop.core.process = some q →
        q.critical = p.critical ∨
          ∀ j d, i ≠ j → s.loop.clients[j]? = some d →
            d.phase ≠ .saving)
    (hOwn :
      ∀ q, t.loop.core.process = some q →
        OnRequest sys (t.read i) (t.ready i) q.critical
          phase) :
    ∀ q, t.loop.core.process = some q →
      ∀ j d, t.loop.clients[j]? = some d →
        OnRequest sys (t.read j) (t.ready j) q.critical
          d.phase := by
  intro q hq j d hj
  rcases moved_cases hi hClients hj with
    ⟨rfl, rfl⟩ | ⟨hOther, hBefore⟩
  · exact hOwn q hq
  · rw [hRead j hOther, hReady j hOther]
    apply (h.request p hProcess j d hBefore).free
    intro hSaving
    rcases hMutex q hq with hSame | hNone
    · exact hSame
    · exact absurd hSaving (hNone j d hOther hBefore)

/- A client goes on, and nothing is read or written. -/
theorem Paired.goes_on
    (h : Paired sys s)
    {i : Nat}
    {c : DialLoop.Client}
    {phase : Phase}
    (hi : s.loop.clients[i]? = some c)
    (hClients :
      t.loop.clients = (s.loop.moved i c phase).clients)
    (hCount : t.count = s.count)
    (hRead : t.read = s.read)
    (hDelivered : t.delivered = s.delivered)
    (hBusy : phase.busy = true → c.phase.busy = true)
    (hRequest :
      ∀ q, t.loop.core.process = some q →
        ∀ j d, t.loop.clients[j]? = some d →
          OnRequest sys (t.read j) (t.ready j) q.critical
            d.phase) :
    Paired sys t where
  request := hRequest
  number := by
    rw [hRead, hCount]
    exact h.number
  past := by
    rw [hDelivered, hCount]
    exact h.past
  newer := by
    intro j d hj hBusyNow
    rw [hRead, hDelivered]
    rcases moved_cases hi hClients hj with
      ⟨rfl, rfl⟩ | ⟨-, hBefore⟩
    · exact h.newer i c hi (hBusy hBusyNow)
    · exact h.newer j d hBefore hBusyNow
  order := by
    rw [hDelivered]
    exact h.order
  answers := by
    rw [hDelivered]
    exact h.answers

/- The phases that a move can lead to, but for a read. -/
theorem next_not_busy
    {cancelled : Bool}
    {phase phase' : Phase}
    {m : Move}
    (hNext : phase.next cancelled m = some phase')
    (hRead : ∀ req, m ≠ .read req) :
    phase'.busy = false := by
  cases phase <;> cases m <;>
    simp [Phase.next] at hNext hRead <;>
    first
    | (subst hNext; rfl)
    | (rcases hNext with ⟨-, rfl⟩; rfl)

/- A request is read, with a new number. -/
theorem read_paired
    (h : Paired sys s)
    {i : Nat}
    {p : DialRun.Process σ}
    {c : DialLoop.Client}
    {phase : Phase}
    {req : Message}
    (hAt : s.loop.atClient i = some (p, c))
    (hNext :
      c.phase.next s.loop.cancelled (.read req) =
        some phase) :
    Paired sys
      (s.after (s.loop.moved i c phase)
        (.move i (.read req))) := by
  rcases DialLoop.atClient_eq_some hAt with ⟨hProcess, hi⟩
  have hPhase : phase = .handling req := by
    rcases c with ⟨target, old⟩
    cases old <;> simp [Phase.next] at hNext
    exact hNext.symm
  subst hPhase
  have hNew :
      Function.update s.read i (some (s.count, req)) i =
        some (s.count, req) :=
    Function.update_self ..
  have hOld :
      ∀ j, i ≠ j →
        Function.update s.read i (some (s.count, req)) j =
          s.read j :=
    fun j hj => Function.update_of_ne hj.symm _ _
  refine
    { request := ?_
      number := ?_
      past := ?_
      newer := ?_
      order := h.order
      answers := h.answers }
  · refine h.request_moved hProcess hi rfl hOld
      (fun _ _ => rfl) ?_ ?_
    · intro q hq
      left
      cases hProcess.symm.trans hq
      rfl
    · intro q hq
      exact ⟨s.count, hNew⟩
  · intro j n req' hj
    by_cases hSame : i = j
    · subst hSame
      cases hNew.symm.trans hj
      exact Nat.lt_succ_self _
    · have hBefore := (hOld j hSame).symm.trans hj
      exact Nat.lt_succ_of_lt (h.number j n req' hBefore)
  · intro d hd
    exact Nat.lt_succ_of_lt (h.past d hd)
  · intro j d hj hBusy n req' hn e he hClient
    rcases moved_cases hi rfl hj with
      ⟨rfl, rfl⟩ | ⟨hOther, hBefore⟩
    · cases hNew.symm.trans hn
      exact h.past e he
    · exact h.newer j d hBefore hBusy n req'
        ((hOld j hOther).symm.trans hn) e he hClient

/- The response is written: it is that of the request. -/
theorem written_paired
    (h : Paired sys s)
    {i : Nat}
    {p : DialRun.Process σ}
    {c : DialLoop.Client}
    {phase : Phase}
    (hAt : s.loop.atClient i = some (p, c))
    (hNext :
      c.phase.next s.loop.cancelled .written = some phase) :
    Paired sys
      (s.after (s.loop.moved i c phase)
        (.move i .written)) := by
  rcases DialLoop.atClient_eq_some hAt with ⟨hProcess, hi⟩
  have hPhases : c.phase = .writing ∧ phase = .reading := by
    rcases c with ⟨target, old⟩
    cases old <;> simp [Phase.next] at hNext
    exact ⟨rfl, hNext.symm⟩
  rcases hPhases with ⟨hWriting, rfl⟩
  have hOn := h.request p hProcess i c hi
  rw [hWriting] at hOn
  rcases hOn with ⟨n, req, res, hRead, hReady, hAnswers⟩
  have hNewer := h.newer i c hi (by rw [hWriting]; rfl) n req
    hRead
  have hDelivery :
      (s.after (s.loop.moved i c .reading)
          (.move i .written)).delivered =
        ⟨i, n, req, res⟩ :: s.delivered := by
    simp [State.after, State.delivery, hRead, hReady]
  refine
    { request := ?_
      number := h.number
      past := ?_
      newer := ?_
      order := ?_
      answers := ?_ }
  · refine h.request_moved hProcess hi rfl (fun _ _ => rfl)
      (fun _ _ => rfl) ?_ ?_
    · intro q hq
      left
      cases hProcess.symm.trans hq
      rfl
    · intro q hq
      trivial
  · rw [hDelivery]
    intro d hd
    rcases List.mem_cons.mp hd with rfl | hd
    · exact h.number i n req hRead
    · exact h.past d hd
  · intro j d hj hBusy n' req' hn e he hClient
    rw [hDelivery] at he
    rcases moved_cases hi rfl hj with
      ⟨rfl, rfl⟩ | ⟨hOther, hBefore⟩
    · cases hBusy
    · rcases List.mem_cons.mp he with rfl | he
      · exact absurd hClient hOther
      · exact h.newer j d hBefore hBusy n' req' hn e he
          hClient
  · rw [hDelivery]
    refine List.Pairwise.cons ?_ h.order
    intro d hd hClient
    exact hNewer d hd hClient.symm
  · rw [hDelivery]
    intro d hd
    rcases List.mem_cons.mp hd with rfl | hd
    · exact hAnswers
    · exact h.answers d hd

end Exchange

end Consensus

end BridgeSigner

------------------------------------------------------------
-- The Handler Returns
------------------------------------------------------------

namespace BridgeSigner

namespace Consensus

namespace Exchange

variable {σ : Type}
variable {sys : System σ}
variable {s t : State σ}

theorem returned_of_ne
    {loop : DialLoop.State σ}
    {i j : Nat}
    (hOther : i ≠ j)
    (ready : Nat → Option Message) :
    returned loop i ready j = ready j := by
  unfold returned
  split
  · exact Function.update_of_ne hOther.symm _ _
  · rfl

theorem returned_writing
    {loop : DialLoop.State σ}
    {i : Nat}
    {c : DialLoop.Client}
    {res : Message}
    (hi : s.loop.clients[i]? = some c)
    (hClients :
      loop.clients = (s.loop.moved i c .writing).clients)
    (hNewest : loop.core.responses.head? = some res)
    (ready : Nat → Option Message) :
    returned loop i ready i = some res := by
  have hWriting :
      loop.clients[i]? = some ⟨c.target, .writing⟩ := by
    rw [hClients, DialLoop.moved_getElem? hi, if_pos rfl]
  rw [returned, hWriting, Option.map_some, if_pos rfl,
    hNewest]
  exact Function.update_self ..

/- A client has gone through the gate or a call. -/
theorem Paired.handled
    (h : Paired sys s)
    {i : Nat}
    {p : DialRun.Process σ}
    {c : DialLoop.Client}
    {phase : Phase}
    {loop : DialLoop.State σ}
    (hProcess : s.loop.core.process = some p)
    (hi : s.loop.clients[i]? = some c)
    (hBusy : c.phase.busy = true)
    (hClients :
      loop.clients = (s.loop.moved i c phase).clients)
    (hMutex :
      ∀ q, loop.core.process = some q →
        q.critical = p.critical ∨
          ∀ j d, i ≠ j → s.loop.clients[j]? = some d →
            d.phase ≠ .saving)
    (hOwn :
      ∀ q, loop.core.process = some q →
        OnRequest sys (s.read i)
          (returned loop i s.ready i) q.critical phase) :
    Paired sys
      { s with
        loop := loop
        ready := returned loop i s.ready } := by
  refine h.goes_on hi hClients rfl rfl rfl
    (fun _ => hBusy) ?_
  exact h.request_moved hProcess hi hClients
    (fun _ _ => rfl)
    (fun j hOther => returned_of_ne hOther s.ready) hMutex
    hOwn

theorem gate_paired
    (h : Paired sys s)
    {i : Nat}
    {p : DialRun.Process σ}
    {c : DialLoop.Client}
    {req : Message}
    {core : DialRun.State σ}
    {now : Instant}
    (hAt : s.loop.atClient i = some (p, c))
    (hPhase : c.phase = .handling req)
    (hCore :
      DialRun.step sys s.loop.core
          (.arrive c.target req now) =
        some core)
    (log : List DialLoop.Entry) :
    Paired sys
      (s.after
        (((s.loop.moved i c
            (.afterGate req
              (sys.handle p.arbiter c.target now
                req).1)).shared core).noted log)
        (.gate i now)) := by
  rcases DialLoop.atClient_eq_some hAt with ⟨hProcess, hi⟩
  have hOn := h.request p hProcess i c hi
  rw [hPhase] at hOn
  rcases hOn with ⟨n, hRead⟩
  simp only [DialRun.step, hProcess] at hCore
  cases hCore
  have hBusy : c.phase.busy = true := by
    rw [hPhase]
    rfl
  generalize hHandle :
    sys.handle p.arbiter c.target now req = handled
  rcases handled with ⟨plan, a⟩
  refine h.handled hProcess hi hBusy rfl ?_ ?_
  · intro q hq
    cases plan with
    | none => cases hq
    | some plan =>
        left
        cases plan <;> cases hq <;> rfl
  · intro q hq
    cases plan with
    | none => cases hq
    | some plan =>
        cases plan with
        | answer reply =>
            have hGate :
                (sys.handle p.arbiter c.target now req).1 =
                  some (.answer reply) := by
              rw [hHandle]
            refine ⟨n, req, reply.1, hRead, ?_, .gate hGate⟩
            apply returned_writing hi
            · rfl
            · rfl
        | _ => exact ⟨n, hRead⟩

theorem enter_paired
    (h : Paired sys s)
    (hLinked : DialLoop.LinkedState s.loop)
    {i : Nat}
    {p : DialRun.Process σ}
    {c : DialLoop.Client}
    {req : Message}
    {core : DialRun.State σ}
    (hAt : s.loop.atClient i = some (p, c))
    (hPhase : c.phase = .waiting req)
    (hCore :
      DialRun.step sys s.loop.core (.enter c.target req) =
        some core)
    (log : List DialLoop.Entry) :
    Paired sys
      (s.after
        (((s.loop.moved i c
            (.afterEnter ((sys.handler req).enter sys.lib
              sys.chainID p.memory))).shared core).noted
          log)
        (.enter i)) := by
  rcases DialLoop.atClient_eq_some hAt with ⟨hProcess, hi⟩
  have hOn := h.request p hProcess i c hi
  rw [hPhase] at hOn
  rcases hOn with ⟨n, hRead⟩
  simp only [DialRun.step, hProcess] at hCore
  split at hCore
  · rename_i hReady
    cases hCore
    have hFree : p.critical = none :=
      Option.isNone_iff_eq_none.mp hReady.2
    have hBusy : c.phase.busy = true := by
      rw [hPhase]
      rfl
    generalize hEnter :
      (sys.handler req).enter sys.lib sys.chainID p.memory =
        entered
    refine h.handled hProcess hi hBusy rfl ?_ ?_
    · intro q hq
      right
      intro j d _ hj
      exact nobody_saves (hLinked p hProcess) hFree hj
    · intro q hq
      cases entered with
      | panic => cases hq
      | done reply =>
          refine ⟨n, req, reply.1, hRead, ?_, .done hEnter⟩
          apply returned_writing hi
          · rfl
          · rfl
      | saving st reply =>
          cases hq
          exact ⟨n, req, reply, hRead, rfl, .saving hEnter⟩
  · cases hCore

theorem save_paired
    (h : Paired sys s)
    (hLinked : DialLoop.LinkedState s.loop)
    {i : Nat}
    {p : DialRun.Process σ}
    {c : DialLoop.Client}
    {core : DialRun.State σ}
    (hAt : s.loop.atClient i = some (p, c))
    (hPhase : c.phase = .saving)
    (hCore :
      DialRun.step sys s.loop.core .save = some core) :
    Paired sys
      (s.after ((s.loop.moved i c .writing).shared core)
        (.save i)) := by
  rcases DialLoop.atClient_eq_some hAt with ⟨hProcess, hi⟩
  have hOn := h.request p hProcess i c hi
  rw [hPhase] at hOn
  rcases hOn with ⟨n, req, reply, hRead, hCritical, hAnswers⟩
  simp only [DialRun.step, hProcess, hCritical] at hCore
  cases hCore
  have hBusy : c.phase.busy = true := by
    rw [hPhase]
    rfl
  -- The mutex had one holder, and it is free now.
  have hAfter :=
    DialLoop.save_linked (hLinked p hProcess) hi hPhase
      hCritical
  refine h.handled hProcess hi hBusy rfl ?_ ?_
  · intro q hq
    right
    intro j d hOther hj
    refine nobody_saves hAfter rfl (i := j) ?_
    rw [DialLoop.moved_getElem? hi, if_neg hOther]
    exact hj
  · intro q hq
    refine ⟨n, req, reply.1, hRead, ?_, hAnswers⟩
    apply returned_writing hi
    · rfl
    · rfl

end Exchange

end Consensus

end BridgeSigner

------------------------------------------------------------
-- Runs
------------------------------------------------------------

namespace BridgeSigner

namespace Consensus

namespace Exchange

variable {σ : Type}
variable {sys : System σ}
variable {s : State σ}

/- A client moves on to a phase without a request. -/
theorem idle_paired
    (h : Paired sys s)
    {i : Nat}
    {p : DialRun.Process σ}
    {c : DialLoop.Client}
    {phase : Phase}
    {loop : DialLoop.State σ}
    (hProcess : s.loop.core.process = some p)
    (hi : s.loop.clients[i]? = some c)
    (hClients :
      loop.clients = (s.loop.moved i c phase).clients)
    (hCritical :
      ∀ q, loop.core.process = some q →
        q.critical = p.critical)
    (hIdle : phase.busy = false) :
    Paired sys { s with loop := loop } := by
  refine h.goes_on hi hClients rfl rfl rfl ?_ ?_
  · intro hBusy
    rw [hIdle] at hBusy
    cases hBusy
  · exact h.request_moved hProcess hi hClients
      (fun _ _ => rfl) (fun _ _ => rfl)
      (fun q hq => Or.inl (hCritical q hq))
      (fun _ _ => onRequest_of_not_busy hIdle)

/- No process is left, or the clients start over. -/
theorem reset_paired
    (h : Paired sys s)
    {loop : DialLoop.State σ}
    (hReset :
      loop.core.process = none ∧
          loop.clients = s.loop.clients ∨
        ∀ c ∈ loop.clients, c.phase = .idle) :
    Paired sys { s with loop := loop } where
  request := by
    intro p hp i c hc
    rcases hReset with ⟨hNone, -⟩ | hIdle
    · rw [hNone] at hp
      cases hp
    · rw [hIdle c (List.mem_of_getElem? hc)]
      trivial
  number := h.number
  past := h.past
  newer := by
    intro i c hc hBusy
    rcases hReset with ⟨-, hSame⟩ | hIdle
    · exact h.newer i c (hSame ▸ hc) hBusy
    · rw [hIdle c (List.mem_of_getElem? hc)] at hBusy
      cases hBusy
  order := h.order
  answers := h.answers

theorem transition_paired
    (h : Paired sys s)
    (hLinked : DialLoop.LinkedState s.loop)
    {e : DialLoop.Event}
    {loop : DialLoop.State σ}
    (hTrans : DialLoop.Transition sys s.loop e loop) :
    Paired sys (s.after loop e) := by
  cases hTrans with
  | @move i m p c phase hAt hNext =>
      rcases DialLoop.atClient_eq_some hAt with
        ⟨hProcess, hi⟩
      have hSame :
          ∀ q, s.loop.core.process = some q →
            q.critical = p.critical := by
        intro q hq
        cases hProcess.symm.trans hq
        rfl
      cases m with
      | read req => exact read_paired h hAt hNext
      | written => exact written_paired h hAt hNext
      | _ =>
          exact idle_paired h hProcess hi rfl hSame
            (next_not_busy hNext (by intro req; nofun))
  | @disconnect i p c phase core hAt hPhase hCore =>
      rcases DialLoop.atClient_eq_some hAt with
        ⟨hProcess, hi⟩
      rcases DialLoop.released_process hProcess hCore with
        ⟨p', hp', -, hCritical⟩
      refine idle_paired h hProcess hi rfl ?_ ?_
      · intro q hq
        cases hp'.symm.trans hq
        exact hCritical
      · rcases c with ⟨target, old⟩
        cases old <;> simp [Phase.disconnected] at hPhase <;>
          subst hPhase <;> rfl
  | gate now hAt hPhase hCore =>
      exact gate_paired h hAt hPhase hCore _
  | enter hAt hPhase hCore =>
      exact enter_paired h hLinked hAt hPhase hCore _
  | save hAt hPhase hCore =>
      exact save_paired h hLinked hAt hPhase hCore
  | cancel =>
      exact
        { request := h.request
          number := h.number
          past := h.past
          newer := h.newer
          order := h.order
          answers := h.answers }
  | crash landed hCore =>
      refine reset_paired h (Or.inl ⟨?_, rfl⟩)
      simp only [DialRun.step] at hCore
      split at hCore
      · cases hCore
      · split at hCore <;> cases hCore <;> rfl
  | restart hCore =>
      refine reset_paired h (Or.inr ?_)
      intro c hc
      rcases List.mem_map.mp hc with ⟨d, -, rfl⟩
      rfl

theorem run_paired
    {loop : DialLoop.State σ}
    (hIdle : ∀ c ∈ loop.clients, c.phase = .idle)
    (hLinked : DialLoop.LinkedState loop)
    {es : List DialLoop.Event}
    {t : State σ}
    (hRun :
      (machine sys).run (State.initial loop) es = some t) :
    Paired sys t := by
  have hBoth :
      Paired sys t ∧ DialLoop.LinkedState t.loop := by
    refine Machine.run_invariant
      (P := fun s =>
        Paired sys s ∧ DialLoop.LinkedState s.loop)
      ?_ hRun ⟨paired_initial hIdle, hLinked⟩
    rintro s e t hStep ⟨h, hLinked⟩
    rcases Option.map_eq_some_iff.mp hStep with
      ⟨loop, hLoop, rfl⟩
    have hTrans := DialLoop.step_transition hLoop
    refine ⟨transition_paired h hLinked hTrans, ?_⟩
    have hAfter :
        (s.after loop e).loop = loop := by
      unfold State.after
      split <;> rfl
    rw [hAfter]
    exact DialLoop.transition_linked hTrans hLinked
  exact hBoth.1

/-
  Over any run of the dial clients, with crashes and
  restarts: every response that was written answers the
  request read last on that connection, and is of its kind;
  if it carries a signature, that request was a valid one for
  the chain and for the place of the signature; and the
  responses of a client are in the order of its requests, one
  for each at most.
-/
theorem responses_answer_requests
    (sys : System σ)
    (hDefault : sys.lib.DefaultPublished)
    (hOnce : sys.lib.SignsOnce)
    (file : PathEntry)
    (targets : List Bytes)
    (es : List DialLoop.Event)
    (t : State σ)
    (hRun :
      (machine sys).run
          (State.initial
            (DialLoop.State.initial file targets)) es =
        some t) :
    (∀ d ∈ t.delivered,
        Answers sys d.request d.response ∧
          d.request.AnsweredBy d.response ∧
          ∀ x, sys.signed d.response = some x →
            Asked sys x d.request) ∧
      t.delivered.Pairwise
        (fun d d' => d.client = d'.client →
          d'.number < d.number) := by
  have hIdle :
      ∀ c ∈ (DialLoop.State.initial (σ := σ) file
        targets).clients, c.phase = .idle := by
    intro c hc
    rcases List.mem_map.mp hc with ⟨target, -, rfl⟩
    rfl
  have h := run_paired hIdle
    (DialLoop.linkedState_of_none rfl) hRun
  refine ⟨?_, h.order⟩
  intro d hd
  have hAnswers := h.answers d hd
  exact ⟨hAnswers, hAnswers.kind hDefault,
    fun x hx => hAnswers.asked hDefault hOnce hx⟩

/-
  Both nodes ask for the same vote. The second is refused
  before the first, which is the primary, has its signature.
-/
def sampleRun : List DialLoop.Event :=
  [.restart, .move 0 .dial, .move 0 .dialed, .move 1 .dial,
    .move 1 .dialed, .move 0 (.read DialRun.sampleRequest),
    .move 1 (.read DialRun.sampleRequest),
    .gate 0 (DialRun.sampleTime 1),
    .gate 1 (DialRun.sampleTime 2), .move 1 .written,
    .enter 0, .save 0, .move 0 .written]

theorem sample_responses_answer :
    ∃ t,
      (machine DialRun.sampleSystem).run
          (State.initial
            (DialLoop.State.initial (.file freshStateJSON)
              DialLoop.sampleTargets))
          sampleRun =
        some t ∧
      t.delivered =
        [⟨0, 0, DialRun.sampleRequest,
            DialRun.sampleResponse⟩,
          ⟨1, 1, DialRun.sampleRequest,
            .signedVoteResponse .zero
              (remoteErr ⟨"not the primary signer", []⟩)⟩] ∧
      ∀ d ∈ t.delivered,
        d.request.AnsweredBy d.response := by
  have hDelivered :
      ((machine DialRun.sampleSystem).run
          (State.initial
            (DialLoop.State.initial (.file freshStateJSON)
              DialLoop.sampleTargets))
          sampleRun).map State.delivered =
        some
          [⟨0, 0, DialRun.sampleRequest,
              DialRun.sampleResponse⟩,
            ⟨1, 1, DialRun.sampleRequest,
              .signedVoteResponse .zero
                (remoteErr
                  ⟨"not the primary signer", []⟩)⟩] := by
    decide +kernel
  rcases Option.map_eq_some_iff.mp hDelivered with
    ⟨t, hRun, hEq⟩
  have hAll :=
    (responses_answer_requests DialRun.sampleSystem
      DialRun.sampleComet_default
      DialRun.sampleComet_signsOnce (.file freshStateJSON)
      DialLoop.sampleTargets sampleRun t hRun).1
  exact ⟨t, hRun, hEq, fun d hd => (hAll d hd).2.1⟩

end Exchange

end Consensus

end BridgeSigner
