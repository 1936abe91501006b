import BridgeSigner.Server.CheckpointRepeat
import BridgeSigner.Server.GuardDraw

/-
  Runs of the server with the names that `CreateTemp` draws
  (server/server.go, server/replay_guard.go).

  The requests, the crashes and the restarts are those of
  `CheckpointRun`; every persist draws the name of its
  temporary file. Where no name that may be drawn is that of
  the state file, the draws make no difference. Where one is,
  the guard may take its own file away, and a timestamp is
  signed again after the next start.

  Key definitions include:
    * `DrawRun.Event`
    * `DrawRun.machine`

  Main results:
    * `DrawRun.run_projects`
    * `DrawRun.repeat_answered_of_apart`
    * `DrawRun.answers_agree_of_apart`
-/

------------------------------------------------------------
-- The Machine
------------------------------------------------------------

namespace BridgeSigner

namespace Server

namespace DrawRun

open CheckpointRun (State Process Flight)

/- What happens, and what is drawn if it is a persist. -/
structure Event where
  happens : CheckpointRun.Event
  draw : Draw

variable {ν : Type} [DecidableEq ν]
variable (place : Place ν)
variable (env : CheckpointEnv)

/- One event; `none` when it is not enabled. -/
def step
    (s : State)
    (e : Event) : Option State :=
  match e.happens with
  | .advance req c fault =>
      match s.take (.checked req c) with
      | none => none
      | some (g, fs) =>
          some (s.afterAdvance req c fs
            (g.checkAndAdvanceAt place
              req.validatorTimestamp s.disk e.draw fault))
  | .record req c sig fault =>
      match s.take (.signed req c sig) with
      | none => none
      | some (g, fs) =>
          some (s.afterRecord req c sig fs
            (g.recordSignatureAt place
              req.validatorTimestamp c sig s.disk e.draw
              fault))
  | .crashAdvance req c op =>
      match s.take (.checked req c) with
      | none => none
      | some (g, _) =>
          if g.highWater < req.validatorTimestamp then
            some (s.die
              (crashBytesAtomicAt place g.statePath
                (g.advanceTo req.validatorTimestamp).blob
                s.disk e.draw op))
          else
            none
  | .crashRecord req c sig op =>
      match s.take (.signed req c sig) with
      | none => none
      | some (g, _) =>
          if g.highWater = req.validatorTimestamp then
            some (s.die
              (crashBytesAtomicAt place g.statePath
                (g.withMemo c sig).blob s.disk e.draw op))
          else
            none
  | other => CheckpointRun.step env s other

def machine : Machine State Event where
  step := step place env

end DrawRun

end Server

end BridgeSigner

------------------------------------------------------------
-- Where The Draws Make No Difference
------------------------------------------------------------

namespace BridgeSigner

namespace Server

namespace DrawRun

open CheckpointRun (State Process Flight)

variable {ν : Type}
variable {place : Place ν}
variable {env : CheckpointEnv}
variable {s t : State}

/- The guard of the process is on the server's path. -/
def OnPath
    (env : CheckpointEnv)
    (s : State) : Prop :=
  ∀ p, s.process = some p →
    p.guard.statePath = env.statePath

/- No name that its persists may draw is that of its file. -/
theorem OnPath.take_apart
    (h : OnPath env s)
    (hApart : place.Apart env.statePath)
    {f : Flight}
    {x : CheckpointReplayGuard × List Flight}
    (hTake : s.take f = some x) :
    place.Apart x.1.statePath := by
  rcases State.take_eq_some hTake with ⟨all, hProcess, -, -⟩
  have hPath : x.1.statePath = env.statePath :=
    h _ hProcess
  rw [hPath]
  exact hApart

/- Every run of the server is on its path. -/
theorem run_onPath
    (hPath : env.statePath ≠ [])
    {es : List CheckpointRun.Event}
    (hRun :
      (CheckpointRun.machine env).run State.initial es =
        some s) :
    OnPath env s := by
  intro p hProcess
  rcases CheckpointRun.run_consistent hPath hRun with
    ⟨-, r, -, hAbs⟩
  have hMemory := hAbs.memory
  rw [hProcess] at hMemory
  exact hMemory.1.path

variable [DecidableEq ν]

/- A step that draws another name is one on two cells. -/
theorem step_of_apart
    (hApart : place.Apart env.statePath)
    (hOn : OnPath env s)
    (e : Event) :
    step place env s e =
      CheckpointRun.step env s e.happens := by
  rcases e with ⟨happens, draw⟩
  cases happens with
  | advance req c fault =>
      simp only [step, CheckpointRun.step]
      cases hTake : s.take (.checked req c) with
      | none => rfl
      | some x =>
          simp only [
            CheckpointReplayGuard.checkAndAdvanceAt_of_apart
              (hOn.take_apart hApart hTake)]
  | record req c sig fault =>
      simp only [step, CheckpointRun.step]
      cases hTake : s.take (.signed req c sig) with
      | none => rfl
      | some x =>
          simp only [
            CheckpointReplayGuard.recordSignatureAt_of_apart
              (hOn.take_apart hApart hTake)]
  | crashAdvance req c op =>
      simp only [step, CheckpointRun.step]
      cases hTake : s.take (.checked req c) with
      | none => rfl
      | some x =>
          simp only [crashBytesAtomicAt_of_apart
            (hOn.take_apart hApart hTake)]
  | crashRecord req c sig op =>
      simp only [step, CheckpointRun.step]
      cases hTake : s.take (.signed req c sig) with
      | none => rfl
      | some x =>
          simp only [crashBytesAtomicAt_of_apart
            (hOn.take_apart hApart hTake)]
  | _ => rfl

/- What happens in a run is a run on two cells. -/
theorem run_projects
    (hPath : env.statePath ≠ [])
    (hApart : place.Apart env.statePath)
    {es : List Event}
    (hRun :
      (machine place env).run State.initial es = some t) :
    (CheckpointRun.machine env).run State.initial
        (es.map Event.happens) =
      some t := by
  induction es using List.reverseRecOn generalizing t with
  | nil => exact hRun
  | append_singleton es e ih =>
      rcases ((machine place env).run_append_iff _ _ _
          _).mp hRun with
        ⟨s, hFirst, hLast⟩
      rw [Machine.run_singleton] at hLast
      have hStep :=
        step_of_apart hApart (run_onPath hPath (ih hFirst)) e
      rw [List.map_append, Machine.run_append_iff]
      refine ⟨s, ih hFirst, ?_⟩
      rw [List.map_singleton, Machine.run_singleton]
      exact hStep.symm.trans hLast

end DrawRun

end Server

end BridgeSigner

------------------------------------------------------------
-- Answers And Repeats
------------------------------------------------------------

namespace BridgeSigner

namespace Server

namespace DrawRun

open CheckpointRun

variable {ν : Type} [DecidableEq ν]

/- The golden server's state file cannot be drawn. -/
theorem goldenEnv_apart :
    (Place.resolving []).Apart goldenEnv.statePath := by
  rw [Place.resolving_apart_iff]
  intro n _
  exact ne_guardTempName (by decide +kernel) n

/- All persists draw the number 7. -/
def drawingSeven
    (es : List CheckpointRun.Event) : List Event :=
  es.map fun e => ⟨e, ⟨7, 0, true⟩⟩

/-
  Once a request has advanced the mark, and until the mark is
  overtaken, its repeats never reach the backend: they are
  refused, and answered with the recorded signature exactly
  when the history holds one that is still live.
-/
theorem repeat_answered_of_apart
    (place : Place ν)
    (env : CheckpointEnv)
    (hPath : env.statePath ≠ [])
    (hApart : place.Apart env.statePath)
    (es es' : List Event)
    (s s' t : State)
    (p q : Process)
    (req : SignBridgeCheckpointRequest)
    (c : Bytes)
    (draw : Draw)
    (hRun :
      (machine place env).run State.initial es = some s)
    (hProcess : s.process = some p)
    (hMark : p.guard.highWater < req.validatorTimestamp)
    (hStep :
      step place env s ⟨.advance req c none, draw⟩ =
        some s')
    (hAfter : (machine place env).run s' es' = some t)
    (hBelow :
      ∀ e ∈ es',
        ¬Overtakes req.validatorTimestamp e.happens)
    (hUp : t.process = some q) :
    (∀ draw',
      step place env t ⟨.arrive req, draw'⟩ =
        some (t.resume t.disk q.guard
          (.checked req c :: q.inflight))) ∧
      (.checked req c ∈ q.inflight →
        ∀ fault draw',
          step place env t ⟨.advance req c fault, draw'⟩ =
            some (t.resume t.disk q.guard
              (.refused req c
                  (.rejected req.validatorTimestamp
                    req.validatorTimestamp) ::
                q.inflight.erase (.checked req c)))) ∧
      (∀ e draw', .refused req c e ∈ q.inflight →
        step place env t ⟨.lookup req c e, draw'⟩ =
          some ((t.resume t.disk q.guard
              (q.inflight.erase (.refused req c e))).reply
            req
            (repeatReply req.validatorTimestamp c
              (es'.map Event.happens) e))) ∧
      ∀ x,
        memoAfter req.validatorTimestamp
            (es'.map Event.happens) =
          some x →
        x.1 = c ∧
          ∃ call ∈ t.calls,
            call.timestamp = req.validatorTimestamp ∧
              call.digest = env.sha256 c ∧
                call.result = .ok x.2 := by
  have hWhole :
      (machine place env).run State.initial
          (es ++ ⟨.advance req c none, draw⟩ :: es') =
        some t := by
    rw [Machine.run_append_iff]
    exact ⟨s, hRun, (Machine.run_cons_iff _ _ _ _ _).mpr
      ⟨s', hStep, hAfter⟩⟩
  have hBefore := run_projects hPath hApart hRun
  have hAll := run_projects hPath hApart hWhole
  rw [List.map_append, List.map_cons] at hAll
  -- the state between the two halves is the same one
  rcases (Machine.run_append_iff _ _ _ _ _).mp hAll with
    ⟨s₁, hFirst, hRest⟩
  rw [hBefore] at hFirst
  cases hFirst
  rcases (Machine.run_cons_iff _ _ _ _ _).mp hRest with
    ⟨s₂, hAdvance, hThen⟩
  have hRepeat :=
    repeat_answered_from_record env hPath _ _ s s₂ t p q req
      c hBefore hProcess hMark hAdvance hThen
      (by
        intro e he
        rcases List.mem_map.mp he with ⟨e', he', rfl⟩
        exact hBelow e' he')
      hUp
  have hSame := fun e =>
    step_of_apart hApart (run_onPath hPath hAll) e
  rcases hRepeat with ⟨hArrive, hRefused, hLookup, hMemo⟩
  refine ⟨?_, ?_, ?_, hMemo⟩
  · intro draw'
    rw [hSame]
    exact hArrive
  · intro hOpen fault draw'
    rw [hSame]
    exact hRefused hOpen fault
  · intro e draw' hOpen
    rw [hSame]
    exact hLookup e hOpen

/- A repeat is refused and the record is still live. -/
theorem golden_repeat_refused :
    ∃ t q,
      (machine (Place.resolving []) goldenEnv).run
          State.initial
          (drawingSeven
            (goldenOpening ++
              .advance goldenMainnetRequest
                  goldenMainnetRequest.expectedCheckpoint
                  none ::
                goldenUnsaved)) =
          some t ∧
        memoAfter 1700000000000 goldenUnsaved ≠ none ∧
          step (Place.resolving []) goldenEnv t
              ⟨.advance goldenMainnetRequest
                goldenMainnetRequest.expectedCheckpoint
                none, ⟨7, 0, true⟩⟩ =
            some (t.resume t.disk q
              [.refused goldenMainnetRequest
                goldenMainnetRequest.expectedCheckpoint
                (.rejected 1700000000000
                  1700000000000)]) := by
  have hBefore :
      ((machine (Place.resolving []) goldenEnv).run
          State.initial
          (drawingSeven goldenOpening)).bind State.process =
        some ⟨bareGuard goldenEnv.statePath 0,
          [.checked goldenMainnetRequest
            goldenMainnetRequest.expectedCheckpoint]⟩ := by
    decide +kernel
  have hEnd :
      (((machine (Place.resolving []) goldenEnv).run
            State.initial
            (drawingSeven goldenOpening ++
              ⟨.advance goldenMainnetRequest
                  goldenMainnetRequest.expectedCheckpoint
                  none, ⟨7, 0, true⟩⟩ ::
                drawingSeven goldenUnsaved)).bind
          State.process).map Process.inflight =
        some [.checked goldenMainnetRequest
          goldenMainnetRequest.expectedCheckpoint] := by
    decide +kernel
  rcases Option.bind_eq_some_iff.mp hBefore with
    ⟨s, hRun, hProcess⟩
  rcases Option.map_eq_some_iff.mp hEnd with
    ⟨q, hLast, hOpen⟩
  rcases Option.bind_eq_some_iff.mp hLast with
    ⟨t, hWhole, hUp⟩
  rcases (Machine.run_append_iff _ _ _ _ _).mp hWhole with
    ⟨s', hRun', hRest⟩
  rw [hRun] at hRun'
  cases hRun'
  rcases (Machine.run_cons_iff _ _ _ _ _).mp hRest with
    ⟨u, hStep, hAfter⟩
  have hRepeat :=
    repeat_answered_of_apart (Place.resolving []) goldenEnv
      (by decide) goldenEnv_apart _ _ s u t _ q _ _ _ hRun
      hProcess (by decide) hStep hAfter (by decide) hUp
  refine ⟨t, q.guard, hWhole, by decide, ?_⟩
  have hRefused :=
    hRepeat.2.1 (by rw [hOpen]; simp) none ⟨7, 0, true⟩
  rw [hOpen, List.erase_cons_head] at hRefused
  exact hRefused

/-
  The backend fails once after the mark has moved: the repeat
  passes the gates, no fault occurs, no request has a larger
  timestamp, and still it is turned away.
-/
theorem repeat_after_backend_error_rejected :
    ∃ s t,
      (machine (Place.resolving []) goldenEnv).run
          State.initial
          (drawingSeven
            (goldenOpening ++
              [.advance goldenMainnetRequest
                  goldenMainnetRequest.expectedCheckpoint
                  none,
                .signRaw goldenMainnetRequest
                  goldenMainnetRequest.expectedCheckpoint
                  (.error (ascii "unavailable"))])) =
          some s ∧
        (s.process.map (fun p => p.guard.highWater)) =
            some goldenMainnetRequest.validatorTimestamp ∧
          (machine (Place.resolving []) goldenEnv).run s
              (drawingSeven
                (goldenArrival ++ [goldenLookup])) =
              some t ∧
            t.replies.head? =
              some (goldenMainnetRequest,
                .error (replayGuardStatus
                  (.rejected 1700000000000
                    1700000000000))) := by
  have hFirst :
      ((machine (Place.resolving []) goldenEnv).run
          State.initial
          (drawingSeven
            (goldenOpening ++
              [.advance goldenMainnetRequest
                  goldenMainnetRequest.expectedCheckpoint
                  none,
                .signRaw goldenMainnetRequest
                  goldenMainnetRequest.expectedCheckpoint
                  (.error (ascii "unavailable"))]))).bind
          (fun s =>
            ((machine (Place.resolving []) goldenEnv).run s
              (drawingSeven
                (goldenArrival ++ [goldenLookup]))).map
              (fun t =>
                (s.process.map
                    (fun p => p.guard.highWater),
                  t.replies.head?))) =
        some
          (some goldenMainnetRequest.validatorTimestamp,
            some (goldenMainnetRequest,
              .error (replayGuardStatus
                (.rejected 1700000000000
                  1700000000000)))) := by
    decide +kernel
  rcases Option.bind_eq_some_iff.mp hFirst with
    ⟨s, hRun, hSecond⟩
  rcases Option.map_eq_some_iff.mp hSecond with
    ⟨t, hRun', hPair⟩
  rcases Prod.mk.inj hPair with ⟨hMark, hReply⟩
  exact ⟨s, t, hRun, hMark, hRun', hReply⟩

/-
  Every successful reply carries the checkpoint of its own
  request and a signature the backend returned for it, and
  two successful replies for one timestamp are the same.
-/
theorem answers_agree_of_apart
    (place : Place ν)
    (env : CheckpointEnv)
    (hPath : env.statePath ≠ [])
    (hApart : place.Apart env.statePath)
    (es : List Event)
    (t : State)
    (hRun :
      (machine place env).run State.initial es = some t) :
    (∀ x ∈ t.replies, ∀ a, x.2 = .ok a →
      env.validate x.1 = .ok a.checkpoint ∧
        ∃ call ∈ t.calls,
          call.digest = env.sha256 a.checkpoint ∧
            call.result = .ok a.signature) ∧
      ∀ x ∈ t.replies, ∀ y ∈ t.replies, ∀ a b,
        x.2 = .ok a → y.2 = .ok b →
          x.1.validatorTimestamp = y.1.validatorTimestamp →
            a = b :=
  answers_agree_at_timestamp env hPath _ t
    (run_projects hPath hApart hRun)

theorem golden_answers_agree :
    ∃ t,
      (machine (Place.resolving []) goldenEnv).run
            State.initial (drawingSeven goldenRun) =
          some t ∧
        t.replies.length = 2 ∧
          ∀ x ∈ t.replies, ∀ y ∈ t.replies, ∀ a b,
            x.2 = .ok a → y.2 = .ok b →
              x.1.validatorTimestamp =
                  y.1.validatorTimestamp →
                a = b := by
  have hReplies :
      ((machine (Place.resolving []) goldenEnv).run
          State.initial (drawingSeven goldenRun)).map
          (fun t => t.replies.length) =
        some 2 := by
    decide +kernel
  rcases Option.map_eq_some_iff.mp hReplies with
    ⟨t, hRun, hLength⟩
  exact ⟨t, hRun, hLength,
    (answers_agree_of_apart (Place.resolving []) goldenEnv
      (by decide) goldenEnv_apart _ t hRun).2⟩

/- The golden server with a state file that can be drawn. -/
def drawnEnv : CheckpointEnv :=
  { goldenEnv with
    statePath := ascii "/state/.ckpt-hw-7.tmp" }

/- Another signature of the golden checkpoint and key. -/
def renewedSignature : Bytes :=
  beBytes 32
      0xd47644539acec3da5e3ecf5fe8863c628a9c97e8b71e9ea9167a6f4f83c03c32 ++
    beBytes 32
      0x0c2daab26f744bc23e8fe0c8f625691216eaae78fb53cfcd353eee76fe96a51e

/- A golden request, signed and recorded without a fault. -/
def goldenSigned
    (sig : Bytes) : List CheckpointRun.Event :=
  goldenArrival ++
    [.signRaw goldenMainnetRequest
        goldenMainnetRequest.expectedCheckpoint (.ok sig),
      .record goldenMainnetRequest
        goldenMainnetRequest.expectedCheckpoint sig none]

/-
  No call of the operating system fails, and every persist
  draws the state file itself, which is therefore never
  there: the process is killed, and after the next start the
  same request is signed again, and differently.
-/
theorem drawn_file_forgets_timestamp :
    ∃ t x y,
      (machine (Place.resolving []) drawnEnv).run
            State.initial
            (drawingSeven
              (.restart :: goldenSigned goldenSignature ++
                [.crash, .restart] ++
                goldenSigned renewedSignature)) =
          some t ∧
        t.disk.file = none ∧ t.replies = [x, y] ∧
        x.1 = y.1 ∧
        x.2 =
          .ok ⟨renewedSignature,
            goldenMainnetRequest.expectedCheckpoint⟩ ∧
        y.2 =
          .ok ⟨goldenSignature,
            goldenMainnetRequest.expectedCheckpoint⟩ ∧
        renewedSignature ≠ goldenSignature := by
  have hEnd :
      ((machine (Place.resolving []) drawnEnv).run
          State.initial
          (drawingSeven
            (.restart :: goldenSigned goldenSignature ++
              [.crash, .restart] ++
              goldenSigned renewedSignature))).map
          (fun t => (t.disk.file, t.replies)) =
        some
          (none,
            [(goldenMainnetRequest,
                .ok ⟨renewedSignature,
                  goldenMainnetRequest.expectedCheckpoint⟩),
              (goldenMainnetRequest,
                .ok ⟨goldenSignature,
                  goldenMainnetRequest.expectedCheckpoint⟩)])
        := by
    decide +kernel
  rcases Option.map_eq_some_iff.mp hEnd with ⟨t, hRun, hPair⟩
  rcases Prod.mk.inj hPair with ⟨hFile, hReplies⟩
  exact ⟨t, _, _, hRun, hFile, hReplies, rfl, rfl, rfl,
    by decide +kernel⟩

end DrawRun

end Server

end BridgeSigner
