import Storefront.Proofs.Termination

/-!
# Runs, step by step

`Timeline.Unfolds` says which steps a run consists of and when each can be taken: at what
moment, for which of the calls, after which answer. `run_unfolds` finds the steps of every
run. What is kept by the steps holds of runs, and leaving out the conditions of the steps
makes a run one of the orders of `Timeline.Interleaves`.
-/

namespace Storefront

variable {World Show Signal : Type}

theorem Attempt.expire_finished (settings : Settings) (attempt : Attempt) (awaited : Awaited) :
    ∃ ending, (attempt.expire settings awaited).rest = .finished ending :=
  ⟨_, rfl⟩

theorem Attempt.cancel_finished (attempt : Attempt) :
    attempt.cancel.rest = .finished .cancelled := rfl

/-- A session looked for its answer last of all, and there was none. -/
def Service.Unheard (backend : Backend World Show Signal) (scene : Scene) (stage : Stage)
    (since : Nat) (service : Service World Show) : Prop :=
  ∃ before : Service World Show, (before.poll backend scene stage since).1 = none ∧
    service = (before.poll backend scene stage since).2

/-- If a call waits, its session was looked after: it had no answer yet, and its stage had
time left. -/
def Call.Settled (backend : Backend World Show Signal) (settings : Settings) (now index : Nat)
    (call : Call) (service : Service World Show) : Prop :=
  ∀ attempt awaited session since began,
    call.status = .waiting attempt awaited session since began →
      isLate since now settings.stageTimeout = false ∧
        service.Unheard backend ⟨now, index, session⟩ awaited.stage since

namespace Call

variable {backend : Backend World Show Signal} {settings : Settings} {now index : Nat}
  {call : Call} {service : Service World Show}

theorem Settled.of_not_waiting
    (idle : ∀ attempt awaited session since began,
      call.status ≠ .waiting attempt awaited session since began) :
    call.Settled backend settings now index service :=
  fun _ _ _ _ _ waits => absurd waits (idle _ _ _ _ _)

theorem take_finished {scene : Scene} {began : Nat} {turn : Turn} {ending : Ending}
    (ends : turn.rest = .finished ending) :
    (call.take backend scene began turn service).1.status = .finished ending scene.now := by
  rw [take_eq, ends]
  rfl

@[simp] theorem take_delay (scene : Scene) (began : Nat) (turn : Turn) (call : Call)
    (service : Service World Show) :
    (call.take backend scene began turn service).1.delay = call.delay := by
  rw [take_eq]

theorem settle_delay (fuel : Nat) (call : Call) (service : Service World Show) :
    (call.settle backend settings now index fuel service).1.delay = call.delay := by
  induction fuel generalizing call service with
  | zero => rfl
  | succ fuel inductionHypothesis =>
      cases status : call.status with
      | waiting attempt awaited session since began =>
          cases answer : (service.poll backend ⟨now, index, session⟩ awaited.stage since).1 with
          | some response =>
              rw [settle_answered status fuel answer]
              exact (inductionHypothesis _ _).trans (take_delay ..)
          | none =>
              cases late : isLate since now settings.stageTimeout with
              | true => rw [settle_late status fuel answer late, take_delay]
              | false => rw [settle_in_time status fuel answer late]
      | notStarted => rw [settle_not_waiting _ (by simp [status])]
      | finished ending moment => rw [settle_not_waiting _ (by simp [status])]

/-- Advancing a call does not put it off. -/
theorem advance_delay (call : Call) (start : Option Nat) (service : Service World Show) :
    (call.advance backend settings now index start service).1.delay = call.delay := by
  have begins : (call.begin backend now index start service).1.delay = call.delay := by
    unfold begin
    split
    · split <;> simp
    · rfl
  have givesUp : ∀ (call : Call) (service : Service World Show),
      (call.giveUp backend now index service).1.delay = call.delay := by
    intro call service
    unfold giveUp
    split
    · split <;> simp
    · rfl
  exact (givesUp _ _).trans ((settle_delay 3 _ _).trans begins)

/-- Three turns are enough to go as far as answers and deadlines let a call. -/
theorem settle_settled (fuel : Nat) (call : Call) (service : Service World Show)
    (enough : ∀ attempt awaited session since began,
      call.status = .waiting attempt awaited session since began → awaited.stagesLeft ≤ fuel) :
    (call.settle backend settings now index fuel service).1.Settled backend settings now index
      (call.settle backend settings now index fuel service).2 := by
  induction fuel generalizing call service with
  | zero =>
      apply Settled.of_not_waiting
      intro attempt awaited session since began waits
      have some := enough attempt awaited session since began waits
      have positive := awaited.stagesLeft_pos
      omega
  | succ fuel inductionHypothesis =>
      cases status : call.status with
      | waiting attempt awaited session since began =>
          cases answer : (service.poll backend ⟨now, index, session⟩ awaited.stage since).1 with
          | some response =>
              rw [settle_answered status fuel answer]
              apply inductionHypothesis _ _
              intro later ahead present moment started waits
              have answers : attempt.Reacts settings awaited
                  (attempt.resume settings awaited response) := .answered response
              have less := answers.nextTurn.turnsLeft_lt ⟨now, index, session⟩ began
              have left := enough _ _ _ _ _ status
              have again : (attempt.resume settings awaited response).rest.status
                  ⟨now, index, session⟩ began = .waiting later ahead present moment started := by
                simpa [take_eq] using waits
              simp only [again, Status.turnsLeft] at less
              omega
          | none =>
              cases late : isLate since now settings.stageTimeout with
              | true =>
                  obtain ⟨ending, ends⟩ := attempt.expire_finished settings awaited
                  rw [settle_late status fuel answer late]
                  exact Settled.of_not_waiting (by simp [take_finished ends])
              | false =>
                  rw [settle_in_time status fuel answer late]
                  intro _ _ _ _ _ waits
                  rw [status] at waits
                  cases waits
                  exact ⟨late, service, answer, rfl⟩
      | notStarted =>
          rw [settle_not_waiting _ (by simp [status])]
          exact Settled.of_not_waiting (by simp [status])
      | finished ending moment =>
          rw [settle_not_waiting _ (by simp [status])]
          exact Settled.of_not_waiting (by simp [status])

theorem giveUp_settled (settled : call.Settled backend settings now index service) :
    (call.giveUp backend now index service).1.Settled backend settings now index
      (call.giveUp backend now index service).2 := by
  unfold giveUp
  split
  · split
    · exact Settled.of_not_waiting (by simp [take_finished (Attempt.cancel_finished _)])
    · exact settled
  · exact settled

/-- A call that still waits after it could give up is not given up on yet. -/
theorem giveUp_patient {attempt : Attempt} {awaited : Awaited} {session since began : Nat}
    (waits : (call.giveUp backend now index service).1.status =
      .waiting attempt awaited session since began) :
    ∀ patience ∈ (call.giveUp backend now index service).1.patience,
      now < began + patience := by
  cases status : call.status with
  | waiting attempt awaited session since began =>
      by_cases due : ∃ patience, call.patience = some patience ∧ began + patience ≤ now
      · obtain ⟨patience, limited, due⟩ := due
        rw [giveUp_due status limited due] at waits
        simp [take_finished attempt.cancel_finished] at waits
      · have early : ∀ patience ∈ call.patience, now < began + patience :=
          fun patience limited => Nat.lt_of_not_le fun late => due ⟨patience, limited, late⟩
        rw [giveUp_not_due status early] at waits ⊢
        rw [status] at waits
        cases waits
        exact early
  | notStarted =>
      rw [giveUp_not_waiting (by simp [status]), status] at waits
      simp at waits
  | finished ending moment =>
      rw [giveUp_not_waiting (by simp [status]), status] at waits
      simp at waits

/-- Whoever waits has three stages at most. -/
theorem stagesLeft_le (awaited : Awaited) : awaited.stagesLeft ≤ 3 := by
  cases awaited <;> simp [Awaited.stagesLeft]

theorem advance_settled (start : Option Nat) :
    (call.advance backend settings now index start service).1.Settled backend settings now index
      (call.advance backend settings now index start service).2 :=
  giveUp_settled (settle_settled 3 _ _ fun _ awaited _ _ _ _ => stagesLeft_le awaited)

/-- A call that did not start by now is not to start until later. -/
theorem advance_notStarted (honest : backend.Honest) {start : Option Nat}
    (idle : (call.advance backend settings now index start service).1.status = .notStarted) :
    ∀ moment ∈ start, now < moment := by
  intro moment begins
  have same : call.status = .notStarted := by
    have less : (call.advance backend settings now index start service).1.turnsLeft ≤
        call.turnsLeft := call.advance_turnsLeft_le start service
    cases status : call.status with
    | notStarted => rfl
    | waiting _ awaited =>
        have few := stagesLeft_le awaited
        simp only [turnsLeft, idle, status, Status.turnsLeft] at less
        omega
    | finished ending ended => simp [turnsLeft, idle, status, Status.turnsLeft] at less
  apply Nat.lt_of_not_le
  intro inTime
  have due : moment ∈ call.dues backend settings start service.world := by
    simpa [dues, same] using begins
  have less : (call.advance backend settings now index start service).1.turnsLeft <
      call.turnsLeft := call.advance_turnsLeft_lt honest due inTime service
  simp [turnsLeft, idle, same] at less

/-- After an advance, nothing is due for a call until later. -/
theorem advance_dues (honest : backend.Honest) {start : Option Nat} {world : World}
    {moment : Nat}
    (due : moment ∈ (call.advance backend settings now index start service).1.dues backend
      settings start world) : now < moment := by
  cases status : (call.advance backend settings now index start service).1.status with
  | notStarted =>
      simp only [dues, status, Option.mem_toList] at due
      exact advance_notStarted honest status moment due
  | waiting attempt awaited session since began =>
      obtain ⟨early, before, unheard, _⟩ := advance_settled start _ _ _ _ _ status
      have patient := giveUp_patient status
      simp only [dues, status, List.mem_append, Option.mem_toList,
        Option.map_eq_some_iff] at due
      rcases due with (expiry | answer) | ⟨patience, limited, rfl⟩
      · apply Nat.lt_of_not_le
        intro late
        simp [isLate, expiry, late] at early
      · apply Nat.lt_of_not_le
        intro late
        have heard : (backend.poll ⟨now, index, session⟩ awaited.stage since
            before.world).1.isSome = true := honest answer late
        simp only [Service.poll] at unheard
        simp [unheard] at heard
      · exact patient patience limited
  | finished ending ended => simp [dues, status] at due

end Call

namespace Timeline

/-- Nothing is due for the calls of a timeline before a moment. -/
def Awaits (backend : Backend World Show Signal) (settings : Settings)
    (timeline : Timeline World Show Signal) (moment : Nat) : Prop :=
  ∀ due ∈ callDues backend settings timeline.sequential timeline.service.world (some 0)
    timeline.calls, moment ≤ due

/-- The answer a session finds. -/
def heard (backend : Backend World Show Signal) (scene : Scene) (stage : Stage) (since : Nat)
    (timeline : Timeline World Show Signal) : Option Billing.Response :=
  (timeline.service.poll backend scene stage since).1

/-- The timeline after a session looked for its answer. -/
def look (backend : Backend World Show Signal) (scene : Scene) (stage : Stage) (since : Nat)
    (timeline : Timeline World Show Signal) : Timeline World Show Signal :=
  { timeline with service := (timeline.service.poll backend scene stage since).2 }

/-- The steps of a run, at a moment and with the number of calls that are done with it. -/
inductive Unfolds (backend : Backend World Show Signal) (settings : Settings)
    (origin : Timeline World Show Signal) :
    (now done : Nat) → Timeline World Show Signal → Prop where
  | origin (now : Nat) (idle : origin.Awaits backend settings now) :
      Unfolds backend settings origin now 0 origin
  | start {now done timeline call} (prior : Unfolds backend settings origin now done timeline)
      (found : timeline.calls[done]? = some call) (idle : call.status = .notStarted)
      (due : timeline.sequential = false → call.delay ≤ now) :
      Unfolds backend settings origin now done
        (timeline.takeTurn backend ⟨now, done, timeline.service.opened + 1⟩ now
          (call.order.start timeline.service.busy) call)
  | look {now done timeline call attempt awaited session since began}
      (prior : Unfolds backend settings origin now done timeline)
      (found : timeline.calls[done]? = some call)
      (waits : call.status = .waiting attempt awaited session since began)
      (unheard : timeline.heard backend ⟨now, done, session⟩ awaited.stage since = none) :
      Unfolds backend settings origin now done
        (timeline.look backend ⟨now, done, session⟩ awaited.stage since)
  | answer {now done timeline call attempt awaited session since began response}
      (prior : Unfolds backend settings origin now done timeline)
      (found : timeline.calls[done]? = some call)
      (waits : call.status = .waiting attempt awaited session since began)
      (heard : timeline.heard backend ⟨now, done, session⟩ awaited.stage since = some response) :
      Unfolds backend settings origin now done
        ((timeline.look backend ⟨now, done, session⟩ awaited.stage since).takeTurn backend
          ⟨now, done, session⟩ began (attempt.resume settings awaited response) call)
  | expire {now done timeline call attempt awaited session since began}
      (prior : Unfolds backend settings origin now done timeline)
      (found : timeline.calls[done]? = some call)
      (waits : call.status = .waiting attempt awaited session since began)
      (unheard : timeline.heard backend ⟨now, done, session⟩ awaited.stage since = none)
      (late : isLate since now settings.stageTimeout = true) :
      Unfolds backend settings origin now done
        ((timeline.look backend ⟨now, done, session⟩ awaited.stage since).takeTurn backend
          ⟨now, done, session⟩ began (attempt.expire settings awaited) call)
  | cancel {now done timeline call attempt awaited session since began patience}
      (prior : Unfolds backend settings origin now done timeline)
      (found : timeline.calls[done]? = some call)
      (waits : call.status = .waiting attempt awaited session since began)
      (settled : call.Settled backend settings now done timeline.service)
      (limited : call.patience = some patience) (due : began + patience ≤ now) :
      Unfolds backend settings origin now done
        (timeline.takeTurn backend ⟨now, done, session⟩ began attempt.cancel call)
  | pass {now done timeline call} (prior : Unfolds backend settings origin now done timeline)
      (found : timeline.calls[done]? = some call)
      (settled : call.Settled backend settings now done timeline.service) :
      Unfolds backend settings origin now (done + 1) timeline
  | again {now done timeline} (prior : Unfolds backend settings origin now done timeline) :
      Unfolds backend settings origin now 0 timeline
  | receive {now timeline} (prior : Unfolds backend settings origin now 0 timeline)
      (signal : Signal) :
      Unfolds backend settings origin now 0
        { timeline with service := timeline.service.receive backend now signal }
  | queue {now done timeline} (prior : Unfolds backend settings origin now done timeline)
      (signals : List (Nat × Signal)) :
      Unfolds backend settings origin now done { timeline with signals := signals }
  | wake {now later timeline}
      (prior : Unfolds backend settings origin now timeline.calls.length timeline)
      (idle : timeline.Awaits backend settings later)
      (forward : backend.Honest → now ≤ later) :
      Unfolds backend settings origin later 0 timeline

variable {backend : Backend World Show Signal} {settings : Settings} {now : Nat}
  {origin timeline : Timeline World Show Signal}

theorem look_journal (scene : Scene) (stage : Stage) (since : Nat) :
    timeline.service.journal <+: (timeline.look backend scene stage since).service.journal :=
  Service.poll_journal ..

theorem advanceCalls_length (sequential : Bool) (index : Nat) (before : Option Nat)
    (calls : List Call) (service : Service World Show) :
    (advanceCalls backend settings sequential now index before calls service).1.length =
      calls.length := by
  induction calls generalizing index before service with
  | nil => rfl
  | cons call calls inductionHypothesis => simp [advanceCalls, inductionHypothesis]

namespace Unfolds

/-- Without their conditions, the steps of a run are steps in some order. -/
theorem interleaves {now done : Nat} (reached : origin.Unfolds backend settings now done timeline) :
    origin.Interleaves backend settings timeline := by
  induction reached with
  | origin => exact .refl
  | start prior found idle due inductionHypothesis =>
      exact inductionHypothesis.step (.start _ found idle)
  | look prior found waits unheard inductionHypothesis =>
      exact inductionHypothesis.step (.poll _ _ _)
  | answer prior found waits heard inductionHypothesis =>
      exact (inductionHypothesis.step (.poll _ _ _)).step (.react _ found waits (.answered _))
  | expire prior found waits unheard late inductionHypothesis =>
      exact (inductionHypothesis.step (.poll _ _ _)).step (.react _ found waits .expired)
  | cancel prior found waits settled limited due inductionHypothesis =>
      exact inductionHypothesis.step (.react _ found waits .cancelled)
  | pass prior found settled inductionHypothesis => exact inductionHypothesis
  | again prior inductionHypothesis => exact inductionHypothesis
  | receive prior signal inductionHypothesis =>
      exact inductionHypothesis.step (.receive _ signal)
  | queue prior signals inductionHypothesis => exact inductionHypothesis.step (.queue signals)
  | wake prior idle forward inductionHypothesis => exact inductionHypothesis

variable {done : Nat} {call : Call}

theorem begin (reached : origin.Unfolds backend settings now done timeline)
    (found : timeline.calls[done]? = some call) (before : Option Nat) :
    origin.Unfolds backend settings now done (timeline.put done
      (call.begin backend now done (startOf timeline.sequential before call)
        timeline.service)) := by
  by_cases due : call.status = .notStarted ∧
      ∃ moment, startOf timeline.sequential before call = some moment ∧ moment ≤ now
  · obtain ⟨idle, moment, start, due⟩ := due
    rw [start, Call.begin_due idle due]
    apply reached.start found idle
    intro atOnce
    simp only [startOf, atOnce] at start
    cases start
    exact due
  · have unmoved : call.begin backend now done (startOf timeline.sequential before call)
        timeline.service = (call, timeline.service) := by
      by_cases idle : call.status = .notStarted
      · apply Call.begin_not_due
        intro moment member
        exact Nat.lt_of_not_le fun early => due ⟨idle, moment, member, early⟩
      · exact Call.begin_started idle
    rw [unmoved, put_found found]
    exact reached

theorem settle (reached : origin.Unfolds backend settings now done timeline)
    (found : timeline.calls[done]? = some call) (fuel : Nat) :
    origin.Unfolds backend settings now done (timeline.put done
      (call.settle backend settings now done fuel timeline.service)) := by
  induction fuel generalizing timeline call with
  | zero =>
      rw [Call.settle, put_found found]
      exact reached
  | succ fuel inductionHypothesis =>
      cases status : call.status with
      | waiting attempt awaited session since began =>
          cases answer : (timeline.service.poll backend ⟨now, done, session⟩ awaited.stage
              since).1 with
          | some response =>
              rw [Call.settle_answered status fuel answer]
              have resumed := reached.answer found status answer
              have inside : done < timeline.calls.length :=
                (List.getElem?_eq_some_iff.mp found).1
              let scene : Scene := ⟨now, done, session⟩
              have resumedCall : ((timeline.look backend scene awaited.stage since).takeTurn
                  backend scene began (attempt.resume settings awaited response)
                  call).calls[done]? =
                  some (call.take backend scene began (attempt.resume settings awaited response)
                    (timeline.service.poll backend scene awaited.stage since).2).1 :=
                List.getElem?_set_self inside
              have again := inductionHypothesis resumed resumedCall
              simpa [put, takeTurn, Timeline.look, scene] using again
          | none =>
              by_cases late : isLate since now settings.stageTimeout = true
              · rw [Call.settle_late status fuel answer late]
                exact reached.expire found status answer late
              · rw [Call.settle_in_time status fuel answer (Bool.eq_false_iff.mpr late),
                  put_found found]
                exact reached.look found status answer
      | notStarted =>
          rw [Call.settle_not_waiting _ (by simp [status]), put_found found]
          exact reached
      | finished ending moment =>
          rw [Call.settle_not_waiting _ (by simp [status]), put_found found]
          exact reached

theorem giveUp (reached : origin.Unfolds backend settings now done timeline)
    (found : timeline.calls[done]? = some call)
    (settled : call.Settled backend settings now done timeline.service) :
    origin.Unfolds backend settings now done (timeline.put done
      (call.giveUp backend now done timeline.service)) := by
  unfold Call.giveUp
  split
  · next attempt awaited session since began patience status limited =>
    split
    · next due => exact reached.cancel found status settled limited due
    · exact put_found found _ ▸ reached
  · exact put_found found _ ▸ reached

/-- A call that is advanced is done with the moment. -/
theorem callAdvance (reached : origin.Unfolds backend settings now done timeline)
    (found : timeline.calls[done]? = some call) (before : Option Nat) :
    origin.Unfolds backend settings now (done + 1) (timeline.put done
      (call.advance backend settings now done (startOf timeline.sequential before call)
        timeline.service)) := by
  have inside := (List.getElem?_eq_some_iff.mp found).1
  let begun := call.begin backend now done (startOf timeline.sequential before call)
    timeline.service
  have begins := reached.begin found before
  let settled := begun.1.settle backend settings now done 3 begun.2
  have settles : origin.Unfolds backend settings now done
      ((timeline.put done begun).put done settled) :=
    begins.settle (List.getElem?_set_self inside) 3
  have isSettled : settled.1.Settled backend settings now done settled.2 :=
    Call.settle_settled 3 _ _ fun _ awaited _ _ _ _ => Call.stagesLeft_le awaited
  have foundSettled : ((timeline.put done begun).put done settled).calls[done]? =
      some settled.1 := List.getElem?_set_self (by simpa [put] using inside)
  have givesUp := settles.giveUp foundSettled isSettled
  have foundLast : (((timeline.put done begun).put done settled).put done
      (settled.1.giveUp backend now done settled.2)).calls[done]? =
        some (settled.1.giveUp backend now done settled.2).1 :=
    List.getElem?_set_self (by simpa [put] using inside)
  have passes := givesUp.pass foundLast (Call.giveUp_settled isSettled)
  simpa [put, Call.advance, begun, settled] using passes

/-- All calls that are advanced are done with the moment. -/
theorem advance (reached : origin.Unfolds backend settings now done timeline) :
    origin.Unfolds backend settings now timeline.calls.length
      (timeline.advance backend settings now) :=
  advanceCalls_induction
    (fun done calls service => origin.Unfolds backend settings now done
      { timeline with calls := calls, service := service })
    (fun before done rest call service reached => by
      let present : Timeline World Show Signal :=
        { timeline with calls := done ++ call :: rest, service := service }
      have found : present.calls[done.length]? = some call := by simp [present]
      have advanced := callAdvance reached found before
      simpa [put, present] using advanced)
    (some 0) [] timeline.calls timeline.service reached.again

theorem receiveAll (signals : List (Nat × Signal))
    (reached : origin.Unfolds backend settings now 0 timeline) :
    origin.Unfolds backend settings now 0
      { timeline with
        service := signals.foldl
          (fun service signal => service.receive backend now signal.2) timeline.service } := by
  induction signals generalizing timeline with
  | nil => exact reached
  | cons signal rest inductionHypothesis =>
      exact inductionHypothesis (reached.receive signal.2)

theorem moment (reached : origin.Unfolds backend settings now done timeline) :
    origin.Unfolds backend settings now timeline.calls.length
      (timeline.moment backend settings now) := by
  have received : origin.Unfolds backend settings now 0
      ((timeline.advance backend settings now).receive backend now) :=
    (reached.advance.again.receiveAll _).queue _
  have again := received.advance
  have same : ((timeline.advance backend settings now).receive backend now).calls.length =
      timeline.calls.length := advanceCalls_length ..
  rwa [same] at again

end Unfolds

/-- What is due for one of the calls is due for the calls. -/
theorem mem_callDues {sequential : Bool} {world : World} (before : Option Nat)
    {calls : List Call} {index : Nat} {call : Call} (found : calls[index]? = some call) :
    ∃ ended, ∀ due ∈ call.dues backend settings (startOf sequential ended call) world,
      due ∈ callDues backend settings sequential world before calls := by
  induction calls generalizing before index with
  | nil => simp at found
  | cons head calls inductionHypothesis =>
      cases index with
      | zero =>
          obtain rfl : head = call := by simpa using found
          exact ⟨before, fun due member => List.mem_append_left _ member⟩
      | succ index =>
          obtain ⟨ended, among⟩ := inductionHypothesis head.ended? (by simpa using found)
          exact ⟨ended, fun due member => List.mem_append_right _ (among due member)⟩

/-- Induction over a run for what concerns the calls and their deeds only. -/
theorem Unfolds.calls_induction {motive : Nat → Timeline World Show Signal → Prop}
    (first : ∀ {now}, origin.Awaits backend settings now → motive now origin)
    (starts : ∀ {now done timeline call}, origin.Unfolds backend settings now done timeline →
      timeline.calls[done]? = some call → call.status = .notStarted →
      (timeline.sequential = false → call.delay ≤ now) → motive now timeline →
      motive now (timeline.takeTurn backend ⟨now, done, timeline.service.opened + 1⟩ now
        (call.order.start timeline.service.busy) call))
    (reacts : ∀ {now done timeline call attempt awaited session since began turn},
      timeline.calls[done]? = some call →
      call.status = .waiting attempt awaited session since began →
      attempt.Reacts settings awaited turn → motive now timeline →
      motive now (timeline.takeTurn backend ⟨now, done, session⟩ began turn call))
    (stays : ∀ {now} (timeline next : Timeline World Show Signal), next.calls = timeline.calls →
      next.sequential = timeline.sequential → next.service.deeds = timeline.service.deeds →
      motive now timeline → motive now next)
    (wakes : ∀ {now later timeline}, timeline.Awaits backend settings later →
      (backend.Honest → now ≤ later) → motive now timeline → motive later timeline)
    (reached : origin.Unfolds backend settings now done timeline) : motive now timeline := by
  have looks : ∀ {now timeline scene stage since}, motive now timeline →
      motive now (timeline.look backend scene stage since) :=
    fun {_ timeline _ _ _} kept => stays timeline _ rfl rfl (Service.poll_deeds ..) kept
  induction reached with
  | origin now idle => exact first idle
  | start prior found idle due inductionHypothesis =>
      exact starts prior found idle due inductionHypothesis
  | look prior found waits unheard inductionHypothesis => exact looks inductionHypothesis
  | answer prior found waits heard inductionHypothesis =>
      exact reacts found waits (.answered _) (looks inductionHypothesis)
  | expire prior found waits unheard late inductionHypothesis =>
      exact reacts found waits .expired (looks inductionHypothesis)
  | cancel prior found waits settled limited due inductionHypothesis =>
      exact reacts found waits .cancelled inductionHypothesis
  | pass prior found settled inductionHypothesis => exact inductionHypothesis
  | again prior inductionHypothesis => exact inductionHypothesis
  | @receive now timeline prior signal inductionHypothesis =>
      exact stays timeline _ rfl rfl (Service.receive_deeds ..) inductionHypothesis
  | @queue now done timeline prior signals inductionHypothesis =>
      exact stays timeline _ rfl rfl rfl inductionHypothesis
  | wake prior idle forward inductionHypothesis => exact wakes idle forward inductionHypothesis

/-- After a moment, nothing is due for the calls until later. -/
theorem advanceCalls_dues (honest : backend.Honest) {sequential : Bool} {world : World}
    (index : Nat) (before : Option Nat) (calls : List Call) (service : Service World Show) :
    ∀ due ∈ callDues backend settings sequential world before
      (advanceCalls backend settings sequential now index before calls service).1,
      now < due := by
  induction calls generalizing index before service with
  | nil => simp [advanceCalls, callDues]
  | cons call calls inductionHypothesis =>
      intro due member
      simp only [advanceCalls, callDues, List.mem_append] at member
      rcases member with first | rest
      · rw [startOf, Call.advance_delay] at first
        exact Call.advance_dues honest first
      · exact inductionHypothesis _ _ _ due rest

theorem next?_some {moment : Nat} (next : timeline.next? backend settings = some moment) :
    timeline.Awaits backend settings moment := by
  intro due member
  exact (List.min?_eq_some_iff.mp next).2 due (List.mem_append_left _ member)

/-- After a moment comes a later one. -/
theorem moment_next (honest : backend.Honest) {later : Nat}
    (next : (timeline.moment backend settings now).next? backend settings = some later) :
    now < later := by
  have member := (List.min?_eq_some_iff.mp next).1
  rcases List.mem_append.mp member with call | signal
  · exact advanceCalls_dues honest _ _ _ _ later call
  · obtain ⟨first, head, rfl⟩ : ∃ first, ((timeline.advance backend settings now).receive backend
        now).signals.head? = some first ∧ first.1 = later := by
      simpa [moment, advance] using signal
    have late := List.head?_dropWhile_not (fun signal : Nat × Signal => decide (signal.1 ≤ now))
      (timeline.advance backend settings now).signals
    simp only [receive] at head
    simpa [head] using late

theorem runFor_unfolds (fuel : Nat) {now : Nat} {timeline : Timeline World Show Signal}
    (reached : origin.Unfolds backend settings now timeline.calls.length timeline)
    (forward : backend.Honest → ∀ later, timeline.next? backend settings = some later →
      now ≤ later) :
    ∃ last, origin.Unfolds backend settings last
      (timeline.runFor backend settings fuel).calls.length
      (timeline.runFor backend settings fuel) := by
  induction fuel generalizing now timeline with
  | zero => exact ⟨now, reached⟩
  | succ fuel inductionHypothesis =>
      rw [runFor]
      cases next : timeline.next? backend settings with
      | none => exact ⟨now, reached⟩
      | some later =>
          have woken := reached.wake (next?_some next) fun honest => forward honest later next
          have same : (timeline.moment backend settings later).calls.length =
              timeline.calls.length :=
            (advanceCalls_length ..).trans (advanceCalls_length ..)
          apply inductionHypothesis (same ▸ woken.moment)
          intro honest last again
          exact Nat.le_of_lt (moment_next honest again)

/-- A run through some moments consists of such steps, unless nothing happens in it. -/
theorem runFor_reached (backend : Backend World Show Signal) (settings : Settings)
    (origin : Timeline World Show Signal) (fuel : Nat) :
    origin.runFor backend settings fuel = origin ∨
      ∃ now, origin.Unfolds backend settings now
        (origin.runFor backend settings fuel).calls.length
        (origin.runFor backend settings fuel) := by
  cases fuel with
  | zero => exact .inl rfl
  | succ fuel =>
      rw [runFor]
      cases next : origin.next? backend settings with
      | none => exact .inl rfl
      | some now =>
          have first : origin.Unfolds backend settings now 0 origin := .origin now (next?_some next)
          have same : (origin.moment backend settings now).calls.length = origin.calls.length :=
            (advanceCalls_length ..).trans (advanceCalls_length ..)
          refine .inr (runFor_unfolds fuel (same ▸ first.moment) fun honest later again => ?_)
          exact Nat.le_of_lt (moment_next honest again)

/-- Every run consists of such steps, unless nothing ever happens. -/
theorem run_unfolds (origin : Timeline World Show Signal) :
    origin.run backend settings = origin ∨
      ∃ now, origin.Unfolds backend settings now (origin.run backend settings).calls.length
        (origin.run backend settings) :=
  runFor_reached backend settings origin origin.moments

/-- A run in which a call began has steps. -/
theorem Fresh.run_unfolds (fresh : origin.Fresh) {index : Nat} {call : Call}
    (found : (origin.run backend settings).calls[index]? = some call)
    (begun : call.status ≠ .notStarted) :
    ∃ now, origin.Unfolds backend settings now (origin.run backend settings).calls.length
      (origin.run backend settings) := by
  refine (Timeline.run_unfolds origin).resolve_left fun same => begun ?_
  rw [same] at found
  exact fresh.idle call (List.mem_of_getElem? found)

/-- The order a timeline runs its calls in is one of the possible orders, moment by moment. -/
theorem runFor_interleaves (backend : Backend World Show Signal) (settings : Settings)
    (timeline : Timeline World Show Signal) (fuel : Nat) :
    timeline.Interleaves backend settings (timeline.runFor backend settings fuel) := by
  rcases runFor_reached backend settings timeline fuel with same | ⟨now, reached⟩
  · rw [same]
    exact .refl
  · exact reached.interleaves

/-- The order a timeline runs its calls in is one of the possible orders. -/
theorem run_interleaves (backend : Backend World Show Signal) (settings : Settings)
    (timeline : Timeline World Show Signal) :
    timeline.Interleaves backend settings (timeline.run backend settings) :=
  runFor_interleaves backend settings timeline timeline.moments

end Timeline

end Storefront
