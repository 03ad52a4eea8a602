import Storefront.Proofs.Deeds
import Storefront.Proofs.Turns

/-!
# Calls in any order

A timeline advances its calls in a fixed order at the moments it picks. `Timeline.Step`
leaves order, moments and answers open: any call may take its next turn whenever it likes
and whatever it was answered, and the world may move in between.
-/

namespace Storefront

variable {World Show Signal : Type}

/-- The status a turn leaves its call in. -/
def Rest.status (scene : Scene) (began : Nat) : Rest → Status
  | .waiting attempt awaited => .waiting attempt awaited scene.session scene.now began
  | .finished ending => .finished ending scene.now

/-- Taking a turn changes the status of the call and lets its actions happen. -/
theorem Call.take_eq (backend : Backend World Show Signal) (scene : Scene) (began : Nat)
    (turn : Turn) (call : Call) (service : Service World Show) :
    call.take backend scene began turn service =
      ({ call with status := turn.rest.status scene began },
        service.performAll backend scene turn.actions) := by
  unfold Call.take Rest.status
  cases turn.rest <;> rfl

namespace Call

/-! What each part of an advance does, case by case. -/

variable {backend : Backend World Show Signal} {settings : Settings} {now index : Nat}
  {call : Call} {service : Service World Show}

theorem begin_due {start : Nat} (idle : call.status = .notStarted) (due : start ≤ now) :
    call.begin backend now index (some start) service =
      call.take backend ⟨now, index, service.opened + 1⟩ now (call.order.start service.busy)
        service := by
  simp [begin, idle, due]

theorem begin_not_due {start : Option Nat} (early : ∀ moment ∈ start, now < moment) :
    call.begin backend now index start service = (call, service) := by
  unfold begin
  split
  · next moment _ =>
    have later := early moment rfl
    rw [if_neg (by omega)]
  · rfl

theorem begin_started {start : Option Nat} (started : call.status ≠ .notStarted) :
    call.begin backend now index start service = (call, service) := by
  unfold begin
  split
  · next idle => exact absurd idle started
  · rfl

theorem settle_not_waiting (fuel : Nat)
    (idle : ∀ attempt awaited session since began,
      call.status ≠ .waiting attempt awaited session since began) :
    call.settle backend settings now index fuel service = (call, service) := by
  cases fuel with
  | zero => rfl
  | succ fuel =>
      unfold settle
      split
      · next waits => exact absurd waits (idle _ _ _ _ _)
      · rfl

section Waiting

variable {attempt : Attempt} {awaited : Awaited} {session since began : Nat}
  (waits : call.status = .waiting attempt awaited session since began)
include waits

theorem settle_answered {response : Billing.Response} (fuel : Nat)
    (answered : (service.poll backend ⟨now, index, session⟩ awaited.stage since).1 =
      some response) :
    call.settle backend settings now index (fuel + 1) service =
      let next := call.take backend ⟨now, index, session⟩ began
        (attempt.resume settings awaited response)
        (service.poll backend ⟨now, index, session⟩ awaited.stage since).2
      next.1.settle backend settings now index fuel next.2 := by
  rw [settle]
  simp only [waits, answered]

theorem settle_late (fuel : Nat)
    (unanswered : (service.poll backend ⟨now, index, session⟩ awaited.stage since).1 = none)
    (late : isLate since now settings.stageTimeout = true) :
    call.settle backend settings now index (fuel + 1) service =
      call.take backend ⟨now, index, session⟩ began (attempt.expire settings awaited)
        (service.poll backend ⟨now, index, session⟩ awaited.stage since).2 := by
  rw [settle]
  simp only [waits, unanswered, late, if_true]

theorem settle_in_time (fuel : Nat)
    (unanswered : (service.poll backend ⟨now, index, session⟩ awaited.stage since).1 = none)
    (inTime : isLate since now settings.stageTimeout = false) :
    call.settle backend settings now index (fuel + 1) service =
      (call, (service.poll backend ⟨now, index, session⟩ awaited.stage since).2) := by
  rw [settle]
  simp only [waits, unanswered, inTime, Bool.false_eq_true, if_false]

theorem giveUp_due {patience : Nat} (limited : call.patience = some patience)
    (due : began + patience ≤ now) :
    call.giveUp backend now index service =
      call.take backend ⟨now, index, session⟩ began attempt.cancel service := by
  simp [giveUp, waits, limited, due]

theorem giveUp_not_due (early : ∀ patience ∈ call.patience, now < began + patience) :
    call.giveUp backend now index service = (call, service) := by
  unfold giveUp
  split
  · next same limited =>
    rw [waits] at same
    cases same
    have later := early _ limited
    rw [if_neg (by omega)]
  · rfl

end Waiting

theorem giveUp_not_waiting
    (idle : ∀ attempt awaited session since began,
      call.status ≠ .waiting attempt awaited session since began) :
    call.giveUp backend now index service = (call, service) := by
  unfold giveUp
  split
  · next waits _ => exact absurd waits (idle _ _ _ _ _)
  · rfl

/-- What actions and looks for answers keep, the advance of a call keeps. -/
theorem advance_keeps (motive : Service World Show → Prop)
    (performs : ∀ service scene actions, motive service →
      motive (service.performAll backend scene actions))
    (polls : ∀ service scene stage since, motive service →
      motive (service.poll backend scene stage since).2)
    (start : Option Nat) (call : Call) (service : Service World Show) (initial : motive service) :
    motive (call.advance backend settings now index start service).2 := by
  have takes : ∀ (call : Call) (service : Service World Show) scene began turn, motive service →
      motive (call.take backend scene began turn service).2 := by
    intro call service scene began turn kept
    rw [take_eq]
    exact performs _ _ _ kept
  have settles : ∀ fuel (call : Call) (service : Service World Show), motive service →
      motive (call.settle backend settings now index fuel service).2 := by
    intro fuel
    induction fuel with
    | zero => exact fun _ _ kept => kept
    | succ fuel inductionHypothesis =>
        intro call service kept
        cases status : call.status with
        | waiting attempt awaited session since began =>
            have looked := polls service ⟨now, index, session⟩ awaited.stage since kept
            cases answer : (service.poll backend ⟨now, index, session⟩ awaited.stage since).1 with
            | some response =>
                rw [settle_answered status fuel answer]
                exact inductionHypothesis _ _ (takes _ _ _ _ _ looked)
            | none =>
                cases late : isLate since now settings.stageTimeout with
                | true =>
                    rw [settle_late status fuel answer late]
                    exact takes _ _ _ _ _ looked
                | false =>
                    rw [settle_in_time status fuel answer late]
                    exact looked
        | notStarted =>
            rw [settle_not_waiting _ (by simp [status])]
            exact kept
        | finished ending moment =>
            rw [settle_not_waiting _ (by simp [status])]
            exact kept
  have givesUp : ∀ (call : Call) (service : Service World Show), motive service →
      motive (call.giveUp backend now index service).2 := by
    intro call service kept
    unfold giveUp
    split
    · split
      · exact takes _ _ _ _ _ kept
      · exact kept
    · exact kept
  have begins : motive (call.begin backend now index start service).2 := by
    unfold begin
    split
    · split
      · exact takes _ _ _ _ _ initial
      · exact initial
    · exact initial
  exact givesUp _ _ (settles 3 _ _ begins)

end Call

namespace Timeline

/-- The timeline after one of its calls took a turn. -/
def takeTurn (backend : Backend World Show Signal) (scene : Scene) (began : Nat) (turn : Turn)
    (call : Call) (timeline : Timeline World Show Signal) : Timeline World Show Signal :=
  let (call, service) := call.take backend scene began turn timeline.service
  { timeline with calls := timeline.calls.set scene.call call, service := service }

section takeTurn

variable (backend : Backend World Show Signal) (scene : Scene) (began : Nat) (turn : Turn)
  (call : Call) (timeline : Timeline World Show Signal)

@[simp] theorem takeTurn_calls :
    (timeline.takeTurn backend scene began turn call).calls =
      timeline.calls.set scene.call
        { call with status := turn.rest.status scene began } := by
  simp [takeTurn, Call.take_eq]

@[simp] theorem takeTurn_service :
    (timeline.takeTurn backend scene began turn call).service =
      timeline.service.performAll backend scene turn.actions := by
  simp [takeTurn, Call.take_eq]

theorem takeTurn_deeds :
    (timeline.takeTurn backend scene began turn call).service.deeds =
      timeline.service.deeds ++ turn.deeds scene := by
  simp [Turn.deeds]

theorem takeTurn_journal :
    timeline.service.journal <+:
      (timeline.takeTurn backend scene began turn call).service.journal := by
  rw [takeTurn_service]
  exact Service.performAll_journal ..

end takeTurn

/-- One step in some order: a call starts, a waiting call reacts to whatever became of its
stage, a session looks for its answer, a signal arrives, or other signals will. -/
inductive Step (backend : Backend World Show Signal) (settings : Settings) :
    Timeline World Show Signal → Timeline World Show Signal → Prop where
  | start {timeline index call} (now : Nat) (found : timeline.calls[index]? = some call)
      (idle : call.status = .notStarted) :
      Step backend settings timeline
        (timeline.takeTurn backend ⟨now, index, timeline.service.opened + 1⟩ now
          (call.order.start timeline.service.busy) call)
  | react {timeline index call attempt awaited session since began turn} (now : Nat)
      (found : timeline.calls[index]? = some call)
      (waits : call.status = .waiting attempt awaited session since began)
      (reaction : attempt.Reacts settings awaited turn) :
      Step backend settings timeline
        (timeline.takeTurn backend ⟨now, index, session⟩ began turn call)
  | poll {timeline} (scene : Scene) (stage : Stage) (since : Nat) :
      Step backend settings timeline
        { timeline with service := (timeline.service.poll backend scene stage since).2 }
  | receive {timeline} (now : Nat) (signal : Signal) :
      Step backend settings timeline
        { timeline with service := timeline.service.receive backend now signal }
  | queue {timeline} (signals : List (Nat × Signal)) :
      Step backend settings timeline { timeline with signals := signals }

/-- Zero or more steps. -/
inductive Interleaves (backend : Backend World Show Signal) (settings : Settings)
    (origin : Timeline World Show Signal) : Timeline World Show Signal → Prop where
  | refl : Interleaves backend settings origin origin
  | step {timeline next} (prior : Interleaves backend settings origin timeline)
      (transition : timeline.Step backend settings next) :
      Interleaves backend settings origin next

/-- A timeline on which nothing happened yet. -/
structure Fresh (timeline : Timeline World Show Signal) : Prop where
  idle : ∀ call ∈ timeline.calls, call.status = .notStarted
  free : timeline.service.busy = false
  unopened : timeline.service.opened = 0
  blank : timeline.service.journal = []

theorem Fresh.deeds {timeline : Timeline World Show Signal} (fresh : timeline.Fresh) :
    timeline.service.deeds = [] := by
  simp [Service.deeds, fresh.blank]

/-- A call put back where it was found changes nothing. -/
theorem set_found {calls : List Call} {index : Nat} {call : Call}
    (found : calls[index]? = some call) : calls.set index call = calls := by
  obtain ⟨inside, same⟩ := List.getElem?_eq_some_iff.mp found
  rw [← same, List.set_getElem_self]

/-- Puts a call and what became of the service into a timeline. -/
def put (timeline : Timeline World Show Signal) (index : Nat)
    (next : Call × Service World Show) : Timeline World Show Signal :=
  { timeline with calls := timeline.calls.set index next.1, service := next.2 }

theorem put_found {timeline : Timeline World Show Signal} {index : Nat} {call : Call}
    (found : timeline.calls[index]? = some call) (service : Service World Show) :
    timeline.put index (call, service) = { timeline with service := service } := by
  simp [put, set_found found]

/-- What one call's advance keeps, the advance of all calls keeps. The motive counts the
calls that were advanced already. -/
theorem advanceCalls_induction {backend : Backend World Show Signal} {settings : Settings}
    {sequential : Bool} {now : Nat}
    (motive : Nat → List Call → Service World Show → Prop)
    (step : ∀ (before : Option Nat) (done rest : List Call) (call : Call)
        (service : Service World Show), motive done.length (done ++ call :: rest) service →
      motive (done.length + 1)
        (done ++ (call.advance backend settings now done.length
          (startOf sequential before call) service).1 :: rest)
        (call.advance backend settings now done.length
          (startOf sequential before call) service).2)
    (before : Option Nat) (done rest : List Call) (service : Service World Show)
    (initial : motive done.length (done ++ rest) service) :
    motive (done ++ rest).length
      (done ++ (advanceCalls backend settings sequential now done.length before rest service).1)
      (advanceCalls backend settings sequential now done.length before rest service).2 := by
  induction rest generalizing before done service with
  | nil => simpa [advanceCalls] using initial
  | cons call rest inductionHypothesis =>
      have advanced := step before done rest call service initial
      have remaining := inductionHypothesis
        (call.advance backend settings now done.length (startOf sequential before call)
          service).1.ended?
        (done ++ [(call.advance backend settings now done.length
          (startOf sequential before call) service).1])
        (call.advance backend settings now done.length (startOf sequential before call)
          service).2
        (by simpa using advanced)
      simpa [advanceCalls] using remaining

/-- What actions and looks for answers keep, the advance of all calls keeps. -/
theorem advance_keeps {backend : Backend World Show Signal}
    {settings : Settings} {now : Nat} {timeline : Timeline World Show Signal}
    (motive : Service World Show → Prop)
    (performs : ∀ service scene actions, motive service →
      motive (service.performAll backend scene actions))
    (polls : ∀ service scene stage since, motive service →
      motive (service.poll backend scene stage since).2)
    (initial : motive timeline.service) :
    motive (timeline.advance backend settings now).service :=
  advanceCalls_induction (fun _ _ service => motive service)
    (fun _ _ _ call service kept => Call.advance_keeps motive performs polls _ call service kept)
    (some 0) [] timeline.calls timeline.service initial

end Timeline

end Storefront
