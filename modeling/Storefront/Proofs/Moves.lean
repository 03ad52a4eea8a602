import Storefront.Host.App
import Storefront.Proofs.Unfolding

/-!
# Apps in any order

An app calls native methods one after the other and lets its calls go as far as they can
in between. `App.Moves` leaves open what is called when, how far the calls go, what they are
answered and how much time passes. To the calls of an app all that is nothing but a world that
changes from outside, so what holds of calls in any order holds of them: `Reaches.interleaves`.
-/

namespace Storefront

variable {World Show Signal : Type}

/-- A backend whose world becomes, from outside, whatever it likes. -/
def Backend.wayward (backend : Backend World Show Signal) :
    Backend World Show (List Show × World) where
  act := backend.act
  poll := backend.poll
  due := backend.due
  receive signal _ := signal

/-- What a call does is up to the backend. -/
@[simp] theorem Call.take_wayward (backend : Backend World Show Signal) (scene : Scene)
    (began : Nat) (turn : Turn) (call : Call) (service : Service World Show) :
    call.take backend.wayward scene began turn service =
      call.take backend scene began turn service := rfl

namespace Host

/-- What a native method comes to: the call it makes, how it ends, and the switchboard. -/
def Entrance.outcome (entrance : Entrance) (bridge : Bridge) :
    Option Order × Progress × Switchboard :=
  let progress : Progress := ⟨bridge.machine, entrance.pending, []⟩
  match entrance.method with
  | .bind home => (none, progress.bind home, bridge.board)
  | .lookUp catalog =>
      ((progress.lookUp catalog).1, (progress.lookUp catalog).2, bridge.board)
  | .purchase catalog activity =>
      ((progress.purchase catalog activity).1, (progress.purchase catalog activity).2,
        bridge.board)
  | .callback handle sent => (none, progress.route bridge.board handle sent)

namespace App

section enter

variable (app : App) (entrance : Entrance)

theorem enter_pending :
    (app.enter entrance).1 = (entrance.outcome app.service.world).2.1.pending := by
  obtain ⟨method, pending⟩ := entrance
  cases method <;> rfl

@[simp] theorem enter_calls :
    (app.enter entrance).2.calls =
      app.calls ++ (entrance.outcome app.service.world).1.toList.map fun order =>
        { order := order } := by
  obtain ⟨method, pending⟩ := entrance
  cases method <;> rfl

/-- A native method changes the bridge and shows what it does, and that is all. -/
@[simp] theorem enter_service :
    (app.enter entrance).2.service =
      { app.service with
        world := ⟨(entrance.outcome app.service.world).2.1.machine,
          (entrance.outcome app.service.world).2.2⟩
        journal := app.service.journal ++
          (entrance.outcome app.service.world).2.1.events.map fun event =>
            ⟨0, none, .showed event⟩ } := by
  obtain ⟨method, pending⟩ := entrance
  cases method <;> rfl

end enter

/-- An app none of whose calls has begun. -/
structure IsNew (app : App) : Prop where
  idle : ∀ call ∈ app.calls, call.status = .notStarted
  free : app.service.busy = false
  unopened : app.service.opened = 0
  blank : app.service.journal = []

theorem ready_isNew (home : Home) (faults : List Fault) : (ready home faults).IsNew :=
  ⟨by simp [ready], rfl, rfl, rfl⟩

/-- One thing that happens to an app: it calls a native method, it sees an exception, or one of
its calls does something. -/
inductive Moves (detached : Bool) (settings : Settings) : App → App → Prop where
  | enter (app : App) (entrance : Entrance) : Moves detached settings app (app.enter entrance).2
  | leave (app : App) (pending : Option Raised) :
      Moves detached settings app (app.note (pending.toList.map .thrown))
  | go {timeline next : Timeline Bridge Event Arrival}
      (step : timeline.Step (hosted detached) settings next) :
      Moves detached settings ⟨timeline.calls, timeline.service⟩ ⟨next.calls, next.service⟩

/-- Whatever happens to an app, one thing after the other. -/
inductive Reaches (detached : Bool) (settings : Settings) (origin : App) : App → Prop where
  | refl : Reaches detached settings origin origin
  | move {app next} (prior : Reaches detached settings origin app)
      (move : app.Moves detached settings next) : Reaches detached settings origin next

variable {detached : Bool} {settings : Settings} {origin app next : App}

theorem Reaches.trans (first : origin.Reaches detached settings app)
    (second : app.Reaches detached settings next) : origin.Reaches detached settings next := by
  induction second with
  | refl => exact first
  | move prior move inductionHypothesis => exact inductionHypothesis.move move

/-- What the calls of an app do in any order, the app can do. -/
theorem Reaches.of_interleaves {before after : Timeline Bridge Event Arrival}
    (interleaved : before.Interleaves (hosted detached) settings after) :
    Reaches detached settings ⟨before.calls, before.service⟩ ⟨after.calls, after.service⟩ := by
  induction interleaved with
  | refl => exact .refl
  | step prior transition inductionHypothesis => exact inductionHypothesis.move (.go transition)

/-- The timeline on which the calls of an app go on. -/
def present (app : App) : Timeline Bridge Event Arrival :=
  { calls := app.calls, service := app.service }

/-- An app one of whose calls looks for an answer. -/
theorem Reaches.poll (reached : origin.Reaches detached settings app) (scene : Scene)
    (stage : Stage) (since : Nat) :
    origin.Reaches detached settings
      ⟨app.calls, (app.service.poll (hosted detached) scene stage since).2⟩ := by
  have looks : app.present.Step (hosted detached) settings { app.present with
      service := (app.service.poll (hosted detached) scene stage since).2 } :=
    .poll scene stage since
  exact reached.move (.go looks)

theorem settle_eq (app : App) :
    app.settle = ⟨(app.present.advance (hosted true) {} 0).calls,
      (app.present.advance (hosted true) {} 0).service⟩ := rfl

theorem step_calls (app : App) (entrance : Entrance) :
    (app.step entrance).calls =
      ((app.enter entrance).2.present.advance (hosted true) {} 0).calls := rfl

/-- Calls that are let go on go on in some order. -/
theorem present_interleaves (app : App) :
    app.present.Interleaves (hosted true) {} (app.present.advance (hosted true) {} 0) :=
  (Timeline.Unfolds.origin 0 fun _ _ => Nat.zero_le _).advance.interleaves

/-- A step of an app is a few moves of it. -/
theorem step_reaches (app : App) (entrance : Entrance) :
    app.Reaches true {} (app.step entrance) := by
  have settled : app.Reaches true {} (app.enter entrance).2.settle :=
    (Reaches.refl.move (.enter app entrance)).trans
      (.of_interleaves (app.enter entrance).2.present_interleaves)
  exact settled.move (.leave _ (app.enter entrance).1)

/-- So is a run. -/
theorem run_reaches (app : App) (entrances : List Entrance) :
    app.Reaches true {} (app.run entrances).2 := by
  induction entrances generalizing app with
  | nil => exact .refl
  | cons entrance rest inductionHypothesis =>
      exact (app.step_reaches entrance).trans (inductionHypothesis _)

/-- What every change of the service keeps, an app keeps. -/
theorem Reaches.keeps (motive : Service Bridge Event → Prop)
    (enters : ∀ (app : App) entrance, motive app.service → motive (app.enter entrance).2.service)
    (leaves : ∀ (app : App) (pending : Option Raised), motive app.service →
      motive (app.note (pending.toList.map .thrown)).service)
    (performs : ∀ service scene action, motive service →
      motive (service.perform (hosted detached) scene action))
    (polls : ∀ service scene stage since, motive service →
      motive (service.poll (hosted detached) scene stage since).2)
    (receives : ∀ service now arrival, motive service →
      motive (service.receive (hosted detached) now arrival))
    (reached : origin.Reaches detached settings app) (initial : motive origin.service) :
    motive app.service := by
  have performsAll : ∀ (service : Service Bridge Event) scene actions, motive service →
      motive (service.performAll (hosted detached) scene actions) := by
    intro service scene actions kept
    induction actions generalizing service with
    | nil => exact kept
    | cons action rest inductionHypothesis =>
        exact inductionHypothesis _ (performs service scene action kept)
  induction reached with
  | refl => exact initial
  | @move app next prior move kept =>
      cases move with
      | enter _ entrance => exact enters app entrance kept
      | leave _ pending => exact leaves app pending kept
      | go step =>
          cases step with
          | start now found idle =>
              rw [Timeline.takeTurn_service]
              exact performsAll _ _ _ kept
          | react now found waits reaction =>
              rw [Timeline.takeTurn_service]
              exact performsAll _ _ _ kept
          | poll scene stage since => exact polls _ scene stage since kept
          | receive now arrival => exact receives _ now arrival kept
          | queue signals => exact kept

/-- To the calls of an app, and to those it is still going to make, all that happens is a change
of the world from outside. -/
theorem Reaches.interleaves (reached : origin.Reaches detached settings app)
    (isNew : origin.IsNew) (future : List Call)
    (idle : ∀ call ∈ future, call.status = .notStarted) :
    ∃ start : Timeline Bridge Event (List Event × Bridge), start.Fresh ∧
      start.Interleaves (hosted detached).wayward settings
        { calls := app.calls ++ future, service := app.service } := by
  induction reached generalizing future with
  | refl =>
      have allIdle : ∀ call ∈ origin.calls ++ future, call.status = .notStarted :=
        fun call member => (List.mem_append.mp member).elim (isNew.idle call) (idle call)
      exact ⟨_, ⟨allIdle, isNew.free, isNew.unopened, isNew.blank⟩, .refl⟩
  | @move app next prior move inductionHypothesis =>
      cases move with
      | enter _ entrance =>
          let outcome := entrance.outcome app.service.world
          let made : List Call := outcome.1.toList.map fun order => { order := order }
          have waiting : ∀ call ∈ made ++ future, call.status = .notStarted := by
            intro call member
            rcases List.mem_append.mp member with new | later
            · obtain ⟨order, _, rfl⟩ := List.mem_map.mp new
              rfl
            · exact idle call later
          obtain ⟨start, fresh, interleaved⟩ := inductionHypothesis (made ++ future) waiting
          refine ⟨start, fresh, ?_⟩
          have changed := interleaved.step
            (.receive 0 (outcome.2.1.events, ⟨outcome.2.1.machine, outcome.2.2⟩))
          simpa [Service.receive, Backend.wayward, made, outcome] using changed
      | leave _ pending =>
          obtain ⟨start, fresh, interleaved⟩ := inductionHypothesis future idle
          exact ⟨start, fresh, interleaved.step
            (.receive 0 (pending.toList.map Event.thrown, app.service.world))⟩
      | @go timeline next step =>
          obtain ⟨start, fresh, interleaved⟩ := inductionHypothesis future idle
          refine ⟨start, fresh, ?_⟩
          have inside : ∀ {index : Nat} {call : Call}, timeline.calls[index]? = some call →
              (timeline.calls ++ future)[index]? = some call := by
            intro index call found
            rw [List.getElem?_append_left (List.getElem?_eq_some_iff.mp found).1, found]
          cases step with
          | start now found waits =>
              have started := interleaved.step (.start now (inside found) waits)
              have bound := (List.getElem?_eq_some_iff.mp found).1
              simpa [Timeline.takeTurn, List.set_append_left _ _ bound] using started
          | react now found waits reaction =>
              have reacted := interleaved.step (.react now (inside found) waits reaction)
              have bound := (List.getElem?_eq_some_iff.mp found).1
              simpa [Timeline.takeTurn, List.set_append_left _ _ bound] using reacted
          | poll scene stage since => exact interleaved.step (.poll scene stage since)
          | receive now arrival =>
              exact interleaved.step
                (.receive now ((hosted detached).receive arrival timeline.service.world))
          | queue signals => exact interleaved

/-- The calls an app has made, in an order of their own. -/
theorem Reaches.timeline (reached : origin.Reaches detached settings app)
    (isNew : origin.IsNew) :
    ∃ start : Timeline Bridge Event (List Event × Bridge), start.Fresh ∧
      start.Interleaves (hosted detached).wayward settings
        { calls := app.calls, service := app.service } := by
  simpa using reached.interleaves isNew [] (by simp)

end App

end Host

end Storefront
