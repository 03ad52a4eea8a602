import Storefront.Host.Bridge
import Storefront.Service.Timeline

/-!
# The app's side

The app calls native methods one after the other, and between two of them the calls it
has made go as far as they can. No time passes, so no stage ever times out.
-/

namespace Storefront.Host

/-- A native method, as the app calls it. -/
inductive Method where
  | bind (home : Home)
  | lookUp (catalog : Argument)
  | purchase (catalog : Argument) (activity : String)
  | callback (handle : Handle) (sent : Sent)
deriving DecidableEq, Repr

/-- A call of a native method, and the exception that is pending then. -/
structure Entrance where
  method : Method
  pending : Option Raised := none
deriving DecidableEq, Repr

/-- The calls the app has made, on the one service it has. -/
structure App where
  calls : List Call := []
  service : Service Bridge Event

namespace App

/-- An app that has done nothing yet. -/
def fresh (faults : List Fault) : App :=
  { service := { world := { machine := { faults := faults } } } }

/-- An app that is bound to its context and has loaded every class. -/
def ready (home : Home) (faults : List Fault) : App :=
  { service := { world := { machine := {
      faults := faults
      home := some home
      classes := [billingBridge, textClass, catalogBridge] } } } }

/-- Journals what was shown to the app itself. -/
def note (app : App) (events : List Event) : App :=
  { app with service := { app.service with
      journal := app.service.journal ++ events.map fun event => ⟨0, none, .showed event⟩ } }

/-- Lets a native method run on the app's own thread. -/
def enter (app : App) (entrance : Entrance) : Option Raised × App :=
  let bridge := app.service.world
  let progress : Progress := ⟨bridge.machine, entrance.pending, []⟩
  let (order, progress, board) : Option Order × Progress × Switchboard :=
    match entrance.method with
    | .bind home => (none, progress.bind home, bridge.board)
    | .lookUp catalog =>
        let (order, progress) := progress.lookUp catalog
        (order, progress, bridge.board)
    | .purchase catalog activity =>
        let (order, progress) := progress.purchase catalog activity
        (order, progress, bridge.board)
    | .callback handle sent => (none, progress.route bridge.board handle sent)
  let app : App := {
    calls := app.calls ++ order.toList.map fun order => { order := order }
    service := { app.service with world := ⟨progress.machine, board⟩ } }
  (progress.pending, app.note progress.events)

/-- Lets the calls go on. -/
def settle (app : App) : App :=
  let (calls, service) :=
    Timeline.advanceCalls (hosted true) {} false 0 0 (some 0) app.calls app.service
  ⟨calls, service⟩

/-- One call of a native method, and all that follows from it before the next. The app
sees an exception last. -/
def step (app : App) (entrance : Entrance) : App :=
  let (pending, app) := app.enter entrance
  app.settle.note (pending.toList.map .thrown)

/-- The part of the journal that a step added. -/
def news (app : App) (before : App) : List (Entry Event) :=
  app.service.journal.drop before.service.journal.length

/-- Takes steps, with the part of the journal each added. -/
def run (app : App) : List Entrance -> List (List (Entry Event)) × App
  | [] => ([], app)
  | entrance :: entrances =>
      let next := app.step entrance
      let (journals, last) := next.run entrances
      (next.news app :: journals, last)

/-- The handles a method of the billing class was called with. -/
def handlesOf (app : App) (method : String) : List Handle :=
  app.service.journal.filterMap fun entry =>
    match entry.happening with
    | .showed (.called invocation) =>
        if invocation.target = .class billingBridge && invocation.method = method then
          invocation.arguments.findSome? fun
            | .long handle => some handle
            | _ => none
        else none
    | _ => none

/-- The handles of connections that were started and not ended, ascending. -/
def openHandles (app : App) : List Handle :=
  let ended := app.handlesOf "endConnection"
  (app.handlesOf "startConnection").filter (!ended.contains ·) |>.mergeSort

/-- Takes steps, and then lets the billing service drop every connection still open. -/
def runToEnd (app : App) (entrances : List Entrance) :
    List (List (Entry Event)) × List (List (Entry Event)) :=
  let (steps, app) := app.run entrances
  let (ends, _) := app.run
    (app.openHandles.map fun handle => ⟨.callback handle .disconnected, none⟩)
  (steps, ends)

end App

end Storefront.Host
