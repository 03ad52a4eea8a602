import Storefront.Backend.Routed
import Storefront.Host.Native
import Storefront.Host.Request

/-!
# The bridge to the host machine

The bridge is a backend. Sessions put their questions to the app's billing class, whose
callbacks come back to the switchboard; offers and failures go to the app's catalog
class. A question that cannot be issued is answered at once.
-/

namespace Storefront.Host

/-- What the bridge remembers: the machine, and the requests waiting for callbacks. -/
structure Bridge where
  machine : Machine
  board : Switchboard := {}
deriving DecidableEq, Repr

/-- A callback on its way into native code. -/
structure Arrival where
  handle : Handle
  sent : Sent
  /-- The exception pending when native code is entered. -/
  pending : Option Raised := none
deriving DecidableEq, Repr

/-- The answer to a question that could not be issued. -/
def notIssued (question : Question) : Billing.Response :=
  ⟨⟨.developerError, "failed to call BillingBridge." ++ methodOf question ++ ": Error"⟩, none⟩

/-- The answer to a question whose request was closed without one. -/
def neverAnswered (stage : Stage) : Billing.Response :=
  let method :=
    match stage with
    | .connect => "startConnection"
    | .queryOffers => "querySkuDetails"
    | .launchPurchase => "launchBillingFlow"
  ⟨⟨.error, "BillingBridge." ++ method ++ " never answered"⟩, none⟩

/-- What is logged about a call made by the app. -/
def outcomeLine (purpose : Purpose) (ending : Ending) : Option LogLine :=
  let what :=
    match purpose with
    | .lookup => "lookup"
    | .purchase => "purchase"
  match ending with
  | .succeeded (.delivered offers) =>
      some ⟨.info, what ++ ": delivered " ++ toString offers ++ " offer(s)"⟩
  | .succeeded (.purchaseLaunched offer) =>
      some ⟨.info, what ++ ": billing flow launched for " ++ offer.sku⟩
  | .succeeded .notFound => some ⟨.warn, what ++ ": no matching offers"⟩
  | .failed failure => some ⟨.error, what ++ " failed: " ++ failure.message⟩
  | .cancelled => none

namespace Bridge

/-- Makes a request of the machine; `failed` is shown if it was not issued. -/
def request (bridge : Bridge) (attaches : Bool) (steps : Home -> List Step)
    (failed : String) : List Event × Bridge :=
  let (issued, events, machine) := bridge.machine.request attaches steps
  (events ++ if issued then [] else [.log ⟨.error, failed⟩],
    { bridge with machine := machine })

/-- Hands a text to the receiver of offers. -/
def send (bridge : Bridge) (attaches : Bool) (method text : String) :
    List Event × Bridge :=
  bridge.request attaches (receiverSteps method text)
    ("failed to call CatalogBridge." ++ method ++ ": Error")

/-- Puts a question: the session waits under its handle before the question is issued. -/
def ask (bridge : Bridge) (attaches : Bool) (handle : Handle) (question : Question) :
    List Event × Bridge :=
  let board := bridge.board.expect handle question.kind
  let (issued, events, machine) :=
    bridge.machine.request attaches (questionSteps handle question)
  (events, ⟨machine, if issued then board else board.settle handle (notIssued question)⟩)

/-- Ends a connection. Nothing that is answered from now on reaches the session. -/
def hangUp (bridge : Bridge) (attaches : Bool) (handle : Handle) :
    List Event × Bridge :=
  { bridge with board := bridge.board.forget handle }.request attaches (endSteps handle)
    ("failed to end billing connection " ++ toString handle ++ ": Error")

/-- What is left to do for the app when a call it made is over: the outcome is logged,
and the activity of a purchase let go, for which a thread of the bridge attaches. -/
def close (bridge : Bridge) (purpose : Purpose) (ending : Ending) :
    List Event × Bridge :=
  let lines := (outcomeLine purpose ending).toList.map Event.log
  match purpose with
  | .lookup => (lines, bridge)
  | .purchase =>
      let done := bridge.machine.perform .attach
      (lines ++ done.events, { bridge with machine := done.machine })

/-- Lets a callback in. Returns the exception that is pending when native code is left. -/
def receive (bridge : Bridge) (arrival : Arrival) :
    List Event × Option Raised × Bridge :=
  let (progress, board) :=
    (Progress.mk bridge.machine arrival.pending []).route bridge.board arrival.handle
      arrival.sent
  (progress.events, progress.pending, ⟨progress.machine, board⟩)

end Bridge

/-- The bridge as a backend. If it runs `detached`, its calls are made by the app and
run on a thread of the bridge's own that attaches for each request. -/
def hosted (detached : Bool) : Backend Bridge Event Arrival where
  act scene action bridge :=
    match action with
    | .ask question => bridge.ask detached scene.session question
    | .endSession => bridge.hangUp detached scene.session
    | .deliver catalog => bridge.send detached "onSkuDetailsReceived" catalog
    | .report failure => bridge.send detached "onSkuDetailsFailed" failure.message
    | .finish purpose ending =>
        if detached then bridge.close purpose ending else ([], bridge)
    | _ => ([], bridge)
  poll scene stage _ bridge :=
    let (answer, board) := bridge.board.answer scene.session (neverAnswered stage)
    (answer, [], { bridge with board := board })
  due _ _ _ _ := none
  receive arrival bridge :=
    let (events, pending, bridge) := bridge.receive arrival
    (events ++ pending.toList.map .thrown, bridge)

end Storefront.Host
