import Storefront.Attempt
import Storefront.Billing.Response
import Storefront.Catalog.Platform
import Storefront.Failure

/-!
# What a call does at once

A call runs through a short sequence of stages and waits for the service at each. A
`Turn` is all it does without waiting: the actions it takes, in order, and what it
waits for next. A turn follows the start of the call, an answer, a timeout or a
cancellation, and nothing else of the world reaches into it.
-/

namespace Storefront

/-- What a call is for. -/
inductive Purpose where
  /-- Look the products up and deliver their offers. -/
  | lookup
  /-- Show the purchase flow for a single product. -/
  | purchase
deriving DecidableEq, Repr

/-- The catalog of a call, as a text or as a catalog. -/
inductive Wanted where
  | text (text : String)
  | catalog (catalog : Catalog.Canonical)
deriving DecidableEq, Repr

/-- What a caller asks for. -/
structure Order where
  purpose : Purpose
  wanted : Wanted
  /-- What a purchase flow is shown on top of. -/
  presentation : String
deriving DecidableEq, Repr

/-- What holds for all calls. -/
structure Settings where
  /-- How long each stage may take. -/
  stageTimeout : Duration := ⟨30, 0⟩
  /-- The kind of products every query asks for. -/
  skuType : Billing.SkuType := .subs
deriving DecidableEq, Repr

/-- How a call that did not fail ended. -/
inductive Outcome where
  /-- A catalog with this many offers was delivered. -/
  | delivered (offers : Nat)
  | purchaseLaunched (offer : Catalog.Offer)
  | notFound
deriving DecidableEq, Repr

/-- How a call ended. -/
inductive Ending where
  | succeeded (outcome : Outcome)
  | failed (failure : Failure)
  | cancelled
deriving DecidableEq, Repr

/-- What a session is asked. -/
inductive Question where
  | setup
  | offers (skus : List String) (skuType : Billing.SkuType)
  | launch (sku : Billing.Sku) (presentation : String)
deriving DecidableEq, Repr

/-- One thing a call does. -/
inductive Action where
  | begin
  | log (line : LogLine)
  | raiseFlag
  | lowerFlag
  | openSession
  | ask (question : Question)
  | endSession
  | deliver (catalog : String)
  | report (failure : Failure)
  | finish (purpose : Purpose) (ending : Ending)
deriving DecidableEq, Repr

/-- What an attempt waits for. -/
inductive Awaited where
  | setup
  | offers
  | launch (sku : Billing.Sku)
deriving DecidableEq, Repr

/-- The stage an attempt waits in. -/
def Awaited.stage : Awaited -> Stage
  | setup => .connect
  | offers => .queryOffers
  | launch _ => .launchPurchase

/-- The data of one attempt, which no other call sees. -/
structure Attempt where
  purpose : Purpose
  catalog : Catalog.Canonical
  presentation : String
  state : State := .idle
deriving DecidableEq, Repr

/-- Where a turn leaves a call. -/
inductive Rest where
  | waiting (attempt : Attempt) (awaited : Awaited)
  | finished (ending : Ending)
deriving DecidableEq, Repr

/-- What a call does at once. -/
structure Turn where
  actions : List Action
  rest : Rest
deriving DecidableEq, Repr

/-- Puts actions before a turn. -/
def Turn.after (turn : Turn) (actions : List Action) : Turn :=
  { turn with actions := actions ++ turn.actions }

/-- The catalog of an order, if it is acceptable. -/
def Wanted.read : Wanted -> Except Catalog.Violation Catalog.Canonical
  | text written => Catalog.Canonical.decode written
  | catalog given => .ok given

/-- A call that ends without an attempt. -/
def Order.endAtOnce (order : Order) (ending : Ending) : Turn :=
  ⟨[.finish order.purpose ending], .finished ending⟩

/-- Logs one line. -/
def Action.say (level : Level) (text : String) : Action :=
  .log ⟨level, text⟩

/-- Turns a response into a failure unless it reports success. -/
def check (stage : Stage) (result : Billing.Result) : Except (LogLine × Failure) Unit :=
  match result.disposition with
  | .success => .ok ()
  | .transient =>
      .error (⟨.error, stage.display ++ ": " ++ result.display⟩, .unavailable stage result)
  | .unexpected =>
      .error (⟨.error, stage.display ++ ": unexpected response " ++ result.display⟩,
        .unexpected stage result)

namespace Attempt

/-- Applies an event, and the log line about it. -/
def move (attempt : Attempt) (event : Event) : Attempt × Action :=
  let (state, line) := attempt.state.apply event
  ({ attempt with state := state }, .log line)

/-- Frees the flag that only purchases raise. -/
def release (attempt : Attempt) : List Action :=
  match attempt.purpose with
  | .lookup => []
  | .purchase => [.lowerFlag]

/-- Ends the session of an attempt. -/
def hangUp : List Action :=
  [.say .debug "ending billing connection", .endSession]

/-- The last turn of an attempt that was not cancelled: the session ends first, and a
failure is reported after. -/
def conclude (attempt : Attempt) (result : Except Failure Outcome) : Turn :=
  let closing := fun (attempt : Attempt) =>
    Action.say .debug ("reconciliation finished in state " ++ attempt.state.name) ::
      attempt.release
  match result with
  | .ok outcome =>
      ⟨hangUp ++ closing attempt ++ [.finish attempt.purpose (.succeeded outcome)],
        .finished (.succeeded outcome)⟩
  | .error failure =>
      let (abandoned, moved) :=
        if attempt.state.isTerminal then (attempt, [])
        else
          let (abandoned, line) := attempt.move .failed
          (abandoned, [line])
      ⟨hangUp ++ moved ++ .report failure :: closing abandoned ++
          [.finish attempt.purpose (.failed failure)],
        .finished (.failed failure)⟩

/-- The turn of an attempt that is cancelled while it waits. -/
def cancel (attempt : Attempt) : Turn :=
  ⟨hangUp ++ attempt.release ++ [.finish attempt.purpose .cancelled], .finished .cancelled⟩

/-- The turn of an attempt whose stage took too long. -/
def expire (settings : Settings) (attempt : Attempt) (awaited : Awaited) : Turn :=
  (attempt.conclude (.error (.timedOut awaited.stage settings.stageTimeout))).after
    [.say .error (awaited.stage.display ++ " timed out after " ++
      settings.stageTimeout.display)]

/-- Opens a session and connects. -/
def connect (attempt : Attempt) : Turn :=
  let (attempt, line) := attempt.move .begin
  ⟨[.openSession, line, .ask .setup], .waiting attempt .setup⟩

/-- Asks for every product of the catalog. -/
def query (settings : Settings) (attempt : Attempt) : Turn :=
  let (attempt, line) := attempt.move .connected
  let skus := attempt.catalog.ids
  ⟨[line,
      .say .debug ("querying " ++ toString skus.length ++ " sku(s) of type " ++
        settings.skuType.word ++ ": " ++ Text.quotedList skus),
      .ask (.offers skus settings.skuType)],
    .waiting attempt .offers⟩

/-- The records of products that were asked for, and the log lines about all others. -/
def requested (attempt : Attempt) (response : Billing.Response) :
    List Billing.Sku × List Action :=
  match response.details with
  | some details =>
      (details.filter fun sku => (attempt.catalog.find? sku.sku).isSome,
        (details.filter fun sku => (attempt.catalog.find? sku.sku).isNone).map fun sku =>
          .say .warn ("ignoring unrequested sku from billing backend: " ++ sku.sku))
  | none => ([], [.say .error "billing backend returned no sku details list"])

/-- Delivers the offers of the records found. -/
def deliver (attempt : Attempt) (details : List Billing.Sku) : Turn :=
  match details with
  | [] =>
      let (attempt, line) := attempt.move .nothingFound
      (attempt.conclude (.ok .notFound)).after [line]
  | _ =>
      let offers : Catalog.Platform := ⟨details.map Catalog.Offer.ofSku⟩
      let (attempt, line) := attempt.move .offersMapped
      (attempt.conclude (.ok (.delivered offers.size))).after [line, .deliver offers.encode]

/-- Shows the purchase flow for the record found, if there is exactly one. -/
def launch (attempt : Attempt) (details : List Billing.Sku) : Turn :=
  match details with
  | [] =>
      let (moved, line) := attempt.move .nothingFound
      (moved.conclude (.ok .notFound)).after
        [.say .warn ("no purchasable offer for " ++ Text.quotedList attempt.catalog.ids), line]
  | [sku] =>
      let (attempt, line) := attempt.move .offerSelected
      ⟨[line, .ask (.launch sku attempt.presentation)], .waiting attempt (.launch sku)⟩
  | _ => attempt.conclude (.error (.unexpectedOfferCount 1 details.length))

/-- The turn of an attempt whose stage was answered in time. -/
def resume (settings : Settings) (attempt : Attempt) (awaited : Awaited)
    (response : Billing.Response) : Turn :=
  let said :=
    match awaited with
    | .launch _ => [Action.say .debug ("launchBillingFlow: " ++ response.result.display)]
    | _ => []
  match check awaited.stage response.result with
  | .error (line, failure) => (attempt.conclude (.error failure)).after (said ++ [.log line])
  | .ok () =>
      match awaited with
      | .setup => attempt.query settings
      | .offers =>
          let (details, dropped) := attempt.requested response
          match attempt.purpose with
          | .lookup => (attempt.deliver details).after dropped
          | .purchase => (attempt.launch details).after dropped
      | .launch sku =>
          let (attempt, line) := attempt.move .purchaseLaunched
          (attempt.conclude (.ok (.purchaseLaunched (.ofSku sku)))).after (said ++ [line])

end Attempt

namespace Order

/-- The first turn of a lookup. An empty catalog needs no attempt. -/
def lookUp (order : Order) (catalog : Catalog.Canonical) : Turn :=
  if catalog.isEmpty then
    (order.endAtOnce (.succeeded .notFound)).after [.say .warn "no products to look up"]
  else
    let featured :=
      match catalog.featured? with
      | some product => [Action.say .debug ("featured product: " ++ product.id)]
      | none => []
    (Attempt.connect ⟨.lookup, catalog, order.presentation, .idle⟩).after featured

/-- The first turn of a purchase. Only one purchase may run at a time; `busy` says that
one does. -/
def buy (order : Order) (busy : Bool) (catalog : Catalog.Canonical) : Turn :=
  match catalog.single with
  | .error violation => order.endAtOnce (.failed (.contract violation))
  | .ok _ =>
      if busy then
        (order.endAtOnce (.failed .purchaseInProgress)).after
          [.say .warn "refusing to start a second purchase", .report .purchaseInProgress]
      else
        (Attempt.connect ⟨.purchase, catalog, order.presentation, .idle⟩).after [.raiseFlag]

/-- The first turn of a call. -/
def start (order : Order) (busy : Bool) : Turn :=
  let turn :=
    match order.wanted.read with
    | .error violation => order.endAtOnce (.failed (.contract violation))
    | .ok catalog =>
        match order.purpose with
        | .lookup => order.lookUp catalog
        | .purchase => order.buy busy catalog
  turn.after [.begin]

end Order

end Storefront
