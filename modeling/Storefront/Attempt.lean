import Storefront.Catalog.Canonical
import Storefront.Log

/-!
# Attempts

An attempt moves from `idle` to one of three terminal states. The events that move it
are the only ones its state allows; any other abandons it.
-/

namespace Storefront

/-- Where an attempt is in its sequence of stages. -/
inductive State where
  | idle
  | connecting
  | queryingOffers
  | purchasing
  | delivered
  | launched
  | abandoned
deriving DecidableEq, Repr

/-- What moves an attempt from one state to the next. -/
inductive Event where
  | begin
  | connected
  /-- A lookup turned the service's records into a catalog. -/
  | offersMapped
  /-- A purchase found its single offer. -/
  | offerSelected
  | nothingFound
  | purchaseLaunched
  | failed
deriving DecidableEq, Repr

/-- The names of the states in log lines. -/
def State.name : State -> String
  | idle => "Idle"
  | connecting => "Connecting"
  | queryingOffers => "QueryingOffers"
  | purchasing => "Purchasing"
  | delivered => "Delivered"
  | launched => "Launched"
  | abandoned => "Abandoned"

/-- The names of the events in log lines. -/
def Event.name : Event -> String
  | begin => "Begin"
  | connected => "Connected"
  | offersMapped => "OffersMapped"
  | offerSelected => "OfferSelected"
  | nothingFound => "NothingFound"
  | purchaseLaunched => "PurchaseLaunched"
  | failed => "Failed"

namespace State

/-- Whether an attempt in this state is over. -/
def isTerminal : State -> Bool
  | delivered | launched | abandoned => true
  | _ => false

/-- The state an event leads to, if it can happen in this one. -/
def on : State -> Event -> Option State
  | idle, .begin => some connecting
  | connecting, .connected => some queryingOffers
  | queryingOffers, .offersMapped => some delivered
  | queryingOffers, .offerSelected => some purchasing
  | queryingOffers, .nothingFound => some abandoned
  | purchasing, .purchaseLaunched => some launched
  | state, .failed => if state.isTerminal then none else some abandoned
  | _, _ => none

/-- The state after an event, and the log line about it. An event that cannot happen
abandons the attempt. -/
def apply (state : State) (event : Event) : State × LogLine :=
  match state.on event with
  | some next =>
      (next, ⟨.trace, state.name ++ " --" ++ event.name ++ "--> " ++ next.name⟩)
  | none =>
      (abandoned, ⟨.error, "invalid event " ++ event.name ++ " in state " ++ state.name⟩)

end State

end Storefront
