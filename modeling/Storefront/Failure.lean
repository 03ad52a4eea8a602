import Storefront.Billing.Result
import Storefront.Catalog.Canonical
import Storefront.Duration

/-!
# How an attempt can fail
-/

namespace Storefront

/-- The stages of an attempt that wait for the billing service. -/
inductive Stage where
  | connect
  | queryOffers
  | launchPurchase
deriving DecidableEq, Repr

/-- What a stage is called in messages. -/
def Stage.display : Stage -> String
  | connect => "billing setup"
  | queryOffers => "sku details query"
  | launchPurchase => "billing flow launch"

/-- Everything that can end an attempt without an outcome. -/
inductive Failure where
  /-- The catalog was refused before the service was touched. -/
  | contract (violation : Catalog.Violation)
  | unavailable (stage : Stage) (result : Billing.Result)
  | unexpected (stage : Stage) (result : Billing.Result)
  | timedOut (stage : Stage) (timeout : Duration)
  | unexpectedOfferCount (expected found : Nat)
  | purchaseInProgress
  /-- A priced catalog could not be turned into or made from a text. -/
  | serialization (refusal : Json.Refusal)
deriving DecidableEq, Repr

namespace Failure

/-- The wording of each failure. -/
def message : Failure -> String
  | contract violation => "contract violation: " ++ violation.message
  | unavailable stage result =>
      "billing backend unavailable during " ++ stage.display ++ ": " ++ result.display
  | unexpected stage result =>
      "unexpected billing response during " ++ stage.display ++ ": " ++ result.display
  | timedOut stage timeout =>
      "billing backend did not answer during " ++ stage.display ++ " within " ++ timeout.display
  | unexpectedOfferCount expected found =>
      "expected " ++ toString expected ++ " offer(s) for the purchase but the backend returned " ++
        toString found
  | purchaseInProgress => "a purchase is already in progress"
  | serialization refusal =>
      "failed to serialize the platform catalog: " ++ refusal.message

/-- Whether the same call may succeed if it is made again later. -/
def isRecoverable : Failure -> Bool
  | contract _ | serialization _ => false
  | _ => true

end Failure

end Storefront
