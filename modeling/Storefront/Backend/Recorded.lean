import Storefront.Service.Backend
import Storefront.Switchboard

/-!
# What a recording backend shows

A recording backend does nothing with the actions of a call but show them, so that a
run can be read off its journal.
-/

namespace Storefront

/-- What a recording backend shows. -/
inductive Recorded where
  | newSession (session : Nat)
  | startConnection (session : Nat)
  | querySkuDetails (session : Nat) (skus : List String) (skuType : Billing.SkuType)
  | launchBillingFlow (session : Nat) (sku : Billing.Sku) (presentation : String)
  | endConnection (session : Nat)
  | delivered (catalog : String)
  | reported (message : String)
  | log (line : LogLine)
  /-- A callback arrived and was routed. -/
  | calledBack (handle : Handle) (callback : Callback) (routed : Routed)
  | forgot (handle : Handle)
deriving DecidableEq, Repr

/-- What is shown of a question. -/
def Recorded.ofQuestion (session : Nat) : Question -> Recorded
  | .setup => .startConnection session
  | .offers skus skuType => .querySkuDetails session skus skuType
  | .launch sku presentation => .launchBillingFlow session sku presentation

/-- What is shown of an action. A receiver that is `quiet` about failures shows none. -/
def Recorded.ofAction (quiet : Bool) (session : Nat) : Action -> List Recorded
  | .openSession => [.newSession session]
  | .ask question => [.ofQuestion session question]
  | .endSession => [.endConnection session]
  | .deliver catalog => [.delivered catalog]
  | .report failure => if quiet then [] else [.reported failure.message]
  | _ => []

end Storefront
