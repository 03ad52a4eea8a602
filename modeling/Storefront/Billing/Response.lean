import Storefront.Billing.Result
import Storefront.Billing.Sku
import Storefront.Log

/-!
# Answers with records

The answer to a query carries the records found, or no list at all, which differs
from an empty one. An unreadable list fails the whole answer.
-/

namespace Storefront.Billing

/-- An answer to any request. Only a query is ever answered with records. -/
structure Response where
  result : Result := {}
  details : Option (List Sku) := none
deriving DecidableEq, Repr

/-- An answer whose records were not read yet. -/
structure Reply where
  result : Result := {}
  json : Option String := none
deriving DecidableEq, Repr

/-- The answer an unreadable list of records is turned into. -/
def Response.malformed (refusal : Json.Refusal) : Response :=
  ⟨⟨.error, "malformed sku details: " ++ refusal.message⟩, none⟩

/-- Reads the records of an answer. An unreadable list is logged and makes the answer
an error, whatever its result was. -/
def Reply.read (reply : Reply) : Response × List LogLine :=
  match reply.json with
  | none => (⟨reply.result, none⟩, [])
  | some text =>
      match Sku.decodeList text with
      | .ok details => (⟨reply.result, some details⟩, [])
      | .error refusal =>
          (.malformed refusal,
            [⟨.error, "malformed sku details from the billing backend: " ++ refusal.message⟩])

end Storefront.Billing
