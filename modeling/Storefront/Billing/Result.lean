/-!
# What a billing service answers

Every answer carries a response code and a debug message. Codes without a name are
kept as the number they came as.
-/

namespace Storefront.Billing

/-- Whether an answer lets an attempt go on, and if not, whose fault that is. -/
inductive Disposition where
  | success
  /-- The service could not be reached or refused the request. -/
  | transient
  /-- A code that makes no sense for a lookup or a fresh purchase. -/
  | unexpected
deriving DecidableEq, Repr

/-- The response codes of the billing service. -/
inductive Code where
  | serviceTimeout
  | featureNotSupported
  | serviceDisconnected
  | ok
  | userCanceled
  | serviceUnavailable
  | billingUnavailable
  | itemUnavailable
  | developerError
  | error
  | itemAlreadyOwned
  | itemNotOwned
  | unknown (number : Int)
deriving DecidableEq, Repr

namespace Code

/-- The number a code is sent as. -/
def number : Code -> Int
  | serviceTimeout => -3
  | featureNotSupported => -2
  | serviceDisconnected => -1
  | ok => 0
  | userCanceled => 1
  | serviceUnavailable => 2
  | billingUnavailable => 3
  | itemUnavailable => 4
  | developerError => 5
  | error => 6
  | itemAlreadyOwned => 7
  | itemNotOwned => 8
  | unknown number => number

/-- The code a number stands for. -/
def ofNumber (number : Int) : Code :=
  match number with
  | -3 => serviceTimeout
  | -2 => featureNotSupported
  | -1 => serviceDisconnected
  | 0 => ok
  | 1 => userCanceled
  | 2 => serviceUnavailable
  | 3 => billingUnavailable
  | 4 => itemUnavailable
  | 5 => developerError
  | 6 => error
  | 7 => itemAlreadyOwned
  | 8 => itemNotOwned
  | other => unknown other

/-- The name of a code. -/
def display : Code -> String
  | serviceTimeout => "SERVICE_TIMEOUT"
  | featureNotSupported => "FEATURE_NOT_SUPPORTED"
  | serviceDisconnected => "SERVICE_DISCONNECTED"
  | ok => "OK"
  | userCanceled => "USER_CANCELED"
  | serviceUnavailable => "SERVICE_UNAVAILABLE"
  | billingUnavailable => "BILLING_UNAVAILABLE"
  | itemUnavailable => "ITEM_UNAVAILABLE"
  | developerError => "DEVELOPER_ERROR"
  | error => "ERROR"
  | itemAlreadyOwned => "ITEM_ALREADY_OWNED"
  | itemNotOwned => "ITEM_NOT_OWNED"
  | unknown number => "UNKNOWN(" ++ toString number ++ ")"

/-- How the lookup and purchase flows take a code. -/
def disposition : Code -> Disposition
  | ok => .success
  | userCanceled | featureNotSupported | itemAlreadyOwned | itemNotOwned => .unexpected
  | _ => .transient

end Code

/-- A response code with the service's debug message. -/
structure Result where
  code : Code := .ok
  message : String := ""
deriving DecidableEq, Repr

namespace Result

def disposition (result : Result) : Disposition :=
  result.code.disposition

/-- How a result is shown: name, number and, unless it is empty, message. -/
def display (result : Result) : String :=
  result.code.display ++ " (" ++ toString result.code.number ++ ")" ++
    (if result.message.isEmpty then "" else " " ++ result.message)

end Result

end Storefront.Billing
