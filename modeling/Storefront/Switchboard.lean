import Storefront.Billing.Response

/-!
# Callbacks and the requests they answer

A session asks under its handle and waits; the service calls back later, naming the
handle alone. The switchboard keeps every request ever made on it, in order. A request
is open until a callback answers it, it is forgotten, or its handle asks again, so at
most one request of a handle is open.
-/

namespace Storefront

/-- Names one session to the service. Handles count the sessions, and are assumed not to run out:
fewer than `2 ^ 63` sessions are ever opened, so sixty-four signed bits name each of them. -/
abbrev Handle := Int

/-- The answers a session can wait for. -/
inductive Kind where
  | setup
  | skuDetails
  | launch
deriving DecidableEq, Repr

/-- What the one who asked finds. -/
inductive Mailbox where
  | empty
  | holding (response : Billing.Response)
  | taken
  | dropped
deriving DecidableEq, Repr

/-- A request. Callbacks reach it only while it is open. -/
structure Request where
  handle : Handle
  kind : Kind
  isOpen : Bool
  mailbox : Mailbox
deriving DecidableEq, Repr

/-- What a look into a mailbox gives. -/
inductive Collected where
  | response (kind : Kind) (response : Billing.Response)
  | nothingYet
  /-- Nothing is there and nothing will come. -/
  | closed
  | dropped
deriving DecidableEq, Repr

namespace Request

/-- Closes a request, leaving what its mailbox holds. -/
def close (request : Request) : Request :=
  { request with isOpen := false }

/-- Answers a request. Nobody receives the answer if the mailbox was dropped. -/
def answer (request : Request) (response : Billing.Response) : Request :=
  { request with
    isOpen := false
    mailbox := if request.mailbox = .empty then .holding response else request.mailbox }

/-- Looks into the mailbox; an answer is taken out. -/
def collect (request : Request) : Request × Collected :=
  match request.mailbox with
  | .holding response => ({ request with mailbox := .taken }, .response request.kind response)
  | .empty => (request, if request.isOpen then .nothingYet else .closed)
  | .taken => (request, .closed)
  | .dropped => (request, .dropped)

end Request

/-- What the service calls back with. -/
inductive Callback where
  | setupFinished (result : Billing.Result)
  | skuDetails (reply : Billing.Reply)
  | launched (result : Billing.Result)
  | disconnected
deriving DecidableEq, Repr

/-- What became of a callback. -/
inductive Routed where
  | answered
  /-- The session waits for a different answer, and keeps waiting. -/
  | mismatched
  /-- Nobody waits on this handle anymore. -/
  | finished
deriving DecidableEq, Repr

namespace Callback

/-- The listener a callback arrives at. -/
def listener : Callback -> String
  | setupFinished _ => "onBillingSetupFinished"
  | skuDetails _ => "onSkuDetailsResponse"
  | launched _ => "onBillingFlowLaunched"
  | disconnected => "onBillingServiceDisconnected"

/-- What a waiting session is told when the service drops the connection. -/
def connectionLost : Billing.Response :=
  ⟨⟨.serviceDisconnected, "billing service disconnected"⟩, none⟩

/-- The answer a callback carries, and what is logged while it is read. -/
def response : Callback -> Billing.Response × List LogLine
  | setupFinished result => (⟨result, none⟩, [])
  | skuDetails reply => reply.read
  | launched result => (⟨result, none⟩, [])
  | disconnected => (connectionLost, [])

/-- Whether a callback answers requests of a kind. A lost connection answers all. -/
def answers : Callback -> Kind -> Bool
  | setupFinished _, .setup => true
  | skuDetails _, .skuDetails => true
  | launched _, .launch => true
  | disconnected, _ => true
  | _, _ => false

end Callback

/-- All requests, in the order they were made. -/
structure Switchboard where
  requests : List Request := []
deriving DecidableEq, Repr

namespace Switchboard

/-- The request that waits under a handle. -/
def waiting? (board : Switchboard) (handle : Handle) : Option Request :=
  board.requests.find? fun request => request.handle = handle && request.isOpen

/-- Changes whatever waits under a handle. -/
def modifyWaiting (board : Switchboard) (handle : Handle) (change : Request -> Request) :
    Switchboard :=
  ⟨board.requests.map fun request =>
    if request.handle = handle && request.isOpen then change request else request⟩

/-- Closes whatever waits under a handle. -/
def forget (board : Switchboard) (handle : Handle) : Switchboard :=
  board.modifyWaiting handle Request.close

/-- Makes a request; a request that was waiting under the handle is forgotten. -/
def expect (board : Switchboard) (handle : Handle) (kind : Kind) : Switchboard :=
  ⟨(board.forget handle).requests ++ [⟨handle, kind, true, .empty⟩]⟩

/-- Answers whatever waits under a handle. -/
def settle (board : Switchboard) (handle : Handle) (response : Billing.Response) :
    Switchboard :=
  board.modifyWaiting handle (·.answer response)

/-- Routes a callback to the request waiting under its handle, if it answers it. -/
def route (board : Switchboard) (handle : Handle) (callback : Callback) :
    Routed × List LogLine × Switchboard :=
  let (response, lines) := callback.response
  match board.waiting? handle with
  | none =>
      (.finished,
        lines ++ [⟨.debug, callback.listener ++ " for finished session " ++ toString handle⟩],
        board)
  | some request =>
      if callback.answers request.kind then
        (.answered, lines, board.settle handle response)
      else
        (.mismatched,
          lines ++ [⟨.error, callback.listener ++
            " does not answer the request pending on session " ++ toString handle⟩],
          board)

/-- Looks into the mailbox of the request made as number `slot`. -/
def collect (board : Switchboard) (slot : Nat) : Collected × Switchboard :=
  match board.requests[slot]? with
  | some request =>
      let (request, collected) := request.collect
      (collected, ⟨board.requests.set slot request⟩)
  | none => (.closed, board)

/-- Drops the mailbox of the request made as number `slot`. -/
def drop (board : Switchboard) (slot : Nat) : Switchboard :=
  ⟨board.requests.modify slot fun request => { request with mailbox := .dropped }⟩

/-- The number of the last request made under a handle. -/
def latest? (board : Switchboard) (handle : Handle) : Option Nat :=
  (List.range board.requests.length).reverse.find? fun slot =>
    board.requests[slot]?.any (·.handle = handle)

end Switchboard

end Storefront
