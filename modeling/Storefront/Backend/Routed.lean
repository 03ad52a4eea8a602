import Storefront.Backend.Recorded

/-!
# Backends that call back

Every session asks under its own number as handle and waits at the switchboard, which
callbacks from outside reach.
-/

namespace Storefront

/-- What reaches a switchboard from outside. -/
inductive Signal where
  | callback (handle : Handle) (callback : Callback)
  | forget (handle : Handle)
deriving DecidableEq, Repr

/-- The kind of answer a question waits for. -/
def Question.kind : Question -> Kind
  | .setup => .setup
  | .offers .. => .skuDetails
  | .launch .. => .launch

/-- The answer a session finds at the switchboard. A request that was closed without an
answer is answered by `closed`. -/
def Switchboard.answer (board : Switchboard) (session : Nat) (closed : Billing.Response) :
    Option Billing.Response × Switchboard :=
  match board.latest? session with
  | none => (none, board)
  | some slot =>
      let (collected, board) := board.collect slot
      match collected with
      | .response _ response => (some response, board)
      | .nothingYet => (none, board)
      | .closed | .dropped => (some closed, board)

/-- What a session is told when its request was closed without an answer. -/
def channelClosed : Billing.Response :=
  ⟨⟨.error, "channel closed"⟩, none⟩

/-- A backend whose answers arrive as callbacks. -/
def routed (quiet : Bool) : Backend Switchboard Recorded Signal where
  act scene action board :=
    let board :=
      match action with
      | .ask question => board.expect scene.session question.kind
      | .endSession => board.forget scene.session
      | _ => board
    (Recorded.ofAction quiet scene.session action, board)
  poll scene _ _ board :=
    let (answer, board) := board.answer scene.session channelClosed
    (answer, [], board)
  due _ _ _ _ := none
  receive signal board :=
    match signal with
    | .callback handle callback =>
        let (routed, lines, board) := board.route handle callback
        (lines.map Recorded.log ++ [.calledBack handle callback routed], board)
    | .forget handle => ([.forgot handle], board.forget handle)

end Storefront
