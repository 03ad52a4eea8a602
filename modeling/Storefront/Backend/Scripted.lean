import Storefront.Backend.Recorded

/-!
# Backends that follow a script

Every session has a script that fixes how long each stage takes to be answered and
what the answer is. Nothing that happens changes a script, so a scripted backend
remembers nothing.
-/

namespace Storefront

/-- When an answer comes: after so many milliseconds, or never. -/
inductive Wait where
  | after (milliseconds : Nat)
  | never
deriving DecidableEq, Repr

/-- One scripted answer. -/
structure Cue where
  wait : Wait := .after 0
  reply : Billing.Reply := {}
deriving DecidableEq, Repr

/-- The answers of one session. -/
structure Script where
  setup : Cue := {}
  query : Cue := {}
  launch : Cue := {}
deriving DecidableEq, Repr

/-- The cue of a stage. -/
def Script.cue (script : Script) : Stage -> Cue
  | .connect => script.setup
  | .queryOffers => script.query
  | .launchPurchase => script.launch

/-- When the answer to a question asked at `since` is there. -/
def Cue.due (cue : Cue) (since : Nat) : Option Nat :=
  match cue.wait with
  | .after milliseconds => some (since + milliseconds)
  | .never => none

/-- The script of a session: its own, or the last one. -/
def scriptOf (scripts : List Script) (session : Nat) : Script :=
  (scripts[session - 1]?).getD (scripts.getLast?.getD {})

/-- A backend whose sessions follow scripts. -/
def scripted (scripts : List Script) (quiet : Bool) : Backend Unit Recorded Empty where
  act scene action _ := (Recorded.ofAction quiet scene.session action, ())
  poll scene stage since _ :=
    let cue := (scriptOf scripts scene.session).cue stage
    if (cue.due since).any (· ≤ scene.now) then
      let (response, lines) := cue.reply.read
      (some response, lines.map .log, ())
    else (none, [], ())
  due session stage since _ := ((scriptOf scripts session).cue stage).due since
  receive signal _ := nomatch signal

end Storefront
