import Storefront.Backend.Scripted

/-!
# A guarded session

A guard owns a session and ends its connection when it is dropped, whatever was done
through it before.
-/

namespace Storefront

/-- What can be done through a guard. -/
inductive GuardedStep where
  | identify
  | start
  /-- Asks for a list of SKUs. -/
  | query (skus : List String) (skuType : Billing.SkuType)
  | finish
deriving DecidableEq, Repr

/-- What a guarded session shows. -/
inductive GuardedEvent where
  | recorded (event : Recorded)
  | identified (session : Nat)
  | result (result : Billing.Result)
  | response (response : Billing.Response)
  | dropped
deriving DecidableEq, Repr

/-- A guarded session in virtual time. -/
structure Guarded where
  now : Nat := 0
  journal : List (Nat × GuardedEvent) := []
deriving DecidableEq, Repr

namespace Guarded

/-- Journals events at the present moment. -/
def note (guarded : Guarded) (events : List GuardedEvent) : Guarded :=
  { guarded with journal := guarded.journal ++ events.map (guarded.now, ·) }

/-- Asks and waits for the answer; without one, nothing happens anymore. -/
def ask (script : Script) (session : Nat) (question : Question) (stage : Stage)
    (guarded : Guarded) : Option Billing.Response × Guarded :=
  let guarded := guarded.note [.recorded (.ofQuestion session question)]
  let cue := script.cue stage
  match cue.due guarded.now with
  | none => (none, guarded)
  | some moment =>
      let (response, lines) := cue.reply.read
      (some response,
        { guarded with now := moment }.note (lines.map (.recorded ∘ .log)))

/-- Does one thing through the guard. -/
def step (script : Script) (session : Nat) (guarded : Guarded) (step : GuardedStep) : Guarded :=
  match step with
  | .identify => guarded.note [.identified session]
  | .start =>
      let (answer, guarded) := guarded.ask script session .setup .connect
      guarded.note (answer.toList.map (.result ·.result))
  | .query skus skuType =>
      let (answer, guarded) := guarded.ask script session (.offers skus skuType) .queryOffers
      guarded.note (answer.toList.map .response)
  | .finish => guarded.note [.recorded (.endConnection session)]

/-- Opens a session, does things through its guard, and drops the guard. -/
def run (script : Script) (session : Nat) (steps : List GuardedStep) : Guarded :=
  let opened : Guarded := note {} [.recorded (.newSession session)]
  (steps.foldl (step script session) opened).note
    [.recorded (.log ⟨.debug, "ending billing connection"⟩),
      .recorded (.endConnection session), .dropped]

end Guarded

end Storefront
