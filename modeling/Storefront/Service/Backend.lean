import Storefront.Turn

/-!
# The world behind the calls

A `Backend` stands for the billing service together with whoever receives the offers.
Its world changes when a call acts, when a waiting call looks for its answer, and when
something reaches it from outside. What it shows of itself are its events.
-/

namespace Storefront

/-- Who acts, and when: the moment, the number of the call and that of its session. -/
structure Scene where
  now : Nat
  call : Nat
  session : Nat
deriving DecidableEq, Repr

/-- A billing service and a receiver of offers. `World` is what they remember, `Show`
what they show and `Signal` what can reach them from outside. -/
structure Backend (World Show Signal : Type) where
  /-- What an action of a call does to the world. -/
  act : Scene -> Action -> World -> List Show × World
  /-- The answer to what a session asked at `since`, if there is one by now. -/
  poll : Scene -> Stage -> (since : Nat) -> World -> Option Billing.Response × List Show × World
  /-- When that answer will be there, as far as it is already known. -/
  due : (session : Nat) -> Stage -> (since : Nat) -> World -> Option Nat
  /-- What a signal from outside does to the world. -/
  receive : Signal -> World -> List Show × World

/-- What a line of the journal is about. -/
inductive Happening (Show : Type) where
  /-- A call acted. -/
  | did (action : Action)
  /-- The world behind the calls showed something. -/
  | showed (event : Show)
deriving DecidableEq, Repr

/-- One line of the journal, with the scene it belongs to unless it came from outside. -/
structure Entry (Show : Type) where
  now : Nat
  scene : Option Scene
  happening : Happening Show
deriving DecidableEq, Repr

/-- What all calls share. -/
structure Service (World Show : Type) where
  /-- Whether a purchase runs. -/
  busy : Bool := false
  /-- How many sessions were opened. The count is assumed to stay below `2 ^ 63`: it never wraps,
  and no two sessions share a handle. -/
  opened : Nat := 0
  world : World
  journal : List (Entry Show) := []
deriving Repr

namespace Service

variable {World Show Signal : Type}

/-- Journals what a call's world showed, and puts the new world in place. -/
def note (service : Service World Show) (scene : Scene) (shown : List Show) (world : World) :
    Service World Show :=
  { service with
    world := world
    journal := service.journal ++ shown.map fun event => ⟨scene.now, some scene, .showed event⟩ }

/-- Lets one action happen. The flag and the count of sessions are the service's own;
all else is the backend's. -/
def perform (backend : Backend World Show Signal) (scene : Scene)
    (service : Service World Show) (action : Action) : Service World Show :=
  let (shown, world) := backend.act scene action service.world
  let service : Service World Show :=
    { service with
      busy :=
        match action with
        | .raiseFlag => true
        | .lowerFlag => false
        | _ => service.busy
      opened :=
        match action with
        | .openSession => service.opened + 1
        | _ => service.opened
      journal := service.journal ++ [⟨scene.now, some scene, .did action⟩] }
  service.note scene shown world

/-- Lets actions happen one after the other. -/
def performAll (backend : Backend World Show Signal) (scene : Scene)
    (service : Service World Show) (actions : List Action) : Service World Show :=
  actions.foldl (perform backend scene) service

/-- Looks for the answer a session waits for. -/
def poll (backend : Backend World Show Signal) (scene : Scene) (stage : Stage) (since : Nat)
    (service : Service World Show) : Option Billing.Response × Service World Show :=
  let (answer, shown, world) := backend.poll scene stage since service.world
  (answer, service.note scene shown world)

/-- Lets a signal from outside in. -/
def receive (backend : Backend World Show Signal) (now : Nat) (service : Service World Show)
    (signal : Signal) : Service World Show :=
  let (shown, world) := backend.receive signal service.world
  { service with
    world := world
    journal := service.journal ++ shown.map fun event => ⟨now, none, .showed event⟩ }

end Service

end Storefront
