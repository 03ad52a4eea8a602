import Storefront.Service.Backend

/-!
# Calls in time

A call takes a turn when it starts, when the answer it waits for is there, and when its
stage has taken too long or the caller gives up. An answer that is there by the deadline
counts, and a caller gives up only on a call that has gone as far as it can.
-/

namespace Storefront

/-- How far a clock can count. -/
def clockEnd : Nat := Nat.pow 2 64 - 3

/-- The longest time, in seconds, that can be added to a moment. -/
def longestTimeout : Nat := Nat.pow 2 63 - 2

/-- The first whole millisecond at which a stage that began at `since` has timed out. A
timeout that cannot be added to a moment is never over. That is an assumption on the clock,
which may as well take such a timeout for one of many years. -/
def deadline (since : Nat) (timeout : Duration) : Option Nat :=
  if timeout.seconds ≤ longestTimeout then
    some (min clockEnd (since + timeout.wholeMilliseconds))
  else none

/-- Whether a stage that began at `since` has timed out by now. -/
def isLate (since now : Nat) (timeout : Duration) : Bool :=
  (deadline since timeout).any (· ≤ now)

/-- Where a call is. -/
inductive Status where
  | notStarted
  /-- Waiting for an answer since a moment, in a call that began at another. -/
  | waiting (attempt : Attempt) (awaited : Awaited) (session since began : Nat)
  | finished (ending : Ending) (moment : Nat)
deriving DecidableEq, Repr

/-- A call on the service. -/
structure Call where
  order : Order
  /-- How long the call is put off. -/
  delay : Nat := 0
  /-- How long after its start the caller gives up. -/
  patience : Option Nat := none
  status : Status := .notStarted
deriving DecidableEq, Repr

namespace Call

variable {World Show Signal : Type}

/-- Whether a call is over. -/
def isOver (call : Call) : Bool :=
  match call.status with
  | .finished .. => true
  | _ => false

/-- When a call ended, if it has. -/
def ended? (call : Call) : Option Nat :=
  match call.status with
  | .finished _ moment => some moment
  | _ => none

/-- Takes a turn. -/
def take (backend : Backend World Show Signal) (scene : Scene) (began : Nat) (turn : Turn)
    (call : Call) (service : Service World Show) : Call × Service World Show :=
  let status :=
    match turn.rest with
    | .waiting attempt awaited => .waiting attempt awaited scene.session scene.now began
    | .finished ending => .finished ending scene.now
  ({ call with status := status }, service.performAll backend scene turn.actions)

/-- Goes as far as answers and deadlines let it. Three stages bound the number of turns. -/
def settle (backend : Backend World Show Signal) (settings : Settings) (now index : Nat) :
    Nat -> Call -> Service World Show -> Call × Service World Show
  | 0, call, service => (call, service)
  | fuel + 1, call, service =>
      match call.status with
      | .waiting attempt awaited session since began =>
          let scene : Scene := ⟨now, index, session⟩
          let (answer, service) := service.poll backend scene awaited.stage since
          match answer with
          | some response =>
              let (call, service) :=
                call.take backend scene began (attempt.resume settings awaited response) service
              settle backend settings now index fuel call service
          | none =>
              if isLate since now settings.stageTimeout then
                call.take backend scene began (attempt.expire settings awaited) service
              else (call, service)
      | _ => (call, service)

/-- Starts a call whose time has come. -/
def begin (backend : Backend World Show Signal) (now index : Nat) (start : Option Nat)
    (call : Call) (service : Service World Show) : Call × Service World Show :=
  match call.status, start with
  | .notStarted, some moment =>
      if moment ≤ now then
        let scene : Scene := ⟨now, index, service.opened + 1⟩
        call.take backend scene now (call.order.start service.busy) service
      else (call, service)
  | _, _ => (call, service)

/-- Gives up on a call whose caller has lost patience. -/
def giveUp (backend : Backend World Show Signal) (now index : Nat)
    (call : Call) (service : Service World Show) : Call × Service World Show :=
  match call.status, call.patience with
  | .waiting attempt _ session _ began, some patience =>
      if began + patience ≤ now then
        call.take backend ⟨now, index, session⟩ began attempt.cancel service
      else (call, service)
  | _, _ => (call, service)

/-- Advances a call as far as it can go by now. -/
def advance (backend : Backend World Show Signal) (settings : Settings) (now index : Nat)
    (start : Option Nat) (call : Call) (service : Service World Show) :
    Call × Service World Show :=
  let (call, service) := call.begin backend now index start service
  let (call, service) := settle backend settings now index 3 call service
  call.giveUp backend now index service

/-- The moments at which a call could go on by itself. -/
def dues (backend : Backend World Show Signal) (settings : Settings) (start : Option Nat)
    (world : World) (call : Call) : List Nat :=
  match call.status with
  | .notStarted => start.toList
  | .waiting _ awaited session since began =>
      (deadline since settings.stageTimeout).toList ++
        (backend.due session awaited.stage since world).toList ++
        (call.patience.map (began + ·)).toList
  | .finished .. => []

end Call

end Storefront
