import Storefront.Service.Call

/-!
# Runs in virtual time

Time jumps from one moment at which something can go on to the next. At each moment
all calls are advanced in order, then the signals due are received in order, and then
the calls are advanced once more.
-/

namespace Storefront

/-- Calls on one service, the signals still to come, and how far time has gone. -/
structure Timeline (World Show Signal : Type) where
  calls : List Call
  /-- Signals with the moments they are due. Each waits for those before it. -/
  signals : List (Nat × Signal) := []
  service : Service World Show
  /-- Whether each call is put off until the one before it is over. -/
  sequential : Bool := false

namespace Timeline

variable {World Show Signal : Type}

/-- When a call is to start. `before` is when the call before it was over, if it is. -/
def startOf (sequential : Bool) (before : Option Nat) (call : Call) : Option Nat :=
  if sequential then before.map (· + call.delay) else some call.delay

/-- Advances calls in order; `index` is the number of the first. -/
def advanceCalls (backend : Backend World Show Signal) (settings : Settings)
    (sequential : Bool) (now : Nat) :
    (index : Nat) -> (before : Option Nat) -> List Call -> Service World Show ->
      List Call × Service World Show
  | _, _, [], service => ([], service)
  | index, before, call :: calls, service =>
      let (call, service) :=
        call.advance backend settings now index (startOf sequential before call) service
      let (calls, service) :=
        advanceCalls backend settings sequential now (index + 1) call.ended? calls service
      (call :: calls, service)

/-- Advances all calls. -/
def advance (backend : Backend World Show Signal) (settings : Settings) (now : Nat)
    (timeline : Timeline World Show Signal) : Timeline World Show Signal :=
  let (calls, service) :=
    advanceCalls backend settings timeline.sequential now 0 (some 0) timeline.calls
      timeline.service
  { timeline with calls := calls, service := service }

/-- Receives signals up to the first that is not due by now. -/
def receive (backend : Backend World Show Signal) (now : Nat)
    (timeline : Timeline World Show Signal) : Timeline World Show Signal :=
  let isDue := fun (signal : Nat × Signal) => decide (signal.1 ≤ now)
  { timeline with
    signals := timeline.signals.dropWhile isDue
    service := (timeline.signals.takeWhile isDue).foldl
      (fun service signal => service.receive backend now signal.2) timeline.service }

/-- All that happens at one moment. -/
def moment (backend : Backend World Show Signal) (settings : Settings) (now : Nat)
    (timeline : Timeline World Show Signal) : Timeline World Show Signal :=
  ((timeline.advance backend settings now).receive backend now).advance backend settings now

/-- The moments at which calls could go on by themselves. -/
def callDues (backend : Backend World Show Signal) (settings : Settings) (sequential : Bool)
    (world : World) : (before : Option Nat) -> List Call -> List Nat
  | _, [] => []
  | before, call :: calls =>
      call.dues backend settings (startOf sequential before call) world ++
        callDues backend settings sequential world call.ended? calls

/-- The next moment at which something can go on. -/
def next? (backend : Backend World Show Signal) (settings : Settings)
    (timeline : Timeline World Show Signal) : Option Nat :=
  (callDues backend settings timeline.sequential timeline.service.world (some 0)
      timeline.calls ++ (timeline.signals.head?.map (·.1)).toList).min?

/-- Runs through at most `fuel` moments. -/
def runFor (backend : Backend World Show Signal) (settings : Settings) :
    Nat -> Timeline World Show Signal -> Timeline World Show Signal
  | 0, timeline => timeline
  | fuel + 1, timeline =>
      match timeline.next? backend settings with
      | none => timeline
      | some now => runFor backend settings fuel (timeline.moment backend settings now)

/-- How many moments a run can have: a call starts, is answered or expires in each of
three stages, and may be given up on; and each signal comes once. -/
def moments (timeline : Timeline World Show Signal) : Nat :=
  5 * timeline.calls.length + timeline.signals.length

/-- Runs until nothing can go on anymore. -/
def run (backend : Backend World Show Signal) (settings : Settings)
    (timeline : Timeline World Show Signal) : Timeline World Show Signal :=
  timeline.runFor backend settings timeline.moments

end Timeline

end Storefront
