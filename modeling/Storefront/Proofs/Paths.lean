import Storefront.Backend.Scripted
import Storefront.Proofs.Life
import Storefront.Proofs.Unfolding

/-!
# The paths of attempts

An attempt goes from `idle` along a path of its state machine: every event it applies is one that
its state allows, and none comes after a terminal state. `Recounts` reads the path off the
actions of the attempt, whose log lines at the trace level are those of the path and no others.
`Timeline.attempts_follow` says so of every attempt in every interleaving, and in which state each
kind of ending leaves it.
-/

namespace Storefront

variable {World Show Signal : Type}

namespace State

/-- Events one after the other, each in a state that allows it and is not yet terminal. -/
inductive Path : State → List Event → State → Prop where
  | nil {state} : Path state [] state
  | cons {state event next events last} (live : state.isTerminal = false)
      (allowed : state.on event = some next) (further : Path next events last) :
      Path state (event :: events) last

/-- The log lines about events that are applied one after the other. -/
def trace : State → List Event → List LogLine
  | _, [] => []
  | state, event :: events => (state.apply event).2 :: (state.apply event).1.trace events

theorem apply_allowed {state next : State} {event : Event} (allowed : state.on event = some next) :
    (state.apply event).1 = next ∧ (state.apply event).2.level = .trace := by
  simp [apply, allowed]

theorem apply_invalid {state : State} {event : Event} (invalid : state.on event = none) :
    (state.apply event).2 =
      ⟨.error, "invalid event " ++ event.name ++ " in state " ++ state.name⟩ := by
  simp [apply, invalid]

end State

/-- The line of an action at the trace level, if it is one. -/
def Action.traced? : Action → Option LogLine
  | .log line => if line.level = .trace then some line else none
  | _ => none

/-- The trace log of some actions. -/
def traceOf (actions : List Action) : List LogLine :=
  actions.filterMap Action.traced?

/-- An action that is not about an event, neither one that happened nor one that could not. -/
def Action.IsAside (action : Action) : Prop :=
  action.traced? = none ∧ ∀ state event, action ≠ .log (State.apply state event).2

/-- Actions that lead from one state to another, by the events they are about. -/
inductive Recounts : State → List Action → List Event → State → Prop where
  | nil {state} : Recounts state [] [] state
  | aside {state action actions events last} (unrelated : action.IsAside)
      (further : Recounts state actions events last) :
      Recounts state (action :: actions) events last
  | event {state event next actions events last} (live : state.isTerminal = false)
      (allowed : state.on event = some next) (further : Recounts next actions events last) :
      Recounts state (.log (state.apply event).2 :: actions) (event :: events) last

namespace Recounts

variable {start middle last : State} {actions : List Action} {events : List Event}

theorem append {more : List Action} {others : List Event}
    (first : Recounts start actions events middle) (second : Recounts middle more others last) :
    Recounts start (actions ++ more) (events ++ others) last := by
  induction first with
  | nil => exact second
  | aside unrelated further inductionHypothesis =>
      exact .aside unrelated (inductionHypothesis second)
  | event live allowed further inductionHypothesis =>
      exact .event live allowed (inductionHypothesis second)

theorem asides (state : State) (unrelated : ∀ action ∈ actions, action.IsAside) :
    Recounts state actions [] state := by
  induction actions with
  | nil => exact .nil
  | cons action actions inductionHypothesis =>
      exact .aside (unrelated action (.head _))
        (inductionHypothesis fun other among => unrelated other (.tail _ among))

/-- The events that are recounted form a path. -/
theorem path (recounts : Recounts start actions events last) : State.Path start events last := by
  induction recounts with
  | nil => exact .nil
  | aside unrelated further inductionHypothesis => exact inductionHypothesis
  | event live allowed further inductionHypothesis => exact .cons live allowed inductionHypothesis

/-- The trace log is that of the path. -/
theorem traceOf_eq (recounts : Recounts start actions events last) :
    traceOf actions = start.trace events := by
  induction recounts with
  | nil => rfl
  | aside unrelated further inductionHypothesis =>
      rw [← inductionHypothesis, traceOf, List.filterMap_cons_none unrelated.1]
      rfl
  | @event state event next _ _ _ live allowed further inductionHypothesis =>
      obtain ⟨same, level⟩ := State.apply_allowed allowed
      have traced : (Action.log (state.apply event).2).traced? = some (state.apply event).2 := by
        simp [Action.traced?, level]
      rw [State.trace, same, ← inductionHypothesis, traceOf, List.filterMap_cons_some traced]
      rfl

/-- No event is recounted that could not happen. -/
theorem valid (recounts : Recounts start actions events last) {state : State} {event : Event}
    (invalid : state.on event = none) : .log (state.apply event).2 ∉ actions := by
  induction recounts with
  | nil => simp
  | aside unrelated further inductionHypothesis =>
      simpa [inductionHypothesis] using (unrelated.2 state event).symm
  | event live allowed further inductionHypothesis =>
      have level := (State.apply_allowed allowed).2
      rw [List.mem_cons, not_or]
      refine ⟨fun same => ?_, inductionHypothesis⟩
      rw [← Action.log.inj same, State.apply_invalid invalid] at level
      simp at level

end Recounts

/-! ## Actions that are not about events -/

namespace Action

theorem isAside_of_level {line : LogLine} (noTrace : line.level ≠ .trace)
    (noError : line.level ≠ .error) : (Action.log line).IsAside := by
  refine ⟨by simp [traced?, noTrace], fun state event same => ?_⟩
  rw [Action.log.inj same, State.apply] at noTrace noError
  split at noTrace <;> simp_all

/-- An error is told from an invalid event by its first letter. -/
theorem isAside_of_head {text : String} (other : text.toList.head? ≠ some 'i') :
    (Action.say .error text).IsAside := by
  refine ⟨by simp [say, traced?], fun state event same => ?_⟩
  have line := Action.log.inj same
  cases on : state.on event with
  | some next =>
      have level := (State.apply_allowed on).2
      rw [← line] at level
      simp at level
  | none =>
      rw [State.apply_invalid on] at line
      have text := congrArg LogLine.text line
      simp only at text
      rw [text] at other
      simp at other

end Action

/-- Whatever is no log line is not about an event. -/
theorem Action.isAside_of_unsaid {action : Action} (unsaid : action.isRemark = false) :
    action.IsAside := by
  cases action with
  | log line => simp at unsaid
  | _ => exact ⟨rfl, by simp⟩

namespace Recounts

variable {state last : State} {actions : List Action} {events : List Event}

theorem unsaid {action : Action} (silent : action.isRemark = false)
    (further : Recounts state actions events last) :
    Recounts state (action :: actions) events last :=
  .aside (Action.isAside_of_unsaid silent) further

theorem said {level : Level} {text : String} (noTrace : level ≠ .trace) (noError : level ≠ .error)
    (further : Recounts state actions events last) :
    Recounts state (.say level text :: actions) events last :=
  .aside (Action.isAside_of_level noTrace noError) further

end Recounts

theorem Stage.display_head (stage : Stage) (rest : String) :
    (stage.display ++ rest).toList.head? ≠ some 'i' := by
  cases stage <;> simp [display]

theorem check_isAside {stage : Stage} {result : Billing.Result} {line : LogLine}
    {failure : Failure} (refused : check stage result = .error (line, failure)) :
    (Action.log line).IsAside := by
  unfold check at refused
  split at refused
  · simp at refused
  · cases refused
    rw [String.append_assoc]
    exact Action.isAside_of_head (stage.display_head _)
  · cases refused
    rw [String.append_assoc]
    exact Action.isAside_of_head (stage.display_head _)

theorem Purpose.yield_isAside (purpose : Purpose) : ∀ action ∈ purpose.yield, action.IsAside := by
  intro action among
  obtain ⟨_, rfl⟩ := Purpose.mem_yield.mp among
  exact Action.isAside_of_unsaid rfl

/-! ## What turns recount -/

/-- The state an attempt is in while it waits. -/
def Awaited.state : Awaited → State
  | .setup => .connecting
  | .offers => .queryingOffers
  | .launch _ => .purchasing

theorem Awaited.state_live (awaited : Awaited) : awaited.state.isTerminal = false := by
  cases awaited <;> rfl

/-- The last state of an attempt, by how it ended. -/
structure Ending.Leaves (ending : Ending) (state : State) : Prop where
  terminal : state.isTerminal = true ↔ ending ≠ .cancelled
  delivered : state = .delivered ↔ ∃ offers, ending = .succeeded (.delivered offers)
  launched : state = .launched ↔ ∃ offer, ending = .succeeded (.purchaseLaunched offer)
  abandoned : state = .abandoned ↔
    ending = .succeeded .notFound ∨ ∃ failure, ending = .failed failure

/-- The line that an attempt ends with, in a state. -/
def State.farewell (state : State) : Action :=
  .say .debug ("reconciliation finished in state " ++ state.name)

/-- What the actions of an attempt recount up to a status of its call. -/
def Status.Recounts (start : State) (actions : List Action) : Status → Prop
  | .notStarted => False
  | .waiting attempt awaited _ _ _ =>
      attempt.state = awaited.state ∧
        ∃ events, Storefront.Recounts start actions events attempt.state
  | .finished ending _ =>
      ∃ events state, Storefront.Recounts start actions events state ∧ ending.Leaves state ∧
        (ending ≠ .cancelled → state.farewell ∈ actions)

/-- What a turn of an attempt recounts, wherever it leaves its call. -/
def Turn.Recounts (start : State) (turn : Turn) : Prop :=
  ∀ scene began, (turn.rest.status scene began).Recounts start turn.actions

theorem Ending.leaves_delivered (offers : Nat) :
    (Ending.succeeded (.delivered offers)).Leaves .delivered := by
  constructor <;> simp [State.isTerminal]

theorem Ending.leaves_launched (offer : Catalog.Offer) :
    (Ending.succeeded (.purchaseLaunched offer)).Leaves .launched := by
  constructor <;> simp [State.isTerminal]

theorem Ending.leaves_notFound : (Ending.succeeded .notFound).Leaves .abandoned := by
  constructor <;> simp [State.isTerminal]

theorem Ending.leaves_failed (failure : Failure) : (Ending.failed failure).Leaves .abandoned := by
  constructor <;> simp [State.isTerminal]

theorem Ending.leaves_cancelled {state : State} (live : state.isTerminal = false) :
    Ending.cancelled.Leaves state := by
  constructor <;> cases state <;> simp_all [State.isTerminal]

namespace Attempt

variable {attempt : Attempt} {start : State} {first : List Action} {events : List Event}

theorem hangUp_isAside : ∀ action ∈ hangUp, action.IsAside := by
  intro action among
  simp only [hangUp, List.mem_cons, List.not_mem_nil, or_false] at among
  rcases among with rfl | rfl
  · exact Action.isAside_of_level (by simp) (by simp)
  · exact Action.isAside_of_unsaid rfl

theorem requested_isAside (attempt : Attempt) (response : Billing.Response) :
    ∀ action ∈ (attempt.requested response).2, action.IsAside := by
  intro action among
  unfold requested at among
  split at among
  · obtain ⟨sku, _, rfl⟩ := List.mem_map.mp among
    exact Action.isAside_of_level (by simp) (by simp)
  · simp only [List.mem_singleton] at among
    subst among
    exact Action.isAside_of_head (by simp)

/-- An attempt ends with its state once its last event was applied. -/
theorem closing_recounts (attempt : Attempt) (ending : Ending) :
    Recounts attempt.state
      (attempt.state.farewell :: (attempt.release ++ [.finish attempt.purpose ending])) []
      attempt.state := by
  have finishes : Recounts attempt.state [.finish attempt.purpose ending] [] attempt.state :=
    .unsaid rfl .nil
  rw [release_eq_yield]
  exact .said (by simp) (by simp)
    ((Recounts.asides attempt.state attempt.purpose.yield_isAside).append finishes)

theorem conclude_ok_recounts {outcome : Outcome}
    (recounts : Recounts start first events attempt.state)
    (leaves : (Ending.succeeded outcome).Leaves attempt.state) :
    ((attempt.conclude (.ok outcome)).after first).Recounts start := by
  intro scene began
  have ends := (Recounts.asides attempt.state hangUp_isAside).append
    (attempt.closing_recounts (.succeeded outcome))
  refine ⟨events, attempt.state, ?_, leaves, fun _ => ?_⟩
  · simpa [conclude, Turn.after, State.farewell] using recounts.append ends
  · simp [conclude, Turn.after, State.farewell]

/-- A failure abandons the attempt, which is never over before. -/
theorem conclude_error_recounts {failure : Failure}
    (recounts : Recounts start first events attempt.state)
    (live : attempt.state.isTerminal = false) :
    ((attempt.conclude (.error failure)).after first).Recounts start := by
  intro scene began
  have allowed : attempt.state.on .failed = some .abandoned := by
    cases same : attempt.state <;> simp_all [State.on, State.isTerminal]
  have moves : attempt.move .failed =
      ({ attempt with state := .abandoned }, .log (attempt.state.apply .failed).2) := by
    simp [move, (State.apply_allowed allowed).1]
  have closes := closing_recounts { attempt with state := .abandoned } (.failed failure)
  have fails : Recounts attempt.state
      (.log (attempt.state.apply .failed).2 :: .report failure :: State.farewell .abandoned ::
        (attempt.release ++ [.finish attempt.purpose (.failed failure)]))
      [.failed] .abandoned :=
    .event live allowed (.unsaid rfl closes)
  have ends := (Recounts.asides attempt.state hangUp_isAside).append fails
  refine ⟨events ++ [.failed], .abandoned, ?_, Ending.leaves_failed failure, fun _ => ?_⟩
  · simpa [conclude, live, moves, Turn.after, State.farewell, release] using recounts.append ends
  · simp [conclude, live, moves, Turn.after, State.farewell]

/-! Each turn goes on from the state the attempt waits in, so its events can be named. -/

/-- An attempt that is connected asks for its products. -/
theorem query_recounts (placed : attempt.state = .connecting) (settings : Settings) :
    (attempt.query settings).Recounts attempt.state := by
  obtain ⟨purpose, catalog, presentation, state⟩ := attempt
  obtain rfl : state = .connecting := placed
  have asks : ∀ text, Recounts State.connecting
      [.log (State.connecting.apply .connected).2, .say .debug text,
        .ask (.offers catalog.ids settings.skuType)]
      [.connected] .queryingOffers :=
    fun _ => .event rfl rfl (.said (by simp) (by simp) (.unsaid rfl .nil))
  exact fun _ _ => ⟨rfl, _, asks _⟩

/-- A purchase ends with the flow that was launched. -/
theorem launched_recounts (placed : attempt.state = .purchasing) (sku : Billing.Sku)
    (text : String) :
    (((attempt.move .purchaseLaunched).1.conclude (.ok (.purchaseLaunched (.ofSku sku)))).after
      [.say .debug text, (attempt.move .purchaseLaunched).2]).Recounts attempt.state := by
  obtain ⟨purpose, catalog, presentation, state⟩ := attempt
  obtain rfl : state = .purchasing := placed
  have launches : Recounts State.purchasing
      [.say .debug text, .log (State.purchasing.apply .purchaseLaunched).2]
      [.purchaseLaunched] .launched :=
    .said (by simp) (by simp) (.event rfl rfl .nil)
  exact conclude_ok_recounts launches (Ending.leaves_launched _)

/-- A lookup ends with the offers it delivers, or with none found. -/
theorem deliver_recounts (placed : attempt.state = .queryingOffers) (details : List Billing.Sku)
    (dropped : ∀ action ∈ first, action.IsAside) :
    ((attempt.deliver details).after first).Recounts attempt.state := by
  obtain ⟨purpose, catalog, presentation, state⟩ := attempt
  obtain rfl : state = .queryingOffers := placed
  have drops := Recounts.asides State.queryingOffers dropped
  unfold deliver
  split
  · have abandons : Recounts State.queryingOffers
        [.log (State.queryingOffers.apply .nothingFound).2] [.nothingFound] .abandoned :=
      .event rfl rfl .nil
    rw [after_after]
    exact conclude_ok_recounts (drops.append abandons) Ending.leaves_notFound
  · have delivers : ∀ text, Recounts State.queryingOffers
        [.log (State.queryingOffers.apply .offersMapped).2, .deliver text]
        [.offersMapped] .delivered :=
      fun _ => .event rfl rfl (.unsaid rfl .nil)
    rw [after_after]
    exact conclude_ok_recounts (drops.append (delivers _)) (Ending.leaves_delivered _)

/-- A purchase goes on with the single offer it found, or ends. -/
theorem launch_recounts (placed : attempt.state = .queryingOffers) (details : List Billing.Sku)
    (dropped : ∀ action ∈ first, action.IsAside) :
    ((attempt.launch details).after first).Recounts attempt.state := by
  obtain ⟨purpose, catalog, presentation, state⟩ := attempt
  obtain rfl : state = .queryingOffers := placed
  have drops := Recounts.asides State.queryingOffers dropped
  unfold launch
  split
  · have warns : ∀ text, Recounts State.queryingOffers
        [.say .warn text, .log (State.queryingOffers.apply .nothingFound).2]
        [.nothingFound] .abandoned :=
      fun _ => .said (by simp) (by simp) (.event rfl rfl .nil)
    rw [after_after]
    exact conclude_ok_recounts (drops.append (warns _)) Ending.leaves_notFound
  · next sku =>
    have selects : Recounts State.queryingOffers
        [.log (State.queryingOffers.apply .offerSelected).2, .ask (.launch sku presentation)]
        [.offerSelected] .purchasing :=
      .event rfl rfl (.unsaid rfl .nil)
    exact fun _ _ => ⟨rfl, _, drops.append selects⟩
  · exact conclude_error_recounts drops rfl

/-- An answer that reports no success is told of and abandons the attempt. -/
theorem resume_refused_recounts {settings : Settings} {awaited : Awaited}
    {response : Billing.Response} {refusal : LogLine × Failure}
    (placed : attempt.state = awaited.state)
    (refused : check awaited.stage response.result = .error refusal) :
    (attempt.resume settings awaited response).Recounts attempt.state := by
  have live : attempt.state.isTerminal = false := placed ▸ awaited.state_live
  unfold resume
  simp only [refused]
  refine conclude_error_recounts (.asides _ fun action among => ?_) live
  rcases List.mem_append.mp among with spoken | line
  · split at spoken
    · obtain rfl := List.mem_singleton.mp spoken
      exact Action.isAside_of_level (by simp) (by simp)
    · simp at spoken
  · obtain rfl := List.mem_singleton.mp line
    exact check_isAside refused

/-- Every later turn goes on from the state the attempt waits in. -/
theorem Reacts.recounts {settings : Settings} {awaited : Awaited} {turn : Turn}
    (reaction : attempt.Reacts settings awaited turn) (placed : attempt.state = awaited.state) :
    turn.Recounts attempt.state := by
  have live : attempt.state.isTerminal = false := placed ▸ awaited.state_live
  cases reaction with
  | expired =>
      refine conclude_error_recounts (.asides _ ?_) live
      rw [List.forall_mem_singleton, String.append_assoc]
      exact Action.isAside_of_head (awaited.stage.display_head _)
  | cancelled =>
      intro scene began
      refine ⟨_, attempt.state, .asides _ fun action among => ?_, Ending.leaves_cancelled live,
        by simp⟩
      simp only [cancel, List.mem_append] at among
      rcases among with (among | among) | among
      · exact hangUp_isAside _ among
      · rw [release_eq_yield] at among
        exact attempt.purpose.yield_isAside _ among
      · obtain rfl := List.mem_singleton.mp among
        exact Action.isAside_of_unsaid rfl
  | answered response =>
      cases checked : check awaited.stage response.result with
      | error refusal => exact resume_refused_recounts placed checked
      | ok _ =>
          cases awaited with
          | setup =>
              rw [resume_setup checked]
              exact query_recounts placed settings
          | offers =>
              rw [resume_offers checked]
              cases attempt.purpose with
              | lookup => exact deliver_recounts placed _ (attempt.requested_isAside response)
              | purchase => exact launch_recounts placed _ (attempt.requested_isAside response)
          | launch sku =>
              rw [resume_launch checked]
              exact launched_recounts placed sku _

end Attempt

theorem Status.Recounts.after {start middle : State} {status : Status} {past actions : List Action}
    {events : List Event} (before : Storefront.Recounts start past events middle)
    (recounts : status.Recounts middle actions) : status.Recounts start (past ++ actions) := by
  cases status with
  | notStarted => exact recounts
  | waiting attempt awaited session since began =>
      obtain ⟨placed, more, further⟩ := recounts
      exact ⟨placed, _, before.append further⟩
  | finished ending moment =>
      obtain ⟨more, state, further, leaves, named⟩ := recounts
      exact ⟨_, state, before.append further, leaves,
        fun uncancelled => List.mem_append_right past (named uncancelled)⟩

/-- What a call did recounts a path if it opened a session, and tells of no event otherwise. -/
def Status.Tells (actions : List Action) (status : Status) : Prop :=
  .openSession ∈ actions ∧ status.Recounts .idle actions ∨
    .openSession ∉ actions ∧ ∀ action ∈ actions, action.IsAside

/-- What a first turn tells, wherever it leaves its call. -/
def Turn.Tells (turn : Turn) : Prop :=
  ∀ scene began, (turn.rest.status scene began).Tells turn.actions

namespace Order

variable {order : Order}

theorem endAtOnce_tells {ending : Ending} {remarks : List Action}
    (unrelated : ∀ action ∈ remarks, action.IsAside) (unopened : .openSession ∉ remarks) :
    ((order.endAtOnce ending).after remarks).Tells := by
  refine fun _ _ => .inr ⟨by simpa [endAtOnce, Turn.after] using unopened, fun action among => ?_⟩
  rcases List.mem_append.mp among with said | ends
  · exact unrelated action said
  · obtain rfl := List.mem_singleton.mp ends
    exact Action.isAside_of_unsaid rfl

/-- A first turn that opens a session begins a path. -/
theorem connect_tells (order : Order) (catalog : Catalog.Canonical) (remarks : List Action)
    (unrelated : ∀ action ∈ remarks, action.IsAside) :
    ((Attempt.connect ⟨order.purpose, catalog, order.presentation, .idle⟩).after
      remarks).Tells := by
  intro scene began
  have connects : Recounts State.idle
      [.openSession, .log (State.idle.apply .begin).2, .ask .setup] [.begin] .connecting :=
    .unsaid rfl (.event rfl rfl (.unsaid rfl .nil))
  exact .inl ⟨by simp [Attempt.connect, Turn.after],
    rfl, _, (Recounts.asides State.idle unrelated).append connects⟩

theorem lookUp_tells (purpose : order.purpose = .lookup) (catalog : Catalog.Canonical) :
    ((order.lookUp catalog).after [.begin]).Tells := by
  have begins : Action.begin.IsAside := Action.isAside_of_unsaid rfl
  have spoken : ∀ {level text}, level ≠ .trace → level ≠ .error → (Action.say level text).IsAside :=
    fun noTrace noError => Action.isAside_of_level noTrace noError
  have connects := connect_tells order catalog
  rw [purpose] at connects
  unfold lookUp
  split
  · rw [Attempt.after_after]
    exact endAtOnce_tells (by simpa using ⟨begins, spoken (by simp) (by simp)⟩)
      (by simp [Action.say])
  · rw [Attempt.after_after]
    split
    · exact connects _ (by simpa using ⟨begins, spoken (by simp) (by simp)⟩)
    · exact connects _ (by simpa using begins)

theorem buy_tells (purpose : order.purpose = .purchase) (busy : Bool)
    (catalog : Catalog.Canonical) :
    ((order.buy busy catalog).after [.begin]).Tells := by
  have begins : Action.begin.IsAside := Action.isAside_of_unsaid rfl
  have connects := connect_tells order catalog
  rw [purpose] at connects
  unfold buy
  split
  · exact endAtOnce_tells (by simpa using begins) (by simp)
  split
  · have warns : (Action.say .warn "refusing to start a second purchase").IsAside :=
      Action.isAside_of_level (by simp) (by simp)
    have reports : (Action.report .purchaseInProgress).IsAside := Action.isAside_of_unsaid rfl
    rw [Attempt.after_after]
    exact endAtOnce_tells (by simpa using ⟨begins, warns, reports⟩) (by simp [Action.say])
  · have raises : Action.raiseFlag.IsAside := Action.isAside_of_unsaid rfl
    rw [Attempt.after_after]
    exact connects _ (by simpa using ⟨begins, raises⟩)

theorem start_tells (order : Order) (busy : Bool) : (order.start busy).Tells := by
  unfold start
  cases order.wanted.read with
  | error violation => exact endAtOnce_tells (by simpa using Action.isAside_of_unsaid rfl) (by simp)
  | ok catalog =>
      cases purpose : order.purpose with
      | lookup => exact lookUp_tells purpose catalog
      | purchase => exact buy_tells purpose busy catalog

end Order

/-- Every story tells the path of its attempt. -/
theorem Story.tells {settings : Settings} {order : Order} {index : Nat} {status : Status}
    {deeds : List Deed} (story : Story settings order index status deeds) :
    status.Tells (deeds.map (·.action)) := by
  induction story with
  | unstarted => exact .inr ⟨by simp, by simp⟩
  | started now session busy =>
      rw [Turn.deeds_actions]
      exact order.start_tells busy _ _
  | reacted now prior reaction inductionHypothesis =>
      rw [List.map_append, Turn.deeds_actions]
      rcases inductionHypothesis with ⟨opened, placed, events, recounts⟩ | ⟨unopened, _⟩
      · exact .inl ⟨List.mem_append_left _ opened, (reaction.recounts placed _ _).after recounts⟩
      · exact absurd prior.life.of_waiting.2.1 unopened

/-- The attempt of a call follows its state machine: no event is applied that its state does not
allow, a call without a session applies none, and the trace log of any other is that of a path
from `idle`. While the call waits, the attempt is in the last state of the path, which is live.
When it is over, the state is that of its ending, and unless it was cancelled, the state it
names at last. -/
structure Call.OnPath (call : Call) (actions : List Action) : Prop where
  valid : ∀ {state event}, State.on state event = none → .log (state.apply event).2 ∉ actions
  unopened : .openSession ∉ actions → traceOf actions = []
  opened : .openSession ∈ actions → ∃ events state, State.Path .idle events state ∧
    traceOf actions = State.idle.trace events ∧
    (∀ {attempt awaited session since began},
      call.status = .waiting attempt awaited session since began →
      attempt.state = state ∧ state.isTerminal = false) ∧
    ∀ {ending moment}, call.status = .finished ending moment →
      ending.Leaves state ∧ (ending ≠ .cancelled → state.farewell ∈ actions)

theorem Status.Recounts.path {actions : List Action} {status : Status}
    (recounts : status.Recounts .idle actions) :
    ∃ events state, Storefront.Recounts .idle actions events state ∧
      (∀ {attempt awaited session since began},
        status = .waiting attempt awaited session since began →
        attempt.state = state ∧ state.isTerminal = false) ∧
      ∀ {ending moment}, status = .finished ending moment →
        ending.Leaves state ∧ (ending ≠ .cancelled → state.farewell ∈ actions) := by
  cases status with
  | notStarted => exact recounts.elim
  | waiting attempt awaited session since began =>
      obtain ⟨placed, events, recounts⟩ := recounts
      refine ⟨events, _, recounts, fun same => ?_, by simp⟩
      cases same
      exact ⟨rfl, placed ▸ awaited.state_live⟩
  | finished ending moment =>
      obtain ⟨events, state, recounts, leaves, named⟩ := recounts
      refine ⟨events, state, recounts, by simp, fun same => ?_⟩
      cases same
      exact ⟨leaves, named⟩

theorem Status.Tells.onPath {call : Call} {actions : List Action}
    (tells : call.status.Tells actions) : call.OnPath actions := by
  rcases tells with ⟨opened, recounts⟩ | ⟨unopened, unrelated⟩
  · obtain ⟨events, state, recounts, waits, ends⟩ := recounts.path
    exact ⟨recounts.valid, absurd opened,
      fun _ => ⟨events, state, recounts.path, recounts.traceOf_eq, waits, ends⟩⟩
  · have recounts := Recounts.asides State.idle unrelated
    exact ⟨recounts.valid, fun _ => recounts.traceOf_eq, fun opened => absurd opened unopened⟩

namespace Timeline

variable {backend : Backend World Show Signal} {settings : Settings}
  {origin timeline : Timeline World Show Signal}

/-- Every attempt follows its state machine and ends where its result says, whatever it is
answered and when, and whatever other calls do. -/
theorem attempts_follow (fresh : origin.Fresh)
    (reached : origin.Interleaves backend settings timeline) {index : Nat} {call : Call}
    (found : timeline.calls[index]? = some call) :
    call.OnPath (actionsOf index timeline.service.deeds) :=
  (fresh.story reached found).tells.onPath

/-- A purchase of one product. -/
def sale : Timeline Unit Recorded Empty where
  calls := [{ order := ⟨.purchase, .catalog ⟨[⟨false, "subs", "premium"⟩]⟩, "activity"⟩ }]
  service := { world := () }

/-- A session whose answer holds the one record asked for. -/
def saleScript : Script :=
  let priced :=
    "[\x7b\"productId\":\"premium\",\"price\":\"1\",\"price_currency_code\":\"EUR\"\x7d]"
  { query := { reply := { json := some priced } } }

/-- The purchase goes the whole way to its flow. -/
theorem sale_follows :
    ∃ call, (sale.run (scripted [saleScript] true) {}).calls = [call] ∧
      call.status = .finished (.succeeded (.purchaseLaunched ⟨"premium", "", "1", "EUR"⟩)) 0 ∧
      call.OnPath (actionsOf 0 (sale.run (scripted [saleScript] true) {}).service.deeds) ∧
      traceOf (actionsOf 0 (sale.run (scripted [saleScript] true) {}).service.deeds) =
        State.idle.trace [.begin, .connected, .offerSelected, .purchaseLaunched] := by
  have fresh : sale.Fresh := ⟨by decide, rfl, rfl, rfl⟩
  have status : (sale.run (scripted [saleScript] true) {}).calls.map (·.status) =
      [.finished (.succeeded (.purchaseLaunched ⟨"premium", "", "1", "EUR"⟩)) 0] := by
    decide +kernel
  obtain ⟨call, calls, ends⟩ := List.map_eq_singleton_iff.mp status
  exact ⟨call, calls, ends, attempts_follow fresh (run_interleaves _ _ _) (by simp [calls]),
    by decide +kernel⟩

end Timeline

end Storefront
