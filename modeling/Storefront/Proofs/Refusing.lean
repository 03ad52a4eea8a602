import Mathlib.Data.List.Induction
import Storefront.Proofs.Entries
import Storefront.Proofs.Exclusion
import Storefront.Proofs.Handles
import Storefront.Proofs.Unreadable
import Storefront.Proofs.Verdict

/-!
# Questions that cannot be issued

The session waits under its handle before its question is issued, so a question that cannot be
issued has to be taken back. `Unissued` is what comes of one, whatever waits at the switchboard and
whatever the reason: its session is answered at once and its call is over, nothing waits under the
handle from then on, and whatever waits under others waits still.
-/

namespace Storefront

namespace Switchboard

variable {board next : Switchboard} {handle other : Handle}

/-- What waits under a handle is found among its requests. -/
theorem waiting?_congr
    (same : next.requests.filter (·.handle = other) = board.requests.filter (·.handle = other)) :
    next.waiting? other = board.waiting? other := by
  have finds : ∀ requests : List Request,
      requests.find? (fun request => request.handle = other && request.isOpen) =
        (requests.filter (·.handle = other)).find? (·.isOpen) := fun requests => by
    simp [List.find?_filter, Bool.decide_and]
  rw [waiting?, waiting?, finds, finds, same]

/-- A change of what waits under a handle leaves the requests of all others alone. -/
theorem filter_modifyWaiting (foreign : other ≠ handle) {change : Request → Request}
    (keeps : ∀ request, (change request).handle = request.handle) :
    (board.modifyWaiting handle change).requests.filter (·.handle = other) =
      board.requests.filter (·.handle = other) := by
  unfold modifyWaiting
  induction board.requests with
  | nil => rfl
  | cons request requests inductionHypothesis =>
      rw [List.map_cons, List.filter_cons, List.filter_cons, inductionHypothesis]
      by_cases own : request.handle = handle && request.isOpen
      · have spared : request.handle ≠ other := by
          rintro rfl
          simp [foreign] at own
        rw [if_pos own]
        simp [keeps, spared]
      · rw [if_neg own]

theorem filter_expect (foreign : other ≠ handle) (kind : Kind) :
    (board.expect handle kind).requests.filter (·.handle = other) =
      board.requests.filter (·.handle = other) := by
  have forgotten : (board.forget handle).requests.filter (·.handle = other) =
      board.requests.filter (·.handle = other) := filter_modifyWaiting foreign fun _ => rfl
  rw [expect, List.filter_append, forgotten]
  simp [Ne.symm foreign]

/-- What is done under one handle changes nothing that waits under another. -/
theorem waiting?_perform (foreign : other ≠ handle) {operation : Operation}
    (under : operation.isUnder handle = true) :
    (board.perform operation).waiting? other = board.waiting? other := by
  apply waiting?_congr
  cases operation with
  | expect asking kind =>
      obtain rfl : asking = handle := by simpa [Operation.isUnder] using under
      exact filter_expect foreign kind
  | forget leaving =>
      obtain rfl : leaving = handle := by simpa [Operation.isUnder] using under
      exact filter_modifyWaiting foreign fun _ => rfl
  | callback called callback =>
      obtain rfl : called = handle := by simpa [Operation.isUnder] using under
      rw [perform, route_board]
      split
      · rfl
      · split
        · exact filter_modifyWaiting foreign fun _ => rfl
        · rfl
  | poll | drop => cases under

theorem waiting?_performAll (foreign : other ≠ handle) {operations : List Operation}
    (under : ∀ operation ∈ operations, operation.isUnder handle = true) :
    (board.performAll operations).waiting? other = board.waiting? other := by
  induction operations generalizing board with
  | nil => rfl
  | cons operation rest inductionHypothesis =>
      have later : ((board.perform operation).performAll rest).waiting? other =
          (board.perform operation).waiting? other :=
        inductionHypothesis fun later member => under later (List.mem_cons_of_mem _ member)
      exact later.trans (waiting?_perform foreign (under operation (List.mem_cons_self ..)))

/-- Nor does it change who waits under a handle that somebody looks for an answer. -/
theorem waiting?_answer {session : Nat} (foreign : other ≠ session) (closed : Billing.Response) :
    (board.answer session closed).2.waiting? other = board.waiting? other := by
  rcases board.answer_board session closed with same | ⟨slot, request, found, own, polls⟩
  · rw [same]
  · rw [polls]
    apply waiting?_congr
    have looked : (board.perform (.poll slot)).requests =
        board.requests.set slot request.collect.1 := by
      simp [perform, collect, found]
    obtain ⟨inside, isThere⟩ := List.getElem?_eq_some_iff.mp found
    have parts : board.requests = board.requests.take slot ++ request ::
        board.requests.drop (slot + 1) := by
      rw [← isThere, ← List.drop_eq_getElem_cons inside, List.take_append_drop]
    rw [looked, List.set_eq_take_append_cons_drop, if_pos inside]
    conv_rhs => rw [parts]
    simp [List.filter_append, own, Ne.symm foreign]

theorem waiting?_eq_none :
    board.waiting? handle = none ↔ ∀ kind, (handle, kind) ∉ board.entries := by
  simp only [waiting?, List.find?_eq_none, mem_entries, Bool.and_eq_true, decide_eq_true_eq]
  exact ⟨fun nobody kind ⟨request, member, isOpen, same, _⟩ => nobody request member ⟨same, isOpen⟩,
    fun nobody request member own => nobody request.kind ⟨request, member, own.2, own.1, rfl⟩⟩

/-- Nobody comes to wait under a handle that does not ask. -/
theorem waiting?_none_performAll (nobody : board.waiting? handle = none)
    {operations : List Operation} (unasked : ∀ kind, .expect handle kind ∉ operations) :
    (board.performAll operations).waiting? handle = none := by
  induction operations generalizing board with
  | nil => exact nobody
  | cons operation rest inductionHypothesis =>
      refine inductionHypothesis (waiting?_eq_none.mpr fun kind member => ?_)
        fun kind member => unasked kind (List.mem_cons_of_mem _ member)
      have before := waiting?_eq_none.mp nobody kind
      by_cases asks : ∃ other asked, operation = .expect other asked
      · obtain ⟨other, asked, rfl⟩ := asks
        rcases mem_entries_expect.mp member with same | ⟨already, _⟩
        · cases same
          exact unasked kind (List.mem_cons_self ..)
        · exact before already
      · exact before (mem_entries_of_perform (fun other asked same => asks ⟨other, asked, same⟩)
          member)

/-- Nobody waits under a handle whose last request is closed. -/
theorem Latest.waiting?_closed (orderly : board.Orderly) {slot : Nat} {kind : Kind}
    {mailbox : Mailbox} (latest : board.Latest slot ⟨handle, kind, false, mailbox⟩) :
    board.waiting? handle = none :=
  waiting?_last orderly latest.found latest.last

/-- What is left when a handle is done with: nothing waits under it, all that waited under other
handles does so still, and until it asks again its callbacks find nobody. -/
structure Vacated (board next : Switchboard) (handle : Handle) : Prop where
  removed : next.waiting? handle = none
  others : ∀ other ≠ handle, next.waiting? other = board.waiting? other
  finished : ∀ {operations}, (∀ kind, .expect handle kind ∉ operations) → ∀ callback,
    ((next.performAll operations).route handle callback).1 = .finished

theorem vacated (removed : next.waiting? handle = none)
    (others : ∀ other ≠ handle, next.waiting? other = board.waiting? other) :
    board.Vacated next handle where
  removed := removed
  others := others
  finished unasked callback := by
    rw [route_outcome, waiting?_none_performAll removed unasked]

end Switchboard

namespace Host

variable {detached : Bool} {settings : Settings} {service : Service Bridge Event}

/-! ## A question that is not issued -/

theorem orderly_actions (orderly : service.world.board.Orderly) (scene : Scene)
    (actions : List Action) :
    (service.performAll (hosted detached) scene actions).world.board.Orderly := by
  induction actions generalizing service with
  | nil => exact orderly
  | cons action rest inductionHypothesis =>
      obtain ⟨operations, same, _⟩ := act_board detached orderly scene action service.world.machine
      apply inductionHypothesis
      rw [Service.perform_world, same]
      exact orderly.performAll operations

theorem orderly_poll (orderly : service.world.board.Orderly) (scene : Scene) (stage : Stage)
    (since : Nat) : (service.poll (hosted detached) scene stage since).2.world.board.Orderly := by
  have looked : (service.poll (hosted detached) scene stage since).2.world.board =
      (service.world.board.answer scene.session (neverAnswered stage)).2 := rfl
  rw [looked]
  rcases service.world.board.answer_board scene.session (neverAnswered stage) with
    same | ⟨slot, _, _, _, polls⟩
  · rwa [same]
  · rw [polls]
    exact orderly.perform _

/-- What a call does on a bridge leaves everybody waiting who waits under another handle. -/
theorem waiting?_actions (orderly : service.world.board.Orderly) {scene : Scene} {handle : Handle}
    (foreign : handle ≠ scene.session) (actions : List Action) :
    (service.performAll (hosted detached) scene actions).world.board.waiting? handle =
      service.world.board.waiting? handle := by
  induction actions generalizing service with
  | nil => rfl
  | cons action rest inductionHypothesis =>
      obtain ⟨operations, same, under⟩ := act_board detached orderly scene action
        service.world.machine
      have once : (service.perform (hosted detached) scene action).world.board.waiting? handle =
          service.world.board.waiting? handle := by
        rw [Service.perform_world, same]
        exact Switchboard.waiting?_performAll foreign under
      rw [Service.performAll_cons, ← once]
      exact inductionHypothesis (orderly_actions orderly scene [action])

/-- A question that is not issued is answered where it was put. -/
theorem ask_unissued {scene : Scene} {question : Question} {bridge : Bridge}
    (orderly : bridge.board.Orderly)
    (fails : (bridge.machine.request detached (questionSteps scene.session question)).1 = false) :
    ∃ slot, ((hosted detached).act scene (.ask question) bridge).2.board.Latest slot
      ⟨scene.session, question.kind, false, .holding (notIssued question)⟩ := by
  have asked := orderly.perform (.expect scene.session question.kind)
  have board : ((hosted detached).act scene (.ask question) bridge).2.board =
      (bridge.board.perform (.expect scene.session question.kind)).perform
        (.callback scene.session (refusalOf question)) := by
    rw [Switchboard.perform, ← settle_refusal orderly]
    simp [hosted, Bridge.ask, fails]
  refine ⟨bridge.board.requests.length, ?_⟩
  have latest := (bridge.board.latest_expect scene.session question.kind).perform asked
    (by simp : ∀ kind, Operation.callback scene.session (refusalOf question) ≠ .expect _ kind)
  have follows : Request.follow bridge.board.requests.length
      ⟨scene.session, question.kind, true, .empty⟩
      (.callback scene.session (refusalOf question)) =
        ⟨scene.session, question.kind, false, .holding (notIssued question)⟩ := by
    cases question <;>
      simp [Request.follow, refusalOf, Question.kind, Callback.answers, Callback.response,
        Request.answer, Billing.Reply.read, notIssued]
  rw [follows] at latest
  rwa [board]

/-- A call that waits for an answer which is held for it, and is no success, is over as soon as it
goes on. -/
theorem settle_held {call : Call} {attempt : Attempt} {awaited : Awaited}
    {session since began now index slot : Nat} {kind : Kind} {response : Billing.Response}
    (waits : call.status = .waiting attempt awaited session since began)
    (latest : service.world.board.Latest slot ⟨session, kind, false, .holding response⟩)
    {line : LogLine} {failure : Failure}
    (refused : check awaited.stage response.result = .error (line, failure)) (fuel : Nat) :
    call.settle (hosted detached) settings now index (fuel + 1) service =
      call.take (hosted detached) ⟨now, index, session⟩ began
        (attempt.resume settings awaited response)
        (service.poll (hosted detached) ⟨now, index, session⟩ awaited.stage since).2 := by
  have answered : (service.poll (hosted detached) ⟨now, index, session⟩ awaited.stage since).1 =
      some response := Switchboard.answer_closed latest _
  have rest : (attempt.resume settings awaited response).rest = .finished (.failed failure) :=
    attempt.resume_refused_rest refused
  rw [Call.settle_answered waits fuel answered]
  apply Call.settle_not_waiting
  simp [Call.take_finished rest]

/-- A turn that ends its call asks nothing. -/
theorem askless {attempt : Attempt} {awaited : Awaited} {turn : Turn} {ending : Ending}
    (form : attempt.NextTurn awaited turn) (ends : turn.rest = .finished ending)
    (question : Question) : .ask question ∉ turn.actions := by
  intro member
  have used : .ask question ∈ turn.uses := List.mem_filter.mpr ⟨member, rfl⟩
  simp [form.uses_end ends] at used

/-! ## Whose entries there are -/

/-- What a call does on a bridge makes no other entries than on a switchboard by itself, where
every question is issued. -/
theorem entries_actions {handle : Handle} {kind : Kind} (scene : Scene) (actions : List Action)
    (member : (handle, kind) ∈
      (service.performAll (hosted detached) scene actions).world.board.entries) :
    (handle, kind) ∈ (service.world.board.performAll
      (actions.filterMap (Action.operation? scene.session))).entries := by
  induction actions using List.reverseRecOn generalizing handle kind with
  | nil => exact member
  | append_singleton actions action inductionHypothesis =>
      rw [Service.performAll_append] at member
      generalize service.performAll (hosted detached) scene actions = before at *
      rw [List.filterMap_append, Switchboard.performAll, List.foldl_append]
      cases action with
      | ask question =>
          have asked : (handle, kind) ∈ (before.world.board.expect scene.session
              question.kind).entries := by
            cases issued : (before.world.machine.request detached
                (questionSteps scene.session question)).1 with
            | true => simpa [Service.performAll, hosted, Bridge.ask, issued] using member
            | false =>
                have settled : (handle, kind) ∈ ((before.world.board.expect scene.session
                    question.kind).settle scene.session (notIssued question)).entries := by
                  simpa [Service.performAll, hosted, Bridge.ask, issued] using member
                exact ((Switchboard.mem_entries_modifyWaiting fun _ => rfl).mp settled).1
          refine Switchboard.mem_entries_expect.mpr ?_
          exact (Switchboard.mem_entries_expect.mp asked).imp_right fun other =>
            ⟨inductionHypothesis other.1, other.2⟩
      | endSession =>
          have left : (handle, kind) ∈ (before.world.board.forget scene.session).entries := member
          obtain ⟨there, foreign⟩ := Switchboard.mem_entries_forget.mp left
          exact Switchboard.mem_entries_forget.mpr ⟨inductionHypothesis there, foreign⟩
      | finish purpose ending =>
          refine inductionHypothesis ?_
          cases detached <;> cases purpose <;> exact member
      | begin | log | raiseFlag | lowerFlag | openSession | deliver | report =>
          exact inductionHypothesis member

section Vacated

variable {board : Switchboard} {scene : Scene}
  (vacated : board.Vacated service.world.board scene.session)
include vacated

/-- A look for an answer puts nobody back. -/
theorem vacated_poll (stage : Stage) (since : Nat) :
    board.Vacated (service.poll (hosted detached) scene stage since).2.world.board
      scene.session := by
  have looked : (service.poll (hosted detached) scene stage since).2.world.board =
      (service.world.board.answer scene.session (neverAnswered stage)).2 := rfl
  rw [looked]
  refine Switchboard.vacated ?_ fun other foreign =>
    (Switchboard.waiting?_answer foreign _).trans (vacated.others other foreign)
  rcases service.world.board.answer_board scene.session (neverAnswered stage) with
    same | ⟨slot, _, _, _, polls⟩
  · rw [same]
    exact vacated.removed
  · rw [polls]
    have unasked : ∀ kind, .expect scene.session kind ∉ [Operation.poll slot] := by simp
    exact Switchboard.waiting?_none_performAll vacated.removed unasked

/-- Nor does anything a call does without asking. -/
theorem vacated_actions (orderly : service.world.board.Orderly) {actions : List Action}
    (askless : ∀ question, .ask question ∉ actions) :
    board.Vacated (service.performAll (hosted detached) scene actions).world.board
      scene.session := by
  refine Switchboard.vacated (Switchboard.waiting?_eq_none.mpr fun kind member => ?_)
    fun other foreign => (waiting?_actions orderly foreign actions).trans
      (vacated.others other foreign)
  have unasked : ∀ kind, .expect scene.session kind ∉
      actions.filterMap (Action.operation? scene.session) := by
    intro kind among
    obtain ⟨action, does, asks⟩ := List.mem_filterMap.mp among
    cases action with
    | ask question => exact askless question does
    | _ => simp [Action.operation?] at asks
  exact Switchboard.waiting?_eq_none.mp
    (Switchboard.waiting?_none_performAll vacated.removed unasked) kind
    (entries_actions scene actions member)

end Vacated

/-- The calls of an app with its switchboard by itself. -/
def App.exchange (calls : List Call) (service : Service Bridge Event) :
    Timeline Switchboard Recorded Signal :=
  { calls := calls, service := { world := service.world.board } }

/-- A turn that is taken on a bridge leaves every entry with a call that waits for it. -/
theorem owned_turn {timeline : Timeline Bridge Event Arrival} {scene : Scene} {began : Nat}
    {turn : Turn} {taker : Call}
    (owned : ((App.exchange timeline.calls timeline.service).takeTurn (routed true) scene began
      turn taker).Owned) :
    (App.exchange (timeline.takeTurn (hosted detached) scene began turn taker).calls
      (timeline.takeTurn (hosted detached) scene began turn taker).service).Owned := by
  intro handle kind member
  have among : (handle, kind) ∈ ((App.exchange timeline.calls timeline.service).takeTurn
      (routed true) scene began turn taker).service.world.entries := by
    have acted : (handle, kind) ∈ (timeline.service.performAll (hosted detached) scene
        turn.actions).world.board.entries := by
      simpa [App.exchange] using member
    rw [Timeline.takeTurn_service, Service.performAll_world]
    exact entries_actions scene turn.actions acted
  simpa [Timeline.Awaiting, App.exchange] using owned handle kind among

/-- Whatever makes no entry leaves every entry with the call it belongs to. -/
theorem owned_fewer {calls : List Call} {service next : Service Bridge Event}
    (owned : (App.exchange calls service).Owned) (more : List Call)
    (fewer : ∀ handle kind, (handle, kind) ∈ next.world.board.entries →
      (handle, kind) ∈ service.world.board.entries) :
    (App.exchange (calls ++ more) next).Owned := by
  intro handle kind member
  obtain ⟨index, call, attempt, awaited, session, since, began, found, rest⟩ :=
    owned handle kind (fewer handle kind member)
  refine ⟨index, call, attempt, awaited, session, since, began, ?_, rest⟩
  have inside := (List.getElem?_eq_some_iff.mp found).1
  exact (List.getElem?_append_left inside).trans found

theorem entries_perform {board : Switchboard} {operation : Operation}
    (askless : ∀ handle kind, operation ≠ .expect handle kind) :
    ∀ handle kind, (handle, kind) ∈ (board.perform operation).entries →
      (handle, kind) ∈ board.entries :=
  fun _ _ => Switchboard.mem_entries_of_perform askless

theorem entries_answer {board : Switchboard} (session : Nat) (closed : Billing.Response) :
    ∀ handle kind, (handle, kind) ∈ (board.answer session closed).2.entries →
      (handle, kind) ∈ board.entries := by
  rcases board.answer_board session closed with same | ⟨slot, _, _, _, polls⟩
  · simp [same]
  · rw [polls]
    exact entries_perform (by simp)

/-- Every entry of an app's switchboard belongs to a call that waits for it. -/
theorem App.Reaches.owned {origin app : App} (reached : origin.Reaches detached settings app)
    (blank : origin.service.world.board = {}) : (exchange app.calls app.service).Owned := by
  induction reached with
  | refl =>
      intro handle kind member
      simp [exchange, blank, Switchboard.entries] at member
  | @move app next prior move owned =>
      cases move with
      | enter _ entrance =>
          rw [enter_calls]
          refine owned_fewer owned _ ?_
          rcases enter_board app entrance with same | ⟨handle, callback, same⟩
          · rw [same]
            exact fun _ _ member => member
          · rw [same]
            exact entries_perform (by simp)
      | leave _ pending => exact owned
      | @go timeline next step =>
          have stays : ∀ service : Service Bridge Event, (∀ handle kind,
              (handle, kind) ∈ service.world.board.entries →
                (handle, kind) ∈ timeline.service.world.board.entries) →
              (exchange timeline.calls service).Owned := fun service fewer => by
            simpa using owned_fewer owned [] fewer
          cases step with
          | start now found idle => exact owned_turn (owned.start found idle now _ _)
          | react now found waits reaction =>
              exact owned_turn (owned.react found waits reaction now)
          | poll scene stage since =>
              exact stays _ (entries_answer scene.session (neverAnswered stage))
          | receive now arrival =>
              obtain ⟨callback, same⟩ := receive_board detached now arrival
              exact stays _ (same ▸ entries_perform (by simp))
          | queue signals => exact owned

/-- Nobody waits under the handle of a session that a call asked in which is over. -/
theorem App.Reaches.silent {origin app : App} (reached : origin.Reaches detached settings app)
    (isNew : origin.IsNew) (blank : origin.service.world.board = {}) {scene : Scene}
    {question : Question} (asked : ⟨scene, .ask question⟩ ∈ app.service.deeds) {deed : Deed}
    (did : deed ∈ app.service.deeds) (own : deed.scene.call = scene.call) {purpose : Purpose}
    {ending : Ending} (ends : deed.action = .finish purpose ending) :
    app.service.world.board.waiting? scene.session = none := by
  refine Switchboard.waiting?_eq_none.mpr fun kind waits => ?_
  obtain ⟨index, waiter, attempt, awaited, session, since, began, isThere, waiting, same, _⟩ :=
    reached.owned blank _ _ waits
  obtain ⟨start, fresh, interleaved⟩ := reached.timeline isNew
  obtain ⟨now, opened⟩ := fresh.waiting_opened interleaved isThere waiting
  have user : scene.call = index := fresh.user interleaved opened asked rfl (by exact_mod_cast same)
  have finished : waiter.status = .finished ending deed.scene.now :=
    ((fresh.story interleaved isThere).finished_iff _ _).mpr ⟨purpose,
      List.mem_map.mpr ⟨deed, mem_deedsOf.mpr ⟨did, own.trans user⟩, by rw [ends]⟩⟩
  rw [waiting] at finished
  cases finished

/-- What was done stays so. -/
theorem App.Reaches.did {app next : App} (reached : app.Reaches detached settings next)
    {deed : Deed} (did : deed ∈ app.service.deeds) : deed ∈ next.service.deeds := by
  refine reached.keeps (deed ∈ ·.deeds) (fun app entrance kept => ?_) (fun app pending kept => ?_)
    (fun service scene action kept => ?_) (fun service scene stage since kept => ?_)
    (fun service now arrival kept => ?_) did
  · rwa [enter_deeds]
  · simpa [Service.deeds, note] using kept
  · rw [Service.perform_deeds]
    exact List.mem_append_left _ kept
  · rwa [Service.poll_deeds]
  · rwa [Service.receive_deeds]

/-! ## What comes of it -/

/-- What a session is told whose question was not issued. -/
def unissued (question : Question) : Billing.Result :=
  ⟨.developerError, "failed to call BillingBridge." ++ methodOf question ++ ": Error"⟩

/-- What comes of a question that could not be issued in the last turn of a call, by the
switchboard before that turn and by the call and the service after it. -/
structure Unissued (detached : Bool) (settings : Settings) (board : Switchboard) (scene : Scene)
    (question : Question) (call : Call) (service : Service Bridge Event) : Prop where
  /-- The session is answered as soon as it looks, whenever that is. -/
  answered : ∀ now since, (service.poll (hosted detached) { scene with now := now }
    question.stage since).1 = some ⟨unissued question, none⟩
  vacated : board.Vacated service.world.board scene.session
  /-- The call is over at the moment it asked, whatever the timeout. -/
  ends : ∀ fuel, (call.settle (hosted detached) settings scene.now scene.call (fuel + 1)
    service).1.status = .finished (.failed (.unavailable question.stage (unissued question)))
      scene.now
  left : ∀ fuel, board.Vacated (call.settle (hosted detached) settings scene.now scene.call
    (fuel + 1) service).2.world.board scene.session

/-- A question that was not issued is a failure of its stage. -/
theorem check_unissued (question : Question) (stage : Stage) :
    ∃ line, check stage (unissued question) =
      .error (line, .unavailable stage (unissued question)) := by
  obtain ⟨line, refused⟩ := check_failed (by simp [unissued] :
    (unissued question).code ≠ .ok) stage
  exact ⟨line, by simpa [Stage.failure, unissued] using refused⟩

/-- So whoever is answered with it gives up. -/
theorem resume_unissued (attempt : Attempt) (settings : Settings) (awaited : Awaited)
    (question : Question) :
    (attempt.resume settings awaited (notIssued question)).rest =
      .finished (.failed (.unavailable awaited.stage (unissued question))) := by
  obtain ⟨line, refused⟩ := check_unissued question awaited.stage
  exact attempt.resume_refused_rest refused

section Unissued

variable {scene : Scene} {turn : Turn} {attempt : Attempt} {awaited : Awaited}
  {actions : List Action} {question : Question} (orderly : service.world.board.Orderly)
  (asks : turn.Asks awaited actions question)
  (fails : ((service.performAll (hosted detached) scene actions).world.machine.request
    detached (questionSteps scene.session question)).1 = false)
include orderly asks fails

/-- A turn that ends with a question which is not issued leaves the answer to it. -/
theorem turn_unissued :
    ∃ slot, (service.performAll (hosted detached) scene turn.actions).world.board.Latest slot
      ⟨scene.session, question.kind, false, .holding (notIssued question)⟩ := by
  rw [asks.asks, Service.performAll_append]
  exact ask_unissued (orderly_actions orderly scene actions) fails

/-- A call whose question was not issued gives up as soon as it goes on. -/
theorem settle_unissued (waits : turn.rest = .waiting attempt awaited) (call : Call)
    (began fuel : Nat) :
    (call.take (hosted detached) scene began turn service).1.settle (hosted detached) settings
        scene.now scene.call (fuel + 1) (call.take (hosted detached) scene began turn service).2 =
      (call.take (hosted detached) scene began turn service).1.take (hosted detached) scene began
        (attempt.resume settings awaited (notIssued question))
        ((call.take (hosted detached) scene began turn service).2.poll (hosted detached) scene
          awaited.stage scene.now).2 := by
  obtain ⟨slot, latest⟩ := turn_unissued orderly asks fails
  obtain ⟨line, refused⟩ := check_unissued question awaited.stage
  have status : (call.take (hosted detached) scene began turn service).1.status =
      .waiting attempt awaited scene.session scene.now began := by
    rw [Call.take_eq, waits]
    rfl
  have held : (call.take (hosted detached) scene began turn service).2.world.board.Latest slot
      ⟨scene.session, question.kind, false, .holding (notIssued question)⟩ := by
    rwa [Call.take_eq]
  exact settle_held status held refused fuel

/-- A question that cannot be issued fails its stage at once and leaves nothing behind. -/
theorem unissued_question (waits : turn.rest = .waiting attempt awaited) (call : Call)
    (began : Nat) :
    Unissued detached settings service.world.board scene question
      (call.take (hosted detached) scene began turn service).1
      (call.take (hosted detached) scene began turn service).2 := by
  obtain ⟨slot, latest⟩ := turn_unissued orderly asks fails
  have after : (service.performAll (hosted detached) scene turn.actions).world.board.Orderly :=
    orderly_actions orderly scene turn.actions
  have vacated : service.world.board.Vacated
      (service.performAll (hosted detached) scene turn.actions).world.board scene.session :=
    Switchboard.vacated (latest.waiting?_closed after) fun other foreign =>
      waiting?_actions orderly foreign turn.actions
  have reacts : attempt.Reacts settings awaited
      (attempt.resume settings awaited (notIssued question)) := .answered _
  have rest := resume_unissued attempt settings awaited question
  refine ⟨fun now since => ?_, ?_, fun fuel => ?_, fun fuel => ?_⟩
  · rw [Call.take_eq]
    exact Switchboard.answer_closed latest _
  · rwa [Call.take_eq]
  · rw [settle_unissued orderly asks fails waits, asks.stage]
    exact Call.take_finished rest
  · rw [settle_unissued orderly asks fails waits, Call.take_eq, Call.take_eq]
    exact vacated_actions (vacated_poll vacated awaited.stage scene.now)
      (orderly_poll after scene awaited.stage scene.now) (askless reacts.nextTurn rest)

section Afterwards

variable {origin app later : App} (same : app.service = service)
  (waits : turn.rest = .waiting attempt awaited) {call : Call} {began : Nat}
  (found : app.calls[scene.call]? = some call)
  (onward : app.present.Step (hosted detached) settings
    (app.present.takeTurn (hosted detached) scene began turn call)) {fuel : Nat}
  {last : Call × Service Bridge Event}
  (settled : (call.take (hosted detached) scene began turn service).1.settle (hosted detached)
    settings scene.now scene.call (fuel + 1)
    (call.take (hosted detached) scene began turn service).2 = last)
include same waits found onward settled

/-- An app whose call gave up so has asked the question, and ended the call. -/
theorem App.unissued_reaches :
    app.Reaches detached settings ⟨app.calls.set scene.call last.1, last.2⟩ ∧
      ⟨scene, .ask question⟩ ∈ last.2.deeds ∧
      ∃ purpose ending, ⟨scene, .finish purpose ending⟩ ∈ last.2.deeds := by
  subst same
  have rest := resume_unissued attempt settings awaited question
  have reacts : attempt.Reacts settings awaited
      (attempt.resume settings awaited (notIssued question)) := .answered _
  rw [settle_unissued orderly asks fails waits] at settled
  let taken := app.present.takeTurn (hosted detached) scene began turn call
  let looked := taken.look (hosted detached) scene awaited.stage scene.now
  let answered := looked.takeTurn (hosted detached) scene began
    (attempt.resume settings awaited (notIssued question))
    (call.take (hosted detached) scene began turn app.service).1
  have inside := (List.getElem?_eq_some_iff.mp found).1
  have isThere : looked.calls[scene.call]? =
      some (call.take (hosted detached) scene began turn app.service).1 :=
    List.getElem?_set_self inside
  have status : (call.take (hosted detached) scene began turn app.service).1.status =
      .waiting attempt awaited scene.session scene.now began := by
    rw [Call.take_eq, waits]
    rfl
  have interleaved : app.present.Interleaves (hosted detached) settings answered :=
    ((Timeline.Interleaves.refl.step onward).step (.poll scene awaited.stage scene.now)).step
      (.react scene.now isThere status reacts)
  have final : (⟨app.calls.set scene.call last.1, last.2⟩ : App) =
      ⟨answered.calls, answered.service⟩ := by
    rw [← settled]
    exact congrArg (App.mk · _) (List.set_set ..).symm
  have deeds : last.2.deeds = app.service.deeds ++ turn.deeds scene ++
      (attempt.resume settings awaited (notIssued question)).deeds scene := by
    have before : looked.service.deeds = app.service.deeds ++ turn.deeds scene :=
      (Service.poll_deeds (hosted detached) scene awaited.stage scene.now taken.service).trans
        (Timeline.takeTurn_deeds (hosted detached) scene began turn call app.present)
    have left : last.2 = answered.service := congrArg App.service final
    rw [left, ← before]
    exact Timeline.takeTurn_deeds ..
  obtain ⟨purpose, finishes⟩ := (reacts.nextTurn.finished_iff _).mp rest
  have asked : ⟨scene, .ask question⟩ ∈ last.2.deeds := by
    rw [deeds]
    exact List.mem_append_left _ (List.mem_append_right _
      ((Turn.mem_deeds ..).mpr ⟨rfl, by simp [asks.asks]⟩))
  have did : ⟨scene, .finish purpose (.failed (.unavailable awaited.stage (unissued question)))⟩ ∈
      last.2.deeds := by
    rw [deeds]
    exact List.mem_append_right _ ((Turn.mem_deeds ..).mpr ⟨rfl, finishes⟩)
  exact ⟨final ▸ .of_interleaves interleaved, asked, purpose, _, did⟩

/-- Nothing that reaches the handle of the session afterwards finds anybody. -/
theorem App.Reaches.unissued_finished (reached : origin.Reaches detached settings app)
    (isNew : origin.IsNew) (blank : origin.service.world.board = {})
    (further : App.Reaches detached settings ⟨app.calls.set scene.call last.1, last.2⟩ later)
    (callback : Callback) :
    (later.service.world.board.route scene.session callback).1 = .finished := by
  obtain ⟨there, asked, purpose, ending, did⟩ :=
    App.unissued_reaches orderly asks fails same waits found onward settled
  have nobody : later.service.world.board.waiting? scene.session = none :=
    ((reached.trans there).trans further).silent isNew blank (further.did asked)
      (further.did did) rfl rfl
  rw [Switchboard.route_outcome, nobody]

end Afterwards

end Unissued

end Host

end Storefront
