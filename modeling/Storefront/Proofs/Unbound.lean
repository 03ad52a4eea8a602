import Storefront.Proofs.Refusing

/-!
# Bridges that were never bound

No question is issued by a bridge that was never bound, so every call that is accepted is over in
the step that makes it. `App.run_unbound` tells what an app sees that binds its bridge too late, or
never.
-/

namespace Storefront.Host

variable {detached : Bool} {settings : Settings}

/-! ## What is called -/

/-- Asking a context for its class loader, as a binding does first. -/
def Invocation.ofBinding (context : String) : Invocation :=
  ⟨.object context, "getClassLoader", "()Ljava/lang/ClassLoader;", []⟩

/-- A binding calls nothing but the context it is given. -/
theorem Progress.bind_called {progress : Progress} {home : Home} {invocation : Invocation}
    (member : .called invocation ∈ (progress.bind home).events) :
    .called invocation ∈ progress.events ∨ invocation = .ofBinding home.context := by
  cases bound : progress.machine.home with
  | some first =>
      rw [progress.bind_bound bound] at member
      exact .inl member
  | none =>
      have binds : .called invocation ∈ (progress.machine.bind home).events →
          invocation = .ofBinding home.context := by
        intro called
        rw [(progress.machine.bind_unbound home bound).1] at called
        obtain ⟨use, among, fine, shows⟩ := progress.machine.performAll_shown called
        simp only [Machine.binding, List.mem_cons, List.not_mem_nil, or_false] at among
        rcases among with rfl | rfl | rfl | rfl <;> simp [Use.shown] at shows
        exact shows
      have after : .called invocation ∈ (progress.after (progress.machine.bind home)).events →
          .called invocation ∈ progress.events ∨ invocation = .ofBinding home.context :=
        fun called => (List.mem_append.mp called).imp_right binds
      unfold Progress.bind at member
      split at member
      · exact .inl member
      · exact .inl (by simpa [log, note] using member)
      · dsimp only at member
        split at member
        · exact after (by simpa [log, note] using member)
        · exact after member

namespace App

/-- A native method calls nothing unless it binds. -/
theorem enter_called (app : App) (entrance : Entrance) {invocation : Invocation}
    (member : .called invocation ∈ shown (app.enter entrance).2.service) :
    .called invocation ∈ shown app.service ∨
      ∃ home, entrance.method = .bind home ∧ invocation = .ofBinding home.context := by
  rw [enter_service, shown, List.filterMap_append, filterMap_shown?, List.mem_append] at member
  refine member.imp_right fun called => ?_
  by_cases binds : ∃ home, entrance.method = .bind home
  · obtain ⟨method, pending⟩ := entrance
    obtain ⟨home, rfl⟩ := binds
    exact ⟨home, rfl, (Progress.bind_called called).resolve_left (by simp)⟩
  · have further := Entrance.outcome_extends (fun home same => binds ⟨home, same⟩)
      app.service.world
    exact absurd (further.uncalled called) (by simp)

/-- Nor does a call of the app, while its bridge is not bound. -/
theorem performAll_uncalled (scene : Scene) (actions : List Action)
    {service : Service Bridge Event} (unbound : service.world.machine.home = none)
    {invocation : Invocation}
    (member : .called invocation ∈ shown (service.performAll (hosted detached) scene actions)) :
    .called invocation ∈ shown service := by
  induction actions generalizing service with
  | nil => exact member
  | cons action rest inductionHypothesis =>
      have still : (service.perform (hosted detached) scene action).world.machine.home = none := by
        rw [Service.perform_world, act_home, unbound]
      have called := inductionHypothesis still member
      rw [shown_perform, List.mem_append] at called
      refine called.resolve_right fun now => ?_
      obtain ⟨line, logged⟩ := (act_unbound detached scene action unbound).2.1 _ now
      cases logged

/-- A step binds the bridge in the native method it calls, if at all. -/
theorem step_home (app : App) (entrance : Entrance) :
    (app.step entrance).home? = (app.enter entrance).2.home? := by
  let motive : Service Bridge Event → Prop := fun service =>
    service.world.machine.home = (app.enter entrance).2.home?
  have kept : motive ((app.enter entrance).2.present.advance (hosted true) {} 0).service :=
    Timeline.advance_keeps motive (fun _ _ _ kept => (performAll_home ..).trans kept)
      (fun _ _ _ _ kept => kept) rfl
  exact kept

/-- What a step that leaves the bridge unbound calls was called by a binding. -/
theorem step_called (app : App) (entrance : Entrance)
    (unbound : (app.step entrance).home? = none) {invocation : Invocation}
    (member : .called invocation ∈ shown (app.step entrance).service) :
    .called invocation ∈ shown app.service ∨
      ∃ home, entrance.method = .bind home ∧ invocation = .ofBinding home.context := by
  apply enter_called
  rw [step_home] at unbound
  have settled : .called invocation ∈ shown (app.enter entrance).2.settle.service := by
    have noted : shown (app.step entrance).service = shown (app.enter entrance).2.settle.service ++
        (app.enter entrance).1.toList.map .thrown := by
      simp [step, note, shown, shown?, List.filterMap_map, Function.comp_def]
    rw [noted, List.mem_append] at member
    exact member.resolve_right (by simp)
  let motive : Service Bridge Event → Prop := fun service => service.world.machine.home = none ∧
    (.called invocation ∈ shown service → .called invocation ∈ shown (app.enter entrance).2.service)
  have kept : motive ((app.enter entrance).2.present.advance (hosted true) {} 0).service :=
    Timeline.advance_keeps motive
      (fun service scene actions kept => ⟨(performAll_home ..).trans kept.1,
        fun called => kept.2 (performAll_uncalled scene actions kept.1 called)⟩)
      (fun service scene stage since kept => ⟨kept.1, fun called => kept.2 (by
        simpa [shown, Service.poll, Service.note, hosted] using called)⟩)
      ⟨unbound, id⟩
  exact kept.2 settled

end App

/-! ## What becomes of the calls -/

/-- A service of a bridge that was never bound, on which no purchase runs. -/
structure Unused (service : Service Bridge Event) : Prop where
  unbound : service.world.machine.home = none
  orderly : service.world.board.Orderly
  free : service.busy = false

/-- A call that is over at once, for want of a connection if its catalog was accepted. -/
structure Spent (call : Call) : Prop where
  ended : ∃ ending, call.status = .finished ending 0
  refused : ∀ catalog, call.order.Accepts catalog →
    call.status = .finished (.failed (.unavailable .connect (unissued .setup))) 0

/-- A call whose catalog is accepted goes on, while no purchase runs. -/
theorem opens_of_accepted {order : Order} {turn : Turn} (form : order.FirstTurn false turn)
    {catalog : Catalog.Canonical} (accepted : order.Accepts catalog) (ending : Ending) :
    turn.rest ≠ .finished ending := by
  obtain ⟨readable, fits⟩ := accepted
  cases form with
  | unread read => cases read.symm.trans readable
  | empty purpose read isEmpty =>
      cases read.symm.trans readable
      simp [purpose, isEmpty] at fits
  | notSingle purpose read single =>
      cases read.symm.trans readable
      simp [purpose, single] at fits
  | refused purpose accepted taken => cases taken
  | opened => simp

/-- The purchase flag is free again when a call is over whose first question was not issued. -/
theorem flag_unissued {order : Order} {busy : Bool} {turn : Turn}
    (form : order.FirstTurn busy turn) (free : busy = false) {attempt : Attempt}
    {awaited : Awaited} (purpose : attempt.purpose = order.purpose) (question : Question) :
    (attempt.resume settings awaited (notIssued question)).actions.foldl Action.flag
      (turn.actions.foldl Action.flag busy) = false := by
  have reacts : attempt.Reacts settings awaited
      (attempt.resume settings awaited (notIssued question)) := .answered _
  obtain ⟨line, refused⟩ := check_unissued question awaited.stage
  have rest : (attempt.resume settings awaited (notIssued question)).rest =
      .finished (.failed (.unavailable awaited.stage (unissued question))) :=
    attempt.resume_refused_rest refused
  rcases reacts.nextTurn.flag (turn.actions.foldl Action.flag busy) with
    ⟨⟨_, _, waiting⟩, _⟩ | ⟨_, freed⟩
  · cases waiting.symm.trans rest
  · rw [freed, purpose]
    rcases form.flag with ⟨same, _⟩ | ⟨_, _, purchase, _⟩
    · rw [same, free, Bool.false_and]
    · simp [purchase]

/-- A call that settles once it begins is not given up on. -/
theorem advance_over {World Show Signal : Type} {backend : Backend World Show Signal} {call : Call}
    {service : Service World Show} {now index : Nat} {start : Option Nat}
    {begun last : Call × Service World Show}
    (begins : call.begin backend now index start service = begun)
    (settles : begun.1.settle backend settings now index 3 begun.2 = last) {ending : Ending}
    {moment : Nat} (ended : last.1.status = .finished ending moment) :
    call.advance backend settings now index start service = last := by
  subst begins settles
  refine Call.giveUp_not_waiting fun _ _ _ _ _ waits => ?_
  cases ended.symm.trans waits

section Spent

variable {service : Service Bridge Event} (unused : Unused service)
include unused

theorem Unused.performAll (scene : Scene) {actions : List Action}
    (free : actions.foldl Action.flag service.busy = false) :
    Unused (service.performAll (hosted detached) scene actions) where
  unbound := (App.performAll_home ..).trans unused.unbound
  orderly := orderly_actions unused.orderly scene actions
  free := (Service.performAll_busy ..).trans free

/-- A call that begins on a bridge that was never bound is over at once. -/
theorem Unused.advance {call : Call} (idle : call.status = .notStarted) (index : Nat) :
    Spent (call.advance (hosted detached) settings 0 index (some 0) service).1 ∧
      Unused (call.advance (hosted detached) settings 0 index (some 0) service).2 := by
  let scene : Scene := ⟨0, index, service.opened + 1⟩
  have begun : call.begin (hosted detached) 0 index (some 0) service =
      call.take (hosted detached) scene 0 (call.order.start service.busy) service :=
    Call.begin_due idle (Nat.le_refl 0)
  have form := call.order.start_firstTurn service.busy
  generalize call.order.start service.busy = turn at begun form
  have taken := call.take_eq (hosted detached) scene 0 turn service
  rcases form.uses with ⟨ending, ends, _⟩ | ⟨catalog, accepted, waits, _⟩
  · have ended : (call.take (hosted detached) scene 0 turn service).1.status =
        .finished ending 0 := Call.take_finished ends
    have free : turn.actions.foldl Action.flag service.busy = false := by
      rcases form.flag with ⟨same, _⟩ | ⟨_, _, _, _, _, waits⟩
      · rw [same, unused.free]
      · cases waits.symm.trans ends
    rw [advance_over begun (Call.settle_not_waiting 3 (by simp [ended])) ended]
    refine ⟨⟨⟨ending, ended⟩, fun catalog accepted => ?_⟩, ?_⟩
    · rw [taken] at accepted
      exact absurd ends (opens_of_accepted (unused.free ▸ form) accepted ending)
    · rw [taken]
      exact unused.performAll scene free
  · obtain ⟨actions, question, asks⟩ := form.asks_last waits
    obtain rfl : question = .setup := by
      have stage := asks.stage
      cases question with
      | setup => rfl
      | offers | launch => cases stage
    have unbound : ((service.performAll (hosted detached) scene actions).world.machine).home =
        none := (App.performAll_home ..).trans unused.unbound
    have fails : ((service.performAll (hosted detached) scene actions).world.machine.request
        detached (questionSteps scene.session .setup)).1 = false := by
      rw [Machine.request_unbound _ _ unbound]
    have comes : Unissued detached settings service.world.board scene .setup
        (call.take (hosted detached) scene 0 turn service).1
        (call.take (hosted detached) scene 0 turn service).2 :=
      unissued_question unused.orderly asks fails waits call 0
    rw [advance_over begun rfl (comes.ends 2)]
    refine ⟨⟨⟨_, comes.ends 2⟩, fun _ _ => comes.ends 2⟩, ?_⟩
    rw [settle_unissued unused.orderly asks fails waits, Call.take_eq, taken]
    exact {
      unbound := (App.performAll_home ..).trans ((App.performAll_home ..).trans unused.unbound)
      orderly := orderly_actions (orderly_poll (orderly_actions unused.orderly scene _) ..) scene _
      free := by
        rw [Service.performAll_busy, Service.poll_busy, Service.performAll_busy]
        exact flag_unissued form unused.free rfl .setup
    }

/-- Calls that are over or new are all over once they go on. -/
theorem Unused.advanceCalls {calls : List Call}
    (new : ∀ call ∈ calls, Spent call ∨ call.status = .notStarted ∧ call.delay = 0)
    (index : Nat) (before : Option Nat) :
    (∀ call ∈ (Timeline.advanceCalls (hosted detached) settings false 0 index before calls
      service).1, Spent call) ∧
      Unused (Timeline.advanceCalls (hosted detached) settings false 0 index before calls
        service).2 := by
  induction calls generalizing service index before with
  | nil => exact ⟨by simp [Timeline.advanceCalls], unused⟩
  | cons call rest inductionHypothesis =>
      have once : Spent (call.advance (hosted detached) settings 0 index
          (Timeline.startOf false before call) service).1 ∧
            Unused (call.advance (hosted detached) settings 0 index
              (Timeline.startOf false before call) service).2 := by
        rcases new call (List.mem_cons_self ..) with spent | ⟨idle, prompt⟩
        · obtain ⟨ending, ended⟩ := spent.ended
          rw [Call.advance_finished ended]
          exact ⟨spent, unused⟩
        · have start : Timeline.startOf false before call = some 0 := congrArg some prompt
          rw [start]
          exact unused.advance idle index
      obtain ⟨others, last⟩ := inductionHypothesis once.2
        (fun other member => new other (List.mem_cons_of_mem _ member)) (index + 1)
        (call.advance (hosted detached) settings 0 index (Timeline.startOf false before call)
          service).1.ended?
      exact ⟨List.forall_mem_cons.mpr ⟨once.1, others⟩, last⟩

end Spent

namespace App

/-- An app whose bridge was never bound and whose calls are all over. -/
structure IsIdle (app : App) : Prop where
  unused : Unused app.service
  spent : ∀ call ∈ app.calls, Spent call

/-- A step that leaves the bridge unbound lets every call run its course. -/
theorem IsIdle.step {app : App} (idle : app.IsIdle) {entrance : Entrance}
    (unbound : (app.step entrance).home? = none) : (app.step entrance).IsIdle := by
  let entered := (app.enter entrance).2
  have unused : Unused entered.service := {
    unbound := (step_home app entrance).symm.trans unbound
    orderly := by
      rcases enter_board app entrance with same | ⟨handle, callback, same⟩
      · exact same ▸ idle.unused.orderly
      · exact same ▸ idle.unused.orderly.perform _
    free := by
      rw [enter_service]
      exact idle.unused.free
  }
  have calls : ∀ call ∈ entered.calls, Spent call ∨ call.status = .notStarted ∧ call.delay = 0 := by
    intro call member
    rw [enter_calls, List.mem_append] at member
    rcases member with before | made
    · exact .inl (idle.spent call before)
    · obtain ⟨order, _, rfl⟩ := List.mem_map.mp made
      exact .inr ⟨rfl, rfl⟩
  have settled : (∀ call ∈ entered.settle.calls, Spent call) ∧ Unused entered.settle.service :=
    unused.advanceCalls calls 0 (some 0)
  exact ⟨⟨settled.2.unbound, settled.2.orderly, settled.2.free⟩, settled.1⟩

theorem fresh_idle (faults : List Fault) : (fresh faults).IsIdle where
  unused := ⟨rfl, List.Pairwise.nil, rfl⟩
  spent := by simp [fresh]

/-- What an app sees whose bridge was not bound by any of the native methods it called. -/
structure Unbound (entrances : List Entrance) (app : App) : Prop where
  /-- The only methods that were called are those that bindings call first. -/
  called : ∀ {invocation}, .called invocation ∈ shown app.service →
    ∃ entrance ∈ entrances, ∃ home, entrance.method = .bind home ∧
      invocation = .ofBinding home.context
  /-- Every call is over, and none was connected. -/
  spent : ∀ call ∈ app.calls, Spent call
  empty : app.service.world.board.entries = []
  free : app.service.busy = false

theorem run_append (app : App) (first second : List Entrance) :
    (app.run (first ++ second)).2 = ((app.run first).2.run second).2 := by
  induction first generalizing app with
  | nil => rfl
  | cons entrance rest inductionHypothesis => exact inductionHypothesis _

/-- Nothing is called, nothing waits and no purchase keeps others out while a bridge was not bound,
whatever was called and however bindings failed. -/
theorem run_unbound (faults : List Fault) (entrances : List Entrance)
    (unbound : ((fresh faults).run entrances).2.home? = none) :
    Unbound entrances ((fresh faults).run entrances).2 := by
  have idle : ((fresh faults).run entrances).2.IsIdle ∧
      ∀ {invocation}, .called invocation ∈ shown ((fresh faults).run entrances).2.service →
        ∃ entrance ∈ entrances, ∃ home, entrance.method = .bind home ∧
          invocation = .ofBinding home.context := by
    induction entrances using List.reverseRecOn with
    | nil => exact ⟨fresh_idle faults, by simp [run, fresh, shown]⟩
    | append_singleton entrances entrance inductionHypothesis =>
        rw [run_append] at unbound ⊢
        have before : ((fresh faults).run entrances).2.home? = none := by
          cases bound : ((fresh faults).run entrances).2.home? with
          | none => rfl
          | some home =>
              have still := (run_reaches ((fresh faults).run entrances).2 [entrance]).home bound
              cases still.symm.trans unbound
        obtain ⟨idle, called⟩ := inductionHypothesis before
        refine ⟨idle.step unbound, fun {invocation} member => ?_⟩
        rcases step_called _ entrance unbound member with earlier | binds
        · obtain ⟨other, among, rest⟩ := called earlier
          exact ⟨other, List.mem_append_left _ among, rest⟩
        · exact ⟨entrance, by simp, binds⟩
  obtain ⟨idle, called⟩ := idle
  refine ⟨called, idle.spent, List.eq_nil_iff_forall_not_mem.mpr ?_, idle.unused.free⟩
  rintro ⟨handle, kind⟩ member
  obtain ⟨_, call, _, _, _, _, _, found, waits, _⟩ :=
    (run_reaches (fresh faults) entrances).owned rfl handle kind member
  obtain ⟨ending, ended⟩ := (idle.spent call (List.mem_of_getElem? found)).ended
  cases ended.symm.trans waits

end App

/-! ## Questions that are not issued, for whatever reason -/

/-- A call takes a turn that leaves it waiting for the answer to a question, and the question is
not issued: the bridge is not bound, a class cannot be loaded, or a use of the machine fails. -/
structure FailsToAsk (detached : Bool) (service : Service Bridge Event) (scene : Scene)
    (turn : Turn) (attempt : Attempt) (awaited : Awaited) (question : Question) : Prop where
  waits : turn.rest = .waiting attempt awaited
  fails : ∃ actions, turn.Asks awaited actions question ∧
    ((service.performAll (hosted detached) scene actions).world.machine.request detached
      (questionSteps scene.session question)).1 = false

/-- What holds of questions that are not issued. -/
structure Refusals (detached : Bool) (settings : Settings) : Prop where
  /-- Whatever waits at the switchboard, the session is answered at once, its call is over, and
  nothing but its own request is gone. -/
  settled : ∀ {service scene turn attempt awaited question}, service.world.board.Orderly →
    FailsToAsk detached service scene turn attempt awaited question → ∀ (call : Call) began,
    Unissued detached settings service.world.board scene question
      (call.take (hosted detached) scene began turn service).1
      (call.take (hosted detached) scene began turn service).2
  /-- In an app that goes on from there, callbacks on the handle find nobody ever again. -/
  finished : ∀ {origin app later : App} {scene turn attempt awaited question call began fuel last},
    origin.IsNew → origin.service.world.board = {} → origin.Reaches detached settings app →
    FailsToAsk detached app.service scene turn attempt awaited question →
    app.calls[scene.call]? = some call →
    app.present.Step (hosted detached) settings
      (app.present.takeTurn (hosted detached) scene began turn call) →
    (call.take (hosted detached) scene began turn app.service).1.settle (hosted detached) settings
      scene.now scene.call (fuel + 1)
      (call.take (hosted detached) scene began turn app.service).2 = last →
    App.Reaches detached settings ⟨app.calls.set scene.call last.1, last.2⟩ later →
    ∀ callback, (later.service.world.board.route scene.session callback).1 = .finished
  /-- As long as no native method bound the bridge, no question is ever issued. -/
  unbound : ∀ {faults entrances}, ((App.fresh faults).run entrances).2.home? = none →
    App.Unbound entrances ((App.fresh faults).run entrances).2

/-- A question that cannot be issued fails its stage at once and leaves nothing behind. -/
theorem questions_refused (detached : Bool) (settings : Settings) :
    Refusals detached settings where
  settled orderly failed call began := by
    obtain ⟨actions, asks, fails⟩ := failed.fails
    exact unissued_question orderly asks fails failed.waits call began
  finished isNew blank reached failed found onward settles further := by
    obtain ⟨actions, asks, fails⟩ := failed.fails
    exact reached.unissued_finished (reached.sound blank).orderly asks fails rfl failed.waits found
      onward settles isNew blank further
  unbound := App.run_unbound _ _

namespace App

/-- An app that never binds its bridge. -/
def stranded : App :=
  ((fresh []).run [⟨.lookUp premium, none⟩, ⟨.purchase premium "activity", none⟩]).2

/-- An app whose query is going to be refused by the machine. -/
def thwarted : App :=
  ((ready ⟨"context", "loader"⟩ [⟨"querySkuDetails", some 1, false⟩]).run
    [⟨.lookUp premium, none⟩]).2

/-- The turn of its call when the session is connected. -/
def thwartedTurn : Turn :=
  Attempt.resume {} ⟨.lookup, ⟨[⟨false, "subs", "premium"⟩]⟩, "", .connecting⟩ .setup
    ⟨⟨.ok, ""⟩, none⟩

/-- Its session is connected. -/
def connected : Entrance :=
  ⟨.callback 1 (.setupFinished 0 .null), none⟩

/-- That app when its call has heard of it. -/
def answered : App :=
  let app := (thwarted.enter connected).2
  ⟨app.calls, (app.service.poll (hosted true) ⟨0, 0, 1⟩ .connect 0).2⟩

/-- The call, before it takes that turn. -/
def thwartedCall : Call where
  order := ⟨.lookup, .catalog ⟨[⟨false, "subs", "premium"⟩]⟩, ""⟩
  status := .waiting ⟨.lookup, ⟨[⟨false, "subs", "premium"⟩]⟩, "", .connecting⟩ .setup 1 0 0

/-- That app when the call took the turn and went on. -/
def refused : App :=
  let taken := thwartedCall.take (hosted true) ⟨0, 0, 1⟩ 0 thwartedTurn answered.service
  let last := taken.1.settle (hosted true) {} 0 0 2 taken.2
  ⟨answered.calls.set 0 last.1, last.2⟩

set_option maxRecDepth 8192 in
/-- This is all that happens in the step of the app. -/
theorem thwarted_step : thwarted.step connected = refused.note [] := by
  rfl

/-- Neither call of the first was connected, and nothing of theirs is left; a query of the second
is over as soon as it is made, and nobody is found on its handle while the app asks again. -/
theorem stranded_refused :
    (∀ call ∈ stranded.calls, ∀ catalog, call.order.Accepts catalog →
        call.status = .finished (.failed (.unavailable .connect ⟨.developerError,
          "failed to call BillingBridge.startConnection: Error"⟩)) 0) ∧
      stranded.calls.length = 2 ∧ stranded.service.world.board.entries = [] ∧
      stranded.service.busy = false ∧
      (∀ (call : Call) began,
        ((call.take (hosted true) ⟨0, 0, 1⟩ began thwartedTurn thwarted.service).1.settle
          (hosted true) {} 0 0 1
          (call.take (hosted true) ⟨0, 0, 1⟩ began thwartedTurn thwarted.service).2).1.status =
        .finished (.failed (.unavailable .queryOffers ⟨.developerError,
          "failed to call BillingBridge.querySkuDetails: Error"⟩)) 0) ∧
      ∀ callback, (((thwarted.step connected).run
        [⟨.lookUp premium, none⟩]).2.service.world.board.route 1 callback).1 = .finished := by
  have refusals : Refusals true {} := questions_refused true {}
  have unbound : Unbound [⟨.lookUp premium, none⟩, ⟨.purchase premium "activity", none⟩] stranded :=
    refusals.unbound (by decide +kernel)
  have reached : (ready ⟨"context", "loader"⟩ [⟨"querySkuDetails", some 1, false⟩]).Reaches true {}
      thwarted := run_reaches _ _
  have orderly : thwarted.service.world.board.Orderly := (reached.sound rfl).orderly
  have waits : thwartedTurn.rest =
      .waiting ⟨.lookup, ⟨[⟨false, "subs", "premium"⟩]⟩, "", .queryingOffers⟩ .offers := by
    decide +kernel
  have asks : thwartedTurn.Asks .offers [.log ⟨.trace, "Connecting --Connected--> QueryingOffers"⟩,
      .log ⟨.debug, "querying 1 sku(s) of type subs: [\"premium\"]"⟩]
      (.offers ["premium"] .subs) := ⟨by decide +kernel, rfl, by simp⟩
  have failed : FailsToAsk true thwarted.service ⟨0, 0, 1⟩ thwartedTurn _ .offers _ :=
    ⟨waits, _, asks, by decide +kernel⟩
  have failedNow : FailsToAsk true answered.service ⟨0, 0, 1⟩ thwartedTurn _ .offers _ :=
    ⟨waits, _, asks, by decide +kernel⟩
  have setup : unissued .setup = ⟨.developerError,
      "failed to call BillingBridge.startConnection: Error"⟩ := by decide +kernel
  have query : unissued (.offers ["premium"] .subs) = ⟨.developerError,
      "failed to call BillingBridge.querySkuDetails: Error"⟩ := by decide +kernel
  rw [← setup, ← query]
  refine ⟨fun call member => (unbound.spent call member).refused, by decide +kernel, unbound.empty,
    unbound.free, fun call began => ?_, ?_⟩
  · have ended := (refusals.settled orderly failed call began).ends 0
    simpa only [Nat.zero_add, Question.stage] using ended
  · have there : (ready ⟨"context", "loader"⟩ [⟨"querySkuDetails", some 1, false⟩]).Reaches true {}
        answered := (reached.move (.enter thwarted connected)).poll ⟨0, 0, 1⟩ .connect 0
    have found : answered.calls[0]? = some thwartedCall := by decide +kernel
    -- Stated of any app: of `answered` itself, the step would be checked by running it.
    have onward {app : App} (found : app.calls[0]? = some thwartedCall) :
        app.present.Step (hosted true) {}
          (app.present.takeTurn (hosted true) ⟨0, 0, 1⟩ 0 thwartedTurn thwartedCall) :=
      .react 0 found rfl (.answered _)
    have closed (later : App) (further : refused.Reaches true {} later) :
        ∀ callback, (later.service.world.board.route 1 callback).1 = .finished :=
      refusals.finished (ready_isNew _ _) rfl there failedNow found (onward found) rfl further
    have stepped : refused.Reaches true {} (thwarted.step connected) :=
      thwarted_step ▸ Reaches.refl.move (.leave refused none)
    exact closed _ (stepped.trans (run_reaches _ _))

end App

end Storefront.Host
