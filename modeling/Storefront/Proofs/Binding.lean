import Storefront.Proofs.Issuing
import Storefront.Proofs.Natives

/-!
# The first binding wins

A bridge is bound once, by the first native method that manages to, and everything it does from
then on goes through that one home: its context is what connections start with, and its loader
the only one that is asked for classes. `Remembers` is the invariant that ties what was shown to
what the machine remembers; `App.first_binding_wins` says what an app sees of it.
-/

namespace Storefront.Host

/-- What the machine shows in a line of the journal. -/
def shown? (entry : Entry Event) : Option Event :=
  match entry.happening with
  | .showed event => some event
  | .did _ => none

/-- All that the machine showed. -/
def shown (service : Service Bridge Event) : List Event :=
  service.journal.filterMap shown?

/-- The static calls made so far. -/
def staticCalls (service : Service Bridge Event) : List Invocation :=
  (shown service).filterMap Event.static?

theorem filterMap_shown? (now : Nat) (scene : Option Scene) (events : List Event) :
    (events.map fun event => (⟨now, scene, .showed event⟩ : Entry Event)).filterMap shown? =
      events := by
  simp [List.filterMap_map, Function.comp_def, shown?]

/-- An action shows what the bridge shows of it. -/
theorem shown_perform (detached : Bool) (scene : Scene) (service : Service Bridge Event)
    (action : Action) :
    shown (service.perform (hosted detached) scene action) =
      shown service ++ ((hosted detached).act scene action service.world).1 := by
  rw [shown, Service.perform_journal, List.filterMap_append, List.filterMap_cons,
    filterMap_shown?]
  rfl

/-- Whatever happens plainly shows plain events. -/
theorem Plainly.shows {service next : Service Bridge Event} (plainly : Plainly service next) :
    ∃ events, shown next = shown service ++ events ∧ ∀ event ∈ events, event.isPlain = true := by
  obtain ⟨now, events, same, plain⟩ := plainly.journal
  exact ⟨events, by rw [shown, same, List.filterMap_append, filterMap_shown?]; rfl, plain⟩

/-- What was shown is what the machine remembers: nothing was loaded or called before it was
bound, and all that was since went through its home. -/
structure Remembers (service : Service Bridge Event) : Prop where
  unbound : service.world.machine.home = none →
    service.world.machine.classes = [] ∧ ∀ event ∈ shown service, event.isPlain = true
  loads : ∀ {home}, service.world.machine.home = some home →
    Loads home.loader [] (shown service) service.world.machine.classes
  calls : ∀ {home}, service.world.machine.home = some home →
    ∀ invocation ∈ staticCalls service, ∃ session action,
      callOf home session action = some invocation

section Remembers

variable {service next : Service Bridge Event}

/-- Plain events are plain. -/
theorem loadless {events : List Event} (plain : ∀ event ∈ events, event.isPlain = true) :
    ∀ event ∈ events, event.isLoad = false := by
  intro event member
  have both := plain event member
  simp only [Event.isPlain, Bool.and_eq_true, Bool.not_eq_true'] at both
  exact both.1

theorem filterMap_static?_plain {events : List Event}
    (plain : ∀ event ∈ events, event.isPlain = true) : events.filterMap Event.static? = [] := by
  refine List.filterMap_eq_nil_iff.mpr fun event member => ?_
  have both := plain event member
  simp only [Event.isPlain, Bool.and_eq_true, Option.isNone_iff_eq_none] at both
  exact both.2

theorem Remembers.plainly (remembers : Remembers service) (plainly : Plainly service next) :
    Remembers next := by
  obtain ⟨events, shows, plain⟩ := plainly.shows
  cases bound : service.world.machine.home with
  | none =>
      obtain ⟨nothing, before⟩ := remembers.unbound bound
      have allPlain : ∀ event ∈ shown next, event.isPlain = true := by
        intro event member
        rw [shows] at member
        exact (List.mem_append.mp member).elim (before event) (plain event)
      refine ⟨fun _ => ⟨plainly.classes ▸ nothing, allPlain⟩, fun _ => ?_, fun _ => ?_⟩
      · rw [plainly.classes, nothing]
        exact .of_unrelated (loadless allPlain)
      · simp [staticCalls, filterMap_static?_plain allPlain]
  | some home =>
      have same : next.world.machine.home = service.world.machine.home :=
        plainly.home.resolve_right (by simp [bound])
      refine ⟨fun unbound => ?_, fun still => ?_, fun still => ?_⟩
      · rw [same, bound] at unbound
        cases unbound
      · rw [shows, plainly.classes]
        exact (remembers.loads (same ▸ still)).append (.of_unrelated (loadless plain))
      · rw [staticCalls, shows, List.filterMap_append, filterMap_static?_plain plain,
          List.append_nil]
        exact remembers.calls (same ▸ still)

theorem Remembers.perform (remembers : Remembers service) (detached : Bool) (scene : Scene)
    (action : Action) : Remembers (service.perform (hosted detached) scene action) := by
  have shows := shown_perform detached scene service action
  cases bound : service.world.machine.home with
  | none =>
      obtain ⟨classes, logged, _⟩ := act_unbound detached scene action bound
      obtain ⟨nothing, before⟩ := remembers.unbound bound
      have still : (service.perform (hosted detached) scene action).world.machine.home = none := by
        rw [Service.perform_world, act_home, bound]
      refine ⟨fun _ => ⟨classes.trans nothing, fun event member => ?_⟩, fun bound => ?_,
        fun bound => ?_⟩
      · rw [shows] at member
        rcases List.mem_append.mp member with early | now
        · exact before event early
        · obtain ⟨line, rfl⟩ := logged event now
          rfl
      all_goals
        rw [still] at bound
        cases bound
  | some home =>
      have still : (service.perform (hosted detached) scene action).world.machine.home =
          some home := by
        rw [Service.perform_world, act_home, bound]
      refine ⟨fun unbound => ?_, fun other => ?_, fun other => ?_⟩
      · rw [still] at unbound
        cases unbound
      · obtain rfl : home = _ := Option.some.inj (still.symm.trans other)
        rw [shows]
        exact (remembers.loads bound).append (act_loads bound)
      · obtain rfl : home = _ := Option.some.inj (still.symm.trans other)
        intro invocation member
        rw [staticCalls, shows, List.filterMap_append, List.mem_append] at member
        rcases member with before | now
        · exact remembers.calls bound invocation before
        · have issued := (act_static bound).1.subset now
          exact ⟨scene.session, action, by simpa using issued⟩

end Remembers

namespace App

/-- The home the bridge of an app is bound to. -/
def home? (app : App) : Option Home :=
  app.service.world.machine.home

variable {detached : Bool} {settings : Settings} {origin app next : App}

theorem Reaches.remembers {faults : List Fault}
    (reached : (fresh faults).Reaches detached settings app) : Remembers app.service := by
  refine reached.keeps_plainly Remembers (fun kept plainly => kept.plainly plainly)
    (fun _ scene action kept => kept.perform detached scene action) ?_
  exact ⟨fun _ => ⟨rfl, by simp [shown, fresh]⟩, by simp [fresh], by simp [fresh]⟩

/-- Two apps that differ in what the machine showed and how often it was used, and in nothing
else. -/
structure Alike (app next : App) : Prop where
  calls : next.calls = app.calls
  busy : next.service.busy = app.service.busy
  opened : next.service.opened = app.service.opened
  deeds : next.service.deeds = app.service.deeds
  board : next.service.world.board = app.service.world.board
  home : next.home? = app.home?
  classes : next.service.world.machine.classes = app.service.world.machine.classes
  faults : next.service.world.machine.faults = app.service.world.machine.faults

@[simp] theorem enter_deeds (app : App) (entrance : Entrance) :
    (app.enter entrance).2.service.deeds = app.service.deeds := by
  simp [Service.deeds]

/-- Binding shows in the bridge alone, and there as the home. -/
theorem bind_alike (unbound : app.home? = none) {home : Home} {pending : Option Raised}
    (failed : (app.enter ⟨.bind home, pending⟩).2.home? = none) :
    app.Alike (app.enter ⟨.bind home, pending⟩).2 := by
  have binds := (Progress.mk app.service.world.machine pending []).bind_unbound unbound home
  exact {
    calls := by simp [Entrance.outcome]
    busy := by simp
    opened := by simp
    deeds := enter_deeds ..
    board := by simp [Entrance.outcome]
    home := failed.trans unbound.symm
    classes := by simpa [Entrance.outcome] using binds.classes
    faults := by simpa [Entrance.outcome] using binds.faults
  }

/-- A bridge that is bound is not bound again. -/
theorem bind_idle {home : Home} (bound : app.home? = some home) (other : Home)
    (pending : Option Raised) : app.enter ⟨.bind other, pending⟩ = (pending, app) := by
  have idle := (Progress.mk app.service.world.machine pending []).bind_bound bound other
  simp [enter, idle, note]

theorem performAll_home (scene : Scene) (service : Service Bridge Event) (actions : List Action) :
    (service.performAll (hosted detached) scene actions).world.machine.home =
      service.world.machine.home := by
  induction actions generalizing service with
  | nil => rfl
  | cons action rest inductionHypothesis =>
      rw [Service.performAll_cons, inductionHypothesis, Service.perform_world, act_home]

/-- Nothing but `bind` binds the bridge, and nothing binds it anew. -/
theorem Moves.home (move : app.Moves detached settings next) :
    next.home? = app.home? ∨ app.home? = none ∧ ∃ home pending,
      next = (app.enter ⟨.bind home, pending⟩).2 ∧ next.home? = some home := by
  cases move with
  | leave _ pending => exact .inl rfl
  | enter _ entrance =>
      by_cases binds : ∃ home, entrance.method = .bind home
      · obtain ⟨method, pending⟩ := entrance
        obtain ⟨home, rfl⟩ := binds
        cases bound : app.home? with
        | some first => exact .inl (by rw [bind_idle bound]; exact bound)
        | none =>
            have binds := (Progress.mk app.service.world.machine pending []).bind_unbound bound home
            rcases binds.outcome with failed | bound
            · exact .inl (by simpa [home?, Entrance.outcome] using failed)
            · exact .inr ⟨rfl, home, pending, rfl, by simpa [home?, Entrance.outcome] using bound⟩
      · have further := Entrance.outcome_extends (fun home same => binds ⟨home, same⟩)
          app.service.world
        exact .inl (by simpa [home?] using further.home)
  | @go timeline _ step =>
      refine .inl ?_
      cases step with
      | start now found idle => simp [home?, performAll_home]
      | react now found waits reaction => simp [home?, performAll_home]
      | poll scene stage since => rfl
      | queue signals => rfl
      | receive now arrival =>
          exact ((Progress.mk timeline.service.world.machine arrival.pending []).route_extends
            timeline.service.world.board arrival.handle arrival.sent).home

/-- What a bridge is bound to, it stays bound to. -/
theorem Reaches.home {home : Home} (reached : app.Reaches detached settings next)
    (bound : app.home? = some home) : next.home? = some home := by
  induction reached with
  | refl => exact bound
  | move prior move inductionHypothesis =>
      rcases move.home with same | ⟨unbound, _⟩
      · exact same.trans inductionHypothesis
      · rw [inductionHypothesis] at unbound
        cases unbound

/-- What holds of the binding of a bridge and of all that goes through it. -/
structure Bindings (detached : Bool) (settings : Settings) (app : App) : Prop where
  /-- The bridge is bound if no exception is pending and the machine grants what it takes. -/
  succeeds : ∀ {home pending}, app.home? = none →
    ((app.enter ⟨.bind home, pending⟩).2.home? = some home ↔
      pending = none ∧ (app.service.world.machine.bind home).trouble = none)
  /-- A binding that fails leaves everything as it was. -/
  failed : ∀ {home pending}, app.home? = none →
    (app.enter ⟨.bind home, pending⟩).2.home? = none →
    app.Alike (app.enter ⟨.bind home, pending⟩).2
  /-- Nothing else binds the bridge. -/
  only : ∀ {next}, app.home? = none → app.Moves detached settings next → next.home? = none ∨
    ∃ home pending, next = (app.enter ⟨.bind home, pending⟩).2 ∧ next.home? = some home
  /-- Whatever happens, the bridge stays bound to its first home. -/
  kept : ∀ {home next}, app.home? = some home → app.Reaches detached settings next →
    next.home? = some home
  /-- A binding after the first does nothing at all. -/
  idle : ∀ {home}, app.home? = some home → ∀ other pending,
    app.enter ⟨.bind other, pending⟩ = (pending, app)
  /-- No class was loaded or called while the bridge was not bound. -/
  unused : app.home? = none → ∀ event ∈ shown app.service, event.isPlain = true
  /-- Every connection was started with the context of the first home. -/
  connects : ∀ {home invocation}, app.home? = some home →
    .called invocation ∈ shown app.service → invocation.target = .class billingBridge →
    invocation.method = "startConnection" →
    ∃ session : Nat, invocation.arguments = [.object home.context, .long session]
  /-- The only loader that was asked is that of the first home. -/
  asked : ∀ {home event}, app.home? = some home → event ∈ shown app.service →
    event.isLoad = true → ∃ name, event = .called (.ofLoading home.loader name)
  /-- The classes remembered are those whose loads were completed. -/
  loads : ∀ {home}, app.home? = some home →
    Loads home.loader [] (shown app.service) app.service.world.machine.classes
  /-- A completed load is the last of its class; a failed one is not remembered. -/
  once : ∀ {home name past future}, app.home? = some home →
    shown app.service = past ++ .called (.ofLoading home.loader name) :: future →
    ∃ next rest, future = next :: rest ∧
      (next.endsLoad = false → name ∈ app.service.world.machine.classes ∧
        .called (.ofLoading home.loader name) ∉ future) ∧
      (next.endsLoad = true → name ∈ app.service.world.machine.classes →
        .called (.ofLoading home.loader name) ∈ future)

/-- The only calls that start connections are those that put the first question. -/
theorem callOf_connects {home : Home} {session : Nat} {action : Action} {invocation : Invocation}
    (issued : callOf home session action = some invocation)
    (connects : invocation.method = "startConnection") :
    invocation.arguments = [.object home.context, .long session] := by
  cases action with
  | ask question =>
      cases question with
      | setup => cases issued; rfl
      | offers | launch => cases issued; simp [askingCall, launchingCall] at connects
  | endSession | deliver | report => cases issued; simp [endingCall, tellingCall] at connects
  | begin | log | raiseFlag | lowerFlag | openSession | finish => cases issued

/-- The first binding wins. Whatever native methods an app calls, in whatever order, whatever
the machine refuses and however its calls go on in between, its bridge is bound by the first
binding that succeeds and by no other; connections are started with that context, classes are
loaded by that loader, and no class is loaded again once a load of it was completed. -/
theorem first_binding_wins (faults : List Fault)
    (reached : (fresh faults).Reaches detached settings app) :
    Bindings detached settings app where
  succeeds {home pending} unbound := by
    simpa [home?, Entrance.outcome] using
      (Progress.mk app.service.world.machine pending []).bind_home unbound home
  failed unbound failed := bind_alike unbound failed
  only {next} unbound move := by
    rcases move.home with same | ⟨_, bound⟩
    · exact .inl (same.trans unbound)
    · exact .inr bound
  kept bound later := later.home bound
  idle bound other pending := bind_idle bound other pending
  unused unbound := (reached.remembers.unbound unbound).2
  connects {home invocation} bound member target method := by
    have static : (Event.called invocation).static? = some invocation := by
      simp [Event.static?, target]
    obtain ⟨session, action, issued⟩ := reached.remembers.calls bound invocation
      (List.mem_filterMap.mpr ⟨_, member, static⟩)
    exact ⟨session, callOf_connects issued method⟩
  asked bound member load := by
    obtain ⟨name, same, _⟩ := (reached.remembers.loads bound).asked member load
    exact ⟨name, same⟩
  loads bound := reached.remembers.loads bound
  once bound split := (reached.remembers.loads bound).parts split

/-- The text of a catalog of one product. -/
def premiumText : String :=
  "\x7b\"products\":[\x7b\"featured_product\":false,\"type\":\"subs\",\"id\":\"premium\"\x7d]\x7d"

/-- That text as an argument. -/
def premium : Argument :=
  .text (Text.Units.encode premiumText)

/-- A list of one record, of that product. -/
def premiumRecord : Argument :=
  .text (Text.Units.encode ("[\x7b\"productId\":\"premium\",\"price\":\"1\"," ++
    "\"price_currency_code\":\"EUR\"\x7d]"))

/-- An app whose first binding fails, and that looks a product up after its second. -/
def persistent : App :=
  ((fresh [⟨"getClassLoader", some 1, false⟩]).run
    [⟨.bind ⟨"first", "unheard"⟩, none⟩, ⟨.bind ⟨"context", "loader"⟩, none⟩,
      ⟨.lookUp premium, none⟩]).2

/-- Its connection was started with the second context, by whose loader the class was loaded
once; a third binding does nothing. -/
theorem persistent_bound :
    persistent.enter ⟨.bind ⟨"other", "alien"⟩, none⟩ = (none, persistent) ∧
      (∀ invocation, .called invocation ∈ shown persistent.service →
        invocation.target = .class billingBridge → invocation.method = "startConnection" →
        ∃ session : Nat, invocation.arguments = [.object "context", .long session]) ∧
      (shown persistent.service).filter (·.isLoad) =
        [.called (.ofLoading "loader" billingBridge)] := by
  have bound : persistent.home? = some ⟨"context", "loader"⟩ := by decide +kernel
  have bindings : Bindings true {} persistent :=
    first_binding_wins [⟨"getClassLoader", some 1, false⟩] (run_reaches _ _)
  exact ⟨bindings.idle bound _ _, fun _ member => bindings.connects bound member,
    by decide +kernel⟩

/-- An app that looks a product up when no lasting reference can be made to a class. -/
def forgetful : App :=
  ((fresh [⟨"GetJavaVM", some 4, false⟩]).run
    [⟨.bind ⟨"context", "loader"⟩, none⟩, ⟨.lookUp premium, none⟩]).2

/-- Its loader returns the class twice, and no exception is ever raised: the first class was lost
before it could be remembered. -/
theorem forgetful_loads_twice :
    (shown forgetful.service).count (.called (.ofLoading "loader" billingBridge)) = 2 ∧
      (shown forgetful.service).any (· matches .described _) = false := by
  decide +kernel

end App

end Storefront.Host
