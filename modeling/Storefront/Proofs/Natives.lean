import Storefront.Proofs.Loading
import Storefront.Proofs.Moves

/-!
# What native methods leave behind

Native methods of the app use the machine and show what they do, but they load nothing, call
nothing of the app and, but for `bind`, leave its home alone. What a method does to the bridge
is told by one lemma for each.
-/

namespace Storefront.Host

/-- Whether an event neither loads a class nor calls one. -/
def Event.isPlain (event : Event) : Bool :=
  !event.isLoad && event.static?.isNone

namespace Progress

/-- A native method is further on: it showed plain events and loaded nothing. -/
structure Shows (before after : Progress) : Prop where
  classes : after.machine.classes = before.machine.classes
  faults : after.machine.faults = before.machine.faults
  shown : ∃ events, after.events = before.events ++ events ∧ ∀ event ∈ events, event.isPlain = true

/-- A native method is further on; it bound nothing and called no method. -/
structure Extends (before after : Progress) : Prop extends before.Shows after where
  home : after.machine.home = before.machine.home
  uncalled : ∀ {invocation}, .called invocation ∈ after.events → .called invocation ∈ before.events

variable {first second third : Progress}

theorem Shows.trans (one : first.Shows second) (other : second.Shows third) :
    first.Shows third where
  classes := other.classes.trans one.classes
  faults := other.faults.trans one.faults
  shown := by
    obtain ⟨early, before, plain⟩ := one.shown
    obtain ⟨late, after, alsoPlain⟩ := other.shown
    refine ⟨early ++ late, by rw [after, before, List.append_assoc], fun event member => ?_⟩
    exact (List.mem_append.mp member).elim (plain event) (alsoPlain event)

theorem Extends.refl (progress : Progress) : progress.Extends progress :=
  ⟨⟨rfl, rfl, [], by simp, by simp⟩, rfl, id⟩

theorem Extends.trans (one : first.Extends second) (other : second.Extends third) :
    first.Extends third :=
  ⟨one.toShows.trans other.toShows, other.home.trans one.home,
    fun member => one.uncalled (other.uncalled member)⟩

variable (progress : Progress)

theorem note_extends (lines : List LogLine) :
    progress.Extends (progress.note (lines.map .log)) where
  home := rfl
  classes := rfl
  faults := rfl
  shown := ⟨_, rfl, by simp [Event.isPlain, Event.isLoad, Event.static?]⟩
  uncalled := by simp [note]

theorem log_extends (level : Level) (text : String) :
    progress.Extends (progress.log level text) :=
  progress.note_extends [⟨level, text⟩]

theorem after_extends {use : Use} (idle : ∀ invocation, use ≠ .call invocation) :
    progress.Extends (progress.after (progress.machine.perform use)) where
  home := by simp [after]
  classes := by simp [after]
  faults := by simp [after]
  shown := by
    refine ⟨_, rfl, fun event member => ?_⟩
    rw [Machine.perform_events] at member
    cases use with
    | call invocation => exact absurd rfl (idle invocation)
    | throwNew raised =>
        obtain ⟨_, rfl⟩ : _ ∧ event = .threw raised := by simpa [Use.shown] using member
        rfl
    | _ => simp [Use.shown] at member
  uncalled {invocation} member := by
    simp only [after, Machine.perform_events, List.mem_append] at member
    refine member.resolve_right fun shows => ?_
    cases use with
    | call invocation => exact absurd rfl (idle invocation)
    | _ => simp [Use.shown] at shows

theorem read_extends (argument : Argument) : progress.Extends (progress.read argument).2 := by
  unfold read
  split
  · exact .refl progress
  · cases argument with
    | null | foreign => exact .refl progress
    | text units =>
        dsimp only
        split <;> exact progress.after_extends (by simp)

theorem readSent_extends (argument : Argument) :
    progress.Extends (progress.readSent argument).2 := by
  have reads := progress.read_extends argument
  unfold readSent
  split
  · exact .refl progress
  · split
    · next read => rwa [read] at reads
    · next read =>
      rw [read] at reads
      exact reads.trans (log_extends ..)

theorem throw_extends (raised : Raised) : progress.Extends (progress.throw raised) := by
  have thrown := progress.after_extends
    (by simp : ∀ invocation, Use.throwNew raised ≠ .call invocation)
  unfold throw
  split
  · exact .refl progress
  · dsimp only
    split
    · exact thrown.trans (log_extends ..)
    · exact ⟨⟨thrown.classes, thrown.faults, thrown.shown⟩, thrown.home, thrown.uncalled⟩

theorem reject_extends (violation : Catalog.Violation) :
    progress.Extends (progress.reject violation) :=
  (progress.log_extends ..).trans (throw_extends ..)

theorem catalog_extends (argument : Argument) :
    progress.Extends (progress.catalog argument).2 := by
  unfold catalog
  dsimp only
  split
  · exact progress.read_extends argument
  · exact (progress.read_extends argument).trans (reject_extends ..)

theorem lookUp_extends (argument : Argument) : progress.Extends (progress.lookUp argument).2 := by
  have judged := progress.catalog_extends argument
  unfold lookUp
  split
  · next accepted =>
    rw [accepted] at judged
    exact judged.trans (log_extends ..)
  · next rejected => rwa [rejected] at judged

theorem purchase_extends (argument : Argument) (activity : String) :
    progress.Extends (progress.purchase argument activity).2 := by
  have judged := progress.catalog_extends argument
  unfold purchase
  split
  · next rejected => rwa [rejected] at judged
  · next accepted =>
    rw [accepted] at judged
    split
    · exact judged.trans (reject_extends ..)
    · have kept := after_extends ‹Progress›
        (by simp : ∀ invocation, Use.findMachine ≠ .call invocation)
      dsimp only
      split
      · exact (judged.trans kept).trans (log_extends ..)
      · exact judged.trans kept

theorem result_extends (code : Int) (message : Argument) :
    progress.Extends (progress.result code message).2 :=
  progress.readSent_extends message

theorem records_extends (json : Argument) : progress.Extends (progress.records json).2 := by
  unfold records
  split
  · exact .refl progress
  · exact progress.readSent_extends _

theorem callback_extends (sent : Sent) : progress.Extends (progress.callback sent).2 := by
  cases sent with
  | setupFinished code message => exact progress.result_extends code message
  | skuDetails code message json =>
      exact (progress.result_extends code message).trans (records_extends ..)
  | launched code message => exact progress.result_extends code message
  | disconnected => exact .refl progress

/-- A callback is read and routed, and what is said about it logged. -/
theorem route_extends (board : Switchboard) (handle : Handle) (sent : Sent) :
    progress.Extends (progress.route board handle sent).1 := by
  have read := progress.callback_extends sent
  have noted := read.trans (note_extends _ (board.route handle (progress.callback sent).1).2.1)
  unfold route
  dsimp only
  split
  · exact noted.trans (log_extends ..)
  · exact noted

theorem route_board (board : Switchboard) (handle : Handle) (sent : Sent) :
    (progress.route board handle sent).2 =
      (board.route handle (progress.callback sent).1).2.2 := by
  unfold route
  dsimp only
  split <;> rfl

/-- Binding what is bound does nothing at all. -/
theorem bind_bound {home : Home} (bound : progress.machine.home = some home) (other : Home) :
    progress.bind other = progress := by
  simp only [bind, bound]

/-- Binding what is not bound leaves it so, or binds it. -/
structure Binds (home : Home) (before after : Progress) : Prop extends before.Shows after where
  outcome : after.machine.home = none ∨ after.machine.home = some home

theorem bind_unbound (unbound : progress.machine.home = none) (home : Home) :
    Binds home progress (progress.bind home) := by
  obtain ⟨shown, counted, left⟩ := progress.machine.bind_unbound home unbound
  have plain : ∀ event ∈ (progress.machine.bind home).events, event.isPlain = true := by
    intro event member
    rw [shown] at member
    obtain ⟨use, among, fine, shows⟩ := progress.machine.performAll_shown member
    simp only [Machine.binding, List.mem_cons, List.not_mem_nil, or_false] at among
    rcases among with rfl | rfl | rfl | rfl <;> simp [Use.shown] at shows
    rw [shows]
    rfl
  have binds : Binds home progress (progress.after (progress.machine.bind home)) := by
    refine ⟨⟨by simp [after, left], by simp [after, left], _, rfl, plain⟩, ?_⟩
    simp only [after, left]
    split
    · exact .inr rfl
    · exact .inl rfl
  unfold bind
  split
  · next bound => simp [unbound] at bound
  · exact ⟨⟨rfl, rfl, _, rfl, by simp [Event.isPlain, Event.isLoad, Event.static?]⟩, .inl unbound⟩
  · dsimp only
    split
    · next trouble _ =>
      have logged := log_extends (progress.after (progress.machine.bind home)) .error
        ("failed to initialize catalog-bridge: " ++ trouble.message)
      exact ⟨binds.toShows.trans logged.toShows, binds.outcome⟩
    · exact binds

/-- The bridge is bound if no exception is pending and the machine grants what it takes. -/
theorem bind_home (unbound : progress.machine.home = none) (home : Home) :
    (progress.bind home).machine.home = some home ↔
      progress.pending = none ∧ (progress.machine.bind home).trouble = none := by
  obtain ⟨_, counted, left⟩ := progress.machine.bind_unbound home unbound
  unfold bind
  split
  · next bound => simp [unbound] at bound
  · next pending => simp [log, note, unbound, pending]
  · next pending =>
    dsimp only
    split
    · next trouble struck => simp [log, note, after, left, struck]
    · next fine => simp [after, left, fine, pending]

end Progress

/-- A native method that binds nothing. -/
theorem Entrance.outcome_extends {entrance : Entrance}
    (other : ∀ home, entrance.method ≠ .bind home) (bridge : Bridge) :
    (Progress.mk bridge.machine entrance.pending []).Extends (entrance.outcome bridge).2.1 := by
  obtain ⟨method, pending⟩ := entrance
  cases method with
  | bind home => exact absurd rfl (other home)
  | lookUp catalog => exact Progress.lookUp_extends ..
  | purchase catalog activity => exact Progress.purchase_extends ..
  | callback handle sent => exact Progress.route_extends ..

/-! ## All that is no action of a call -/

/-- A service after something that is no action of a call: it may have been bound, and nothing
but plain events was shown. -/
structure Plainly (service next : Service Bridge Event) : Prop where
  home : next.world.machine.home = service.world.machine.home ∨
    service.world.machine.home = none
  classes : next.world.machine.classes = service.world.machine.classes
  faults : next.world.machine.faults = service.world.machine.faults
  journal : ∃ (now : Nat) (events : List Event), next.journal = service.journal ++
      events.map (fun event => ⟨now, none, .showed event⟩) ∧
    ∀ event ∈ events, event.isPlain = true

section Plainly

variable (detached : Bool) (service : Service Bridge Event)

theorem enter_plainly (app : App) (entrance : Entrance) :
    Plainly app.service (app.enter entrance).2.service := by
  have shows : (Progress.mk app.service.world.machine entrance.pending []).Shows
      (entrance.outcome app.service.world).2.1 ∧
      ((entrance.outcome app.service.world).2.1.machine.home = app.service.world.machine.home ∨
        app.service.world.machine.home = none) := by
    by_cases binds : ∃ home, entrance.method = .bind home
    · obtain ⟨method, pending⟩ := entrance
      obtain ⟨home, rfl⟩ := binds
      let progress : Progress := ⟨app.service.world.machine, pending, []⟩
      cases bound : app.service.world.machine.home with
      | some first =>
          have idle : progress.bind home = progress := progress.bind_bound bound home
          simp only [Entrance.outcome, progress] at idle ⊢
          rw [idle]
          exact ⟨(Progress.Extends.refl progress).toShows, .inl bound⟩
      | none => exact ⟨(progress.bind_unbound bound home).toShows, .inr rfl⟩
    · have further := Entrance.outcome_extends (fun home same => binds ⟨home, same⟩)
        app.service.world
      exact ⟨further.toShows, .inl further.home⟩
  obtain ⟨shows, home⟩ := shows
  obtain ⟨events, same, plain⟩ := shows.shown
  refine ⟨by simpa using home, by simpa using shows.classes, by simpa using shows.faults, 0, events,
    by simp [same], plain⟩

theorem note_plainly (app : App) (pending : Option Raised) :
    Plainly app.service (app.note (pending.toList.map .thrown)).service := by
  refine ⟨.inl rfl, rfl, rfl, 0, _, rfl, fun event member => ?_⟩
  obtain ⟨raised, _, rfl⟩ := List.mem_map.mp member
  rfl

theorem poll_plainly (scene : Scene) (stage : Stage) (since : Nat) :
    Plainly service (service.poll (hosted detached) scene stage since).2 :=
  ⟨.inl rfl, rfl, rfl, 0, [], by simp [Service.poll, Service.note, hosted], by simp⟩

theorem receive_plainly (now : Nat) (arrival : Arrival) :
    Plainly service (service.receive (hosted detached) now arrival) := by
  let progress : Progress := ⟨service.world.machine, arrival.pending, []⟩
  have routed := progress.route_extends service.world.board arrival.handle arrival.sent
  obtain ⟨events, same, plain⟩ := routed.shown
  refine ⟨.inl routed.home, routed.classes, routed.faults, now, _, rfl, fun event member => ?_⟩
  rcases List.mem_append.mp member with routing | thrown
  · have among : event ∈ (progress.route service.world.board arrival.handle
        arrival.sent).1.events := routing
    exact plain event (by rwa [same] at among)
  · obtain ⟨raised, _, rfl⟩ := List.mem_map.mp thrown
    rfl

/-- What actions of calls keep, and whatever else happens plainly, an app keeps. -/
theorem App.Reaches.keeps_plainly {settings : Settings} {origin app : App} {detached : Bool}
    (motive : Service Bridge Event → Prop)
    (plainly : ∀ {service next}, motive service → Plainly service next → motive next)
    (performs : ∀ service scene action, motive service →
      motive (service.perform (hosted detached) scene action))
    (reached : origin.Reaches detached settings app) (initial : motive origin.service) :
    motive app.service :=
  reached.keeps motive (fun app entrance kept => plainly kept (enter_plainly app entrance))
    (fun app pending kept => plainly kept (note_plainly app pending)) performs
    (fun _ _ _ _ kept => plainly kept (poll_plainly ..))
    (fun _ _ _ kept => plainly kept (receive_plainly ..)) initial

end Plainly

end Storefront.Host
