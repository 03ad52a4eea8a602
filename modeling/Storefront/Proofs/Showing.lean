import Mathlib.Data.List.Basic
import Mathlib.Data.List.TakeWhile
import Storefront.Proofs.Life
import Storefront.Proofs.Termination

/-!
# What recording backends show

What a recording backend shows of a call are the actions of the call, and what it shows besides
are the signals that arrived. So a journal tells both, and `Timeline.arrivals_run` finds every
signal of a run in it.
-/

namespace Storefront

/-- Whether an event is a log line. -/
def Recorded.isLog : Recorded → Bool
  | log _ => true
  | _ => false

/-- An event of a session as one of another session. -/
def Recorded.numbered (session : Nat) : Recorded → Recorded
  | newSession _ => newSession session
  | startConnection _ => startConnection session
  | querySkuDetails _ skus skuType => querySkuDetails session skus skuType
  | launchBillingFlow _ sku presentation => launchBillingFlow session sku presentation
  | endConnection _ => endConnection session
  | event => event

/-- What a line of the journal shows of a call, log lines apart, and when. -/
def Entry.shown? (call : Nat) (entry : Entry Recorded) : Option (Nat × Recorded) :=
  match entry.scene, entry.happening with
  | some scene, .showed event =>
      if scene.call = call ∧ event.isLog = false then some (entry.now, event) else none
  | _, _ => none

/-- What a journal shows of a call, log lines apart. -/
def shownBy (call : Nat) (journal : List (Entry Recorded)) : List (Nat × Recorded) :=
  journal.filterMap (Entry.shown? call)

/-- What is shown of a deed. -/
def Deed.shown (quiet : Bool) (deed : Deed) : List (Nat × Recorded) :=
  (Recorded.ofAction quiet deed.scene.session deed.action).map (deed.scene.now, ·)

/-- A backend that shows actions as a recording backend does, and nothing but log lines when a
session looks for its answer. -/
structure Backend.Records {World Signal : Type} (quiet : Bool)
    (backend : Backend World Recorded Signal) : Prop where
  acts : ∀ scene action world,
    (backend.act scene action world).1 = Recorded.ofAction quiet scene.session action
  polls : ∀ scene stage since world, ∀ event ∈ (backend.poll scene stage since world).2.1,
    event.isLog = true

theorem routed_records (quiet : Bool) : (routed quiet).Records quiet where
  acts _ _ _ := rfl
  polls _ _ _ _ := by simp [routed]

theorem scripted_records (scripts : List Script) (quiet : Bool) :
    (scripted scripts quiet).Records quiet where
  acts _ _ _ := rfl
  polls scene stage since _ := by
    simp only [scripted]
    split
    · simp [Recorded.isLog]
    · simp

theorem Recorded.ofAction_unlogged (quiet : Bool) (session : Nat) (action : Action) :
    ∀ event ∈ Recorded.ofAction quiet session action, event.isLog = false := by
  intro event member
  cases action with
  | ask question =>
      cases question <;> simp_all [ofAction, ofQuestion, isLog]
  | report failure =>
      cases quiet <;> simp_all [ofAction, isLog]
  | _ => simp_all [ofAction, isLog]

/-- What is shown of an action names the session and depends on it in nothing else. -/
theorem Recorded.ofAction_numbered (quiet : Bool) (session other : Nat) (action : Action) :
    (Recorded.ofAction quiet other action).map (numbered session) =
      Recorded.ofAction quiet session action := by
  cases action with
  | ask question => cases question <;> rfl
  | report failure => cases quiet <;> rfl
  | _ => rfl

theorem Deed.shown_numbered (quiet : Bool) (session : Nat) (deed : Deed) :
    (deed.shown quiet).map (fun event => (event.1, event.2.numbered session)) =
      (Recorded.ofAction quiet session deed.action).map (deed.scene.now, ·) := by
  rw [← Recorded.ofAction_numbered quiet session deed.scene.session deed.action]
  simp [Deed.shown]

@[simp] theorem shownBy_append (call : Nat) (before after : List (Entry Recorded)) :
    shownBy call (before ++ after) = shownBy call before ++ shownBy call after :=
  List.filterMap_append ..

theorem shownBy_events (scene : Scene) {events : List Recorded}
    (unlogged : ∀ event ∈ events, event.isLog = false) (call : Nat) :
    shownBy call (events.map fun event => ⟨scene.now, some scene, .showed event⟩) =
      if call = scene.call then events.map (scene.now, ·) else [] := by
  induction events with
  | nil => simp [shownBy]
  | cons event events inductionHypothesis =>
      have rest := inductionHypothesis fun later member =>
        unlogged later (List.mem_cons_of_mem _ member)
      have first := unlogged event (List.mem_cons_self ..)
      rw [List.map_cons, ← List.singleton_append, shownBy_append, rest]
      by_cases same : call = scene.call
      · simp [shownBy, Entry.shown?, same, first]
      · simp [shownBy, Entry.shown?, same, Ne.symm same]

theorem shownBy_logs (scene : Scene) {events : List Recorded}
    (logged : ∀ event ∈ events, event.isLog = true) (call : Nat) :
    shownBy call (events.map fun event => ⟨scene.now, some scene, .showed event⟩) = [] := by
  apply List.filterMap_eq_nil_iff.mpr
  intro entry member
  obtain ⟨event, among, rfl⟩ := List.mem_map.mp member
  simp [Entry.shown?, logged event among]

section Shown

variable {World Signal : Type} {quiet : Bool} {backend : Backend World Recorded Signal}
  {settings : Settings} (records : backend.Records quiet)
include records

theorem Backend.Records.performAll (call : Nat) (scene : Scene) (service : Service World Recorded)
    (actions : List Action) :
    shownBy call (service.performAll backend scene actions).journal =
      shownBy call service.journal ++
        (deedsOf call (actions.map (Deed.mk scene))).flatMap (Deed.shown quiet) := by
  induction actions generalizing service with
  | nil => simp [Service.performAll]
  | cons action rest inductionHypothesis =>
      have unsaid : shownBy call [⟨scene.now, some scene, .did action⟩] = [] := rfl
      have shown := shownBy_events scene
        (Recorded.ofAction_unlogged quiet scene.session action) call
      rw [Service.performAll_cons, inductionHypothesis, Service.perform_journal, records.acts,
        ← List.singleton_append, shownBy_append, shownBy_append, unsaid, shown, List.map_cons,
        List.nil_append]
      by_cases same : call = scene.call
      · simp [deedsOf, Deed.shown, same]
      · simp [deedsOf, same, Ne.symm same]

/-- What is shown of a call are its deeds. -/
theorem Backend.Records.shown {origin timeline : Timeline World Recorded Signal}
    (fresh : origin.Fresh) (reached : origin.Interleaves backend settings timeline) (call : Nat) :
    shownBy call timeline.service.journal =
      (deedsOf call timeline.service.deeds).flatMap (Deed.shown quiet) := by
  induction reached with
  | refl => simp [fresh.deeds, fresh.blank, shownBy]
  | @step timeline next prior transition inductionHypothesis =>
      have taken : ∀ scene began turn taker,
          shownBy call (timeline.takeTurn backend scene began turn taker).service.journal =
            (deedsOf call (timeline.takeTurn backend scene began turn
              taker).service.deeds).flatMap (Deed.shown quiet) := by
        intro scene began turn taker
        rw [Timeline.takeTurn_deeds, deedsOf_append, List.flatMap_append, ← inductionHypothesis,
          Timeline.takeTurn_service]
        exact records.performAll call scene _ turn.actions
      cases transition with
      | start now found idle => exact taken _ _ _ _
      | react now found waits reaction => exact taken _ _ _ _
      | poll scene stage since =>
          have logs := shownBy_logs scene
            (records.polls scene stage since timeline.service.world) call
          rw [Service.poll_deeds, ← inductionHypothesis]
          simp only [Service.poll, Service.note, shownBy_append, logs, List.append_nil]
      | receive now signal =>
          have nothing : ∀ events : List Recorded, shownBy call
              (events.map fun event => ⟨now, none, .showed event⟩) = [] := by
            simp [shownBy, Entry.shown?]
          rw [Service.receive_deeds, ← inductionHypothesis]
          simp only [Service.receive, shownBy_append, nothing, List.append_nil]
      | queue signals => exact inductionHypothesis

end Shown

/-! What is shown of one call, by what it did and when. -/

namespace Timeline

variable {World Signal : Type} {quiet : Bool} {backend : Backend World Recorded Signal}
  {settings : Settings} {origin timeline : Timeline World Recorded Signal} (fresh : origin.Fresh)
  (reached : origin.Interleaves backend settings timeline)
include fresh reached

/-- What is shown of a call follows from what it did and when. -/
theorem shown_timed (records : backend.Records quiet) (index session : Nat) :
    (shownBy index timeline.service.journal).map
        (fun event => (event.1, event.2.numbered session)) =
      (timed index timeline.service.deeds).flatMap fun deed =>
        (Recorded.ofAction quiet session deed.2).map (deed.1, ·) := by
  rw [records.shown fresh reached, List.map_flatMap, timed, List.flatMap_map]
  exact List.flatMap_congr fun deed _ => deed.shown_numbered quiet session

/-- What is shown of a call is shown under the number of its session. -/
theorem shown_session (records : backend.Records quiet) {scene : Scene} {call : Call}
    (found : timeline.calls[scene.call]? = some call) {action : Action}
    (acted : ⟨scene, action⟩ ∈ timeline.service.deeds) :
    (shownBy scene.call timeline.service.journal).map
        (fun event => (event.1, event.2.numbered scene.session)) =
      shownBy scene.call timeline.service.journal := by
  obtain ⟨own, same, _⟩ := (fresh.story reached found).session
  have here : scene.session = own := same _ (mem_deedsOf.mpr ⟨acted, rfl⟩)
  rw [records.shown fresh reached, List.map_flatMap]
  apply List.flatMap_congr
  intro deed member
  rw [deed.shown_numbered, Deed.shown, same deed member, here]

/-- How a call ended follows from what it did and when. -/
theorem ended_timed {index : Nat} {call : Call} (found : timeline.calls[index]? = some call)
    (ending : Ending) (moment : Nat) :
    (∃ same, timeline.calls[index]? = some same ∧ same.status = .finished ending moment) ↔
      ∃ purpose, (moment, .finish purpose ending) ∈ timed index timeline.service.deeds := by
  rw [timed, ← (fresh.story reached found).finished_iff]
  simp [found]

end Timeline

/-- The signal whose arrival a line of the journal is about, and when it arrived. -/
def Entry.arrival? (entry : Entry Recorded) : Option (Nat × Signal) :=
  match entry.scene, entry.happening with
  | none, .showed (.calledBack handle callback _) => some (entry.now, .callback handle callback)
  | none, .showed (.forgot handle) => some (entry.now, .forget handle)
  | _, _ => none

/-- The signals that arrived, by a journal. -/
def arrivals (journal : List (Entry Recorded)) : List (Nat × Signal) :=
  journal.filterMap Entry.arrival?

@[simp] theorem arrivals_append (before after : List (Entry Recorded)) :
    arrivals (before ++ after) = arrivals before ++ arrivals after :=
  List.filterMap_append ..

/-- What a call's own world shows is no arrival. -/
theorem arrivals_shown (scene : Scene) (events : List Recorded) :
    arrivals (events.map fun event => ⟨scene.now, some scene, .showed event⟩) = [] := by
  simp [arrivals, Entry.arrival?]

theorem arrivals_receive (quiet : Bool) (now : Nat) (service : Service Switchboard Recorded)
    (signal : Signal) :
    arrivals (service.receive (routed quiet) now signal).journal =
      arrivals service.journal ++ [(now, signal)] := by
  cases signal with
  | callback handle arrived =>
      simp [Service.receive, routed, arrivals, Entry.arrival?, List.filterMap_eq_nil_iff]
  | forget handle => simp [Service.receive, routed, arrivals, Entry.arrival?]

theorem arrivals_performAll (quiet : Bool) (scene : Scene)
    (service : Service Switchboard Recorded) (actions : List Action) :
    arrivals (service.performAll (routed quiet) scene actions).journal =
      arrivals service.journal := by
  induction actions generalizing service with
  | nil => rfl
  | cons action rest inductionHypothesis =>
      have undone : arrivals [⟨scene.now, some scene, .did action⟩] = [] := rfl
      rw [Service.performAll_cons, inductionHypothesis, Service.perform_journal,
        ← List.singleton_append, arrivals_append, arrivals_append, undone, arrivals_shown,
        List.append_nil, List.append_nil]

theorem arrivals_poll (quiet : Bool) (scene : Scene) (stage : Stage) (since : Nat)
    (service : Service Switchboard Recorded) :
    arrivals (service.poll (routed quiet) scene stage since).2.journal =
      arrivals service.journal := by
  simp [Service.poll, Service.note, routed]

namespace Timeline

variable {quiet : Bool} {settings : Settings} {now : Nat}
  {origin timeline : Timeline Switchboard Recorded Signal}

/-- Nothing arrives while calls are advanced. -/
theorem advance_arrivals :
    arrivals (timeline.advance (routed quiet) settings now).service.journal =
      arrivals timeline.service.journal :=
  advance_keeps (fun service => arrivals service.journal = arrivals timeline.service.journal)
    (fun service scene actions kept => (arrivals_performAll quiet scene service actions).trans kept)
    (fun service scene stage since kept =>
      (arrivals_poll quiet scene stage since service).trans kept)
    rfl

/-- Signals that are received arrive. -/
theorem receive_arrivals (signals : List (Nat × Signal)) (service : Service Switchboard Recorded) :
    arrivals (signals.foldl (fun service signal => service.receive (routed quiet) now signal.2)
        service).journal =
      arrivals service.journal ++ signals.map fun signal => (now, signal.2) := by
  induction signals generalizing service with
  | nil => simp
  | cons signal signals inductionHypothesis =>
      rw [List.foldl_cons, inductionHypothesis, arrivals_receive, List.append_assoc]
      rfl

/-- Signals that are not due before a moment arrive in it when they are due. -/
theorem moment_arrivals (early : ∀ signal ∈ timeline.signals, now ≤ signal.1) :
    arrivals (timeline.moment (routed quiet) settings now).service.journal ++
        (timeline.moment (routed quiet) settings now).signals =
      arrivals timeline.service.journal ++ timeline.signals := by
  have taken : (timeline.signals.takeWhile fun signal => decide (signal.1 ≤ now)).map
      (fun signal => (now, signal.2)) =
      timeline.signals.takeWhile fun signal => decide (signal.1 ≤ now) := by
    refine (List.map_congr_left fun signal member => ?_).trans (List.map_id _)
    have due : signal.1 ≤ now := by simpa using List.mem_takeWhile_imp member
    have onTime : now = signal.1 :=
      Nat.le_antisymm (early signal ((List.takeWhile_sublist _).mem member)) due
    rw [onTime, id]
  have left : (timeline.moment (routed quiet) settings now).signals =
      timeline.signals.dropWhile fun signal => decide (signal.1 ≤ now) := rfl
  have arrived : arrivals (timeline.moment (routed quiet) settings now).service.journal =
      arrivals timeline.service.journal ++
        timeline.signals.takeWhile fun signal => decide (signal.1 ≤ now) := by
    rw [moment, advance_arrivals, receive, receive_arrivals, advance_arrivals]
    exact congrArg _ taken
  rw [left, arrived, List.append_assoc, List.takeWhile_append_dropWhile]

/-- If signals come in the order of their times, each arrives at its own. -/
theorem runFor_arrivals (fuel : Nat)
    (ordered : timeline.signals.Pairwise fun earlier later => earlier.1 ≤ later.1) :
    arrivals (timeline.runFor (routed quiet) settings fuel).service.journal ++
        (timeline.runFor (routed quiet) settings fuel).signals =
      arrivals timeline.service.journal ++ timeline.signals := by
  induction fuel generalizing timeline with
  | zero => rfl
  | succ fuel inductionHypothesis =>
      rw [runFor]
      cases next : timeline.next? (routed quiet) settings with
      | none => rfl
      | some now =>
          have early : ∀ signal ∈ timeline.signals, now ≤ signal.1 := by
            have least := (List.min?_eq_some_iff.mp next).2
            cases signals : timeline.signals with
            | nil => simp
            | cons head rest =>
                have first : now ≤ head.1 := least _ (by simp [signals])
                rw [signals] at ordered
                intro signal member
                rcases List.mem_cons.mp member with rfl | later
                · exact first
                · exact Nat.le_trans first (List.rel_of_pairwise_cons ordered later)
          have fewer : ((timeline.moment (routed quiet) settings now).signals).Pairwise
              fun earlier later => earlier.1 ≤ later.1 :=
            ordered.sublist (List.dropWhile_sublist _)
          exact (inductionHypothesis fewer).trans (moment_arrivals early)

/-- All signals of a run arrive, each at its own time if they come in the order of their times. -/
theorem Fresh.arrivals_run (fresh : origin.Fresh)
    (ordered : origin.signals.Pairwise fun earlier later => earlier.1 ≤ later.1) :
    arrivals (origin.run (routed quiet) settings).service.journal = origin.signals := by
  have drained : (origin.run (routed quiet) settings).Drained (routed quiet) settings :=
    run_drained (routed_honest quiet) origin
  have all : arrivals (origin.run (routed quiet) settings).service.journal ++
      (origin.run (routed quiet) settings).signals =
        arrivals origin.service.journal ++ origin.signals := runFor_arrivals origin.moments ordered
  rwa [drained.received, fresh.blank, List.append_nil] at all

end Timeline

end Storefront
