import Storefront.Proofs.Machinery

/-!
# Classes are loaded once

`Loads` reads off what is shown which classes are remembered: a load is one that is remembered
unless its trouble follows at once, and nothing is loaded that is remembered. Requests show
loads of this kind, so a loader completes at most one load of a class.
-/

namespace Storefront.Host

/-- Whether a loader is asked for a class. -/
def Event.isLoad : Event → Bool
  | .called invocation => invocation.method = "loadClass"
  | _ => false

/-- What is shown next when a load failed: the exception of the loader is printed, or no lasting
reference could be made. -/
def Event.endsLoad : Event → Bool
  | .described className => className = "java.lang.RuntimeException"
  | .log line => line = ⟨.debug, "JNI call failed: JNI call failed"⟩
  | _ => false

/-- Events that take the classes remembered from some to others. -/
inductive Loads (loader : String) : List String → List Event → List String → Prop where
  | nil {known} : Loads loader known [] known
  | other {known event rest last} (unrelated : event.isLoad = false)
      (later : Loads loader known rest last) : Loads loader known (event :: rest) last
  | failed {known name trouble rest last} (new : name ∉ known) (ends : trouble.endsLoad = true)
      (later : Loads loader known rest last) :
      Loads loader known (.called (.ofLoading loader name) :: trouble :: rest) last
  | done {known name next rest last} (new : name ∉ known) (fine : next.endsLoad = false)
      (later : Loads loader (known ++ [name]) (next :: rest) last) :
      Loads loader known (.called (.ofLoading loader name) :: next :: rest) last

namespace Loads

variable {loader name : String} {known middle last : List String} {events more : List Event}

/-- Where nothing is loaded, the classes remembered stay the same. -/
theorem of_unrelated (unrelated : ∀ event ∈ events, event.isLoad = false) :
    Loads loader known events known := by
  induction events with
  | nil => exact .nil
  | cons event rest inductionHypothesis =>
      exact .other (unrelated event (List.mem_cons_self ..))
        (inductionHypothesis fun event member => unrelated event (List.mem_cons_of_mem _ member))

theorem append (first : Loads loader known events middle) (second : Loads loader middle more last) :
    Loads loader known (events ++ more) last := by
  induction first with
  | nil => exact second
  | other unrelated later inductionHypothesis => exact .other unrelated (inductionHypothesis second)
  | failed new ends later inductionHypothesis => exact .failed new ends (inductionHypothesis second)
  | done new fine later inductionHypothesis => exact .done new fine (inductionHypothesis second)

/-- What is remembered stays remembered. -/
theorem grows (loads : Loads loader known events last) : known <+: last := by
  induction loads with
  | nil => exact List.prefix_rfl
  | other unrelated later inductionHypothesis => exact inductionHypothesis
  | failed new ends later inductionHypothesis => exact inductionHypothesis
  | done new fine later inductionHypothesis =>
      exact (List.prefix_append ..).trans inductionHypothesis

/-- Every class is asked for from the one loader, and only while it is not remembered. -/
theorem asked (loads : Loads loader known events last) {event : Event} (member : event ∈ events)
    (load : event.isLoad = true) :
    ∃ name, event = .called (.ofLoading loader name) ∧ name ∉ known := by
  have noLoad : ∀ {trouble : Event}, trouble.endsLoad = true → trouble.isLoad = false := by
    intro trouble ends
    cases trouble <;> simp_all [Event.endsLoad, Event.isLoad]
  induction loads with
  | nil => simp at member
  | other unrelated later inductionHypothesis =>
      rcases List.mem_cons.mp member with rfl | later
      · simp [unrelated] at load
      · exact inductionHypothesis later
  | failed new ends later inductionHypothesis =>
      rcases List.mem_cons.mp member with rfl | member
      · exact ⟨_, rfl, new⟩
      · rcases List.mem_cons.mp member with rfl | member
        · simp [noLoad ends] at load
        · exact inductionHypothesis member
  | done new fine later inductionHypothesis =>
      rcases List.mem_cons.mp member with rfl | member
      · exact ⟨_, rfl, new⟩
      · obtain ⟨name, same, missing⟩ := inductionHypothesis member
        exact ⟨name, same, fun isKnown => missing (List.mem_append_left _ isKnown)⟩

theorem ofLoading_injective {first second : String}
    (same : Event.called (.ofLoading loader first) = .called (.ofLoading loader second)) :
    first = second := by
  simpa [Invocation.ofLoading] using same

/-- A class that is remembered is not asked for. -/
theorem not_asked (loads : Loads loader known events last) (isKnown : name ∈ known) :
    .called (.ofLoading loader name) ∉ events := by
  intro member
  obtain ⟨other, same, missing⟩ := loads.asked member rfl
  exact missing (ofLoading_injective same ▸ isKnown)

/-- What is remembered at last was loaded, unless it was remembered before. -/
theorem remembered (loads : Loads loader known events last) (isLast : name ∈ last) :
    name ∈ known ∨ .called (.ofLoading loader name) ∈ events := by
  induction loads with
  | nil => exact .inl isLast
  | other unrelated later inductionHypothesis =>
      exact (inductionHypothesis isLast).imp_right (List.mem_cons_of_mem _)
  | failed new ends later inductionHypothesis =>
      exact (inductionHypothesis isLast).imp_right fun member =>
        List.mem_cons_of_mem _ (List.mem_cons_of_mem _ member)
  | done new fine later inductionHypothesis =>
      rcases inductionHypothesis isLast with isKnown | member
      · rcases List.mem_append.mp isKnown with before | now
        · exact .inl before
        · rw [List.mem_singleton.mp now]
          exact .inr (List.mem_cons_self ..)
      · exact .inr (List.mem_cons_of_mem _ member)

/-- What becomes of a load: it is the last of its class, which is remembered, or its trouble
follows and the class is not remembered, unless it is loaded again. -/
theorem parts (loads : Loads loader known events last) {past future : List Event}
    (split : events = past ++ .called (.ofLoading loader name) :: future) :
    ∃ next rest, future = next :: rest ∧
      (next.endsLoad = false → name ∈ last ∧ .called (.ofLoading loader name) ∉ future) ∧
      (next.endsLoad = true → name ∈ last → .called (.ofLoading loader name) ∈ future) := by
  induction loads generalizing past with
  | nil => simp at split
  | other unrelated later inductionHypothesis =>
      cases past with
      | nil =>
          rw [List.nil_append, List.cons.injEq] at split
          rw [split.1] at unrelated
          exact absurd unrelated (by simp [Event.isLoad, Invocation.ofLoading])
      | cons first past =>
          rw [List.cons_append, List.cons.injEq] at split
          exact inductionHypothesis split.2
  | @failed known asked trouble rest last new ends later inductionHypothesis =>
      match past with
      | [] =>
          rw [List.nil_append, List.cons.injEq] at split
          obtain ⟨same, rfl⟩ := split
          obtain rfl := ofLoading_injective same
          refine ⟨trouble, rest, rfl, fun fine => by simp [fine] at ends, fun _ isLast => ?_⟩
          exact List.mem_cons_of_mem _ ((later.remembered isLast).resolve_left new)
      | [first] =>
          simp only [List.cons_append, List.nil_append, List.cons.injEq] at split
          rw [split.2.1] at ends
          simp [Event.endsLoad] at ends
      | first :: second :: past =>
          simp only [List.cons_append, List.cons.injEq] at split
          exact inductionHypothesis split.2.2
  | @done known asked next rest last new fine later inductionHypothesis =>
      cases past with
      | nil =>
          rw [List.nil_append, List.cons.injEq] at split
          obtain ⟨same, rfl⟩ := split
          obtain rfl := ofLoading_injective same
          have isKnown : asked ∈ known ++ [asked] := by simp
          exact ⟨next, rest, rfl, fun _ => ⟨later.grows.subset isKnown, later.not_asked isKnown⟩,
            fun ends => by simp [fine] at ends⟩
      | cons first past =>
          rw [List.cons_append, List.cons.injEq] at split
          exact inductionHypothesis split.2

end Loads

/-! ## Requests -/

/-- The steps of a request between its frame and its end. -/
def Step.isInner : Step → Bool
  | .use .makeText | .use .makeArray | .use .setElement | .needClass _ => true
  | .use (.call invocation) => invocation.method ≠ "loadClass"
  | _ => false

namespace Machine

/-- The steps of a request, which end in a call. -/
structure Asks (steps : List Step) : Prop where
  inner : ∀ step ∈ steps, step.isInner = true
  ends : ∃ before invocation, steps = before ++ [.use (.call invocation)]

variable (machine : Machine) (home : Home)

/-- Nothing is loaded where trouble is shown. -/
theorem settled_unrelated (trouble : Option Trouble) :
    ∀ event ∈ settled trouble, event.isLoad = false := by
  intro event member
  unfold settled at member
  split at member
  · simp at member
  · simp only [List.mem_cons, List.not_mem_nil, or_false] at member
    rcases member with rfl | rfl <;> rfl
  · rw [List.mem_singleton.mp member]
    rfl

/-- What is shown when an inner step that loads nothing fails is not the end of a load. -/
theorem use_struck {use : Use} {trouble : Trouble} (inner : (Step.use use).isInner = true)
    (struck : (machine.perform use).trouble = some trouble) :
    ∃ next rest, (machine.perform use).events ++ settled (some trouble) = next :: rest ∧
      next.endsLoad = false ∧ ∀ event ∈ next :: rest, event.isLoad = false := by
  obtain ⟨silently, rfl⟩ := perform_trouble struck
  rw [perform_events, struck]
  cases use with
  | makeText | makeArray => cases silently <;> exact ⟨_, _, rfl, by decide, by decide⟩
  | setElement => exact ⟨_, _, rfl, by decide, by decide⟩
  | call invocation =>
      refine ⟨.called invocation, _, rfl, rfl, ?_⟩
      simpa [Event.isLoad, settled, Use.trouble, Step.isInner] using inner
  | attach | pushFrame | findMachine | readText | throwNew => simp [Step.isInner] at inner

/-- What came of some steps reads as loads, and does not begin with the end of one. -/
structure Continues (loader : String) (known : List String) (done : Done) : Prop where
  loads : Loads loader known (done.events ++ settled done.trouble) done.machine.classes
  fine : ∃ next rest, done.events ++ settled done.trouble = next :: rest ∧ next.endsLoad = false

variable {machine home} in
/-- An inner step that loads nothing fails and shows so, or the next steps are taken. -/
theorem continues_use {use : Use} {steps : List Step} (inner : (Step.use use).isInner = true)
    (later : (machine.take home (.use use)).trouble = none →
      Continues home.loader machine.classes
        { (machine.take home (.use use)).machine.takeAll home steps with
          events := use.shown true ++
            ((machine.take home (.use use)).machine.takeAll home steps).events }) :
    Continues home.loader machine.classes (machine.takeAll home (.use use :: steps)) := by
  cases trouble : (machine.take home (.use use)).trouble with
  | some trouble =>
      obtain ⟨next, rest, shown, fine, unrelated⟩ := use_struck machine inner trouble
      rw [takeAll_struck machine home trouble]
      have whole : (machine.take home (.use use)).events ++
          settled (machine.take home (.use use)).trouble = next :: rest := by
        rw [trouble]
        exact shown
      exact ⟨whole ▸ by simpa [take] using .of_unrelated unrelated, next, rest, whole, fine⟩
  | none =>
      have shown : (machine.take home (.use use)).events = use.shown true := by
        simp [take, show (machine.perform use).trouble = none from trouble]
      rw [takeAll_fine machine home trouble, shown]
      exact later trouble

variable {home} in
/-- What a call shows comes before what the next steps show. -/
theorem Continues.called {invocation : Invocation} {known : List String} {done : Done}
    (inner : (Step.use (.call invocation)).isInner = true)
    (later : Loads home.loader known (done.events ++ settled done.trouble) done.machine.classes) :
    Continues home.loader known
      { done with events := (Use.call invocation).shown true ++ done.events } where
  loads := .other (by simpa [Event.isLoad, Step.isInner] using inner) later
  fine := ⟨.called invocation, _, rfl, rfl⟩

variable {machine home} in
/-- A class is at hand, or it is loaded before the next steps, or they are not taken. -/
theorem continues_needClass {name : String} {steps : List Step}
    (later : (machine.take home (.needClass name)).trouble = none →
      Continues home.loader (machine.take home (.needClass name)).machine.classes
        ((machine.take home (.needClass name)).machine.takeAll home steps)) :
    Continues home.loader machine.classes (machine.takeAll home (.needClass name :: steps)) := by
  by_cases isKnown : machine.classes.contains name = true
  · have same : machine.take home (.needClass name) = ⟨none, [], machine⟩ := by
      simp only [take, isKnown, if_true]
    rw [takeAll_fine machine home (by rw [same]), same]
    rw [same] at later
    obtain ⟨loads, fine⟩ := later rfl
    exact ⟨by simpa using loads, by simpa using fine⟩
  · have new : name ∉ machine.classes := by simpa using isKnown
    obtain ⟨counted, left⟩ := performAll_machine machine (loading home name)
    rcases performAll_loading machine home name with
      ⟨fine, shown⟩ | ⟨trouble, struck, ⟨shown, silently, rfl⟩ | ⟨shown, reason⟩⟩
    · have same : machine.take home (.needClass name) =
          ⟨none, [.called (.ofLoading home.loader name)],
            { machine with uses := counted, classes := machine.classes ++ [name] }⟩ := by
        simp only [take, isKnown, fine, shown, left]
        rfl
      rw [takeAll_fine machine home (by rw [same]), same]
      rw [same] at later
      obtain ⟨loads, next, rest, begins, kind⟩ := later rfl
      refine ⟨?_, .called (.ofLoading home.loader name), _, rfl, rfl⟩
      simp only [List.nil_append, List.cons_append, begins] at loads ⊢
      exact .done new kind loads
    · have same : machine.take home (.needClass name) =
          machine.performAll (loading home name) := by
        simp only [take, isKnown, struck]
        rfl
      rw [takeAll_struck machine home (by rw [same, struck]), same]
      refine ⟨?_, ?_⟩
      · rw [struck, shown, left]
        exact .of_unrelated (settled_unrelated _)
      · rw [struck, shown]
        cases silently <;> exact ⟨_, _, rfl, by decide⟩
    · have same : machine.take home (.needClass name) =
          machine.performAll (loading home name) := by
        simp only [take, isKnown, struck]
        rfl
      rw [takeAll_struck machine home (by rw [same, struck]), same]
      refine ⟨?_, .called (.ofLoading home.loader name), _, by rw [shown]; rfl, rfl⟩
      rw [struck, shown, left]
      rcases reason with rfl | rfl
      · exact .failed new (by decide) (.other rfl .nil)
      · exact .failed new (by decide) .nil

variable {home} in
/-- What comes of inner steps up to a call. -/
theorem takeAll_continues {steps : List Step} (asks : Asks steps) (machine : Machine) :
    Continues home.loader machine.classes (machine.takeAll home steps) := by
  obtain ⟨inner, before, invocation, rfl⟩ := asks
  induction before generalizing machine with
  | nil =>
      refine continues_use (inner _ (by simp)) fun _ => .called (inner _ (by simp)) ?_
      simpa [take, takeAll, settled] using .nil
  | cons step before inductionHypothesis =>
      have later := inductionHypothesis (machine.take home step).machine
        fun other member => inner other (by simp_all)
      have innerStep := inner step (by simp)
      cases step with
      | needClass name => exact continues_needClass fun _ => later
      | use use =>
          have same : (machine.take home (.use use)).machine.classes = machine.classes := by
            simp [take]
          rw [same] at later
          refine continues_use innerStep fun _ => ?_
          cases use with
          | call invocation => exact .called innerStep later.loads
          | makeText | makeArray | setElement => simpa [Use.shown] using later
          | attach | pushFrame | findMachine | readText | throwNew =>
              simp [Step.isInner] at innerStep

/-- A use that shows nothing is no part of a load. -/
theorem loads_silent (home : Home) (use : Use) {steps : List Step}
    (silent : ∀ fine, use.shown fine = [])
    (later : ∀ machine : Machine, Loads home.loader machine.classes
      ((machine.takeAll home steps).events ++ settled (machine.takeAll home steps).trouble)
      (machine.takeAll home steps).machine.classes) (machine : Machine) :
    Loads home.loader machine.classes
      ((machine.takeAll home (.use use :: steps)).events ++
        settled (machine.takeAll home (.use use :: steps)).trouble)
      (machine.takeAll home (.use use :: steps)).machine.classes := by
  cases trouble : (machine.take home (.use use)).trouble with
  | some trouble =>
      rw [takeAll_struck machine home trouble]
      simpa [take, silent] using .of_unrelated (settled_unrelated _)
  | none =>
      have loads := later (machine.take home (.use use)).machine
      rw [takeAll_fine machine home trouble]
      simpa [take, silent] using loads

/-- What comes of a request reads as loads. -/
theorem request_loads {machine : Machine} {home : Home} (bound : machine.home = some home)
    (attaches : Bool) {steps : Home → List Step} (asks : Asks (steps home)) :
    Loads home.loader machine.classes (machine.request attaches steps).2.1
      (machine.request attaches steps).2.2.classes := by
  have framed := loads_silent home .pushFrame (fun _ => rfl) fun machine =>
    (takeAll_continues asks machine).loads
  rw [request_bound attaches steps bound]
  cases attaches with
  | false => exact framed machine
  | true => exact loads_silent home .attach (fun _ => rfl) framed machine

end Machine

end Storefront.Host
