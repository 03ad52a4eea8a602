import Storefront.Host.Bridge

/-!
# What uses leave of the machine

A use is counted, and that is all it leaves behind; a request leaves the classes it loaded
besides. The calls that are made for a request are those of its steps, as far as it got.
-/

namespace Storefront.Host

/-- Loading a class through a class loader. -/
def Invocation.ofLoading (loader name : String) : Invocation :=
  ⟨.object loader, "loadClass", "(Ljava/lang/String;)Ljava/lang/Class;", [.text name]⟩

/-- The static call that an event shows, if it shows one. -/
def Event.static? : Event → Option Invocation
  | .called invocation =>
      match invocation.target with
      | .class _ => some invocation
      | .object _ => none
  | _ => none

/-- The static call that a step makes, if it makes one. -/
def Step.static? : Step → Option Invocation
  | .use (.call invocation) => (Event.called invocation).static?
  | _ => none

@[simp] theorem Event.static?_ofLoading (loader name : String) :
    (Event.called (.ofLoading loader name)).static? = none := rfl

namespace Machine

variable (machine : Machine) (home : Home)

@[simp] theorem perform_machine (use : Use) :
    (machine.perform use).machine = { machine with uses := machine.uses ++ [use.name] } := by
  unfold perform
  dsimp only
  split <;> rfl

@[simp] theorem perform_events (use : Use) :
    (machine.perform use).events = use.shown (machine.perform use).trouble.isNone := by
  unfold perform
  dsimp only
  split <;> rfl

variable {machine} in
/-- A use that fails was named by a fault. -/
theorem perform_struck {use : Use} {trouble : Trouble}
    (struck : (machine.perform use).trouble = some trouble) :
    ∃ fault ∈ machine.faults, fault.on = use.name ∧ trouble = use.trouble fault.silently := by
  unfold perform at struck
  dsimp only at struck
  split at struck
  · simp at struck
  · next fault found =>
    have named := List.find?_some found
    simp only [Bool.and_eq_true, decide_eq_true_eq] at named
    exact ⟨fault, List.mem_of_find?_eq_some found, named.1, (Option.some.inj struck).symm⟩

variable {machine} in
theorem perform_trouble {use : Use} {trouble : Trouble}
    (struck : (machine.perform use).trouble = some trouble) :
    ∃ silently, trouble = use.trouble silently := by
  obtain ⟨fault, _, _, same⟩ := perform_struck struck
  exact ⟨_, same⟩

/-- A use that no fault names does not fail. -/
theorem perform_unstruck {use : Use} (spared : ∀ fault ∈ machine.faults, fault.on ≠ use.name) :
    (machine.perform use).trouble = none := by
  cases trouble : (machine.perform use).trouble with
  | none => rfl
  | some trouble =>
      obtain ⟨fault, member, named, _⟩ := perform_struck trouble
      exact absurd named (spared fault member)

theorem performAll_fine {use : Use} {uses : List Use}
    (fine : (machine.perform use).trouble = none) :
    machine.performAll (use :: uses) =
      { (machine.perform use).machine.performAll uses with
        events := (machine.perform use).events ++
          ((machine.perform use).machine.performAll uses).events } := by
  simp only [performAll, fine]

theorem performAll_struck {use : Use} {uses : List Use} {trouble : Trouble}
    (struck : (machine.perform use).trouble = some trouble) :
    machine.performAll (use :: uses) = machine.perform use := by
  simp only [performAll, struck]

/-- Uses leave nothing behind but their count. -/
theorem performAll_machine (uses : List Use) :
    ∃ counted, (machine.performAll uses).machine = { machine with uses := counted } := by
  induction uses generalizing machine with
  | nil => exact ⟨machine.uses, rfl⟩
  | cons use rest inductionHypothesis =>
      cases trouble : (machine.perform use).trouble with
      | some trouble =>
          rw [performAll_struck machine trouble]
          exact ⟨_, perform_machine machine use⟩
      | none =>
          obtain ⟨counted, same⟩ := inductionHypothesis (machine.perform use).machine
          rw [performAll_fine machine trouble]
          exact ⟨counted, same.trans (by simp)⟩

/-- Whatever uses show, one of them shows. -/
theorem performAll_shown {uses : List Use} {event : Event}
    (member : event ∈ (machine.performAll uses).events) :
    ∃ use ∈ uses, ∃ fine, event ∈ use.shown fine := by
  induction uses generalizing machine with
  | nil => simp [performAll] at member
  | cons use rest inductionHypothesis =>
      cases trouble : (machine.perform use).trouble with
      | some trouble =>
          rw [performAll_struck machine trouble, perform_events] at member
          exact ⟨use, List.mem_cons_self .., _, member⟩
      | none =>
          rw [performAll_fine machine trouble, perform_events] at member
          rcases List.mem_append.mp member with first | later
          · exact ⟨use, List.mem_cons_self .., _, first⟩
          · obtain ⟨other, among, shown⟩ := inductionHypothesis _ later
            exact ⟨other, List.mem_cons_of_mem _ among, shown⟩

/-- The uses it takes to bind the bridge. -/
def binding (home : Home) : List Use := [
  .call ⟨.object home.context, "getClassLoader", "()Ljava/lang/ClassLoader;", []⟩,
  .findMachine, .findMachine, .findMachine]

/-- A machine that is not bound is bound if nothing fails. -/
theorem bind_unbound (unbound : machine.home = none) :
    (machine.bind home).events = (machine.performAll (binding home)).events ∧
      ∃ counted, (machine.bind home).machine =
        { machine with
          uses := counted
          home := if (machine.bind home).trouble.isNone then some home else none } := by
  obtain ⟨counted, left⟩ := performAll_machine machine (binding home)
  simp only [binding] at left
  simp only [bind, unbound]
  cases trouble : (machine.performAll (binding home)).trouble <;> simp only [binding] at trouble
  · simp only [trouble]
    exact ⟨rfl, counted, by simp [left]⟩
  · simp only [trouble]
    exact ⟨rfl, counted, by simp [left, unbound]⟩

theorem takeAll_fine {step : Step} {steps : List Step}
    (fine : (machine.take home step).trouble = none) :
    machine.takeAll home (step :: steps) =
      { (machine.take home step).machine.takeAll home steps with
        events := (machine.take home step).events ++
          ((machine.take home step).machine.takeAll home steps).events } := by
  simp only [takeAll, fine]

theorem takeAll_struck {step : Step} {steps : List Step} {trouble : Trouble}
    (struck : (machine.take home step).trouble = some trouble) :
    machine.takeAll home (step :: steps) = machine.take home step := by
  simp only [takeAll, struck]

/-- What the loading of a class shows, and whether it failed: before the loader is asked, at it,
or at the reference that is to last. -/
theorem performAll_loading (name : String) :
    let done := machine.performAll (loading home name)
    (done.trouble = none ∧ done.events = [.called (.ofLoading home.loader name)]) ∨
      ∃ trouble, done.trouble = some trouble ∧
        (done.events = [] ∧ (∃ silently, trouble = Use.makeText.trouble silently) ∨
          done.events = [.called (.ofLoading home.loader name)] ∧
            (trouble = .pending ⟨"java.lang.RuntimeException", "loadClass"⟩ ∨
              trouble = .errorCode)) := by
  intro done
  let call : Use := .call (.ofLoading home.loader name)
  have whole : done = machine.performAll [.makeText, call, .findMachine] := rfl
  clear_value done
  subst whole
  cases texted : (machine.perform .makeText).trouble with
  | some trouble =>
      rw [performAll_struck machine texted]
      exact .inr ⟨trouble, texted, .inl ⟨by simp [Use.shown], perform_trouble texted⟩⟩
  | none =>
      rw [performAll_fine machine texted]
      generalize (machine.perform .makeText).machine = next
      cases called : (next.perform call).trouble with
      | some trouble =>
          obtain ⟨silently, rfl⟩ := perform_trouble called
          rw [performAll_struck next called]
          exact .inr ⟨_, called, .inr ⟨by simp [Use.shown, call], .inl rfl⟩⟩
      | none =>
          rw [performAll_fine next called]
          generalize (next.perform call).machine = last
          cases kept : (last.perform .findMachine).trouble with
          | some trouble =>
              obtain ⟨silently, rfl⟩ := perform_trouble kept
              rw [performAll_struck last kept]
              exact .inr ⟨_, kept, .inr ⟨by simp [Use.shown, call], .inr rfl⟩⟩
          | none =>
              rw [performAll_fine last kept]
              exact .inl ⟨rfl, by simp [Use.shown, call, performAll]⟩

/-- A step leaves nothing behind but the count of uses, and a class that it loaded. -/
theorem take_machine (step : Step) :
    ∃ counted loaded, (machine.take home step).machine =
      { machine with uses := counted, classes := loaded } := by
  cases step with
  | use use => exact ⟨_, machine.classes, perform_machine machine use⟩
  | needClass name =>
      obtain ⟨counted, same⟩ := performAll_machine machine (loading home name)
      unfold take
      dsimp only
      split
      · exact ⟨machine.uses, machine.classes, rfl⟩
      · split
        · exact ⟨counted, machine.classes, same⟩
        · exact ⟨counted, machine.classes ++ [name], by simp [same]⟩

theorem takeAll_machine (steps : List Step) :
    ∃ counted loaded, (machine.takeAll home steps).machine =
      { machine with uses := counted, classes := loaded } := by
  induction steps generalizing machine with
  | nil => exact ⟨machine.uses, machine.classes, rfl⟩
  | cons step rest inductionHypothesis =>
      obtain ⟨counted, loaded, first⟩ := take_machine machine home step
      cases trouble : (machine.take home step).trouble with
      | some trouble =>
          rw [takeAll_struck machine home trouble]
          exact ⟨counted, loaded, first⟩
      | none =>
          obtain ⟨further, more, later⟩ := inductionHypothesis (machine.take home step).machine
          rw [takeAll_fine machine home trouble]
          exact ⟨further, more, later.trans (by rw [first])⟩

section Request

variable {machine home} (attaches : Bool) (steps : Home → List Step)

/-- What is done before the steps of a request. -/
def entering (attaches : Bool) : List Step :=
  (if attaches then [Step.use .attach] else []) ++ [.use .pushFrame]

theorem request_unbound (unbound : machine.home = none) :
    machine.request attaches steps =
      (false, [.log ⟨.error, "catalog-bridge was used before `android::init_with_env`"⟩],
        machine) := by
  simp only [request, unbound]

theorem request_bound (bound : machine.home = some home) :
    machine.request attaches steps =
      let done := machine.takeAll home (entering attaches ++ steps home)
      (done.trouble.isNone, done.events ++ settled done.trouble, done.machine) := by
  simp only [request, bound, entering]

/-- Nor does a request leave more. -/
theorem request_machine :
    ∃ counted loaded, (machine.request attaches steps).2.2 =
      { machine with uses := counted, classes := loaded } := by
  cases bound : machine.home with
  | none =>
      rw [request_unbound attaches steps bound]
      exact ⟨machine.uses, machine.classes, bound ▸ rfl⟩
  | some home =>
      rw [request_bound attaches steps bound, ← bound]
      exact takeAll_machine machine home (entering attaches ++ steps home)

end Request

/-! ## The calls of a request -/

/-- The call of a step is shown, if one is made; and nothing else is called statically. -/
theorem take_static (step : Step) :
    ((machine.take home step).events.filterMap Event.static?) <+: step.static?.toList ∧
      ((machine.take home step).trouble = none →
        (machine.take home step).events.filterMap Event.static? = step.static?.toList) := by
  cases step with
  | use use =>
      simp only [take, perform_events]
      cases use with
      | throwNew raised =>
          cases (machine.perform (.throwNew raised)).trouble <;>
            simp [Use.shown, Event.static?, Step.static?]
      | call invocation =>
          cases called : (Event.called invocation).static? <;>
            simp [Use.shown, Step.static?, called]
      | _ => simp [Use.shown, Step.static?]
  | needClass name =>
      have silent :
          (machine.performAll (loading home name)).events.filterMap Event.static? = [] := by
        rcases performAll_loading machine home name with
          ⟨_, shown⟩ | ⟨_, _, ⟨shown, _⟩ | ⟨shown, _⟩⟩ <;> simp [shown]
      unfold take
      dsimp only
      split
      · simp [Step.static?]
      · split <;> simp [silent, Step.static?]

/-- The static calls made for some steps are those of the steps, as far as they were taken. -/
theorem takeAll_static (steps : List Step) :
    ((machine.takeAll home steps).events.filterMap Event.static?) <+: steps.filterMap Step.static? ∧
      ((machine.takeAll home steps).trouble = none →
        (machine.takeAll home steps).events.filterMap Event.static? =
          steps.filterMap Step.static?) := by
  induction steps generalizing machine with
  | nil => simp [takeAll]
  | cons step rest inductionHypothesis =>
      have first := take_static machine home step
      have whole : (step :: rest).filterMap Step.static? =
          step.static?.toList ++ rest.filterMap Step.static? := by
        cases called : step.static? <;> simp [called]
      rw [whole]
      cases trouble : (machine.take home step).trouble with
      | some trouble =>
          rw [takeAll_struck machine home trouble]
          exact ⟨first.1.trans (List.prefix_append ..), by simp [trouble]⟩
      | none =>
          have made := first.2 trouble
          have later := inductionHypothesis (machine.take home step).machine
          rw [takeAll_fine machine home trouble]
          simp only [List.filterMap_append, made]
          exact ⟨(List.prefix_append_right_inj _).mpr later.1, fun fine => by rw [later.2 fine]⟩

/-- What is shown about trouble is no call. -/
@[simp] theorem settled_static (trouble : Option Trouble) :
    (settled trouble).filterMap Event.static? = [] := by
  unfold settled
  split <;> rfl

/-- The static calls made for a request are those of its steps, as far as it got. -/
theorem request_static {machine : Machine} {home : Home} (bound : machine.home = some home)
    (attaches : Bool) (steps : Home → List Step) :
    ((machine.request attaches steps).2.1.filterMap Event.static?) <+:
        (steps home).filterMap Step.static? ∧
      ((machine.request attaches steps).1 = true →
        (machine.request attaches steps).2.1.filterMap Event.static? =
          (steps home).filterMap Step.static?) := by
  have silent : (entering attaches).filterMap Step.static? = [] := by cases attaches <;> rfl
  have calls := takeAll_static machine home (entering attaches ++ steps home)
  rw [List.filterMap_append, silent, List.nil_append] at calls
  rw [request_bound attaches steps bound]
  simpa using calls

end Machine

end Storefront.Host
