import Storefront.Proofs.Loading

/-!
# What calls call

On a bridge, the questions and the end of a session become calls of the billing class, and
offers and failures become calls of the catalog class. Each action makes the one call it stands
for, or its request failed on the way.
-/

namespace Storefront.Host

/-- The call that shows the purchase flow for a product. -/
def launchingCall (handle : Handle) (presentation id : String) : Invocation :=
  ⟨.class billingBridge, "launchBillingFlow", "(JLandroid/app/Activity;Ljava/lang/String;)V",
    [.long handle, .object presentation, .text id]⟩

/-- The call that puts a question. -/
def askingCall (handle : Handle) (home : Home) : Question → Invocation
  | .setup =>
      ⟨.class billingBridge, "startConnection", "(Landroid/content/Context;J)V",
        [.object home.context, .long handle]⟩
  | .offers skus skuType =>
      ⟨.class billingBridge, "querySkuDetails", "(J[Ljava/lang/String;Ljava/lang/String;)V",
        [.long handle, .array skus, .text skuType.word]⟩
  | .launch sku presentation => launchingCall handle presentation sku.sku

/-- The call that ends a connection. -/
def endingCall (handle : Handle) : Invocation :=
  ⟨.class billingBridge, "endConnection", "(J)V", [.long handle]⟩

/-- The call that hands a text to the receiver of offers. -/
def tellingCall (method text : String) : Invocation :=
  ⟨.class catalogBridge, method, "(Ljava/lang/String;)V", [.text text]⟩

/-- The call an action stands for. -/
def callOf (home : Home) (session : Nat) : Action → Option Invocation
  | .ask question => some (askingCall session home question)
  | .endSession => some (endingCall session)
  | .deliver catalog => some (tellingCall "onSkuDetailsReceived" catalog)
  | .report failure => some (tellingCall "onSkuDetailsFailed" failure.message)
  | _ => none

/-- What is logged if that call cannot be made. About a question nothing is: the session hears
of it. -/
def lamentOf (session : Nat) : Action → Option LogLine
  | .endSession =>
      some ⟨.error, "failed to end billing connection " ++ toString (session : Handle) ++ ": Error"⟩
  | .deliver _ => some ⟨.error, "failed to call CatalogBridge.onSkuDetailsReceived: Error"⟩
  | .report _ => some ⟨.error, "failed to call CatalogBridge.onSkuDetailsFailed: Error"⟩
  | _ => none

/-! ## The steps of the requests -/

/-- Filling goes on where it stopped, and leaves what was set. -/
theorem fill_eq (done texts : List String) :
    fill (done.map some ++ List.replicate texts.length none) done.length texts =
      (done ++ texts).map some := by
  induction texts generalizing done with
  | nil => simp [fill]
  | cons text texts inductionHypothesis =>
      have set : (done.map some ++ List.replicate (texts.length + 1) none).set done.length
          (some text) = (done ++ [text]).map some ++ List.replicate texts.length none := by
        simp [List.replicate_succ]
      have further := inductionHypothesis (done ++ [text])
      rw [List.length_append, List.length_singleton, List.append_assoc] at further
      rw [fill, List.length_cons, set]
      exact further

/-- Every element of an array that is filled is set, each to its own text. -/
@[simp] theorem filled_eq (texts : List String) : filled texts = .array texts := by
  have all : fill (List.replicate texts.length none) 0 texts = texts.map some := fill_eq [] texts
  simp [filled, all, Function.comp_def]

theorem questionSteps_static (handle : Handle) (question : Question) (home : Home) :
    (questionSteps handle question home).filterMap Step.static? =
      [askingCall handle home question] := by
  cases question with
  | setup | launch => rfl
  | offers skus skuType =>
      have filling : (skus.flatMap fun _ => [Step.use .makeText, .use .setElement]).filterMap
          Step.static? = [] := by
        rw [List.filterMap_eq_nil_iff]
        intro step member
        simp only [List.mem_flatMap, List.mem_cons, List.not_mem_nil, or_false] at member
        obtain ⟨_, _, rfl | rfl⟩ := member <;> rfl
      simp only [questionSteps, List.filterMap_append, filling, filled_eq]
      rfl

theorem questionSteps_asks (handle : Handle) (question : Question) (home : Home) :
    Machine.Asks (questionSteps handle question home) := by
  cases question with
  | setup => exact ⟨by simp [questionSteps, callStatic, Step.isInner, methodOf], [_], _, rfl⟩
  | launch sku presentation =>
      exact ⟨by simp [questionSteps, callStatic, Step.isInner, methodOf], [_, _], _, rfl⟩
  | offers skus skuType =>
      refine ⟨fun step member => ?_, [.needClass billingBridge, .needClass textClass,
        .use .makeArray] ++ skus.flatMap (fun _ => [Step.use .makeText, .use .setElement]) ++
        [.use .makeText], _, by simp [questionSteps, callStatic]; rfl⟩
      simp only [questionSteps, List.cons_append, List.nil_append, List.mem_cons, List.mem_append,
        List.mem_flatMap, List.not_mem_nil, or_false] at member
      rcases member with rfl | rfl | rfl | ⟨_, _, rfl | rfl⟩ | rfl | rfl <;> rfl

theorem endSteps_asks (handle : Handle) (home : Home) : Machine.Asks (endSteps handle home) :=
  ⟨by simp [endSteps, callStatic, Step.isInner], [_], _, rfl⟩

theorem receiverSteps_asks {method : String} (other : method ≠ "loadClass") (text : String)
    (home : Home) : Machine.Asks (receiverSteps method text home) :=
  ⟨by simp [receiverSteps, callStatic, Step.isInner, other], [_, _], _, rfl⟩

/-! ## Actions -/

/-- The request an action makes. -/
def requestOf (session : Nat) : Action → Option (Home → List Step)
  | .ask question => some (questionSteps session question)
  | .endSession => some (endSteps session)
  | .deliver catalog => some (receiverSteps "onSkuDetailsReceived" catalog)
  | .report failure => some (receiverSteps "onSkuDetailsFailed" failure.message)
  | _ => none

theorem requestOf_asks {session : Nat} {action : Action} {steps : Home → List Step}
    (requests : requestOf session action = some steps) (home : Home) :
    Machine.Asks (steps home) := by
  cases action with
  | ask question => cases requests; exact questionSteps_asks ..
  | endSession => cases requests; exact endSteps_asks ..
  | deliver | report => cases requests; exact receiverSteps_asks (by decide) ..
  | begin | log | raiseFlag | lowerFlag | openSession | finish => cases requests

theorem requestOf_static {session : Nat} {action : Action} {steps : Home → List Step}
    (requests : requestOf session action = some steps) (home : Home) :
    (steps home).filterMap Step.static? = (callOf home session action).toList := by
  cases action with
  | ask question => cases requests; exact questionSteps_static ..
  | endSession | deliver | report => cases requests; rfl
  | begin | log | raiseFlag | lowerFlag | openSession | finish => cases requests

theorem callOf_none {session : Nat} {action : Action} (idle : requestOf session action = none)
    (home : Home) : callOf home session action = none := by
  cases action <;> first | rfl | cases idle

section act

variable {detached : Bool} {scene : Scene} {action : Action} {bridge : Bridge} {home : Home}

/-- An action that makes a request shows what comes of it. -/
theorem act_request {steps : Home → List Step}
    (requests : requestOf scene.session action = some steps) :
    ((hosted detached).act scene action bridge).2.machine =
        (bridge.machine.request detached steps).2.2 ∧
      ((hosted detached).act scene action bridge).1 =
        (bridge.machine.request detached steps).2.1 ++
          if (bridge.machine.request detached steps).1 then []
          else (lamentOf scene.session action).toList.map .log := by
  cases action with
  | ask question =>
      cases requests
      refine ⟨rfl, ?_⟩
      simp only [lamentOf, Option.toList_none, List.map_nil, ite_self, List.append_nil]
      rfl
  | endSession | deliver | report => cases requests; exact ⟨rfl, rfl⟩
  | begin | log | raiseFlag | lowerFlag | openSession | finish => cases requests

variable (detached bridge) in
/-- Any other action is seen in the log at most. -/
theorem act_silent (idle : requestOf scene.session action = none) :
    (∃ counted, ((hosted detached).act scene action bridge).2.machine =
        { bridge.machine with uses := counted }) ∧
      ∀ event ∈ ((hosted detached).act scene action bridge).1, ∃ line, event = .log line := by
  cases action with
  | ask | endSession | deliver | report => cases idle
  | begin | log | raiseFlag | lowerFlag | openSession =>
      exact ⟨⟨bridge.machine.uses, rfl⟩, fun event member => by cases member⟩
  | finish purpose ending =>
      have lines : ∀ event ∈ (outcomeLine purpose ending).toList.map Event.log,
          ∃ line, event = .log line := fun event member => by
        obtain ⟨line, _, rfl⟩ := List.mem_map.mp member
        exact ⟨line, rfl⟩
      cases detached with
      | false => exact ⟨⟨bridge.machine.uses, rfl⟩, fun event member => by cases member⟩
      | true =>
          cases purpose with
          | lookup => exact ⟨⟨bridge.machine.uses, rfl⟩, lines⟩
          | purchase =>
              refine ⟨⟨_, bridge.machine.perform_machine .attach⟩, fun event member => ?_⟩
              rcases List.mem_append.mp member with said | shown
              · exact lines event said
              · rw [Machine.perform_events] at shown
                cases shown

variable (detached scene action bridge) in
/-- Whatever a call does, the machine has but new counts and loaded classes after it. -/
theorem act_machine :
    ∃ counted loaded, ((hosted detached).act scene action bridge).2.machine =
      { bridge.machine with uses := counted, classes := loaded } := by
  cases requests : requestOf scene.session action with
  | some steps =>
      rw [(act_request requests).1]
      exact bridge.machine.request_machine detached steps
  | none =>
      obtain ⟨⟨counted, same⟩, _⟩ := act_silent detached bridge requests
      exact ⟨counted, bridge.machine.classes, same⟩

@[simp] theorem act_home :
    ((hosted detached).act scene action bridge).2.machine.home = bridge.machine.home := by
  obtain ⟨_, _, same⟩ := act_machine detached scene action bridge
  rw [same]

@[simp] theorem act_faults :
    ((hosted detached).act scene action bridge).2.machine.faults = bridge.machine.faults := by
  obtain ⟨_, _, same⟩ := act_machine detached scene action bridge
  rw [same]

variable (detached scene action) in
/-- What an action shows on a bridge that is not bound is in the log, its lament included. -/
theorem act_unbound (unbound : bridge.machine.home = none) :
    ((hosted detached).act scene action bridge).2.machine.classes = bridge.machine.classes ∧
      (∀ event ∈ ((hosted detached).act scene action bridge).1, ∃ line, event = .log line) ∧
      ∀ line ∈ lamentOf scene.session action,
        .log line ∈ ((hosted detached).act scene action bridge).1 := by
  cases requests : requestOf scene.session action with
  | some steps =>
      rw [(act_request requests).1, (act_request requests).2,
        Machine.request_unbound detached steps unbound]
      refine ⟨rfl, fun event member => ?_, fun line lament => by simp [Option.mem_def.mp lament]⟩
      simp only [Bool.false_eq_true, if_false, List.cons_append, List.nil_append, List.mem_cons,
        List.mem_map] at member
      rcases member with rfl | ⟨line, _, rfl⟩ <;> exact ⟨_, rfl⟩
  | none =>
      obtain ⟨⟨counted, same⟩, logged⟩ := act_silent detached bridge requests
      refine ⟨by rw [same], logged, fun line lament => ?_⟩
      cases action with
      | endSession | deliver | report => cases requests
      | ask | begin | log | raiseFlag | lowerFlag | openSession | finish => cases lament

variable (bound : bridge.machine.home = some home)
include bound

/-- What an action shows reads as loads. -/
theorem act_loads :
    Loads home.loader bridge.machine.classes ((hosted detached).act scene action bridge).1
      ((hosted detached).act scene action bridge).2.machine.classes := by
  cases requests : requestOf scene.session action with
  | some steps =>
      rw [(act_request requests).1, (act_request requests).2]
      refine (Machine.request_loads bound detached (requestOf_asks requests home)).append
        (.of_unrelated ?_)
      split
      · simp
      · simp [Event.isLoad]
  | none =>
      obtain ⟨⟨counted, same⟩, logged⟩ := act_silent detached bridge requests
      rw [same]
      refine .of_unrelated fun event member => ?_
      obtain ⟨line, rfl⟩ := logged event member
      rfl

/-- An action calls nothing but what it stands for, and if it fails to, that is lamented. -/
theorem act_static :
    (((hosted detached).act scene action bridge).1.filterMap Event.static?) <+:
        (callOf home scene.session action).toList ∧
      (((hosted detached).act scene action bridge).1.filterMap Event.static? =
          (callOf home scene.session action).toList ∨
        ∀ line ∈ lamentOf scene.session action,
          .log line ∈ ((hosted detached).act scene action bridge).1) := by
  have unsaid : ∀ lines : List LogLine, (lines.map Event.log).filterMap Event.static? = [] := by
    simp [List.filterMap_eq_nil_iff, Event.static?]
  cases requests : requestOf scene.session action with
  | some steps =>
      obtain ⟨calls, all⟩ := Machine.request_static bound detached steps
      rw [requestOf_static requests] at calls all
      rw [(act_request requests).2]
      cases issued : (bridge.machine.request detached steps).1 with
      | true => exact ⟨by simpa using calls, .inl (by simpa using all issued)⟩
      | false => exact ⟨by simpa [unsaid] using calls, .inr (by simp_all)⟩
  | none =>
      have silent : ((hosted detached).act scene action bridge).1.filterMap Event.static? = [] := by
        rw [List.filterMap_eq_nil_iff]
        intro event member
        obtain ⟨line, rfl⟩ := (act_silent detached bridge requests).2 event member
        rfl
      rw [silent, callOf_none requests home]
      exact ⟨List.prefix_rfl, .inl rfl⟩

end act

/-! ## A machine that refuses nothing -/

/-- What no request uses. -/
def idleUses : List String := ["GetStringUTFChars", "ThrowNew", "getClassLoader"]

/-- A machine that attaches threads, grants frames, texts, arrays and references, loads classes
and lets methods return. -/
def Machine.IsObliging (machine : Machine) : Prop :=
  ∀ fault ∈ machine.faults, fault.on ∈ idleUses

/-- Whether an obliging machine lets a step pass. -/
def Step.isGranted : Step → Bool
  | .use made => made.name ∉ idleUses
  | .needClass _ => true

namespace Machine

variable {machine : Machine} (obliging : machine.IsObliging)
include obliging

theorem IsObliging.perform {use : Use} (granted : use.name ∉ idleUses) :
    (machine.perform use).trouble = none :=
  machine.perform_unstruck fun fault member same => granted (same ▸ obliging fault member)

theorem IsObliging.performAll {uses : List Use} (granted : ∀ use ∈ uses, use.name ∉ idleUses) :
    (machine.performAll uses).trouble = none := by
  induction uses generalizing machine with
  | nil => rfl
  | cons use rest inductionHypothesis =>
      have fine := obliging.perform (granted use (List.mem_cons_self ..))
      rw [performAll_fine machine fine]
      have still : (machine.perform use).machine.IsObliging := by simpa [IsObliging] using obliging
      exact inductionHypothesis still fun other member =>
        granted other (List.mem_cons_of_mem _ member)

theorem IsObliging.take (home : Home) {step : Step} (granted : step.isGranted = true) :
    (machine.take home step).trouble = none := by
  cases step with
  | use use => exact obliging.perform (by simpa [Step.isGranted] using granted)
  | needClass name =>
      have loaded : (machine.performAll (loading home name)).trouble = none :=
        obliging.performAll (by simp [loading, Use.name, idleUses])
      unfold Machine.take
      dsimp only
      split
      · rfl
      · rw [loaded]

theorem IsObliging.takeAll (home : Home) {steps : List Step}
    (granted : ∀ step ∈ steps, step.isGranted = true) :
    (machine.takeAll home steps).trouble = none := by
  induction steps generalizing machine with
  | nil => rfl
  | cons step rest inductionHypothesis =>
      have fine := obliging.take home (granted step (List.mem_cons_self ..))
      obtain ⟨_, _, same⟩ := machine.take_machine home step
      have still : (machine.take home step).machine.IsObliging := by rwa [same]
      rw [takeAll_fine machine home fine]
      exact inductionHypothesis still fun other member =>
        granted other (List.mem_cons_of_mem _ member)

end Machine

theorem requestOf_granted {session : Nat} {action : Action} {steps : Home → List Step}
    (requests : requestOf session action = some steps) (home : Home) :
    ∀ step ∈ steps home, step.isGranted = true := by
  cases action with
  | ask question =>
      cases requests
      cases question with
      | setup | launch =>
          simp [questionSteps, callStatic, Step.isGranted, Use.name, methodOf, idleUses]
      | offers skus skuType =>
          intro step member
          simp only [questionSteps, List.cons_append, List.nil_append, List.mem_cons,
            List.mem_append, List.mem_flatMap, List.not_mem_nil, or_false] at member
          rcases member with rfl | rfl | rfl | ⟨_, _, rfl | rfl⟩ | rfl | rfl <;>
            simp [callStatic, Step.isGranted, Use.name, methodOf, idleUses]
  | endSession => cases requests; simp [endSteps, callStatic, Step.isGranted, Use.name, idleUses]
  | deliver | report =>
      cases requests; simp [receiverSteps, callStatic, Step.isGranted, Use.name, idleUses]
  | begin | log | raiseFlag | lowerFlag | openSession | finish => cases requests

/-- On an obliging machine, every action makes the call it stands for. -/
theorem act_obliging {detached : Bool} {scene : Scene} {action : Action} {bridge : Bridge}
    {home : Home} (bound : bridge.machine.home = some home)
    (obliging : bridge.machine.IsObliging) :
    ((hosted detached).act scene action bridge).1.filterMap Event.static? =
      (callOf home scene.session action).toList := by
  cases requests : requestOf scene.session action with
  | none =>
      rw [callOf_none requests home, List.filterMap_eq_nil_iff.mpr]
      · rfl
      · intro event member
        obtain ⟨line, rfl⟩ := (act_silent detached bridge requests).2 event member
        rfl
  | some steps =>
      have granted : ∀ step ∈ Machine.entering detached ++ steps home, step.isGranted = true := by
        intro step member
        rcases List.mem_append.mp member with enters | asked
        · have enters : ∀ step ∈ Machine.entering detached, step.isGranted = true := by
            cases detached <;> decide
          exact enters step ‹_›
        · exact requestOf_granted requests home step asked
      have issued : (bridge.machine.request detached steps).1 = true := by
        rw [Machine.request_bound detached steps bound]
        simp [obliging.takeAll home granted]
      rw [(act_request requests).2, issued, if_pos rfl, List.append_nil,
        (Machine.request_static bound detached steps).2 issued, requestOf_static requests]

end Storefront.Host
