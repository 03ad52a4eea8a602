import Storefront.Proofs.Accounting
import Storefront.Proofs.Binding
import Storefront.Proofs.Protocol

/-!
# What an app hears of its sessions

Each session talks to the billing class under its own handle, and each call to the catalog
class. `Speaks` says that what is called statically is what the actions of calls stand for, or
is lamented in the log; what the actions are is known from `Passage` and `Account`.
-/

namespace Storefront

namespace Host

/-- The static calls of a service that are selected by their scene and by what is called. -/
def callsOf (select : Option Scene → Invocation → Bool) (service : Service Bridge Event) :
    List Invocation :=
  service.journal.filterMap fun entry =>
    ((shown? entry).bind Event.static?).filter (select entry.scene)

/-- The calls that some deeds stand for, selected in the same way. -/
def meantBy (select : Option Scene → Invocation → Bool) (home : Home) (deeds : List Deed) :
    List Invocation :=
  deeds.filterMap fun deed =>
    (callOf home deed.scene.session deed.action).filter (select (some deed.scene))

variable {select : Option Scene → Invocation → Bool} {home : Home}
  {service next : Service Bridge Event} {detached : Bool} {settings : Settings}

theorem callsOf_showed (now : Nat) (scene : Option Scene) (events : List Event) :
    ((events.map fun event => (⟨now, scene, .showed event⟩ : Entry Event)).filterMap fun entry =>
        ((shown? entry).bind Event.static?).filter (select entry.scene)) =
      (events.filterMap Event.static?).filter (select scene) := by
  induction events with
  | nil => rfl
  | cons event rest inductionHypothesis =>
      rw [List.map_cons, List.filterMap_cons, inductionHypothesis]
      cases called : event.static? with
      | none => simp [shown?, called]
      | some invocation =>
          cases chosen : select scene invocation <;> simp [shown?, called, chosen, Option.filter]

theorem callsOf_perform (scene : Scene) (action : Action) :
    callsOf select (service.perform (hosted detached) scene action) =
      callsOf select service ++
        (((hosted detached).act scene action service.world).1.filterMap Event.static?).filter
          (select (some scene)) := by
  rw [callsOf, Service.perform_journal, List.filterMap_append, List.filterMap_cons,
    callsOf_showed]
  rfl

/-- Whatever happens plainly calls nothing. -/
theorem Plainly.callsOf (plainly : Plainly service next) :
    callsOf select next = callsOf select service := by
  obtain ⟨now, events, same, plain⟩ := plainly.journal
  rw [Host.callsOf, same, List.filterMap_append, callsOf_showed, filterMap_static?_plain plain]
  simp [Host.callsOf]

/-- Whatever happens plainly is no deed. -/
theorem Plainly.deeds (plainly : Plainly service next) : next.deeds = service.deeds := by
  obtain ⟨now, events, same, _⟩ := plainly.journal
  simp [Service.deeds, same]

theorem meantBy_append (before after : List Deed) :
    meantBy select home (before ++ after) =
      meantBy select home before ++ meantBy select home after :=
  List.filterMap_append

theorem meantBy_one (scene : Scene) (action : Action) :
    meantBy select home [⟨scene, action⟩] =
      (callOf home scene.session action).toList.filter (select (some scene)) := by
  cases called : callOf home scene.session action with
  | none => simp [meantBy, called]
  | some invocation =>
      cases chosen : select (some scene) invocation <;>
        simp [meantBy, called, chosen, Option.filter]

/-- What is lamented does not depend on where the bridge is bound to. -/
theorem callOf_lamented {session : Nat} {action : Action} {line : LogLine}
    (lament : lamentOf session action = some line) (one other : Home) :
    callOf one session action = callOf other session action := by
  cases action with
  | endSession | deliver | report => rfl
  | ask | begin | log | raiseFlag | lowerFlag | openSession | finish => cases lament

/-- What was called is what was meant; if something was meant and not called, it was lamented. -/
structure Speaks (service : Service Bridge Event) : Prop where
  silent : service.world.machine.home = none → ∀ select, callsOf select service = []
  meant : ∀ {home}, service.world.machine.home = some home → ∀ select,
    (callsOf select service).Sublist (meantBy select home service.deeds)
  lamented : ∀ {deed line}, deed ∈ service.deeds →
    lamentOf deed.scene.session deed.action = some line → .log line ∈ shown service ∨
      ∀ select home call, callOf home deed.scene.session deed.action = some call →
        select (some deed.scene) call = true → call ∈ callsOf select service

theorem Speaks.plainly (speaks : Speaks service) (plainly : Plainly service next) :
    Speaks next := by
  obtain ⟨events, shows, plain⟩ := plainly.shows
  refine ⟨fun unbound select => ?_, fun {home} bound select => ?_,
    fun {deed line} member lament => ?_⟩
  · rw [plainly.callsOf]
    rcases plainly.home with same | was
    · exact speaks.silent (same ▸ unbound) select
    · exact speaks.silent was select
  · rw [plainly.callsOf, plainly.deeds]
    rcases plainly.home with same | was
    · exact speaks.meant (same ▸ bound) select
    · rw [speaks.silent was select]
      exact List.nil_sublist _
  · rw [plainly.deeds] at member
    rcases speaks.lamented member lament with logged | called
    · exact .inl (shows ▸ List.mem_append_left _ logged)
    · exact .inr fun select => by rw [plainly.callsOf]; exact called select

/-- An action calls what it stands for, or it is lamented. -/
theorem Speaks.perform (speaks : Speaks service) (scene : Scene) (action : Action) :
    Speaks (service.perform (hosted detached) scene action) := by
  have shows := shown_perform detached scene service action
  have same : (service.perform (hosted detached) scene action).world.machine.home =
      service.world.machine.home := by rw [Service.perform_world, act_home]
  refine ⟨fun unbound select => ?_, fun {home} bound select => ?_,
    fun {deed line} member lament => ?_⟩
  · rw [same] at unbound
    obtain ⟨_, logged, _⟩ := act_unbound detached scene action unbound
    have nothing : ((hosted detached).act scene action service.world).1.filterMap Event.static? =
        [] := by
      refine List.filterMap_eq_nil_iff.mpr fun event member => ?_
      obtain ⟨line, rfl⟩ := logged event member
      rfl
    rw [callsOf_perform, nothing, speaks.silent unbound]
    rfl
  · rw [same] at bound
    rw [callsOf_perform, Service.perform_deeds, meantBy_append, meantBy_one]
    exact (speaks.meant bound select).append ((act_static bound).1.sublist.filter _)
  · rw [Service.perform_deeds, List.mem_append, List.mem_singleton] at member
    rcases member with before | rfl
    · rcases speaks.lamented before lament with logged | called
      · exact .inl (shows ▸ List.mem_append_left _ logged)
      · refine .inr fun select home call issued chosen => ?_
        rw [callsOf_perform]
        exact List.mem_append_left _ (called select home call issued chosen)
    · cases bound : service.world.machine.home with
      | none =>
          have logged := (act_unbound detached scene action bound).2.2 line lament
          exact .inl (shows ▸ List.mem_append_right _ logged)
      | some home =>
          rcases (act_static bound).2 with called | logged
          · refine .inr fun select other call issued chosen => ?_
            rw [callOf_lamented lament other home] at issued
            rw [callsOf_perform, called, issued]
            simp [chosen]
          · exact .inl (shows ▸ List.mem_append_right _ (logged line lament))

/-- What was done stays done. -/
theorem App.Reaches.deeds {before app : App} (reached : before.Reaches detached settings app) :
    before.service.deeds <+: app.service.deeds :=
  reached.keeps_plainly (before.service.deeds <+: ·.deeds)
    (fun kept plainly => by rwa [plainly.deeds])
    (fun service scene action kept => by
      rw [Service.perform_deeds]
      exact kept.trans (List.prefix_append ..))
    List.prefix_rfl

theorem App.Reaches.speaks {origin app : App} (reached : origin.Reaches detached settings app)
    (isNew : origin.IsNew) : Speaks app.service := by
  refine reached.keeps_plainly Speaks (fun kept plainly => kept.plainly plainly)
    (fun _ scene action kept => kept.perform scene action) ⟨?_, ?_, ?_⟩
  · simp [callsOf, isNew.blank]
  · simp [callsOf, isNew.blank]
  · simp [Service.deeds, isNew.blank]

/-- A machine that refuses nothing calls all that was meant since it was bound. -/
theorem App.Reaches.speaks_all {before app : App} (bound : before.home? = some home)
    (obliging : before.service.world.machine.IsObliging)
    (reached : before.Reaches detached settings app) :
    ∃ later, app.service.deeds = before.service.deeds ++ later ∧ ∀ select,
      callsOf select app.service =
        callsOf select before.service ++ meantBy select home later := by
  let motive : Service Bridge Event → Prop := fun service =>
    service.world.machine.home = some home ∧ service.world.machine.IsObliging ∧
      ∃ later, service.deeds = before.service.deeds ++ later ∧ ∀ select,
        callsOf select service = callsOf select before.service ++ meantBy select home later
  have kept : motive app.service := by
    refine reached.keeps_plainly motive ?_ ?_
      ⟨bound, obliging, [], by simp, fun select => by simp [meantBy]⟩
    · rintro service next ⟨bound, obliging, later, deeds, calls⟩ plainly
      refine ⟨(plainly.home.resolve_right (by simp [bound])).trans bound, ?_, later,
        plainly.deeds.trans deeds, fun select => plainly.callsOf.trans (calls select)⟩
      rwa [Machine.IsObliging, plainly.faults]
    · rintro service scene action ⟨bound, obliging, later, deeds, calls⟩
      refine ⟨by rw [Service.perform_world, act_home, bound], ?_, later ++ [⟨scene, action⟩],
        by simp [deeds], fun select => ?_⟩
      · rwa [Machine.IsObliging, Service.perform_world, act_faults]
      · rw [callsOf_perform, calls, act_obliging bound obliging, meantBy_append, meantBy_one,
          List.append_assoc]
  exact kept.2.2

/-! ## What is meant -/

/-- Whether a call of the billing class is made under a handle. -/
def Invocation.isOn (handle : Handle) (invocation : Invocation) : Bool :=
  invocation.target = .class billingBridge && invocation.arguments.contains (.long handle)

/-- The calls of the billing class that were made under a handle. -/
def callsOn (handle : Handle) (service : Service Bridge Event) : List Invocation :=
  callsOf (fun _ invocation => invocation.isOn handle) service

/-- The calls of the catalog class that were made for one call of the app. -/
def tellingsOf (index : Nat) (service : Service Bridge Event) : List Invocation :=
  callsOf (fun scene invocation =>
    scene.any (·.call = index) && invocation.target = .class catalogBridge) service

/-- The call that tells the receiver of offers something. -/
def tellingOf : Action → Option Invocation
  | .deliver catalog => some (tellingCall "onSkuDetailsReceived" catalog)
  | .report failure => some (tellingCall "onSkuDetailsFailed" failure.message)
  | _ => none

/-- The calls made under the handle of a session are uses of that session. -/
theorem callOf_isOn (session other : Nat) (action : Action) :
    (callOf home session action).filter (·.isOn other) =
      if session = other && action.isSession then callOf home other action else none := by
  by_cases same : session = other
  · subst same
    cases action with
    | ask question =>
        cases question <;>
          simp [callOf, askingCall, launchingCall, Invocation.isOn, Option.filter]
    | endSession => simp [callOf, endingCall, Invocation.isOn, Option.filter]
    | deliver | report =>
        simp [callOf, tellingCall, Invocation.isOn, Option.filter, billingBridge, catalogBridge]
    | begin | log | raiseFlag | lowerFlag | openSession | finish => simp [callOf, Option.filter]
  · have foreign : ¬ (other : Handle) = session := fun equal => same (Int.ofNat.inj equal).symm
    cases action with
    | ask question =>
        cases question <;>
          simp [callOf, askingCall, launchingCall, Invocation.isOn, Option.filter, same, foreign]
    | endSession => simp [callOf, endingCall, Invocation.isOn, Option.filter, same, foreign]
    | deliver | report =>
        simp [callOf, tellingCall, Invocation.isOn, Option.filter, billingBridge, catalogBridge,
          same]
    | begin | log | raiseFlag | lowerFlag | openSession | finish =>
        simp [callOf, Option.filter]

theorem meantBy_isOn (session : Nat) (deeds : List Deed) :
    meantBy (fun _ invocation => invocation.isOn session) home deeds =
      (usesOf session deeds).filterMap fun deed => callOf home session deed.action := by
  rw [usesOf, List.filterMap_filter, meantBy]
  exact List.filterMap_congr fun deed _ => callOf_isOn ..

theorem meantBy_tellings (index : Nat) (deeds : List Deed) :
    meantBy (fun scene invocation =>
        scene.any (·.call = index) && invocation.target = .class catalogBridge) home deeds =
      (told (actionsOf index deeds)).filterMap tellingOf := by
  rw [told, actionsOf, deedsOf, List.filterMap_filter, List.filterMap_map, List.filterMap_filter,
    meantBy]
  refine List.filterMap_congr fun deed _ => ?_
  by_cases own : deed.scene.call = index
  · cases action : deed.action with
    | ask question =>
        cases question <;>
          simp [callOf, askingCall, launchingCall, Option.filter, action, own, billingBridge,
            catalogBridge]
    | endSession =>
        simp [callOf, endingCall, Option.filter, action, own, billingBridge, catalogBridge]
    | deliver | report => simp [callOf, tellingCall, tellingOf, Option.filter, action, own]
    | begin | log | raiseFlag | lowerFlag | openSession | finish =>
        simp [callOf, Option.filter, action]
  · cases called : callOf home deed.scene.session deed.action <;> simp [Option.filter, own]

/-- What a session is asked for the accepted catalog of an order, from its start up to its end. -/
def conversation (settings : Settings) (home : Home) (order : Order)
    (catalog : Catalog.Canonical) (handle : Handle) : List Invocation :=
  [askingCall handle home .setup,
    askingCall handle home (.offers catalog.ids settings.skuType)] ++
    match order.purpose with
    | .lookup => []
    | .purchase => catalog.ids.map (launchingCall handle order.presentation)

/-- A beginning of the conversation of a session. -/
structure Begins (settings : Settings) (home : Home) (order : Order)
    (catalog : Catalog.Canonical) (session : Nat) (calls : List Invocation) : Prop where
  started : askingCall session home .setup ∈ calls
  inOrder : calls <+: conversation settings home order catalog session

section Passage

variable {order : Order} {index : Nat} {uses : List Deed}
  {answered : Scene → Stage → (since : Nat) → Billing.Response → Prop}

/-- Whoever waits means a beginning of the conversation. -/
theorem passage_begins {attempt : Attempt} {awaited : Awaited} {session since began : Nat}
    (passage : Passage settings order index answered
      (.waiting attempt awaited session since began) uses) (home : Home) :
    (∀ deed ∈ uses, deed.scene.session = session) ∧ ∃ catalog, order.Accepts catalog ∧
      Begins settings home order catalog session
        (uses.filterMap fun deed => callOf home session deed.action) := by
  cases passage with
  | @connecting catalog _ _ _ accepted =>
      exact ⟨by simp, catalog, accepted, by simp [callOf], ⟨_, rfl⟩⟩
  | @querying catalog _ _ _ _ _ accepted connected ok =>
      exact ⟨by simp, catalog, accepted, by simp [callOf], ⟨_, rfl⟩⟩
  | @launching catalog _ _ _ _ _ _ response record accepted connected ok queried fine purchase
      only =>
      refine ⟨by simp, catalog, accepted, by simp [callOf], ?_⟩
      obtain ⟨product, single⟩ : ∃ product, catalog.single = .ok product := by
        simpa only [purchase] using accepted.2
      obtain ⟨ids, details, _, sole⟩ := Billing.Response.recordsFor_single single only
      have member : record ∈ details.filter (·.sku = product.id) := by simp [sole]
      have same : record.sku = product.id := by simpa using (List.mem_filter.mp member).2
      simp [conversation, purchase, ids, callOf, askingCall, same]

/-- Whoever used a session means a beginning of the conversation, and its end once over. -/
theorem passage_calls {call : Call} {session : Nat}
    (passage : Passage settings call.order index answered call.status uses)
    (own : ∀ deed ∈ uses, deed.scene.session = session) (used : uses ≠ []) (home : Home) :
    ∃ catalog first, call.order.Accepts catalog ∧
      Begins settings home call.order catalog session first ∧
      (uses.filterMap fun deed => callOf home session deed.action) =
        first ++ if call.isOver then [endingCall session] else [] := by
  have waiting : ∀ {prior : List Deed} {attempt awaited here since began},
      Passage settings call.order index answered (.waiting attempt awaited here since began) prior →
      here = session → ∃ catalog, call.order.Accepts catalog ∧
        Begins settings home call.order catalog session
          (prior.filterMap fun deed => callOf home session deed.action) := by
    rintro prior attempt awaited here since began passage rfl
    exact (passage_begins passage home).2
  unfold Call.isOver
  cases status : call.status with
  | notStarted =>
      rw [status] at passage
      cases passage
      exact absurd rfl used
  | waiting attempt awaited here since began =>
      rw [status] at passage
      obtain ⟨first, member⟩ := List.exists_mem_of_ne_nil uses used
      have same := ((passage_begins passage home).1 first member).symm.trans (own first member)
      obtain ⟨catalog, accepted, begins⟩ := waiting passage same
      exact ⟨catalog, _, accepted, begins, by simp⟩
  | finished ending moment =>
      rw [status] at passage
      cases passage with
      | dismissed => exact absurd rfl used
      | @ended attempt awaited here since began prior _ _ passage =>
          have same : here = session := own ⟨⟨moment, index, here⟩, .endSession⟩ (by simp)
          obtain ⟨catalog, accepted, begins⟩ := waiting passage same
          exact ⟨catalog, _, accepted, begins, by simp [callOf]⟩

end Passage

/-! ## What is heard -/

/-- What a session that belongs to an order said to the billing class. -/
structure Conversation (settings : Settings) (home : Home) (order : Order)
    (catalog : Catalog.Canonical) (session : Nat) (isOver : Bool) (calls : List Invocation)
    (shown : List Event) : Prop where
  /-- The connection is started, the products of the catalog are queried, the flow is shown for
  the one product of a purchase on its own activity, and the connection is ended. -/
  inOrder : calls.Sublist (conversation settings home order catalog session ++ [endingCall session])
  /-- No method is called twice. -/
  once : (calls.map (·.method)).Nodup
  /-- The connection of a call that is not over is not ended. -/
  unended : isOver = false → endingCall session ∉ calls
  /-- That of a call that is over is ended, or that it could not be is logged. -/
  ended : isOver = true → endingCall session ∈ calls ∨
    ∃ line ∈ lamentOf session .endSession, .log line ∈ shown

/-- What the receiver of offers was told for a call with some deeds. -/
structure Telling (call : Call) (deeds : List Deed) (calls : List Invocation)
    (shown : List Event) : Prop where
  unfinished : call.isOver = false → calls = []
  /-- The receiver is told what the end of the call demands, or that it could not be is logged for
  the session of the call. -/
  finished : ∀ {ending moment}, call.status = .finished ending moment →
    ∃ spoken, Account call.order.purpose ending spoken ∧
      calls.Sublist (spoken.filterMap tellingOf) ∧
      (calls = spoken.filterMap tellingOf ∨ ∃ deed ∈ deeds, deed.action ∈ spoken ∧
        ∃ line ∈ lamentOf deed.scene.session deed.action, .log line ∈ shown)

/-- An accepted purchase is of one product. -/
theorem conversation_once {order : Order} {catalog : Catalog.Canonical}
    (accepted : order.Accepts catalog) (settings : Settings) (home : Home) (session : Nat) :
    ((conversation settings home order catalog session ++ [endingCall session]).map
      (·.method)).Nodup := by
  obtain ⟨_, filled⟩ := accepted
  cases purpose : order.purpose with
  | lookup => simp [conversation, purpose, askingCall, endingCall]
  | purchase =>
      rw [purpose] at filled
      obtain ⟨product, single⟩ := filled
      have only : catalog.products = [product] := by
        unfold Catalog.Canonical.single at single
        split at single
        · next same => cases single; exact same
        · cases single
      simp [conversation, purpose, askingCall, launchingCall, endingCall, Catalog.Canonical.ids,
        only]

/-- The end is no part of the conversation before it. -/
theorem endingCall_not_mem (order : Order) (catalog : Catalog.Canonical) (session : Nat) :
    endingCall session ∉ conversation settings home order catalog session := by
  cases purpose : order.purpose <;>
    simp [conversation, purpose, askingCall, launchingCall, endingCall]

section Sessions

variable {origin before app : App}

/-- The uses of a session mean a conversation. -/
theorem App.Reaches.session_calls (reached : origin.Reaches detached settings app)
    (isNew : origin.IsNew) (home : Home) {scene : Scene}
    (opened : ⟨scene, .openSession⟩ ∈ app.service.deeds) :
    ∃ call catalog first, app.calls[scene.call]? = some call ∧ call.order.Accepts catalog ∧
      Begins settings home call.order catalog scene.session first ∧
      meantBy (fun _ invocation => invocation.isOn scene.session) home app.service.deeds =
        first ++ if call.isOver then [endingCall scene.session] else [] := by
  obtain ⟨start, fresh, interleaved⟩ := reached.timeline isNew
  have uses := fresh.usesOf_eq interleaved opened
  cases found : app.calls[scene.call]? with
  | none =>
      have own := mem_deedsOf.mpr ⟨opened, rfl⟩
      simp [fresh.strangers interleaved found] at own
  | some call =>
      have passage := (fresh.story interleaved found).passage
      have used : usesBy scene.call app.service.deeds ≠ [] :=
        List.ne_nil_of_mem (List.mem_filter.mpr ⟨mem_deedsOf.mpr ⟨opened, rfl⟩, rfl⟩)
      have own : ∀ deed ∈ usesBy scene.call app.service.deeds,
          deed.scene.session = scene.session := by
        intro deed member
        rw [← uses, usesOf, List.mem_filter] at member
        simp only [Bool.and_eq_true, decide_eq_true_eq] at member
        exact member.2.1
      obtain ⟨catalog, first, accepted, begins, calls⟩ := passage_calls passage own used home
      rw [meantBy_isOn]
      exact ⟨call, catalog, first, rfl, accepted, begins, uses ▸ calls⟩

section Before

variable (isNew : origin.IsNew) (prior : origin.Reaches detached settings before)
  (reached : before.Reaches detached settings app)
include isNew prior reached

/-- What was called since the machine was bound is all that was meant, if it refuses nothing. -/
theorem App.Reaches.all_called (bound : before.home? = some home)
    (obliging : before.service.world.machine.IsObliging)
    (nothing : meantBy select home before.service.deeds = []) :
    callsOf select app.service = meantBy select home app.service.deeds := by
  have before := (prior.speaks isNew).meant bound select
  rw [nothing] at before
  obtain ⟨later, deeds, calls⟩ := reached.speaks_all bound obliging
  rw [calls, List.eq_nil_of_sublist_nil before, deeds, meantBy_append, nothing]

end Before

/-- What a session is called for lies in order, and its end is lamented if it is not made. -/
theorem App.Reaches.conversation (reached : origin.Reaches detached settings app)
    (isNew : origin.IsNew) (bound : app.home? = some home) {scene : Scene}
    (opened : ⟨scene, .openSession⟩ ∈ app.service.deeds) :
    ∃ call catalog, app.calls[scene.call]? = some call ∧ call.order.Accepts catalog ∧
      Conversation settings home call.order catalog scene.session call.isOver
        (callsOn scene.session app.service) (shown app.service) := by
  obtain ⟨call, catalog, first, found, accepted, begins, calls⟩ :=
    reached.session_calls isNew home opened
  have meant := (reached.speaks isNew).meant bound fun _ invocation =>
    invocation.isOn scene.session
  rw [calls] at meant
  have inOrder : (callsOn scene.session app.service).Sublist
      (Host.conversation settings home call.order catalog scene.session ++
        [endingCall scene.session]) := by
    refine meant.trans (begins.inOrder.sublist.append ?_)
    cases call.isOver
    · exact List.nil_sublist _
    · exact .refl _
  refine ⟨call, catalog, found, accepted, inOrder,
    (conversation_once accepted settings home scene.session).sublist (inOrder.map _),
    fun unfinished ends => ?_, fun isOver => ?_⟩
  · rw [unfinished, if_neg (by simp), List.append_nil] at meant
    exact endingCall_not_mem _ _ _ (begins.inOrder.subset (meant.subset ends))
  · obtain ⟨start, fresh, interleaved⟩ := reached.timeline isNew
    cases status : call.status with
    | notStarted => simp [Call.isOver, status] at isOver
    | waiting => simp [Call.isOver, status] at isOver
    | finished ending moment =>
        obtain ⟨before, after, parted⟩ := fresh.partsAtEnd interleaved found opened status
        obtain ⟨now, deeds⟩ := parted.parts
        have member : ⟨⟨now, scene.call, scene.session⟩, .endSession⟩ ∈ app.service.deeds := by
          rw [deeds]
          simp
        rcases (reached.speaks isNew).lamented member rfl with logged | called
        · exact .inr ⟨_, rfl, logged⟩
        · exact .inl (called _ home _ rfl (by simp [endingCall, Invocation.isOn]))

/-- One thing is told of a call at most. -/
theorem Account.short {purpose : Purpose} {ending : Ending} {spoken : List Action}
    (account : Account purpose ending spoken) :
    spoken = [] ∨ ∃ action, spoken = [action] ∧ action.isTold = true := by
  cases account <;> simp

/-- What is told is called, or lamented. -/
theorem told_lamented {action : Action} (told : action.isTold = true) (home : Home)
    {session : Nat} : ∃ line call, lamentOf session action = some line ∧
      callOf home session action = some call ∧ tellingOf action = some call ∧
      call.target = .class catalogBridge := by
  cases action with
  | deliver | report => exact ⟨_, _, rfl, rfl, rfl, rfl⟩
  | begin | log | raiseFlag | lowerFlag | ask | openSession | endSession | finish => cases told

/-- Whatever the receiver of offers is told is all there is to tell, unless that is lamented. -/
theorem App.Reaches.telling (reached : origin.Reaches detached settings app)
    (isNew : origin.IsNew) (bound : app.home? = some home) {index : Nat} {call : Call}
    (found : app.calls[index]? = some call) :
    Telling call (deedsOf index app.service.deeds) (tellingsOf index app.service)
      (shown app.service) := by
  obtain ⟨start, fresh, interleaved⟩ := reached.timeline isNew
  have accounts := fresh.accounts interleaved found
  have meant : (tellingsOf index app.service).Sublist
      ((Storefront.told (actionsOf index app.service.deeds)).filterMap tellingOf) := by
    rw [← meantBy_tellings]
    exact (reached.speaks isNew).meant bound _
  refine ⟨fun unfinished => ?_, fun {ending moment} ends => ?_⟩
  · have nothing : Storefront.told (actionsOf index app.service.deeds) = [] := by
      cases status : call.status with
      | finished => simp [Call.isOver, status] at unfinished
      | notStarted | waiting => rw [status] at accounts; exact accounts
    rw [nothing] at meant
    exact List.eq_nil_of_sublist_nil meant
  · rw [ends] at accounts
    refine ⟨_, accounts, meant, ?_⟩
    change tellingsOf index app.service =
      (Storefront.told (actionsOf index app.service.deeds)).filterMap tellingOf ∨
        ∃ deed ∈ deedsOf index app.service.deeds,
          deed.action ∈ Storefront.told (actionsOf index app.service.deeds) ∧
            ∃ line ∈ lamentOf deed.scene.session deed.action, .log line ∈ shown app.service
    rcases Account.short accounts with nothing | ⟨action, only, told⟩
    · rw [show Storefront.told (actionsOf index app.service.deeds) = [] from nothing] at meant ⊢
      exact .inl (List.eq_nil_of_sublist_nil meant)
    · have spoken : action ∈ Storefront.told (actionsOf index app.service.deeds) := by
        rw [show Storefront.told (actionsOf index app.service.deeds) = [action] from only]
        exact List.mem_cons_self ..
      obtain ⟨deed, member, own, rfl⟩ := mem_actionsOf.mp (List.mem_filter.mp spoken).1
      obtain ⟨line, call, lament, issued, telling, target⟩ := told_lamented told home
      rw [show Storefront.told (actionsOf index app.service.deeds) = [deed.action] from only]
        at meant ⊢
      rw [List.filterMap_cons, telling, List.filterMap_nil] at meant ⊢
      rcases (reached.speaks isNew).lamented member lament with logged | called
      · exact .inr ⟨deed, mem_deedsOf.mpr ⟨member, own⟩, List.mem_singleton_self _, line, lament,
          logged⟩
      · have made : call ∈ tellingsOf index app.service :=
          called _ home call issued (by simp [own, target])
        rcases List.sublist_singleton.mp meant with none | one
        · rw [none] at made
          cases made
        · exact .inl one

namespace App

end App

end Sessions

end Host

end Storefront
