import Storefront.Proofs.Units
import Storefront.Proofs.Unreadable

/-!
# Catalogs cross the bridge

The text of a catalog is handed to native code, the ids of its products come back out of it in an
array, and the offers that are found for them come back as a text. `Crosses` follows one text from
its entry on: what it spells is what is queried, and what is delivered is the text of the offers.
-/

namespace Storefront

/-- Whatever is delivered for a catalog is the text of the offers of some answer to its query. -/
theorem Story.delivery {settings : Settings} {order : Order} {index : Nat} {status : Status}
    {deeds : List Deed} (story : Story settings order index status deeds)
    {catalog : Catalog.Canonical} (reads : order.wanted.read = .ok catalog) {scene : Scene}
    {text : String} (delivered : ⟨scene, .deliver text⟩ ∈ deeds) :
    ∃ response : Billing.Response,
      text = Catalog.Platform.encode ⟨(response.recordsFor catalog).map .ofSku⟩ := by
  induction story with
  | unstarted => simp at delivered
  | started now opened busy =>
      have inTurn := ((Turn.mem_deeds _ _).mp delivered).2
      exact absurd inTurn ((order.start_firstTurn busy).delivers_nothing text)
  | @reacted attempt awaited session since began past turn now prior reaction inductionHypothesis =>
      rcases List.mem_append.mp delivered with before | after
      · exact inductionHypothesis before
      · have inTurn := ((Turn.mem_deeds _ _).mp after).2
        obtain ⟨_, offers, ends⟩ := reaction.delivers inTurn
        cases reaction with
        | answered response =>
            obtain ⟨rfl, encoded⟩ := Attempt.resume_delivers inTurn
            obtain rfl : catalog = attempt.catalog :=
              Except.ok.inj (reads.symm.trans (prior.attempt rfl).1)
            exact ⟨response, encoded⟩
        | expired => simp [Attempt.expire, Attempt.conclude, Turn.after] at ends
        | cancelled => simp [Attempt.cancel] at ends

/-- A lookup whose query is answered with records of its products delivers their offers. -/
theorem Attempt.told_resume_lookup {attempt : Attempt} (lookup : attempt.purpose = .lookup)
    (settings : Settings) {response : Billing.Response} (ok : response.result.code = .ok)
    (some : response.recordsFor attempt.catalog ≠ []) :
    told (attempt.resume settings .offers response).actions = [.deliver
      (Catalog.Platform.encode ⟨(response.recordsFor attempt.catalog).map .ofSku⟩)] := by
  have quiet := attempt.requested_remarks response
  rw [Attempt.resume_offers (check_ok ok _), lookup]
  dsimp only
  rw [Attempt.told_deliver _ quiet, Attempt.requested_eq, if_neg some]

/-- Nothing else is told of a call that delivers. -/
theorem Status.Accounts.delivers_once {purpose : Purpose} {status : Status} {text : String}
    {others : List Action} (accounts : status.Accounts purpose (.deliver text :: others)) :
    others = [] := by
  obtain ⟨_, _, _, account⟩ := accounts.delivers (List.mem_cons_self ..)
  exact (List.cons.inj (account.delivers (List.mem_cons_self ..)).2.1).2

namespace Host

/-- The call that queries the products of a catalog: an array with one element for each, its id. -/
def queryingCall (handle : Handle) (catalog : Catalog.Canonical) : Invocation :=
  ⟨.class billingBridge, "querySkuDetails", "(J[Ljava/lang/String;Ljava/lang/String;)V",
    [.long handle, .array (catalog.products.map (·.id)), .text "subs"]⟩

/-- The call that delivers offers. -/
def deliveringCall (offers : Catalog.Platform) : Invocation :=
  tellingCall "onSkuDetailsReceived" offers.encode

/-! ## What is called since -/

section Since

variable {detached : Bool} {settings : Settings} {origin before app : App} {home : Home}

/-- No call of an app is taken back, or becomes another. -/
theorem App.Reaches.orders (reached : before.Reaches detached settings app) :
    before.calls.map (·.order) <+: app.calls.map (·.order) := by
  induction reached with
  | refl => exact List.prefix_rfl
  | @move app next prior move inductionHypothesis =>
      refine inductionHypothesis.trans ?_
      cases move with
      | enter _ entrance =>
          rw [App.enter_calls, List.map_append]
          exact List.prefix_append ..
      | leave _ pending => exact List.prefix_rfl
      | go step =>
          exact (Timeline.Interleaves.refl.step step).orders ▸ List.prefix_rfl

theorem App.Reaches.call_kept (reached : before.Reaches detached settings app) {index : Nat}
    {call : Call} (found : before.calls[index]? = some call) :
    ∃ later, app.calls[index]? = some later ∧ later.order = call.order := by
  obtain ⟨more, same⟩ := reached.orders
  have inside : index < (before.calls.map (·.order)).length := by
    simpa using (List.getElem?_eq_some_iff.mp found).1
  have here := congrArg (·[index]?) same
  simp only [List.getElem?_append_left inside, List.getElem?_map, found, Option.map_some] at here
  exact Option.map_eq_some_iff.mp here.symm

variable (reached : before.Reaches detached settings app) (bound : before.home? = some home)
  (obliging : before.service.world.machine.IsObliging)
include reached bound obliging

/-- What a call told since some moment was handed over since then. -/
theorem App.Reaches.told_since {index : Nat} {done : List Deed}
    (did : deedsOf index app.service.deeds = deedsOf index before.service.deeds ++ done) :
    tellingsOf index app.service = tellingsOf index before.service ++
      (told (done.map (·.action))).filterMap tellingOf := by
  obtain ⟨later, deeds, calls⟩ := reached.speaks_all bound obliging
  have own : actionsOf index later = done.map (·.action) := by
    rw [deeds, deedsOf_append] at did
    rw [actionsOf, List.append_cancel_left did]
  rw [tellingsOf, calls, meantBy_tellings, own]
  rfl

/-- What a call did in its session since some moment was called since then. -/
theorem App.Reaches.called_since (isNew : origin.IsNew)
    (prior : origin.Reaches detached settings before) {scene : Scene}
    (opened : ⟨scene, .openSession⟩ ∈ before.service.deeds) {done : List Deed}
    (did : deedsOf scene.call app.service.deeds =
      deedsOf scene.call before.service.deeds ++ done) :
    callsOn scene.session app.service = callsOn scene.session before.service ++
      (done.filter (·.action.isSession)).filterMap fun deed =>
        callOf home scene.session deed.action := by
  obtain ⟨later, deeds, calls⟩ := reached.speaks_all bound obliging
  obtain ⟨_, fresh, interleaved⟩ := prior.timeline isNew
  obtain ⟨_, freshToo, whole⟩ := (prior.trans reached).timeline isNew
  have own : deedsOf scene.call later = done := by
    rw [deeds, deedsOf_append] at did
    exact List.append_cancel_left did
  have used : usesOf scene.session later = done.filter (·.action.isSession) := by
    have both : usesOf scene.session before.service.deeds ++ usesOf scene.session later =
        usesBy scene.call before.service.deeds ++ usesBy scene.call later := by
      rw [← usesBy_append, usesOf, usesOf, ← List.filter_append, ← deeds]
      exact freshToo.usesOf_eq whole (reached.deeds.subset opened)
    have usesBefore : usesOf scene.session before.service.deeds =
        usesBy scene.call before.service.deeds := fresh.usesOf_eq interleaved opened
    rw [usesBefore] at both
    rw [List.append_cancel_left both, usesBy, own]
  rw [callsOn, calls, meantBy_isOn, used]
  rfl

end Since

/-! ## What a callback leads to -/

/-- What a callback leads to for the call that waits for it: whatever else happens first, its turn
is for the callback, and letting all calls go on is enough for it. -/
structure App.Leads (app : App) (entrance : Entrance) (index : Nat) (call : Call)
    (goal : Service Bridge Event → Prop) : Prop where
  runs : ∀ {now place timeline},
    (app.enter entrance).2.present.Unfolds (hosted true) {} now place timeline →
    timeline.calls[index]? = some call ∧ place ≤ index ∨ goal timeline.service
  steps : goal (app.step entrance).service

/-- A connection that is reported with code zero is one. -/
theorem Progress.callback_connected (progress : Progress) (message : Argument) :
    ∃ result, (progress.callback (.setupFinished 0 message)).1 = .setupFinished result ∧
      result.code = .ok :=
  ⟨_, rfl, rfl⟩

section Waiting

variable {origin app : App} {index : Nat} {call : Call} {attempt : Attempt} {awaited : Awaited}
  {session : Nat} {kind : Kind}

/-- A call that waits has a session open, and its attempt is for what its order is for. -/
theorem App.Reaches.waiting (reached : origin.Reaches true {} app) (isNew : origin.IsNew)
    (awaits : app.Awaits index call attempt awaited session kind) :
    (∃ moment, ⟨⟨moment, index, session⟩, .openSession⟩ ∈ app.service.deeds) ∧
      attempt.purpose = call.order.purpose ∧ call.order.Accepts attempt.catalog := by
  obtain ⟨since, began, waits⟩ := awaits.waits
  obtain ⟨_, fresh, interleaved⟩ := reached.timeline isNew
  have passage := (fresh.story interleaved awaits.found).passage
  rw [waits] at passage
  refine ⟨fresh.waiting_opened interleaved awaits.found waits, ?_⟩
  generalize List.filter _ _ = uses at passage
  cases passage with
  | connecting accepted | querying accepted | launching accepted => exact ⟨rfl, accepted⟩

/-- A call whose answer calls back takes its turn for it. -/
theorem App.Awaits.leads (awaits : app.Awaits index call attempt awaited session kind)
    (isNew : origin.IsNew) (blank : origin.service.world.board = {})
    (reached : origin.Reaches true {} app) {pending : Option Raised} {sent : Sent}
    {callback : Callback}
    (read : ((Progress.mk app.service.world.machine pending []).callback sent).1 = callback)
    (answers : callback.answers kind = true) {goal : Service Bridge Event → Prop}
    (taken : ∀ (next : App) moment more, app.Reaches true {} next →
      deedsOf index next.service.deeds = deedsOf index app.service.deeds ++
        ((attempt.resume {} awaited callback.response.1).deeds ⟨moment, index, session⟩ ++ more) →
      goal next.service) :
    app.Leads ⟨.callback session sent, pending⟩ index call goal := by
  let entrance : Entrance := ⟨.callback session sent, pending⟩
  have enters : app.Reaches true {} (app.enter entrance).2 := .move .refl (.enter app entrance)
  obtain ⟨slot, served⟩ := awaits.enter (reached.sound blank) pending read answers
  -- In every run the call still waits, or it has taken the turn for its answer.
  have decided {now place timeline}
      (run : (app.enter entrance).2.present.Unfolds (hosted true) {} now place timeline) :
      timeline.calls[index]? = some call ∧ place ≤ index ∨ ∃ moment more,
        deedsOf index timeline.service.deeds = deedsOf index app.service.deeds ++
          ((attempt.resume {} awaited callback.response.1).deeds ⟨moment, index, session⟩ ++
            more) := by
    rcases (reached.trans enters).pending_or_heeded isNew served run with waits | heeded
    · exact .inl ⟨waits.found, waits.before⟩
    · obtain ⟨moment, more, did⟩ := heeded.did
      rw [enter_deeds, List.append_assoc] at did
      exact .inr ⟨moment, more, did⟩
  refine ⟨fun run => ?_, ?_⟩
  · rcases decided run with waits | ⟨moment, more, did⟩
    · exact .inl waits
    · exact .inr (taken _ moment more (enters.trans (.of_interleaves run.interleaves)) did)
  · have idle : (app.enter entrance).2.present.Awaits (hosted true) {} 0 :=
      fun _ _ => Nat.zero_le _
    rcases decided (Timeline.Unfolds.origin 0 idle).advance with ⟨found, before⟩ | did
    · have inside := (List.getElem?_eq_some_iff.mp found).1
      rw [Timeline.advance, Timeline.advanceCalls_length] at inside
      exact absurd before (Nat.not_le_of_lt inside)
    · obtain ⟨moment, more, did⟩ := did
      have silent := (note_plainly (app.enter entrance).2.settle (app.enter entrance).1).deeds
      exact taken _ moment more (app.step_reaches entrance)
        ((congrArg (deedsOf index) silent).trans did)

variable (isNew : origin.IsNew) (blank : origin.service.world.board = {})
  (reached : origin.Reaches true {} app) {home : Home} (bound : app.home? = some home)
  (obliging : app.service.world.machine.IsObliging) (pending : Option Raised)
include isNew blank reached bound obliging

/-- Once its setup is answered with success, a session queries the products of its catalog. -/
theorem App.Awaits.queries {catalog : Catalog.Canonical}
    (awaits : app.Awaits index call attempt .setup session .setup)
    (reads : call.order.wanted.read = .ok catalog) (message : Argument) :
    app.Leads ⟨.callback session (.setupFinished 0 message), pending⟩ index call fun service =>
      ∃ further, callsOn session service =
        callsOn session app.service ++ queryingCall session catalog :: further := by
  obtain ⟨⟨moment, opened⟩, _, accepted⟩ := reached.waiting isNew awaits
  obtain rfl : catalog = attempt.catalog := Except.ok.inj (reads.symm.trans accepted.1)
  obtain ⟨result, read, ok⟩ :=
    (Progress.mk app.service.world.machine pending []).callback_connected message
  refine awaits.leads isNew blank reached read rfl fun next moment more further did => ?_
  have passed : check .connect (Callback.setupFinished result).response.1.result = .ok () :=
    check_ok ok _
  have used : ((attempt.query {}).deeds ⟨moment, index, session⟩).filter (·.action.isSession) =
      [⟨⟨moment, index, session⟩, .ask (.offers attempt.catalog.ids .subs)⟩] := by
    simp [Attempt.query, Attempt.move, Turn.deeds, Action.say]
  rw [Attempt.resume_setup passed] at did
  have calls := further.called_since bound obliging isNew reached opened did
  rw [List.filter_append, used] at calls
  exact ⟨_, calls⟩

/-- Once its query is answered with records of its products, a lookup delivers their offers. -/
theorem App.Awaits.delivers {catalog : Catalog.Canonical}
    (awaits : app.Awaits index call attempt .offers session .skuDetails)
    (lookup : call.order.purpose = .lookup) (reads : call.order.wanted.read = .ok catalog)
    {message json : Argument} {said given : Option (Except Trouble String)}
    {details : List Billing.Sku}
    (reading : Reading app.service.world.machine pending message json said given
      (.ok (some details)))
    (some : details.filter (·.sku ∈ catalog.ids) ≠ []) :
    app.Leads ⟨.callback session (.skuDetails 0 message json), pending⟩ index call fun service =>
      tellingsOf index service =
        [deliveringCall ⟨(details.filter (·.sku ∈ catalog.ids)).map .ofSku⟩] := by
  obtain ⟨_, purpose, accepted⟩ := reached.waiting isNew awaits
  obtain rfl : catalog = attempt.catalog := Except.ok.inj (reads.symm.trans accepted.1)
  obtain ⟨reply, read, answer⟩ :=
    (Progress.mk app.service.world.machine pending []).callback_answer reading 0
  refine awaits.leads isNew blank reached read rfl fun next moment more further did => ?_
  change deedsOf index next.service.deeds = deedsOf index app.service.deeds ++
    ((attempt.resume {} .offers reply.read.1).deeds _ ++ more) at did
  have delivered : told (attempt.resume {} .offers reply.read.1).actions = [.deliver
      (Catalog.Platform.encode ⟨(details.filter (·.sku ∈ attempt.catalog.ids)).map .ofSku⟩)] := by
    rw [answer]
    exact Attempt.told_resume_lookup (purpose.trans lookup) {} rfl some
  obtain ⟨later, isThere, _⟩ := further.call_kept awaits.found
  obtain ⟨_, fresh, interleaved⟩ := (reached.trans further).timeline isNew
  have accounts : later.status.Accounts _ (told (actionsOf index next.service.deeds)) :=
    fresh.accounts interleaved isThere
  have untold : told (actionsOf index app.service.deeds) = [] :=
    (reached.untold isNew awaits.found awaits.waits).1
  have unheard : tellingsOf index app.service = [] := by
    obtain ⟨_, _, waits⟩ := awaits.waits
    exact (reached.telling isNew bound awaits.found).unfinished (by simp [Call.isOver, waits])
  rw [actionsOf] at accounts untold
  rw [did, List.map_append, List.map_append, told_append, told_append, untold, Turn.deeds_actions,
    delivered] at accounts
  have nothing : told (more.map (·.action)) = [] := accounts.delivers_once
  rw [further.told_since bound obliging did, unheard, List.map_append, told_append, nothing,
    Turn.deeds_actions, delivered]
  rfl

end Waiting

/-! ## What is called, and nothing else -/

section Only

variable {origin before app : App} {catalog : Catalog.Canonical} {call : Call}

/-- A session queries its catalog, and at most once. -/
theorem App.Reaches.queries_only (reached : origin.Reaches true {} app) (isNew : origin.IsNew)
    {scene : Scene} (opened : ⟨scene, .openSession⟩ ∈ app.service.deeds)
    (reads : ∀ {call}, app.calls[scene.call]? = some call →
      call.order.wanted.read = .ok catalog) :
    ((callsOn scene.session app.service).filter (·.method = "querySkuDetails")).Sublist
      [queryingCall scene.session catalog] := by
  cases bound : app.home? with
  | none =>
      have silent : callsOn scene.session app.service = [] := (reached.speaks isNew).silent bound _
      rw [silent]
      exact List.nil_sublist _
  | some home =>
      obtain ⟨call, other, found, accepted, talks⟩ := reached.conversation isNew bound opened
      obtain rfl : catalog = other := Except.ok.inj ((reads found).symm.trans accepted.1)
      have queried : (Host.conversation {} home call.order catalog scene.session ++
          [endingCall scene.session]).filter (·.method = "querySkuDetails") =
            [queryingCall scene.session catalog] := by
        cases purpose : call.order.purpose <;>
          simp [Host.conversation, purpose, askingCall, launchingCall, endingCall, queryingCall,
            Catalog.Canonical.ids, Billing.SkuType.word]
      exact queried ▸ talks.inOrder.filter _

/-- Whatever a call delivered is the text of the offers that it ended with. -/
theorem App.Reaches.delivery (reached : origin.Reaches true {} app) (isNew : origin.IsNew)
    {scene : Scene} {text : String} (delivered : ⟨scene, .deliver text⟩ ∈ app.service.deeds)
    (found : app.calls[scene.call]? = some call) (reads : call.order.wanted.read = .ok catalog) :
    ∃ (response : Billing.Response) (moment : Nat),
      text = Catalog.Platform.encode ⟨(response.recordsFor catalog).map .ofSku⟩ ∧
        call.status =
          .finished (.succeeded (.delivered (response.recordsFor catalog).length)) moment := by
  obtain ⟨_, fresh, interleaved⟩ := reached.timeline isNew
  obtain ⟨response, rfl⟩ := (fresh.story interleaved found).delivery reads
    (mem_deedsOf.mpr ⟨delivered, rfl⟩)
  obtain ⟨_, moment, offers, same, _, ends, decodes⟩ := fresh.delivers interleaved delivered
  cases found.symm.trans same
  rw [Catalog.Platform.decode_encode] at decodes
  cases decodes
  exact ⟨response, moment, rfl, by simpa [Catalog.Platform.size] using ends⟩

/-- Nothing else is handed over as offers. -/
theorem App.Reaches.delivers_only (reached : origin.Reaches true {} app) (isNew : origin.IsNew)
    {index : Nat} (found : app.calls[index]? = some call)
    (reads : call.order.wanted.read = .ok catalog) {invocation : Invocation}
    (called : invocation ∈ tellingsOf index app.service)
    (method : invocation.method = "onSkuDetailsReceived") :
    ∃ (response : Billing.Response) (moment : Nat),
      invocation = deliveringCall ⟨(response.recordsFor catalog).map .ofSku⟩ ∧
        call.status =
          .finished (.succeeded (.delivered (response.recordsFor catalog).length)) moment := by
  cases bound : app.home? with
  | none =>
      have silent : tellingsOf index app.service = [] := (reached.speaks isNew).silent bound _
      simp [silent] at called
  | some home =>
      have meant := ((reached.speaks isNew).meant bound _).subset called
      rw [meantBy_tellings] at meant
      obtain ⟨action, spoken, tells⟩ := List.mem_filterMap.mp meant
      obtain ⟨deed, member, rfl, rfl⟩ := mem_actionsOf.mp (List.mem_filter.mp spoken).1
      obtain ⟨scene, action⟩ := deed
      cases action with
      | deliver text =>
          cases tells
          obtain ⟨response, moment, rfl, ends⟩ := reached.delivery isNew member found reads
          exact ⟨response, moment, rfl, ends⟩
      | report failure =>
          cases tells
          simp [tellingCall] at method
      | begin | log | raiseFlag | lowerFlag | ask | openSession | endSession | finish => cases tells

/-- Whoever ends with offers handed them over, if nothing was refused since it began. -/
theorem App.Reaches.delivered (reached : before.Reaches true {} app) (isNew : origin.IsNew)
    (prior : origin.Reaches true {} before) {home : Home} (bound : before.home? = some home)
    (obliging : before.service.world.machine.IsObliging) {index : Nat}
    (unbegun : deedsOf index before.service.deeds = [])
    (found : app.calls[index]? = some call) (reads : call.order.wanted.read = .ok catalog)
    {count moment : Nat} (ends : call.status = .finished (.succeeded (.delivered count)) moment) :
    ∃ response : Billing.Response, (response.recordsFor catalog).length = count ∧
      tellingsOf index app.service =
        [deliveringCall ⟨(response.recordsFor catalog).map .ofSku⟩] := by
  obtain ⟨_, fresh, interleaved⟩ := (prior.trans reached).timeline isNew
  have accounts : call.status.Accounts _ (told (actionsOf index app.service.deeds)) :=
    fresh.accounts interleaved found
  rw [ends] at accounts
  obtain ⟨text, _, spoken, _, _⟩ := Account.of_delivered accounts
  have did : Action.deliver text ∈ told (actionsOf index app.service.deeds) := by simp [spoken]
  obtain ⟨⟨scene, _⟩, member, rfl, rfl⟩ := mem_actionsOf.mp (List.mem_filter.mp did).1
  obtain ⟨response, _, rfl, same⟩ := (prior.trans reached).delivery isNew member found reads
  have unmeant : meantBy (fun other invocation => other.any (·.call = scene.call) &&
      invocation.target = .class catalogBridge) home before.service.deeds = [] := by
    rw [meantBy_tellings, actionsOf, unbegun]
    rfl
  have calls := prior.all_called isNew reached bound obliging unmeant
  rw [meantBy_tellings, spoken] at calls
  rw [ends] at same
  cases same
  exact ⟨response, rfl, calls⟩

end Only

/-! ## From a text to a text -/

/-- What becomes of a foreign text that spells a catalog, from the entry on that it is handed to. -/
structure Crosses (app entered : App) (units : Text.Units) (order : Order)
    (catalog : Catalog.Canonical) : Prop where
  /-- What is read of the text spells it, whatever characters are in it. -/
  spelled : Text.Units.encode units.decode = units
  /-- One call is made for the catalog. -/
  made : entered.calls = app.calls ++ [{ order := order }]
  /-- A session of the call queries the ids of all products, in one array, or nothing. -/
  queriesOnly : ∀ {later scene}, entered.Reaches true {} later →
    ⟨scene, .openSession⟩ ∈ later.service.deeds → scene.call = app.calls.length →
    ((callsOn scene.session later.service).filter (·.method = "querySkuDetails")).Sublist
      [queryingCall scene.session catalog]
  /-- It queries them once its setup is answered with success, on a machine that refuses nothing. -/
  queries : ∀ {later home call attempt session}, entered.Reaches true {} later →
    later.home? = some home → later.service.world.machine.IsObliging →
    later.Awaits app.calls.length call attempt .setup session .setup → ∀ message pending,
    later.Leads ⟨.callback session (.setupFinished 0 message), pending⟩ app.calls.length call
      fun service => ∃ further, callsOn session service =
        callsOn session later.service ++ queryingCall session catalog :: further
  /-- Whatever is delivered is the text of the offers that the call ended with. -/
  deliversOnly : ∀ {later call}, entered.Reaches true {} later →
    later.calls[app.calls.length]? = some call →
    ∀ invocation ∈ tellingsOf app.calls.length later.service,
      invocation.method = "onSkuDetailsReceived" →
      ∃ (response : Billing.Response) (moment : Nat),
        invocation = deliveringCall ⟨(response.recordsFor catalog).map .ofSku⟩ ∧
          call.status =
            .finished (.succeeded (.delivered (response.recordsFor catalog).length)) moment
  /-- It is delivered if the call ended with offers, on a machine that refuses nothing. -/
  delivered : ∀ {later home call count moment}, entered.home? = some home →
    entered.service.world.machine.IsObliging → entered.Reaches true {} later →
    later.calls[app.calls.length]? = some call →
    call.status = .finished (.succeeded (.delivered count)) moment →
    ∃ response : Billing.Response, (response.recordsFor catalog).length = count ∧
      tellingsOf app.calls.length later.service =
        [deliveringCall ⟨(response.recordsFor catalog).map .ofSku⟩]
  /-- The offers are those of the records that the query of a lookup is answered with. -/
  delivers : order.purpose = .lookup →
    ∀ {later home call attempt session}, entered.Reaches true {} later →
    later.home? = some home → later.service.world.machine.IsObliging →
    later.Awaits app.calls.length call attempt .offers session .skuDetails →
    ∀ {message json pending said given details},
    Reading later.service.world.machine pending message json said given (.ok (some details)) →
    details.filter (·.sku ∈ catalog.ids) ≠ [] →
    later.Leads ⟨.callback session (.skuDetails 0 message json), pending⟩ app.calls.length call
      fun service => tellingsOf app.calls.length service =
        [deliveringCall ⟨(details.filter (·.sku ∈ catalog.ids)).map .ofSku⟩]

namespace App

/-- An entry whose catalog is accepted makes one call for it, and leaves all else as it was. -/
theorem entrance_makes (app : App) {purpose : Purpose} {argument : Argument}
    {reading : Except Trouble String} {catalog : Catalog.Canonical}
    (reads : Reads app.service.world.machine none argument reading)
    (judges : Judges purpose reading (.ok catalog))
    (keeps : purpose = .purchase →
      ∀ fault ∈ app.service.world.machine.faults, fault.on ≠ "GetJavaVM") (activity : String) :
    Alike { app with calls := app.calls ++ [{ order := ordered purpose catalog activity }] }
      (app.enter (entrance purpose argument activity none)).2 := by
  let progress : Progress := ⟨app.service.world.machine, none, []⟩
  obtain ⟨_, makes, _⟩ : progress.pending = none ∧ _ :=
    Progress.request_starts reads activity judges keeps
  have alike := app.entrance_alike purpose argument activity none
  rwa [makes] at alike

/-- A call that was made is the same ever since. -/
theorem Reaches.made {app entered later : App} {order : Order} {call : Call}
    (further : entered.Reaches true {} later)
    (made : entered.calls = app.calls ++ [{ order := order }])
    (found : later.calls[app.calls.length]? = some call) : call.order = order := by
  have placed : entered.calls[app.calls.length]? = some { order := order } := by
    rw [made, List.getElem?_concat_length]
  obtain ⟨_, same, kept⟩ := further.call_kept placed
  cases found.symm.trans same
  exact kept

/-- A text that spells a catalog crosses the bridge unharmed: its products are queried by the ids
that it spells, and what is found of them is delivered as the text that encodes it. -/
theorem catalogs_cross {origin app : App} (isNew : origin.IsNew)
    (blank : origin.service.world.board = {}) (reached : origin.Reaches true {} app)
    {units : Text.Units} (pairs : (Text.Units.exact units).isSome) {catalog : Catalog.Canonical}
    (valid : Catalog.Canonical.decode units.decode = .ok catalog) {purpose : Purpose}
    (single : purpose = .purchase → catalog.size = 1)
    (readable : (app.service.world.machine.perform .readText).trouble = none)
    (keeps : purpose = .purchase →
      ∀ fault ∈ app.service.world.machine.faults, fault.on ≠ "GetJavaVM") (activity : String) :
    Crosses app (app.enter (entrance purpose (.text units) activity none)).2 units
      (ordered purpose catalog activity) catalog := by
  have judges : Judges purpose (.ok units.decode) (.ok catalog) := by
    cases purpose with
    | lookup => exact .lookup valid
    | purchase => exact .purchase valid (single rfl)
  have alike := app.entrance_makes (.text readable) judges keeps activity
  set entered := (app.enter (entrance purpose (.text units) activity none)).2
  have there {later : App} (further : entered.Reaches true {} later) :
      origin.Reaches true {} later := (reached.move (.enter app _)).trans further
  have reads {later : App} {call : Call} (further : entered.Reaches true {} later)
      (found : later.calls[app.calls.length]? = some call) :
      call.order.wanted.read = .ok catalog := by
    rw [further.made alike.calls found]
    rfl
  have unbegun : deedsOf app.calls.length entered.service.deeds = [] := by
    obtain ⟨_, fresh, interleaved⟩ := reached.timeline isNew
    rw [alike.deeds]
    exact fresh.strangers interleaved (List.getElem?_eq_none (Nat.le_refl _))
  exact {
    spelled := Text.Units.encode_decode pairs
    made := alike.calls
    queriesOnly := fun further opened own =>
      (there further).queries_only isNew opened fun found => reads further (own ▸ found)
    queries := fun further bound obliging awaits message pending =>
      awaits.queries isNew blank (there further) bound obliging pending
        (reads further awaits.found) message
    deliversOnly := fun further found invocation called method =>
      (there further).delivers_only isNew found (reads further found) called method
    delivered := fun bound obliging further found ends =>
      further.delivered isNew (there .refl) bound obliging unbegun found (reads further found) ends
    delivers := fun lookup {_ _ _ _ _} further bound obliging awaits {_ _ pending _ _ _} reading
        some =>
      awaits.delivers isNew blank (there further) bound obliging pending
        ((congrArg Order.purpose (further.made alike.calls awaits.found)).trans lookup)
        (reads further awaits.found) reading some }

/-- A text of two ids, with a zero in an escape and a character of two units as it is. -/
def strangeText : String :=
  "\x7b\"products\":[[false,\"subs\",\"nul\\u0000\"],[true,\"subs\",\"𝄞\"]]\x7d"

/-- The catalog that it spells. -/
def strangeCatalog : Catalog.Canonical :=
  ⟨[⟨false, "subs", "nul\x00"⟩, ⟨true, "subs", "𝄞"⟩]⟩

/-- A record of one of its products, with the character in escapes. -/
def strangeRecord : String :=
  "[\x7b\"productId\":\"\\ud834\\udd1e\",\"price\":\"1\",\"price_currency_code\":\"\"\x7d]"

/-- An app that looks the catalog up, and is answered. -/
def estranged : App :=
  ((ready ⟨"context", "loader"⟩ []).run
    [⟨.lookUp (.text (Text.Units.encode strangeText)), none⟩,
      ⟨.callback 1 (.setupFinished 0 .null), none⟩,
      ⟨.callback 1 (.skuDetails 0 .null (.text (Text.Units.encode strangeRecord))), none⟩]).2

/-- Its products are queried by their ids, and the offer of one of them is delivered. -/
theorem estranged_crosses :
    Crosses (ready ⟨"context", "loader"⟩ [])
        ((ready ⟨"context", "loader"⟩ []).enter
          ⟨.lookUp (.text (Text.Units.encode strangeText)), none⟩).2
        (Text.Units.encode strangeText) ⟨.lookup, .catalog strangeCatalog, ""⟩ strangeCatalog ∧
      callsOn 1 estranged.service = [askingCall 1 ⟨"context", "loader"⟩ .setup,
        queryingCall 1 strangeCatalog, endingCall 1] ∧
      tellingsOf 0 estranged.service = [deliveringCall ⟨[⟨"𝄞", "", "1", ""⟩]⟩] := by
  have pairs : (Text.Units.exact (Text.Units.encode strangeText)).isSome := by
    simp [Text.Units.encode, Text.Units.exact_spelled]
  have valid : Catalog.Canonical.decode (Text.Units.encode strangeText).decode =
      .ok strangeCatalog := by
    rw [Text.Units.decode_encode]
    decide +kernel
  have single : Purpose.lookup = .purchase → strangeCatalog.size = 1 := by simp
  exact ⟨catalogs_cross (ready_isNew ⟨"context", "loader"⟩ []) rfl .refl pairs valid single rfl
    (by simp) "", by decide +kernel⟩

end App

end Host

end Storefront
