import Storefront.Proofs.Accounting

/-!
# What sessions find

What a call does is decided by the answers that its session finds when it looks for them. An
attentive backend keeps these findings and is the backend it was made of otherwise, so
`Timeline.run_attentive` reads the findings of every run off a run beside it. `Tale` is the
story of a call with its findings, and `Tale.offers_answered` is what they say of a query that
was answered with success.
-/

namespace Storefront

variable {World Show Signal : Type}

/-- An answer that a session found when it looked for it. -/
structure Finding where
  scene : Scene
  stage : Stage
  since : Nat
  response : Billing.Response
deriving DecidableEq, Repr

/-- A backend that also remembers what sessions found. -/
def Backend.attentive (backend : Backend World Show Signal) :
    Backend (World × List Finding) Show Signal where
  act scene action world :=
    let (shown, next) := backend.act scene action world.1
    (shown, next, world.2)
  poll scene stage since world :=
    let (answer, shown, next) := backend.poll scene stage since world.1
    (answer, shown, next, world.2 ++ (answer.map (Finding.mk scene stage since)).toList)
  due session stage since world := backend.due session stage since world.1
  receive signal world :=
    let (shown, next) := backend.receive signal world.1
    (shown, next, world.2)

/-! ## The run beside a run -/

/-- A service without what was found. -/
def Service.plain (service : Service (World × List Finding) Show) : Service World Show :=
  { service with world := service.world.1 }

section Plain

variable {backend : Backend World Show Signal} {settings : Settings} {now index : Nat}

namespace Service

variable (service : Service (World × List Finding) Show)

theorem plain_perform (scene : Scene) (action : Action) :
    (service.perform backend.attentive scene action).plain =
      service.plain.perform backend scene action := rfl

theorem plain_performAll (scene : Scene) (actions : List Action) :
    (service.performAll backend.attentive scene actions).plain =
      service.plain.performAll backend scene actions := by
  induction actions generalizing service with
  | nil => rfl
  | cons action actions inductionHypothesis =>
      rw [performAll_cons, performAll_cons, inductionHypothesis, plain_perform]

theorem plain_receive (signal : Signal) :
    (service.receive backend.attentive now signal).plain =
      service.plain.receive backend now signal := rfl

end Service

namespace Call

variable (call : Call) (service : Service (World × List Finding) Show)

theorem plain_take (scene : Scene) (began : Nat) (turn : Turn) :
    Prod.map id Service.plain (call.take backend.attentive scene began turn service) =
      call.take backend scene began turn service.plain := by
  simp [take_eq, Service.plain_performAll]

theorem plain_settle (fuel : Nat) :
    Prod.map id Service.plain (call.settle backend.attentive settings now index fuel service) =
      call.settle backend settings now index fuel service.plain := by
  induction fuel generalizing call service with
  | zero => rfl
  | succ fuel inductionHypothesis =>
      cases status : call.status with
      | notStarted => simp [settle_not_waiting, status]
      | finished ending moment => simp [settle_not_waiting, status]
      | waiting attempt awaited session since began =>
          let scene : Scene := ⟨now, index, session⟩
          have answer : (service.poll backend.attentive scene awaited.stage since).1 =
              (service.plain.poll backend scene awaited.stage since).1 := rfl
          have left : (service.poll backend.attentive scene awaited.stage since).2.plain =
              (service.plain.poll backend scene awaited.stage since).2 := rfl
          cases heard : (service.plain.poll backend ⟨now, index, session⟩ awaited.stage
              since).1 with
          | some response =>
              rw [settle_answered status fuel heard,
                settle_answered status fuel (answer.trans heard)]
              simp only [inductionHypothesis]
              rw [← left, ← plain_take]
              rfl
          | none =>
              cases late : isLate since now settings.stageTimeout with
              | true =>
                  rw [settle_late status fuel heard late,
                    settle_late status fuel (answer.trans heard) late, plain_take, left]
              | false =>
                  rw [settle_in_time status fuel heard late,
                    settle_in_time status fuel (answer.trans heard) late, Prod.map_apply, left,
                    id_eq]

theorem plain_begin (start : Option Nat) :
    Prod.map id Service.plain (call.begin backend.attentive now index start service) =
      call.begin backend now index start service.plain := by
  unfold begin
  split
  · split
    · exact plain_take ..
    · rfl
  · rfl

theorem plain_giveUp :
    Prod.map id Service.plain (call.giveUp backend.attentive now index service) =
      call.giveUp backend now index service.plain := by
  unfold giveUp
  split
  · split
    · exact plain_take ..
    · rfl
  · rfl

theorem plain_advance (start : Option Nat) :
    Prod.map id Service.plain
        (call.advance backend.attentive settings now index start service) =
      call.advance backend settings now index start service.plain := by
  unfold advance
  rw [← plain_begin]
  simp only [Prod.map_fst, Prod.map_snd, id_eq]
  rw [← plain_settle]
  simp only [Prod.map_fst, Prod.map_snd, id_eq]
  rw [← plain_giveUp]

theorem plain_dues (start : Option Nat) (world : World × List Finding) :
    call.dues backend.attentive settings start world =
      call.dues backend settings start world.1 := rfl

end Call

namespace Timeline

/-- A timeline whose service has found nothing yet. -/
def attentive (timeline : Timeline World Show Signal) :
    Timeline (World × List Finding) Show Signal :=
  { timeline with service := { timeline.service with world := (timeline.service.world, []) } }

/-- A timeline without what was found. -/
def plain (timeline : Timeline (World × List Finding) Show Signal) :
    Timeline World Show Signal :=
  { timeline with service := timeline.service.plain }

theorem plain_advanceCalls (sequential : Bool) (before : Option Nat) (calls : List Call)
    (service : Service (World × List Finding) Show) :
    Prod.map id Service.plain (advanceCalls backend.attentive settings sequential now index
        before calls service) =
      advanceCalls backend settings sequential now index before calls service.plain := by
  induction calls generalizing index before service with
  | nil => rfl
  | cons call calls inductionHypothesis =>
      simp only [advanceCalls]
      rw [← Call.plain_advance]
      simp only [Prod.map_fst, Prod.map_snd, id_eq]
      rw [← inductionHypothesis]
      simp only [Prod.map_fst, Prod.map_snd, id_eq, Prod.map_apply]

variable (timeline : Timeline (World × List Finding) Show Signal)

theorem plain_advance :
    (timeline.advance backend.attentive settings now).plain =
      timeline.plain.advance backend settings now := by
  simp only [advance, plain, ← plain_advanceCalls, Prod.map_fst, Prod.map_snd, id_eq]

theorem plain_receive :
    (timeline.receive backend.attentive now).plain = timeline.plain.receive backend now := by
  have same : ∀ (signals : List (Nat × Signal)) (service : Service (World × List Finding) Show),
      (signals.foldl (fun service signal =>
          service.receive backend.attentive now signal.2) service).plain =
        signals.foldl (fun service signal => service.receive backend now signal.2)
          service.plain := by
    intro signals
    induction signals with
    | nil => exact fun _ => rfl
    | cons signal signals inductionHypothesis =>
        intro service
        rw [List.foldl_cons, List.foldl_cons, inductionHypothesis, Service.plain_receive]
  simp only [receive, plain, same]

theorem plain_moment :
    (timeline.moment backend.attentive settings now).plain =
      timeline.plain.moment backend settings now := by
  simp only [moment, plain_advance, plain_receive]

theorem callDues_attentive (sequential : Bool) (world : World × List Finding)
    (before : Option Nat) (calls : List Call) :
    callDues backend.attentive settings sequential world before calls =
      callDues backend settings sequential world.1 before calls := by
  induction calls generalizing before with
  | nil => rfl
  | cons call calls inductionHypothesis =>
      simp only [callDues, Call.plain_dues, inductionHypothesis]

theorem plain_runFor (fuel : Nat) :
    (timeline.runFor backend.attentive settings fuel).plain =
      timeline.plain.runFor backend settings fuel := by
  induction fuel generalizing timeline with
  | zero => rfl
  | succ fuel inductionHypothesis =>
      have same : timeline.next? backend.attentive settings =
          timeline.plain.next? backend settings := by
        simp only [next?, callDues_attentive]
        rfl
      rw [runFor, runFor, same]
      cases timeline.plain.next? backend settings with
      | none => rfl
      | some now => simp only [inductionHypothesis, plain_moment]

/-- A run is as it is whether or not it is remembered what sessions find in it. -/
theorem run_attentive (backend : Backend World Show Signal) (settings : Settings)
    (origin : Timeline World Show Signal) :
    (origin.attentive.run backend.attentive settings).plain = origin.run backend settings :=
  origin.attentive.plain_runFor origin.moments

/-- All that sessions find in a run, in order. -/
def findings (backend : Backend World Show Signal) (settings : Settings)
    (origin : Timeline World Show Signal) : List Finding :=
  (origin.attentive.run backend.attentive settings).service.world.2

end Timeline

end Plain

/-! ## One call and its findings -/

/-- What the session of one call found. -/
def findingsOf (call : Nat) (findings : List Finding) : List Finding :=
  findings.filter fun finding => finding.scene.call = call

/-- What a call that is now at a status can have done, after what its session found. -/
inductive Tale (settings : Settings) (order : Order) (index : Nat) :
    Status → List Action → List Finding → Prop where
  | unstarted : Tale settings order index .notStarted [] []
  | started (now session : Nat) (busy : Bool) :
      Tale settings order index ((order.start busy).rest.status ⟨now, index, session⟩ now)
        (order.start busy).actions []
  | answered {attempt awaited session since began past found} (now : Nat)
      (response : Billing.Response)
      (prior : Tale settings order index (.waiting attempt awaited session since began) past
        found) :
      Tale settings order index
        ((attempt.resume settings awaited response).rest.status ⟨now, index, session⟩ began)
        (past ++ (attempt.resume settings awaited response).actions)
        (found ++ [⟨⟨now, index, session⟩, awaited.stage, since, response⟩])
  | left {attempt awaited session since began past found turn ending} (now : Nat)
      (prior : Tale settings order index (.waiting attempt awaited session since began) past
        found)
      (reaction : attempt.Reacts settings awaited turn) (ends : turn.rest = .finished ending) :
      Tale settings order index (turn.rest.status ⟨now, index, session⟩ began)
        (past ++ turn.actions) found

section Findings

variable (backend : Backend World Show Signal) (scene : Scene)

/-- Whatever a call does, what was found stays as it is. -/
theorem Service.performAll_findings (service : Service (World × List Finding) Show)
    (actions : List Action) :
    (service.performAll backend.attentive scene actions).world.2 = service.world.2 := by
  induction actions generalizing service with
  | nil => rfl
  | cons action actions inductionHypothesis =>
      rw [performAll_cons, inductionHypothesis]
      rfl

@[simp] theorem findingsOf_append (call : Nat) (before after : List Finding) :
    findingsOf call (before ++ after) = findingsOf call before ++ findingsOf call after :=
  List.filter_append ..

@[simp] theorem findingsOf_nil (call : Nat) : findingsOf call [] = [] := rfl

theorem findingsOf_singleton (call : Nat) (finding : Finding) :
    findingsOf call [finding] = if finding.scene.call = call then [finding] else [] := by
  simp [findingsOf, List.filter_cons]

end Findings

/-- A call that did not start yet did nothing, and its session found nothing. -/
theorem Tale.nothing {settings : Settings} {order : Order} {index : Nat} {status : Status}
    {past : List Action} {found : List Finding} (tale : Tale settings order index status past found)
    (idle : status = .notStarted) : past = [] ∧ found = [] := by
  cases tale with
  | unstarted => exact ⟨rfl, rfl⟩
  | started => exact absurd idle (Rest.status_ne_notStarted _ _ _)
  | answered => exact absurd idle (Rest.status_ne_notStarted _ _ _)
  | left => exact absurd idle (Rest.status_ne_notStarted _ _ _)

namespace Timeline

variable {backend : Backend World Show Signal} {settings : Settings}
  {origin : Timeline World Show Signal} {timeline : Timeline (World × List Finding) Show Signal}

theorem takeTurn_actions {scene : Scene} {began : Nat} {turn : Turn} {call : Call}
    {World : Type} {backend : Backend World Show Signal} {timeline : Timeline World Show Signal}
    (index : Nat) :
    actionsOf index (timeline.takeTurn backend scene began turn call).service.deeds =
      actionsOf index timeline.service.deeds ++
        if index = scene.call then turn.actions else [] := by
  rw [takeTurn_deeds, actionsOf_append]
  simp only [actionsOf, Turn.deedsOf_deeds]
  split <;> simp

theorem takeTurn_findings {scene : Scene} {began : Nat} {turn : Turn} {call : Call} :
    (timeline.takeTurn backend.attentive scene began turn call).service.world.2 =
      timeline.service.world.2 := by
  rw [takeTurn_service, Service.performAll_findings]

theorem Fresh.attentive (fresh : origin.Fresh) : origin.attentive.Fresh :=
  ⟨fresh.idle, fresh.free, fresh.unopened, fresh.blank⟩

theorem look_deeds (scene : Scene) (stage : Stage) (since : Nat) :
    (timeline.look backend.attentive scene stage since).service.deeds = timeline.service.deeds := by
  simp [look]

/-- What a session finds when it looks is its own. -/
theorem look_findings {scene : Scene} {stage : Stage} {since : Nat} (index : Nat) :
    findingsOf index (timeline.look backend.attentive scene stage since).service.world.2 =
      findingsOf index timeline.service.world.2 ++
        if index = scene.call then
          ((timeline.heard backend.attentive scene stage since).map
            (Finding.mk scene stage since)).toList
        else [] := by
  have looked : (timeline.look backend.attentive scene stage since).service.world.2 =
      timeline.service.world.2 ++ ((timeline.heard backend.attentive scene stage since).map
        (Finding.mk scene stage since)).toList := rfl
  rw [looked, findingsOf_append]
  cases timeline.heard backend.attentive scene stage since with
  | none => simp
  | some response =>
      rw [Option.map_some, Option.toList_some, findingsOf_singleton]
      grind

/-- A call has its tale. -/
def Tells (settings : Settings) (timeline : Timeline (World × List Finding) Show Signal)
    (index : Nat) (call : Call) : Prop :=
  Tale settings call.order index call.status (actionsOf index timeline.service.deeds)
    (findingsOf index timeline.service.world.2)

/-- A turn goes on with the tale of the call that takes it, and leaves all others as they are. -/
theorem tells_takeTurn {scene : Scene} {began : Nat} {turn : Turn} {taker : Call}
    (others : ∀ index call, index ≠ scene.call → timeline.calls[index]? = some call →
      timeline.Tells settings index call)
    (own : Tale settings taker.order scene.call (turn.rest.status scene began)
      (actionsOf scene.call timeline.service.deeds ++ turn.actions)
      (findingsOf scene.call timeline.service.world.2))
    {index : Nat} {call : Call}
    (found : (timeline.takeTurn backend.attentive scene began turn taker).calls[index]? =
      some call) :
    (timeline.takeTurn backend.attentive scene began turn taker).Tells settings index call := by
  rw [Tells, takeTurn_actions, takeTurn_findings]
  rcases takeTurn_found found with ⟨rfl, rfl⟩ | ⟨other, before⟩
  · rwa [if_pos rfl]
  · rw [if_neg other, List.append_nil]
    exact others index call other before

/-- A look changes no tale but that of the call that looks. -/
theorem tells_look {scene : Scene} {stage : Stage} {since index : Nat} {call : Call}
    (silent : index ≠ scene.call ∨ timeline.heard backend.attentive scene stage since = none)
    (tells : timeline.Tells settings index call) :
    (timeline.look backend.attentive scene stage since).Tells settings index call := by
  rw [Tells, look_findings, look_deeds]
  rcases silent with other | unheard
  · simpa [other] using show Tale .. from tells
  · simpa [unheard] using show Tale .. from tells

/-- Every call has its tale in a run, whatever the others do and find. -/
theorem Fresh.tells (fresh : origin.Fresh) {now done : Nat}
    (reached : origin.attentive.Unfolds backend.attentive settings now done timeline) :
    ∀ {index call}, timeline.calls[index]? = some call → timeline.Tells settings index call := by
  induction reached with
  | origin now idle =>
      intro index call found
      rw [Tells, fresh.attentive.deeds, fresh.attentive.idle call (List.mem_of_getElem? found)]
      exact .unstarted
  | @start now done timeline taker prior isThere idle due inductionHypothesis =>
      refine fun found => tells_takeTurn (fun _ _ _ => inductionHypothesis) ?_ found
      have own : Tale settings taker.order done taker.status _ _ := inductionHypothesis isThere
      obtain ⟨silent, blank⟩ := own.nothing idle
      rw [silent, blank]
      exact .started now _ _
  | look prior isThere waits unheard inductionHypothesis =>
      exact fun found => tells_look (.inr unheard) (inductionHypothesis found)
  | @answer now done timeline taker attempt awaited session since began response prior isThere
      waits heard inductionHypothesis =>
      refine fun found => tells_takeTurn (fun _ _ other before =>
        tells_look (.inl other) (inductionHypothesis before)) ?_ found
      have own : Tale settings taker.order done taker.status _ _ := inductionHypothesis isThere
      rw [waits] at own
      rw [look_findings, look_deeds, heard, if_pos rfl]
      exact own.answered now response
  | @expire now done timeline taker attempt awaited session since began prior isThere waits unheard
      late inductionHypothesis =>
      refine fun found => tells_takeTurn (fun _ _ _ before =>
        tells_look (.inr unheard) (inductionHypothesis before)) ?_ found
      have own : Tale settings taker.order done taker.status _ _ :=
        tells_look (.inr unheard) (inductionHypothesis isThere)
      rw [waits] at own
      obtain ⟨ending, ends⟩ := attempt.expire_finished settings awaited
      exact own.left now .expired ends
  | @cancel now done timeline taker attempt awaited session since began patience prior isThere
      waits settled limited due inductionHypothesis =>
      refine fun found => tells_takeTurn (fun _ _ _ => inductionHypothesis) ?_ found
      have own : Tale settings taker.order done taker.status _ _ := inductionHypothesis isThere
      rw [waits] at own
      exact own.left now .cancelled attempt.cancel_finished
  | pass prior isThere settled inductionHypothesis => exact inductionHypothesis
  | again prior inductionHypothesis => exact inductionHypothesis
  | receive prior signal inductionHypothesis =>
      intro index call found
      rw [Tells, Service.receive_deeds]
      exact inductionHypothesis found
  | queue prior signals inductionHypothesis => exact inductionHypothesis
  | wake prior idle forward inductionHypothesis => exact inductionHypothesis

end Timeline

/-! ## Where a call stands among its findings -/

/-- The attempt that is made for an order, at a state. -/
def Order.attempt (order : Order) (catalog : Catalog.Canonical) (state : State) : Attempt :=
  ⟨order.purpose, catalog, order.presentation, state⟩

/-- An order whose call opens a session for a catalog when it starts. -/
structure Order.Opens (order : Order) (busy : Bool) (catalog : Catalog.Canonical) : Prop where
  accepts : order.Accepts catalog
  waits : (order.start busy).rest = .waiting (order.attempt catalog .connecting) .setup

/-- All that a call does until its session is asked for the offers. -/
def Order.approach (settings : Settings) (order : Order) (busy : Bool)
    (catalog : Catalog.Canonical) : List Action :=
  (order.start busy).actions ++ ((order.attempt catalog .connecting).query settings).actions

/-- The turn of a call that follows the answer to its query. -/
def Order.followUp (settings : Settings) (order : Order) (catalog : Catalog.Canonical)
    (response : Billing.Response) : Turn :=
  (order.attempt catalog .queryingOffers).resume settings .offers response

theorem Rest.status_waiting {rest : Rest} {scene : Scene} {moment : Nat} {attempt : Attempt}
    {awaited : Awaited} {session since began : Nat}
    (waits : rest.status scene moment = .waiting attempt awaited session since began) :
    rest = .waiting attempt awaited ∧ scene.session = session ∧ scene.now = since := by
  cases rest with
  | waiting => simp_all [Rest.status]
  | finished ending => simp [Rest.status] at waits

/-- A call that waits after its first turn opened a session. -/
theorem Order.opens_of_waiting {order : Order} {busy : Bool} {attempt : Attempt}
    {awaited : Awaited} (waits : (order.start busy).rest = .waiting attempt awaited) :
    ∃ catalog, order.Opens busy catalog ∧ attempt = order.attempt catalog .connecting ∧
      awaited = .setup := by
  have form := order.start_firstTurn busy
  generalize same : order.start busy = turn at form waits
  cases form with
  | @opened catalog remarks line accepted free quiet =>
      cases waits
      exact ⟨catalog, ⟨accepted, by rw [same]; rfl⟩, rfl, rfl⟩
  | unread | empty | notSingle | refused => simp at waits

namespace Tale

variable {settings : Settings} {order : Order} {index : Nat} {status : Status}
  {past : List Action} {found : List Finding} {attempt : Attempt} {session since began : Nat}
  (tale : Tale settings order index status past found)
include tale

/-- Where a waiting call waits, by what its last turn followed. -/
theorem waiting {awaited : Awaited}
    (waits : status = .waiting attempt awaited session since began) :
    (∃ catalog busy, order.Opens busy catalog ∧ attempt = order.attempt catalog .connecting ∧
        awaited = .setup ∧ past = (order.start busy).actions ∧ found = []) ∨
      ∃ before behind asked earlier discovered response moment,
        Tale settings order index (.waiting before behind session asked began) earlier
          discovered ∧
        check behind.stage response.result = .ok () ∧
        (before.resume settings behind response).rest = .waiting attempt awaited ∧
        past = earlier ++ (before.resume settings behind response).actions ∧
        found = discovered ++ [⟨⟨moment, index, session⟩, behind.stage, asked, response⟩] := by
  cases tale with
  | unstarted => simp at waits
  | started now present busy =>
      obtain ⟨rest, _⟩ := Rest.status_waiting waits
      obtain ⟨catalog, opens, same, first⟩ := Order.opens_of_waiting rest
      exact .inl ⟨catalog, busy, opens, same, first, rfl, rfl⟩
  | @answered before behind _ asked start earlier discovered now response prior =>
      obtain ⟨rest, rfl, rfl⟩ := Rest.status_waiting waits
      rw [rest] at waits
      cases waits
      exact .inr ⟨before, behind, asked, earlier, discovered, response, now, prior,
        (Attempt.resume_waits rest).1, rest, rfl, rfl⟩
  | left now prior reaction ends =>
      rw [ends] at waits
      simp [Rest.status] at waits

/-- A call that waits for the connection. -/
theorem waiting_setup (waits : status = .waiting attempt .setup session since began) :
    ∃ catalog busy, order.Opens busy catalog ∧ attempt = order.attempt catalog .connecting ∧
      past = (order.start busy).actions ∧ found = [] := by
  obtain ⟨catalog, busy, opens, same, _, actions, nothing⟩ |
    ⟨_, behind, _, _, _, response, _, _, _, rest, _⟩ := tale.waiting waits
  · exact ⟨catalog, busy, opens, same, actions, nothing⟩
  · obtain ⟨_, ⟨_, same⟩ | ⟨_, _, record, _, same⟩⟩ := Attempt.resume_waits rest
    · rw [same] at rest
      simp [Attempt.query] at rest
    · rw [same] at rest
      simp [Attempt.launch, Turn.after] at rest

/-- A call that waits for the offers was connected. -/
theorem waiting_offers (waits : status = .waiting attempt .offers session since began) :
    ∃ catalog busy, order.Opens busy catalog ∧ attempt = order.attempt catalog .queryingOffers ∧
      past = order.approach settings busy catalog ∧
      ∀ finding ∈ found, finding.stage = .connect := by
  obtain ⟨_, _, _, _, impossible, _⟩ |
    ⟨before, behind, asked, earlier, discovered, response, moment, prior, _, rest, rfl, rfl⟩ :=
    tale.waiting waits
  · simp at impossible
  · obtain ⟨_, ⟨rfl, same⟩ | ⟨_, _, record, _, same⟩⟩ := Attempt.resume_waits rest
    · obtain ⟨catalog, busy, opens, rfl, rfl, rfl⟩ := prior.waiting_setup rfl
      rw [same] at rest ⊢
      cases rest
      exact ⟨catalog, busy, opens, rfl, rfl, by simp [Awaited.stage]⟩
    · rw [same] at rest
      simp [Attempt.launch, Turn.after] at rest

/-- A call that waits for the purchase flow is a purchase that found one record. -/
theorem waiting_launch {record : Billing.Sku}
    (waits : status = .waiting attempt (.launch record) session since began) :
    ∃ catalog busy response moment asked earlier, order.Opens busy catalog ∧
      order.purpose = .purchase ∧ check .queryOffers response.result = .ok () ∧
      response.recordsFor catalog = [record] ∧ attempt = order.attempt catalog .purchasing ∧
      past = order.approach settings busy catalog ++
        (order.followUp settings catalog response).actions ∧
      found = earlier ++ [⟨⟨moment, index, session⟩, .queryOffers, asked, response⟩] ∧
      ∀ finding ∈ earlier, finding.stage = .connect := by
  obtain ⟨_, _, _, _, impossible, _⟩ |
    ⟨before, behind, asked, earlier, discovered, response, moment, prior, passed, rest, rfl,
      rfl⟩ := tale.waiting waits
  · simp at impossible
  · obtain ⟨_, ⟨_, same⟩ | ⟨rfl, purchase, only, single, same⟩⟩ := Attempt.resume_waits rest
    · rw [same] at rest
      simp [Attempt.query] at rest
    · obtain ⟨catalog, busy, opens, rfl, rfl, connects⟩ := prior.waiting_offers rfl
      rw [same] at rest
      cases rest
      exact ⟨catalog, busy, response, moment, asked, discovered, opens, purchase, passed, single,
        rfl, rfl, rfl, connects⟩

/-- A session that found the answer to its query and still waits does so for a purchase flow. -/
theorem waiting_found {awaited : Awaited} {asked : Nat} {scene : Scene}
    {response : Billing.Response}
    (waits : status = .waiting attempt awaited session since began)
    (member : ⟨scene, .queryOffers, asked, response⟩ ∈ found) :
    ∃ catalog busy record, order.Opens busy catalog ∧ order.purpose = .purchase ∧
      response.recordsFor catalog = [record] ∧ awaited = .launch record ∧
      attempt = order.attempt catalog .purchasing ∧
      past = order.approach settings busy catalog ++
        (order.followUp settings catalog response).actions := by
  cases awaited with
  | setup =>
      obtain ⟨_, _, _, _, _, rfl⟩ := tale.waiting_setup waits
      simp at member
  | offers =>
      obtain ⟨_, _, _, _, _, connects⟩ := tale.waiting_offers waits
      simpa using connects _ member
  | launch record =>
      obtain ⟨catalog, busy, answer, moment, asked, first, opens, purchase, _, single, same,
        actions, rfl, connects⟩ := tale.waiting_launch waits
      rcases List.mem_append.mp member with early | last
      · simpa using connects _ early
      · cases List.mem_singleton.mp last
        exact ⟨catalog, busy, record, opens, purchase, single, rfl, same, actions⟩

end Tale

/-- Nothing comes after a purchase flow. -/
theorem Attempt.Reacts.ends {settings : Settings} {attempt : Attempt} {record : Billing.Sku}
    {turn : Turn} (reaction : attempt.Reacts settings (.launch record) turn) :
    ∃ ending, turn.rest = .finished ending := by
  have form := reaction.nextTurn
  cases form with
  | @asks remarks question later ahead quiet same stage progress =>
      have some := ahead.stagesLeft_pos
      have none : ahead.stagesLeft + 1 = 1 := progress
      omega
  | succeeds | fails | cancelled => exact ⟨_, rfl⟩

/-- How a call stands whose query was answered: after the turn that follows, or after the turn
that came of the purchase flow it asked for. -/
inductive Order.Stands (settings : Settings) (order : Order) (catalog : Catalog.Canonical)
    (scene : Scene) (response : Billing.Response) : Status → List Action → Prop where
  | followed (began : Nat) :
      Stands settings order catalog scene response
        ((order.followUp settings catalog response).rest.status scene began)
        (order.followUp settings catalog response).actions
  | shown {record turn} (ahead : Scene) (began : Nat) (purchase : order.purpose = .purchase)
      (single : response.recordsFor catalog = [record])
      (reaction : (order.attempt catalog .purchasing).Reacts settings (.launch record) turn) :
      Stands settings order catalog scene response (turn.rest.status ahead began)
        ((order.followUp settings catalog response).actions ++ turn.actions)

namespace Tale

variable {settings : Settings} {order : Order} {index : Nat} {status : Status}
  {past : List Action} {found : List Finding} {scene : Scene} {since : Nat}
  {response : Billing.Response} (tale : Tale settings order index status past found)
include tale

/-- A call whose query was answered stands as the answer demands. -/
theorem offers_answered (member : ⟨scene, .queryOffers, since, response⟩ ∈ found) :
    ∃ catalog busy, order.Opens busy catalog ∧
      ∃ further, past = order.approach settings busy catalog ++ further ∧
        order.Stands settings catalog scene response status further := by
  cases tale with
  | unstarted => simp at member
  | started now session busy => simp at member
  | @answered attempt awaited session asked began earlier discovered now answer prior =>
      rcases List.mem_append.mp member with before | last
      · obtain ⟨catalog, busy, record, opens, purchase, single, rfl, rfl, rfl⟩ :=
          prior.waiting_found rfl before
        exact ⟨catalog, busy, opens, _, List.append_assoc .., .shown _ _ purchase single
          (.answered _)⟩
      · cases awaited with
        | setup | launch record => simp [Awaited.stage] at last
        | offers =>
            obtain ⟨rfl, -, rfl, rfl⟩ : scene = ⟨now, index, session⟩ ∧ _ ∧ since = asked ∧
              response = answer := by simpa using last
            obtain ⟨catalog, busy, opens, rfl, rfl, _⟩ := prior.waiting_offers rfl
            exact ⟨catalog, busy, opens, _, rfl, .followed began⟩
  | @left attempt awaited session asked began earlier _ turn ending now prior reaction ends =>
      obtain ⟨catalog, busy, record, opens, purchase, single, rfl, rfl, rfl⟩ :=
        prior.waiting_found rfl member
      exact ⟨catalog, busy, opens, _, List.append_assoc .., .shown _ _ purchase single reaction⟩

/-- A session that still waits was not answered about a purchase flow. -/
theorem waiting_unshown {attempt : Attempt} {awaited : Awaited} {session asked began : Nat}
    (waits : status = .waiting attempt awaited session asked began) :
    ∀ finding ∈ found, finding.stage ≠ .launchPurchase := by
  intro finding member
  cases awaited with
  | setup =>
      obtain ⟨_, _, _, _, _, rfl⟩ := tale.waiting_setup waits
      simp at member
  | offers =>
      obtain ⟨_, _, _, _, _, connects⟩ := tale.waiting_offers waits
      simp [connects finding member]
  | launch record =>
      obtain ⟨_, _, answer, _, _, earlier, _, _, _, _, _, _, rfl, connects⟩ :=
        tale.waiting_launch waits
      rcases List.mem_append.mp member with early | last
      · simp [connects finding early]
      · simp [List.mem_singleton.mp last]

/-- A call whose purchase flow was answered is over with what the answer says. -/
theorem launch_answered (member : ⟨scene, .launchPurchase, since, response⟩ ∈ found) :
    ∃ catalog busy answer record began, order.Opens busy catalog ∧
      check .queryOffers answer.result = .ok () ∧ answer.recordsFor catalog = [record] ∧
      status = ((order.attempt catalog .purchasing).resume settings (.launch record)
        response).rest.status scene began ∧
      ∃ further, past = order.approach settings busy catalog ++ further ∧
        order.Stands settings catalog scene answer status further := by
  cases tale with
  | unstarted => simp at member
  | started now session busy => simp at member
  | @answered attempt awaited session asked began earlier discovered now answer prior =>
      rcases List.mem_append.mp member with before | last
      · exact absurd rfl (prior.waiting_unshown rfl _ before)
      · cases awaited with
        | setup | offers => simp [Awaited.stage] at last
        | launch record =>
            obtain ⟨rfl, -, rfl, rfl⟩ : scene = ⟨now, index, session⟩ ∧ _ ∧ since = asked ∧
              response = answer := by simpa using last
            obtain ⟨catalog, busy, answer, _, _, _, opens, purchase, passed, single, rfl, rfl, _⟩ :=
              prior.waiting_launch rfl
            exact ⟨catalog, busy, answer, record, began, opens, passed, single, rfl, _,
              List.append_assoc .., .shown _ _ purchase single (.answered response)⟩
  | @left attempt awaited session asked began earlier _ turn ending now prior reaction ends =>
      exact absurd rfl (prior.waiting_unshown rfl _ member)

end Tale

namespace Timeline

/-- Every call has its tale in the run of a timeline. -/
theorem Fresh.run_tale {backend : Backend World Show Signal} {settings : Settings}
    {origin : Timeline World Show Signal} (fresh : origin.Fresh) {index : Nat} {call : Call}
    (found : (origin.run backend settings).calls[index]? = some call) :
    Tale settings call.order index call.status
      (actionsOf index (origin.run backend settings).service.deeds)
      (findingsOf index (origin.findings backend settings)) := by
  rw [← run_attentive] at found ⊢
  rcases Timeline.run_unfolds origin.attentive with same | ⟨now, reached⟩
  · rw [same] at found ⊢
    have nothing : origin.findings backend settings = [] := by
      rw [findings, same]
      rfl
    have silent : origin.attentive.plain.service.deeds = [] := fresh.deeds
    rw [nothing, silent, fresh.idle call (List.mem_of_getElem? found)]
    exact .unstarted
  · exact fresh.tells reached found

end Timeline

end Storefront
