import Storefront.Proofs.Attending
import Storefront.Proofs.Delivery
import Storefront.Proofs.Verdict

/-!
# What the records of an answer lead to

The query of a session is answered with records in any order, some of them of products that
nobody asked for and some of them twice. A lookup makes a catalog of those that were asked for,
record by record, and a purchase shows its flow for the only one there is, or for none.
`Timeline.lookup_delivers` and `Timeline.purchase_launches` say so of every run in which a
session found such an answer, on any backend and among any other calls.
-/

namespace Storefront

variable {World Show Signal : Type}

/-- The text of an action, if it warns of something. -/
def Action.warning? : Action → Option String
  | .log ⟨.warn, text⟩ => some text
  | _ => none

/-- The record and the presentation of a purchase flow, if an action shows one. -/
def Action.flow? : Action → Option (Billing.Sku × String)
  | .ask (.launch sku presentation) => some (sku, presentation)
  | _ => none

/-- What some actions warn of, in order. -/
def warnings (actions : List Action) : List String :=
  actions.filterMap Action.warning?

/-- The purchase flows that some actions show, in order. -/
def flows (actions : List Action) : List (Billing.Sku × String) :=
  actions.filterMap Action.flow?

@[simp] theorem Action.warning?_say (level : Level) (text : String) :
    (Action.say level text).warning? = if level = .warn then some text else none := by
  cases level <;> rfl

@[simp] theorem Action.warning?_ask (question : Question) :
    (Action.ask question).warning? = none := rfl

@[simp] theorem Action.warning?_deliver (catalog : String) :
    (Action.deliver catalog).warning? = none := rfl

@[simp] theorem warnings_append (first second : List Action) :
    warnings (first ++ second) = warnings first ++ warnings second :=
  List.filterMap_append ..

@[simp] theorem flows_append (first second : List Action) :
    flows (first ++ second) = flows first ++ flows second :=
  List.filterMap_append ..

theorem flows_remarks {actions : List Action}
    (quiet : ∀ action ∈ actions, action.isRemark = true) : flows actions = [] := by
  apply List.filterMap_eq_nil_iff.mpr
  intro action member
  have remark := quiet action member
  cases action <;> simp_all [Action.flow?]

theorem flows_silent {actions : List Action}
    (silent : ∀ question, .ask question ∉ actions) : flows actions = [] := by
  apply List.filterMap_eq_nil_iff.mpr
  intro action member
  cases action with
  | ask question => exact absurd member (silent question)
  | _ => rfl

/-! ## What a call says and shows by the way -/

namespace Attempt

variable (settings : Settings) (attempt : Attempt)

/-- The line about an event is no warning. -/
@[simp] theorem move_warning (event : Event) : (attempt.move event).2.warning? = none := by
  unfold move State.apply
  cases attempt.state.on event <;> rfl

/-- A turn that concludes with an outcome warns of nothing but what it says before. -/
theorem warnings_conclude_ok (outcome : Outcome) (first : List Action) :
    warnings ((attempt.conclude (.ok outcome)).after first).actions = warnings first := by
  have yields : warnings attempt.purpose.yield = [] := by
    cases attempt.purpose <;> rfl
  simp only [conclude, Turn.after, release_eq_yield, warnings_append, List.append_assoc]
  simp [warnings, hangUp, Action.say, Action.warning?]

theorem warnings_query : warnings (attempt.query settings).actions = [] := by
  simp [query, warnings]

theorem flows_query : flows (attempt.query settings).actions = [] := by
  simp [query, flows, Action.say, Action.flow?, move]

/-- Every record of a product that was not asked for is warned of, in order. -/
theorem warnings_requested (response : Billing.Response) :
    warnings (attempt.requested response).2 =
      ((response.details.getD []).filter fun record => record.sku ∉ attempt.catalog.ids).map
        fun record => "ignoring unrequested sku from billing backend: " ++ record.sku := by
  have unknown : ∀ id, (attempt.catalog.find? id).isNone = decide (id ∉ attempt.catalog.ids) := by
    intro id
    rw [Bool.eq_iff_iff]
    simp [Catalog.Canonical.find?, Catalog.Canonical.ids]
  unfold requested
  cases response.details with
  | none => rfl
  | some details =>
      simp only [unknown, warnings, List.filterMap_map, Option.getD_some]
      exact List.filterMap_eq_map ▸ rfl

theorem warnings_deliver (details : List Billing.Sku) (dropped : List Action) :
    warnings ((attempt.deliver details).after dropped).actions = warnings dropped := by
  unfold deliver
  split
  · rw [after_after, warnings_conclude_ok, warnings_append]
    simp [warnings]
  · rw [after_after, warnings_conclude_ok, warnings_append]
    simp [warnings]

end Attempt

namespace Order.Opens

variable {order : Order} {busy : Bool} {catalog : Catalog.Canonical}
  (opens : order.Opens busy catalog)
include opens

/-- A lookup that opens a session warns of nothing. -/
theorem warnings_start (lookup : order.purpose = .lookup) :
    warnings (order.start busy).actions = [] := by
  obtain ⟨⟨read, filled⟩, waits⟩ := opens
  simp only [lookup] at filled
  have same : order.start busy = (order.lookUp catalog).after [.begin] := by
    simp only [Order.start, read, lookup]
  have silent : Action.begin.warning? = none ∧ Action.openSession.warning? = none := ⟨rfl, rfl⟩
  rw [same, Order.lookUp, if_neg (by simp [filled])]
  cases catalog.featured? <;> simp [Attempt.connect, Turn.after, warnings, silent]

theorem flows_start : flows (order.start busy).actions = [] := by
  have form := order.start_firstTurn busy
  have waits := opens.waits
  generalize order.start busy = turn at form waits
  cases form with
  | @opened catalog remarks line accepted free quiet =>
      have claims : flows order.purpose.claim = [] := by
        cases order.purpose <;> rfl
      have parts : flows (.begin :: (order.purpose.claim ++ remarks ++
          [.openSession, .log line, .ask .setup])) =
          flows order.purpose.claim ++ flows remarks ++
            flows [.openSession, .log line, .ask .setup] := by
        rw [← flows_append, ← flows_append]
        rfl
      rw [parts, claims, flows_remarks quiet]
      rfl
  | unread | empty | notSingle | refused => simp at waits

/-- No purchase flow is shown until the query is answered. -/
theorem flows_approach (settings : Settings) :
    flows (order.approach settings busy catalog) = [] := by
  rw [Order.approach, flows_append, opens.flows_start, Attempt.flows_query]
  rfl

theorem warnings_approach (settings : Settings) (lookup : order.purpose = .lookup) :
    warnings (order.approach settings busy catalog) = [] := by
  rw [Order.approach, warnings_append, opens.warnings_start lookup, Attempt.warnings_query]
  rfl

/-- Nothing is told until the query is answered. -/
theorem told_approach (settings : Settings) :
    told (order.approach settings busy catalog) = [] := by
  have accounts := (order.start_firstTurn busy).accounts ⟨0, 0, 0⟩ 0
  rw [opens.waits] at accounts
  have silent : told (order.start busy).actions = [] := accounts
  rw [Order.approach, told_append, silent]
  simp [Attempt.query, Attempt.move, Action.say]

end Order.Opens

/-- The catalog that a call opens a session for is the one it reads. -/
theorem Order.Accepts.unique {order : Order} {first second : Catalog.Canonical}
    (one : order.Accepts first) (other : order.Accepts second) : first = second :=
  Except.ok.inj (one.1.symm.trans other.1)

/-! ## Lookups -/

/-- What becomes of a lookup by the records of the answer to its query. -/
structure LookedUp (catalog : Catalog.Canonical) (response : Billing.Response) (moment : Nat)
    (actions : List Action) (status : Status) : Prop where
  /-- Every record of another product is warned of, and nothing else is. -/
  warns : warnings actions =
    ((response.details.getD []).filter fun record => record.sku ∉ catalog.ids).map
      fun record => "ignoring unrequested sku from billing backend: " ++ record.sku
  misses : response.recordsFor catalog = [] →
    told actions = [] ∧ status = .finished (.succeeded .notFound) moment
  /-- The one text that is delivered is read as an offer for every record, in order. -/
  delivers : response.recordsFor catalog ≠ [] → ∃ text, told actions = [.deliver text] ∧
    Catalog.Platform.decode text = .ok ⟨(response.recordsFor catalog).map fun record =>
      ⟨record.sku, record.description, record.price, record.priceCurrencyCode⟩⟩ ∧
    status = .finished (.succeeded (.delivered (response.recordsFor catalog).length)) moment

/-- The turn that follows the answer to the query of a lookup. -/
theorem Order.followUp_lookup {settings : Settings} {order : Order} {catalog : Catalog.Canonical}
    {response : Billing.Response} (lookup : order.purpose = .lookup)
    (ok : response.result.code = .ok) :
    order.followUp settings catalog response =
      ((order.attempt catalog .queryingOffers).deliver (response.recordsFor catalog)).after
        ((order.attempt catalog .queryingOffers).requested response).2 := by
  rw [Order.followUp, Attempt.resume_offers (check_ok ok _), Attempt.requested_eq]
  simp only [Order.attempt, lookup]

namespace Timeline

variable {backend : Backend World Show Signal} {settings : Settings}
  {origin : Timeline World Show Signal}

/-- What a lookup delivers. In every run on every backend, a lookup whose query was answered
with success delivers the offers of the records of requested products, all of them in their
order, in one text, and ends with their number; if there is none it delivers nothing and ends
with that. It warns of the other records, one by one. -/
theorem lookup_delivers (fresh : origin.Fresh) {scene : Scene} {since : Nat}
    {response : Billing.Response} {call : Call} {catalog : Catalog.Canonical}
    (found : (origin.run backend settings).calls[scene.call]? = some call)
    (lookup : call.order.purpose = .lookup) (accepts : call.order.Accepts catalog)
    (heard : ⟨scene, .queryOffers, since, response⟩ ∈ origin.findings backend settings)
    (ok : response.result.code = .ok) :
    LookedUp catalog response scene.now
      (actionsOf scene.call (origin.run backend settings).service.deeds) call.status := by
  have own : ⟨scene, .queryOffers, since, response⟩ ∈
      findingsOf scene.call (origin.findings backend settings) :=
    List.mem_filter.mpr ⟨heard, by simp⟩
  obtain ⟨asked, busy, opens, further, actions, stands⟩ :=
    (fresh.run_tale found).offers_answered own
  obtain rfl := opens.accepts.unique accepts
  rw [actions]
  generalize call.status = status at stands
  cases stands with
  | shown ahead began purchase => simp [lookup] at purchase
  | followed began =>
      have quiet := (call.order.attempt asked .queryingOffers).requested_remarks response
      rw [Order.followUp_lookup lookup ok]
      refine ⟨?_, fun none => ?_, fun some => ?_⟩
      · rw [warnings_append, opens.warnings_approach settings lookup, Attempt.warnings_deliver,
          Attempt.warnings_requested]
        rfl
      · rw [told_append, opens.told_approach, Attempt.told_deliver _ quiet, none]
        exact ⟨rfl, rfl⟩
      · rw [told_append, opens.told_approach, Attempt.told_deliver _ quiet, if_neg some]
        refine ⟨_, rfl, Catalog.Platform.decode_encode _, ?_⟩
        obtain ⟨first, others, records⟩ := List.exists_cons_of_ne_nil some
        rw [records]
        simp [Attempt.deliver, Attempt.conclude, Turn.after, Rest.status, Catalog.Platform.size]

/-- A lookup of two products, one of which is named twice. -/
def shelf : Timeline Unit Recorded Empty where
  calls := [{ order := ⟨.lookup, .catalog ⟨[⟨true, "subs", "b"⟩, ⟨false, "subs", "a"⟩,
    ⟨false, "subs", "b"⟩]⟩, "activity"⟩ }]
  service := { world := () }

/-- Every stage is answered with success after a while, and the query with some records. -/
def stocked (delay : Nat) (details : List Billing.Sku) : Backend Unit Recorded Empty where
  act _ _ _ := ([], ())
  poll scene stage since _ :=
    if since + delay ≤ scene.now then
      (some ⟨{}, if stage = .queryOffers then some details else none⟩, [], ())
    else (none, [], ())
  due _ _ since _ := some (since + delay)
  receive signal _ := nomatch signal

/-- Records in no order, of requested products and of others. -/
def jumble : List Billing.Sku :=
  [("a", "1"), ("stray", "2"), ("b", "3"), ("a", "4"), ("stray", "5")].map fun (sku, price) =>
    ⟨sku, "subs", "title of " ++ sku, "about " ++ sku, price, 7, "EUR", "P1M"⟩

/-- The lookup delivers three offers and warns of two records. -/
theorem shelf_delivers :
    ⟨⟨40, 0, 1⟩, .queryOffers, 20, ⟨{}, some jumble⟩⟩ ∈
        shelf.findings (stocked 20 jumble) {} ∧
      LookedUp ⟨[⟨true, "subs", "b"⟩, ⟨false, "subs", "a"⟩, ⟨false, "subs", "b"⟩]⟩
        ⟨{}, some jumble⟩ 40
        (actionsOf 0 (shelf.run (stocked 20 jumble) {}).service.deeds)
        (.finished (.succeeded (.delivered 3)) 40) := by
  have fresh : shelf.Fresh := ⟨by decide, rfl, rfl, rfl⟩
  have heard : ⟨⟨40, 0, 1⟩, .queryOffers, 20, ⟨{}, some jumble⟩⟩ ∈
      shelf.findings (stocked 20 jumble) {} := by
    decide +kernel
  let scene : Scene := ⟨40, 0, 1⟩
  let call : Call :=
    { order := ⟨.lookup, .catalog ⟨[⟨true, "subs", "b"⟩, ⟨false, "subs", "a"⟩,
        ⟨false, "subs", "b"⟩]⟩, "activity"⟩
      status := .finished (.succeeded (.delivered 3)) 40 }
  have found : (shelf.run (stocked 20 jumble) {}).calls[scene.call]? = some call := by
    decide +kernel
  exact ⟨heard, lookup_delivers fresh found rfl ⟨rfl, rfl⟩ heard rfl⟩

end Timeline

/-! ## Purchases -/

/-- How many records an answer holds of a product. -/
def Billing.Response.count (response : Response) (product : Catalog.Product) : Nat :=
  (response.details.getD []).countP (·.sku = product.id)

/-- What becomes of a purchase by the records of the answer to its query, and by what else its
session found. -/
structure Bought (product : Catalog.Product) (presentation : String) (scene : Scene)
    (response : Billing.Response) (found : List Finding) (actions : List Action)
    (status : Status) : Prop where
  undelivered : ∀ text, .deliver text ∉ actions
  misses : response.count product = 0 →
    flows actions = [] ∧ status = .finished (.succeeded .notFound) scene.now
  ambiguous : 2 ≤ response.count product →
    flows actions = [] ∧
      status = .finished (.failed (.unexpectedOfferCount 1 (response.count product))) scene.now
  /-- The only record of the product is shown as it is, and its offer is the outcome. -/
  shows : response.count product = 1 →
    ∃ record ∈ response.details.getD [], record.sku = product.id ∧
      flows actions = [(record, presentation)] ∧
      ∀ ahead since shown, ⟨ahead, .launchPurchase, since, shown⟩ ∈ found →
        ahead.call = scene.call → shown.result.code = .ok →
        status = .finished (.succeeded (.purchaseLaunched
          ⟨record.sku, record.description, record.price, record.priceCurrencyCode⟩)) ahead.now

/-- The records of the only product of a catalog. -/
theorem Billing.Response.recordsFor_product {catalog : Catalog.Canonical}
    {product : Catalog.Product} (single : catalog.single = .ok product) (response : Response) :
    response.recordsFor catalog =
      (response.details.getD []).filter fun record => record.sku = product.id := by
  have products : catalog.products = [product] := by
    unfold Catalog.Canonical.single at single
    split at single
    · next same => exact same ▸ congrArg (fun only => [only]) (Except.ok.inj single)
    · simp at single
  simp [recordsFor, Catalog.Canonical.ids, products]

theorem Billing.Response.count_eq {catalog : Catalog.Canonical} {product : Catalog.Product}
    (single : catalog.single = .ok product) (response : Response) :
    response.count product = (response.recordsFor catalog).length := by
  rw [recordsFor_product single, count, List.countP_eq_length_filter]

section FollowUp

variable {settings : Settings} {order : Order} {catalog : Catalog.Canonical}
  {response : Billing.Response} (purchase : order.purpose = .purchase)
  (passed : check .queryOffers response.result = .ok ())
include purchase passed

/-- The turn that follows the answer to the query of a purchase. -/
theorem Order.followUp_purchase :
    order.followUp settings catalog response =
      ((order.attempt catalog .queryingOffers).launch (response.recordsFor catalog)).after
        ((order.attempt catalog .queryingOffers).requested response).2 := by
  rw [Order.followUp, Attempt.resume_offers passed, Attempt.requested_eq]
  simp only [Order.attempt, purchase]

/-- If one record was found, its flow is shown with the presentation of the order. -/
theorem Order.flows_followUp {record : Billing.Sku}
    (single : response.recordsFor catalog = [record]) :
    flows (order.followUp settings catalog response).actions = [(record, order.presentation)] := by
  have quiet := (order.attempt catalog .queryingOffers).requested_remarks response
  rw [Order.followUp_purchase purchase passed, single]
  simp only [Attempt.launch, Turn.after, flows_append, flows_remarks quiet]
  rfl

/-- If there is no record or more than one, the purchase ends without a flow. -/
theorem Order.followUp_ends {ending : Ending}
    (ends : (order.followUp settings catalog response).rest = .finished ending) :
    flows (order.followUp settings catalog response).actions = [] := by
  have quiet := (order.attempt catalog .queryingOffers).requested_remarks response
  rw [Order.followUp_purchase purchase passed] at ends ⊢
  exact flows_silent ((Attempt.launch_nextTurn _ _ _ quiet).silent ends)

end FollowUp

namespace Order.Stands

variable {settings : Settings} {order : Order} {catalog : Catalog.Canonical} {scene : Scene}
  {response : Billing.Response} {status : Status} {further : List Action}
  (stands : order.Stands settings catalog scene response status further)
include stands

/-- A call that found no record of its product, or several, is over. -/
theorem followed_only (unlike : (response.recordsFor catalog).length ≠ 1) :
    ∃ began, status = (order.followUp settings catalog response).rest.status scene began ∧
      further = (order.followUp settings catalog response).actions := by
  cases stands with
  | followed began => exact ⟨began, rfl, rfl⟩
  | shown ahead began purchase single => simp [single] at unlike

variable (purchase : order.purpose = .purchase)
  (passed : check .queryOffers response.result = .ok ())
include purchase passed

/-- A purchase without a record of its product ends with that. -/
theorem missed (none : response.recordsFor catalog = []) :
    Storefront.flows further = [] ∧ status = .finished (.succeeded .notFound) scene.now := by
  obtain ⟨began, ends, rfl⟩ := stands.followed_only (by simp [none])
  have rest : (order.followUp settings catalog response).rest =
      .finished (.succeeded .notFound) := by
    rw [Order.followUp_purchase purchase passed, none]
    rfl
  rw [Order.followUp_ends purchase passed rest, ends, rest]
  exact ⟨rfl, rfl⟩

/-- One with several ends with their number. -/
theorem ambiguous (several : 2 ≤ (response.recordsFor catalog).length) :
    Storefront.flows further = [] ∧ status = .finished (.failed
      (.unexpectedOfferCount 1 (response.recordsFor catalog).length)) scene.now := by
  obtain ⟨began, ends, rfl⟩ := stands.followed_only (by omega)
  have rest : (order.followUp settings catalog response).rest =
      .finished (.failed (.unexpectedOfferCount 1 (response.recordsFor catalog).length)) := by
    rw [Order.followUp_purchase purchase passed]
    match response.recordsFor catalog, several with
    | first :: second :: others, _ => rfl
  rw [Order.followUp_ends purchase passed rest, ends, rest]
  exact ⟨rfl, rfl⟩

/-- A call that found one record of its product shows one flow. -/
theorem flows {record : Billing.Sku} (single : response.recordsFor catalog = [record]) :
    Storefront.flows further = [(record, order.presentation)] := by
  have one : Storefront.flows (order.followUp settings catalog response).actions =
      [(record, order.presentation)] := order.flows_followUp purchase passed single
  cases stands with
  | followed began => exact one
  | shown ahead began _ _ reaction =>
      obtain ⟨ending, ends⟩ := reaction.ends
      rw [flows_append, one, flows_silent (reaction.nextTurn.silent ends)]
      rfl

end Order.Stands

/-- A purchase whose flow is answered with success ends with the offer of the record it showed. -/
theorem Tale.launch_ends {settings : Settings} {order : Order} {index : Nat} {status : Status}
    {past : List Action} {found : List Finding}
    (tale : Tale settings order index status past found) (purchase : order.purpose = .purchase)
    {record : Billing.Sku} {presentation : String} (shown : flows past = [(record, presentation)])
    {ahead : Scene} {since : Nat} {answer : Billing.Response}
    (answered : ⟨ahead, .launchPurchase, since, answer⟩ ∈ found)
    (fine : answer.result.code = .ok) :
    status = .finished (.succeeded (.purchaseLaunched (.ofSku record))) ahead.now := by
  obtain ⟨_, _, _, other, began, opens, passed, only, ends, _, rfl, stands⟩ :=
    tale.launch_answered answered
  -- Both accounts of what the call did show its flow for the same record.
  rw [flows_append, opens.flows_approach, stands.flows purchase passed only] at shown
  obtain rfl : other = record := by simpa using congrArg (List.map Prod.fst) shown
  rw [ends, Attempt.resume_launch (check_ok fine _)]
  rfl

namespace Timeline

variable {backend : Backend World Show Signal} {settings : Settings}
  {origin : Timeline World Show Signal}

/-- Purchases deliver nothing. -/
theorem Fresh.purchase_undelivered (fresh : origin.Fresh) {index : Nat} {call : Call}
    (found : (origin.run backend settings).calls[index]? = some call)
    (purchase : call.order.purpose = .purchase) (text : String) :
    .deliver text ∉ actionsOf index (origin.run backend settings).service.deeds := by
  intro delivers
  have accounts := fresh.accounts (run_interleaves backend settings origin) found
  have spoken : .deliver text ∈ (origin.run backend settings).toldBy index :=
    List.mem_filter.mpr ⟨delivers, rfl⟩
  obtain ⟨_, _, _, account⟩ := accounts.delivers spoken
  simpa [purchase] using (account.delivers spoken).1

/-- What a purchase shows. In every run on every backend, a purchase whose query was answered
with success shows its flow for the record of its product if there is exactly one, whatever else
was in the answer, and for none otherwise. It ends with the offer of the record if the flow is
answered with success, and never delivers anything. -/
theorem purchase_launches (fresh : origin.Fresh) {scene : Scene} {since : Nat}
    {response : Billing.Response} {call : Call} {catalog : Catalog.Canonical}
    {product : Catalog.Product}
    (found : (origin.run backend settings).calls[scene.call]? = some call)
    (purchase : call.order.purpose = .purchase) (read : call.order.wanted.read = .ok catalog)
    (single : catalog.single = .ok product)
    (heard : ⟨scene, .queryOffers, since, response⟩ ∈ origin.findings backend settings)
    (ok : response.result.code = .ok) :
    Bought product call.order.presentation scene response (origin.findings backend settings)
      (actionsOf scene.call (origin.run backend settings).service.deeds) call.status := by
  have accepts : call.order.Accepts catalog := ⟨read, by simpa only [purchase] using ⟨_, single⟩⟩
  have own : ⟨scene, .queryOffers, since, response⟩ ∈
      findingsOf scene.call (origin.findings backend settings) :=
    List.mem_filter.mpr ⟨heard, by simp⟩
  have passed := check_ok ok .queryOffers
  have tale := fresh.run_tale found
  obtain ⟨asked, busy, opens, further, actions, stands⟩ := tale.offers_answered own
  obtain rfl := accepts.unique opens.accepts
  have shown : flows (actionsOf scene.call (origin.run backend settings).service.deeds) =
      flows further := by
    rw [actions, flows_append, opens.flows_approach]
    rfl
  have counted := Billing.Response.count_eq single response
  refine ⟨fresh.purchase_undelivered found purchase, fun none => ?_, fun several => ?_,
    fun one => ?_⟩
  · rw [shown]
    exact stands.missed purchase passed (List.length_eq_zero_iff.mp (counted ▸ none))
  · rw [shown, counted]
    exact stands.ambiguous purchase passed (counted ▸ several)
  · obtain ⟨record, only⟩ := List.length_eq_one_iff.mp (counted ▸ one)
    have member : record ∈ (response.details.getD []).filter fun record =>
        record.sku = product.id := by
      simp [← Billing.Response.recordsFor_product single response, only]
    obtain ⟨listed, same⟩ := List.mem_filter.mp member
    have flow := shown.trans (stands.flows purchase passed only)
    refine ⟨record, listed, by simpa using same, flow, ?_⟩
    intro ahead moment answer answered sameCall fine
    have own : ⟨ahead, .launchPurchase, moment, answer⟩ ∈
        findingsOf scene.call (origin.findings backend settings) :=
      List.mem_filter.mpr ⟨answered, by simpa using sameCall⟩
    exact tale.launch_ends purchase flow own fine

/-- A purchase. -/
def counter : Timeline Unit Recorded Empty where
  calls := [{ order := ⟨.purchase, .catalog ⟨[⟨true, "subs", "b"⟩]⟩, "activity"⟩ }]
  service := { world := () }

/-- The record of the product stands in the middle of others, and its flow is shown. -/
theorem counter_launches :
    ⟨⟨40, 0, 1⟩, .queryOffers, 20, ⟨{}, some jumble⟩⟩ ∈
        counter.findings (stocked 20 jumble) {} ∧
      (Billing.Response.mk {} (some jumble)).count ⟨true, "subs", "b"⟩ = 1 ∧
      ⟨⟨60, 0, 1⟩, .launchPurchase, 40, ⟨{}, none⟩⟩ ∈ counter.findings (stocked 20 jumble) {} ∧
      Bought ⟨true, "subs", "b"⟩ "activity" ⟨40, 0, 1⟩ ⟨{}, some jumble⟩
        (counter.findings (stocked 20 jumble) {})
        (actionsOf 0 (counter.run (stocked 20 jumble) {}).service.deeds)
        (.finished (.succeeded (.purchaseLaunched ⟨"b", "about b", "3", "EUR"⟩)) 60) := by
  have fresh : counter.Fresh := ⟨by decide, rfl, rfl, rfl⟩
  have heard : ⟨⟨40, 0, 1⟩, .queryOffers, 20, ⟨{}, some jumble⟩⟩ ∈
      counter.findings (stocked 20 jumble) {} := by
    decide +kernel
  let scene : Scene := ⟨40, 0, 1⟩
  let call : Call :=
    { order := ⟨.purchase, .catalog ⟨[⟨true, "subs", "b"⟩]⟩, "activity"⟩
      status := .finished (.succeeded (.purchaseLaunched ⟨"b", "about b", "3", "EUR"⟩)) 60 }
  have found : (counter.run (stocked 20 jumble) {}).calls[scene.call]? = some call := by
    decide +kernel
  exact ⟨heard, by decide +kernel, by decide +kernel,
    purchase_launches fresh found rfl rfl rfl heard rfl⟩

end Timeline

end Storefront
