import Mathlib.Data.List.Nodup
import Mathlib.Data.List.Perm.Subperm
import Storefront.Proofs.Accounting

/-!
# What is delivered

A delivery is traced back to the answer it was made of. It holds an offer for every record of
the answer that is of a requested product, in the order of the records, and no other. How many
these are is up to the service: `Timeline.deliveries_requested` bounds them by the number of
products only if no record comes twice, and `Timeline.doubled_exceeds` is an answer with one
that does.
-/

namespace Storefront

variable {World Show Signal : Type}

/-! ## From an answer to a delivery -/

namespace Attempt

variable {settings : Settings} {attempt : Attempt}

/-- A turn changes nothing of a waiting attempt but its state. -/
theorem Reacts.keeps {awaited ahead : Awaited} {turn : Turn} {later : Attempt}
    (reaction : attempt.Reacts settings awaited turn) (waits : turn.rest = .waiting later ahead) :
    later = { attempt with state := later.state } := by
  cases reaction with
  | expired => simp [expire, conclude, Turn.after] at waits
  | cancelled => simp [cancel] at waits
  | answered response =>
      obtain ⟨_, ⟨_, same⟩ | ⟨_, _, record, _, same⟩⟩ := resume_waits waits
      · rw [same] at waits
        cases waits
        rfl
      · rw [same] at waits
        cases waits
        rfl

/-- A turn that delivers ends a lookup. -/
theorem Reacts.delivers {awaited : Awaited} {turn : Turn}
    (reaction : attempt.Reacts settings awaited turn) {text : String}
    (delivers : .deliver text ∈ turn.actions) :
    attempt.purpose = .lookup ∧
      ∃ offers, turn.rest = .finished (.succeeded (.delivered offers)) := by
  have spoken : .deliver text ∈ told turn.actions := List.mem_filter.mpr ⟨delivers, rfl⟩
  obtain ⟨ending, moment, ends, account⟩ := (reaction.accounts ⟨0, 0, 0⟩ 0).delivers spoken
  obtain ⟨lookup, _, offers, rfl, _⟩ := account.delivers spoken
  refine ⟨lookup, offers.size, ?_⟩
  cases rest : turn.rest <;> simp_all [Rest.status]

/-- What an answer is followed by delivers the offers of its records only. -/
theorem resume_delivers {awaited : Awaited} {response : Billing.Response} {text : String}
    (delivers : .deliver text ∈ (attempt.resume settings awaited response).actions) :
    awaited = .offers ∧
      text = Catalog.Platform.encode ⟨(response.recordsFor attempt.catalog).map .ofSku⟩ := by
  have answered : attempt.Reacts settings awaited (attempt.resume settings awaited response) :=
    .answered response
  obtain ⟨lookup, offers, ends⟩ := answered.delivers delivers
  cases checked : check awaited.stage response.result with
  | error refusal =>
      obtain ⟨first, _, same⟩ := resume_refused settings attempt checked
      simp [same, conclude, Turn.after] at ends
  | ok _ =>
      cases awaited with
      | setup =>
          rw [resume_setup checked] at ends
          simp [query] at ends
      | launch sku =>
          rw [resume_launch checked] at ends
          simp [conclude, Turn.after] at ends
      | offers =>
          have spoken : .deliver text ∈ told (attempt.resume settings .offers response).actions :=
            List.mem_filter.mpr ⟨delivers, rfl⟩
          rw [resume_offers checked] at spoken
          simp only [lookup] at spoken
          rw [told_deliver _ (attempt.requested_remarks response), requested_eq] at spoken
          refine ⟨rfl, ?_⟩
          split at spoken
          · simp at spoken
          · simpa using spoken

end Attempt

/-- The attempt of a waiting call is for what its order is for, with the order's catalog. -/
theorem Story.attempt {settings : Settings} {order : Order} {index : Nat} {status : Status}
    {deeds : List Deed} (story : Story settings order index status deeds) {attempt : Attempt}
    {awaited : Awaited} {session since began : Nat}
    (waits : status = .waiting attempt awaited session since began) :
    order.Accepts attempt.catalog := by
  induction story generalizing attempt awaited session since began with
  | unstarted => simp at waits
  | started now opened busy =>
      have form := order.start_firstTurn busy
      generalize order.start busy = turn at form waits
      cases form with
      | opened accepted free quiet =>
          cases waits
          exact accepted
      | unread | empty | notSingle | refused => simp [Rest.status] at waits
  | @reacted before current _ _ _ past turn now prior reaction inductionHypothesis =>
      cases rest : turn.rest with
      | waiting later ahead =>
          have kept := reaction.keeps rest
          simp only [rest, Rest.status, Status.waiting.injEq] at waits
          obtain ⟨rfl, _⟩ := waits
          have same : order.Accepts before.catalog := inductionHypothesis rfl
          rw [kept]
          exact same
      | finished ending => simp [rest, Rest.status] at waits

namespace Timeline

variable {backend : Backend World Show Signal} {settings : Settings} {now done : Nat}
  {origin timeline : Timeline World Show Signal}

/-- At some moment of a run, a call with an order heard the answer to its query. -/
def Hears (backend : Backend World Show Signal) (settings : Settings)
    (origin : Timeline World Show Signal) (scene : Scene) (order : Order)
    (response : Billing.Response) : Prop :=
  ∃ before call attempt since began, origin.Unfolds backend settings scene.now scene.call before ∧
    before.calls[scene.call]? = some call ∧ call.order = order ∧
    call.status = .waiting attempt .offers scene.session since began ∧
    before.heard backend scene .queryOffers since = some response

/-- Every delivery is made of an answer that was heard there and then. -/
theorem Fresh.delivery_heard (fresh : origin.Fresh)
    (reached : origin.Unfolds backend settings now done timeline) {scene : Scene} {text : String}
    (delivered : ⟨scene, .deliver text⟩ ∈ timeline.service.deeds) :
    ∃ order catalog response, origin.Hears backend settings scene order response ∧
      order.Accepts catalog ∧
      text = Catalog.Platform.encode ⟨(response.recordsFor catalog).map .ofSku⟩ := by
  induction reached with
  | origin now idle => simp [fresh.deeds] at delivered
  | @start now done timeline call prior found idle due inductionHypothesis =>
      rw [takeTurn_deeds, List.mem_append, Turn.mem_deeds] at delivered
      rcases delivered with before | ⟨_, inTurn⟩
      · exact inductionHypothesis before
      · exact absurd inTurn ((call.order.start_firstTurn _).delivers_nothing text)
  | look prior found waits unheard inductionHypothesis =>
      exact inductionHypothesis (by simpa [Timeline.look] using delivered)
  | @answer now done timeline call attempt awaited session since began response prior found waits
      heard inductionHypothesis =>
      rw [takeTurn_deeds, List.mem_append, Turn.mem_deeds] at delivered
      rcases delivered with before | ⟨here, inTurn⟩
      · exact inductionHypothesis (by simpa [Timeline.look] using before)
      · obtain rfl : scene = ⟨now, done, session⟩ := here
        obtain ⟨rfl, encoded⟩ := Attempt.resume_delivers inTurn
        exact ⟨call.order, attempt.catalog, response,
          ⟨timeline, call, attempt, since, began, prior, found, rfl, waits, heard⟩,
          (fresh.story prior.interleaves found).attempt waits, encoded⟩
  | @expire now done timeline call attempt awaited session since began prior found waits unheard
      late inductionHypothesis =>
      rw [takeTurn_deeds, List.mem_append, Turn.mem_deeds] at delivered
      rcases delivered with before | ⟨_, inTurn⟩
      · exact inductionHypothesis (by simpa [Timeline.look] using before)
      · obtain ⟨_, offers, ends⟩ := Attempt.Reacts.expired.delivers inTurn
        simp [Attempt.expire, Attempt.conclude, Turn.after] at ends
  | @cancel now done timeline call attempt awaited session since began patience prior found waits
      settled limited due inductionHypothesis =>
      rw [takeTurn_deeds, List.mem_append, Turn.mem_deeds] at delivered
      rcases delivered with before | ⟨_, inTurn⟩
      · exact inductionHypothesis before
      · have cancels : attempt.Reacts settings awaited attempt.cancel := .cancelled
        obtain ⟨_, offers, ends⟩ := cancels.delivers inTurn
        simp [Attempt.cancel] at ends
  | pass prior found settled inductionHypothesis => exact inductionHypothesis delivered
  | again prior inductionHypothesis => exact inductionHypothesis delivered
  | receive prior signal inductionHypothesis =>
      exact inductionHypothesis (by simpa using delivered)
  | queue prior signals inductionHypothesis => exact inductionHypothesis delivered
  | wake prior idle forward inductionHypothesis => exact inductionHypothesis delivered

/-- What a call delivered, by the answer to its query: the offers of the records that are of
products of its catalog. -/
structure Delivered (catalog : Catalog.Canonical) (response : Billing.Response) (text : String)
    (offers : Catalog.Platform) : Prop where
  reads : Catalog.Platform.decode text = .ok offers
  filtered : offers.products = (response.recordsFor catalog).map .ofSku
  requested : ∀ offer ∈ offers.products, offer.sku ∈ catalog.ids
  /-- There are no more offers than products if no record of a product comes twice. -/
  bounded : ((response.recordsFor catalog).map (·.sku)).Nodup → offers.size ≤ catalog.size

theorem delivered_of_encode (catalog : Catalog.Canonical) (response : Billing.Response) :
    Delivered catalog response
      (Catalog.Platform.encode ⟨(response.recordsFor catalog).map .ofSku⟩)
      ⟨(response.recordsFor catalog).map .ofSku⟩ where
  reads := Catalog.Platform.decode_encode _
  filtered := rfl
  requested offer member := by
    obtain ⟨record, among, rfl⟩ := List.mem_map.mp member
    simpa [Catalog.Offer.ofSku] using (List.mem_filter.mp among).2
  bounded distinct := by
    have within : (response.recordsFor catalog).map (·.sku) ⊆ catalog.ids := by
      intro sku member
      obtain ⟨record, among, rfl⟩ := List.mem_map.mp member
      simpa using (List.mem_filter.mp among).2
    have few := (List.subperm_of_subset distinct within).length_le
    simpa [Catalog.Platform.size, Catalog.Canonical.size, Catalog.Canonical.ids] using few

/-- What is delivered was requested. In every run on every backend, a delivery holds the offers
of the answer's records that are of requested products, in their order, and the lookup that
made it ends with their number. That is at most the number of products if the answer holds no
record of a product twice. -/
theorem deliveries_requested (fresh : origin.Fresh) {scene : Scene} {text : String}
    (delivered : ⟨scene, .deliver text⟩ ∈ (origin.run backend settings).service.deeds) :
    ∃ call moment catalog response offers,
      (origin.run backend settings).calls[scene.call]? = some call ∧
      call.order.purpose = .lookup ∧ call.order.Accepts catalog ∧
      origin.Hears backend settings scene call.order response ∧
      Delivered catalog response text offers ∧
      call.status = .finished (.succeeded (.delivered offers.size)) moment := by
  have interleaved := run_interleaves backend settings origin
  obtain ⟨call, moment, offers, found, lookup, ends, reads⟩ :=
    fresh.delivers interleaved delivered
  have begun : call.status ≠ .notStarted := by simp [ends]
  obtain ⟨now, reached⟩ := fresh.run_unfolds found begun
  obtain ⟨order, catalog, response, hears, accepts, rfl⟩ :=
    fresh.delivery_heard reached delivered
  have same : call.order = order := by
    obtain ⟨before, earlier, _, _, _, prior, isThere, rfl, _⟩ := hears
    have orders := interleaved.orders.trans prior.interleaves.orders.symm
    have here := congrArg (·[scene.call]?) orders
    simpa [found, isThere] using here
  have counted : offers = ⟨(response.recordsFor catalog).map .ofSku⟩ := by
    rw [Catalog.Platform.decode_encode] at reads
    exact (Except.ok.inj reads).symm
  subst same counted
  exact ⟨call, moment, catalog, response, _, found, lookup, accepts, hears,
    delivered_of_encode catalog response, ends⟩

/-- A lookup of one product. -/
def single : Timeline Unit Recorded Empty where
  calls := [{ order := ⟨.lookup, .catalog ⟨[⟨false, "subs", "premium"⟩]⟩, "activity"⟩ }]
  service := { world := () }

/-- A session whose answer holds the record of one product twice. -/
def doubled : Script :=
  let priced :=
    "\x7b\"productId\":\"premium\",\"price\":\"1\",\"price_currency_code\":\"EUR\"\x7d"
  { query := { reply := { json := some ("[" ++ priced ++ "," ++ priced ++ "]") } } }

theorem doubled_status : (single.run (scripted [doubled] true) {}).calls.map (·.status) =
    [.finished (.succeeded (.delivered 2)) 0] := by
  decide +kernel

/-- What the lookup told, by how it ended. -/
theorem doubled_told : ∃ text offers,
    (single.run (scripted [doubled] true) {}).toldBy 0 = [.deliver text] ∧
      Catalog.Platform.decode text = .ok offers ∧ offers.size = 2 := by
  have fresh : single.Fresh := ⟨by decide, rfl, rfl, rfl⟩
  obtain ⟨call, calls, ends⟩ := List.map_eq_singleton_iff.mp doubled_status
  have accounts := fresh.accounts (run_interleaves (scripted [doubled] true) {} single)
    (by simp [calls] : (single.run (scripted [doubled] true) {}).calls[0]? = some call)
  rw [ends] at accounts
  exact Account.of_delivered accounts

/-- The lookup delivers what it heard. -/
theorem doubled_requested :
    ∃ scene text call moment catalog response offers,
      ⟨scene, .deliver text⟩ ∈ (single.run (scripted [doubled] true) {}).service.deeds ∧
      (single.run (scripted [doubled] true) {}).calls[scene.call]? = some call ∧
      call.order.purpose = .lookup ∧ call.order.Accepts catalog ∧
      single.Hears (scripted [doubled] true) {} scene call.order response ∧
      Delivered catalog response text offers ∧
      call.status = .finished (.succeeded (.delivered offers.size)) moment := by
  have fresh : single.Fresh := ⟨by decide, rfl, rfl, rfl⟩
  obtain ⟨text, _, spoken, _⟩ := doubled_told
  have member : .deliver text ∈ (single.run (scripted [doubled] true) {}).toldBy 0 := by
    simp [spoken]
  obtain ⟨⟨scene, _⟩, delivered, _, rfl⟩ := mem_actionsOf.mp (List.mem_filter.mp member).1
  obtain ⟨call, moment, catalog, response, offers, rest⟩ := deliveries_requested fresh delivered
  exact ⟨scene, text, call, moment, catalog, response, offers, delivered, rest⟩

/-- It looks up one product and delivers two offers. -/
theorem doubled_exceeds :
    ∃ text offers, single.calls.map (·.order.wanted) =
        [.catalog ⟨[⟨false, "subs", "premium"⟩]⟩] ∧
      (single.run (scripted [doubled] true) {}).toldBy 0 = [.deliver text] ∧
      Catalog.Platform.decode text = .ok offers ∧ offers.size = 2 ∧
      (single.run (scripted [doubled] true) {}).calls.map (·.status) =
        [.finished (.succeeded (.delivered 2)) 0] := by
  obtain ⟨text, offers, spoken, reads, two⟩ := doubled_told
  exact ⟨text, offers, rfl, spoken, reads, two, doubled_status⟩

end Timeline

end Storefront
