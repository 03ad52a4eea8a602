import Storefront.Proofs.Delivery
import Storefront.Proofs.Verdict

/-!
# The protocol of a session

A session is opened, asked one question for each stage and ended, and a stage is reached only
through an answer that allows it. `Passage` says what a call at a status used its session for,
with the answers that led there; `Timeline.Fresh.passages` finds a passage of every call in
every run, on any backend, and `Timeline.sessions_orderly` reads the protocol off it.
-/

namespace Storefront

variable {World Show Signal : Type}

/-! ## What turns use sessions for -/

/-- The uses of a call's session among what it does at a scene. -/
def Turn.uses (turn : Turn) : List Action :=
  turn.actions.filter Action.isSession

/-- What a call did with its session. -/
def usesBy (call : Nat) (deeds : List Deed) : List Deed :=
  (deedsOf call deeds).filter (·.action.isSession)

/-- What was done with a session. -/
def usesOf (session : Nat) (deeds : List Deed) : List Deed :=
  deeds.filter fun deed => deed.scene.session = session && deed.action.isSession

@[simp] theorem usesBy_append (call : Nat) (before after : List Deed) :
    usesBy call (before ++ after) = usesBy call before ++ usesBy call after := by
  simp [usesBy]

theorem usesBy_deeds (turn : Turn) (scene : Scene) (call : Nat) :
    usesBy call (turn.deeds scene) =
      if call = scene.call then turn.uses.map (Deed.mk scene) else [] := by
  rw [usesBy, Turn.deedsOf_deeds]
  split
  · rw [Turn.deeds, List.filter_map]
    rfl
  · rfl

/-- Remarks are no use of a session. -/
theorem filter_isSession_remarks {remarks : List Action}
    (quiet : ∀ action ∈ remarks, action.isRemark = true) :
    remarks.filter Action.isSession = [] := by
  apply List.filter_eq_nil_iff.mpr
  intro action member
  have remark := quiet action member
  cases action <;> simp_all

/-- A first turn opens a session and connects, or leaves the backend alone. -/
theorem Order.FirstTurn.uses {order : Order} {busy : Bool} {turn : Turn}
    (form : order.FirstTurn busy turn) :
    (∃ ending, turn.rest = .finished ending ∧ turn.uses = []) ∨
      ∃ catalog, order.Accepts catalog ∧
        turn.rest = .waiting ⟨order.purpose, catalog, order.presentation, .connecting⟩ .setup ∧
        turn.uses = [.openSession, .ask .setup] := by
  cases form with
  | unread | empty | notSingle | refused => exact .inl ⟨_, rfl, rfl⟩
  | @opened catalog remarks line accepted free quiet =>
      refine .inr ⟨catalog, accepted, rfl, ?_⟩
      have claims : order.purpose.claim.filter Action.isSession = [] := by
        cases order.purpose <;> rfl
      simp [Turn.uses, claims, filter_isSession_remarks quiet, List.filter_cons]

namespace Attempt

variable {settings : Settings} {attempt later : Attempt} {awaited ahead : Awaited} {turn : Turn}

/-- A turn that ends its call uses the session for nothing but its end. -/
theorem NextTurn.uses_end (form : attempt.NextTurn awaited turn) {ending : Ending}
    (ends : turn.rest = .finished ending) : turn.uses = [.endSession] := by
  have yields : attempt.purpose.yield.filter Action.isSession = [] := by
    cases attempt.purpose <;> rfl
  cases form with
  | asks quiet same stage progress => simp at ends
  | @succeeds first outcome line speech =>
      have unused : first.filter Action.isSession = [] := by
        apply List.filter_eq_nil_iff.mpr
        intro action member
        rcases speech action member with remark | ⟨text, rfl⟩
        · cases action <;> simp_all
        · simp
      simp [Turn.uses, unused, yields, hangUp, Action.say, List.filter_cons]
  | fails quiet still tried =>
      simp [Turn.uses, filter_isSession_remarks quiet, filter_isSession_remarks still, yields,
        hangUp, Action.say, List.filter_cons]
  | cancelled => simp [Turn.uses, yields, hangUp, Action.say, List.filter_cons]

/-- The stage an answer leads to, with the question that is asked in it. -/
inductive Leads (settings : Settings) (attempt : Attempt) (response : Billing.Response) :
    (awaited ahead : Awaited) → Question → Prop where
  | toQuery :
      Leads settings attempt response .setup .offers (.offers attempt.catalog.ids settings.skuType)
  | toLaunch {record} (purchase : attempt.purpose = .purchase)
      (only : response.recordsFor attempt.catalog = [record]) :
      Leads settings attempt response .offers (.launch record)
        (.launch record attempt.presentation)

/-- An attempt goes on only after an answer with success that leads to the next stage. -/
theorem resume_leads {response : Billing.Response}
    (waits : (attempt.resume settings awaited response).rest = .waiting later ahead) :
    response.result.code = .ok ∧ ∃ question,
      attempt.Leads settings response awaited ahead question ∧
      (attempt.resume settings awaited response).uses = [.ask question] := by
  obtain ⟨passed, next⟩ := resume_waits waits
  have ok : response.result.code = .ok := by
    by_contra other
    obtain ⟨line, refused⟩ := check_failed other awaited.stage
    simp [refused] at passed
  refine ⟨ok, ?_⟩
  rcases next with ⟨rfl, same⟩ | ⟨rfl, purchase, record, only, same⟩
  · rw [same] at waits ⊢
    cases waits
    exact ⟨_, .toQuery, by simp [Turn.uses, query, move, Action.say]⟩
  · have unused := filter_isSession_remarks (attempt.requested_remarks response)
    rw [same] at waits ⊢
    cases waits
    exact ⟨_, .toLaunch purchase only, by simp [Turn.uses, launch, Turn.after, move, unused]⟩

end Attempt

/-! ## The passage of a call through its stages -/

/-- What a call that is now at a status used its session for, and which answers led there. The
answers there were are known by the scene they were found in, their stage and the moment since
which they were waited for. -/
inductive Passage (settings : Settings) (order : Order) (index : Nat)
    (answered : Scene → Stage → (since : Nat) → Billing.Response → Prop) :
    Status → List Deed → Prop where
  | unstarted : Passage settings order index answered .notStarted []
  | dismissed {ending moment} : Passage settings order index answered (.finished ending moment) []
  | connecting {catalog state session now} (accepted : order.Accepts catalog) :
      Passage settings order index answered
        (.waiting ⟨order.purpose, catalog, order.presentation, state⟩ .setup session now now)
        [⟨⟨now, index, session⟩, .openSession⟩, ⟨⟨now, index, session⟩, .ask .setup⟩]
  | querying {catalog state session began now response} (accepted : order.Accepts catalog)
      (connected : answered ⟨now, index, session⟩ .connect began response)
      (ok : response.result.code = .ok) :
      Passage settings order index answered
        (.waiting ⟨order.purpose, catalog, order.presentation, state⟩ .offers session now began)
        [⟨⟨began, index, session⟩, .openSession⟩, ⟨⟨began, index, session⟩, .ask .setup⟩,
          ⟨⟨now, index, session⟩, .ask (.offers catalog.ids settings.skuType)⟩]
  | launching {catalog state session began since now connection response record}
      (accepted : order.Accepts catalog)
      (connected : answered ⟨since, index, session⟩ .connect began connection)
      (ok : connection.result.code = .ok)
      (queried : answered ⟨now, index, session⟩ .queryOffers since response)
      (fine : response.result.code = .ok) (purchase : order.purpose = .purchase)
      (only : response.recordsFor catalog = [record]) :
      Passage settings order index answered
        (.waiting ⟨order.purpose, catalog, order.presentation, state⟩ (.launch record) session now
          began)
        [⟨⟨began, index, session⟩, .openSession⟩, ⟨⟨began, index, session⟩, .ask .setup⟩,
          ⟨⟨since, index, session⟩, .ask (.offers catalog.ids settings.skuType)⟩,
          ⟨⟨now, index, session⟩, .ask (.launch record order.presentation)⟩]
  | ended {attempt awaited session since began uses ending} (moment : Nat)
      (prior : Passage settings order index answered
        (.waiting attempt awaited session since began) uses) :
      Passage settings order index answered (.finished ending moment)
        (uses ++ [⟨⟨moment, index, session⟩, .endSession⟩])

namespace Passage

variable {settings : Settings} {order : Order} {index : Nat}
  {answered : Scene → Stage → (since : Nat) → Billing.Response → Prop} {status : Status}
  {uses : List Deed}

/-- A passage stays one when more answers are known of. -/
theorem mono {more : Scene → Stage → (since : Nat) → Billing.Response → Prop}
    (passage : Passage settings order index answered status uses)
    (known : ∀ {scene stage since response},
      answered scene stage since response → more scene stage since response) :
    Passage settings order index more status uses := by
  induction passage with
  | unstarted => exact .unstarted
  | dismissed => exact .dismissed
  | connecting accepted => exact .connecting accepted
  | querying accepted connected ok => exact .querying accepted (known connected) ok
  | launching accepted connected ok queried fine purchase only =>
      exact .launching accepted (known connected) ok (known queried) fine purchase only
  | ended moment prior inductionHypothesis => exact .ended moment inductionHypothesis

/-- The first turn of a call begins its passage. -/
theorem start (order : Order) (busy : Bool) (now session : Nat) :
    Passage settings order index answered
      ((order.start busy).rest.status ⟨now, index, session⟩ now)
      ((order.start busy).uses.map (Deed.mk ⟨now, index, session⟩)) := by
  rcases (order.start_firstTurn busy).uses with
    ⟨ending, rest, used⟩ | ⟨catalog, accepted, rest, used⟩
  · rw [rest, used]
    exact .dismissed
  · rw [rest, used]
    exact .connecting accepted

section Waiting

variable {attempt : Attempt} {awaited : Awaited} {session since began : Nat}
  (passage : Passage settings order index answered
    (.waiting attempt awaited session since began) uses)
include passage

/-- The last turn of a call ends its passage. -/
theorem finish {turn : Turn} {ending : Ending} (form : attempt.NextTurn awaited turn)
    (ends : turn.rest = .finished ending) (now : Nat) :
    Passage settings order index answered (turn.rest.status ⟨now, index, session⟩ began)
      (uses ++ turn.uses.map (Deed.mk ⟨now, index, session⟩)) := by
  rw [form.uses_end ends, ends]
  exact passage.ended now

/-- An answer leads a call on to its next stage, or to its end. -/
theorem answer {now : Nat} {response : Billing.Response}
    (heard : answered ⟨now, index, session⟩ awaited.stage since response) :
    Passage settings order index answered
      ((attempt.resume settings awaited response).rest.status ⟨now, index, session⟩ began)
      (uses ++ (attempt.resume settings awaited response).uses.map
        (Deed.mk ⟨now, index, session⟩)) := by
  have answers : attempt.Reacts settings awaited (attempt.resume settings awaited response) :=
    .answered response
  cases rest : (attempt.resume settings awaited response).rest with
  | finished ending => exact rest ▸ passage.finish answers.nextTurn rest now
  | waiting later ahead =>
      have kept := answers.keeps rest
      obtain ⟨ok, question, leads, used⟩ := Attempt.resume_leads rest
      rw [used, kept]
      cases leads with
      | toQuery =>
          cases passage with
          | connecting accepted => exact .querying accepted heard ok
      | toLaunch purchase only =>
          cases passage with
          | querying accepted connected fine =>
              exact .launching accepted connected fine heard ok purchase only

end Waiting

end Passage

/-- A call used its session for a passage, if nothing is asked of the answers. -/
theorem Story.passage {settings : Settings} {order : Order} {index : Nat} {status : Status}
    {deeds : List Deed} (story : Story settings order index status deeds) :
    Passage settings order index (fun _ _ _ _ => True) status
      (deeds.filter (·.action.isSession)) := by
  have usesOfTurn : ∀ (turn : Turn) (scene : Scene),
      (turn.deeds scene).filter (·.action.isSession) = turn.uses.map (Deed.mk scene) := by
    intro turn scene
    rw [Turn.deeds, List.filter_map]
    rfl
  induction story with
  | unstarted => exact .unstarted
  | started now session busy =>
      rw [usesOfTurn]
      exact .start order busy now session
  | @reacted attempt awaited session since began past turn now prior reaction
      inductionHypothesis =>
      have form := reaction.nextTurn
      rw [List.filter_append, usesOfTurn]
      cases reaction with
      | answered response => exact inductionHypothesis.answer trivial
      | expired =>
          obtain ⟨ending, ends⟩ := Attempt.expire_finished settings attempt awaited
          exact inductionHypothesis.finish form ends now
      | cancelled =>
          exact inductionHypothesis.finish form attempt.cancel_finished now

namespace Timeline

variable {backend : Backend World Show Signal} {settings : Settings} {now done : Nat}
  {origin timeline next : Timeline World Show Signal}

/-- On the way to a timeline, a session that had waited in a stage since a moment found an answer
there and then, and found it in time. -/
structure Answered (backend : Backend World Show Signal) (settings : Settings)
    (origin timeline : Timeline World Show Signal) (scene : Scene) (stage : Stage) (since : Nat)
    (response : Billing.Response) : Prop where
  heard : ∃ before call attempt awaited began,
    origin.Unfolds backend settings scene.now scene.call before ∧
    before.Interleaves backend settings timeline ∧ before.calls[scene.call]? = some call ∧
    call.status = .waiting attempt awaited scene.session since began ∧ awaited.stage = stage ∧
    before.heard backend scene stage since = some response
  inTime : ∀ expiry ∈ deadline since settings.stageTimeout, scene.now ≤ max since expiry

/-- What was answered on the way stays so. -/
theorem Answered.later {scene : Scene} {stage : Stage} {since : Nat} {response : Billing.Response}
    (answered : Answered backend settings origin timeline scene stage since response)
    (onward : timeline.Step backend settings next) :
    Answered backend settings origin next scene stage since response where
  heard := by
    obtain ⟨before, call, attempt, awaited, began, reached, prior, rest⟩ := answered.heard
    exact ⟨before, call, attempt, awaited, began, reached, prior.step onward, rest⟩
  inTime := answered.inTime

/-- Nobody waits past the end of a stage. -/
def InTime (settings : Settings) (now : Nat) (timeline : Timeline World Show Signal) : Prop :=
  ∀ {index : Nat} {call : Call} {attempt awaited session since began},
    timeline.calls[index]? = some call →
    call.status = .waiting attempt awaited session since began →
    ∀ expiry ∈ deadline since settings.stageTimeout, now ≤ max since expiry

/-- A call that waits after a turn waits since then, unless it waited before. -/
theorem InTime.taken {scene : Scene} {start : Nat} {turn : Turn} {taker : Call}
    (inTime : timeline.InTime settings scene.now) :
    (timeline.takeTurn backend scene start turn taker).InTime settings scene.now := by
  intro index call attempt awaited session since began found waits
  rcases takeTurn_found found with ⟨rfl, rfl⟩ | ⟨other, before⟩
  · cases rest : turn.rest with
    | waiting later ahead =>
        simp only [rest, Rest.status, Status.waiting.injEq] at waits
        obtain ⟨rfl, rfl, rfl, rfl, rfl⟩ := waits
        exact fun _ _ => Nat.le_max_left ..
    | finished ending => simp [rest, Rest.status] at waits
  · exact inTime before waits

/-- Time goes on no further than to the end of the next stage that ends. -/
theorem InTime.wakes {later : Nat} (idle : timeline.Awaits backend settings later) :
    timeline.InTime settings later := by
  intro index call attempt awaited session since began found waits expiry expires
  obtain ⟨ended, among⟩ := mem_callDues (some 0) found
  refine Nat.le_trans (idle expiry (among expiry ?_)) (Nat.le_max_right ..)
  simp [Call.dues, waits, Option.mem_def.mp expires]

/-- Nobody waits past the end of a stage, whatever the backend does. -/
theorem Fresh.inTime (fresh : origin.Fresh)
    (reached : origin.Unfolds backend settings now done timeline) :
    timeline.InTime settings now := by
  refine Unfolds.calls_induction (motive := fun now timeline => timeline.InTime settings now)
    ?first ?starts ?reacts ?stays ?wakes reached
  case first =>
    intro now idle index call attempt awaited session since began found waits
    rw [fresh.idle call (List.mem_of_getElem? found)] at waits
    simp at waits
  case starts => exact fun _ _ _ _ inTime => inTime.taken
  case reacts => exact fun _ _ _ inTime => inTime.taken
  case stays =>
    intro now timeline next calls _ _ inTime index call attempt awaited session since began found
    exact inTime (calls ▸ found)
  case wakes => exact fun idle _ _ => InTime.wakes idle

/-- Every call has a passage. -/
def Passing (backend : Backend World Show Signal) (settings : Settings)
    (origin timeline : Timeline World Show Signal) : Prop :=
  ∀ (index : Nat) (call : Call), timeline.calls[index]? = some call →
    Passage settings call.order index (Answered backend settings origin timeline) call.status
      (usesBy index timeline.service.deeds)

section Passing

variable (passing : Passing backend settings origin timeline)
include passing

/-- A step in which no call does anything leaves all passages as they are. -/
theorem Passing.kept (onward : timeline.Step backend settings next)
    (calls : next.calls = timeline.calls)
    (deeds : next.service.deeds = timeline.service.deeds) :
    Passing backend settings origin next := by
  intro index call found
  rw [deeds]
  exact (passing index call (calls ▸ found)).mono fun answered => answered.later onward

theorem Passing.look (scene : Scene) (stage : Stage) (since : Nat) :
    Passing backend settings origin (timeline.look backend scene stage since) :=
  passing.kept (.poll scene stage since) rfl (Service.poll_deeds ..)

/-- A turn moves the call on that takes it, and no other. -/
theorem Passing.taken {scene : Scene} {began : Nat} {turn : Turn} {taker : Call}
    (onward : timeline.Step backend settings (timeline.takeTurn backend scene began turn taker))
    (moves : Passage settings taker.order scene.call (Answered backend settings origin timeline)
      (turn.rest.status scene began)
      (usesBy scene.call timeline.service.deeds ++ turn.uses.map (Deed.mk scene))) :
    Passing backend settings origin (timeline.takeTurn backend scene began turn taker) := by
  intro index call found
  rw [takeTurn_deeds, usesBy_append, usesBy_deeds]
  rcases takeTurn_found found with ⟨rfl, rfl⟩ | ⟨other, before⟩
  · rw [if_pos rfl]
    exact moves.mono fun answered => answered.later onward
  · rw [if_neg other, List.append_nil]
    exact (passing index call before).mono fun answered => answered.later onward

/-- A waiting call that reacts moves on by itself. -/
theorem Passing.react {taker : Call} (isThere : timeline.calls[done]? = some taker)
    {attempt : Attempt} {awaited : Awaited} {session since began : Nat}
    (waits : taker.status = .waiting attempt awaited session since began) {turn : Turn}
    (reaction : attempt.Reacts settings awaited turn)
    (moves : ∀ {uses}, Passage settings taker.order done
        (Answered backend settings origin timeline)
        (.waiting attempt awaited session since began) uses →
      Passage settings taker.order done (Answered backend settings origin timeline)
        (turn.rest.status ⟨now, done, session⟩ began)
        (uses ++ turn.uses.map (Deed.mk ⟨now, done, session⟩))) :
    Passing backend settings origin
      (timeline.takeTurn backend ⟨now, done, session⟩ began turn taker) :=
  passing.taken (.react now isThere waits reaction) (moves (waits ▸ passing done taker isThere))

end Passing

/-- Every call of a run has a passage, on any backend. -/
theorem Fresh.passages (fresh : origin.Fresh)
    (reached : origin.Unfolds backend settings now done timeline) :
    Passing backend settings origin timeline := by
  induction reached with
  | origin now idle =>
      intro index call found
      rw [fresh.idle call (List.mem_of_getElem? found), fresh.deeds]
      exact .unstarted
  | @start now done timeline taker prior isThere idle due inductionHypothesis =>
      have nothing : usesBy done timeline.service.deeds = [] := by
        rw [usesBy, (fresh.story prior.interleaves isThere).unstarted_deeds idle]
        rfl
      refine inductionHypothesis.taken (.start now isThere idle) ?_
      rw [nothing, List.nil_append]
      exact .start taker.order timeline.service.busy now _
  | look prior found waits unheard inductionHypothesis => exact inductionHypothesis.look _ _ _
  | @answer now done timeline taker attempt awaited session since began response prior found waits
      heard inductionHypothesis =>
      have answered : Answered backend settings origin
          (timeline.look backend ⟨now, done, session⟩ awaited.stage since) ⟨now, done, session⟩
          awaited.stage since response :=
        ⟨⟨timeline, taker, attempt, awaited, began, prior, .step .refl (.poll _ _ _), found, waits,
          rfl, heard⟩, fresh.inTime prior found waits⟩
      exact (inductionHypothesis.look _ _ _).react found waits (.answered response)
        fun passage => passage.answer answered
  | @expire now done timeline taker attempt awaited session since began prior found waits unheard
      late inductionHypothesis =>
      have expires : attempt.Reacts settings awaited (attempt.expire settings awaited) := .expired
      exact (inductionHypothesis.look _ _ _).react found waits expires
        fun passage => passage.finish expires.nextTurn rfl now
  | @cancel now done timeline taker attempt awaited session since began patience prior found waits
      settled limited due inductionHypothesis =>
      have cancels : attempt.Reacts settings awaited attempt.cancel := .cancelled
      exact inductionHypothesis.react found waits cancels
        fun passage => passage.finish cancels.nextTurn rfl now
  | pass prior found settled inductionHypothesis => exact inductionHypothesis
  | again prior inductionHypothesis => exact inductionHypothesis
  | receive prior signal inductionHypothesis =>
      exact inductionHypothesis.kept (.receive _ signal) rfl (Service.receive_deeds ..)
  | queue prior signals inductionHypothesis =>
      exact inductionHypothesis.kept (.queue signals) rfl rfl
  | wake prior idle forward inductionHypothesis => exact inductionHypothesis

end Timeline

/-! ## What a session is used for -/

/-- All that a session is used for before its end, if the purchase flow is shown for the record
that was chosen. -/
def Order.protocol (settings : Settings) (order : Order) (catalog : Catalog.Canonical)
    (chosen : Option Billing.Sku) : List Action :=
  [.openSession, .ask .setup, .ask (.offers catalog.ids settings.skuType)] ++
    chosen.toList.map fun record => .ask (.launch record order.presentation)

/-- What holds of the uses of a session that was opened for a catalog. -/
structure Orderly (settings : Settings) (order : Order) (catalog : Catalog.Canonical)
    (answered : Scene → Stage → (since : Nat) → Billing.Response → Prop) (isOver : Bool)
    (uses : List Deed) : Prop where
  /-- The stages come in their order and none comes twice. The end comes last, when the call
  is over. -/
  shape : ∃ chosen taken, taken <+: order.protocol settings catalog chosen ∧
    uses.map (·.action) = taken ++ if isOver then [.endSession] else []
  /-- A query asks for all products of the catalog, and comes with an answer to the connection
  that reports success. -/
  query : ∀ {scene skus skuType}, ⟨scene, .ask (.offers skus skuType)⟩ ∈ uses →
    skus = catalog.ids ∧ skuType = settings.skuType ∧
      ∃ since response, ⟨{ scene with now := since }, .ask .setup⟩ ∈ uses ∧
        answered scene .connect since response ∧ response.result.code = .ok
  /-- A purchase flow is shown for a purchase only, and comes with an answer to the query that
  holds exactly one record of the product. -/
  launch : ∀ {scene record presentation}, ⟨scene, .ask (.launch record presentation)⟩ ∈ uses →
    order.purpose = .purchase ∧ presentation = order.presentation ∧
      ∃ product since response details, catalog.single = .ok product ∧
        ⟨{ scene with now := since }, .ask (.offers [product.id] settings.skuType)⟩ ∈ uses ∧
        answered scene .queryOffers since response ∧ response.result.code = .ok ∧
        response.details = some details ∧ details.filter (·.sku = product.id) = [record]

/-- The only record for a catalog of one product is the only one of the product. -/
theorem Billing.Response.recordsFor_single {response : Response} {catalog : Catalog.Canonical}
    {product : Catalog.Product} {record : Sku} (single : catalog.single = .ok product)
    (only : response.recordsFor catalog = [record]) :
    catalog.ids = [product.id] ∧ ∃ details, response.details = some details ∧
      details.filter (·.sku = product.id) = [record] := by
  have ids : catalog.ids = [product.id] := by
    unfold Catalog.Canonical.single at single
    split at single
    · next same =>
      cases single
      simp [Catalog.Canonical.ids, same]
    · simp at single
  rw [recordsFor, ids] at only
  cases listed : response.details with
  | none => simp [listed] at only
  | some details => exact ⟨ids, details, rfl, by simpa [listed] using only⟩

/-- The end of a session leaves its uses in order. -/
theorem Orderly.finish {settings : Settings} {order : Order} {catalog : Catalog.Canonical}
    {answered : Scene → Stage → (since : Nat) → Billing.Response → Prop} {uses : List Deed}
    (orderly : Orderly settings order catalog answered false uses) (scene : Scene) :
    Orderly settings order catalog answered true (uses ++ [⟨scene, .endSession⟩]) where
  shape := by
    obtain ⟨chosen, taken, begins, same⟩ := orderly.shape
    exact ⟨chosen, taken, begins, by simpa using same⟩
  query member := by
    obtain ⟨skus, skuType, since, response, asked, rest⟩ := orderly.query (by simpa using member)
    exact ⟨skus, skuType, since, response, List.mem_append_left _ asked, rest⟩
  launch member := by
    obtain ⟨purchase, shown, product, since, response, details, single, asked, rest⟩ :=
      orderly.launch (by simpa using member)
    exact ⟨purchase, shown, product, since, response, details, single,
      List.mem_append_left _ asked, rest⟩

namespace Passage

variable {settings : Settings} {order : Order} {index : Nat}
  {answered : Scene → Stage → (since : Nat) → Billing.Response → Prop} {uses : List Deed}

/-- Whoever waits has used its session in order. -/
theorem waiting_orderly {attempt : Attempt} {awaited : Awaited} {session since began : Nat}
    (passage : Passage settings order index answered
      (.waiting attempt awaited session since began) uses) :
    ∃ catalog, order.Accepts catalog ∧ Orderly settings order catalog answered false uses := by
  cases passage with
  | @connecting catalog _ _ _ accepted =>
      refine ⟨catalog, accepted, ⟨none, [.openSession, .ask .setup], ?_, rfl⟩, ?_, ?_⟩
      · exact ⟨[.ask (.offers catalog.ids settings.skuType)], rfl⟩
      · simp
      · simp
  | @querying catalog _ _ _ _ response accepted connected ok =>
      refine ⟨catalog, accepted, ⟨none, _, List.prefix_rfl, rfl⟩, fun member => ?_, by simp⟩
      simp only [List.mem_cons, Deed.mk.injEq, reduceCtorEq, and_false, List.not_mem_nil, or_false,
        false_or, Action.ask.injEq, Question.offers.injEq] at member
      obtain ⟨rfl, rfl, rfl⟩ := member
      exact ⟨rfl, rfl, _, response, by simp, connected, ok⟩
  | @launching catalog _ session began since now connection response record accepted connected ok
      queried fine purchase only =>
      refine ⟨catalog, accepted, ⟨some record, _, List.prefix_rfl, rfl⟩, fun member => ?_,
        fun member => ?_⟩
      · simp only [List.mem_cons, Deed.mk.injEq, reduceCtorEq, and_false, List.not_mem_nil,
          or_false, false_or, Action.ask.injEq, Question.offers.injEq] at member
        obtain ⟨rfl, rfl, rfl⟩ := member
        exact ⟨rfl, rfl, _, connection, by simp, connected, ok⟩
      · simp only [List.mem_cons, Deed.mk.injEq, reduceCtorEq, and_false, List.not_mem_nil,
          or_false, false_or, Action.ask.injEq, Question.launch.injEq] at member
        obtain ⟨rfl, rfl, rfl⟩ := member
        obtain ⟨product, single⟩ : ∃ product, catalog.single = .ok product := by
          simpa only [purchase] using accepted.2
        obtain ⟨ids, details, listed, sole⟩ := Billing.Response.recordsFor_single single only
        exact ⟨purchase, rfl, product, since, response, details, single, by simp [ids], queried,
          fine, listed, sole⟩

/-- Whoever used a session used it in order. -/
theorem orderly {call : Call} (passage : Passage settings order index answered call.status uses)
    (used : uses ≠ []) :
    ∃ catalog, order.Accepts catalog ∧
      Orderly settings order catalog answered call.isOver uses := by
  unfold Call.isOver
  cases status : call.status with
  | notStarted =>
      rw [status] at passage
      cases passage
      simp at used
  | waiting attempt awaited session since began =>
      rw [status] at passage
      exact passage.waiting_orderly
  | finished ending moment =>
      rw [status] at passage
      cases passage with
      | dismissed => simp at used
      | ended moment prior =>
          obtain ⟨catalog, accepted, orderly⟩ := prior.waiting_orderly
          exact ⟨catalog, accepted, orderly.finish _⟩

end Passage

/-- The calls that leave the backend alone. -/
inductive Call.Dismissed (call : Call) : Prop where
  | unread {violation} (read : call.order.wanted.read = .error violation)
  | empty {catalog} (purpose : call.order.purpose = .lookup)
      (read : call.order.wanted.read = .ok catalog) (isEmpty : catalog.isEmpty = true)
  | notSingle {catalog violation} (purpose : call.order.purpose = .purchase)
      (read : call.order.wanted.read = .ok catalog) (single : catalog.single = .error violation)
  | refused {moment} (ends : call.status = .finished (.failed .purchaseInProgress) moment)

/-- A call that is not refused and is dismissed has no catalog that is accepted. -/
theorem Call.Dismissed.unaccepted {call : Call} (dismissed : call.Dismissed) :
    (∀ catalog, ¬ call.order.Accepts catalog) ∨
      ∃ moment, call.status = .finished (.failed .purchaseInProgress) moment := by
  cases dismissed with
  | refused ends => exact .inr ⟨_, ends⟩
  | unread read =>
      refine .inl ?_
      rintro catalog ⟨readable, _⟩
      simp [read] at readable
  | empty purpose read isEmpty =>
      refine .inl ?_
      rintro other ⟨readable, filled⟩
      cases read.symm.trans readable
      simp [purpose, isEmpty] at filled
  | notSingle purpose read single =>
      refine .inl ?_
      rintro other ⟨readable, filled⟩
      cases read.symm.trans readable
      simp [purpose, single] at filled

namespace Timeline

variable {backend : Backend World Show Signal} {settings : Settings} {now done : Nat}
  {origin timeline : Timeline World Show Signal}

/-- What is done with a session is what its call does with it. -/
theorem Fresh.usesOf_eq (fresh : origin.Fresh)
    (reached : origin.Interleaves backend settings timeline) {scene : Scene}
    (opened : ⟨scene, .openSession⟩ ∈ timeline.service.deeds) :
    usesOf scene.session timeline.service.deeds = usesBy scene.call timeline.service.deeds := by
  rw [usesOf, usesBy, deedsOf, List.filter_filter]
  apply List.filter_congr
  intro deed member
  cases uses : deed.action.isSession with
  | false => simp
  | true =>
      have same : deed.scene.session = scene.session ↔ deed.scene.call = scene.call := by
        constructor
        · exact fresh.user reached opened member uses
        · intro owner
          obtain ⟨now, opening⟩ := fresh.owned reached member uses
          cases found : timeline.calls[scene.call]? with
          | none =>
              have own := mem_deedsOf.mpr ⟨opened, rfl⟩
              simp [fresh.strangers reached found] at own
          | some call =>
              obtain ⟨session, all, _⟩ := (fresh.story reached found).session
              exact (all deed (mem_deedsOf.mpr ⟨member, owner⟩)).trans
                (all _ (mem_deedsOf.mpr ⟨opened, rfl⟩)).symm
      simp [same]

/-- A dismissed call opens no session and uses none. -/
theorem Fresh.dismissed_unused (fresh : origin.Fresh)
    (reached : origin.Interleaves backend settings timeline) {index : Nat} {call : Call}
    (found : timeline.calls[index]? = some call) (dismissed : call.Dismissed) :
    usesBy index timeline.service.deeds = [] := by
  have life := fresh.life reached found
  have unopened : .openSession ∉ actionsOf index timeline.service.deeds := by
    rcases dismissed.unaccepted with unaccepted | ⟨moment, ends⟩
    · intro opened
      obtain ⟨catalog, accepted⟩ := life.accepted opened
      exact unaccepted catalog accepted
    · obtain ⟨purpose, finished⟩ := ((fresh.story reached found).finished_iff _ _).mp ends
      obtain ⟨deed, member, same⟩ := List.mem_map.mp finished
      have acted := mem_actionsOf.mpr
        ⟨deed, (mem_deedsOf.mp member).1, (mem_deedsOf.mp member).2, congrArg Prod.snd same⟩
      exact life.refused_unopened acted
  apply List.filter_eq_nil_iff.mpr
  intro deed member uses
  exact unopened (life.opened_of_session (List.mem_map_of_mem member) uses)

/-- What holds of the uses of all sessions on a timeline. -/
structure Protocol (backend : Backend World Show Signal) (settings : Settings)
    (origin timeline : Timeline World Show Signal) : Prop where
  /-- Each session is used in order, for the accepted catalog of the call that opened it. -/
  orderly : ∀ {scene}, ⟨scene, .openSession⟩ ∈ timeline.service.deeds →
    ∃ call catalog, timeline.calls[scene.call]? = some call ∧ call.order.Accepts catalog ∧
      Orderly settings call.order catalog (Answered backend settings origin timeline) call.isOver
        (usesOf scene.session timeline.service.deeds)
  /-- Nothing is done with a session but by the call that opened it. -/
  owned : ∀ {deed}, deed ∈ timeline.service.deeds → deed.action.isSession = true →
    ∃ now, ⟨⟨now, deed.scene.call, deed.scene.session⟩, .openSession⟩ ∈ timeline.service.deeds
  /-- A call whose catalog is rejected, a lookup of nothing and a refused purchase do nothing
  with any session. -/
  dismissed : ∀ {index call}, timeline.calls[index]? = some call → call.Dismissed →
    usesBy index timeline.service.deeds = []

theorem Fresh.protocol (fresh : origin.Fresh)
    (reached : origin.Interleaves backend settings timeline)
    (passing : Passing backend settings origin timeline) :
    Protocol backend settings origin timeline where
  orderly {scene} opened := by
    cases found : timeline.calls[scene.call]? with
    | none =>
        have own := mem_deedsOf.mpr ⟨opened, rfl⟩
        simp [fresh.strangers reached found] at own
    | some call =>
        have used : usesBy scene.call timeline.service.deeds ≠ [] :=
          List.ne_nil_of_mem (List.mem_filter.mpr ⟨mem_deedsOf.mpr ⟨opened, rfl⟩, rfl⟩)
        obtain ⟨catalog, accepted, orderly⟩ := (passing _ call found).orderly used
        rw [fresh.usesOf_eq reached opened]
        exact ⟨call, catalog, rfl, accepted, orderly⟩
  owned member uses := fresh.owned reached member uses
  dismissed found dismissed := fresh.dismissed_unused reached found dismissed

/-- Every session keeps to its protocol. In every run of any calls on any backend, after each
moment, what was done with a session is a beginning of its protocol, and its end if its call is
over. The query asks for exactly the products of the catalog and comes with a success that
the connection was answered with in time; the purchase flow is shown only for the one record of
the one product of a purchase, in an answer to the query that came in time. Calls that are
dismissed leave the backend alone. -/
theorem sessions_orderly (fresh : origin.Fresh) (backend : Backend World Show Signal)
    (settings : Settings) (moments : Nat) :
    Protocol backend settings origin (origin.runFor backend settings moments) := by
  have interleaved := runFor_interleaves backend settings origin moments
  refine fresh.protocol interleaved ?_
  rcases runFor_reached backend settings origin moments with same | ⟨now, reached⟩
  · rw [same]
    intro index call found
    rw [fresh.idle call (List.mem_of_getElem? found), fresh.deeds]
    exact .unstarted
  · exact fresh.passages reached

/-- A purchase that gets as far as its flow, another meanwhile, and a lookup of nothing. -/
def crowded : Timeline Unit Recorded Empty where
  calls :=
    let premium : Catalog.Canonical := ⟨[⟨false, "subs", "premium"⟩]⟩
    [{ order := ⟨.purchase, .catalog premium, "activity"⟩ },
      { order := ⟨.purchase, .catalog premium, "activity"⟩, delay := 1 },
      { order := ⟨.lookup, .catalog ⟨[]⟩, "activity"⟩ }]
  service := { world := () }

/-- The flow is shown after an answer to the query; the others leave the backend alone. -/
theorem crowded_orderly :
    let last := crowded.runFor (scripted [tight] true) {} crowded.moments
    (usesOf 1 last.service.deeds).length = 5 ∧
      (∃ since response, Answered (scripted [tight] true) {} crowded last ⟨3, 0, 1⟩ .queryOffers
        since response ∧ response.result.code = .ok) ∧
      usesBy 1 last.service.deeds = [] ∧ usesBy 2 last.service.deeds = [] := by
  intro last
  have fresh : crowded.Fresh := ⟨by decide, rfl, rfl, rfl⟩
  have protocol := sessions_orderly fresh (scripted [tight] true) {} crowded.moments
  obtain ⟨opened, five, shown, refused, nothing⟩ :
      ⟨⟨0, 0, 1⟩, .openSession⟩ ∈ last.service.deeds ∧ (usesOf 1 last.service.deeds).length = 5 ∧
        ⟨⟨3, 0, 1⟩, .ask (.launch ⟨"premium", "", "", "", "1", 0, "EUR", ""⟩ "activity")⟩ ∈
          usesOf 1 last.service.deeds ∧
        last.calls[1]?.map (·.status) = some (.finished (.failed .purchaseInProgress) 1) ∧
        last.calls[2]?.map (·.order) = some ⟨.lookup, .catalog ⟨[]⟩, "activity"⟩ := by
    decide +kernel
  obtain ⟨call, catalog, _, _, orderly⟩ := protocol.orderly opened
  obtain ⟨_, _, _, since, response, _, _, _, answered, ok, _⟩ := orderly.launch shown
  obtain ⟨second, isThere, ends⟩ := Option.map_eq_some_iff.mp refused
  obtain ⟨third, alsoThere, order⟩ := Option.map_eq_some_iff.mp nothing
  have empty : third.Dismissed := .empty (by rw [order]) (by rw [order]; rfl) rfl
  exact ⟨five, ⟨since, response, answered, ok⟩, protocol.dismissed isThere (.refused ends),
    protocol.dismissed alsoThere empty⟩

end Timeline

end Storefront
