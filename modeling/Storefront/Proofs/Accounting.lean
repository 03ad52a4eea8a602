import Storefront.Proofs.Release
import Storefront.Proofs.Written

/-!
# Every attempt is accounted for

Whoever receives the offers is told of every attempt by one delivery or one report, or not at
all. `Account` says which it is for each way a call can end. It is the last turn of a call that
gives the account, and the whole of it, so `Timeline.attempts_accounted` is a matter of turns.
-/

namespace Storefront

variable {World Show Signal : Type}

/-- Whether an action tells the receiver of offers something. -/
@[simp] def Action.isTold : Action → Bool
  | .deliver _ | .report _ => true
  | _ => false

/-- What some actions tell the receiver of offers. -/
def told (actions : List Action) : List Action :=
  actions.filter Action.isTold

/-- What the receiver of offers has to be told of a call that ended. -/
inductive Account : Purpose → Ending → List Action → Prop where
  /-- The text that is delivered is read as the offers that are counted. -/
  | delivered {text offers} (reads : Catalog.Platform.decode text = .ok offers) :
      Account .lookup (.succeeded (.delivered offers.size)) [.deliver text]
  | launched {purpose offer} : Account purpose (.succeeded (.purchaseLaunched offer)) []
  | notFound {purpose} : Account purpose (.succeeded .notFound) []
  | failed {purpose failure} (tried : ∀ violation, failure ≠ .contract violation) :
      Account purpose (.failed failure) [.report failure]
  | contract {purpose violation} : Account purpose (.failed (.contract violation)) []
  | cancelled {purpose} : Account purpose .cancelled []

/-- What a call at a status told: nothing while it is not over, and then its account. -/
def Status.Accounts (purpose : Purpose) (spoken : List Action) : Status → Prop
  | .finished ending _ => Account purpose ending spoken
  | _ => spoken = []

/-- A turn leaves a call that told nothing before with its account. -/
def Turn.Accounts (purpose : Purpose) (turn : Turn) : Prop :=
  ∀ scene began, (turn.rest.status scene began).Accounts purpose (told turn.actions)

/-- Nothing but a delivery by a lookup accounts for what was delivered. -/
theorem Account.delivers {purpose : Purpose} {ending : Ending} {spoken : List Action}
    (account : Account purpose ending spoken) {text : String} (delivers : .deliver text ∈ spoken) :
    purpose = .lookup ∧ spoken = [.deliver text] ∧ ∃ offers,
      ending = .succeeded (.delivered offers.size) ∧
        Catalog.Platform.decode text = .ok offers := by
  cases account with
  | @delivered whole offers reads =>
      obtain rfl : text = whole := by simpa using delivers
      exact ⟨rfl, rfl, offers, rfl, reads⟩
  | launched | notFound | failed | contract | cancelled => simp at delivers

/-- The account of a call that ended with a number of offers. -/
theorem Account.of_delivered {purpose : Purpose} {spoken : List Action} {count : Nat}
    (account : Account purpose (.succeeded (.delivered count)) spoken) :
    ∃ text offers, spoken = [.deliver text] ∧ Catalog.Platform.decode text = .ok offers ∧
      offers.size = count := by
  generalize same : Ending.succeeded (.delivered count) = ending at account
  cases account with
  | @delivered text offers reads =>
      cases same
      exact ⟨text, offers, rfl, reads, rfl⟩
  | launched | notFound | failed | contract | cancelled => simp at same

/-- Who delivered is over. -/
theorem Status.Accounts.delivers {purpose : Purpose} {spoken : List Action} {status : Status}
    (accounts : status.Accounts purpose spoken) {text : String}
    (delivers : .deliver text ∈ spoken) :
    ∃ ending moment, status = .finished ending moment ∧ Account purpose ending spoken := by
  cases status with
  | finished ending moment => exact ⟨ending, moment, rfl, accounts⟩
  | notStarted | waiting =>
      have nothing : spoken = [] := accounts
      simp [nothing] at delivers

/-! ## What turns tell -/

@[simp] theorem told_append (first second : List Action) :
    told (first ++ second) = told first ++ told second :=
  List.filter_append ..

@[simp] theorem told_nil : told [] = [] := rfl

@[simp] theorem told_cons (action : Action) (actions : List Action) :
    told (action :: actions) =
      if action.isTold = true then action :: told actions else told actions :=
  List.filter_cons

@[simp] theorem told_claim (purpose : Purpose) : told purpose.claim = [] := by
  cases purpose <;> rfl

@[simp] theorem told_yield (purpose : Purpose) : told purpose.yield = [] := by
  cases purpose <;> rfl

@[simp] theorem told_hangUp : told Attempt.hangUp = [] := rfl

theorem told_remarks {actions : List Action} (quiet : ∀ action ∈ actions, action.isRemark = true) :
    told actions = [] := by
  apply List.filter_eq_nil_iff.mpr
  intro action member
  have remark := quiet action member
  cases action <;> simp_all [Action.isTold]

/-- The first turn of a call. -/
theorem Order.FirstTurn.accounts {order : Order} {busy : Bool} {turn : Turn}
    (form : order.FirstTurn busy turn) : turn.Accounts order.purpose := by
  intro scene began
  cases form with
  | unread read => exact .contract
  | empty purpose read isEmpty => exact .notFound
  | notSingle purpose read single => exact .contract
  | refused purpose accepted taken => exact .failed (by simp)
  | @opened catalog remarks line accepted free quiet =>
      simp [Rest.status, Status.Accounts, told_remarks quiet]

namespace Attempt

variable {settings : Settings} {attempt : Attempt} {purpose : Purpose}

/-- A turn that concludes with an outcome tells nothing but what it says before. -/
theorem told_conclude_ok (outcome : Outcome) (first : List Action) :
    told ((attempt.conclude (.ok outcome)).after first).actions = told first := by
  simp [conclude, Turn.after, release_eq_yield, Action.say]

theorem conclude_ok_accounts {outcome : Outcome} {first : List Action}
    (account : Account purpose (.succeeded outcome) (told first)) :
    ((attempt.conclude (.ok outcome)).after first).Accounts purpose := by
  intro scene began
  rw [told_conclude_ok]
  exact account

/-- A turn that concludes with a failure reports it. -/
theorem conclude_error_accounts {failure : Failure} {first : List Action}
    (quiet : ∀ action ∈ first, action.isRemark = true)
    (tried : ∀ violation, failure ≠ .contract violation) :
    ((attempt.conclude (.error failure)).after first).Accounts purpose := by
  intro scene began
  have same : told ((attempt.conclude (.error failure)).after first).actions =
      [.report failure] := by
    by_cases terminal : attempt.state.isTerminal = true
    · simp [conclude, terminal, Turn.after, release_eq_yield, told_remarks quiet, Action.say]
    · simp [conclude, terminal, Turn.after, release_eq_yield, told_remarks quiet, Action.say, move]
  rw [same]
  exact .failed tried

/-- A lookup delivers the offers of all records found, if there are any. -/
theorem told_deliver (details : List Billing.Sku) {dropped : List Action}
    (quiet : ∀ action ∈ dropped, action.isRemark = true) :
    told ((attempt.deliver details).after dropped).actions =
      if details = [] then []
      else [.deliver (Catalog.Platform.encode ⟨details.map .ofSku⟩)] := by
  unfold deliver
  split
  · rw [after_after, told_conclude_ok]
    simp [told_remarks quiet, move]
  · next filled =>
    rw [after_after, told_conclude_ok, if_neg filled]
    simp [told_remarks quiet, move]

/-- The offers that are delivered are those that are counted. -/
theorem deliver_accounts (details : List Billing.Sku) {dropped : List Action}
    (quiet : ∀ action ∈ dropped, action.isRemark = true) :
    ((attempt.deliver details).after dropped).Accounts .lookup := by
  intro scene began
  rw [told_deliver details quiet]
  cases details with
  | nil => exact .notFound
  | cons record details => exact .delivered (Catalog.Platform.decode_encode _)

/-- A purchase delivers nothing. -/
theorem launch_accounts (details : List Billing.Sku) {dropped : List Action}
    (quiet : ∀ action ∈ dropped, action.isRemark = true) :
    ((attempt.launch details).after dropped).Accounts purpose := by
  unfold launch
  split
  · rw [after_after]
    apply conclude_ok_accounts
    simpa [told_remarks quiet, move, Action.say] using .notFound
  · next sku =>
    intro scene began
    simp [Turn.after, Rest.status, Status.Accounts, told_remarks quiet, move]
  · exact conclude_error_accounts quiet (by simp)

/-- A turn that follows an answer. -/
theorem resume_accounts (awaited : Awaited) (response : Billing.Response) :
    (attempt.resume settings awaited response).Accounts attempt.purpose := by
  cases checked : check awaited.stage response.result with
  | error refusal =>
      obtain ⟨line, failure⟩ := refusal
      obtain ⟨first, quiet, same⟩ := resume_refused settings attempt checked
      rw [same]
      apply conclude_error_accounts quiet
      rcases check_error checked with rfl | rfl <;> simp
  | ok _ =>
      cases awaited with
      | setup =>
          rw [resume_setup checked]
          exact fun _ _ => rfl
      | offers =>
          rw [resume_offers checked]
          cases purpose : attempt.purpose with
          | lookup => exact deliver_accounts _ (attempt.requested_remarks response)
          | purchase => exact launch_accounts _ (attempt.requested_remarks response)
      | launch sku =>
          rw [resume_launch checked]
          apply conclude_ok_accounts
          exact .launched

/-- Later turns of a call. -/
theorem Reacts.accounts {awaited : Awaited} {turn : Turn}
    (reaction : attempt.Reacts settings awaited turn) : turn.Accounts attempt.purpose := by
  cases reaction with
  | answered response => exact resume_accounts awaited response
  | expired => exact conclude_error_accounts (by simp [Action.say]) (by simp)
  | cancelled =>
      intro scene began
      have same : told attempt.cancel.actions = [] := by
        simp [cancel, release_eq_yield]
      rw [same]
      exact .cancelled

end Attempt

/-- What a call told so far is its account, whatever the others do. -/
theorem Story.accounts {settings : Settings} {order : Order} {index : Nat} {status : Status}
    {deeds : List Deed} (story : Story settings order index status deeds) :
    status.Accounts order.purpose (told (deeds.map (·.action))) := by
  induction story with
  | unstarted => rfl
  | started now session busy =>
      rw [Turn.deeds_actions]
      exact (order.start_firstTurn busy).accounts _ _
  | reacted now prior reaction inductionHypothesis =>
      have nothing : told _ = [] := inductionHypothesis
      have same := prior.life.of_waiting.1
      rw [List.map_append, told_append, nothing, Turn.deeds_actions, List.nil_append, ← same]
      exact reaction.accounts _ _

/-! ## When it is told -/

/-- A call ended the session that it opened. -/
structure IsClosed (past : List Deed) (call session : Nat) : Prop where
  opened : ∃ now, ⟨⟨now, call, session⟩, .openSession⟩ ∈ past
  ended : ∃ now, ⟨⟨now, call, session⟩, .endSession⟩ ∈ past

/-- No first turn delivers. -/
theorem Order.FirstTurn.delivers_nothing {order : Order} {busy : Bool} {turn : Turn}
    (form : order.FirstTurn busy turn) (text : String) : .deliver text ∉ turn.actions := by
  cases form with
  | opened accepted free quiet => simp [not_mem_of_all quiet]
  | unread | empty | notSingle | refused => simp

/-- The only first turn that reports is that of a refused call. -/
theorem Order.FirstTurn.reports {order : Order} {busy : Bool} {turn : Turn}
    (form : order.FirstTurn busy turn) {failure : Failure}
    (reports : .report failure ∈ turn.actions) :
    failure = .purchaseInProgress ∧
      .finish order.purpose (.failed .purchaseInProgress) ∈ turn.actions := by
  cases form with
  | opened accepted free quiet => simp [not_mem_of_all quiet] at reports
  | refused purpose accepted taken => simp at reports ⊢; exact reports
  | unread | empty | notSingle => simp at reports

/-- A later turn that delivers does so before it ends the session. -/
theorem Attempt.NextTurn.delivers {attempt : Attempt} {awaited : Awaited} {turn : Turn}
    (form : attempt.NextTurn awaited turn) {before after : List Action} {text : String}
    (parts : turn.actions = before ++ .deliver text :: after) : .endSession ∉ before := by
  have delivers : .deliver text ∈ turn.actions := by simp [parts]
  cases form with
  | @succeeds first outcome line speech =>
      intro early
      have unended : .endSession ∉ first := fun member => by simpa using speech _ member
      rcases List.append_eq_append_iff.mp parts with ⟨rest, _, left⟩ | ⟨rest, whole, _⟩
      · have late : .deliver text ∈ rest ++ .deliver text :: after := by simp
        rw [← left] at late
        simp [hangUp, Action.say] at late
      · exact unended (whole ▸ List.mem_append_left rest early)
  | asks quiet same stage progress => simp [not_mem_of_all quiet] at delivers
  | fails quiet still tried =>
      simp [not_mem_of_all quiet, not_mem_of_all still, hangUp, Action.say] at delivers
  | cancelled => simp [hangUp, Action.say] at delivers

/-- A later turn that reports does so after it ended the session. -/
theorem Attempt.NextTurn.reports {attempt : Attempt} {awaited : Awaited} {turn : Turn}
    (form : attempt.NextTurn awaited turn) {before after : List Action} {failure : Failure}
    (parts : turn.actions = before ++ .report failure :: after) : .endSession ∈ before := by
  have reports : .report failure ∈ turn.actions := by simp [parts]
  cases form with
  | @fails first moved _ line quiet still tried =>
      rw [← List.append_assoc] at parts
      obtain ⟨rest, rfl⟩ := prefix_of_not_mem parts
        (by simp [not_mem_of_all quiet, hangUp, Action.say])
      simp [hangUp]
  | asks quiet same stage progress => simp [not_mem_of_all quiet] at reports
  | @succeeds first outcome line speech =>
      have unreported : .report failure ∉ first := fun member => by simpa using speech _ member
      simp [unreported, hangUp, Action.say] at reports
  | cancelled => simp [hangUp, Action.say] at reports

namespace Timeline

variable {backend : Backend World Show Signal} {settings : Settings}
  {origin timeline : Timeline World Show Signal}

/-- What the receiver of offers was told by one call. -/
def toldBy (index : Nat) (timeline : Timeline World Show Signal) : List Action :=
  told (actionsOf index timeline.service.deeds)

/-- What holds of all that the receiver of offers is told. -/
structure Accounted (timeline : Timeline World Show Signal) : Prop where
  /-- A call that is over told its account and nothing else. -/
  finished : ∀ {index call ending moment}, timeline.calls[index]? = some call →
    call.status = .finished ending moment →
    Account call.order.purpose ending (timeline.toldBy index)
  /-- A call that is not over told nothing. -/
  unfinished : ∀ {index call}, timeline.calls[index]? = some call → call.isOver = false →
    timeline.toldBy index = []
  /-- Only lookups deliver, and only while their session is open. -/
  delivered : ∀ {past future scene text},
    timeline.service.deeds = past ++ ⟨scene, .deliver text⟩ :: future →
    (∃ call, timeline.calls[scene.call]? = some call ∧ call.order.purpose = .lookup) ∧
      IsOpen past scene.call scene.session
  /-- A call reports after it ended its session, unless it was refused one. -/
  reported : ∀ {past future scene failure},
    timeline.service.deeds = past ++ ⟨scene, .report failure⟩ :: future →
    failure = .purchaseInProgress ∧ .openSession ∉ actionsOf scene.call timeline.service.deeds ∨
      IsClosed past scene.call scene.session

section Accounted

variable (fresh : origin.Fresh) (reached : origin.Interleaves backend settings timeline)
include fresh reached

theorem Fresh.accounts {index : Nat} {call : Call}
    (found : timeline.calls[index]? = some call) :
    call.status.Accounts call.order.purpose (timeline.toldBy index) :=
  (fresh.story reached found).accounts

/-- A call that delivered is a lookup that ended with as many offers. -/
theorem Fresh.delivers {scene : Scene} {text : String}
    (delivered : ⟨scene, .deliver text⟩ ∈ timeline.service.deeds) :
    ∃ call moment offers, timeline.calls[scene.call]? = some call ∧
      call.order.purpose = .lookup ∧
      call.status = .finished (.succeeded (.delivered offers.size)) moment ∧
      Catalog.Platform.decode text = .ok offers := by
  have own := mem_deedsOf.mpr ⟨delivered, rfl⟩
  cases found : timeline.calls[scene.call]? with
  | none => simp [fresh.strangers reached found] at own
  | some call =>
      have spoken : .deliver text ∈ timeline.toldBy scene.call :=
        List.mem_filter.mpr ⟨mem_actionsOf.mpr ⟨_, delivered, rfl, rfl⟩, rfl⟩
      obtain ⟨ending, moment, ends, account⟩ := (fresh.accounts reached found).delivers spoken
      obtain ⟨lookup, _, offers, rfl, reads⟩ := account.delivers spoken
      exact ⟨call, moment, offers, rfl, lookup, ends, reads⟩

/-- Who waits in a session keeps it open until it ends it. -/
theorem Fresh.waiting_open {index : Nat} {call : Call}
    (found : timeline.calls[index]? = some call) {attempt : Attempt} {awaited : Awaited}
    {session since began : Nat}
    (waits : call.status = .waiting attempt awaited session since began) {first : List Action}
    (unended : .endSession ∉ first) (now : Nat) :
    IsOpen (timeline.service.deeds ++ first.map (Deed.mk ⟨now, index, session⟩)) index
      session := by
  obtain ⟨moment, opened⟩ := fresh.waiting_opened reached found waits
  refine ⟨⟨moment, List.mem_append_left _ opened⟩, ?_⟩
  intro deed member same ends
  rcases List.mem_append.mp member with already | inTurn
  · have user := fresh.user reached opened already (by simp [ends]) same
    have life := fresh.life reached found
    rw [waits] at life
    exact life.of_waiting.2.2 (mem_actionsOf.mpr ⟨deed, already, user, ends⟩)
  · obtain ⟨action, among, rfl⟩ := List.mem_map.mp inTurn
    exact unended (ends ▸ among)

/-- A delivery happens while the session is open. -/
theorem Fresh.delivers_open {past future : List Deed} {scene : Scene} {text : String}
    (journal : timeline.service.deeds = past ++ ⟨scene, .deliver text⟩ :: future) :
    IsOpen past scene.call scene.session := by
  obtain ⟨before, call, turn, first, second, later, prior, takes, parts, rfl, -⟩ :=
    reached.parted fresh.deeds journal
  have delivers : .deliver text ∈ turn.actions := by simp [parts]
  cases takes with
  | start now found idle =>
      exact absurd delivers ((call.order.start_firstTurn _).delivers_nothing text)
  | react now found waits reaction =>
      exact fresh.waiting_open prior found waits (reaction.nextTurn.delivers parts) now

/-- A call that was refused opens no session. -/
theorem Fresh.refused_unopened {scene : Scene} {purpose : Purpose}
    (refused : ⟨scene, .finish purpose (.failed .purchaseInProgress)⟩ ∈ timeline.service.deeds) :
    .openSession ∉ actionsOf scene.call timeline.service.deeds := by
  have own := mem_deedsOf.mpr ⟨refused, rfl⟩
  cases found : timeline.calls[scene.call]? with
  | none => simp [fresh.strangers reached found] at own
  | some call =>
      exact (fresh.life reached found).refused_unopened
        (mem_actionsOf.mpr ⟨_, refused, rfl, rfl⟩)

/-- A report comes after the end of the session, or no session is ever opened. -/
theorem Fresh.reports_closed {past future : List Deed} {scene : Scene} {failure : Failure}
    (journal : timeline.service.deeds = past ++ ⟨scene, .report failure⟩ :: future) :
    failure = .purchaseInProgress ∧ .openSession ∉ actionsOf scene.call timeline.service.deeds ∨
      IsClosed past scene.call scene.session := by
  obtain ⟨before, call, turn, first, second, later, prior, takes, parts, rfl, rfl⟩ :=
    reached.parted fresh.deeds journal
  have reports : .report failure ∈ turn.actions := by simp [parts]
  have inTurn : ∀ action ∈ turn.actions, ⟨scene, action⟩ ∈ timeline.service.deeds := by
    have whole : timeline.service.deeds = before.service.deeds ++ turn.deeds scene ++ later := by
      simp [journal, Turn.deeds, parts]
    intro action member
    rw [whole]
    exact List.mem_append_left _ (List.mem_append_right _ (List.mem_map_of_mem member))
  cases takes with
  | @start index now found idle =>
      obtain ⟨rfl, refused⟩ := (call.order.start_firstTurn _).reports reports
      exact .inl ⟨rfl, fresh.refused_unopened reached (inTurn _ refused)⟩
  | @react index attempt awaited session since began turn now found waits reaction =>
      obtain ⟨moment, opened⟩ := fresh.waiting_opened prior found waits
      have ended := reaction.nextTurn.reports parts
      exact .inr ⟨⟨moment, List.mem_append_left _ opened⟩,
        ⟨now, List.mem_append_right _ (List.mem_map_of_mem ended)⟩⟩

end Accounted

/-- Every attempt is accounted for. Whatever the order of the calls' turns, whatever the
backend answers and whoever gives up when, a call that is over told the receiver of offers what
its end demands, once and in time, and a call that is not over told nothing. -/
theorem attempts_accounted (fresh : origin.Fresh)
    (reached : origin.Interleaves backend settings timeline) : timeline.Accounted where
  finished {index call ending moment} found ends := by
    have accounts := fresh.accounts reached found
    rwa [ends] at accounts
  unfinished {index call} found unfinished := by
    have accounts := fresh.accounts reached found
    cases status : call.status with
    | finished ending moment => simp [Call.isOver, status] at unfinished
    | notStarted | waiting => rwa [status] at accounts
  delivered {past future scene text} journal := by
    have delivered : ⟨scene, .deliver text⟩ ∈ timeline.service.deeds := by simp [journal]
    obtain ⟨call, moment, offers, found, lookup, _⟩ := fresh.delivers reached delivered
    exact ⟨⟨call, found, lookup⟩, fresh.delivers_open reached journal⟩
  reported journal := fresh.reports_closed reached journal

/-- A lookup, a purchase that is given up on, a purchase that is refused meanwhile and a lookup
that is turned away. -/
def various : Timeline Unit Recorded Empty where
  calls :=
    let premium : Catalog.Canonical := ⟨[⟨false, "subs", "premium"⟩]⟩
    [{ order := ⟨.lookup, .catalog premium, "activity"⟩ },
      { order := ⟨.purchase, .catalog premium, "activity"⟩, patience := some 3 },
      { order := ⟨.purchase, .catalog premium, "activity"⟩, delay := 1 },
      { order := ⟨.lookup, .catalog premium, "activity"⟩, delay := 2 }]
  service := { world := () }

/-- The sessions of the calls that open one. -/
def variousScripts : List Script :=
  let priced :=
    "[\x7b\"productId\":\"premium\",\"price\":\"1\",\"price_currency_code\":\"EUR\"\x7d]"
  [{ query := { reply := { json := some priced } } },
    { setup := { wait := .never } },
    { setup := { reply := { result := ⟨.billingUnavailable, "no account"⟩ } } }]

/-- Each of them is accounted for in its own way. -/
theorem various_accounted :
    (various.run (scripted variousScripts true) {}).Accounted ∧
      (various.run (scripted variousScripts true) {}).calls.map (·.status) =
        [.finished (.succeeded (.delivered 1)) 0, .finished .cancelled 3,
          .finished (.failed .purchaseInProgress) 1,
          .finished (.failed (.unavailable .connect ⟨.billingUnavailable, "no account"⟩)) 2] ∧
      (List.range 4).map (fun index =>
          (various.run (scripted variousScripts true) {}).toldBy index) =
        [[.deliver (Catalog.Platform.encode ⟨[⟨"premium", "", "1", "EUR"⟩]⟩)], [],
          [.report .purchaseInProgress],
          [.report (.unavailable .connect ⟨.billingUnavailable, "no account"⟩)]] := by
  have fresh : various.Fresh := ⟨by decide, rfl, rfl, rfl⟩
  exact ⟨attempts_accounted fresh (run_interleaves _ _ _), by decide +kernel, by decide +kernel⟩

end Timeline

end Storefront
