import Storefront.Turn

/-!
# The forms a turn can have

Every statement about runs rests on what single turns do. `Order.start_firstTurn` lists
the forms of the first turn of a call, `Attempt.Reacts.nextTurn` those of every later one.
The flag is raised and a session opened by one of five first turns only; it is the same
three later forms that end the session, lower the flag and finish, in this order.
-/

namespace Storefront

/-- Whether an action is a log line and nothing else. -/
def Action.isRemark : Action → Bool
  | .log _ => true
  | _ => false

@[simp] theorem Action.isRemark_log (line : LogLine) : (Action.log line).isRemark = true := rfl

@[simp] theorem Action.isRemark_say (level : Level) (text : String) :
    (Action.say level text).isRemark = true := rfl

/-- How a purpose claims the purchase flag. -/
def Purpose.claim : Purpose → List Action
  | .lookup => []
  | .purchase => [.raiseFlag]

/-- How a purpose gives the purchase flag back. -/
def Purpose.yield : Purpose → List Action
  | .lookup => []
  | .purchase => [.lowerFlag]

/-- The stage a question belongs to. -/
def Question.stage : Question → Stage
  | .setup => .connect
  | .offers .. => .queryOffers
  | .launch .. => .launchPurchase

/-- How many stages an attempt may still wait in, the present one included. -/
def Awaited.stagesLeft : Awaited → Nat
  | .setup => 3
  | .offers => 2
  | .launch _ => 1

/-- Whether an order's catalog is one that an attempt is made for, the flag apart. -/
def Order.Accepts (order : Order) (catalog : Catalog.Canonical) : Prop :=
  order.wanted.read = .ok catalog ∧
    match order.purpose with
    | .lookup => catalog.isEmpty = false
    | .purchase => ∃ product, catalog.single = .ok product

/-- The records of an answer that are of products of a catalog. -/
def Billing.Response.recordsFor (response : Response) (catalog : Catalog.Canonical) : List Sku :=
  (response.details.getD []).filter fun record => record.sku ∈ catalog.ids

/-- The forms of a call's first turn. -/
inductive Order.FirstTurn (order : Order) (busy : Bool) : Turn → Prop where
  | unread {violation} (read : order.wanted.read = .error violation) :
      FirstTurn order busy
        ⟨[.begin, .finish order.purpose (.failed (.contract violation))],
          .finished (.failed (.contract violation))⟩
  | empty {catalog line} (purpose : order.purpose = .lookup)
      (read : order.wanted.read = .ok catalog) (isEmpty : catalog.isEmpty = true) :
      FirstTurn order busy
        ⟨[.begin, .log line, .finish order.purpose (.succeeded .notFound)],
          .finished (.succeeded .notFound)⟩
  | notSingle {catalog violation} (purpose : order.purpose = .purchase)
      (read : order.wanted.read = .ok catalog) (single : catalog.single = .error violation) :
      FirstTurn order busy
        ⟨[.begin, .finish order.purpose (.failed (.contract violation))],
          .finished (.failed (.contract violation))⟩
  | refused {catalog line} (purpose : order.purpose = .purchase)
      (accepted : order.Accepts catalog) (taken : busy = true) :
      FirstTurn order busy
        ⟨[.begin, .log line, .report .purchaseInProgress,
            .finish order.purpose (.failed .purchaseInProgress)],
          .finished (.failed .purchaseInProgress)⟩
  | opened {catalog remarks line} (accepted : order.Accepts catalog)
      (free : order.purpose = .purchase → busy = false)
      (quiet : ∀ action ∈ remarks, action.isRemark = true) :
      FirstTurn order busy
        ⟨.begin :: (order.purpose.claim ++ remarks ++ [.openSession, .log line, .ask .setup]),
          .waiting ⟨order.purpose, catalog, order.presentation, .connecting⟩ .setup⟩

/-- A first turn that connects, after some log lines. -/
theorem Order.connect_firstTurn {order : Order} {busy : Bool} {catalog : Catalog.Canonical}
    (accepted : order.Accepts catalog) (free : order.purpose = .purchase → busy = false)
    (remarks : List Action) (quiet : ∀ action ∈ remarks, action.isRemark = true) :
    order.FirstTurn busy
      (((Attempt.connect ⟨order.purpose, catalog, order.presentation, .idle⟩).after
        (order.purpose.claim ++ remarks)).after [.begin]) :=
  .opened accepted free quiet

/-- The first turn of a lookup has one of the forms. -/
theorem Order.lookUp_firstTurn {order : Order} {busy : Bool} {catalog : Catalog.Canonical}
    (purpose : order.purpose = .lookup) (read : order.wanted.read = .ok catalog) :
    order.FirstTurn busy ((order.lookUp catalog).after [.begin]) := by
  unfold Order.lookUp
  split
  case isTrue isEmpty => exact .empty purpose read isEmpty
  case isFalse filled =>
    have accepted : order.Accepts catalog :=
      ⟨read, by simpa only [purpose] using Bool.eq_false_iff.mpr filled⟩
    have free : order.purpose = .purchase → busy = false := by simp [purpose]
    have connects := connect_firstTurn accepted free
    rw [purpose] at connects
    split
    · exact connects [_] (by simp)
    · exact connects [] (by simp)

/-- The first turn of a purchase has one of the forms. -/
theorem Order.buy_firstTurn {order : Order} {busy : Bool} {catalog : Catalog.Canonical}
    (purpose : order.purpose = .purchase) (read : order.wanted.read = .ok catalog) :
    order.FirstTurn busy ((order.buy busy catalog).after [.begin]) := by
  unfold Order.buy
  split
  case h_1 violation single => exact .notSingle purpose read single
  case h_2 product single =>
    have accepted : order.Accepts catalog :=
      ⟨read, by simpa only [purpose] using ⟨product, single⟩⟩
    split
    case isTrue taken => exact .refused purpose accepted taken
    case isFalse free =>
      have connects := connect_firstTurn accepted (fun _ => Bool.eq_false_iff.mpr free)
      rw [purpose] at connects
      exact connects [] (by simp)

/-- Every first turn has one of the forms. -/
theorem Order.start_firstTurn (order : Order) (busy : Bool) :
    order.FirstTurn busy (order.start busy) := by
  cases read : order.wanted.read with
  | error violation =>
      have same : order.start busy =
          (order.endAtOnce (.failed (.contract violation))).after [.begin] := by
        simp only [Order.start, read]
      rw [same]
      exact .unread read
  | ok catalog =>
      cases purpose : order.purpose with
      | lookup =>
          have same : order.start busy = (order.lookUp catalog).after [.begin] := by
            simp only [Order.start, read, purpose]
          rw [same]
          exact lookUp_firstTurn purpose read
      | purchase =>
          have same : order.start busy = (order.buy busy catalog).after [.begin] := by
            simp only [Order.start, read, purpose]
          rw [same]
          exact buy_firstTurn purpose read

namespace Attempt

/-- The turns a waiting attempt can take: it is answered in some way, its stage takes too
long, or its caller gives up. -/
inductive Reacts (settings : Settings) (attempt : Attempt) (awaited : Awaited) : Turn → Prop where
  | answered (response : Billing.Response) :
      Reacts settings attempt awaited (attempt.resume settings awaited response)
  | expired : Reacts settings attempt awaited (attempt.expire settings awaited)
  | cancelled : Reacts settings attempt awaited attempt.cancel

/-- The forms of a waiting attempt's next turn. -/
inductive NextTurn (attempt : Attempt) (awaited : Awaited) : Turn → Prop where
  | asks {remarks question later ahead}
      (quiet : ∀ action ∈ remarks, action.isRemark = true)
      (same : later.purpose = attempt.purpose)
      (stage : question.stage = ahead.stage)
      (progress : ahead.stagesLeft + 1 = awaited.stagesLeft) :
      NextTurn attempt awaited ⟨remarks ++ [.ask question], .waiting later ahead⟩
  | succeeds {first outcome line}
      (speech : ∀ action ∈ first, action.isRemark = true ∨ ∃ text, action = .deliver text) :
      NextTurn attempt awaited
        ⟨first ++ (hangUp ++ ([.log line] ++ attempt.purpose.yield ++
            [.finish attempt.purpose (.succeeded outcome)])),
          .finished (.succeeded outcome)⟩
  | fails {first moved failure line}
      (quiet : ∀ action ∈ first, action.isRemark = true)
      (still : ∀ action ∈ moved, action.isRemark = true)
      (tried : failure ≠ .purchaseInProgress ∧ ∀ violation, failure ≠ .contract violation) :
      NextTurn attempt awaited
        ⟨first ++ (hangUp ++ (moved ++ [.report failure, .log line] ++ attempt.purpose.yield ++
            [.finish attempt.purpose (.failed failure)])),
          .finished (.failed failure)⟩
  | cancelled :
      NextTurn attempt awaited
        ⟨hangUp ++ (attempt.purpose.yield ++ [.finish attempt.purpose .cancelled]),
          .finished .cancelled⟩

theorem release_eq_yield (attempt : Attempt) : attempt.release = attempt.purpose.yield := by
  unfold release Purpose.yield
  rfl

/-- A turn that concludes with an outcome, after some words. -/
theorem conclude_ok_nextTurn (attempt moved : Attempt) (awaited : Awaited) (outcome : Outcome)
    (first : List Action) (same : moved.purpose = attempt.purpose)
    (speech : ∀ action ∈ first, action.isRemark = true ∨ ∃ text, action = .deliver text) :
    attempt.NextTurn awaited ((moved.conclude (.ok outcome)).after first) := by
  have turned : (moved.conclude (.ok outcome)).after first =
      ⟨first ++ (hangUp ++ ([.log ⟨.debug, "reconciliation finished in state " ++
            moved.state.name⟩] ++ attempt.purpose.yield ++
          [.finish attempt.purpose (.succeeded outcome)])),
        .finished (.succeeded outcome)⟩ := by
    simp [conclude, Turn.after, release_eq_yield, same, Action.say]
  rw [turned]
  exact .succeeds speech

/-- A turn that concludes with a failure, after some log lines. -/
theorem conclude_error_nextTurn (attempt : Attempt) (awaited : Awaited) (failure : Failure)
    (first : List Action) (quiet : ∀ action ∈ first, action.isRemark = true)
    (tried : failure ≠ .purchaseInProgress ∧ ∀ violation, failure ≠ .contract violation) :
    attempt.NextTurn awaited ((attempt.conclude (.error failure)).after first) := by
  have turned : ∃ moved line, (∀ action ∈ moved, action.isRemark = true) ∧
      (attempt.conclude (.error failure)).after first =
        ⟨first ++ (hangUp ++ (moved ++ [.report failure, .log line] ++ attempt.purpose.yield ++
            [.finish attempt.purpose (.failed failure)])),
          .finished (.failed failure)⟩ := by
    by_cases terminal : attempt.state.isTerminal = true
    · exact ⟨[], _, by simp,
        by simp [conclude, terminal, Turn.after, release_eq_yield, Action.say]; rfl⟩
    · exact ⟨[(attempt.move .failed).2], _, by simp [move],
        by simp [conclude, terminal, Turn.after, release_eq_yield, Action.say, move]; rfl⟩
  obtain ⟨moved, line, still, turned⟩ := turned
  rw [turned]
  exact .fails quiet still tried

theorem after_after (turn : Turn) (first second : List Action) :
    (turn.after second).after first = turn.after (first ++ second) := by
  simp [Turn.after]

/-- A response that reports no success is a failure of the stage, with one log line. -/
theorem check_error {stage : Stage} {result : Billing.Result} {line : LogLine} {failure : Failure}
    (refused : check stage result = .error (line, failure)) :
    failure = .unavailable stage result ∨ failure = .unexpected stage result := by
  unfold check at refused
  split at refused <;> simp_all

/-- The log lines about unrequested records are remarks. -/
theorem requested_remarks (attempt : Attempt) (response : Billing.Response) :
    ∀ action ∈ (attempt.requested response).2, action.isRemark = true := by
  intro action member
  unfold requested at member
  split at member
  · obtain ⟨sku, _, rfl⟩ := List.mem_map.mp member
    rfl
  · simp only [List.mem_singleton] at member
    subst member
    rfl

/-- An attempt goes on with the records of products of its catalog. -/
theorem requested_eq (attempt : Attempt) (response : Billing.Response) :
    (attempt.requested response).1 = response.recordsFor attempt.catalog := by
  have known : ∀ id, (attempt.catalog.find? id).isSome = decide (id ∈ attempt.catalog.ids) := by
    intro id
    rw [Bool.eq_iff_iff]
    simp [Catalog.Canonical.find?, Catalog.Canonical.ids]
  unfold requested Billing.Response.recordsFor
  cases response.details with
  | none => rfl
  | some details => simp [known]

theorem deliver_finished (attempt : Attempt) (details : List Billing.Sku) :
    ∃ ending, (attempt.deliver details).rest = .finished ending := by
  cases details <;> exact ⟨_, rfl⟩

/-- The next turn of a lookup whose query was answered. -/
theorem deliver_nextTurn (attempt : Attempt) (awaited : Awaited) (details : List Billing.Sku)
    (dropped : List Action) (quiet : ∀ action ∈ dropped, action.isRemark = true) :
    attempt.NextTurn awaited ((attempt.deliver details).after dropped) := by
  unfold deliver
  split
  · rw [after_after]
    refine conclude_ok_nextTurn attempt _ awaited .notFound _ rfl fun action member => ?_
    rcases List.mem_append.mp member with member | member
    · exact .inl (quiet action member)
    · simp only [List.mem_singleton] at member
      exact .inl (by rw [member]; rfl)
  · rw [after_after]
    refine conclude_ok_nextTurn attempt _ awaited _ _ rfl fun action member => ?_
    rcases List.mem_append.mp member with member | member
    · exact .inl (quiet action member)
    · simp only [List.mem_cons, List.not_mem_nil, or_false] at member
      rcases member with rfl | rfl
      · exact .inl rfl
      · exact .inr ⟨_, rfl⟩

/-- The next turn of a purchase whose query was answered. -/
theorem launch_nextTurn (attempt : Attempt) (details : List Billing.Sku)
    (dropped : List Action) (quiet : ∀ action ∈ dropped, action.isRemark = true) :
    attempt.NextTurn .offers ((attempt.launch details).after dropped) := by
  unfold launch
  split
  · rw [after_after]
    refine conclude_ok_nextTurn attempt _ .offers .notFound _ rfl fun action member => ?_
    rcases List.mem_append.mp member with member | member
    · exact .inl (quiet action member)
    · simp only [List.mem_cons, List.not_mem_nil, or_false] at member
      rcases member with rfl | rfl <;> exact .inl rfl
  · next sku =>
    have said : ∀ action ∈ dropped ++ [(attempt.move .offerSelected).2],
        action.isRemark = true := by
      simpa [move, or_imp, forall_and] using quiet
    have turned : Turn.after
        ⟨[(attempt.move .offerSelected).2, .ask (.launch sku attempt.presentation)],
          .waiting (attempt.move .offerSelected).1 (.launch sku)⟩ dropped =
        ⟨dropped ++ [(attempt.move .offerSelected).2] ++
            [.ask (.launch sku attempt.presentation)],
          .waiting (attempt.move .offerSelected).1 (.launch sku)⟩ := by
      simp [Turn.after]
    exact turned ▸ .asks said rfl rfl rfl
  · exact conclude_error_nextTurn attempt .offers _ dropped quiet (by simp)

section Resume

variable {response : Billing.Response}

/-- An answer that reports no success concludes the attempt, after some log lines. -/
theorem resume_refused (settings : Settings) (attempt : Attempt) {awaited : Awaited}
    {line : LogLine} {failure : Failure}
    (refused : check awaited.stage response.result = .error (line, failure)) :
    ∃ first, (∀ action ∈ first, action.isRemark = true) ∧
      attempt.resume settings awaited response =
        (attempt.conclude (.error failure)).after first := by
  unfold resume
  simp only [refused]
  refine ⟨_, ?_, rfl⟩
  intro action member
  rcases List.mem_append.mp member with member | member
  · cases awaited <;> simp_all
  · simp_all

variable {settings : Settings} {attempt : Attempt}

theorem resume_setup (passed : check .connect response.result = .ok ()) :
    attempt.resume settings .setup response = attempt.query settings := by
  simp only [resume, Awaited.stage, passed]

/-- An answer to the query is followed up by what the call is for. -/
theorem resume_offers (passed : check .queryOffers response.result = .ok ()) :
    attempt.resume settings .offers response =
      match attempt.purpose with
      | .lookup => (attempt.deliver (attempt.requested response).1).after
          (attempt.requested response).2
      | .purchase => (attempt.launch (attempt.requested response).1).after
          (attempt.requested response).2 := by
  cases purpose : attempt.purpose <;> simp only [resume, Awaited.stage, passed, purpose]

theorem resume_launch {sku : Billing.Sku}
    (passed : check .launchPurchase response.result = .ok ()) :
    attempt.resume settings (.launch sku) response =
      ((attempt.move .purchaseLaunched).1.conclude (.ok (.purchaseLaunched (.ofSku sku)))).after
        [.say .debug ("launchBillingFlow: " ++ response.result.display),
          (attempt.move .purchaseLaunched).2] := by
  simp only [resume, Awaited.stage, passed]
  rfl

/-- An attempt leads on only after an answer that reports success: from the connection to the
query, and in a purchase from the query to the launch, if exactly one record was found. -/
theorem resume_waits {awaited ahead : Awaited} {later : Attempt}
    (waits : (attempt.resume settings awaited response).rest = .waiting later ahead) :
    check awaited.stage response.result = .ok () ∧
      (awaited = .setup ∧ attempt.resume settings awaited response = attempt.query settings ∨
        awaited = .offers ∧ attempt.purpose = .purchase ∧ ∃ record,
          response.recordsFor attempt.catalog = [record] ∧
          attempt.resume settings awaited response =
            (attempt.launch [record]).after (attempt.requested response).2) := by
  cases checked : check awaited.stage response.result with
  | error refusal =>
      obtain ⟨first, _, same⟩ := resume_refused settings attempt checked
      simp [same, conclude, Turn.after] at waits
  | ok passed =>
      refine ⟨rfl, ?_⟩
      cases awaited with
      | setup => exact .inl ⟨rfl, resume_setup checked⟩
      | launch sku =>
          rw [resume_launch checked] at waits
          simp [conclude, Turn.after] at waits
      | offers =>
          rw [resume_offers checked, requested_eq] at waits ⊢
          generalize response.recordsFor attempt.catalog = records at waits ⊢
          cases purpose : attempt.purpose with
          | lookup =>
              obtain ⟨ending, ends⟩ := attempt.deliver_finished records
              simp [purpose, ends, Turn.after] at waits
          | purchase =>
              refine .inr ⟨rfl, rfl, ?_⟩
              cases records with
              | nil => simp [purpose, launch, conclude, Turn.after] at waits
              | cons record others =>
                  cases others with
                  | nil => exact ⟨record, rfl, rfl⟩
                  | cons => simp [purpose, launch, conclude, Turn.after] at waits

/-- An answer that reports no success is followed by the end of the attempt. -/
theorem resume_refused_nextTurn {awaited : Awaited} {line : LogLine} {failure : Failure}
    (refused : check awaited.stage response.result = .error (line, failure)) :
    attempt.NextTurn awaited (attempt.resume settings awaited response) := by
  have tried : failure ≠ .purchaseInProgress ∧ ∀ violation, failure ≠ .contract violation := by
    rcases check_error refused with rfl | rfl <;> simp
  obtain ⟨first, quiet, same⟩ := resume_refused settings attempt refused
  rw [same]
  exact conclude_error_nextTurn attempt awaited failure first quiet tried

/-- An answer that reports success is followed by the next stage, or by the end. -/
theorem resume_passed_nextTurn {awaited : Awaited}
    (passed : check awaited.stage response.result = .ok ()) :
    attempt.NextTurn awaited (attempt.resume settings awaited response) := by
  cases awaited with
  | setup =>
      have said : ∀ action ∈ [(attempt.move .connected).2,
          .say .debug ("querying " ++ toString attempt.catalog.ids.length ++ " sku(s) of type " ++
            settings.skuType.word ++ ": " ++ Text.quotedList attempt.catalog.ids)],
          action.isRemark = true := by
        simp [move]
      rw [resume_setup passed]
      exact .asks said rfl rfl rfl
  | offers =>
      rw [resume_offers passed]
      cases purpose : attempt.purpose with
      | lookup => exact deliver_nextTurn attempt .offers _ _ (attempt.requested_remarks response)
      | purchase => exact launch_nextTurn attempt _ _ (attempt.requested_remarks response)
  | launch sku =>
      rw [resume_launch passed]
      refine conclude_ok_nextTurn attempt _ (.launch sku) _ _ rfl fun action member => .inl ?_
      simp only [List.mem_cons, List.not_mem_nil, or_false] at member
      rcases member with rfl | rfl <;> rfl

end Resume

/-- Every later turn has one of the forms. -/
theorem Reacts.nextTurn {settings : Settings} {attempt : Attempt} {awaited : Awaited}
    {turn : Turn} (reaction : attempt.Reacts settings awaited turn) :
    attempt.NextTurn awaited turn := by
  cases reaction with
  | answered response =>
      cases checked : check awaited.stage response.result with
      | error refusal => exact resume_refused_nextTurn checked
      | ok _ => exact resume_passed_nextTurn checked
  | expired => exact conclude_error_nextTurn attempt awaited _ _ (by simp) (by simp)
  | cancelled =>
      have turned : attempt.cancel =
          ⟨hangUp ++ (attempt.purpose.yield ++ [.finish attempt.purpose .cancelled]),
            .finished .cancelled⟩ := by
        simp [cancel, release_eq_yield]
      rw [turned]
      exact .cancelled

end Attempt

end Storefront
